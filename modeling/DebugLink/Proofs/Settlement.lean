import DebugLink.Proofs.Callers
import DebugLink.Proofs.Recurrence

/-!
# Settlement: what becomes of a command in a run of any length

A command is pending until it is settled. Its id meets a verdict, or, once the ids have come round,
is given to another command: then its caller is told that the connection is gone. `settlement` reads
off a journal which came first, and `Settled` says that this is what the connection does with it:
the pending requests are those that are not settled, and the outcomes that were handed out or wait
to be are those of the others, each once.

Here no bound is put on the number of commands. As long as there are no more of them than ids, what
settles a command is its fate (`Numbered.settlement_eq_fate`).

Main statements: `settled_play`, `exists_outcome`.
-/

namespace DebugLink

/-- What the elements with one value of a function come to if no two have the same value. -/
theorem filter_eq_find {α β : Type} [DecidableEq β] {f : α → β} {b : β} {list : List α}
    (distinct : (list.map f).Nodup) :
    list.filter (f · == b) = (list.find? (f · == b)).toList := by
  induction list with
  | nil => rfl
  | cons a rest ih =>
    rw [List.map_cons, List.nodup_cons] at distinct
    by_cases here : f a = b
    · have others : rest.filter (f · == b) = [] := by
        rw [List.filter_eq_nil_iff]
        rintro other mem same
        exact distinct.1 (here ▸ eq_of_beq same ▸ List.mem_map_of_mem mem)
      rw [List.filter_cons_of_pos (by simpa using here),
        List.find?_cons_of_pos (by simpa using here),
        others]
      rfl
    · rw [List.filter_cons_of_neg (by simpa using here),
        List.find?_cons_of_neg (by simpa using here),
        ih distinct.2]

/-- Where no two entries share a key, an entry is found under its own. -/
theorem lookup_eq_of_nodup {α β : Type} [BEq α] [LawfulBEq α] {entries : List (α × β)} {key : α}
    {value : β} (distinct : (entries.map (·.1)).Nodup) (mem : (key, value) ∈ entries) :
    entries.lookup key = some value := by
  obtain ⟨before, after, rfl⟩ := List.append_of_mem mem
  refine List.lookup_eq_some_iff.mpr ⟨before, after, rfl, fun other mem => ?_⟩
  rw [List.map_append, List.nodup_append] at distinct
  simpa using (distinct.2.2 _ (List.mem_map_of_mem mem) key (by simp)).symm

/-! ## What a journal says -/

/-- The outcome that an entry brings a request that is pending under an id: a verdict, or that
another command has got the id. -/
def Entry.settles? (id : UInt32) : Entry → Option (Except Failure Bytes)
  | .issued receipt _ _ => if receipt.id = id then some (.error .disconnected) else none
  | entry => entry.verdict? id

/-- The outcome of the command with a receipt, once it is settled. -/
def settlement (receipt : Receipt) (journal : List Entry) : Option (Except Failure Bytes) :=
  (since receipt journal).findSome? (Entry.settles? receipt.id)

theorem Entry.settles_of_issue {entry : Entry} (issue : entry.issue? = none) (id : UInt32) :
    entry.settles? id = entry.verdict? id := by
  cases entry with
  | issued receipt command data => cases issue
  | _ => rfl

theorem Entry.settles_of_silent {entry : Entry} (silent : entry.Silent) (id : UInt32) :
    entry.settles? id = none :=
  (Entry.settles_of_issue silent.1 id).trans (silent.2 id)

section

variable {journal entries : List Entry} {receipt : Receipt}

theorem findSome_settles_of_silent (silent : ∀ entry ∈ entries, entry.Silent) (id : UInt32) :
    entries.findSome? (Entry.settles? id) = none :=
  List.findSome?_eq_none_iff.mpr fun entry mem => Entry.settles_of_silent (silent entry mem) id

/-- A command is settled once. -/
theorem settlement_append (mem : receipt ∈ receipts journal) :
    settlement receipt (journal ++ entries) =
      (settlement receipt journal).or (entries.findSome? (Entry.settles? receipt.id)) := by
  rw [settlement, since_append_of_mem mem, List.findSome?_append, settlement]

/-- A command that has just been issued is not settled. -/
theorem settlement_issued (fresh : receipt ∉ receipts (journal ++ entries)) (command : Command)
    (data : Bytes) :
    settlement receipt (journal ++ (entries ++ [.issued receipt command data])) = none := by
  rw [settlement, ← List.append_assoc, since_append_of_not_mem fresh]
  simp [since, Entry.issue?]

/-- Whoever meets a verdict is settled. -/
theorem fate_of_unsettled (unsettled : settlement receipt journal = none) :
    fate receipt journal = none := by
  rw [settlement, List.findSome?_eq_none_iff] at unsettled
  rw [fate, List.findSome?_eq_none_iff]
  intro entry mem
  have none := unsettled entry mem
  cases entry with
  | issued other command data => rfl
  | _ => exact none

theorem receipts_cons (entry : Entry) (rest : List Entry) :
    receipts (entry :: rest) = (entry.issue?.map (·.1)).toList ++ receipts rest := by
  rw [receipts, issues, filterMap_cons_toList, List.map_append]
  cases entry.issue? <;> rfl

/-- The commands behind the one with a receipt. -/
theorem exists_receipts_since (mem : receipt ∈ receipts journal) :
    ∃ before, receipts journal = before ++ receipt :: receipts (since receipt journal) := by
  induction journal with
  | nil => cases mem
  | cons entry rest ih =>
    rw [since, receipts_cons]
    split
    · next here => exact ⟨[], by rw [here]; rfl⟩
    · next other =>
      rw [receipts_cons, List.mem_append, Option.mem_toList] at mem
      obtain ⟨before, eq⟩ := ih (mem.resolve_left other)
      exact ⟨_ ++ before, by rw [eq, List.append_assoc]⟩

end

namespace World

variable {world world' : World}

namespace Numbered

variable {receipt other : Receipt}

/-- The commands behind another have other ids, as long as they are fewer than the ids. -/
theorem id_ne (numbered : Numbered world) (mem : receipt ∈ DebugLink.receipts world.journal)
    (near : world.connection.issued ≤ receipt.serial + idCount)
    (later : other ∈ DebugLink.receipts (since receipt world.journal)) : other.id ≠ receipt.id := by
  have ordered : (DebugLink.receipts world.journal).Pairwise (·.serial < ·.serial) := by
    rw [numbered.receipts, List.pairwise_map]
    exact List.pairwise_lt_range
  obtain ⟨before, split⟩ := exists_receipts_since mem
  have known : other ∈ DebugLink.receipts world.journal := by
    rw [split]
    exact List.mem_append_right _ (List.mem_cons_of_mem _ later)
  rw [split, List.pairwise_append, List.pairwise_cons] at ordered
  have behind : receipt.serial < other.serial := ordered.2.1.1 other later
  obtain ⟨first, -, rfl⟩ := numbered.mem_receipts.mp mem
  obtain ⟨second, below, rfl⟩ := numbered.mem_receipts.mp known
  simp only [Connection.receiptOf] at near behind ⊢
  intro same
  have round := (idOf_eq_iff behind (by omega)).mp same.symm
  omega

/-- As long as its id has not come round, what settles a command is its fate. -/
theorem settlement_eq_fate (numbered : Numbered world)
    (mem : receipt ∈ DebugLink.receipts world.journal)
    (near : world.connection.issued ≤ receipt.serial + idCount) :
    settlement receipt world.journal = fate receipt world.journal := by
  have same : ∀ entry ∈ since receipt world.journal,
      entry.settles? receipt.id = entry.verdict? receipt.id := by
    intro entry later
    cases entry with
    | issued other command data =>
      refine if_neg (numbered.id_ne mem near ?_)
      exact DebugLink.mem_receipts (List.mem_filterMap.mpr ⟨_, later, rfl⟩)
    | _ => rfl
  rw [settlement, fate]
  generalize since receipt world.journal = entries at same
  induction entries with
  | nil => rfl
  | cons entry rest ih =>
    rw [List.findSome?_cons, List.findSome?_cons, same entry List.mem_cons_self,
      ih fun entry mem => same entry (List.mem_cons_of_mem _ mem)]

end Numbered

/-- The requests and the outcomes are what the journal says. -/
structure Settled (world : World) : Prop where
  ids : (world.connection.pending.map (·.id)).Nodup
  pending : world.connection.pending.map (Request.receipt world.connection.name) =
    (receipts world.journal).filter fun receipt => (settlement receipt world.journal).isNone
  owed : ∀ serial outcome, (serial, outcome) ∈ world.owed ↔
    ∃ receipt ∈ receipts world.journal,
      receipt.serial = serial ∧ settlement receipt world.journal = some outcome
  once : (world.owed.map (·.1)).Nodup

namespace Settled

theorem of_mem_pending (settled : Settled world) {request : Request}
    (mem : request ∈ world.connection.pending) :
    request.receipt world.connection.name ∈ receipts world.journal ∧
      settlement (request.receipt world.connection.name) world.journal = none := by
  have mem := List.mem_map_of_mem (f := Request.receipt world.connection.name) mem
  rw [settled.pending, List.mem_filter] at mem
  exact ⟨mem.1, Option.isNone_iff_eq_none.mp mem.2⟩

theorem exists_pending (settled : Settled world) {receipt : Receipt}
    (mem : receipt ∈ receipts world.journal) (unsettled : settlement receipt world.journal = none) :
    ∃ request ∈ world.connection.pending, request.receipt world.connection.name = receipt := by
  rw [← List.mem_map, settled.pending, List.mem_filter]
  exact ⟨mem, Option.isNone_iff_eq_none.mpr unsettled⟩

/-- Nothing is owed to a request that is pending. -/
theorem not_owed (settled : Settled world) (numbered : Numbered world) {request : Request}
    (mem : request ∈ world.connection.pending) : request.serial ∉ world.owed.map (·.1) := by
  intro owed
  obtain ⟨⟨serial, outcome⟩, owed, rfl⟩ := List.mem_map.mp owed
  obtain ⟨receipt, issued, same, outcome⟩ := (settled.owed _ _).mp owed
  obtain ⟨issued', unsettled⟩ := settled.of_mem_pending mem
  rw [numbered.serial_inj issued issued' same, unsettled] at outcome
  cases outcome

/-- No two requests that are pending have the same number. -/
theorem nodup_serials (settled : Settled world) (numbered : Numbered world) :
    (world.connection.pending.map (·.serial)).Nodup := by
  have sub : (world.connection.pending.map (Request.receipt world.connection.name)).Sublist
      (receipts world.journal) := by
    rw [settled.pending]
    exact List.filter_sublist
  have nodup := (sub.map (·.serial)).nodup numbered.nodup_serials
  rwa [List.map_map] at nodup

/-- The request with an id is the only one that is pending under it. -/
theorem filter_id (settled : Settled world) (id : UInt32) :
    world.connection.pending.filter (·.id == id) = (world.connection.request? id).toList :=
  filter_eq_find settled.ids

/-! ## What is kept by each step -/

/-- Some of the ids are hit, and the requests pending under them get one outcome. The commands that
are issued meanwhile are not settled. -/
theorem change (settled : Settled world) (numbered : Numbered world) {entries : List Entry}
    (hit : UInt32 → Bool) (outcome : Except Failure Bytes)
    (journal : world'.journal = world.journal ++ entries)
    (hits : ∀ id, entries.findSome? (Entry.settles? id) = if hit id then some outcome else none)
    (fresh : ∀ receipt ∈ receipts entries, settlement receipt world'.journal = none)
    (ids : (world'.connection.pending.map (·.id)).Nodup)
    (pending : world'.connection.pending.map (Request.receipt world'.connection.name) =
      (world.connection.pending.filter fun request => !hit request.id).map
        (Request.receipt world.connection.name) ++ receipts entries)
    (owed : world'.owed.Perm (world.owed ++
      (world.connection.pending.filter fun request => hit request.id).map
        fun request => (request.serial, outcome))) :
    Settled world' := by
  have receipts' : receipts world'.journal = receipts world.journal ++ receipts entries := by
    rw [journal, receipts_append]
  have later {receipt} (mem : receipt ∈ receipts world.journal) :
      settlement receipt world'.journal =
        (settlement receipt world.journal).or (if hit receipt.id then some outcome else none) := by
    rw [journal, settlement_append mem, hits]
  refine ⟨ids, ?_, fun serial result => ?_, ?_⟩
  · have kept : (world.connection.pending.filter fun request => !hit request.id).map
        (Request.receipt world.connection.name) =
          ((receipts world.journal).filter fun receipt =>
            (settlement receipt world.journal).isNone).filter fun receipt => !hit receipt.id := by
      rw [← settled.pending, List.filter_map]
      rfl
    rw [pending, receipts', List.filter_append, kept, List.filter_filter]
    congr 1
    · refine List.filter_congr fun receipt mem => ?_
      rw [later mem]
      cases settlement receipt world.journal <;> cases hit receipt.id <;> rfl
    · symm
      rw [List.filter_eq_self]
      intro receipt mem
      rw [fresh receipt mem]
      rfl
  · -- What is owed anew is the outcome, to those that are hit.
    rw [owed.mem_iff, List.mem_append, settled.owed, receipts']
    constructor
    · rintro (⟨receipt, mem, same, known⟩ | owing)
      · refine ⟨receipt, List.mem_append_left _ mem, same, ?_⟩
        rw [later mem, known, Option.some_or]
      · obtain ⟨request, mem, owing⟩ := List.mem_map.mp owing
        obtain ⟨rfl, rfl⟩ := Prod.mk.inj owing
        obtain ⟨mem, hits⟩ := List.mem_filter.mp mem
        obtain ⟨issued, unsettled⟩ := settled.of_mem_pending mem
        refine ⟨_, List.mem_append_left _ issued, rfl, ?_⟩
        rw [later issued, unsettled, Option.none_or]
        exact if_pos hits
    · rintro ⟨receipt, mem, same, known⟩
      obtain mem | new := List.mem_append.mp mem
      · rw [later mem] at known
        cases before : settlement receipt world.journal with
        | some result =>
          rw [before, Option.some_or] at known
          exact .inl ⟨receipt, mem, same, before.trans known⟩
        | none =>
          rw [before, Option.none_or] at known
          obtain ⟨request, waits, rfl⟩ := settled.exists_pending mem before
          split at known
          · next hits =>
            cases known
            refine .inr (List.mem_map.mpr ⟨request, List.mem_filter.mpr ⟨waits, hits⟩, ?_⟩)
            rw [← same]
            rfl
          · cases known
      · rw [fresh receipt new] at known
        cases known
  · -- Nothing was owed yet to a request that is pending.
    rw [(owed.map _).nodup_iff, List.map_append, List.nodup_append, List.map_map]
    refine ⟨settled.once, ?_, ?_⟩
    · exact ((List.filter_sublist).map _).nodup (settled.nodup_serials numbered)
    · rintro serial before _ now rfl
      obtain ⟨request, mem, rfl⟩ := List.mem_map.mp now
      exact settled.not_owed numbered (List.mem_filter.mp mem).1 before

/-- A part of the requests that are pending have different ids. -/
theorem nodup_filter (settled : Settled world) (keeps : Request → Bool) :
    ((world.connection.pending.filter keeps).map (·.id)).Nodup :=
  (List.filter_sublist.map _).nodup settled.ids

theorem issue (settled : Settled world) (numbered : Numbered world) {entries : List Entry}
    {command : Command} {data : Bytes}
    (journal : world'.journal =
      world.journal ++ (entries ++ [.issued world.connection.nextReceipt command data]))
    (silent : ∀ entry ∈ entries, entry.Silent)
    (ledger : world'.connection.ledger = (world.connection.send command data).ledger)
    (owed : world'.owed.Perm (world.owed ++
      world.connection.replaced.map fun request => (request.serial, .error .disconnected))) :
    Settled world' := by
  have name : world'.connection.name = world.connection.name := congrArg Ledger.name ledger
  have pending : world'.connection.pending =
      world.connection.pending.filter (·.id != world.connection.nextId) ++
        [world.connection.nextRequest command] := congrArg Ledger.pending ledger
  have new : receipts (entries ++ [.issued world.connection.nextReceipt command data]) =
      [world.connection.nextReceipt] := by
    rw [receipts_append, receipts_of_silent silent]
    rfl
  refine settled.change numbered (fun id => id == world.connection.nextId) (.error .disconnected)
    journal (fun id => ?_) (fun receipt mem => ?_) ?_ ?_ owed
  · rw [List.findSome?_append, findSome_settles_of_silent silent, Option.none_or,
      List.findSome?_singleton]
    by_cases same : world.connection.nextId = id
    · exact (if_pos same).trans (if_pos (beq_iff_eq.mpr same.symm)).symm
    · exact (if_neg same).trans (if_neg fun eq => same (eq_of_beq eq).symm).symm
  · rw [new, List.mem_singleton] at mem
    rw [mem, journal]
    refine settlement_issued ?_ command data
    rw [receipts_append, receipts_of_silent silent, List.append_nil]
    exact numbered.fresh
  · rw [pending, List.map_append, List.nodup_append]
    refine ⟨settled.nodup_filter _, List.nodup_singleton _, fun id kept id' next => ?_⟩
    obtain ⟨request, mem, rfl⟩ := List.mem_map.mp kept
    rw [List.mem_singleton.mp next]
    exact bne_iff_ne.mp (List.mem_filter.mp mem).2
  · rw [pending, name, List.map_append, new]
    rfl

theorem step (settled : Settled world) (numbered : Numbered world)
    (step : RequestStep world world') : Settled world' := by
  cases step with
  | quiet journal silent ledger owed =>
    have name : world'.connection.name = world.connection.name := congrArg Ledger.name ledger
    have pending : world'.connection.pending = world.connection.pending :=
      congrArg Ledger.pending ledger
    have none := receipts_of_silent silent
    refine settled.change numbered (fun _ => false) (.error .disconnected) journal
      (findSome_settles_of_silent silent) (by simp [none]) (pending ▸ settled.ids) ?_
      (by simpa using owed)
    simp [pending, name, none]
  | issue command data live journal silent ledger owed =>
    exact settled.issue numbered journal silent ledger owed
  | @decide entry id outcome journal issue verdict ledger owed =>
    have name : world'.connection.name = world.connection.name := congrArg Ledger.name ledger
    have pending : world'.connection.pending = world.connection.pending.filter (·.id != id) :=
      congrArg Ledger.pending ledger
    have none : receipts [entry] = [] := by simp [receipts, issues, issue]
    refine settled.change numbered (fun other => other == id) outcome journal (fun other => ?_)
      (by simp [none]) (pending ▸ settled.nodup_filter _) ?_ ?_
    · rw [List.findSome?_singleton, Entry.settles_of_issue issue]
      exact List.findSome?_singleton.symm.trans (findSome_verdict verdict other)
    · rw [pending, name, none, List.append_nil]
      rfl
    · rw [settled.filter_id]
      cases found : world.connection.request? id <;> simpa [found] using owed
  | down live journal ledger owed =>
    have pending : world'.connection.pending = [] := congrArg Ledger.pending ledger
    refine settled.change numbered (fun _ => true) (.error .disconnected) journal
      (fun _ => rfl) (fun _ mem => by cases mem) (by simp [pending]) ?_ (by simpa using owed)
    simp [pending, receipts, issues, Entry.issue?]

end Settled

/-- In every run the pending requests are those of the commands that are not settled, and the others
have their outcomes. -/
theorem settled_play (config : Config) (moves : List Move) : Settled (play config moves) := by
  refine play_induction (P := fun _ world => Settled world) ?_ (fun moves move settled => ?_) moves
  · refine ⟨List.nodup_nil, rfl, fun serial outcome => ?_, List.nodup_nil⟩
    simp [ofConfig, owed, works, others, connection, Connection.ofConfig, receipts, issues]
  · exact settled.step (numbered_play config moves) (turns_play config moves move).request

/-! ## The outcomes that are handed out -/

/-- What is owed once is owed ever after. -/
theorem mem_owed_step {owing : Nat × Except Failure Bytes} (step : RequestStep world world')
    (owed : owing ∈ world.owed) : owing ∈ world'.owed := by
  cases step with
  | quiet journal silent ledger same => exact same.mem_iff.mpr owed
  | issue command data live journal silent ledger more =>
    exact more.mem_iff.mpr (List.mem_append_left _ owed)
  | decide id outcome journal issue verdict ledger more =>
    exact more.mem_iff.mpr (List.mem_append_left _ owed)
  | down live journal ledger more => exact more.mem_iff.mpr (List.mem_append_left _ owed)

theorem mem_owed_play (config : Config) (moves more : List Move)
    {owing : Nat × Except Failure Bytes} (owed : owing ∈ (play config moves).owed) :
    owing ∈ (play config (moves ++ more)).owed := by
  induction more using List.reverseRecOn with
  | nil => rwa [List.append_nil]
  | append_singleton more move ih =>
    rw [← List.append_assoc, play_append]
    exact mem_owed_step (turns_play config (moves ++ more) move).request ih

theorem mem_owed_of_outcome {receipt : Receipt} {outcome : Except Failure Bytes}
    (found : world.connection.outcome? receipt = some outcome) :
    (receipt.serial, outcome) ∈ world.owed := by
  obtain ⟨before, after, eq, -⟩ := List.lookup_eq_some_iff.mp found
  exact List.mem_append_left _ (by rw [eq]; simp)

/-- An outcome that was handed out is that of its command. -/
theorem Settled.settlement_of_outcome (settled : Settled world) (numbered : Numbered world)
    {receipt : Receipt} {outcome : Except Failure Bytes}
    (mem : receipt ∈ receipts world.journal)
    (found : world.connection.outcome? receipt = some outcome) :
    settlement receipt world.journal = some outcome := by
  obtain ⟨other, issued, same, known⟩ := (settled.owed _ _).mp (mem_owed_of_outcome found)
  rwa [numbered.serial_inj mem issued same.symm]

/-- Every command that is settled has its outcome as soon as the pieces of work that are left are
performed. -/
theorem exists_outcome (config : Config) (moves : List Move) :
    ∃ more : List Move, (∀ move ∈ more, performs move) ∧
      ∀ receipt ∈ receipts (play config moves).journal, ∀ outcome,
        settlement receipt (play config moves).journal = some outcome →
          (play config (moves ++ more)).connection.outcome? receipt = some outcome := by
  obtain ⟨more, all, idle⟩ := exists_idle_play config moves
  refine ⟨more, all, fun receipt mem outcome known => ?_⟩
  have owed := ((settled_play config moves).owed _ _).mpr ⟨receipt, mem, rfl, known⟩
  have owed := mem_owed_play config moves more owed
  have once := (settled_play config (moves ++ more)).once
  rw [World.owed, idle, List.filterMap_nil, List.append_nil] at owed once
  exact lookup_eq_of_nodup once owed

end World

end DebugLink
