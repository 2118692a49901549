import DebugLink.Proofs.Settlement

/-!
# Correlation: every receipt gets one outcome, which is its own

As long as no id has been given twice, a command is settled by its fate. So the pending requests are
those without a fate, and the outcomes that were handed out or wait to be are the fates of the
others, each once.

Main statement: `correlated_play`.
-/

namespace DebugLink

/-- A command is given up by the piece of work for that. -/
theorem Turn.abandon_used {engine : Engine} {used left : List Work} {entries : List Entry}
    {after : Connection} (turn : Turn engine used entries left after) {id : UInt32}
    {failure : Failure} (mem : .performed (.abandon id failure) ∈ entries) :
    .abandon id failure ∈ used := by
  cases turn with
  | aside keeps calm quiet free => exact absurd (quiet _ mem) (by simp [Entry.aside, Work.aside])
  | abandon id' failure' keeps => simpa using mem
  | @settle work _ request outcome settles keeps => simpa using mem
  | issue command data origin live keeps => obtain rfl | rfl := origin <;> simp at mem
  | @take message rest _ receiving first keeps => cases message <;> simp [Message.entries] at mem
  | _ => simp at mem

namespace World

variable {world world' : World}

/-- The requests and the outcomes are those that the fates of the commands call for. -/
structure Correlated (world : World) : Prop where
  pending : world.connection.pending.map (Request.receipt world.connection.name) =
    (receipts world.journal).filter fun receipt => (fate receipt world.journal).isNone
  owed : ∀ serial outcome, (serial, outcome) ∈ world.owed ↔
    ∃ receipt ∈ receipts world.journal,
      receipt.serial = serial ∧ fate receipt world.journal = some outcome
  once : (world.owed.map (·.1)).Nodup

namespace Correlated

theorem of_mem_pending (correlated : Correlated world) {request : Request}
    (mem : request ∈ world.connection.pending) :
    request.receipt world.connection.name ∈ receipts world.journal ∧
      fate (request.receipt world.connection.name) world.journal = none := by
  have mem := List.mem_map_of_mem (f := Request.receipt world.connection.name) mem
  rw [correlated.pending, List.mem_filter] at mem
  exact ⟨mem.1, Option.isNone_iff_eq_none.mp mem.2⟩

theorem exists_pending (correlated : Correlated world) {receipt : Receipt}
    (mem : receipt ∈ receipts world.journal) (undecided : fate receipt world.journal = none) :
    ∃ request ∈ world.connection.pending, request.receipt world.connection.name = receipt := by
  rw [← List.mem_map, correlated.pending, List.mem_filter]
  exact ⟨mem, Option.isNone_iff_eq_none.mpr undecided⟩

/-- The next id is not that of a pending request. -/
theorem id_fresh (correlated : Correlated world) (numbered : Numbered world)
    (few : world.connection.issued + 1 < UInt32.size) {request : Request}
    (mem : request ∈ world.connection.pending) : request.id ≠ world.connection.nextId := by
  intro same
  obtain ⟨serial, below, eq⟩ := numbered.mem_receipts.mp (correlated.of_mem_pending mem).1
  have id : request.id = idOf serial := congrArg Receipt.id eq
  rw [id, numbered.next] at same
  have same := idOf_inj (by omega) (by omega) same
  omega

/-- Nothing is pending under the next id, so nothing is replaced. -/
theorem replaced_eq_nil (correlated : Correlated world) (numbered : Numbered world)
    (few : world.connection.issued + 1 < UInt32.size) : world.connection.replaced = [] := by
  rw [Connection.replaced, List.filter_eq_nil_iff]
  intro request mem
  simpa using correlated.id_fresh numbered few mem

end Correlated

theorem issued_le (step : RequestStep world world') :
    world.connection.issued ≤ world'.connection.issued := by
  cases step with
  | quiet journal silent ledger owed =>
    exact Nat.le_of_eq (congrArg Ledger.issued ledger).symm
  | issue command data live journal silent ledger owed =>
    have issued : world'.connection.issued = world.connection.issued + 1 :=
      congrArg Ledger.issued ledger
    omega
  | decide id outcome journal issue verdict ledger owed =>
    exact Nat.le_of_eq (congrArg Ledger.issued ledger).symm
  | down live journal ledger owed =>
    exact Nat.le_of_eq (congrArg Ledger.issued ledger).symm

/-- In a run that issues no more commands than there are ids, what settles a command is its fate. -/
theorem correlated_play (config : Config) (moves : List Move)
    (few : (play config moves).connection.issued < UInt32.size) :
    Correlated (play config moves) := by
  have settled := settled_play config moves
  have near (receipt : Receipt) :
      (play config moves).connection.issued ≤ receipt.serial + idCount := by
    rw [idCount]
    omega
  have same {receipt} (mem : receipt ∈ receipts (play config moves).journal) :=
    (numbered_play config moves).settlement_eq_fate mem (near receipt)
  refine ⟨?_, fun serial outcome => ?_, settled.once⟩
  · rw [settled.pending]
    exact List.filter_congr fun receipt mem => by rw [same mem]
  · rw [settled.owed]
    exact exists_congr fun receipt => and_congr_right fun mem => by rw [same mem]

/-! ## What a receipt comes to -/

namespace Correlated

variable {receipt : Receipt} {outcome : Except Failure Bytes}

/-- An outcome that was handed out is the fate of its receipt. -/
theorem fate_of_owed (correlated : Correlated world) (numbered : Numbered world)
    (mem : receipt ∈ receipts world.journal) (owed : (receipt.serial, outcome) ∈ world.owed) :
    fate receipt world.journal = some outcome := by
  obtain ⟨other, issued, same, decided⟩ := (correlated.owed _ _).mp owed
  rwa [numbered.serial_inj mem issued same.symm]

/-- At most one outcome is handed out for a receipt. -/
theorem outcomes_le_one (correlated : Correlated world) (serial : Nat) :
    (world.connection.outcomes.filter (·.1 == serial)).length ≤ 1 := by
  have once := correlated.once
  rw [World.owed, List.map_append, List.nodup_append] at once
  rw [filter_eq_find once.1]
  cases world.connection.outcomes.find? (·.1 == serial) <;> simp

/-- What is decided has been handed out, or there is a piece of work that will do so. -/
theorem handed_or_waits (correlated : Correlated world)
    (mem : receipt ∈ receipts world.journal) (decided : fate receipt world.journal = some outcome) :
    world.connection.outcome? receipt = some outcome ∨
      ∃ work ∈ world.works, work.owes? = some (receipt.serial, outcome) := by
  have owed := (correlated.owed receipt.serial outcome).mpr ⟨receipt, mem, rfl, decided⟩
  obtain handed | waits := List.mem_append.mp owed
  · left
    have once := correlated.once
    rw [World.owed, List.map_append, List.nodup_append] at once
    exact lookup_eq_of_nodup once.1 handed
  · right
    exact List.mem_filterMap.mp waits

/-- The ids in the table of pending requests are those of the receipts without a fate. -/
theorem pending_iff (correlated : Correlated world) (id : UInt32) :
    (∃ request ∈ world.connection.pending, request.id = id) ↔
      ∃ receipt ∈ receipts world.journal, receipt.id = id ∧ fate receipt world.journal = none := by
  constructor
  · rintro ⟨request, mem, rfl⟩
    obtain ⟨issued, undecided⟩ := correlated.of_mem_pending mem
    exact ⟨_, issued, rfl, undecided⟩
  · rintro ⟨receipt, mem, rfl, undecided⟩
    obtain ⟨request, pending, rfl⟩ := correlated.exists_pending mem undecided
    exact ⟨request, pending, rfl⟩

end Correlated

/-- Nothing is pending on a dead connection. -/
theorem pending_of_dead (config : Config) (moves : List Move)
    (dead : (play config moves).connection.dead = true) :
    (play config moves).connection.pending = [] := by
  revert dead
  refine turn_induction (P := fun world => world.connection.dead = true →
    world.connection.pending = []) (fun _ => rfl) (fun {world world'} _ turns ih dead => ?_) moves
  cases turns.request with
  | quiet journal silent ledger owed =>
    have dead' : world.connection.dead = true := (congrArg Ledger.dead ledger).symm.trans dead
    exact (congrArg Ledger.pending ledger).trans (ih dead')
  | issue command data live journal silent ledger owed =>
    have dead' : world.connection.dead = true := (congrArg Ledger.dead ledger).symm.trans dead
    rw [live] at dead'
    cases dead'
  | decide id outcome journal issue verdict ledger owed =>
    have dead' : world.connection.dead = true := (congrArg Ledger.dead ledger).symm.trans dead
    have pending : world'.connection.pending = world.connection.pending.filter (·.id != id) :=
      congrArg Ledger.pending ledger
    rw [pending, ih dead', List.filter_nil]
  | down live journal ledger owed => exact congrArg Ledger.pending ledger

/-- A command is given up only after its packet could not be written, or after the connection was
torn down. -/
theorem abandoned_play (config : Config) (moves : List Move) {before after : List Entry}
    {id : UInt32} {failure : Failure}
    (split : (play config moves).journal = before ++ .performed (.abandon id failure) :: after) :
    .wrote id (.error failure) ∈ before ∨ .tornDown ∈ before := by
  induction moves using List.reverseRecOn generalizing after with
  | nil => simp [ofConfig] at split
  | append_singleton moves move ih =>
    have shutdown := shutdown_play config moves
    obtain ⟨used, entries, left, turn, journal, replaced⟩ := turns_play config moves move
    obtain ⟨earlier, later, works, -⟩ := replaced.works
    rw [play_append, journal] at split
    obtain ⟨rest, eq, -⟩ | ⟨added, rfl, eq⟩ := split_append split
    · exact ih eq
    · -- It is this step that gives the command up, so a piece of work for that was waiting.
      have waits : .abandon id failure ∈ (play config moves).works := by
        rw [works]
        refine List.mem_append_left _ (List.mem_append_right _ (turn.abandon_used ?_))
        rw [eq]
        exact List.mem_append_right _ List.mem_cons_self
      obtain dead | failed := shutdown.givenUp waits
      · exact .inr (List.mem_append_left _ (shutdown.died.mp dead))
      · exact .inl (List.mem_append_left _ failed)

/-- As long as the connection is up, and the command did not fail to be written, its fate can only
be its reply. -/
theorem reply_of_decided (config : Config) (moves : List Move) {receipt : Receipt}
    (up : (play config moves).connection.dead = false)
    (unfailed : ∀ failure, .wrote receipt.id (.error failure) ∉ (play config moves).journal)
    (decided : (fate receipt (play config moves).journal).isSome) :
    ∃ reply, .performed (.replied reply) ∈ since receipt (play config moves).journal ∧
      reply.id = receipt.id := by
  have lasting : .tornDown ∉ (play config moves).journal := by
    rw [← (shutdown_play config moves).died, up]
    exact Bool.false_ne_true
  obtain ⟨outcome, decided⟩ := Option.isSome_iff_exists.mp decided
  obtain ⟨entry, mem, verdict⟩ := List.exists_of_findSome?_eq_some decided
  have here := since_suffix.subset mem
  cases entry with
  | performed work =>
    cases work with
    | replied reply =>
      refine ⟨reply, mem, ?_⟩
      by_contra different
      simp [Entry.verdict?, different] at verdict
    | abandon id failure =>
      obtain rfl : id = receipt.id := by
        by_contra different
        simp [Entry.verdict?, different] at verdict
      obtain ⟨before, after, split⟩ := List.append_of_mem here
      have unfailed := unfailed failure
      rw [split] at lasting unfailed
      obtain failed | down := abandoned_play config moves split
      · exact absurd (List.mem_append_left _ failed) unfailed
      · exact absurd (List.mem_append_left _ down) lasting
    | _ => cases verdict
  | tornDown => exact absurd here lasting
  | _ => cases verdict

end World

end DebugLink
