import DebugLink.Proofs.Numbering
import Mathlib.Data.Nat.ModEq

/-!
# Recurrence: what happens when the ids come round again

There are fewer ids than a connection may issue commands, and the ids come round without a look at
the table of pending requests. A command gets the id that another had `idCount` commands before. If
that one is still pending, it is replaced: its caller is told that the connection is gone, and its
reply goes to the command that took its id.

So the pending requests are those without a fate among the last `idCount` commands (`Recent`), in
runs of any length.

Main statement: `replaced_eq_nil_iff`.
-/

namespace DebugLink

/-- The receipt that was handed out for a request. -/
def Request.receipt (name : Nat) (request : Request) : Receipt :=
  { connection := name, id := request.id, serial := request.serial }

/-- How many ids there are. -/
def idCount : Nat :=
  UInt32.size - 1

theorem idCount_pos : 0 < idCount := by decide

/-- Zero is nobody's id. -/
theorem idOf_ne_zero (serial : Nat) : idOf serial ≠ 0 := by
  intro zero
  have number := toNat_idOf serial
  rw [zero] at number
  exact absurd number (by simp)

/-- The ids have come round. -/
theorem idOf_idCount : idOf idCount = 1 := by
  rw [← UInt32.toNat_inj, toNat_idOf, idCount, Nat.mod_self]
  rfl

/-- Of a command and those that follow it, as many as there are ids, only the last has its id. -/
theorem idOf_eq_iff {first second : Nat} (before : first < second)
    (near : second ≤ first + idCount) : idOf first = idOf second ↔ second = first + idCount := by
  have same : idOf first = idOf second ↔ first % idCount = second % idCount := by
    rw [← UInt32.toNat_inj, toNat_idOf, toNat_idOf, Nat.add_right_cancel_iff]
    rfl
  rw [same]
  constructor
  · intro same
    have divides : idCount ∣ second - first :=
      (Nat.modEq_iff_dvd' (Nat.le_of_lt before)).mp same
    have most := Nat.le_of_dvd (by omega) divides
    omega
  · rintro rfl
    exact (Nat.add_mod_right first idCount).symm

namespace World

variable {world world' : World}

/-- Whether a command is one of the last that were issued, as many as there are ids, and has no
fate. -/
def recent (world : World) (receipt : Receipt) : Bool :=
  (fate receipt world.journal).isNone && decide (world.connection.issued ≤ receipt.serial + idCount)

/-- The pending requests are those of the recent commands. -/
def Recent (world : World) : Prop :=
  world.connection.pending.map (Request.receipt world.connection.name) =
    (receipts world.journal).filter world.recent

/-- Of the last commands, as many as there are ids, only the first has the id that is next. -/
theorem Numbered.id_eq_next_iff (numbered : Numbered world) {receipt : Receipt}
    (mem : receipt ∈ DebugLink.receipts world.journal)
    (near : world.connection.issued ≤ receipt.serial + idCount) :
    receipt.id = world.connection.nextId ↔
      world.connection.issued = receipt.serial + idCount := by
  obtain ⟨serial, before, rfl⟩ := numbered.mem_receipts.mp mem
  rw [numbered.next]
  exact idOf_eq_iff before near

namespace Recent

theorem quiet (recent : Recent world) {entries : List Entry}
    (journal : world'.journal = world.journal ++ entries)
    (silent : ∀ entry ∈ entries, entry.Silent)
    (ledger : world'.connection.ledger = world.connection.ledger) : Recent world' := by
  have pending : world'.connection.pending = world.connection.pending :=
    congrArg Ledger.pending ledger
  have name : world'.connection.name = world.connection.name := congrArg Ledger.name ledger
  have issued : world'.connection.issued = world.connection.issued :=
    congrArg Ledger.issued ledger
  rw [Recent, pending, name, recent, journal, receipts_append, receipts_of_silent silent,
    List.append_nil]
  refine List.filter_congr fun receipt mem => ?_
  rw [World.recent, World.recent, journal, issued, fate_quiet mem silent]

/-- The next command takes the place of the one that had its id. -/
theorem issue (recent : Recent world) (numbered : Numbered world) {entries : List Entry}
    {command : Command} {data : Bytes}
    (journal : world'.journal =
      world.journal ++ (entries ++ [.issued world.connection.nextReceipt command data]))
    (silent : ∀ entry ∈ entries, entry.Silent)
    (ledger : world'.connection.ledger = (world.connection.send command data).ledger) :
    Recent world' := by
  have pending : world'.connection.pending =
      world.connection.pending.filter (·.id != world.connection.nextId) ++
        [world.connection.nextRequest command] := congrArg Ledger.pending ledger
  have name : world'.connection.name = world.connection.name := congrArg Ledger.name ledger
  have issued : world'.connection.issued = world.connection.issued + 1 :=
    congrArg Ledger.issued ledger
  have receipts' : receipts world'.journal =
      receipts world.journal ++ [world.connection.nextReceipt] := by
    rw [journal, receipts_append, receipts_append, receipts_of_silent silent]
    rfl
  have undecided : fate world.connection.nextReceipt world'.journal = none := by
    rw [journal]
    refine fate_issued ?_ command data
    rw [receipts_append, receipts_of_silent silent, List.append_nil]
    exact numbered.fresh
  have kept : (world.connection.pending.filter (·.id != world.connection.nextId)).map
      (Request.receipt world.connection.name) =
        ((receipts world.journal).filter world.recent).filter
          (·.id != world.connection.nextId) := by
    rw [← recent, List.filter_map]
    rfl
  rw [Recent, pending, name, receipts', List.map_append, List.filter_append, kept,
    List.filter_filter]
  congr 1
  · refine List.filter_congr fun receipt mem => ?_
    have next := numbered.id_eq_next_iff mem
    rw [World.recent, World.recent, journal, issued, fate_issue mem silent]
    cases fate receipt world.journal with
    | some outcome => simp
    | none =>
      rw [Bool.eq_iff_iff]
      simp only [Option.isNone_none, Bool.true_and, Bool.and_eq_true, bne_iff_ne,
        decide_eq_true_eq]
      constructor
      · rintro ⟨other, near⟩
        have := (next near).not.mp other
        omega
      · intro near
        exact ⟨(next (by omega)).not.mpr (by omega), by omega⟩
  · rw [List.filter_cons_of_pos]
    · rfl
    · rw [World.recent, undecided, issued, Option.isNone_none, Bool.true_and, decide_eq_true_eq]
      exact Nat.add_le_add_left idCount_pos _

/-- A verdict falls on some of the ids. -/
theorem verdict (recent : Recent world) {entries : List Entry} (hit : UInt32 → Bool)
    (outcome : Except Failure Bytes) (journal : world'.journal = world.journal ++ entries)
    (silent : issues entries = [])
    (verdict : ∀ id, entries.findSome? (Entry.verdict? id) = if hit id then some outcome else none)
    (name : world'.connection.name = world.connection.name)
    (issued : world'.connection.issued = world.connection.issued)
    (pending : world'.connection.pending =
      world.connection.pending.filter fun request => !hit request.id) : Recent world' := by
  have kept : (world.connection.pending.filter fun request => !hit request.id).map
      (Request.receipt world.connection.name) =
        ((receipts world.journal).filter world.recent).filter fun receipt => !hit receipt.id := by
    rw [← recent, List.filter_map]
    rfl
  have receipts' : receipts world'.journal = receipts world.journal := by
    rw [journal, receipts_append, receipts, receipts, silent, List.map_nil, List.append_nil]
  rw [Recent, pending, name, receipts', kept, List.filter_filter]
  refine List.filter_congr fun receipt mem => ?_
  rw [World.recent, World.recent, journal, issued, fate_append mem, verdict]
  cases fate receipt world.journal <;> cases hit receipt.id <;> simp

theorem step (recent : Recent world) (numbered : Numbered world)
    (step : RequestStep world world') : Recent world' := by
  cases step with
  | quiet journal silent ledger owed => exact recent.quiet journal silent ledger
  | issue command data live journal silent ledger owed =>
    exact recent.issue numbered journal silent ledger
  | decide id outcome journal issue verdict ledger owed =>
    exact recent.verdict (fun other => other == id) outcome journal (by simp [issues, issue])
      (findSome_verdict verdict) (congrArg Ledger.name ledger) (congrArg Ledger.issued ledger)
      (congrArg Ledger.pending ledger)
  | down live journal ledger owed =>
    refine recent.verdict (fun _ => true) (.error .disconnected) journal rfl (fun _ => rfl)
      (congrArg Ledger.name ledger) (congrArg Ledger.issued ledger) ?_
    have pending : world'.connection.pending = [] := congrArg Ledger.pending ledger
    simp [pending]

/-- The command that would be replaced is the one as many commands ago as there are ids. -/
theorem replaced_eq (recent : Recent world) (numbered : Numbered world) :
    world.connection.replaced.map (Request.receipt world.connection.name) =
      (receipts world.journal).filter fun receipt => (fate receipt world.journal).isNone &&
        decide (world.connection.issued = receipt.serial + idCount) := by
  have kept : world.connection.replaced.map (Request.receipt world.connection.name) =
      ((receipts world.journal).filter world.recent).filter
        (·.id == world.connection.nextId) := by
    rw [← recent, List.filter_map]
    rfl
  rw [kept, List.filter_filter]
  refine List.filter_congr fun receipt mem => ?_
  have next := numbered.id_eq_next_iff mem
  rw [World.recent]
  cases fate receipt world.journal with
  | some outcome => simp
  | none =>
    rw [Bool.eq_iff_iff]
    simp only [Option.isNone_none, Bool.true_and, Bool.and_eq_true, beq_iff_eq,
      decide_eq_true_eq]
    constructor
    · rintro ⟨same, near⟩
      exact (next near).mp same
    · intro last
      exact ⟨(next (Nat.le_of_eq last)).mpr last, Nat.le_of_eq last⟩

end Recent

theorem recent_play (config : Config) (moves : List Move) : Recent (play config moves) := by
  refine play_induction (P := fun _ world => Recent world) rfl ?_ moves
  intro moves move recent
  exact recent.step (numbered_play config moves) (turns_play config moves move).request

/-- The next id is never zero. Nothing is pending under it just if the command that had it before,
as many commands ago as there are ids, has met its fate. -/
theorem replaced_eq_nil_iff (config : Config) (moves : List Move) :
    let world := play config moves
    let connection := world.connection
    connection.nextId ≠ 0 ∧
      (connection.replaced = [] ↔ ∀ receipt ∈ receipts world.journal,
        receipt.serial + idCount = connection.issued → (fate receipt world.journal).isSome) := by
  intro world connection
  have numbered : Numbered world := numbered_play config moves
  have recent : Recent world := recent_play config moves
  have replaced := recent.replaced_eq numbered
  refine ⟨by rw [numbered.next]; exact idOf_ne_zero _, ?_⟩
  rw [← List.map_eq_nil_iff (f := Request.receipt connection.name), replaced,
    List.filter_eq_nil_iff]
  refine forall₂_congr fun receipt _ => ?_
  cases fate receipt world.journal with
  | some outcome => simp
  | none => simpa using not_congr eq_comm

/-- Commands that the debuggee leaves unanswered, one after the other. -/
def unanswered (n : Nat) : List Move :=
  List.replicate n (.start (.call .version))

/-- A connection stays up when a command is sent. -/
theorem dead_send (connection : Connection) (command : Command) (data : Bytes) :
    (connection.send command data).dead = connection.dead := rfl

/-- Whoever is replaced is told that the connection is gone. -/
theorem outcomes_send (connection : Connection) (command : Command) (data : Bytes) :
    (connection.send command data).outcomes = connection.outcomes ++
      connection.replaced.map fun old => (old.serial, .error .disconnected) := rfl

/-- The command of a call that is made on a connection that is up is sent. -/
theorem step_call (live : world.connection.dead = false)
    (accepts : world.connection.outboundOpen = true) (call : Call) :
    let after := world.step (.start (.call call))
    let data := call.payload world.connection.idSizes
    after.connection = world.connection.send call.command data ∧
      after.journal =
        world.journal ++ [.issued world.connection.nextReceipt call.command data] ∧
      ∃ works, after.activities =
        world.activities ++ [⟨works, .calling call (.ok world.connection.nextReceipt)⟩] := by
  intro after data
  have sent : world.connection.begin call = _ := Connection.issue_of_open live accepts
  have issued : world.connection.issueEntries call.command data = _ :=
    Connection.issueEntries_of_open live accepts
  have made : after = world.start (.call call) := rfl
  simp only [start, Connection.start, sent] at made
  rw [made]
  exact ⟨rfl, congrArg (world.journal ++ ·) issued, _, rfl⟩

/-- A connection whose commands are left unanswered stays up, and no command meets its fate. -/
theorem play_unanswered (n : Nat) :
    let world := play {} (unanswered n)
    world.connection.dead = false ∧ world.connection.issued = n ∧
      ∀ entry ∈ world.journal, ∀ id, entry.verdict? id = none := by
  induction n with
  | zero => exact ⟨rfl, rfl, by simp [unanswered, ofConfig]⟩
  | succ n ih =>
    obtain ⟨live, issued, undecided⟩ := ih
    have accepts := (shutdown_play {} (unanswered n)).accepts live
    obtain ⟨connection, journal, -⟩ := step_call live accepts .version
    intro world
    have next : world = (play {} (unanswered n)).step (.start (.call .version)) := by
      rw [← play_append, unanswered, ← List.replicate_succ']
      rfl
    rw [next, connection, journal]
    refine ⟨live, congrArg (· + 1) issued, fun entry mem id => ?_⟩
    obtain mem | mem := List.mem_append.mp mem
    · exact undecided entry mem id
    · rw [List.mem_singleton.mp mem]; rfl

/-- When as many commands are left unanswered as there are ids, the id of the first is the next to
be given. Its caller is told then that the connection is gone, which is up. -/
theorem replaced_unanswered :
    let world := play {} (unanswered idCount)
    let later := world.step (.start (.call .version))
    (⟨0, 1, 0⟩ : Receipt) ∈ receipts world.journal ∧ fate ⟨0, 1, 0⟩ world.journal = none ∧
      world.connection.nextId = 1 ∧ world.connection.replaced ≠ [] ∧
      later.connection.dead = false ∧ (0, .error .disconnected) ∈ later.connection.outcomes := by
  intro world later
  obtain ⟨live, issued, undecided⟩ := play_unanswered idCount
  have numbered : Numbered world := numbered_play {} (unanswered idCount)
  have mem : (⟨0, 1, 0⟩ : Receipt) ∈ receipts world.journal :=
    numbered.mem_receipts.mpr ⟨0, by rw [issued]; exact idCount_pos, by rw [name_play]; rfl⟩
  have fateless : fate ⟨0, 1, 0⟩ world.journal = none :=
    List.findSome?_eq_none_iff.mpr fun entry mem => undecided entry (since_suffix.subset mem) _
  have first : (⟨0, 1, 0⟩ : Receipt) ∈
      world.connection.replaced.map (Request.receipt world.connection.name) := by
    rw [(recent_play {} (unanswered idCount)).replaced_eq numbered, List.mem_filter, fateless,
      issued]
    exact ⟨mem, by simp⟩
  obtain ⟨request, replaced, same⟩ := List.mem_map.mp first
  have accepts := (shutdown_play {} (unanswered idCount)).accepts live
  obtain ⟨connection, -⟩ := step_call live accepts .version
  refine ⟨mem, fateless, ?_, List.ne_nil_of_mem replaced, ?_, ?_⟩
  · rw [numbered.next, issued, idOf_idCount]
  · rw [connection, dead_send]; exact live
  · rw [connection, outcomes_send]
    refine List.mem_append_right _ (List.mem_map.mpr ⟨request, replaced, ?_⟩)
    rw [show request.serial = 0 from congrArg Receipt.serial same]

end World

end DebugLink
