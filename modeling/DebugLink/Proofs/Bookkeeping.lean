import DebugLink.Proofs.Aftermath

/-!
# Bookkeeping: the scope remembers the resuming commands that are pending

A resuming command is known in two places. The table of pending requests has its request, and the
scope has its id, for as long as the debuggee may run. Both change in the same step, whatever
happens to the command: it is issued, answered, given up, or lost with the connection. So the ids
that the scope has are those of the resuming commands in the table, in the order in which these were
issued (`Marked`), as long as no id was given twice.

The scope is active only while it has no such id (`Scope.Calm`), and then a report that the debuggee
is suspended is believed.

Main statement: `resumes_eq_pending`.
-/

namespace DebugLink

namespace Scope

variable {α : Type} {scope : Scope α}

/-- No resuming command awaits its reply in a scope that is active. -/
def Calm (scope : Scope α) : Prop :=
  scope.active = true → scope.resumes = []

namespace Calm

theorem suspend (calm : scope.Calm) : scope.suspend.Calm := by
  unfold Scope.suspend
  split
  · exact calm
  · next begins => exact fun _ => not_not.mp (not_or.mp begins).2

theorem of_inactive (inactive : scope.active = false) : scope.Calm := by
  intro active
  rw [inactive] at active
  cases active

theorem complete (calm : scope.Calm) (id : UInt32) : (scope.complete id).Calm := by
  intro active
  rw [Scope.complete, calm active, List.filter_nil]

theorem invalidate (calm : scope.Calm) : scope.invalidate.Calm := fun active => by
  rw [resumes_invalidate, calm (active_invalidate active)]

theorem store (calm : scope.Calm) (key : String) (stamp : Stamp) (value : α) :
    (scope.store key stamp value).2.Calm := fun active => by
  rw [resumes_store, calm (active_store active)]

end Calm

end Scope

/-- Every turn keeps the scope calm. -/
theorem Turn.calm {engine : Engine} {used left : List Work} {entries : List Entry}
    {after : Connection} (turn : Turn engine used entries left after)
    (calm : engine.connection.scope.Calm) : after.scope.Calm := by
  cases turn with
  | aside keeps => rw [keeps.scope]; exact calm
  | issue command data origin live keeps =>
    rw [keeps.scope]
    dsimp only [Connection.send, Connection.enrol]
    split
    · exact .of_inactive rfl
    · exact calm
  | replied reply keeps => rw [keeps.scope]; exact calm.complete reply.id
  | abandon id failure keeps => rw [keeps.scope]; exact calm.complete id
  | settle settles keeps => rw [keeps.scope]; exact calm
  | suspended keeps => rw [keeps.scope]; exact calm.suspend
  | disconnect evicted live aside keeps =>
    rw [keeps.scope]
    exact .of_inactive (Scope.active_shutdown _)
  | queueClose keeps => rw [keeps.scope]; exact calm
  | fail failure writing keeps => rw [keeps.scope]; exact calm
  | take receiving first keeps => rw [keeps.scope]; exact calm
  | drain draining idle keeps => rw [keeps.scope]; exact calm
  | store n key stamp value keeps => rw [keeps.scope]; exact calm.store key stamp value
  | invalidate aside keeps => rw [keeps.scope]; exact calm.invalidate

namespace World

variable {world world' : World}

theorem calm_play (config : Config) (moves : List Move) :
    (play config moves).connection.scope.Calm := by
  refine turn_induction (P := fun world => world.connection.scope.Calm) (.of_inactive rfl)
    (fun _ turns calm => ?_) moves
  obtain ⟨used, entries, left, turn, -⟩ := turns
  exact turn.calm calm

/-! ## The two tables -/

/-- The ids that the scope has are those of the resuming commands that are pending. -/
def Marked (world : World) : Prop :=
  world.connection.scope.resumes =
    (world.connection.pending.filter (·.command.resumes)).map (·.id)

/-- A command that is issued is entered in both tables or in one. -/
theorem Marked.issue (marked : Marked world)
    (fresh : ∀ request ∈ world.connection.pending, request.id ≠ world.connection.nextId)
    {command : Command} {data : Bytes}
    (ledger : world'.connection.ledger = (world.connection.send command data).ledger) :
    Marked world' := by
  have kept : world.connection.pending.filter (·.id != world.connection.nextId) =
      world.connection.pending := by
    rw [List.filter_eq_self]
    intro request mem
    simpa using fresh request mem
  have pending : world'.connection.pending =
      world.connection.pending ++ [world.connection.nextRequest command] := by
    rw [← kept]
    exact congrArg Ledger.pending ledger
  have resumes : world'.connection.scope.resumes =
      ((world.connection.send command data).scope).resumes := congrArg Ledger.resumes ledger
  have unmarked : world.connection.nextId ∉ world.connection.scope.resumes := by
    rw [marked]
    intro mem
    obtain ⟨request, mem, same⟩ := List.mem_map.mp mem
    exact fresh request (List.mem_of_mem_filter mem) same
  rw [Marked, resumes, pending, List.filter_append, List.map_append, ← marked]
  cases lets_run : command.resumes with
  | true =>
    simp [Connection.send, Connection.enrol, lets_run, Scope.expectResume, Scope.leave, unmarked,
      Connection.nextRequest]
  | false => simp [Connection.send, Connection.enrol, lets_run, Connection.nextRequest]

/-- A step makes the same change to both tables. -/
theorem Marked.step (marked : Marked world) (correlated : Correlated world)
    (numbered : Numbered world) (few : world'.connection.issued < UInt32.size)
    (step : RequestStep world world') : Marked world' := by
  cases step with
  | quiet journal silent ledger owed =>
    have pending : world'.connection.pending = world.connection.pending :=
      congrArg Ledger.pending ledger
    have resumes : world'.connection.scope.resumes = world.connection.scope.resumes :=
      congrArg Ledger.resumes ledger
    rw [Marked, resumes, pending]
    exact marked
  | issue command data live journal silent ledger owed =>
    have issued : world'.connection.issued = world.connection.issued + 1 :=
      congrArg Ledger.issued ledger
    exact marked.issue (fun _ mem => correlated.id_fresh numbered (by omega) mem) ledger
  | decide id outcome journal issue verdict ledger owed =>
    have pending : world'.connection.pending =
        world.connection.pending.filter (·.id != id) := congrArg Ledger.pending ledger
    have resumes : world'.connection.scope.resumes =
        world.connection.scope.resumes.filter (· != id) := congrArg Ledger.resumes ledger
    rw [Marked, resumes, pending, marked, List.filter_map, List.filter_filter,
      List.filter_filter]
    exact congrArg _ (List.filter_congr fun request _ => Bool.and_comm _ _)
  | down live journal ledger owed =>
    have pending : world'.connection.pending = [] := congrArg Ledger.pending ledger
    have resumes : world'.connection.scope.resumes = [] := congrArg Ledger.resumes ledger
    rw [Marked, resumes, pending]
    rfl

theorem marked_play (config : Config) (moves : List Move)
    (few : (play config moves).connection.issued < UInt32.size) : Marked (play config moves) := by
  induction moves using List.reverseRecOn with
  | nil => rfl
  | append_singleton moves move ih =>
    have step := (turns_play config moves move).request
    rw [play_append] at few ⊢
    have few' : (play config moves).connection.issued < UInt32.size :=
      Nat.lt_of_le_of_lt (issued_le step) few
    exact (ih few').step (correlated_play config moves few') (numbered_play config moves) few step

/-- The request of a command that was issued says which command it was. -/
theorem mem_issues_of_pending (config : Config) (moves : List Move) {request : Request}
    (waits : request ∈ (play config moves).connection.pending) :
    (request.receipt (play config moves).connection.name, request.command) ∈
      issues (play config moves).journal := by
  revert waits
  refine turn_induction (P := fun world => request ∈ world.connection.pending →
    (request.receipt world.connection.name, request.command) ∈ issues world.journal)
    (fun waits => by cases waits) (fun {world world'} _ turns ih waits => ?_) moves
  -- What was pending before was issued before.
  have old (name : world'.connection.name = world.connection.name)
      (waits : request ∈ world.connection.pending) {entries : List Entry}
      (journal : world'.journal = world.journal ++ entries) :
      (request.receipt world'.connection.name, request.command) ∈ issues world'.journal := by
    rw [journal, issues_append, name]
    exact List.mem_append_left _ (ih waits)
  cases turns.request with
  | quiet journal silent ledger owed =>
    have pending : world'.connection.pending = world.connection.pending :=
      congrArg Ledger.pending ledger
    exact old (congrArg Ledger.name ledger) (pending ▸ waits) journal
  | @issue entries command data live journal silent ledger owed =>
    have name : world'.connection.name = world.connection.name := congrArg Ledger.name ledger
    have pending : world'.connection.pending =
        world.connection.pending.filter (·.id != world.connection.nextId) ++
          [world.connection.nextRequest command] := congrArg Ledger.pending ledger
    rw [pending, List.mem_append, List.mem_singleton] at waits
    obtain waits | rfl := waits
    · exact old name (List.mem_of_mem_filter waits) journal
    · rw [journal, issues_append, issues_append, name]
      simp [issues, Entry.issue?, Request.receipt, Connection.nextRequest, Connection.nextReceipt]
  | decide id outcome journal issue verdict ledger owed =>
    have pending : world'.connection.pending =
        world.connection.pending.filter (·.id != id) := congrArg Ledger.pending ledger
    rw [pending] at waits
    exact old (congrArg Ledger.name ledger) (List.mem_of_mem_filter waits) journal
  | down live journal ledger owed =>
    have pending : world'.connection.pending = [] := congrArg Ledger.pending ledger
    rw [pending] at waits
    cases waits

/-- In a run that issues no more commands than there are ids, the scope has the ids of exactly those
pending requests whose command lets the debuggee run, and is active only if there are none. The id
of a command stays there just until the command meets its fate, by its reply, by being given up or
by the end of the connection. A report of a suspension leaves the scope active just if no such
request is pending. -/
theorem resumes_eq_pending (config : Config) (moves : List Move)
    (few : (play config moves).connection.issued < UInt32.size) :
    let world := play config moves
    let connection := world.connection
    connection.scope.resumes = (connection.pending.filter (·.command.resumes)).map (·.id) ∧
    (∀ request ∈ connection.pending,
      (request.receipt connection.name, request.command) ∈ issues world.journal) ∧
    (connection.scope.active = true → connection.scope.resumes = []) ∧
    (∀ issue ∈ issues world.journal, issue.1.id ∈ connection.scope.resumes ↔
      issue.2.resumes ∧ fate issue.1 world.journal = none) ∧
    ((connection.perform .suspended).2.scope.active = true ↔
      ∀ request ∈ connection.pending, request.command.resumes = false) := by
  intro world connection
  have marked : connection.scope.resumes =
      (connection.pending.filter (·.command.resumes)).map (·.id) := marked_play config moves few
  have calm : connection.scope.Calm := calm_play config moves
  refine ⟨marked, fun _ => mem_issues_of_pending config moves, calm, fun issue mem => ?_, ?_⟩
  · have distinct : ((issues world.journal).map (·.1.id)).Nodup := by
      have nodup := (numbered_play config moves).nodup_ids few
      rwa [receipts, List.map_map] at nodup
    rw [awaited_play config moves issue.1.id]
    constructor
    · rintro ⟨other, mem', resumes, same, undecided⟩
      obtain rfl := List.inj_on_of_nodup_map distinct mem' mem same
      exact ⟨resumes, undecided⟩
    · rintro ⟨resumes, undecided⟩
      exact ⟨issue, mem, resumes, rfl, undecided⟩
  · have reported : (connection.perform .suspended).2.scope = connection.scope.suspend :=
      Connection.keeps_noteSuspended.scope
    rw [reported, active_suspend, or_iff_right_of_imp calm, marked, List.map_eq_nil_iff,
      List.filter_eq_nil_iff]
    simp

/-- Of three commands two let the debuggee run. The first of these is answered, and so is a command
that was never issued. -/
def outstanding : List Move :=
  [.start (.call .version), .start (.call .resumeAll), .start (.call .resumeAll),
    .receive (.frame (ReplyPacket.encode ⟨2, 0, []⟩)), .performDispatcher, .performDispatcher,
    .performDispatcher, .receive (.frame (ReplyPacket.encode ⟨9, 0, []⟩)), .performDispatcher]

theorem resumes_eq_pending_outstanding :
    let connection := (play {} outstanding).connection
    connection.issued < UInt32.size ∧ connection.pending.map (·.id) = [1, 3] ∧
      connection.scope.resumes = [3] ∧
      (connection.perform .suspended).2.scope.active ≠ true := by
  intro connection
  have few : connection.issued < UInt32.size := by decide +kernel
  obtain ⟨resumes, -, -, -, reported⟩ := resumes_eq_pending {} outstanding few
  have waits : connection.pending = [⟨1, 0, .version, []⟩, ⟨3, 2, .resume, []⟩] := rfl
  refine ⟨few, rfl, resumes.trans rfl, fun active => ?_⟩
  have none := reported.mp active ⟨3, 2, .resume, []⟩
  exact absurd (none (by rw [waits]; simp)) (by decide)

end World

end DebugLink
