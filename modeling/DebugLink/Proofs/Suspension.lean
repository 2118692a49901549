import DebugLink.Proofs.Callers
import DebugLink.Proofs.Numbering

/-!
# Suspension: when a suspension is believed

The scope remembers the ids of the resuming commands that are not settled, and believes that the
debuggee is suspended only if there are none. What it remembers is what the journal says
(`awaited_play`): a resuming command was issued under the id and has no fate yet.

That is not enough for a caller that suspends the debuggee. It reports the suspension when it goes
on, which may be long after the reply to its command has come in; and if another caller has resumed
the debuggee since, and that reply has come in too, the report is believed although the debuggee
runs.
-/

namespace DebugLink

theorem Scope.mem_expectResume {α : Type} {scope : Scope α} {id other : UInt32} :
    other ∈ (scope.expectResume id).resumes ↔ other ∈ scope.resumes ∨ other = id := by
  unfold expectResume
  split
  · next known =>
    refine ⟨.inl, ?_⟩
    rintro (mem | rfl)
    · exact mem
    · exact known
  · simp

namespace World

variable {world world' : World}

/-- The ids that the scope remembers are those of the resuming commands without a fate. -/
def Awaited (world : World) : Prop :=
  ∀ id, id ∈ world.connection.scope.resumes ↔
    ∃ issue ∈ issues world.journal,
      issue.2.resumes ∧ issue.1.id = id ∧ fate issue.1 world.journal = none

/-- A verdict settles the commands whose ids it hits, and they are forgotten. -/
theorem Awaited.verdict (awaited : Awaited world) {entries : List Entry} (hit : UInt32 → Bool)
    (journal : world'.journal = world.journal ++ entries) (none : issues entries = [])
    (verdict : ∀ id, (entries.findSome? (Entry.verdict? id)).isSome = hit id)
    (resumes : world'.connection.scope.resumes =
      world.connection.scope.resumes.filter fun id => !hit id) : Awaited world' := by
  intro id
  rw [resumes, List.mem_filter, awaited, journal, issues_append, none, List.append_nil]
  constructor
  · rintro ⟨⟨issue, mem, resumes, rfl, undecided⟩, spared⟩
    refine ⟨issue, mem, resumes, rfl, ?_⟩
    rw [fate_append (mem_receipts mem), undecided, Option.none_or]
    have missed := verdict issue.1.id
    rw [Bool.not_eq_true'] at spared
    rw [spared, Option.isSome_eq_false_iff, Option.isNone_iff_eq_none] at missed
    exact missed
  · rintro ⟨issue, mem, resumes, rfl, undecided⟩
    rw [fate_append (mem_receipts mem), Option.or_eq_none_iff] at undecided
    refine ⟨⟨issue, mem, resumes, rfl, undecided.1⟩, ?_⟩
    rw [← verdict, undecided.2]
    rfl

/-- A command that is issued is awaited from then on, if it resumes. -/
theorem Awaited.issue (awaited : Awaited world) (numbered : Numbered world)
    {entries : List Entry} {command : Command} {data : Bytes}
    (journal : world'.journal =
      world.journal ++ (entries ++ [.issued world.connection.nextReceipt command data]))
    (silent : ∀ entry ∈ entries, entry.Silent)
    (resumes : world'.connection.scope.resumes =
      (world.connection.send command data).scope.resumes) : Awaited world' := by
  have issues' : issues world'.journal =
      issues world.journal ++ [(world.connection.nextReceipt, command)] := by
    rw [journal, issues_append, issues_append, issues_of_silent silent]
    rfl
  have fate' (issue) (mem : issue ∈ issues world.journal) :
      fate issue.1 world'.journal = fate issue.1 world.journal := by
    rw [journal, fate_issue (mem_receipts mem) silent]
  have undecided : fate world.connection.nextReceipt world'.journal = none := by
    rw [journal]
    refine fate_issued ?_ command data
    rw [receipts_append, receipts_of_silent silent, List.append_nil]
    exact numbered.fresh
  have grown (id) : id ∈ world'.connection.scope.resumes ↔
      id ∈ world.connection.scope.resumes ∨ command.resumes ∧ id = world.connection.nextId := by
    rw [resumes, Connection.send, Connection.enrol]
    cases resumes : command.resumes
    · simp
    · simpa using Scope.mem_expectResume
  intro id
  rw [grown, awaited, issues']
  constructor
  · rintro (⟨issue, mem, resumes, same, waits⟩ | ⟨resumes, rfl⟩)
    · exact ⟨issue, List.mem_append_left _ mem, resumes, same, (fate' issue mem).trans waits⟩
    · exact ⟨_, List.mem_append_right _ (List.mem_singleton_self _), resumes, rfl, undecided⟩
  · rintro ⟨issue, mem, resumes, same, waits⟩
    obtain mem | last := List.mem_append.mp mem
    · exact .inl ⟨issue, mem, resumes, same, (fate' issue mem).symm.trans waits⟩
    · rw [List.mem_singleton.mp last] at resumes same
      exact .inr ⟨resumes, same.symm⟩

theorem Awaited.step (awaited : Awaited world) (numbered : Numbered world)
    (step : RequestStep world world') : Awaited world' := by
  cases step with
  | quiet journal silent ledger owed =>
    have resumes : world'.connection.scope.resumes = world.connection.scope.resumes :=
      congrArg Ledger.resumes ledger
    refine awaited.verdict (fun _ => false) journal (issues_of_silent silent) (fun id => ?_) ?_
    · rw [List.findSome?_eq_none_iff.mpr fun entry mem => (silent entry mem).2 id]
      rfl
    · simpa using resumes
  | issue command data live journal silent ledger owed =>
    exact awaited.issue numbered journal silent (congrArg Ledger.resumes ledger)
  | decide id outcome journal issue verdict ledger owed =>
    refine awaited.verdict (fun other => other == id) journal (by simp [issues, issue])
      (fun other => ?_) (congrArg Ledger.resumes ledger)
    rw [findSome_verdict verdict]
    cases other == id <;> rfl
  | down live journal ledger owed =>
    have resumes : world'.connection.scope.resumes = [] := congrArg Ledger.resumes ledger
    exact awaited.verdict (fun _ => true) journal rfl (fun _ => rfl) (by simpa using resumes)

theorem awaited_play (config : Config) (moves : List Move) : Awaited (play config moves) := by
  suffices both : Numbered (play config moves) ∧ Awaited (play config moves) from both.2
  refine turn_induction (P := fun world => Numbered world ∧ Awaited world)
    ⟨⟨rfl, rfl⟩, fun id => by simp [ofConfig, connection, Connection.ofConfig, issues]⟩ ?_ moves
  rintro world world' - turns ⟨numbered, awaited⟩
  exact ⟨numbered.step turns.request, awaited.step numbered turns.request⟩

/-- No reply is awaited just if every resuming command has met its fate. -/
theorem Awaited.resumes_eq_nil_iff (awaited : Awaited world) :
    world.connection.scope.resumes = [] ↔
      ∀ issue ∈ issues world.journal, issue.2.resumes → (fate issue.1 world.journal).isSome := by
  rw [List.eq_nil_iff_forall_not_mem]
  constructor
  · intro none issue mem resumes
    rw [Option.isSome_iff_ne_none]
    exact fun undecided => none issue.1.id ((awaited _).mpr ⟨issue, mem, resumes, rfl, undecided⟩)
  · intro all id mem
    obtain ⟨issue, mem, resumes, -, undecided⟩ := (awaited id).mp mem
    have decided := all issue mem resumes
    rw [undecided] at decided
    cases decided

/-! ## The report of a caller that suspends the debuggee -/

/-- Reporting a suspension makes the scope active if it is not, unless a reply is awaited. -/
theorem active_suspend {α : Type} (scope : Scope α) :
    scope.suspend.active = true ↔ scope.active = true ∨ scope.resumes = [] := by
  unfold Scope.suspend
  split
  · next kept =>
    refine ⟨.inl, ?_⟩
    rintro (active | none)
    · exact active
    · exact kept.resolve_right (not_not.mpr none)
  · next begins => exact iff_of_true rfl (.inr (not_not.mp (not_or.mp begins).2))

/-- A caller that is about to report a suspension does so when it goes on. -/
theorem scope_goOn_suspended {n : Nat} {rest : List Work} {stage : Stage}
    {poll : Receipt → Option (Except Failure Bytes)}
    (reports : world.activities[n]? = some ⟨.suspended :: rest, stage⟩) :
    (world.goOn n poll).connection.scope = world.connection.scope.suspend := by
  rw [goOn, reports]
  exact Connection.keeps_noteSuspended.scope

/-- A move that makes the scope active does so truthfully, for a caller that issued a suspending
command, if no resuming command was issued since. -/
def ReportsTruly (world : World) (receipt : Receipt) (move : Move) : Prop :=
  world.connection.scope.active = false → (world.step move).connection.scope.active = true →
    ∀ issue ∈ issues (since receipt world.journal), issue.2.resumes = false

/-- A caller that has suspended the debuggee reports it truly unless the scope is not active, every
resuming command has met its fate, and one of them was issued since. -/
theorem reportsTruly_iff (config : Config) (moves : List Move) {n : Nat} {receipt : Receipt}
    {rest : List Work} {move : Move}
    (reports : (play config moves).activities[n]? =
      some ⟨.suspended :: rest, .concluding .suspendAll (.ok receipt)⟩)
    (goes : ∃ caller, move = .advance n caller ∨ move = .block n caller) :
    let world := play config moves
    (receipt, Command.suspend) ∈ issues world.journal ∧
      (ReportsTruly world receipt move ↔
        ¬(world.connection.scope.active = false ∧
          (∀ issue ∈ issues world.journal, issue.2.resumes →
            (fate issue.1 world.journal).isSome) ∧
          ∃ issue ∈ issues (since receipt world.journal), issue.2.resumes)) := by
  intro world
  have scope : (world.step move).connection.scope = world.connection.scope.suspend := by
    obtain ⟨caller, rfl | rfl⟩ := goes
    · exact scope_goOn_suspended reports
    · exact scope_goOn_suspended reports
  refine ⟨held_play config moves (List.mem_of_getElem? reports) rfl, ?_⟩
  -- The report is believed just if the scope remembers no resuming command.
  rw [← (awaited_play config moves).resumes_eq_nil_iff, ReportsTruly, scope, active_suspend]
  constructor
  · rintro truly ⟨inactive, none, issue, mem, resumes⟩
    rw [truly inactive (.inr none) issue mem] at resumes
    cases resumes
  · intro otherwise inactive active issue mem
    rw [inactive] at active
    have none := active.resolve_left (by simp)
    exact Bool.eq_false_iff.mpr fun resumes => otherwise ⟨inactive, none, issue, mem, resumes⟩

/-- One caller suspends the debuggee, and nobody resumes it. -/
def undisturbed : List Move :=
  [.start (.call .suspendAll), .advance 0 .task, .take, .wrote (.ok ()),
    .receive (.frame (ReplyPacket.encode ⟨1, 0, []⟩)), .performDispatcher, .performDispatcher,
    .performDispatcher, .advance 0 .task]

theorem reportsTruly_undisturbed :
    (play {} undisturbed).activities[0]? =
        some ⟨[.suspended], .concluding .suspendAll (.ok ⟨0, 1, 0⟩)⟩ ∧
      ReportsTruly (play {} undisturbed) ⟨0, 1, 0⟩ (.advance 0 .task) ∧
      ((play {} undisturbed).step (.advance 0 .task)).connection.scope.active = true := by
  refine ⟨rfl, (reportsTruly_iff {} undisturbed rfl ⟨.task, .inl rfl⟩).2.mpr ?_, rfl⟩
  rintro ⟨-, -, issue, mem, -⟩
  have none : issues (since ⟨0, 1, 0⟩ (play {} undisturbed).journal) = [] := rfl
  rw [none] at mem
  cases mem

/-- One caller suspends the debuggee, another resumes it, and both replies have come in before the
first goes on. -/
def overtaken : List Move :=
  [.start (.call .suspendAll), .start (.call .resumeAll), .advance 0 .task, .take, .wrote (.ok ()),
    .take, .wrote (.ok ()), .receive (.frame (ReplyPacket.encode ⟨1, 0, []⟩)), .performDispatcher,
    .performDispatcher, .performDispatcher, .receive (.frame (ReplyPacket.encode ⟨2, 0, []⟩)),
    .performDispatcher, .performDispatcher, .performDispatcher, .advance 0 .task]

theorem not_reportsTruly_overtaken :
    (play {} overtaken).activities[0]? =
        some ⟨[.suspended], .concluding .suspendAll (.ok ⟨0, 1, 0⟩)⟩ ∧
      ¬ReportsTruly (play {} overtaken) ⟨0, 1, 0⟩ (.advance 0 .task) := by
  refine ⟨rfl, fun truly => ?_⟩
  have resumed : (⟨0, 2, 1⟩, Command.resume) ∈
      issues (since ⟨0, 1, 0⟩ (play {} overtaken).journal) := by
    rw [show issues (since ⟨0, 1, 0⟩ (play {} overtaken).journal) =
      [(⟨0, 2, 1⟩, Command.resume)] from rfl]
    exact List.mem_singleton_self _
  exact absurd (truly rfl rfl _ resumed) (by decide)

end World

end DebugLink
