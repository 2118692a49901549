import DebugLink.Proofs.Journal
import DebugLink.Proofs.Shutdown

/-!
# Callers: what the callers hold and what they are told

A caller that waits for an outcome holds the receipt of a command that was issued (`held_play`).
What it is told is recorded for that receipt just then, unless it is refused because of where it
runs (`own_step`, `polled_outcome`).

A piece of work that waits can always be performed by whoever holds it, and performing pieces ends
(`exists_idle`).
-/

namespace DebugLink

/-- The receipt that a caller holds, and the command it issued. -/
def Stage.holds? : Stage → Option (Receipt × Command)
  | .calling call (.ok receipt) | .concluding call (.ok receipt) => some (receipt, call.command)
  | _ => none

/-- Whether an entry is of what a caller is told or of what it stores. -/
def Entry.own : Entry → Bool
  | .answered .. | .stored .. => true
  | _ => false

namespace World

variable {world world' : World}

/-- What is held after a caller has gone on was held before. -/
theorem CallerStep.held {move : Move} {n : Nat} {activity : Activity} {held : Receipt × Command}
    (step : CallerStep world move n world') (mem : activity ∈ world'.activities)
    (holds : activity.stage.holds? = some held) :
    ∃ old ∈ world.activities, old.stage.holds? = some held := by
  have others {next : Activity} (mem : activity ∈ world.activities.set n next)
      (new : next.stage.holds? = some held →
        ∃ old ∈ world.activities, old.stage.holds? = some held) :
      ∃ old ∈ world.activities, old.stage.holds? = some held := by
    obtain old | rfl := List.mem_or_eq_of_mem_set mem
    · exact ⟨activity, old, holds⟩
    · exact new holds
  cases step with
  | still => exact ⟨activity, mem, holds⟩
  | performed found => exact others mem fun holds => ⟨_, List.mem_of_getElem? found, holds⟩
  | @told call issued outcome found polled =>
    refine others mem fun holds => ⟨_, List.mem_of_getElem? found, ?_⟩
    cases issued with
    | error failure => simp [Stage.holds?] at holds
    | ok receipt => exact holds
  | rested feed found rests =>
    apply others mem
    rcases rests with rfl | rfl <;> simp [Stage.holds?]
  | stored supplies found fits => exact others mem (by simp [Stage.holds?])

/-- A caller that begins something holds no receipt, unless it has just issued a command. -/
theorem held_start {n : Nat} {operation : Operation} {held : Receipt × Command}
    (holds : (world.connection.start n operation).2.1.stage.holds? = some held) :
    held ∈ issues (world.connection.start n operation).1 := by
  cases operation with
  | call call =>
    simp only [Connection.start, Connection.begin] at holds ⊢
    rw [Connection.issueEntries]
    cases issued :
      (world.connection.issue call.command (call.payload world.connection.idSizes)).1 with
    | error failure => simp [issued, Stage.holds?] at holds
    | ok receipt =>
      obtain rfl : (receipt, call.command) = held := by simpa [issued, Stage.holds?] using holds
      simp [issues, Entry.issue?]
  | cache key kind =>
    simp only [Connection.start] at holds
    split at holds <;> simp [Stage.holds?] at holds
  | receive id =>
    simp only [Connection.start] at holds
    split at holds <;> simp [Stage.holds?] at holds
  | _ => simp [Connection.start, Stage.holds?] at holds

/-- What a caller holds after a step, somebody held before, or it has just been issued. -/
theorem held_step {move : Move} {activity : Activity} {held : Receipt × Command}
    (mem : activity ∈ (world.step move).activities) (holds : activity.stage.holds? = some held) :
    (∃ old ∈ world.activities, old.stage.holds? = some held) ∨
      held ∈ issues (world.step move).journal := by
  have same (mem : activity ∈ world.activities) :
      ∃ old ∈ world.activities, old.stage.holds? = some held := ⟨activity, mem, holds⟩
  cases move with
  | start operation =>
    obtain old | new := List.mem_append.mp mem
    · exact .inl (same old)
    · rw [List.mem_singleton.mp new] at holds
      refine .inr ?_
      simp only [step, start, issues_append]
      exact List.mem_append_right _ (held_start holds)
  | advance n caller => exact .inl ((callerStep rfl).held mem holds)
  | block n caller => exact .inl ((callerStep rfl).held mem holds)
  | supply n result => exact .inl ((callerStep rfl).held mem holds)
  | cancel n => exact .inl ((callerStep rfl).held mem holds)
  | _ => exact .inl (same mem)

/-- Whoever holds a receipt holds that of a command that was issued. -/
theorem held_play (config : Config) (moves : List Move) {activity : Activity}
    {held : Receipt × Command} (mem : activity ∈ (play config moves).activities)
    (holds : activity.stage.holds? = some held) : held ∈ issues (play config moves).journal := by
  induction moves using List.reverseRecOn generalizing activity with
  | nil => simp [ofConfig] at mem
  | append_singleton moves move ih =>
    rw [play_append] at mem ⊢
    obtain ⟨old, mem, holds⟩ | issued := held_step mem holds
    · obtain ⟨used, entries, left, turn, journal, -⟩ := turns_play config moves move
      rw [journal, issues_append]
      exact List.mem_append_left _ (ih mem holds)
    · exact issued

/-! ## What the callers are told and what they store -/

/-- How an entry comes about that is a caller's own. -/
inductive Own (world : World) (move : Move) : Entry → Prop
  | answered {receipt : Receipt} {outcome : Except Failure Bytes} {activity : Activity}
    {command : Command} (caller : Caller)
    (polled : receipt.poll caller world.connection = some outcome ∨
      receipt.wait caller world.connection = some outcome)
    (mem : activity ∈ world.activities)
    (holds : activity.stage.holds? = some (receipt, command)) :
    Own world move (.answered receipt outcome)
  | stored {n : Nat} {key : String} {kind : ValueKind} {stamp : Stamp} {value : StoredValue}
    {kept : Bool} (supplies : move = .supply n (.ok value))
    (computing : world.activities[n]? = some ⟨[], .computing key kind stamp⟩)
    (fits : value.kind = kind) (honoured : world.connection.scope.honours stamp = kept) :
    Own world move (.stored n key value kept)

theorem not_own_issue (connection : Connection) (command : Command) (data : Bytes) :
    ∀ entry ∈ connection.issueEntries command data, entry.own = false := by
  unfold Connection.issueEntries
  split <;> simp [Entry.own]

theorem not_own_work (connection : Connection) (work : Work) :
    ∀ entry ∈ connection.workEntries work, entry.own = false := by
  unfold Connection.workEntries
  rw [List.forall_mem_cons]
  refine ⟨rfl, ?_⟩
  split
  · exact not_own_issue connection _ _
  · split <;> simp [Entry.own]
  · simp

theorem not_own_head (connection : Connection) (works : List Work) :
    ∀ entry ∈ connection.headEntries works, entry.own = false := by
  cases works with
  | nil => simp [Connection.headEntries]
  | cons work rest => exact not_own_work connection work

theorem not_own_start (connection : Connection) (n : Nat) (operation : Operation) :
    ∀ entry ∈ (connection.start n operation).1, entry.own = false := by
  cases operation <;> simp only [Connection.start]
  case call call => exact not_own_issue connection _ _
  case cache => split <;> simp [Entry.own]
  case receive => split <;> simp [Entry.own]
  all_goals simp [Entry.own]

theorem not_own_flow : ∀ entry ∈ world.flowEntries, entry.own = false := by
  unfold flowEntries
  split
  · exact not_own_issue _ _ _
  · simp

/-- What is recorded by a caller that goes on: of its own there is what it is told or stores. -/
theorem CallerStep.own {move : Move} {n : Nat} (step : CallerStep world move n world') :
    ∃ entries, world'.journal = world.journal ++ entries ∧
      ∀ entry ∈ entries, entry.own → Own world move entry := by
  cases step with
  | still => exact ⟨[], by simp, by simp⟩
  | performed found =>
    refine ⟨_, rfl, fun entry mem own => ?_⟩
    simp [not_own_work _ _ _ mem] at own
  | @told call issued outcome found polled =>
    refine ⟨_, rfl, fun entry mem own => ?_⟩
    cases issued with
    | error failure => simp [outcomeEntries] at mem
    | ok receipt =>
      obtain ⟨caller, polled⟩ := polled receipt rfl
      rw [List.mem_singleton.mp mem]
      exact .answered caller polled (List.mem_of_getElem? found) rfl
  | rested feed found rests => exact ⟨[], rfl, by simp⟩
  | stored supplies found fits =>
    refine ⟨_, rfl, fun entry mem _ => ?_⟩
    rw [List.mem_singleton.mp mem]
    exact .stored supplies found fits rfl

/-- What a move records of a caller's own it has just brought about. -/
theorem own_step (move : Move) :
    ∃ entries, (world.step move).journal = world.journal ++ entries ∧
      ∀ entry ∈ entries, entry.own → Own world move entry := by
  have others {entries : List Entry}
      (journal : (world.step move).journal = world.journal ++ entries)
      (none : ∀ entry ∈ entries, entry.own = false) :
      ∃ entries, (world.step move).journal = world.journal ++ entries ∧
        ∀ entry ∈ entries, entry.own → Own world move entry := by
    refine ⟨entries, journal, fun entry mem own => ?_⟩
    rw [none entry mem] at own
    cases own
  cases move with
  | advance n caller => exact (callerStep rfl).own
  | block n caller => exact (callerStep rfl).own
  | supply n result => exact (callerStep rfl).own
  | cancel n => exact (callerStep rfl).own
  | performDispatcher => exact others rfl (not_own_head _ _)
  | performWriter => exact others rfl (not_own_head _ _)
  | performFlow => exact others rfl (not_own_head _ _)
  | start operation => exact others rfl (not_own_start _ _ operation)
  | advanceFlow => exact others rfl not_own_flow
  | take =>
    apply others rfl
    unfold takeEntries
    split
    · split <;> simp [Entry.own]
    · simp
  | wrote result =>
    apply others rfl
    unfold wroteEntries
    split <;> simp [Entry.own]
  | shut =>
    apply others rfl
    split <;> simp [Entry.own]
  | receive reception => exact others rfl (by simp)
  | stopDispatcher => exact others rfl (by simp)
  | drain => exact others rfl (by simp)
  | wakeFlow => exact others rfl (by simp)
  | stopFlow => exact others rfl (by simp)

variable {receipt : Receipt} {outcome : Except Failure Bytes}

/-- Waiting yields what is recorded, or a refusal. -/
theorem polled_outcome {connection : Connection} {caller : Caller}
    (polled : receipt.poll caller connection = some outcome ∨
      receipt.wait caller connection = some outcome) :
    connection.outcome? receipt = some outcome ∨ ∃ misuse, outcome = .error (.misuse misuse) := by
  obtain polled | polled := polled
  · unfold Receipt.poll at polled
    split at polled
    · exact .inr ⟨_, (Option.some.inj polled).symm⟩
    · exact .inl polled
  · unfold Receipt.wait at polled
    split at polled
    · exact .inr ⟨_, (Option.some.inj polled).symm⟩
    · split at polled
      · exact .inl polled
      · exact .inr ⟨_, (Option.some.inj polled).symm⟩

/-! ## What waits can be performed -/

/-- Whether a move performs a piece that waits. -/
def performs : Move → Bool
  | .performDispatcher | .performWriter | .performFlow | .advance .. => true
  | _ => false

/-- Somebody can perform a piece that waits. -/
theorem exists_performer (waits : world.works ≠ []) :
    ∃ move work before after, performs move ∧ world.works = before ++ work :: after ∧
      (world.step move).works = before ++ (world.connection.perform work).1 ++ after ∧
      (world.step move).connection = (world.connection.perform work).2 := by
  -- The first of the tasks that has a piece performs it; if none has one, some caller does.
  rcases dispatcher : world.engine.dispatcherWork with _ | ⟨work, rest⟩
  case cons =>
    refine ⟨.performDispatcher, work, [], rest ++ world.engine.writerWork ++
      world.engine.flowWork ++ world.activities.flatMap Activity.works, rfl, ?_, ?_, ?_⟩
    · simp [works, others, dispatcher]
    · simp [works, others, step, record, Engine.performDispatcher, dispatcher, connection]
    · simp [step, record, Engine.performDispatcher, dispatcher, connection]
  rcases writer : world.engine.writerWork with _ | ⟨work, rest⟩
  case cons =>
    refine ⟨.performWriter, work, [], rest ++
      world.engine.flowWork ++ world.activities.flatMap Activity.works, rfl, ?_, ?_, ?_⟩
    · simp [works, others, dispatcher, writer]
    · simp [works, others, step, record, Engine.performWriter, dispatcher, writer, connection]
    · simp [step, record, Engine.performWriter, writer, connection]
  rcases flow : world.engine.flowWork with _ | ⟨work, rest⟩
  case cons =>
    refine ⟨.performFlow, work, [], rest ++ world.activities.flatMap Activity.works, rfl,
      ?_, ?_, ?_⟩
    · simp [works, others, dispatcher, writer, flow]
    · simp [works, others, step, record, Engine.performFlow, dispatcher, writer, flow, connection]
    · simp [step, record, Engine.performFlow, flow, connection]
  obtain ⟨work, mem⟩ := List.exists_mem_of_ne_nil _ waits
  simp only [works, others, dispatcher, writer, flow, List.nil_append, List.mem_flatMap] at mem
  obtain ⟨⟨pieces, stage⟩, held, mem⟩ := mem
  obtain ⟨first, rest, rfl⟩ := List.exists_cons_of_ne_nil (List.ne_nil_of_mem mem)
  obtain ⟨n, found⟩ := List.mem_iff_getElem?.mp held
  obtain ⟨earlier, later, split, changed⟩ := exists_split found
  refine ⟨.advance n .task, first, earlier.flatMap Activity.works,
    rest ++ later.flatMap Activity.works, rfl, ?_, ?_, ?_⟩
  · simp [works, others, dispatcher, writer, flow, split]
  · simp [works, others, step, goOn, found, recordCaller, dispatcher, writer, flow, changed]
  · simp [step, goOn, found, recordCaller, connection]

/-- Performing pieces comes to an end. -/
theorem exists_idle (world : World) :
    ∃ more : List Move, (∀ move ∈ more, performs move) ∧ (more.foldl step world).works = [] := by
  -- By induction on the cost of what waits, of which every piece uses some up.
  induction bound : Connection.cost world.works world.connection using Nat.strongRecOn
    generalizing world with
  | ind cost ih =>
    by_cases waits : world.works = []
    · exact ⟨[], by simp, waits⟩
    · obtain ⟨move, work, before, after, performs, works, works', connection⟩ :=
        exists_performer waits
      have less : Connection.cost (world.step move).works (world.step move).connection < cost := by
        have less := world.connection.cost_perform_lt work []
        rw [← bound, works', works, connection]
        simp only [Connection.cost, Connection.totalCost_append, Work.totalCost] at less ⊢
        omega
      obtain ⟨more, all, idle⟩ := ih _ less _ rfl
      exact ⟨move :: more, by simpa using ⟨performs, all⟩, idle⟩

theorem exists_idle_play (config : Config) (moves : List Move) :
    ∃ more : List Move, (∀ move ∈ more, performs move) ∧
      (play config (moves ++ more)).works = [] := by
  obtain ⟨more, all, idle⟩ := exists_idle (play config moves)
  refine ⟨more, all, ?_⟩
  rw [play, List.foldl_append]
  exact idle

end World

end DebugLink
