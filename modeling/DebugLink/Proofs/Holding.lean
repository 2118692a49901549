import DebugLink.Proofs.Journal
import DebugLink.Proofs.Shutdown
import DebugLink.Proofs.Watermarks

/-!
# Holding: what the debuggee was last told

The policy says whether events are held, and the flow loop tells the debuggee. Between the two are
a count of requests that nobody has acted upon and a stored wake-up, and they change at different
times. If only the policy asks for anything, the count is the difference between what the policy
says and what the debuggee has been told, or will have been once the loop has issued what it has
captured; and a count that is not zero is one that the loop has read or will be woken for
(`Steady`).

Main statement: `World.held_told`.
-/

namespace DebugLink

/-- Whether an entry tells the debuggee to hold or release its events, and which. -/
def Entry.regulates? : Entry → Option Command
  | .issued _ command _ =>
    if command = .holdEvents ∨ command = .releaseEvents then some command else none
  | _ => none

/-! ## The commands in turn -/

/-- The commands hold and release events in turn. -/
def InTurn (commands : List Command) : Prop :=
  ∀ k command, commands[k]? = some command →
    command = if k % 2 = 0 then .holdEvents else .releaseEvents

/-- The debuggee has been told to hold its events. -/
def told (commands : List Command) : Bool :=
  commands.length % 2 == 1

theorem told_append (commands : List Command) (command : Command) :
    told (commands ++ [command]) = !told commands := by
  simp only [told, List.length_append, List.length_singleton]
  rcases Nat.mod_two_eq_zero_or_one commands.length with even | odd
  · simp [even, Nat.add_mod]
  · simp [odd, Nat.add_mod]

namespace InTurn

variable {commands : List Command}

theorem append (inTurn : InTurn commands) :
    InTurn (commands ++ [if told commands then .releaseEvents else .holdEvents]) := by
  intro k command found
  rw [List.getElem?_append] at found
  split at found
  · exact inTurn k command found
  · next past =>
    obtain ⟨last, rfl⟩ := List.getElem?_eq_some_iff.mp found
    have last : k = commands.length := by simp at last; omega
    subst last
    rcases Nat.mod_two_eq_zero_or_one commands.length with even | odd
    · simp [told, even]
    · simp [told, odd]

theorem getLast? (inTurn : InTurn commands) :
    commands.getLast? = some .holdEvents ↔ told commands = true := by
  cases commands using List.reverseRec with
  | nil => simp [told]
  | append_singleton commands command =>
    have last := inTurn commands.length command (by simp)
    rw [List.getLast?_append, told_append, last, told]
    rcases Nat.mod_two_eq_zero_or_one commands.length with even | odd
    · simp [even]
    · simp [odd]; decide

end InTurn

/-! ## What the flow control, the loop and the debuggee have to do with each other -/

/-- The requests that are open while the policy says one thing and the debuggee was told another. -/
def balance (held told : Bool) : Int32 :=
  (if held then 1 else 0) - if told then 1 else 0

theorem balance_toInt (held told : Bool) :
    (balance held told).toInt = (if held then 1 else 0) - if told then 1 else 0 := by
  cases held <;> cases told <;> rfl

/-- What the debuggee will have been told once the flow loop has issued what it has captured. -/
def FlowLoop.telling (told : Bool) : FlowLoop → Bool
  | .captured _ => !told
  | _ => told

/-- A count that the flow loop does not have to be woken for. -/
def FlowLoop.Knows (count : Int32) : FlowLoop → Prop
  | .awake => True
  | .loaded net => count = net
  | _ => count = 0

/-- What the flow loop has read asks for the command that comes next. -/
def FlowLoop.Fits (told : Bool) : FlowLoop → Prop
  | .loaded net => net = 0 ∨ net = balance (!told) told
  | .captured net => net = balance (!told) told
  | _ => True

/-- The count is what the policy and the debuggee differ by, and the loop knows of it or will be
woken. -/
structure Steady (told : Bool) (flow : FlowControl) (loop : FlowLoop) : Prop where
  net : flow.net = balance flow.held (loop.telling told)
  heard : flow.woken = false → loop.Knows flow.net
  fits : loop.Fits told

namespace Steady

variable {told : Bool} {flow : FlowControl} {loop : FlowLoop}

theorem onDepth (steady : Steady told flow loop) (depth : Nat) :
    Steady told (flow.onDepth depth) loop := by
  unfold FlowControl.onDepth
  split
  · split
    · exact steady
    · next free =>
      have net := steady.net
      rw [Bool.eq_false_iff.mpr free] at net
      refine ⟨?_, by simp [FlowControl.hold, FlowControl.wake], steady.fits⟩
      show flow.net + 1 = balance true _
      rw [net]
      cases loop.telling told <;> rfl
  · split
    · split
      · next held =>
        have net := steady.net
        rw [held] at net
        refine ⟨?_, by simp [FlowControl.release, FlowControl.wake], steady.fits⟩
        show flow.net + -1 = balance false _
        rw [net]
        cases loop.telling told <;> rfl
      · exact steady
    · exact steady

theorem wake (steady : Steady told flow loop) : Steady told flow.wake loop :=
  ⟨steady.net, by simp [FlowControl.wake], steady.fits⟩

/-- The loop takes a wake-up. -/
theorem woke (steady : Steady told flow .waiting) :
    Steady told { flow with woken := false } .awake :=
  ⟨steady.net, fun _ => trivial, trivial⟩

/-- The loop reads the count. -/
theorem loaded (steady : Steady told flow .awake) : Steady told flow (.loaded flow.net) where
  net := steady.net
  heard _ := rfl
  fits := by
    have net : flow.net = balance flow.held told := steady.net
    rw [net]
    show balance flow.held told = 0 ∨ balance flow.held told = balance (!told) told
    cases flow.held <;> cases told <;> decide

/-- There was nothing to read, and the loop waits again. -/
theorem unasked (steady : Steady told flow (.loaded 0)) : Steady told flow .waiting :=
  ⟨steady.net, steady.heard, trivial⟩

/-- The loop subtracts what it has read. -/
theorem captured {net : Int32} (steady : Steady told flow (.loaded net)) (some : net ≠ 0) :
    Steady told (flow.bump (-net)) (.captured net) := by
  have fits : net = balance (!told) told := steady.fits.resolve_left some
  refine ⟨?_, fun asleep => ?_, fits⟩
  · show flow.net + -net = balance flow.held (!told)
    rw [steady.net, fits]
    cases flow.held <;> cases told <;> rfl
  · show flow.net + -net = 0
    rw [steady.heard asleep, ← Int32.sub_eq_add_neg, Int32.sub_self]

/-- The loop issues the command. -/
theorem sent {net : Int32} (steady : Steady told flow (.captured net)) :
    Steady (!told) flow .waiting ∧
      FlowControl.command net = if told then .releaseEvents else .holdEvents := by
  refine ⟨⟨steady.net, steady.heard, trivial⟩, ?_⟩
  have fits : net = balance (!told) told := steady.fits
  rw [fits]
  cases told <;> rfl

theorem stopped (steady : Steady told flow .waiting) : Steady told flow .stopped :=
  ⟨steady.net, steady.heard, trivial⟩

end Steady

namespace World

variable {world world' : World} {move : Move} {entries : List Entry}

/-! ## Moves -/

/-- A move that does not ask for events to be held or released. -/
def Unasked (move : Move) : Prop :=
  move ≠ .start .hold ∧ move ≠ .start .release

/-- Who is not the flow loop and asks for nothing by itself changes the flow control by the policy,
or wakes the loop. -/
theorem FeedTurn.flow {before after : World} (turn : FeedTurn before move entries after)
    (unasked : Unasked move) (others : move ≠ .wakeFlow ∧ move ≠ .advanceFlow) :
    after.connection.feed.flow = before.connection.feed.flow ∨
      after.connection.feed.flow = before.connection.feed.flow.wake ∨
      ∃ depth, after.connection.feed.flow = before.connection.feed.flow.onDepth depth := by
  cases turn with
  | aside f turn aloof feed judges =>
    rw [feed]
    cases turn with
    | still => exact .inl rfl
    | wake => exact .inr (.inl rfl)
    | hold => exact absurd rfl unasked.1
    | release => exact absurd rfl unasked.2
    | woke => exact absurd rfl others.1
    | captured loaded some => exact absurd rfl others.2
  | subscribe starts told feed judges =>
    rw [feed]
    exact .inl rfl
  | publish batch others told feed judges =>
    rw [feed, EventFeed.publish]
    split
    · exact .inl rfl
    · exact .inr (.inr ⟨_, rfl⟩)
  | close others told feed judges =>
    rw [feed, EventFeed.close]
    split <;> exact .inl rfl
  | pop id starts told feed judges =>
    rw [feed, EventFeed.pop]
    split <;> exact .inl rfl
  | drop id starts told feed judges =>
    rw [feed, EventFeed.drop]
    split
    · exact .inr (.inr ⟨_, rfl⟩)
    · exact .inl rfl
  | count id aloof feed judges =>
    rw [feed]
    exact .inl rfl
  | judge aloof feed =>
    rw [feed]
    exact .inr (.inr ⟨_, rfl⟩)

theorem FeedTurn.steady {before after : World} {told : Bool} {loop : FlowLoop}
    (turn : FeedTurn before move entries after) (unasked : Unasked move)
    (others : move ≠ .wakeFlow ∧ move ≠ .advanceFlow)
    (steady : Steady told before.connection.feed.flow loop) :
    Steady told after.connection.feed.flow loop := by
  obtain flow | flow | ⟨depth, flow⟩ := turn.flow unasked others
  · rw [flow]
    exact steady
  · rw [flow]
    exact steady.wake
  · rw [flow]
    exact steady.onDepth depth

/-- The commands that the flow loop issues with a move. -/
def tells (world : World) : Move → List Command
  | .advanceFlow => (issues world.flowEntries).map (·.2)
  | _ => []

/-- The commands that the flow loop issues in the course of some moves. -/
def flowCommands (world : World) : List Move → List Command
  | [] => []
  | move :: moves => world.tells move ++ (world.step move).flowCommands moves

theorem flowCommands_append (world : World) (moves more : List Move) :
    world.flowCommands (moves ++ more) =
      world.flowCommands moves ++ (moves.foldl step world).flowCommands more := by
  induction moves generalizing world with
  | nil => rfl
  | cons move moves ih => simp [flowCommands, ih]

theorem tells_advanceFlow (idle : ∀ net, world.engine.flowLoop ≠ .captured net) :
    world.tells .advanceFlow = [] := by
  rw [tells, flowEntries]
  split
  · next net captured => exact absurd captured (idle net)
  · rfl

/-- On a live connection the flow loop issues the command for what it has captured, and waits. -/
theorem tells_captured {net : Int32} (stage : world.engine.flowLoop = .captured net)
    (live : world.connection.dead = false) (accepts : world.connection.outboundOpen = true) :
    world.tells .advanceFlow = [FlowControl.command net] ∧
      (world.step .advanceFlow).engine.flowLoop = .waiting := by
  constructor
  · simp only [tells, flowEntries, stage]
    rw [Connection.issueEntries_of_open (by exact live) (by exact accepts)]
    rfl
  · simp only [step, record, Engine.advanceFlow, stage]
    rw [Connection.issue_of_open (by exact live) (by exact accepts)]

/-- To issue a command changes nothing of the feed. -/
theorem feed_captured {net : Int32} (stage : world.engine.flowLoop = .captured net) :
    (world.step .advanceFlow).connection.feed = world.connection.feed := by
  obtain ⟨-, connection, -⟩ := Engine.advanceFlow_captured stage
  exact (congrArg Connection.feed connection).trans (Connection.feed_issue _ _)

/-- Commands were issued in turn, and all is steady. -/
structure Regular (commands : List Command) (world : World) : Prop where
  inTurn : InTurn commands
  steady : Steady (told commands) world.connection.feed.flow world.engine.flowLoop

namespace Regular

variable {commands : List Command}

theorem ofConfig (config : Config) : Regular [] (ofConfig config) where
  inTurn := by simp [InTurn]
  steady := by
    refine ⟨?_, fun _ => rfl, trivial⟩
    show 0 = balance false (told [])
    decide

/-- A move that issues nothing. -/
theorem quiet (regular : Regular commands world) (silent : world.tells move = [])
    (steady : Steady (told commands) world'.connection.feed.flow world'.engine.flowLoop) :
    Regular (commands ++ world.tells move) world' := by
  rw [silent, List.append_nil]
  exact ⟨regular.inTurn, steady⟩

theorem wakeFlow (regular : Regular commands world) :
    Regular (commands ++ world.tells .wakeFlow) (world.step .wakeFlow) := by
  refine regular.quiet rfl ?_
  have steady := regular.steady
  simp only [step, record, connection, Engine.wakeFlow]
  split
  · next ready =>
    rw [ready.1] at steady
    exact steady.woke
  · exact steady

theorem stopFlow (regular : Regular commands world) :
    Regular (commands ++ world.tells .stopFlow) (world.step .stopFlow) := by
  refine regular.quiet rfl ?_
  have steady := regular.steady
  simp only [step, record, connection, Engine.stopFlow]
  split
  · next ready =>
    rw [ready.1] at steady
    exact steady.stopped
  · exact steady

theorem advanceFlow (regular : Regular commands world) (live : world.connection.dead = false)
    (accepts : world.connection.outboundOpen = true) :
    Regular (commands ++ world.tells .advanceFlow) (world.step .advanceFlow) := by
  have steady := regular.steady
  cases stage : world.engine.flowLoop with
  | captured net =>
    rw [stage] at steady
    obtain ⟨steady, next⟩ := steady.sent
    obtain ⟨issued, waits⟩ := tells_captured stage live accepts
    rw [issued, next]
    refine ⟨regular.inTurn.append, ?_⟩
    rw [told_append, waits, feed_captured stage]
    exact steady
  | loaded net =>
    refine regular.quiet (tells_advanceFlow (by simp [stage])) ?_
    rw [stage] at steady
    simp only [step, record, connection, Engine.advanceFlow, stage]
    split
    · next none => exact (none ▸ steady).unasked
    · next some => exact steady.captured some
  | awake =>
    refine regular.quiet (tells_advanceFlow (by simp [stage])) ?_
    rw [stage] at steady
    simp only [step, record, connection, Engine.advanceFlow, stage]
    exact steady.loaded
  | waiting =>
    refine regular.quiet (tells_advanceFlow (by simp [stage])) ?_
    simpa only [step, record, connection, Engine.advanceFlow, stage] using steady
  | stopped =>
    refine regular.quiet (tells_advanceFlow (by simp [stage])) ?_
    simpa only [step, record, connection, Engine.advanceFlow, stage] using steady

/-- Every move of a live connection keeps it regular, unless it asks for events to be held or
released. -/
theorem step (regular : Regular commands world) (unasked : Unasked move)
    (live : world.connection.dead = false) (accepts : world.connection.outboundOpen = true) :
    Regular (commands ++ world.tells move) (world.step move) := by
  -- What is no step of the flow loop leaves it where it is.
  have others (silent : world.tells move = [])
      (still : (world.step move).engine.flowLoop = world.engine.flowLoop)
      (other : move ≠ .wakeFlow ∧ move ≠ .advanceFlow) :
      Regular (commands ++ world.tells move) (world.step move) := by
    obtain ⟨entries, -, turn⟩ := @feed_turn world move
    refine regular.quiet silent ?_
    rw [still]
    exact turn.steady unasked other regular.steady
  have spares := @spares_step world move
  cases move with
  | wakeFlow => exact regular.wakeFlow
  | advanceFlow => exact regular.advanceFlow live accepts
  | stopFlow => exact regular.stopFlow
  | performFlow =>
    refine others rfl ?_ (by simp)
    simp only [World.step, record, Engine.performFlow]
    split <;> rfl
  | _ => exact others rfl (spares.flowLoop (by simp [Move.actor])).1 (by simp)

end Regular

theorem regular_play (config : Config) (moves : List Move)
    (unasked : ∀ move ∈ moves, Unasked move)
    (live : (play config moves).connection.dead = false) :
    Regular ((World.ofConfig config).flowCommands moves) (play config moves) := by
  induction moves using List.reverseRecOn with
  | nil => exact .ofConfig config
  | append_singleton moves move ih =>
    obtain ⟨unasked, last⟩ := List.forall_mem_append.mp unasked
    rw [play_append] at live ⊢
    have live := (turns_play config moves move).up live
    have regular := (ih unasked live).step (List.forall_mem_singleton.mp last) live
      ((shutdown_play config moves).accepts live)
    rw [flowCommands_append, flowCommands, flowCommands, List.append_nil]
    exact regular

/-! ## The commands in the journal -/

/-- A move of a caller that issues a command to hold or release events by itself. -/
def Meddles (move : Move) : Prop :=
  ∃ call : Call, move = .start (.call call) ∧
    (call.command = .holdEvents ∨ call.command = .releaseEvents)

theorem regulates_issueEntries (connection : Connection) {command : Command} {data : Bytes}
    (other : ¬(command = .holdEvents ∨ command = .releaseEvents)) :
    (connection.issueEntries command data).filterMap Entry.regulates? = [] := by
  unfold Connection.issueEntries
  split
  · simp [Entry.regulates?, other]
  · rfl

theorem regulates_workEntries (connection : Connection) (work : Work) :
    (connection.workEntries work).filterMap Entry.regulates? = [] := by
  cases work with
  | dispose payload =>
    exact regulates_issueEntries connection (by decide)
  | disconnect =>
    simp only [Connection.workEntries]
    split <;> rfl
  | _ => rfl

theorem regulates_headEntries (connection : Connection) (works : List Work) :
    (connection.headEntries works).filterMap Entry.regulates? = [] := by
  cases works with
  | nil => rfl
  | cons work rest => exact regulates_workEntries connection work

theorem regulates_callerStep {n : Nat} (step : CallerStep world move n world') :
    world'.journal.filterMap Entry.regulates? = world.journal.filterMap Entry.regulates? := by
  cases step with
  | still => rfl
  | performed found =>
    simp only [recordCaller, List.filterMap_append, regulates_workEntries, List.append_nil]
  | @told call issued outcome found polled =>
    cases issued <;> simp [recordCaller, outcomeEntries, Entry.regulates?]
  | rested feed found rests => simp [recordCaller]
  | stored supplies found fits => simp [recordCaller, Entry.regulates?]

theorem regulates_start {operation : Operation} (calm : ¬Meddles (.start operation)) :
    (world.start operation).journal.filterMap Entry.regulates? =
      world.journal.filterMap Entry.regulates? := by
  have silent : (world.connection.start world.activities.length operation).1.filterMap
      Entry.regulates? = [] := by
    cases operation with
    | call call =>
      exact regulates_issueEntries _ fun regulates => calm ⟨call, rfl, regulates⟩
    | cache key kind =>
      simp only [Connection.start, Connection.lookup]
      split <;> rfl
    | receive id =>
      simp only [Connection.start]
      split <;> rfl
    | _ => rfl
  rw [start, List.filterMap_append, silent, List.append_nil]

/-- If nobody meddles, the commands in the journal that hold or release events are those of the flow
loop. -/
theorem regulates_step (move : Move) (calm : ¬Meddles move) :
    (world.step move).journal.filterMap Entry.regulates? =
      world.journal.filterMap Entry.regulates? ++ world.tells move := by
  have of_record {engine : Engine} {entries : List Entry}
      (silent : entries.filterMap Entry.regulates? = []) :
      (world.record engine entries).journal.filterMap Entry.regulates? =
        world.journal.filterMap Entry.regulates? ++ [] := by
    rw [record, List.filterMap_append, silent]
  have of_caller {n : Nat} (caller : mover? move = some n) :
      (world.step move).journal.filterMap Entry.regulates? =
        world.journal.filterMap Entry.regulates? ++ [] :=
    (regulates_callerStep (callerStep caller)).trans (List.append_nil _).symm
  cases move with
  | take =>
    refine of_record ?_
    rw [takeEntries]
    split
    · split <;> rfl
    · rfl
  | wrote result =>
    refine of_record ?_
    rw [wroteEntries]
    split <;> rfl
  | shut => exact of_record (by split <;> rfl)
  | advanceFlow =>
    have issued : world.flowEntries.filterMap Entry.regulates? = world.tells .advanceFlow := by
      rw [tells, flowEntries]
      split
      · next net captured =>
        have regulates : FlowControl.command net = .holdEvents ∨
            FlowControl.command net = .releaseEvents := by
          unfold FlowControl.command
          split
          · exact .inl rfl
          · exact .inr rfl
        unfold Connection.issueEntries
        split
        · simp [Entry.regulates?, issues, Entry.issue?, regulates]
        · rfl
      · rfl
    rw [step, record, List.filterMap_append, issued]
  | performDispatcher => exact of_record (regulates_headEntries _ _)
  | performWriter => exact of_record (regulates_headEntries _ _)
  | performFlow => exact of_record (regulates_headEntries _ _)
  | start operation => exact (regulates_start calm).trans (List.append_nil _).symm
  | advance n caller => exact of_caller rfl
  | block n caller => exact of_caller rfl
  | supply n result => exact of_caller rfl
  | cancel n => exact of_caller rfl
  | _ => exact of_record rfl

theorem regulates_play (config : Config) (moves : List Move)
    (calm : ∀ move ∈ moves, ¬Meddles move) :
    (play config moves).journal.filterMap Entry.regulates? =
      (ofConfig config).flowCommands moves := by
  induction moves using List.reverseRecOn with
  | nil => rfl
  | append_singleton moves move ih =>
    obtain ⟨calm, last⟩ := List.forall_mem_append.mp calm
    rw [play_append, regulates_step move (last move (List.mem_singleton_self move)),
      ih calm, flowCommands_append, flowCommands, flowCommands, List.append_nil, play]

/-- As long as a connection is live and only the policy asks for events to be held or released, the
count of open requests is what the policy says less what the debuggee was last told, except between
the capture of a count and its command. So it is at most one either way, the flow loop tells the
debuggee to hold and to release its events in turn, and when the loop has handled all its wake-ups
the debuggee has been told what the policy says. If no caller issues such commands by itself, the
loop's are all there are. -/
theorem held_told (config : Config) (moves : List Move) (unasked : ∀ move ∈ moves, Unasked move)
    (live : (play config moves).connection.dead = false) :
    let world := play config moves
    let flow := world.connection.feed.flow
    let commands := (ofConfig config).flowCommands moves
    ((∀ net, world.engine.flowLoop ≠ .captured net) →
      flow.net.toInt + (if commands.getLast? = some .holdEvents then 1 else 0) =
        if flow.held then 1 else 0) ∧
    (-1 ≤ flow.net.toInt ∧ flow.net.toInt ≤ 1) ∧
    (∀ k command, commands[k]? = some command →
      command = if k % 2 = 0 then .holdEvents else .releaseEvents) ∧
    (world.engine.flowLoop = .waiting → flow.woken = false →
      (commands.getLast? = some .holdEvents ↔ flow.held = true)) ∧
    ((∀ move ∈ moves, ¬Meddles move) →
      world.journal.filterMap Entry.regulates? = commands) := by
  intro world flow commands
  obtain ⟨inTurn, steady⟩ := regular_play config moves unasked live
  have net := steady.net
  have last : commands.getLast? = some .holdEvents ↔ told commands = true := inTurn.getLast?
  simp only [last]
  refine ⟨fun idle => ?_, ?_, inTurn, fun waits asleep => ?_, regulates_play config moves⟩
  · have same : world.engine.flowLoop.telling (told commands) = told commands := by
      cases stage : world.engine.flowLoop with
      | captured net => exact absurd stage (idle net)
      | _ => rfl
    rw [same] at net
    rw [net, balance_toInt]
    exact Int.sub_add_cancel _ _
  · rw [net, balance_toInt]
    constructor <;> split <;> split <;> decide
  · have none := steady.heard asleep
    rw [waits] at net none
    have none : flow.net = 0 := none
    rw [none] at net
    revert net
    show 0 = balance flow.held (told commands) → _
    cases flow.held <;> cases told commands <;> decide

/-- Events are held and released again, and each time the flow loop is woken once. -/
theorem held_told_drain :
    let config : Config := { highWatermark := 2, lowWatermark := 1 }
    let turn : List Move := [.wakeFlow, .advanceFlow, .advanceFlow, .advanceFlow, .performFlow]
    let moves := flood 3 ++ turn ++ drain 3 ++ turn
    (∀ move ∈ moves, Unasked move) ∧ (∀ move ∈ moves, ¬Meddles move) ∧
      (play config moves).connection.dead = false ∧
      (play config moves).journal.filterMap Entry.regulates? = [.holdEvents, .releaseEvents] ∧
      (play config moves).connection.feed.flow.net.toInt = 0 ∧
      (play config moves).connection.feed.flow.held = false := by
  intro config turn moves
  have unasked : ∀ move ∈ moves, Unasked move := by
    simp [moves, turn, flood, drain, List.range, List.range.loop, Unasked]
  have calm : ∀ move ∈ moves, ¬Meddles move := by
    simp [moves, turn, flood, drain, List.range, List.range.loop, Meddles]
  have live : (play config moves).connection.dead = false := by decide +kernel
  have waits : (play config moves).engine.flowLoop = .waiting := by decide +kernel
  have asleep : (play config moves).connection.feed.flow.woken = false := by decide +kernel
  have commands : (ofConfig config).flowCommands moves = [.holdEvents, .releaseEvents] := by
    decide +kernel
  have idle : ∀ net, (play config moves).engine.flowLoop ≠ .captured net := by
    intro net
    rw [waits]
    simp
  obtain ⟨net, -, -, settled, journal⟩ := held_told config moves unasked live
  have last := settled waits asleep
  rw [commands] at last
  have released : (play config moves).connection.feed.flow.held = false :=
    eq_false_of_ne_true fun held => absurd (last.mpr held) (by decide)
  have net := net idle
  rw [commands, released, if_neg (by decide), if_neg (by decide), Int.add_zero] at net
  exact ⟨unasked, calm, live, (journal calm).trans commands, net, released⟩

end World

end DebugLink
