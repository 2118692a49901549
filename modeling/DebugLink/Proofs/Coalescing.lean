import DebugLink.Proofs.Holding
import DebugLink.Proofs.Idleness

/-!
# Coalescing: no request to hold or release is lost or counted twice

Callers and the policy ask for events to be held or released, each by a change of the net count and
a wake-up, in this order. For a wake-up the flow loop reads the count, subtracts what it has read,
and sends at most one command for it. Requests may come in between any two of these steps: those
that come after the count was read stay in it.

So at every moment the count is what was asked for less what the loop has taken, and a count that is
not zero is one that the loop has read, or will be woken for by what is stored or by a caller that
has not got as far as to wake it (`Coalesced`).

Main statement: `World.coalesced`.
-/

namespace DebugLink

namespace FlowControl

/-- What the policy asks for when it is applied: it makes a request when it changes its mind. -/
def asked (before after : FlowControl) : List Command :=
  if before.held = after.held then []
  else if after.held then [.holdEvents] else [.releaseEvents]

/-- The requests to hold less the requests to release. -/
def excess (requests : List Command) : Int :=
  requests.count .holdEvents - requests.count .releaseEvents

/-- All that was taken out of the count. -/
def amount : List Int32 → Int
  | [] => 0
  | net :: nets => net.toInt + amount nets

/-- What is to be sent for a count. Nothing is sent for zero. -/
def command? (net : Int32) : Option Command :=
  if 0 < net then some .holdEvents else if net < 0 then some .releaseEvents else none

theorem excess_append (requests more : List Command) :
    excess (requests ++ more) = excess requests + excess more := by
  simp only [excess, List.count_append]
  omega

theorem amount_append (nets more : List Int32) :
    amount (nets ++ more) = amount nets + amount more := by
  induction nets with
  | nil => exact (Int.zero_add _).symm
  | cons net nets ih =>
    rw [List.cons_append, amount, amount, ih]
    omega

theorem command?_of_ne {net : Int32} (some : net ≠ 0) :
    command? net = Option.some (command net) := by
  unfold command? command
  by_cases positive : 0 < net
  · rw [if_pos positive, if_pos positive]
  · have negative : net < 0 :=
      (Int32.lt_or_eq_of_le (Int32.not_lt.mp positive)).resolve_right some
    rw [if_neg positive, if_pos negative, if_neg positive]

variable {flow : FlowControl}

/-- The count changes by what the policy asks for, and with a wake-up. -/
structure Notes (before after : FlowControl) : Prop where
  net : after.net = before.net + Int32.ofInt (excess (asked before after))
  woken : after.woken = false → before.woken = false ∧ after.net = before.net

theorem Notes.still {before after : FlowControl} (held : after.held = before.held)
    (net : after.net = before.net) (woken : after.woken = false → before.woken = false) :
    Notes before after where
  net := by
    rw [asked, if_pos held.symm, net]
    exact (Int32.add_zero _).symm
  woken := fun asleep => ⟨woken asleep, net⟩

theorem notes_onDepth (depth : Nat) : Notes flow (flow.onDepth depth) := by
  unfold onDepth
  split
  · split
    · exact .still rfl rfl id
    · next free =>
      have free : flow.held = false := Bool.eq_false_iff.mpr free
      refine ⟨?_, by rintro ⟨⟩⟩
      simp only [asked, free, hold, bump, wake]
      rfl
  · split
    · split
      · next held =>
        refine ⟨?_, by rintro ⟨⟩⟩
        simp only [asked, held, release, bump, wake]
        rfl
      · exact .still rfl rfl id
    · exact .still rfl rfl id

end FlowControl

open FlowControl

/-- Whether the loop has taken a wake-up and not yet taken what it reads out of the count. -/
def FlowLoop.reads : FlowLoop → Nat
  | .awake | .loaded _ => 1
  | _ => 0

/-- The command for what the loop has taken, until it is sent. -/
def FlowLoop.unsent : FlowLoop → List Command
  | .captured net => [command net]
  | _ => []

/-- Whether a caller has counted a request and has not woken the flow loop. -/
def Stage.wakes : Stage → Bool
  | .waking => true
  | _ => false

namespace World

variable {world world' : World} {move : Move}

/-- Somebody has counted a request and has not woken the flow loop. -/
def Waking (world : World) : Prop :=
  ∃ activity ∈ world.activities, activity.stage.wakes

instance : Decidable world.Waking :=
  inferInstanceAs (Decidable (∃ activity ∈ world.activities, activity.stage.wakes))

/-! ## What is noted of a run -/

/-- The requests to hold or release that come with a move. -/
def requests (world : World) : Move → List Command
  | .start .hold => [.holdEvents]
  | .start .release => [.releaseEvents]
  | move => asked world.connection.feed.flow (world.step move).connection.feed.flow

/-- The wake-up that the flow loop takes, with the count that is there. -/
def wakeUps (world : World) (move : Move) : List Int32 :=
  if world.engine.flowLoop = .waiting ∧ (world.step move).engine.flowLoop = .awake then
    [world.connection.feed.flow.net]
  else []

/-- What the flow loop takes out of the count, which may be nothing. -/
def takes (world : World) (move : Move) : List Int32 :=
  match move, world.engine.flowLoop with
  | .advanceFlow, .loaded net => [net]
  | _, _ => []

/-- The command that the flow loop sends. -/
def sends (world : World) (move : Move) : List Command :=
  match move with
  | .advanceFlow => world.engine.flowLoop.unsent
  | _ => []

/-! ## What holds at every moment -/

/-- The count is what was asked for less what was taken, the flow loop knows of it or will be woken,
and it has sent a command for all that it has taken, or is about to. -/
structure Coalesced (requests : List Command) (wakeUps takes : List Int32) (sends : List Command)
    (world : World) : Prop where
  net : world.connection.feed.flow.net = Int32.ofInt (excess requests - amount takes)
  heard : world.connection.feed.flow.woken = false → ¬world.Waking →
    world.engine.flowLoop.Knows world.connection.feed.flow.net
  taken : wakeUps.length = takes.length + world.engine.flowLoop.reads
  sent : sends ++ world.engine.flowLoop.unsent = takes.filterMap command?

namespace Coalesced

variable {asks : List Command} {woken taken : List Int32} {sent : List Command}

/-- The flow loop does nothing, and what is asked for is in the count. -/
theorem ask (coalesced : Coalesced asks woken taken sent world)
    (still : world'.engine.flowLoop = world.engine.flowLoop) (more : List Command)
    (net : world'.connection.feed.flow.net =
      world.connection.feed.flow.net + Int32.ofInt (excess more))
    (heard : world'.connection.feed.flow.woken = false → ¬world'.Waking →
      (world.connection.feed.flow.woken = false ∧ ¬world.Waking) ∧
        world'.connection.feed.flow.net = world.connection.feed.flow.net) :
    Coalesced (asks ++ more) woken taken sent world' where
  net := by
    rw [net, coalesced.net, ← Int32.ofInt_add, excess_append]
    congr 1
    omega
  heard := by
    intro asleep settled
    obtain ⟨⟨asleep, settled⟩, same⟩ := heard asleep settled
    rw [still, same]
    exact coalesced.heard asleep settled
  taken := by
    rw [still]
    exact coalesced.taken
  sent := by
    rw [still]
    exact coalesced.sent

theorem ofConfig (config : Config) : Coalesced [] [] [] [] (ofConfig config) where
  net := rfl
  heard := fun _ _ => rfl
  taken := rfl
  sent := rfl

end Coalesced

/-- A caller that has not woken the loop stays, or wakes it. -/
theorem waking_step (move : Move) (waking : world.Waking) :
    (world.step move).Waking ∨ (world.step move).connection.feed.flow.woken = true := by
  have stays {n : Nat} {activity activity' : Activity} {entries : List Entry}
      {connection : Connection} (found : world.activities[n]? = some activity)
      (still : activity.stage.wakes → activity'.stage.wakes) :
      (world.recordCaller n activity' entries connection).Waking ∨
        (world.recordCaller n activity' entries connection).connection.feed.flow.woken = true :=
    .inl (stage_recordCaller (p := (·.wakes)) found still waking)
  have goes_on (n : Nat) (poll : Receipt → Option (Except Failure Bytes)) :
      (world.goOn n poll).Waking ∨ (world.goOn n poll).connection.feed.flow.woken = true := by
    unfold goOn
    split
    · exact .inl waking
    · next found => exact stays found id
    · next found =>
      split
      · exact .inl waking
      · exact stays found (by simp [Stage.wakes])
    · next found => exact stays found (by simp [Stage.wakes])
    · next found => exact stays found (by simp [Stage.wakes])
    · exact .inr rfl
    · exact .inl waking
  cases move with
  | start operation =>
    obtain ⟨activity, mem, wakes⟩ := waking
    exact .inl ⟨activity, List.mem_append_left _ mem, wakes⟩
  | advance n caller => exact goes_on n _
  | block n caller => exact goes_on n _
  | supply n result =>
    simp only [step, supply]
    split
    · next found => exact stays found (by simp [Stage.wakes])
    · next found =>
      split
      · exact stays found (by simp [Stage.wakes])
      · exact .inl waking
    · exact .inl waking
  | cancel n =>
    simp only [step, cancel]
    split
    · next found => exact stays found (by simp [Stage.wakes])
    · next found => exact stays found (by simp [Stage.wakes])
    · exact .inl waking
  | _ => exact .inl waking

namespace Coalesced

variable {asks : List Command} {woken taken : List Int32} {sent : List Command}

/-- What is noted of a move is added to what was noted before. -/
def After (asks : List Command) (woken taken : List Int32) (sent : List Command) (world : World)
    (move : Move) : Prop :=
  Coalesced (asks ++ world.requests move) (woken ++ world.wakeUps move) (taken ++ world.takes move)
    (sent ++ world.sends move) (world.step move)

/-- A move that is not of the flow loop. -/
theorem others (coalesced : Coalesced asks woken taken sent world)
    (still : (world.step move).engine.flowLoop = world.engine.flowLoop)
    (other : move ≠ .wakeFlow ∧ move ≠ .advanceFlow) : After asks woken taken sent world move := by
  have none : world.wakeUps move = [] ∧ world.takes move = [] ∧ world.sends move = [] := by
    refine ⟨?_, ?_, ?_⟩
    · rw [wakeUps, still, if_neg]
      rintro ⟨waits, awake⟩
      cases waits.symm.trans awake
    · unfold takes
      split
      · exact absurd rfl other.2
      · rfl
    · unfold sends
      split
      · exact absurd rfl other.2
      · rfl
  rw [After, none.1, none.2.1, none.2.2, List.append_nil, List.append_nil, List.append_nil]
  by_cases unasked : Unasked move
  · have asks : world.requests move =
        asked world.connection.feed.flow (world.step move).connection.feed.flow := by
      unfold requests
      split
      · exact absurd rfl unasked.1
      · exact absurd rfl unasked.2
      · rfl
    have notes : Notes world.connection.feed.flow (world.step move).connection.feed.flow := by
      obtain ⟨entries, -, turn⟩ := @feed_turn world move
      obtain flow | flow | ⟨depth, flow⟩ := turn.flow unasked other
      · rw [flow]
        exact .still rfl rfl id
      · rw [flow]
        exact .still rfl rfl nofun
      · rw [flow]
        exact notes_onDepth depth
    rw [asks]
    refine coalesced.ask still _ notes.net fun asleep settled => ?_
    obtain ⟨asleep', net⟩ := notes.woken asleep
    refine ⟨⟨asleep', fun waking => ?_⟩, net⟩
    obtain waits | wakes := @waking_step world move waking
    · exact settled waits
    · rw [asleep] at wakes
      cases wakes
  · -- The caller that asks has still to wake the loop.
    have begun {activity : Activity} (wakes : activity.stage.wakes) :
        ∃ other ∈ world.activities ++ [activity], other.stage.wakes :=
      ⟨activity, List.mem_append_right _ (List.mem_singleton_self _), wakes⟩
    obtain rfl | rfl : move = .start .hold ∨ move = .start .release := by
      simpa only [Unasked, not_and_or, not_not] using unasked
    · exact coalesced.ask still [.holdEvents] rfl fun _ settled => absurd (begun rfl) settled
    · exact coalesced.ask still [.releaseEvents] rfl fun _ settled => absurd (begun rfl) settled

/-- A move of the flow loop, which asks for nothing. -/
theorem loop (coalesced : Coalesced asks woken taken sent world) (actor : move.actor = .flowLoop)
    (held : (world.step move).connection.feed.flow.held = world.connection.feed.flow.held)
    (net : (world.step move).connection.feed.flow.net =
      world.connection.feed.flow.net - Int32.ofInt (amount (world.takes move)))
    (heard : (world.step move).connection.feed.flow.woken = false →
      ¬(world.step move).Waking → (world.step move).engine.flowLoop.Knows
        (world.step move).connection.feed.flow.net)
    (takes : (world.wakeUps move).length + world.engine.flowLoop.reads =
      (world.takes move).length + (world.step move).engine.flowLoop.reads)
    (sends : world.sends move ++ (world.step move).engine.flowLoop.unsent =
      world.engine.flowLoop.unsent ++ (world.takes move).filterMap command?) :
    After asks woken taken sent world move := by
  have none : world.requests move = [] := by
    cases move <;> first | exact if_pos held.symm | cases actor
  rw [After, none, List.append_nil]
  constructor
  · rw [net, coalesced.net, ← Int32.ofInt_sub, amount_append]
    congr 1
    omega
  · exact heard
  · have before := coalesced.taken
    simp only [List.length_append]
    omega
  · rw [List.append_assoc, sends, ← List.append_assoc, coalesced.sent, List.filterMap_append]

/-- The flow loop makes a move that is not possible, or stops. -/
theorem idle (coalesced : Coalesced asks woken taken sent world) (actor : move.actor = .flowLoop)
    (flow : (world.step move).connection.feed.flow = world.connection.feed.flow)
    (loop : (world.step move).engine.flowLoop = world.engine.flowLoop ∨
      world.engine.flowLoop = .waiting ∧ (world.step move).engine.flowLoop = .stopped)
    (takes : world.takes move = []) (sends : world.sends move = []) :
    After asks woken taken sent world move := by
  have activities : (world.step move).activities = world.activities := by
    cases move <;> first | rfl | cases actor
  have same :
      (∀ net, (world.step move).engine.flowLoop.Knows net = world.engine.flowLoop.Knows net) ∧
      (world.step move).engine.flowLoop.reads = world.engine.flowLoop.reads ∧
      (world.step move).engine.flowLoop.unsent = world.engine.flowLoop.unsent ∧
      world.wakeUps move = [] := by
    obtain same | ⟨waits, stopped⟩ := loop
    · refine ⟨fun net => by rw [same], by rw [same], by rw [same], ?_⟩
      rw [wakeUps, same, if_neg]
      rintro ⟨waits, awake⟩
      cases waits.symm.trans awake
    · refine ⟨fun net => by rw [waits, stopped]; rfl, by rw [waits, stopped]; rfl,
        by rw [waits, stopped]; rfl, ?_⟩
      rw [wakeUps, stopped, if_neg (by simp)]
  obtain ⟨knows, reads, unsent, wakeUps⟩ := same
  refine coalesced.loop actor (congrArg FlowControl.held flow) ?_ ?_ ?_ ?_
  · rw [flow, takes]
    exact (Int32.sub_zero _).symm
  · rw [flow, knows, Waking, activities]
    exact coalesced.heard
  · rw [wakeUps, takes, reads]
  · rw [sends, unsent, takes]
    exact (List.append_nil _).symm

theorem wakeFlow (coalesced : Coalesced asks woken taken sent world) :
    After asks woken taken sent world .wakeFlow := by
  by_cases ready : world.engine.flowLoop = .waiting ∧ world.engine.flowWork = [] ∧
      world.connection.feed.flow.woken
  · have engine : (world.step .wakeFlow).engine =
        { world.engine.updateFlow ({ · with woken := false }) with flowLoop := .awake } :=
      if_pos ready
    refine coalesced.loop rfl ?_ ?_ ?_ ?_ ?_
    · rw [connection, engine]
      rfl
    · rw [connection, engine]
      exact (Int32.sub_zero _).symm
    · rw [engine]
      exact fun _ _ => trivial
    · rw [wakeUps, engine, if_pos ⟨ready.1, rfl⟩, ready.1]
      rfl
    · rw [engine, ready.1]
      rfl
  · have engine : (world.step .wakeFlow).engine = world.engine := if_neg ready
    refine coalesced.idle rfl ?_ (.inl (congrArg Engine.flowLoop engine)) rfl rfl
    rw [connection, engine]
    rfl

theorem stopFlow (coalesced : Coalesced asks woken taken sent world) :
    After asks woken taken sent world .stopFlow := by
  by_cases ready : world.engine.flowLoop = .waiting ∧ world.engine.flowWork = [] ∧
      world.engine.connection.closed
  · have engine : (world.step .stopFlow).engine = { world.engine with flowLoop := .stopped } :=
      if_pos ready
    refine coalesced.idle rfl ?_ (.inr ⟨ready.1, by rw [engine]⟩) rfl rfl
    rw [connection, engine]
    rfl
  · have engine : (world.step .stopFlow).engine = world.engine := if_neg ready
    refine coalesced.idle rfl ?_ (.inl (congrArg Engine.flowLoop engine)) rfl rfl
    rw [connection, engine]
    rfl

/-- The loop reads the count. -/
theorem load (coalesced : Coalesced asks woken taken sent world)
    (stage : world.engine.flowLoop = .awake) : After asks woken taken sent world .advanceFlow := by
  have engine : (world.step .advanceFlow).engine =
      { world.engine with flowLoop := .loaded world.connection.feed.flow.net } := by
    simp only [step, record, Engine.advanceFlow, stage]
    rfl
  have none : world.takes .advanceFlow = [] := by
    simp only [takes, stage]
  refine coalesced.loop rfl ?_ ?_ ?_ ?_ ?_
  · rw [connection, engine]
    rfl
  · rw [connection, engine, none]
    exact (Int32.sub_zero _).symm
  · rw [connection, engine]
    exact fun _ _ => rfl
  · rw [wakeUps, stage, if_neg (by simp), none, engine]
    rfl
  · rw [sends, stage, engine, none]
    rfl

/-- The loop takes what it has read out of the count. -/
theorem take {net : Int32} (coalesced : Coalesced asks woken taken sent world)
    (stage : world.engine.flowLoop = .loaded net) :
    After asks woken taken sent world .advanceFlow := by
  have read : world.takes .advanceFlow = [net] := by
    simp only [takes, stage]
  have known := coalesced.heard
  rw [stage] at known
  by_cases none : net = 0
  · subst none
    have engine :
        (world.step .advanceFlow).engine = { world.engine with flowLoop := .waiting } := by
      simp only [step, record, Engine.advanceFlow, stage, if_true]
    refine coalesced.loop rfl ?_ ?_ ?_ ?_ ?_
    · rw [connection, engine]
      rfl
    · rw [connection, engine, read]
      exact (Int32.sub_zero _).symm
    · rw [connection, engine]
      exact known
    · rw [wakeUps, stage, if_neg (by simp), read, engine]
      rfl
    · rw [sends, stage, engine, read]
      rfl
  · -- What was asked for since the count was read stays in it.
    have engine : (world.step .advanceFlow).engine =
        { world.engine.updateFlow (·.bump (-net)) with flowLoop := .captured net } := by
      simp only [step, record, Engine.advanceFlow, stage, if_neg none]
    refine coalesced.loop rfl ?_ ?_ ?_ ?_ ?_
    · rw [connection, engine]
      rfl
    · rw [connection, engine, read, amount, amount, Int.add_zero, Int32.ofInt_toInt,
        Int32.sub_eq_add_neg]
      rfl
    · rw [connection, engine]
      intro asleep settled
      have same : world.connection.feed.flow.net = net := known asleep settled
      show world.connection.feed.flow.net + -net = 0
      rw [same, ← Int32.sub_eq_add_neg, Int32.sub_self]
    · rw [wakeUps, stage, if_neg (by simp), read, engine]
      rfl
    · rw [sends, stage, engine, read, List.filterMap_cons_some (command?_of_ne none)]
      rfl

/-- The loop sends the command for what it has taken. -/
theorem send {net : Int32} (coalesced : Coalesced asks woken taken sent world)
    (stage : world.engine.flowLoop = .captured net) :
    After asks woken taken sent world .advanceFlow := by
  have none : world.takes .advanceFlow = [] := by
    simp only [takes, stage]
  have known := coalesced.heard
  rw [stage] at known
  obtain ⟨knows, reads, unsent⟩ : (∀ net, (world.step .advanceFlow).engine.flowLoop.Knows net =
        (net = 0)) ∧ (world.step .advanceFlow).engine.flowLoop.reads = 0 ∧
      (world.step .advanceFlow).engine.flowLoop.unsent = [] := by
    obtain ⟨waits | stops, -⟩ := Engine.advanceFlow_captured stage
    · rw [show (world.step .advanceFlow).engine.flowLoop = .waiting from waits]
      exact ⟨fun _ => rfl, rfl, rfl⟩
    · rw [show (world.step .advanceFlow).engine.flowLoop = .stopped from stops]
      exact ⟨fun _ => rfl, rfl, rfl⟩
  refine coalesced.loop rfl ?_ ?_ ?_ ?_ ?_
  · rw [feed_captured stage]
  · rw [feed_captured stage, none]
    exact (Int32.sub_zero _).symm
  · rw [feed_captured stage, knows]
    exact known
  · rw [wakeUps, stage, if_neg (by simp), none, reads]
    rfl
  · rw [sends, stage, unsent, none]
    rfl

theorem advanceFlow (coalesced : Coalesced asks woken taken sent world) :
    After asks woken taken sent world .advanceFlow := by
  -- A loop that waits or has stopped does not go on.
  have nothing (engine : (world.step .advanceFlow).engine = world.engine)
      (takes : world.takes .advanceFlow = []) (sends : world.sends .advanceFlow = []) :
      After asks woken taken sent world .advanceFlow := by
    refine coalesced.idle rfl ?_ (.inl (congrArg Engine.flowLoop engine)) takes sends
    rw [connection, engine]
    rfl
  cases stage : world.engine.flowLoop with
  | awake => exact coalesced.load stage
  | loaded net => exact coalesced.take stage
  | captured net => exact coalesced.send stage
  | waiting =>
    refine nothing ?_ ?_ ?_
    · simp only [World.step, record, Engine.advanceFlow, stage]
    · simp only [World.takes, stage]
    · rw [World.sends, stage]
      rfl
  | stopped =>
    refine nothing ?_ ?_ ?_
    · simp only [World.step, record, Engine.advanceFlow, stage]
    · simp only [World.takes, stage]
    · rw [World.sends, stage]
      rfl

theorem step (coalesced : Coalesced asks woken taken sent world) (move : Move) :
    After asks woken taken sent world move := by
  have spares := @spares_step world move
  cases move with
  | wakeFlow => exact coalesced.wakeFlow
  | advanceFlow => exact coalesced.advanceFlow
  | stopFlow => exact coalesced.stopFlow
  | performFlow =>
    refine coalesced.others ?_ (by simp)
    simp only [World.step, record, Engine.performFlow]
    split <;> rfl
  | _ => exact coalesced.others (spares.flowLoop (by simp [Move.actor])).1 (by simp)

end Coalesced

theorem coalesced_play (config : Config) (moves : List Move) :
    Coalesced (gather requests (ofConfig config) moves) (gather wakeUps (ofConfig config) moves)
      (gather takes (ofConfig config) moves) (gather sends (ofConfig config) moves)
      (play config moves) := by
  induction moves using List.reverseRecOn with
  | nil => exact .ofConfig config
  | append_singleton moves move ih =>
    rw [play_append, gather_play, gather_play, gather_play, gather_play]
    exact ih.step move

end World

/-! ## A live connection -/

namespace Connection

variable (connection : Connection)

theorem closed_issue (command : Command) (data : Bytes) :
    (connection.issue command data).2.2.closed = connection.closed := by
  rcases connection.dead.eq_false_or_eq_true with dead | live
  · rw [issue_of_dead dead]
  · rcases connection.outboundOpen.eq_false_or_eq_true with accepts | refuses
    · rw [issue_of_open live accepts]
      rfl
    · rw [issue_of_closed live refuses]
      rfl

theorem closed_invalidate : connection.invalidate.2.closed = connection.closed := by
  unfold invalidate
  split <;> rfl

/-- Only one piece of work tells the engine that the connection is closed. -/
theorem closed_perform {work : Work} (other : work ≠ .markClosed) :
    (connection.perform work).2.closed = connection.closed := by
  cases work with
  | replied reply =>
    simp only [perform, replied, take]
    cases connection.request? reply.id <;> rfl
  | abandon id failure =>
    simp only [perform, take]
    cases connection.request? id <;> rfl
  | suspended =>
    simp only [perform, noteSuspended]
    split
    · rfl
    · split <;> rfl
  | release lease =>
    simp only [perform]
    split <;> rfl
  | reclaim object retained =>
    simp only [perform, reclaim]
    split <;> rfl
  | flush =>
    simp only [perform]
    split <;> rfl
  | sendBatch counts =>
    simp only [perform]
    split <;> rfl
  | dispose payload => exact connection.closed_issue .disposeObjects payload
  | close =>
    simp only [perform]
    split <;> rfl
  | disconnect =>
    simp only [perform, disconnect]
    split
    · rfl
    · exact closed_invalidate _
  | markClosed => exact absurd rfl other
  | _ => rfl

end Connection

namespace World

variable {world : World}

theorem closed_deed {engine : Engine} {used left : List Work} {entries : List Entry}
    {after : Connection} (deed : Deed engine used entries left after)
    (other : used ≠ [.markClosed]) : after.closed = engine.connection.closed := by
  cases deed with
  | perform work =>
    refine engine.connection.closed_perform ?_
    rintro rfl
    exact other rfl
  | issue command data notices => exact Connection.closed_issue _ command data
  | probe =>
    simp only [Connection.probe]
    split <;> rfl
  | store n key stamp value =>
    simp only [Connection.store]
    split <;> rfl
  | invalidate => exact engine.connection.closed_invalidate
  | _ => rfl

/-- The engine is told that the connection is closed once it is dead. -/
theorem dead_of_told (config : Config) (moves : List Move) :
    (play config moves).connection.closed = true → (play config moves).connection.dead = true := by
  refine play_induction (P := fun _ world => world.connection.closed = true →
    world.connection.dead = true) nofun ?_ moves
  intro moves move known closed
  refine (turns_play config moves move).dead ?_
  obtain ⟨used, entries, left, deed, -, replaced⟩ := does_step (tidy_play config moves) move
  by_cases told : used = [.markClosed]
  · obtain ⟨earlier, later, works, -⟩ := replaced.works
    refine (parted_play config moves).waits .markClosed ?_ rfl
    rw [works, told]
    simp
  · rw [closed_deed deed told] at closed
    exact known closed

/-- On a live connection the flow loop issues what it sends, and goes on. -/
theorem tells_step (move : Move) (goes : world.engine.flowLoop ≠ .stopped)
    (live : world.connection.dead = false) (untold : world.connection.closed = false)
    (accepts : world.connection.outboundOpen = true) :
    world.tells move = world.sends move ∧ (world.step move).engine.flowLoop ≠ .stopped := by
  have spares := @spares_step world move
  cases move with
  | advanceFlow =>
    cases stage : world.engine.flowLoop with
    | captured net =>
      obtain ⟨issued, waits⟩ := tells_captured stage live accepts
      rw [issued, waits, sends, stage]
      exact ⟨rfl, by rintro ⟨⟩⟩
    | loaded net =>
      rw [tells_advanceFlow (by simp [stage]), sends, stage]
      refine ⟨rfl, ?_⟩
      simp only [step, record, Engine.advanceFlow, stage]
      split <;> rintro ⟨⟩
    | stopped => exact absurd stage goes
    | _ =>
      rw [tells_advanceFlow (by simp [stage]), sends, stage]
      refine ⟨rfl, ?_⟩
      simp [step, record, Engine.advanceFlow, stage]
  | stopFlow =>
    refine ⟨rfl, ?_⟩
    rw [step, record, Engine.stopFlow, if_neg]
    · exact goes
    · rintro ⟨-, -, told⟩
      cases untold.symm.trans told
  | wakeFlow =>
    refine ⟨rfl, ?_⟩
    simp only [step, record, Engine.wakeFlow]
    split
    · rintro ⟨⟩
    · exact goes
  | performFlow =>
    refine ⟨rfl, ?_⟩
    simp only [step, record, Engine.performFlow]
    split <;> exact goes
  | _ =>
    refine ⟨rfl, ?_⟩
    rw [(spares.flowLoop (by simp [Move.actor])).1]
    exact goes

theorem flowCommands_eq (config : Config) (moves : List Move)
    (live : (play config moves).connection.dead = false) :
    (ofConfig config).flowCommands moves = gather sends (ofConfig config) moves ∧
      (play config moves).engine.flowLoop ≠ .stopped := by
  induction moves using List.reverseRecOn with
  | nil => exact ⟨rfl, nofun⟩
  | append_singleton moves move ih =>
    rw [play_append] at live
    have live := (turns_play config moves move).up live
    have untold : (play config moves).connection.closed = false :=
      Bool.eq_false_iff.mpr fun told => by
        have dead := dead_of_told config moves told
        rw [live] at dead
        cases dead
    obtain ⟨same, goes⟩ := ih live
    obtain ⟨told, goes⟩ :=
      tells_step move goes live untold ((shutdown_play config moves).accepts live)
    rw [play_append, flowCommands_append, gather_play, same]
    refine ⟨?_, goes⟩
    rw [flowCommands, flowCommands, List.append_nil]
    exact congrArg _ told

/-- Whoever asks for events to be held or released, and whatever comes in between: what the flow
loop has taken and what is in the count is what was asked for, as far as the count can hold it. For
each wake-up the loop takes a count once, and sends a command to hold if it is positive, to release
if it is negative, and none if it is zero. While the loop waits with a count that is not zero a
wake-up is stored, unless a caller that has asked has still to store it. So on a live connection,
where each command that is sent is issued, the count is zero when there is nothing left to do. -/
theorem coalesced (config : Config) (moves : List Move) :
    let world := play config moves
    let flow := world.connection.feed.flow
    let asked := excess (gather requests (ofConfig config) moves)
    let taken := gather takes (ofConfig config) moves
    let sent := gather sends (ofConfig config) moves
    (Int32.minValue.toInt ≤ asked - amount taken → asked - amount taken ≤ Int32.maxValue.toInt →
      amount taken + flow.net.toInt = asked) ∧
    (gather wakeUps (ofConfig config) moves).length = taken.length + world.engine.flowLoop.reads ∧
    sent ++ world.engine.flowLoop.unsent = taken.filterMap command? ∧
    (world.engine.flowLoop = .waiting → flow.net ≠ 0 → ¬world.Waking → flow.woken = true) ∧
    (world.connection.dead = false →
      (ofConfig config).flowCommands moves = sent ∧ world.engine.flowLoop ≠ .stopped ∧
      (world.engine.flowLoop = .waiting → flow.woken = false → ¬world.Waking → flow.net = 0)) := by
  intro world flow asked taken sent
  have coalesced := coalesced_play config moves
  have heard (waits : world.engine.flowLoop = .waiting) (asleep : flow.woken = false)
      (settled : ¬world.Waking) : flow.net = 0 := by
    have knows := coalesced.heard asleep settled
    rwa [waits] at knows
  refine ⟨?_, coalesced.taken, coalesced.sent, ?_, ?_⟩
  · intro least most
    have net : flow.net.toInt = asked - amount taken := by
      rw [Int32.toInt_minValue] at least
      rw [Int32.toInt_maxValue] at most
      rw [coalesced.net]
      show (Int32.ofInt (asked - amount taken)).toInt = asked - amount taken
      exact Int32.toInt_ofInt_of_le least (by omega)
    rw [net]
    omega
  · intro waits some settled
    by_contra asleep
    exact some (heard waits (Bool.eq_false_iff.mpr asleep) settled)
  · intro live
    obtain ⟨issued, goes⟩ := flowCommands_eq config moves live
    exact ⟨issued, goes, heard⟩

/-- Two callers and the policy ask for events to be held, one of them between what the loop reads
and what it takes out of the count. It is told of at the next wake-up. -/
theorem coalesced_interrupted :
    let config : Config := { highWatermark := 2, lowWatermark := 1 }
    let moves : List Move := flood 3 ++ [.wakeFlow, .start .hold, .advance 1 .task, .advanceFlow,
      .start .hold, .advanceFlow, .advance 2 .task, .advanceFlow, .performFlow, .wakeFlow,
      .advanceFlow, .advanceFlow]
    gather requests (ofConfig config) moves = [.holdEvents, .holdEvents, .holdEvents] ∧
      gather takes (ofConfig config) moves = [2, 1] ∧
      amount [2, 1] + (play config moves).connection.feed.flow.net.toInt = 3 ∧
      gather sends (ofConfig config) moves = [.holdEvents] ∧
      (play config moves).engine.flowLoop = .captured 1 ∧
      (play config moves).connection.dead = false ∧
      (ofConfig config).flowCommands moves = gather sends (ofConfig config) moves := by
  intro config moves
  have asked : gather requests (ofConfig config) moves =
      [.holdEvents, .holdEvents, .holdEvents] := by decide +kernel
  have taken : gather takes (ofConfig config) moves = [2, 1] := by decide +kernel
  have live : (play config moves).connection.dead = false := by decide +kernel
  obtain ⟨net, -, -, -, goes⟩ := coalesced config moves
  rw [asked, taken] at net
  refine ⟨asked, taken, net (by decide) (by decide), by decide +kernel, by decide +kernel, live, ?_⟩
  exact (goes live).1

end World

end DebugLink
