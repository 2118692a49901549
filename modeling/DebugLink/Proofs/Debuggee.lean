import DebugLink.Proofs.Coherence
import DebugLink.Proofs.Correlation
import DebugLink.Proofs.Layout

/-!
# Debuggee: both ends of a connection

A `Link` is an engine with its callers and a debuggee behind two channels. The debuggee handles the
frames that were written in the order in which they were written, and what it sends is read in the
order in which it was sent. It starts to run only while a command that lets it run is open, that
is, handled and not answered, and it tells of a suspension only while it is suspended. Nothing else
is known of it.

What is under way on a link is its `View`, and every move is a step of that (`view_step`). So if the
scope becomes active only where the dispatcher acts on an event, the debuggee is suspended whenever
it is active, and every command that let it run was answered.
-/

namespace DebugLink

/-- The debuggee's end of a connection. -/
structure Debuggee where
  suspended : Bool
  /-- The frames that were written and are not handled. -/
  inbox : List Bytes := []
  /-- The commands that it is handling or has handled, and has not answered. -/
  opened : List CommandPacket := []
  /-- The frames that it has sent and that are not read. -/
  outbox : List Bytes := []

/-- The command in a frame. -/
def frameCommand? (frame : Bytes) : Option CommandPacket :=
  match Packet.decode frame with
  | .ok (.command packet) => some packet
  | _ => none

namespace Debuggee

variable (debuggee : Debuggee)

/-- Begins to handle the next command. -/
def handle : Debuggee :=
  match debuggee.inbox with
  | [] => debuggee
  | frame :: rest =>
    { debuggee with inbox := rest, opened := debuggee.opened ++ (frameCommand? frame).toList }

/-- Starts to run, if a command lets it. -/
def run : Debuggee :=
  if debuggee.opened.any (·.asks.resumes) then { debuggee with suspended := false } else debuggee

/-- Is suspended as a whole, for whatever reason. -/
def halt : Debuggee :=
  { debuggee with suspended := true }

/-- Sends a frame: the reply to an open command, the news that it is suspended if it is, or
anything that is neither. -/
def send (frame : Bytes) : Debuggee :=
  match frameSignal? frame with
  | none => { debuggee with outbox := debuggee.outbox ++ [frame] }
  | some .stopped =>
    if debuggee.suspended then { debuggee with outbox := debuggee.outbox ++ [frame] } else debuggee
  | some (.replied id) =>
    match debuggee.opened.find? (·.id == id) with
    | none => debuggee
    | some packet =>
      { debuggee with
        outbox := debuggee.outbox ++ [frame], opened := debuggee.opened.erase packet }

end Debuggee

/-- A step of either end. -/
inductive LinkMove
  /-- Somebody at the engine's end makes a move. It reads nothing but the end of the transport. -/
  | engine (move : Move)
  /-- The dispatcher reads the next frame. -/
  | read
  -- The debuggee
  | handle
  | run
  | halt
  | send (frame : Bytes)

/-- An engine with its callers, and the debuggee that it is connected to. -/
structure Link where
  world : World
  debuggee : Debuggee

namespace Link

/-- A new connection to a debuggee. -/
def ofConfig (config : Config) (suspended : Bool) : Link where
  world := .ofConfig config
  debuggee := { suspended }

variable (link : Link)

/-- The engine makes a step. What it hands to the transport comes to the debuggee. -/
def pass (world : World) : Link where
  world
  debuggee := { link.debuggee with
    inbox := link.debuggee.inbox ++ World.sent link.world world }

/-- Makes a move. -/
def step : LinkMove → Link
  | .engine move => if move.feeds then link else link.pass (link.world.step move)
  | .read =>
    match link.debuggee.outbox with
    | [] => link
    | frame :: rest =>
      if link.world.engine.dispatcher = .reading ∧ link.world.engine.dispatcherWork = [] then
        { world := link.world.step (.receive (.frame frame))
          debuggee := { link.debuggee with outbox := rest } }
      else link
  | .handle => { link with debuggee := link.debuggee.handle }
  | .run => { link with debuggee := link.debuggee.run }
  | .halt => { link with debuggee := link.debuggee.halt }
  | .send frame => { link with debuggee := link.debuggee.send frame }

/-- Makes moves one after the other on a new connection. -/
def play (config : Config) (suspended : Bool) (moves : List LinkMove) : Link :=
  moves.foldl step (ofConfig config suspended)

theorem play_append (config : Config) (suspended : Bool) (moves : List LinkMove)
    (move : LinkMove) :
    play config suspended (moves ++ [move]) = (play config suspended moves).step move := by
  rw [play, List.foldl_append]; rfl

/-- Whether the engine believes that the debuggee is suspended. -/
def active : Bool :=
  link.world.connection.scope.active

/-- The scope becomes active only where the dispatcher acts on what it has read. -/
def ByEvents : Link → List LinkMove → Prop
  | _, [] => True
  | link, move :: moves =>
    (link.active = false → (link.step move).active = true → move = .engine .performDispatcher) ∧
      ByEvents (link.step move) moves

end Link

namespace World

/-- The connection is up, every packet could be written, and no id was used twice. -/
structure Running (world : World) : Prop where
  few : world.connection.issued < UInt32.size
  up : world.connection.dead = false
  unfailed : ∀ id failure, .wrote id (.error failure) ∉ world.journal

/-- What is running now was running before. -/
theorem Running.before {config : Config} {moves : List Move} {move : Move}
    (running : Running ((play config moves).step move)) : Running (play config moves) := by
  have turns := turns_play config moves move
  refine ⟨Nat.lt_of_le_of_lt (issued_le turns.request) running.few, turns.up running.up, ?_⟩
  obtain ⟨used, entries, left, -, journal, -⟩ := turns
  intro id failure failed
  apply running.unfailed id failure
  rw [journal]
  exact List.mem_append_left _ failed

/-- While all is well, a command meets its fate by its reply. -/
theorem Running.exists_reply {config : Config} {moves : List Move} {receipt : Receipt}
    (running : Running (play config moves))
    (decided : (fate receipt (play config moves).journal).isSome) :
    ∃ reply, .performed (.replied reply) ∈ since receipt (play config moves).journal ∧
      reply.id = receipt.id :=
  reply_of_decided config moves running.up (fun failure => running.unfailed _ failure) decided

end World

namespace Link

variable {link : Link}

/-- What is under way on a link. -/
def view (link : Link) : View where
  suspended := link.debuggee.suspended
  scope := link.world.connection.scope
  commands := link.debuggee.opened ++
    (link.debuggee.inbox ++ link.world.connection.queued).filterMap frameCommand?
  signals := link.world.signals ++ link.debuggee.outbox.filterMap frameSignal?
  issued := (receipts link.world.journal).map (·.id)

/-- A frame in which a command was written holds no other. -/
theorem frameCommand_encode {packet read : CommandPacket}
    (mem : read ∈ frameCommand? packet.encode) : read = packet := by
  unfold frameCommand? at mem
  split at mem
  · next decoded =>
    obtain rfl := Option.mem_some.mp mem
    exact Packet.command.inj (Packet.decode_command decoded)
  · cases mem

theorem commands_pass (world : World) :
    (link.pass world).view.commands =
      link.debuggee.opened ++ link.debuggee.inbox.filterMap frameCommand? ++
        (World.sent link.world world ++ world.connection.queued).filterMap frameCommand? := by
  simp [view, pass]

theorem commands_view :
    link.view.commands = link.debuggee.opened ++ link.debuggee.inbox.filterMap frameCommand? ++
      link.world.connection.queued.filterMap frameCommand? := by
  simp [view]

/-- A move at the engine's end is a step of what is under way. -/
theorem view_pass {world : World} (passes : World.Passes link.world world)
    (numbered : World.Numbered world) (few : world.connection.issued < UInt32.size) :
    View.Step link.view (link.pass world).view := by
  obtain ⟨signal, issued, passage, heard, issues⟩ := passes
  have issued' : (link.pass world).view.issued = link.view.issued ++ issued.map (·.1.id) := by
    show (receipts world.journal).map (·.id) = (receipts link.world.journal).map (·.id) ++ _
    rw [receipts, issues, receipts]
    simp
  have signals : link.view.signals = signal.toList ++ (link.pass world).view.signals := by
    show link.world.signals ++ _ = signal.toList ++ (world.signals ++ _)
    rw [heard, List.append_assoc]
    rfl
  -- What was queued is queued still, or has come to the debuggee.
  have same (frames : World.sent link.world world ++ world.connection.queued =
      link.world.connection.queued) : (link.pass world).view.commands = link.view.commands := by
    rw [commands_pass, commands_view, frames]
  cases passage with
  | quiet resumes active frames =>
    have after : (link.pass world).view = { link.view with
        scope := world.connection.scope, commands := (link.pass world).view.commands } :=
      View.ext rfl rfl rfl signals.symm (issued'.trans (List.append_nil _))
    rw [after]
    refine .quiet resumes active ?_
    rw [commands_pass, commands_view]
    exact (List.Sublist.refl _).append (frames.filterMap _)
  | issue command data scope frames =>
    have after : (link.pass world).view = { link.view with
        scope := if command.resumes then
          link.view.scope.expectResume link.world.connection.nextId else link.view.scope
        commands := link.view.commands ++ (frameCommand? (CommandPacket.encode
          ⟨link.world.connection.nextId, command.set, command.number, data⟩)).toList
        issued := link.view.issued ++ [link.world.connection.nextId] } := by
      refine View.ext rfl scope ?_ signals.symm issued'
      rw [commands_pass, commands_view, frames, List.filterMap_append, List.append_assoc]
      cases read : frameCommand? (CommandPacket.encode _) <;> simp [read]
    rw [after]
    refine .issue command _ _ ?_ ?_
    · -- No two commands have the same id, the new one included.
      have nodup : (link.pass world).view.issued.Nodup := numbered.nodup_ids few
      rw [issued', List.nodup_append] at nodup
      exact fun mem => nodup.2.2 _ mem _ (List.mem_singleton_self _) rfl
    · intro packet mem
      rw [frameCommand_encode mem]
      exact ⟨rfl, rfl⟩
  | replied id scope frames =>
    have after : (link.pass world).view = { link.view with
        scope := link.view.scope.complete id, signals := (link.pass world).view.signals } :=
      View.ext rfl scope (same frames) rfl (issued'.trans (List.append_nil _))
    rw [after]
    exact .settle id signals
  | stopped scope frames =>
    have after : (link.pass world).view = { link.view with
        scope := link.view.scope.suspend, signals := (link.pass world).view.signals } :=
      View.ext rfl scope (same frames) rfl (issued'.trans (List.append_nil _))
    rw [after]
    exact .believe signals

/-- Reading a frame changes nothing of what is under way. -/
theorem view_read : (link.step .read).view = link.view := by
  simp only [step]
  split
  · rfl
  · next frame rest sent =>
    split
    · next ready =>
      obtain ⟨keeps, signals, journal⟩ := World.read_frame ready.1 ready.2 frame
      refine View.ext rfl keeps.scope ?_ ?_ ?_
      · simp only [view, keeps.queued]
      · have none : link.world.signals = [] := by rw [World.signals, ready.2]; rfl
        simp only [view, signals, none, sent]
        rw [filterMap_cons_toList, List.nil_append]
      · simp only [view, journal]
    · rfl

/-- Nor does handling one. -/
theorem view_handle : (link.step .handle).view = link.view := by
  simp only [step, Debuggee.handle]
  split
  · rfl
  · next frame rest inbox =>
    refine View.ext rfl rfl ?_ rfl rfl
    simp only [view, inbox, List.cons_append]
    rw [filterMap_cons_toList, List.append_assoc]

/-- The debuggee starts to run only if a command under way lets it. -/
theorem view_run : View.Step link.view (link.step .run).view := by
  simp only [step, Debuggee.run]
  split
  · next lets =>
    obtain ⟨packet, opened, resumes⟩ := List.any_eq_true.mp lets
    exact .run (List.mem_append_left _ opened) resumes
  · exact .still

theorem view_send (frame : Bytes) : View.Step link.view (link.step (.send frame)).view := by
  have sent (signal : Option Signal) (carries : frameSignal? frame = signal) :
      link.world.signals ++ (link.debuggee.outbox ++ [frame]).filterMap frameSignal? =
        link.view.signals ++ signal.toList := by
    rw [List.filterMap_append, filterMap_cons_toList, carries, List.filterMap_nil,
      List.append_nil, ← List.append_assoc]
    rfl
  simp only [step, Debuggee.send]
  split
  · next carries =>
    have same : view { link with
        debuggee := { link.debuggee with outbox := link.debuggee.outbox ++ [frame] } } =
        link.view :=
      View.ext rfl rfl rfl ((sent _ carries).trans (List.append_nil _)) rfl
    rw [same]
    exact .still
  · next carries =>
    split
    · next suspended =>
      have after : view { link with
          debuggee := { link.debuggee with outbox := link.debuggee.outbox ++ [frame] } } =
          { link.view with signals := link.view.signals ++ [.stopped] } :=
        View.ext rfl rfl rfl (sent _ carries) rfl
      rw [after]
      exact .tell suspended
    · exact .still
  · next id carries =>
    split
    · exact .still
    · next packet found =>
      have opened := List.mem_of_find?_eq_some found
      obtain rfl : packet.id = id := by simpa using List.find?_some found
      have after : view { link with
          debuggee := { link.debuggee with
            outbox := link.debuggee.outbox ++ [frame]
            opened := link.debuggee.opened.erase packet } } =
          { link.view with
            commands := link.debuggee.opened.erase packet ++
              (link.debuggee.inbox ++ link.world.connection.queued).filterMap frameCommand?
            signals := link.view.signals ++ [.replied packet.id] } :=
        View.ext rfl rfl rfl (sent _ carries) rfl
      rw [after]
      exact .answer ((List.perm_cons_erase opened).append_right _)

/-! ## Runs -/

/-- A move of a link makes one move of the engine or none. -/
theorem world_step (link : Link) (move : LinkMove) :
    (link.step move).world = link.world ∨
      ∃ engineMove, (link.step move).world = link.world.step engineMove := by
  cases move with
  | engine move =>
    simp only [step]
    split
    · exact .inl rfl
    · exact .inr ⟨move, rfl⟩
  | read =>
    simp only [step]
    split
    · exact .inl rfl
    · next frame rest sent =>
      split
      · exact .inr ⟨.receive (.frame frame), rfl⟩
      · exact .inl rfl
  | handle => exact .inl rfl
  | run => exact .inl rfl
  | halt => exact .inl rfl
  | send frame => exact .inl rfl

/-- What the engine does on a link, it can do by itself. -/
theorem exists_play (config : Config) (suspended : Bool) (moves : List LinkMove) :
    ∃ engineMoves, (play config suspended moves).world = World.play config engineMoves := by
  induction moves using List.reverseRecOn with
  | nil => exact ⟨[], rfl⟩
  | append_singleton moves move ih =>
    obtain ⟨engineMoves, same⟩ := ih
    rw [play_append]
    obtain stays | ⟨engineMove, makes⟩ := (play config suspended moves).world_step move
    · exact ⟨engineMoves, stays.trans same⟩
    · refine ⟨engineMoves ++ [engineMove], ?_⟩
      rw [makes, same, World.play_append]

theorem running_before {config : Config} {suspended : Bool} {moves : List LinkMove}
    {move : LinkMove} (running : ((play config suspended moves).step move).world.Running) :
    (play config suspended moves).world.Running := by
  obtain stays | ⟨engineMove, makes⟩ := (play config suspended moves).world_step move
  · rw [← stays]
    exact running
  · obtain ⟨engineMoves, same⟩ := exists_play config suspended moves
    rw [makes, same] at running
    rw [same]
    exact running.before

theorem byEvents_append {moves : List LinkMove} {move : LinkMove} :
    ByEvents link (moves ++ [move]) ↔ ByEvents link moves ∧
      ((moves.foldl step link).active = false → ((moves.foldl step link).step move).active = true →
        move = .engine .performDispatcher) := by
  induction moves generalizing link with
  | nil => simp [ByEvents]
  | cons first moves ih => rw [List.cons_append, ByEvents, ih, ByEvents, and_assoc]; rfl

/-- Every move is a step of what is under way. -/
theorem view_step {config : Config} {suspended : Bool} {moves : List LinkMove} (move : LinkMove)
    (running : ((play config suspended moves).step move).world.Running)
    (heard : (play config suspended moves).active = false →
      ((play config suspended moves).step move).active = true →
        move = .engine .performDispatcher) :
    View.Step (play config suspended moves).view
      ((play config suspended moves).step move).view := by
  obtain ⟨engineMoves, same⟩ := exists_play config suspended moves
  cases move with
  | engine move =>
    simp only [step] at running heard ⊢
    split
    · exact .still
    · next fed =>
      rw [if_neg fed] at running heard
      have fed : move.feeds = false := by simpa using fed
      have running : ((play config suspended moves).world.step move).Running := running
      rw [same] at running
      refine view_pass ?_ ?_ ?_
      · have before := running.before
        rw [same]
        refine World.passes_step (World.tidy_play config engineMoves)
          (World.shutdown_play config engineMoves)
          (World.replied_not_mem_others config engineMoves) move fed running.up before.unfailed ?_
        rw [← same]
        rcases (play config suspended moves).active.eq_false_or_eq_true with now | inactive
        · exact .inr fun _ => now
        · refine or_iff_not_imp_right.mpr fun begins => ?_
          exact LinkMove.engine.inj (heard inactive (Classical.not_imp.mp begins).1)
      · rw [same, ← World.play_append]
        exact World.numbered_play config _
      · rw [same]
        exact running.few
  | read => rw [view_read]; exact .still
  | handle => rw [view_handle]; exact .still
  | run => exact view_run
  | halt => exact .halt
  | send frame => exact view_send frame

theorem coherent_play (config : Config) (suspended : Bool) (moves : List LinkMove)
    (running : (play config suspended moves).world.Running)
    (byEvents : ByEvents (ofConfig config suspended) moves) :
    (play config suspended moves).view.Coherent := by
  induction moves using List.reverseRecOn with
  | nil =>
    refine ⟨List.nodup_nil, ?_, ?_, ?_, ?_⟩
    · intro id mem
      cases mem
    · intro packet mem
      cases mem
    · intro before after split
      simp [play, view, ofConfig, World.ofConfig, World.signals] at split
    · intro active
      cases active
  | append_singleton moves move ih =>
    rw [play_append] at running ⊢
    obtain ⟨before, heard⟩ := byEvents_append.mp byEvents
    exact (ih (running_before running) before).step (view_step move running heard)

/-- As long as the connection is up, every packet could be written and no id was used twice, and
if only what it reads makes the engine believe that the debuggee is suspended: whenever it believes
so, every command that lets the debuggee run was answered, its reply was acted on, and the debuggee
is suspended. -/
theorem suspended_of_active (config : Config) (suspended : Bool) (moves : List LinkMove)
    (running : (play config suspended moves).world.Running)
    (byEvents : ByEvents (ofConfig config suspended) moves)
    (active : (play config suspended moves).active = true) :
    (∀ issue ∈ issues (play config suspended moves).world.journal, issue.2.resumes = true →
      ∃ reply, .performed (.replied reply) ∈
        since issue.1 (play config suspended moves).world.journal ∧ reply.id = issue.1.id) ∧
      (play config suspended moves).debuggee.suspended = true := by
  have coherent := coherent_play config suspended moves running byEvents
  obtain ⟨none, halted⟩ := coherent.active active
  refine ⟨fun issue mem resumes => ?_, halted⟩
  obtain ⟨engineMoves, same⟩ := exists_play config suspended moves
  have none : (play config suspended moves).world.connection.scope.resumes = [] := none
  rw [same] at none running mem ⊢
  have awaited := World.awaited_play config engineMoves
  exact running.exists_reply (awaited.resumes_eq_nil_iff.mp none issue mem resumes)

/-- The news of a suspension of the whole debuggee. -/
def news : Bytes :=
  CommandPacket.encode ⟨7, Command.events, 100, [suspendAllPolicy, 0, 0, 0, 0]⟩

/-- The news of a suspension crosses a command that resumes the debuggee, and is not believed. The
debuggee runs and is suspended again, and the same news behind the reply is believed. -/
def crossed : List LinkMove :=
  [.send news, .engine (.start (.call .resumeAll)), .read, .engine .performDispatcher,
    .engine .performDispatcher, .engine .take, .engine (.wrote (.ok ())), .handle, .run, .halt,
    .send (ReplyPacket.encode ⟨1, 0, []⟩), .send news, .read, .engine .performDispatcher,
    .engine .performDispatcher, .engine .performDispatcher, .read, .engine .performDispatcher]

theorem suspended_of_active_crossed :
    (play {} true crossed).world.Running ∧ ByEvents (ofConfig {} true) crossed ∧
      (play {} true crossed).active = true ∧
      (∃ reply, .performed (.replied reply) ∈
        since ⟨0, 1, 0⟩ (play {} true crossed).world.journal ∧ reply.id = 1) ∧
      (play {} true crossed).debuggee.suspended = true := by
  have told : (play {} true crossed).world.journal =
      [.issued ⟨0, 1, 0⟩ .resume [], .performed .suspended,
        .performed (.publish ⟨7, suspendAllPolicy, [0, 0, 0, 0]⟩),
        .handed 1 (CommandPacket.encode ⟨1, 1, 9, []⟩), .wrote 1 (.ok ()),
        .performed (.replied ⟨1, 0, []⟩), .performed (.resolve ⟨1, 0, .resume, []⟩ ⟨1, 0, []⟩),
        .performed .flush, .performed .suspended] := rfl
  have running : (play {} true crossed).world.Running :=
    ⟨by decide, rfl, by rw [told]; simp⟩
  have byEvents : ByEvents (ofConfig {} true) crossed := by
    refine ⟨?_, ?_, ?_, ?_, ?_, ?_, ?_, ?_, ?_, ?_, ?_, ?_, ?_, ?_, ?_, ?_, ?_, ?_, trivial⟩
    all_goals intro inactive active
    all_goals first | rfl | exact absurd active (by decide)
  have active : (play {} true crossed).active = true := rfl
  obtain ⟨replied, suspended⟩ := suspended_of_active {} true crossed running byEvents active
  refine ⟨running, byEvents, active, replied (⟨0, 1, 0⟩, .resume) ?_ rfl, suspended⟩
  rw [told]
  exact List.mem_cons_self

end Link

end DebugLink
