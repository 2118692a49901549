import DebugLink.Proofs.Numbering

/-!
# Passage: what passes between an engine and the debuggee

Of the frames that come in only two kinds change what the engine believes of the debuggee: replies,
and events that tell of a suspension of the whole debuggee. They are the `Signal`s, and the
dispatcher still has to perform some of them (`World.signals`). Of what goes out there are the
frames that wait for the writer (`World.queued`) and those that a step hands to the transport
(`World.sent`).

A `Passage` is a step of the engine seen from there. As long as the connection is up and nothing
has failed to be written, every move that reads no frame is a passage (`passage_step`), and what
reading one does is told by `read_frame`.
-/

namespace DebugLink

/-- What a frame from the debuggee says that bears on its suspension. -/
inductive Signal
  /-- The command with the id was answered. -/
  | replied (id : UInt32)
  /-- The debuggee was suspended as a whole. -/
  | stopped
  deriving DecidableEq, Repr

/-- The signal that a frame carries. -/
def frameSignal? (frame : Bytes) : Option Signal :=
  match Packet.decode frame with
  | .error _ => none
  | .ok (.reply reply) => some (.replied reply.id)
  | .ok (.command packet) =>
    if packet.commandSet = Command.events ∧ packet.data.head? = some suspendAllPolicy then
      some .stopped
    else none

/-- The signal that a piece of work is there to act on. -/
def Work.signal? : Work → Option Signal
  | .replied reply => some (.replied reply.id)
  | .suspended => some .stopped
  | _ => none

/-- The frame in a message to the writer. -/
def Message.frame? : Message → Option Bytes
  | .frame _ bytes => some bytes
  | .close => none

/-- The frame that was handed to the transport. -/
def Entry.frame? : Entry → Option Bytes
  | .handed _ frame => some frame
  | _ => none

/-- Whether a move is the arrival of a frame. -/
def Move.feeds : Move → Bool
  | .receive (.frame _) => true
  | _ => false

theorem Work.signal_of_follows {work : Work} (follows : work.follows) : work.signal? = none := by
  cases work <;> first | rfl | simp [Work.follows] at follows

theorem Work.signal_of_calm {work : Work} (calm : work.calm) : work.signal? = none := by
  cases work <;> first | rfl | simp [Work.calm, Work.aside] at calm

theorem Work.signal_of_settles {work : Work} {settled : Request × Except Failure Bytes}
    (settles : work.settles? = some settled) : work.signal? = none := by
  cases work <;> first | rfl | simp [Work.settles?] at settles

theorem Entry.frame_of_aside {entry : Entry} (aside : entry.aside) : entry.frame? = none := by
  cases entry <;> first | rfl | simp [Entry.aside] at aside

/-- The dispatcher is left the signal of the frame that it accepts. -/
theorem accept_signals (connection : Connection) (frame : Bytes) :
    (connection.accept frame).1.filterMap Work.signal? = (frameSignal? frame).toList := by
  unfold Connection.accept frameSignal?
  cases Packet.decode frame with
  | error fault => rfl
  | ok packet =>
    cases packet with
    | reply reply => rfl
    | command packet =>
      by_cases events : packet.commandSet = Command.events
      · simp only [events, if_true, true_and, EventBatch.ofPacket]
        cases packet.data with
        | nil => rfl
        | cons policy rest =>
          by_cases all : policy = suspendAllPolicy
          · simp [all, Work.signal?]
          · simp [all, Work.signal?]
      · simp [events]

/-- Accepting a frame changes nothing but the notices. -/
theorem accept_connection (connection : Connection) (frame : Bytes) :
    connection.Keeps (connection.accept frame).2 := by
  unfold Connection.accept
  split
  · exact Connection.keeps_report _
  · exact .refl
  · split
    · split
      · exact Connection.keeps_report _
      · exact .refl
    · exact Connection.keeps_report _

/-- The frames that wait for the writer. -/
def Connection.queued (connection : Connection) : List Bytes :=
  connection.outbound.filterMap Message.frame?

/-- A step of the engine, seen from the debuggee: the signal that is acted on, the command that is
issued, and the frames that are handed to the transport. -/
inductive Passage (before after : Connection) :
    (signal : Option Signal) → (issued : List (Receipt × Command)) → (sent : List Bytes) → Prop
  /-- Some of what is queued may be given up. -/
  | quiet {sent : List Bytes} (resumes : after.scope.resumes = before.scope.resumes)
    (active : after.scope.active = true → before.scope.active = true)
    (frames : (sent ++ after.queued).Sublist before.queued) : Passage before after none [] sent
  | issue {sent : List Bytes} (command : Command) (data : Bytes)
    (scope : after.scope = (before.enrol command).scope)
    (frames : sent ++ after.queued = before.queued ++
      [CommandPacket.encode ⟨before.nextId, command.set, command.number, data⟩]) :
    Passage before after none [(before.nextReceipt, command)] sent
  | replied {sent : List Bytes} (id : UInt32) (scope : after.scope = before.scope.complete id)
    (frames : sent ++ after.queued = before.queued) :
    Passage before after (some (.replied id)) [] sent
  | stopped {sent : List Bytes} (scope : after.scope = before.scope.suspend)
    (frames : sent ++ after.queued = before.queued) :
    Passage before after (some .stopped) [] sent

theorem Connection.Keeps.queued {before after : Connection} (keeps : before.Keeps after) :
    after.queued = before.queued := by
  rw [Connection.queued, keeps.outbound, Connection.queued]

theorem Scope.active_invalidate {α : Type} {scope : Scope α}
    (active : scope.invalidate.active = true) : scope.active = true := by
  unfold Scope.invalidate at active
  split at active
  · exact active
  · simp [Scope.leave] at active

theorem Scope.active_store {α : Type} {scope : Scope α} {key : String} {stamp : Stamp} {value : α}
    (active : (scope.store key stamp value).2.active = true) : scope.active = true := by
  unfold Scope.store at active
  split at active
  · exact active
  · exact active

/-- Every turn of a connection that stays up is a passage, unless a command is given up. -/
theorem Turn.passage {engine : Engine} {used left : List Work} {entries : List Entry}
    {after : Connection} (turn : Turn engine used entries left after) (live : after.dead = false)
    (kept : ∀ id failure, .abandon id failure ∉ used) :
    ∃ signal, used.filterMap Work.signal? = signal.toList ∧
      Passage engine.connection after signal (issues entries) (entries.filterMap Entry.frame?) := by
  cases turn with
  | aside keeps calm quiet free =>
    have unheard : used.filterMap Work.signal? = [] :=
      List.filterMap_eq_nil_iff.mpr fun work mem => Work.signal_of_calm (calm work mem)
    have unsent : entries.filterMap Entry.frame? = [] :=
      List.filterMap_eq_nil_iff.mpr fun entry mem => Entry.frame_of_aside (quiet entry mem)
    refine ⟨none, unheard, ?_⟩
    rw [unsent, issues_of_silent fun entry mem => Entry.silent_of_aside (quiet entry mem)]
    refine .quiet (by rw [keeps.scope]) (by rw [keeps.scope]; exact id) ?_
    rw [keeps.queued]
    exact .refl _
  | issue command data origin live keeps =>
    have unheard : used.filterMap Work.signal? = [] := by rcases origin with rfl | rfl <;> rfl
    have unsent : (used.map Entry.performed).filterMap Entry.frame? = [] := by
      rcases origin with rfl | rfl <;> rfl
    have issued : issues (used.map Entry.performed) = [] := by
      rcases origin with rfl | rfl <;> rfl
    refine ⟨none, unheard, ?_⟩
    rw [issues_append, issued, List.filterMap_append, unsent]
    refine .issue command data keeps.scope ?_
    rw [keeps.queued]
    simp [Connection.queued, Connection.send, Connection.enrol, Connection.nextMessage,
      Message.frame?, Entry.frame?]
  | replied reply keeps =>
    refine ⟨some (.replied reply.id), rfl, .replied reply.id keeps.scope ?_⟩
    rw [keeps.queued]; rfl
  | abandon id failure keeps => exact absurd (List.mem_singleton_self _) (kept id failure)
  | @settle work _ request outcome settles keeps =>
    refine ⟨none, by simp [Work.signal_of_settles settles], ?_⟩
    refine .quiet (by rw [keeps.scope]) (by rw [keeps.scope]; exact id) ?_
    rw [keeps.queued]
    exact .refl _
  | suspended keeps =>
    refine ⟨some .stopped, rfl, .stopped keeps.scope ?_⟩
    rw [keeps.queued]; rfl
  | disconnect evicted up aside keeps => simp [keeps.dead] at live
  | queueClose keeps =>
    refine ⟨none, rfl, .quiet (by rw [keeps.scope]) (by rw [keeps.scope]; exact id) ?_⟩
    rw [keeps.queued, Connection.queued]
    split <;> simp [List.filterMap_cons, Connection.queued, Entry.frame?, Message.frame?]
  | fail failure writing keeps =>
    refine ⟨none, rfl, .quiet (by rw [keeps.scope]) (by rw [keeps.scope]; exact id) ?_⟩
    rw [keeps.queued]
    exact .refl _
  | @take message rest _ receiving first keeps =>
    have silent : issues message.entries = [] := by cases message <;> rfl
    refine ⟨none, rfl, ?_⟩
    rw [silent]
    refine .quiet (by rw [keeps.scope]) (by rw [keeps.scope]; exact id) ?_
    rw [keeps.queued, Connection.queued, Connection.queued, first]
    cases message <;> simp [List.filterMap_cons, Message.entries, Entry.frame?, Message.frame?]
  | drain draining idle keeps =>
    -- What is given up is not handed over.
    refine ⟨none, rfl, .quiet (by rw [keeps.scope]) (by rw [keeps.scope]; exact id) ?_⟩
    rw [keeps.queued]
    exact (List.tail_sublist _).filterMap _
  | store n key stamp value keeps =>
    refine ⟨none, rfl, .quiet ?_ ?_ ?_⟩
    · rw [keeps.scope]; exact Scope.resumes_store key stamp value
    · rw [keeps.scope]; exact Scope.active_store
    · rw [keeps.queued]; exact .refl _
  | invalidate aside keeps =>
    refine ⟨none, rfl, .quiet ?_ ?_ ?_⟩
    · rw [keeps.scope]; exact Scope.resumes_invalidate
    · rw [keeps.scope]; exact Scope.active_invalidate
    · rw [keeps.queued]; exact .refl _

namespace World

variable {world world' : World}

/-- The signals that the dispatcher has still to act on. -/
def signals (world : World) : List Signal :=
  world.engine.dispatcherWork.filterMap Work.signal?

/-- The frames that were handed to the transport from one world to another. -/
def sent (world world' : World) : List Bytes :=
  (world'.journal.drop world.journal.length).filterMap Entry.frame?

/-- One world comes from another by a passage. -/
def Passes (world world' : World) : Prop :=
  ∃ signal issued, Passage world.connection world'.connection signal issued (sent world world') ∧
    world.signals = signal.toList ++ world'.signals ∧
    issues world'.journal = issues world.journal ++ issued

theorem sent_of_append {entries : List Entry}
    (journal : world'.journal = world.journal ++ entries) :
    sent world world' = entries.filterMap Entry.frame? := by
  rw [sent, journal, List.drop_left]

/-- A turn is a passage if the dispatcher's signals are those that it used up. -/
theorem Passes.of_turn {used left : List Work} {entries : List Entry}
    (turn : Turn world.engine used entries left world'.connection)
    (journal : world'.journal = world.journal ++ entries)
    (live : world'.connection.dead = false) (kept : ∀ id failure, .abandon id failure ∉ used)
    (heard : world.signals = used.filterMap Work.signal? ++ world'.signals) :
    Passes world world' := by
  obtain ⟨signal, acted, passage⟩ := turn.passage live kept
  refine ⟨signal, issues entries, ?_, ?_, ?_⟩
  · rw [sent_of_append journal]
    exact passage
  · rw [heard, acted]
  · rw [journal, issues_append]

/-- As long as the connection is up and every packet could be written, no command is given up. -/
theorem Shutdown.kept (shutdown : Shutdown world) (up : world.connection.dead = false)
    (unfailed : ∀ id failure, .wrote id (.error failure) ∉ world.journal) (id : UInt32)
    (failure : Failure) : .abandon id failure ∉ world.works := by
  intro mem
  obtain dead | failed := shutdown.givenUp mem
  · rw [up] at dead; cases dead
  · exact unfailed id failure failed

/-! ## The dispatcher's pieces -/

/-- Performing a piece of the dispatcher's uses up its signal. -/
theorem passes_performDispatcher (tidy : Tidy world) (shutdown : Shutdown world)
    (live : (world.step .performDispatcher).connection.dead = false)
    (unfailed : ∀ id failure, .wrote id (.error failure) ∉ world.journal) :
    Passes world (world.step .performDispatcher) := by
  have up := (turns_step tidy shutdown.accepts .performDispatcher).up live
  cases waiting : world.engine.dispatcherWork with
  | nil =>
    have same : world.step .performDispatcher = world := by
      simp [step, Engine.performDispatcher, waiting, Connection.headEntries, record]
    rw [same]
    refine ⟨none, [], .quiet rfl id ?_, rfl, (List.append_nil _).symm⟩
    rw [sent, List.drop_length]
    exact .refl _
  | cons work rest =>
    have performed := engine_performDispatcher waiting
    have journal := journal_performDispatcher waiting
    have turn : Turn world.engine [work] (world.connection.workEntries work)
        (world.connection.perform work).1 (world.step .performDispatcher).connection := by
      show Turn _ _ _ _ (world.step .performDispatcher).engine.connection
      rw [performed]
      exact turn_perform work shutdown.accepts
    refine .of_turn turn journal live ?_ ?_
    · intro id failure mem
      apply shutdown.kept up unfailed id failure
      rw [works, waiting, ← List.mem_singleton.mp mem]
      exact List.mem_append_left _ List.mem_cons_self
    · have unheard : (world.connection.perform work).1.filterMap Work.signal? = [] :=
        List.filterMap_eq_nil_iff.mpr fun left mem =>
          Work.signal_of_follows (Connection.perform_follows work left mem)
      rw [signals, signals, waiting, performed, List.filterMap_append, unheard, List.nil_append,
        ← List.filterMap_append]
      rfl

/-- Unless it reads a frame or performs a piece, the dispatcher keeps its pieces or stops. -/
theorem dispatcher_still (world : World) (move : Move) (fed : move.feeds = false)
    (other : move ≠ .performDispatcher) :
    (world.step move).engine.dispatcherWork = world.engine.dispatcherWork ∨
      world.engine.dispatcherWork = [] ∧
        (world.step move).engine.dispatcherWork = [.disconnect] := by
  cases dispatcher_step move with
  | still dispatcher work => exact .inl work
  | performed performs first dispatcher left after => exact absurd performs other
  | read reads reading idle dispatcher left => simp [reads, Move.feeds] at fed
  | stopped reading idle dispatcher left => exact .inr ⟨idle, left⟩

/-- Nobody but the dispatcher has a reply to act on. -/
theorem replied_not_mem_others (config : Config) (moves : List Move) (reply : ReplyPacket) :
    .replied reply ∉ (play config moves).others := by
  refine turn_induction (P := fun world => .replied reply ∉ world.others) ?_ ?_ moves
  · simp [ofConfig, others]
  · rintro world world' - ⟨used, entries, left, -, -, replaced⟩ none
    cases replaced with
    | dispatcher before after others => rw [others]; exact none
    | other earlier later dispatcher before after calm =>
      rw [before] at none
      rw [after]
      simp only [List.mem_append, not_or] at none ⊢
      exact ⟨⟨none.1.1, calm reply⟩, none.2⟩

/-- A reply that is acted on is gone. -/
theorem replied_not_mem_left {engine : Engine} {reply : ReplyPacket} {used left : List Work}
    {entries : List Entry} {after : Connection} (turn : Turn engine used entries left after)
    (mem : .replied reply ∈ used) : .replied reply ∉ left := by
  cases turn with
  | aside keeps calm quiet free => exact absurd (calm _ mem) (by simp [Work.calm, Work.aside])
  | issue command data origin live keeps => rcases origin with rfl | rfl <;> simp at mem
  | replied reply keeps => simp
  | @settle work _ request outcome settles keeps =>
    rw [← List.mem_singleton.mp mem] at settles
    cases settles
  | _ => simp at mem

/-- The dispatcher acts on a reply only where it performs a piece. -/
theorem replied_not_mem_used {used left : List Work} {entries : List Entry} {after : Connection}
    {reply : ReplyPacket} (calm : ∀ reply, .replied reply ∉ world.others)
    (still : world'.engine.dispatcherWork = world.engine.dispatcherWork ∨
      world.engine.dispatcherWork = [] ∧ world'.engine.dispatcherWork = [.disconnect])
    (turn : Turn world.engine used entries left after)
    (replaced : Replaced world world' used left) : .replied reply ∉ used := by
  intro mem
  cases replaced with
  | @dispatcher rest before after others =>
    -- If the dispatcher's pieces are the same, what it used up it was left again.
    obtain same | ⟨idle, -⟩ := still
    · rw [after, before] at same
      rw [← List.append_cancel_right same] at mem
      exact replied_not_mem_left turn (List.append_cancel_right same ▸ mem) mem
    · rw [before, List.append_eq_nil_iff] at idle
      rw [idle.1] at mem
      cases mem
  | other earlier later dispatcher before after calm' =>
    apply calm reply
    rw [before]
    exact List.mem_append_left _ (List.mem_append_right _ mem)

/-! ## Every other move -/

/-- A move that reads no frame is a passage, as long as the connection is up and every packet could
be written. If somebody other than the dispatcher reports a suspension, that must change nothing. -/
theorem passes_step (tidy : Tidy world) (shutdown : Shutdown world)
    (calm : ∀ reply, .replied reply ∉ world.others) (move : Move) (fed : move.feeds = false)
    (live : (world.step move).connection.dead = false)
    (unfailed : ∀ id failure, .wrote id (.error failure) ∉ world.journal)
    (heard : move = .performDispatcher ∨ ((world.step move).connection.scope.active = true →
      world.connection.scope.active = true)) : Passes world (world.step move) := by
  by_cases performs : move = .performDispatcher
  · rw [performs] at live ⊢
    exact passes_performDispatcher tidy shutdown live unfailed
  have turns := turns_step tidy shutdown.accepts move
  have up := turns.up live
  obtain ⟨used, entries, left, turn, journal, replaced⟩ := turns
  have signals : (world.step move).signals = world.signals := by
    obtain same | ⟨idle, stops⟩ := dispatcher_still world move fed performs
    · rw [World.signals, same, World.signals]
    · rw [World.signals, World.signals, stops, idle]; rfl
  have kept (id failure) : .abandon id failure ∉ used := by
    intro mem
    obtain ⟨earlier, later, works, -⟩ := replaced.works
    apply shutdown.kept up unfailed id failure
    rw [works]
    exact List.mem_append_left _ (List.mem_append_right _ mem)
  obtain ⟨signal, acted, passage⟩ := turn.passage live kept
  rw [← sent_of_append journal] at passage
  have issued : issues (world.step move).journal = issues world.journal ++ issues entries := by
    rw [journal, issues_append]
  cases signal with
  | none => exact ⟨none, issues entries, passage, signals.symm, issued⟩
  | some signal =>
    generalize issues entries = new at passage issued
    cases passage with
    | replied id scope frames =>
      -- Then somebody other than the dispatcher would have had a reply to act on.
      obtain ⟨work, mem, isReply⟩ : ∃ work ∈ used, work.signal? = some (.replied id) := by
        rw [← List.mem_filterMap, acted]
        exact List.mem_singleton_self _
      obtain ⟨reply, rfl⟩ : ∃ reply, work = .replied reply := by
        cases work <;> simp [Work.signal?] at isReply
        exact ⟨_, rfl⟩
      have still := dispatcher_still world move fed performs
      exact absurd mem (replied_not_mem_used calm still turn replaced)
    | stopped scope frames =>
      -- Somebody else reports a suspension, and the scope stays as it was.
      refine ⟨none, [], .quiet ?_ (heard.resolve_left performs) ?_, signals.symm, issued⟩
      · rw [scope]
        exact Scope.resumes_suspend
      · rw [frames]
        exact .refl _

/-- What comes of reading a frame: its signal, and nothing for the connection but a notice. -/
theorem read_frame (reading : world.engine.dispatcher = .reading)
    (idle : world.engine.dispatcherWork = []) (frame : Bytes) :
    world.connection.Keeps (world.step (.receive (.frame frame))).connection ∧
      (world.step (.receive (.frame frame))).signals = (frameSignal? frame).toList ∧
      (world.step (.receive (.frame frame))).journal = world.journal := by
  have ready : world.engine.dispatcher = .reading ∧ world.engine.dispatcherWork = [] :=
    ⟨reading, idle⟩
  simp only [step, Engine.received, if_pos ready]
  refine ⟨?_, ?_, List.append_nil _⟩
  · exact (Connection.keeps_report _).trans (accept_connection _ frame)
  · exact accept_signals _ frame

end World

end DebugLink
