import DebugLink.Proofs.Sending

/-!
# Outcomes: what every receipt comes to

`Correlation` says that the outcome of a command is its fate, which is read off the journal. Here it
is shown that no verdict is lost on its way there. The dispatcher deals with the replies that it
reads, each once and in that order (`answers_play`). When a packet cannot be written, its command
was issued before, and to give the command up is what the writer does next (`failed_play`). So that
failure is the fate of the command, unless another verdict fell before.

Main statement: `one_outcome`.
-/

namespace DebugLink

/-- The reply that a piece of work deals with. -/
def Work.reply? : Work → Option ReplyPacket
  | .replied reply => some reply
  | _ => none

/-- The reply that was dealt with. -/
def Entry.reply? : Entry → Option ReplyPacket
  | .performed work => work.reply?
  | _ => none

/-- The replies that were dealt with. -/
def answers (journal : List Entry) : List ReplyPacket :=
  journal.filterMap Entry.reply?

/-- The reply in a frame, if there is one. -/
def replyIn? (frame : Bytes) : Option ReplyPacket :=
  match Packet.decode frame with
  | .ok (.reply reply) => some reply
  | _ => none

@[simp]
theorem answers_append {journal entries : List Entry} :
    answers (journal ++ entries) = answers journal ++ answers entries :=
  List.filterMap_append

theorem Work.reply_of_follows {work : Work} (follows : work.follows) : work.reply? = none := by
  cases work <;> first | rfl | simp [Work.follows] at follows

/-- A frame leaves its reply to be dealt with, if there is one. -/
theorem Connection.reply_accept (connection : Connection) (frame : Bytes) :
    (connection.accept frame).1.filterMap Work.reply? = (replyIn? frame).toList := by
  unfold accept replyIn?
  cases Packet.decode frame with
  | error fault => rfl
  | ok packet =>
    cases packet with
    | reply reply => rfl
    | command packet =>
      dsimp only
      split
      · split
        · rfl
        · split <;> rfl
      · rfl

/-- The replies that are recorded are those that were used up. -/
theorem Turn.answers {engine : Engine} {used left : List Work} {entries : List Entry}
    {after : Connection} (turn : Turn engine used entries left after) :
    answers entries = used.filterMap Work.reply? := by
  cases turn with
  | aside keeps calm quiet free =>
    have none : used.filterMap Work.reply? = [] := by
      refine List.filterMap_eq_nil_iff.mpr fun work mem => ?_
      have calm := calm work mem
      cases work <;> first | rfl | cases calm
    rw [none]
    refine List.filterMap_eq_nil_iff.mpr fun entry mem => ?_
    have quiet := quiet entry mem
    cases entry with
    | performed work => cases work <;> first | rfl | cases quiet
    | _ => rfl
  | issue command data origin live keeps => rcases origin with rfl | rfl <;> rfl
  | @take message rest _ receiving first keeps => cases message <;> rfl
  | _ => rfl

namespace World

variable {world : World}

/-! ## Replies that are read -/

/-- The replies that the dispatcher has read and not dealt with. -/
def backlog (world : World) : List ReplyPacket :=
  world.engine.dispatcherWork.filterMap Work.reply?

/-- The reply that a move reads, if the dispatcher is there to read it. -/
def reads (world : World) : Move → List ReplyPacket
  | .receive (.frame frame) =>
    if world.engine.dispatcher = .reading ∧ world.engine.dispatcherWork = [] then
      (replyIn? frame).toList
    else []
  | _ => []

theorem answers_receive (frame : Bytes) :
    answers (world.step (.receive (.frame frame))).journal ++
        (world.step (.receive (.frame frame))).backlog =
      answers world.journal ++ world.backlog ++ world.reads (.receive (.frame frame)) := by
  simp only [step, record, backlog, reads, Engine.received, List.append_nil]
  split
  · next ready =>
    rw [Connection.reply_accept, ready.2, List.filterMap_nil, List.append_nil]
  · rw [List.append_nil]

theorem answers_performDispatcher
    (accepts : world.connection.dead = false → world.connection.outboundOpen = true) :
    answers (world.step .performDispatcher).journal ++ (world.step .performDispatcher).backlog =
      answers world.journal ++ world.backlog := by
  cases waiting : world.engine.dispatcherWork with
  | nil => simp [step, record, backlog, Engine.performDispatcher, waiting, Connection.headEntries]
  | cons work rest =>
    have recorded : answers (world.connection.workEntries work) = [work].filterMap Work.reply? :=
      (@turn_perform world.engine work accepts).answers
    have none : (world.connection.perform work).1.filterMap Work.reply? = [] :=
      List.filterMap_eq_nil_iff.mpr fun left mem =>
        Work.reply_of_follows (Connection.perform_follows work left mem)
    rw [journal_performDispatcher waiting, backlog, engine_performDispatcher waiting,
      answers_append, recorded, List.filterMap_append, none, List.nil_append, List.append_assoc,
      ← List.filterMap_append, List.singleton_append, backlog, waiting]

/-- The replies that were read have been dealt with, in order, or wait for the dispatcher. -/
theorem answers_play (config : Config) (moves : List Move) :
    gather reads (ofConfig config) moves =
      answers (play config moves).journal ++ (play config moves).backlog := by
  induction moves using List.reverseRecOn with
  | nil => rfl
  | append_singleton moves move ih =>
    rw [gather_play, ih, play_append]
    have shutdown := shutdown_play config moves
    by_cases performs : move = .performDispatcher
    · subst performs
      rw [answers_performDispatcher shutdown.accepts]
      exact List.append_nil _
    by_cases feeds : ∃ frame, move = .receive (.frame frame)
    · obtain ⟨frame, rfl⟩ := feeds
      exact (answers_receive frame).symm
    -- Nobody else has replies.
    have fed : move.feeds = false := by
      unfold Move.feeds
      split
      · exact absurd ⟨_, rfl⟩ feeds
      · rfl
    have nothing : (play config moves).reads move = [] := by
      unfold reads
      split
      · exact absurd ⟨_, rfl⟩ feeds
      · rfl
    have still := dispatcher_still (play config moves) move fed performs
    have backlog : ((play config moves).step move).backlog = (play config moves).backlog := by
      obtain same | ⟨idle, stops⟩ := still
      · rw [World.backlog, same, World.backlog]
      · rw [World.backlog, World.backlog, stops, idle]
        rfl
    obtain ⟨used, entries, left, turn, journal, replaced⟩ := turns_play config moves move
    have unused : used.filterMap Work.reply? = [] := by
      refine List.filterMap_eq_nil_iff.mpr fun work mem => ?_
      cases work with
      | replied reply =>
        exact absurd mem
          (replied_not_mem_used (replied_not_mem_others config moves) still turn replaced)
      | _ => rfl
    rw [nothing, backlog, journal, answers_append, turn.answers, unused, List.append_nil,
      List.append_nil]

/-! ## Packets that cannot be written -/

/-- A writer that has handed a packet over waits to hear of it. -/
theorem writer_waits {id : UInt32} {frame : Bytes} {move : Move}
    (writing : world.engine.writer = .writing id frame)
    (other : ∀ result, move ≠ .wrote result) :
    (world.step move).engine.writer = world.engine.writer := by
  cases move with
  | wrote result => exact absurd rfl (other result)
  | take => simp [step, record, Engine.take, writing]
  | shut => simp [step, record, Engine.shut, writing]
  | drain => simp [step, record, Engine.drain, writing]
  | performWriter =>
    simp only [step, record, Engine.performWriter]
    split <;> rfl
  | _ => exact ((spares_step _).writer (by simp [Move.actor])).1

/-- A failure to write a packet is recorded only where the transport reports it. -/
theorem fails_or (accepts : world.connection.dead = false → world.connection.outboundOpen = true)
    (move : Move) :
    (∃ id frame failure, world.engine.writer = .writing id frame ∧
      move = .wrote (.error failure)) ∨
    ∃ entries, (world.step move).journal = world.journal ++ entries ∧
      ∀ id failure, .wrote id (.error failure) ∉ entries := by
  have offline {entries : List Entry} (offline : Offline entries) (id failure) :
      .wrote id (.error failure) ∉ entries := fun mem => by cases offline _ mem
  cases wireStep accepts move with
  | @posts entries writer journal posts =>
    refine .inr ⟨entries, journal, ?_⟩
    cases posts with
    | nothing calm queue => exact offline calm
    | close calm queue => exact offline calm
    | packet command data live calm recorded queue =>
      intro id failure mem
      rw [recorded] at mem
      obtain mem | mem := List.mem_append.mp mem
      · exact offline calm id failure mem
      · cases List.mem_singleton.mp mem
  | handed receiving writer journal queue => exact .inr ⟨_, journal, by simp⟩
  | closing receiving writer journal queue =>
    exact .inr ⟨[], journal.trans (List.append_nil _).symm, by simp⟩
  | wrote writing writer journal queue => exact .inr ⟨_, journal, by simp⟩
  | @failed id frame failure writing writer journal queue =>
    left
    by_cases reports : ∃ result, move = .wrote result
    · obtain ⟨result, rfl⟩ := reports
      cases result with
      | ok _ => simp [step, record, Engine.wrote, writing] at writer
      | error failure => exact ⟨id, frame, failure, writing, rfl⟩
    · rw [not_exists] at reports
      rw [writer_waits writing reports, writing] at writer
      cases writer
  | shut closing writer journal queue => exact .inr ⟨_, journal, by simp⟩
  | drained draining writer current journal queue =>
    exact .inr ⟨[], journal.trans (List.append_nil _).symm, by simp⟩

/-- A writer with pieces to perform keeps them until it performs them. -/
theorem writerWork_waits (tidy : Tidy world) {move : Move} (other : move ≠ .performWriter)
    (busy : world.engine.writerWork ≠ []) :
    (world.step move).engine.writerWork = world.engine.writerWork := by
  cases move with
  | performWriter => exact absurd rfl other
  | take =>
    simp only [step, record, Engine.take]
    split
    · next ready => exact absurd ready.2 busy
    · rfl
  | wrote result =>
    simp only [step, record, Engine.wrote]
    split
    · rfl
    · next writing => exact absurd (tidy.writing writing) busy
    · rfl
  | shut =>
    simp only [step, record, Engine.shut]
    split <;> rfl
  | drain =>
    simp only [step, record, Engine.drain]
    split
    · next ready => exact absurd ready.2 busy
    · rfl
  | _ => exact ((spares_step _).writer (by simp [Move.actor])).2

/-- A packet that could not be written is that of a command that was issued before, and the writer
has given this up or is about to. -/
theorem failed_play (config : Config) (moves : List Move) {before after : List Entry}
    {id : UInt32} {failure : Failure}
    (split : (play config moves).journal = before ++ .wrote id (.error failure) :: after) :
    (∃ receipt ∈ receipts before, receipt.id = id) ∧
      ((play config moves).engine.writerWork = [.abandon id failure, .disconnect] ∨
        .performed (.abandon id failure) ∈ after) := by
  induction moves using List.reverseRecOn generalizing after with
  | nil => simp [ofConfig] at split
  | append_singleton moves move ih =>
    have tidy := tidy_play config moves
    rw [play_append] at split ⊢
    obtain ⟨id', frame, reason, writing, rfl⟩ | ⟨entries, journal, none⟩ :=
      fails_or (shutdown_play config moves).accepts move
    · have journal : ((play config moves).step (.wrote (.error reason))).journal =
          (play config moves).journal ++ [.wrote id' (.error reason)] := by
        simp [step, record, wroteEntries, writing]
      have work : ((play config moves).step (.wrote (.error reason))).engine.writerWork =
          [.abandon id' reason, .disconnect] := by
        simp [step, record, Engine.wrote, writing]
      rw [journal] at split
      obtain ⟨rest, eq, rfl⟩ | ⟨rfl, same, rfl⟩ := split_concat split
      · -- A writer that hands packets over has given up all that failed before.
        obtain ⟨issued, waits | given⟩ := ih eq
        · rw [tidy.writing writing] at waits
          cases waits
        · exact ⟨issued, .inr (List.mem_append_left _ given)⟩
      · cases same
        have wired := wired_play config moves
        refine ⟨wired.issued_of_handed ?_, .inl work⟩
        rw [wired.written, writing]
        exact List.mem_append_right _ (List.mem_singleton_self _)
    · rw [journal] at split
      obtain ⟨rest, eq, rfl⟩ | ⟨added, rfl, eq⟩ := split_append split
      · obtain ⟨issued, waits | given⟩ := ih eq
        · refine ⟨issued, ?_⟩
          by_cases performs : move = .performWriter
          · subst performs
            have told := List.append_cancel_left (journal.symm.trans (journal_performWriter waits))
            rw [told]
            exact .inr (List.mem_append_right _ (List.mem_singleton_self _))
          · left
            rw [writerWork_waits tidy performs (by simp [waits]), waits]
        · exact ⟨issued, .inr (List.mem_append_left _ given)⟩
      · refine absurd ?_ (none id failure)
        rw [eq]
        exact List.mem_append_right _ List.mem_cons_self

/-- The failure to write a packet is the fate of its command, once the writer has given that up,
unless another verdict fell before. -/
theorem fate_of_failed (config : Config) (moves : List Move) {before after : List Entry}
    {id : UInt32} {failure : Failure}
    (split : (play config moves).journal = before ++ .wrote id (.error failure) :: after) :
    let world := play config moves
    ∃ receipt ∈ receipts before, receipt.id = id ∧
      (world.engine.writerWork = [.abandon id failure, .disconnect] ∧
          fate receipt (world.step .performWriter).journal =
            (fate receipt world.journal).or (some (.error failure)) ∨
        ∃ between later, after = between ++ .performed (.abandon id failure) :: later ∧
          fate receipt world.journal =
            (fate receipt (before ++ .wrote id (.error failure) :: between)).or
              (some (.error failure))) := by
  intro world
  obtain ⟨⟨receipt, mem, rfl⟩, waits | given⟩ := failed_play config moves split
  · refine ⟨receipt, mem, rfl, .inl ⟨waits, ?_⟩⟩
    rw [journal_performWriter waits]
    refine fate_abandoned ?_ failure
    rw [split, receipts_append]
    exact List.mem_append_left _ mem
  · obtain ⟨between, later, rfl⟩ := List.append_of_mem given
    refine ⟨receipt, mem, rfl, .inr ⟨between, later, rfl, ?_⟩⟩
    have whole : world.journal = before ++ .wrote receipt.id (.error failure) :: between ++
        .performed (.abandon receipt.id failure) :: later := by
      rw [show world.journal = _ from split, List.append_assoc, List.cons_append]
    rw [whole]
    refine fate_abandoned ?_ failure
    rw [receipts_append]
    exact List.mem_append_left _ mem

/-- What a caller is told is the fate of its receipt, unless it is refused. -/
theorem answered_play (config : Config) (moves : List Move)
    (few : (play config moves).connection.issued < UInt32.size) {receipt : Receipt}
    {outcome : Except Failure Bytes}
    (told : .answered receipt outcome ∈ (play config moves).journal) :
    receipt ∈ receipts (play config moves).journal ∧
      (fate receipt (play config moves).journal = some outcome ∨
        ∃ misuse, outcome = .error (.misuse misuse)) := by
  induction moves using List.reverseRecOn with
  | nil => simp [ofConfig] at told
  | append_singleton moves move ih =>
    rw [play_append] at few told ⊢
    have few := Nat.lt_of_le_of_lt (issued_le (turns_play config moves move).request) few
    obtain ⟨entries, journal, own⟩ := (play config moves).own_step move
    have later (mem : receipt ∈ receipts (play config moves).journal)
        (known : fate receipt (play config moves).journal = some outcome ∨
          ∃ misuse, outcome = .error (.misuse misuse)) :
        receipt ∈ receipts ((play config moves).step move).journal ∧
          (fate receipt ((play config moves).step move).journal = some outcome ∨
            ∃ misuse, outcome = .error (.misuse misuse)) := by
      rw [journal, receipts_append]
      exact ⟨List.mem_append_left _ mem, known.imp_left (fate_of_decided mem)⟩
    rw [journal] at told
    obtain told | told := List.mem_append.mp told
    · obtain ⟨mem, known⟩ := ih few told
      exact later mem known
    · obtain ⟨caller, polled, mem, holds⟩ := own _ told rfl
      have mem := mem_receipts (held_play config moves mem holds)
      refine later mem ((polled_outcome polled).imp_left fun found => ?_)
      exact (correlated_play config moves few).fate_of_owed (numbered_play config moves) mem
        (mem_owed_of_outcome found)

/-- Every receipt gets at most one outcome, and that is what its own id met with first since it was
issued: a reply, the failure to write its packet, or the end of the connection. The table holds the
ids that have met with none of these. Replies are dealt with as they are read, and a failure to
write is the fate of the command, as soon as the writer has taken its next step, unless that had one
before; a command is given up for no other reason but the end of the connection. What was decided
has been handed out, or is by a piece of work that waits, and such pieces can all be performed; at
the end of the connection all is decided. What a caller is told is the outcome of the receipt that
it holds. -/
theorem one_outcome (config : Config) (moves : List Move)
    (few : (play config moves).connection.issued < UInt32.size) :
    let world := play config moves
    ((receipts world.journal).map (·.id)).Nodup ∧
    (∀ receipt ∈ receipts world.journal,
      (world.connection.outcomes.filter (·.1 == receipt.serial)).length ≤ 1 ∧
      (∀ outcome, world.connection.outcome? receipt = some outcome →
        fate receipt world.journal = some outcome) ∧
      (∀ outcome, fate receipt world.journal = some outcome →
        world.connection.outcome? receipt = some outcome ∨
          ∃ work ∈ world.works, work.owes? = some (receipt.serial, outcome)) ∧
      (world.connection.dead = true → (fate receipt world.journal).isSome)) ∧
    (∀ id, (∃ request ∈ world.connection.pending, request.id = id) ↔
      ∃ receipt ∈ receipts world.journal,
        receipt.id = id ∧ fate receipt world.journal = none) ∧
    (∀ before id failure after,
      world.journal = before ++ .performed (.abandon id failure) :: after →
        .wrote id (.error failure) ∈ before ∨ .tornDown ∈ before) ∧
    (∀ before id failure after,
      world.journal = before ++ .wrote id (.error failure) :: after →
        ∃ receipt ∈ receipts before, receipt.id = id ∧
          (world.engine.writerWork = [.abandon id failure, .disconnect] ∧
              fate receipt (world.step .performWriter).journal =
                (fate receipt world.journal).or (some (.error failure)) ∨
            ∃ between later, after = between ++ .performed (.abandon id failure) :: later ∧
              fate receipt world.journal =
                (fate receipt (before ++ .wrote id (.error failure) :: between)).or
                  (some (.error failure)))) ∧
    gather reads (ofConfig config) moves = answers world.journal ++ world.backlog ∧
    (∀ receipt outcome, .answered receipt outcome ∈ world.journal →
      receipt ∈ receipts world.journal ∧ (fate receipt world.journal = some outcome ∨
        ∃ misuse, outcome = .error (.misuse misuse))) ∧
    ∃ more : List Move, (∀ move ∈ more, performs move) ∧
      (play config (moves ++ more)).works = [] ∧
      ∀ receipt ∈ receipts world.journal, ∀ outcome, fate receipt world.journal = some outcome →
        (receipt.serial, outcome) ∈ (play config (moves ++ more)).connection.outcomes := by
  intro world
  have numbered := numbered_play config moves
  have correlated := correlated_play config moves few
  refine ⟨numbered.nodup_ids few, fun receipt mem => ⟨correlated.outcomes_le_one _, ?_, ?_, ?_⟩,
    correlated.pending_iff, fun _ _ _ _ => abandoned_play config moves,
    fun _ _ _ _ => fate_of_failed config moves, answers_play config moves, ?_, ?_⟩
  · intro outcome found
    exact correlated.fate_of_owed numbered mem (mem_owed_of_outcome found)
  · intro outcome decided
    exact correlated.handed_or_waits mem decided
  · intro dead
    cases undecided : fate receipt world.journal with
    | some outcome => rfl
    | none =>
      obtain ⟨request, waits, -⟩ := correlated.exists_pending mem undecided
      rw [pending_of_dead config moves dead] at waits
      cases waits
  · intro receipt outcome told
    exact answered_play config moves few told
  · obtain ⟨more, all, idle⟩ := exists_idle_play config moves
    refine ⟨more, all, idle, fun receipt mem outcome decided => ?_⟩
    have owed := (correlated.owed receipt.serial outcome).mpr ⟨receipt, mem, rfl, decided⟩
    have owed := mem_owed_play config moves more owed
    rwa [World.owed, idle, List.filterMap_nil, List.append_nil] at owed

/-- Two commands of which the second is answered first and twice, and the first never. -/
def crossing : List Move :=
  [.start (.call .version), .start (.call .resumeAll), .take, .wrote (.ok ()), .take,
    .wrote (.ok ()), .receive (.frame (ReplyPacket.encode ⟨2, 0, []⟩)), .performDispatcher,
    .performDispatcher, .performDispatcher, .receive (.frame (ReplyPacket.encode ⟨2, 0, [7]⟩)),
    .performDispatcher, .performDispatcher, .receive .finished, .performDispatcher,
    .performDispatcher, .performDispatcher]

/-- A command whose packet cannot be written. -/
def unwritten : List Move :=
  [.start (.call .version), .take, .wrote (.error (.stream (.other "broken")))]

theorem one_outcome_crossing :
    let world := play {} crossing
    world.connection.issued < UInt32.size ∧
      receipts world.journal = [⟨0, 1, 0⟩, ⟨0, 2, 1⟩] ∧
      world.connection.outcome? ⟨0, 2, 1⟩ = some (.ok []) ∧
      fate ⟨0, 2, 1⟩ world.journal = some (.ok []) ∧
      world.connection.outcome? ⟨0, 1, 0⟩ = some (.error .disconnected) ∧
      fate ⟨0, 1, 0⟩ world.journal = some (.error .disconnected) ∧
      gather reads (ofConfig {}) crossing = [⟨2, 0, []⟩, ⟨2, 0, [7]⟩] ∧
      answers world.journal = [⟨2, 0, []⟩, ⟨2, 0, [7]⟩] ∧
      fate ⟨0, 1, 0⟩ ((play {} unwritten).step .performWriter).journal =
        some (.error (.stream (.other "broken"))) := by
  intro world
  have few : world.connection.issued < UInt32.size := by decide +kernel
  have handed : receipts world.journal = [⟨0, 1, 0⟩, ⟨0, 2, 1⟩] := rfl
  have read : gather reads (ofConfig {}) crossing = [⟨2, 0, []⟩, ⟨2, 0, [7]⟩] := by
    decide +kernel
  obtain ⟨-, each, -, -, -, dealt, -⟩ := one_outcome {} crossing few
  obtain ⟨-, second, -⟩ := each ⟨0, 2, 1⟩ (by rw [handed]; simp)
  obtain ⟨-, first, -⟩ := each ⟨0, 1, 0⟩ (by rw [handed]; simp)
  refine ⟨few, handed, rfl, second _ rfl, rfl, first _ rfl, read, ?_, ?_⟩
  · have none : world.backlog = [] := by decide +kernel
    exact ((List.append_nil _).symm.trans (none ▸ dealt.symm)).trans read
  · obtain ⟨-, -, -, -, failed, -⟩ := one_outcome {} unwritten (by decide +kernel)
    obtain ⟨receipt, mem, -, ⟨-, decided⟩ | ⟨between, later, eq, -⟩⟩ := failed
      [.issued ⟨0, 1, 0⟩ .version [], .handed 1 (CommandPacket.encode ⟨1, 1, 1, []⟩)] 1
      (.stream (.other "broken")) [] rfl
    · obtain rfl : receipt = ⟨0, 1, 0⟩ := List.mem_singleton.mp mem
      exact decided
    · simp at eq

end World

end DebugLink
