import DebugLink.Proofs.Turn

/-!
# Shutdown: the order in which a connection goes down

The connection dies in one step, whoever tears it down, and only then does the writer stop taking
messages. So a live connection has a writer that takes messages, and a packet is given up only if
it could not be written or if the connection is dead. `Shutdown` says all this of a world, and
`shutdown_play` that it always holds.

With it every move is a turn (`turns_play`), which makes `turn_induction` the way to prove an
invariant of the requests.
-/

namespace DebugLink

/-! ## What a turn does to the life of a connection -/

namespace Turn

variable {engine : Engine} {used left : List Work} {entries : List Entry} {after : Connection}

theorem tornDown_of_aside {entries : List Entry} (aside : ∀ entry ∈ entries, entry.aside) :
    .tornDown ∉ entries :=
  fun mem => absurd (aside _ mem) (by simp [Entry.aside])

/-- A connection dies when it is torn down, and stays dead. -/
theorem dead_iff (turn : Turn engine used entries left after) :
    after.dead = true ↔ engine.connection.dead = true ∨ .tornDown ∈ entries := by
  cases turn with
  | aside keeps calm quiet free =>
    rw [keeps.dead]
    simp [tornDown_of_aside quiet]
  | issue command data origin live keeps => simp [keeps.dead, Connection.send, Connection.enrol]
  | replied reply keeps => simp [keeps.dead, Connection.take]
  | abandon id failure keeps => simp [keeps.dead, Connection.take]
  | settle settles keeps => simp [keeps.dead]
  | suspended keeps => simp [keeps.dead]
  | disconnect evicted live aside keeps => simp [keeps.dead]
  | queueClose keeps => simp [keeps.dead]
  | fail failure writing keeps => simp [keeps.dead]
  | @take message rest _ receiving first keeps =>
    cases message <;> simp [keeps.dead, Message.entries]
  | drain draining idle keeps => simp [keeps.dead]
  | store n key stamp value keeps => simp [keeps.dead]
  | invalidate aside keeps => simp [keeps.dead]

/-- The writer takes messages until it gives up what is queued. -/
theorem outboundOpen (turn : Turn engine used entries left after) :
    after.outboundOpen = engine.connection.outboundOpen ∨
      engine.writer = .draining ∧ engine.writerWork = [] := by
  cases turn with
  | drain draining idle keeps => exact .inr ⟨draining, idle⟩
  | aside keeps => exact .inl keeps.outboundOpen
  | issue command data origin live keeps => exact .inl keeps.outboundOpen
  | replied reply keeps => exact .inl keeps.outboundOpen
  | abandon id failure keeps => exact .inl keeps.outboundOpen
  | settle settles keeps => exact .inl keeps.outboundOpen
  | suspended keeps => exact .inl keeps.outboundOpen
  | disconnect evicted live aside keeps => exact .inl keeps.outboundOpen
  | queueClose keeps => exact .inl keeps.outboundOpen
  | fail failure writing keeps => exact .inl keeps.outboundOpen
  | take receiving first keeps => exact .inl keeps.outboundOpen
  | store n key stamp value keeps => exact .inl keeps.outboundOpen
  | invalidate aside keeps => exact .inl keeps.outboundOpen

/-- Only the shutdown tells the writer to close. -/
theorem close_queued (turn : Turn engine used entries left after)
    (queued : .close ∈ after.outbound) :
    .close ∈ engine.connection.outbound ∨ .queueClose ∈ used := by
  cases turn with
  | queueClose keeps => exact .inr (List.mem_singleton_self _)
  | issue command data origin live keeps =>
    rw [keeps.outbound] at queued
    exact .inl (by simpa [Connection.send, Connection.nextMessage, Connection.enrol] using queued)
  | take receiving first keeps =>
    rw [keeps.outbound] at queued
    rw [first]
    exact .inl (List.mem_cons_of_mem _ queued)
  | drain draining idle keeps =>
    rw [keeps.outbound] at queued
    exact .inl (List.mem_of_mem_tail queued)
  | aside keeps => exact .inl (keeps.outbound ▸ queued)
  | replied reply keeps => exact .inl (keeps.outbound ▸ queued)
  | abandon id failure keeps => exact .inl (keeps.outbound ▸ queued)
  | settle settles keeps => exact .inl (keeps.outbound ▸ queued)
  | suspended keeps => exact .inl (keeps.outbound ▸ queued)
  | disconnect evicted live aside keeps => exact .inl (keeps.outbound ▸ queued)
  | fail failure writing keeps => exact .inl (keeps.outbound ▸ queued)
  | store n key stamp value keeps => exact .inl (keeps.outbound ▸ queued)
  | invalidate aside keeps => exact .inl (keeps.outbound ▸ queued)

theorem mem_issue_left {command : Command} {work : Work}
    (mem : work ∈ engine.connection.evicted command ++ [.countSent]) : work.aside := by
  rcases List.mem_append.mp mem with evicted | counted
  · exact Connection.evicted_aside command work evicted
  · rw [List.mem_singleton.mp counted]; rfl

/-- What is left to do when a connection is torn down. -/
theorem mem_disconnect_left {evicted : List Work} {pending : List Request} {work : Work}
    (aside : ∀ work ∈ evicted, work.aside)
    (mem : work ∈ evicted ++ pending.map (.fail · .disconnected) ++
      [.clearDisposals, .closeFeed, .markClosed, .queueClose]) :
    work.aside ∨ work = .queueClose ∨ ∃ request ∈ pending, work = .fail request .disconnected := by
  simp only [List.mem_append, List.mem_map, List.mem_cons, List.not_mem_nil, or_false] at mem
  obtain (mem | ⟨request, mem, rfl⟩) | rfl | rfl | rfl | rfl := mem
  · exact .inl (aside work mem)
  · exact .inr (.inr ⟨request, mem, rfl⟩)
  · exact .inl rfl
  · exact .inl rfl
  · exact .inl rfl
  · exact .inr (.inl rfl)

/-- The writer is told to close only by tearing a live connection down. -/
theorem queueClose_left (turn : Turn engine used entries left after) (mem : .queueClose ∈ left) :
    .tornDown ∈ entries := by
  cases turn with
  | disconnect evicted live aside keeps => simp
  | aside keeps calm quiet free => exact absurd (free _ mem) (by simp [Work.free])
  | issue command data origin live keeps => exact absurd (mem_issue_left mem) (by simp [Work.aside])
  | replied reply keeps => simp at mem
  | abandon id failure keeps => simp at mem
  | fail failure writing keeps => simp at mem
  | drain draining idle keeps =>
    obtain ⟨message, -, mem⟩ := List.mem_flatMap.mp mem
    cases message <;> simp [Message.givenUp] at mem
  | store n key stamp value keeps => simp at mem
  | invalidate aside keeps => exact absurd (aside _ mem) (by simp [Work.aside])
  | _ => simp at mem

/-- A command is given up if its packet could not be written, or if the writer gives up what is
queued. -/
theorem abandon_left (turn : Turn engine used entries left after) {id : UInt32} {failure : Failure}
    (mem : .abandon id failure ∈ left) :
    .wrote id (.error failure) ∈ entries ∨ engine.writer = .draining ∧ engine.writerWork = [] := by
  cases turn with
  | fail failure' writing keeps =>
    obtain ⟨rfl, rfl⟩ : id = _ ∧ failure = failure' := by simpa using mem
    simp
  | drain draining idle keeps => exact .inr ⟨draining, idle⟩
  | aside keeps calm quiet free => exact absurd (free _ mem) (by simp [Work.free])
  | issue command data origin live keeps => exact absurd (mem_issue_left mem) (by simp [Work.aside])
  | replied reply keeps => simp at mem
  | abandon id failure keeps => simp at mem
  | disconnect evicted live aside keeps =>
    obtain aside | eq | ⟨request, -, eq⟩ := mem_disconnect_left aside mem
    · simp [Work.aside] at aside
    · cases eq
    · cases eq
  | invalidate aside keeps => exact absurd (aside _ mem) (by simp [Work.aside])
  | _ => simp at mem

end Turn

namespace World

variable {world world' : World}

/-- How far a connection and its writer have gone down. -/
structure Shutdown (world : World) : Prop where
  died : world.connection.dead = true ↔ .tornDown ∈ world.journal
  accepts : world.connection.dead = false → world.connection.outboundOpen = true
  closing : world.engine.writer = .closing → world.connection.dead = true
  /-- The writer is past its last packet only if it has torn the connection down or is about to. -/
  draining : world.engine.writer = .draining ∨ world.engine.writer = .exited →
    world.connection.dead = true ∨ .disconnect ∈ world.engine.writerWork
  queued : .queueClose ∈ world.works ∨ .close ∈ world.connection.outbound →
    world.connection.dead = true
  givenUp : ∀ {id failure}, .abandon id failure ∈ world.works →
    world.connection.dead = true ∨ .wrote id (.error failure) ∈ world.journal

theorem shutdown_ofConfig (config : Config) : Shutdown (ofConfig config) where
  died := by simp [ofConfig, connection, Connection.ofConfig]
  accepts _ := rfl
  closing := by simp [ofConfig]
  draining := by simp [ofConfig]
  queued := by simp [ofConfig, works, others, connection, Connection.ofConfig]
  givenUp := by simp [ofConfig, works, others]

/-- A piece that waits was left behind just now or waited before. -/
theorem mem_left_or {before used left after : List Work} {work : Work}
    (mem : work ∈ before ++ left ++ after) : work ∈ left ∨ work ∈ before ++ used ++ after := by
  simp only [List.mem_append] at mem ⊢
  tauto

/-- A dead connection stays dead. -/
theorem Turns.dead (turns : Turns world world') (dead : world.connection.dead = true) :
    world'.connection.dead = true := by
  obtain ⟨used, entries, left, turn, -⟩ := turns
  exact turn.dead_iff.mpr (.inl dead)

theorem Turns.up (turns : Turns world world') (live : world'.connection.dead = false) :
    world.connection.dead = false := by
  rw [← Bool.not_eq_true] at live ⊢
  exact fun dead => live (turns.dead dead)

/-- Whoever performs a piece that tears the connection down leaves it dead. -/
theorem dead_perform_disconnect (connection : Connection) :
    (connection.perform .disconnect).2.dead = true := by
  have turn := @turn_disconnect { connection }
  rw [Connection.perform, turn.dead_iff]
  rcases connection.dead.eq_false_or_eq_true with dead | live
  · exact .inl dead
  · exact .inr (by simp [Connection.workEntries, live])

namespace Shutdown

/-- A writer past its last packet has torn the connection down, or is still about to. -/
theorem draining_step (shutdown : Shutdown world) (turns : Turns world world')
    (step : WriterStep world.engine world'.engine)
    (past : world'.engine.writer = .draining ∨ world'.engine.writer = .exited) :
    world'.connection.dead = true ∨ .disconnect ∈ world'.engine.writerWork := by
  cases step with
  | still writer work =>
    rw [writer] at past
    rw [work]
    exact (shutdown.draining past).imp_left turns.dead
  | @performed work rest first writer left after =>
    rw [writer] at past
    obtain dead | mem := shutdown.draining past
    · exact .inl (turns.dead dead)
    · -- It is this very step that tears the connection down, or the piece for that still waits.
      rw [first] at mem
      obtain rfl | mem := List.mem_cons.mp mem
      · exact .inl (by rw [connection, after]; exact dead_perform_disconnect _)
      · exact .inr (by rw [left]; exact List.mem_append_right _ mem)
  | @took message rest receiving idle first writer work =>
    rw [writer] at past
    cases message <;> simp [Message.phase] at past
  | wrote writing writer => simp [writer] at past
  | failed failure writing writer left => exact .inr (by simp [left])
  | shut closing writer => exact .inl (turns.dead (shutdown.closing closing))
  | drained draining idle writer =>
    obtain dead | waits := shutdown.draining (.inl draining)
    · exact .inl (turns.dead dead)
    · simp [idle] at waits

/-- The writer closes the transport only once the connection is dead. -/
theorem closing_step (shutdown : Shutdown world) (turns : Turns world world')
    (step : WriterStep world.engine world'.engine) (closing : world'.engine.writer = .closing) :
    world'.connection.dead = true := by
  apply turns.dead
  cases step with
  | still writer work => exact shutdown.closing (writer ▸ closing)
  | performed first writer left after => exact shutdown.closing (writer ▸ closing)
  | @took message rest receiving idle first writer work =>
    rw [writer] at closing
    cases message with
    | frame id bytes => simp [Message.phase] at closing
    | close =>
      have queued : Message.close ∈ world.connection.outbound := by
        rw [connection, first]; exact List.mem_cons_self
      exact shutdown.queued (.inr queued)
  | wrote writing writer => simp [writer] at closing
  | failed failure writing writer left => simp [writer] at closing
  | shut closed writer => exact shutdown.closing closed
  | drained draining idle writer => simp [closing] at writer

theorem step (shutdown : Shutdown world) (tidy : Tidy world) (move : Move) :
    Shutdown (world.step move) := by
  have turns := turns_step tidy shutdown.accepts move
  obtain ⟨used, entries, left, turn, journal, replaced⟩ := id turns
  obtain ⟨before, after, works, works'⟩ := replaced.works
  -- A writer that gives up what is queued has torn the connection down.
  have ends (gives : world.engine.writer = .draining ∧ world.engine.writerWork = []) :
      (world.step move).connection.dead = true := by
    obtain dead | waits := shutdown.draining (.inl gives.1)
    · exact turns.dead dead
    · simp [gives.2] at waits
  refine ⟨?_, ?_, shutdown.closing_step turns (writer_step move),
    shutdown.draining_step turns (writer_step move), ?_, ?_⟩
  · rw [turn.dead_iff, journal, List.mem_append]
    exact or_congr_left shutdown.died
  · intro live
    obtain same | gives := turn.outboundOpen
    · rw [same]
      refine shutdown.accepts (Bool.eq_false_iff.mpr fun dead => ?_)
      simp [turns.dead dead] at live
    · simp [ends gives] at live
  · rintro (mem | mem)
    · rw [works'] at mem
      obtain mem | mem := mem_left_or mem
      · exact turn.dead_iff.mpr (.inr (turn.queueClose_left mem))
      · exact turns.dead (shutdown.queued (.inl (works ▸ mem)))
    · obtain mem | mem := turn.close_queued mem
      · exact turns.dead (shutdown.queued (.inr mem))
      · refine turns.dead (shutdown.queued (.inl ?_))
        rw [works]
        exact List.mem_append_left _ (List.mem_append_right _ mem)
  · intro id failure mem
    rw [works'] at mem
    rw [journal]
    obtain mem | mem := mem_left_or mem
    · obtain wrote | gives := turn.abandon_left mem
      · exact .inr (List.mem_append_right _ wrote)
      · exact .inl (ends gives)
    · exact (shutdown.givenUp (works ▸ mem)).imp turns.dead (List.mem_append_left _)

end Shutdown

theorem shutdown_play (config : Config) (moves : List Move) : Shutdown (play config moves) := by
  refine play_induction (P := fun _ world => Shutdown world) (shutdown_ofConfig config) ?_ moves
  intro moves move shutdown
  exact shutdown.step (tidy_play config moves) move

theorem turns_play (config : Config) (moves : List Move) (move : Move) :
    Turns (play config moves) ((play config moves).step move) :=
  turns_step (tidy_play config moves) (shutdown_play config moves).accepts move

/-- What holds at first and is kept by every turn holds always. -/
theorem turn_induction {P : World → Prop} {config : Config} (init : P (ofConfig config))
    (turn : ∀ {world world'}, Shutdown world → Turns world world' → P world → P world')
    (moves : List Move) : P (play config moves) := by
  refine play_induction (P := fun _ => P) init ?_ moves
  intro moves move holds
  exact turn (shutdown_play config moves) (turns_play config moves move) holds

end World

end DebugLink
