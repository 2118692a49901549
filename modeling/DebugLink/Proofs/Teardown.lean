import DebugLink.Proofs.Correlation

/-!
# Teardown: a connection that is torn down stays as it is

A connection dies in one step, and in that step loses all that was waiting for something: the
pending requests, the resuming commands whose replies were awaited, and the probes. Nothing of the
kind comes up again, for a dead connection issues nothing (`ledger_of_dead`, `probes_of_dead`).

The writer is told to close once, and no message is queued behind that one (`Sealed`): it is queued
when the connection is dead, and from then on there are no packets to queue. As long as the
connection is not dead the writer takes messages, so whatever is issued is queued.

Main statement: `dead_for_good`.
-/

namespace DebugLink

/-- Whether a piece of work leads to the end of the connection. -/
def Work.terminal : Work → Bool
  | .close | .disconnect => true
  | _ => false

/-- Whether an entry tells that the writer was told to close. -/
def Entry.parting : Entry → Bool
  | .performed .queueClose => true
  | _ => false

/-- Whether an entry tells of the end of the connection. -/
def Entry.last : Entry → Bool
  | .tornDown => true
  | _ => false

/-! ## What a turn does to the queue to the writer -/

/-- What one step does to the queue to the writer. -/
inductive QueueStep (before : Connection) (used : List Work) (entries : List Entry)
    (after : Connection) : Prop
  | same (queue : after.outbound = before.outbound)
  | taken (queue : after.outbound = before.outbound.tail)
  | frame (live : before.dead = false) (id : UInt32) (bytes : Bytes)
    (queue : after.outbound = before.outbound ++ [.frame id bytes])
  | close (used : used = [.queueClose]) (entries : entries = [.performed .queueClose])
    (queue : after.outbound = before.outbound ++ [.close])

namespace Turn

variable {engine : Engine} {used left : List Work} {entries : List Entry} {after : Connection}

theorem queueStep (turn : Turn engine used entries left after) :
    QueueStep engine.connection used entries after := by
  cases turn with
  | aside keeps => exact .same keeps.outbound
  | issue command data origin live keeps => exact .frame live _ _ keeps.outbound
  | replied reply keeps => exact .same keeps.outbound
  | abandon id failure keeps => exact .same keeps.outbound
  | settle settles keeps => exact .same keeps.outbound
  | suspended keeps => exact .same keeps.outbound
  | disconnect evicted live aside keeps => exact .same keeps.outbound
  | queueClose keeps =>
    have queue := keeps.outbound
    dsimp only at queue
    split at queue
    · exact .close rfl rfl queue
    · exact .same queue
  | fail failure writing keeps => exact .same keeps.outbound
  | take receiving first keeps => exact .taken (by rw [keeps.outbound, first]; rfl)
  | drain draining idle keeps => exact .taken keeps.outbound
  | store n key stamp value keeps => exact .same keeps.outbound
  | invalidate aside keeps => exact .same keeps.outbound

theorem count_queueClose_of_free {works : List Work} (free : ∀ work ∈ works, work.free) :
    works.count .queueClose = 0 :=
  List.count_eq_zero.mpr fun mem => absurd (free _ mem) (by simp [Work.free])

/-- Tearing the connection down leaves one piece that tells the writer to close, and no other step
leaves one. -/
theorem partings (turn : Turn engine used entries left after) :
    left.count .queueClose + entries.countP Entry.parting =
      used.count .queueClose + entries.countP Entry.last := by
  have none {works : List Work} (aside : ∀ work ∈ works, work.aside) :
      works.count .queueClose = 0 :=
    count_queueClose_of_free fun work mem => Work.free_of_aside (aside work mem)
  cases turn with
  | aside keeps calm quiet free =>
    have silent {p : Entry → Bool} (p_aside : ∀ entry : Entry, entry.aside → p entry = false) :
        entries.countP p = 0 :=
      List.countP_eq_zero.mpr fun entry mem => by simp [p_aside entry (quiet entry mem)]
    rw [count_queueClose_of_free free,
      count_queueClose_of_free fun work mem => Work.free_of_calm (calm work mem),
      silent (p := Entry.parting), silent (p := Entry.last)]
    · intro entry aside
      cases entry <;> first | rfl | simp [Entry.aside] at aside
    · intro entry aside
      cases entry with
      | performed work => cases work <;> first | rfl | simp [Entry.aside, Work.aside] at aside
      | _ => rfl
  | issue command data origin live keeps =>
    rw [none fun work mem => mem_issue_left mem]
    obtain rfl | rfl := origin <;> simp [Entry.parting, Entry.last]
  | replied reply keeps =>
    cases engine.connection.request? reply.id <;> simp [Entry.parting, Entry.last]
  | abandon id failure keeps =>
    cases engine.connection.request? id <;> simp [Entry.parting, Entry.last]
  | @settle work _ request outcome settles keeps =>
    cases work <;> simp [Work.settles?] at settles <;> simp [Entry.parting, Entry.last]
  | suspended keeps => simp [Entry.parting, Entry.last]
  | disconnect evicted live aside keeps =>
    have fails : (engine.connection.pending.map (Work.fail · .disconnected)).count .queueClose
        = 0 := by
      rw [List.count_eq_zero]
      simp
    simp [none aside, fails, Entry.parting, Entry.last]
  | queueClose keeps => simp [Entry.parting, Entry.last]
  | fail failure writing keeps => simp [Entry.parting, Entry.last]
  | @take message rest _ receiving first keeps =>
    cases message <;> simp [Message.entries, Entry.parting, Entry.last]
  | drain draining idle keeps =>
    rcases engine.connection.outbound.head? with _ | _ | _ <;> simp [Message.givenUp]
  | store n key stamp value keeps => simp [Entry.parting, Entry.last]
  | invalidate aside keeps => simp [none aside, Entry.parting, Entry.last]

/-- Only a live connection ends, and in one step, in which its scope is shut down. -/
theorem lasts (turn : Turn engine used entries left after) :
    entries.countP Entry.last = 0 ∧ after.dead = engine.connection.dead ∨
      entries.countP Entry.last = 1 ∧ engine.connection.dead = false ∧ after.dead = true ∧
        .performed .disconnect ∈ entries ∧ after.scope = engine.connection.scope.shutdown := by
  cases turn with
  | disconnect evicted live aside keeps =>
    exact .inr ⟨rfl, live, keeps.dead, List.mem_cons_self, keeps.scope⟩
  | aside keeps calm quiet free =>
    refine .inl ⟨List.countP_eq_zero.mpr fun entry mem => ?_, keeps.dead⟩
    have aside := quiet entry mem
    cases entry with
    | tornDown => simp [Entry.aside] at aside
    | _ => simp [Entry.last]
  | issue command data origin live keeps =>
    refine .inl ⟨?_, keeps.dead⟩
    obtain rfl | rfl := origin <;> simp [Entry.last]
  | settle settles keeps => exact .inl ⟨rfl, keeps.dead⟩
  | @take message rest _ receiving first keeps =>
    refine .inl ⟨?_, keeps.dead⟩
    cases message <;> rfl
  | replied reply keeps => exact .inl ⟨rfl, keeps.dead⟩
  | abandon id failure keeps => exact .inl ⟨rfl, keeps.dead⟩
  | suspended keeps => exact .inl ⟨rfl, keeps.dead⟩
  | queueClose keeps => exact .inl ⟨rfl, keeps.dead⟩
  | fail failure writing keeps => exact .inl ⟨rfl, keeps.dead⟩
  | drain draining idle keeps => exact .inl ⟨rfl, keeps.dead⟩
  | store n key stamp value keeps => exact .inl ⟨rfl, keeps.dead⟩
  | invalidate aside keeps => exact .inl ⟨rfl, keeps.dead⟩

end Turn

namespace World

variable {world world' : World}

/-- The writer is told to close once, by the end of the connection, and nothing is queued behind
that. -/
structure Sealed (world : World) : Prop where
  /-- The piece that tells the writer to close waits, or has been performed. -/
  once : world.works.count .queueClose + world.journal.countP Entry.parting =
    world.journal.countP Entry.last
  lasts : world.journal.countP Entry.last = if world.connection.dead then 1 else 0
  queued : .close ∈ world.connection.outbound → world.journal.countP Entry.parting = 1
  final : ∀ {before after}, world.connection.outbound = before ++ .close :: after → after = []

namespace Sealed

theorem parting_le (closed : Sealed world) :
    world.works.count .queueClose + world.journal.countP Entry.parting ≤ 1 := by
  rw [closed.once, closed.lasts]
  split <;> omega

/-- As long as the piece that tells the writer to close waits, the writer was not told. -/
theorem parting_eq_zero (closed : Sealed world) (waits : .queueClose ∈ world.works) :
    world.journal.countP Entry.parting = 0 := by
  have le := closed.parting_le
  have := List.count_pos_iff.mpr waits
  omega

/-- Nothing stands behind what is added to a queue in which the writer is not told to close. -/
theorem final_append {queue : List Message} {message : Message} (free : .close ∉ queue)
    {before after : List Message} (split : queue ++ [message] = before ++ .close :: after) :
    after = [] := by
  obtain ⟨rest, eq, -⟩ | ⟨-, -, last⟩ := split_concat split
  · rw [eq] at free
    exact absurd (List.mem_append_right _ List.mem_cons_self) free
  · exact last

theorem step (closed : Sealed world) (shutdown : Shutdown world) (turns : Turns world world') :
    Sealed world' := by
  obtain ⟨used, entries, left, turn, journal, replaced⟩ := turns
  obtain ⟨before, after, works, works'⟩ := replaced.works
  have once : world'.works.count .queueClose + world'.journal.countP Entry.parting =
      world'.journal.countP Entry.last := by
    have kept := closed.once
    have change := turn.partings
    rw [works] at kept
    rw [works', journal]
    simp only [List.count_append, List.countP_append] at kept ⊢
    omega
  have lasts : world'.journal.countP Entry.last = if world'.connection.dead then 1 else 0 := by
    have kept := closed.lasts
    rw [journal, List.countP_append, kept]
    obtain ⟨none, dead⟩ | ⟨one, live, dead, -⟩ := turn.lasts
    · rw [none, dead]; rfl
    · rw [one, dead, if_neg (by rw [connection, live]; simp)]; rfl
  have grown : world.journal.countP Entry.parting ≤ world'.journal.countP Entry.parting := by
    rw [journal, List.countP_append]; omega
  have most : world'.journal.countP Entry.parting ≤ 1 := by
    have : (if world'.connection.dead then 1 else 0) ≤ 1 := by split <;> omega
    omega
  have known (mem : .close ∈ world.connection.outbound) :
      world'.journal.countP Entry.parting = 1 := by
    have := closed.queued mem
    omega
  cases turn.queueStep with
  | same queue =>
    have queue : world'.connection.outbound = world.connection.outbound := queue
    refine ⟨once, lasts, fun mem => known (queue ▸ mem), fun split => ?_⟩
    rw [queue] at split
    exact closed.final split
  | taken queue =>
    have queue : world'.connection.outbound = world.connection.outbound.tail := queue
    refine ⟨once, lasts, fun mem => known (List.mem_of_mem_tail (queue ▸ mem)), ?_⟩
    intro earlier later split
    rw [queue] at split
    cases outbound : world.connection.outbound with
    | nil => simp [outbound] at split
    | cons first rest =>
      rw [outbound, List.tail_cons] at split
      have whole : world.connection.outbound = (first :: earlier) ++ .close :: later := by
        rw [outbound, split, List.cons_append]
      exact closed.final whole
  | frame live id bytes queue =>
    have queue : world'.connection.outbound =
        world.connection.outbound ++ [.frame id bytes] := queue
    -- A live connection has not told the writer to close.
    have free : .close ∉ world.connection.outbound := fun mem => by
      have dead := shutdown.queued (.inr mem)
      rw [connection, live] at dead
      cases dead
    refine ⟨once, lasts, fun mem => ?_, fun split => ?_⟩
    · rw [queue] at mem
      exact absurd mem (by simpa using free)
    · rw [queue] at split
      exact final_append free split
  | close used' entries' queue =>
    have queue : world'.connection.outbound = world.connection.outbound ++ [.close] := queue
    -- The piece that does so was the only one.
    have none : world.journal.countP Entry.parting = 0 :=
      closed.parting_eq_zero (by rw [works, used']; simp)
    have free : .close ∉ world.connection.outbound := fun mem => by
      have := closed.queued mem
      omega
    refine ⟨once, lasts, fun _ => ?_, fun split => ?_⟩
    · rw [journal, entries', List.countP_append, none]; rfl
    · rw [queue] at split
      exact final_append free split

end Sealed

theorem sealed_play (config : Config) (moves : List Move) : Sealed (play config moves) := by
  refine turn_induction ⟨rfl, rfl, by simp [ofConfig, connection, Connection.ofConfig], ?_⟩
    (fun shutdown turns closed => closed.step shutdown turns) moves
  simp [ofConfig, connection, Connection.ofConfig]

/-! ## What stays on a dead connection -/

/-- What was recorded stays. -/
theorem journal_grows (config : Config) (moves more : List Move) :
    (play config moves).journal <+: (play config (moves ++ more)).journal := by
  induction more using List.reverseRecOn with
  | nil => simp
  | append_singleton more move ih =>
    obtain ⟨used, entries, left, turn, journal, -⟩ := turns_play config (moves ++ more) move
    rw [← List.append_assoc, play_append, journal]
    exact ih.trans (List.prefix_append _ _)

theorem resumes_of_dead (config : Config) (moves : List Move)
    (dead : (play config moves).connection.dead = true) :
    (play config moves).connection.scope.resumes = [] := by
  revert dead
  refine turn_induction (P := fun world => world.connection.dead = true →
    world.connection.scope.resumes = []) (fun _ => rfl) (fun {world world'} _ turns ih dead => ?_)
    moves
  cases turns.request with
  | quiet journal silent ledger owed =>
    have dead' : world.connection.dead = true := (congrArg Ledger.dead ledger).symm.trans dead
    exact (congrArg Ledger.resumes ledger).trans (ih dead')
  | issue command data live journal silent ledger owed =>
    have dead' : world.connection.dead = true := (congrArg Ledger.dead ledger).symm.trans dead
    rw [live] at dead'
    cases dead'
  | decide id outcome journal issue verdict ledger owed =>
    have dead' : world.connection.dead = true := (congrArg Ledger.dead ledger).symm.trans dead
    have resumes : world'.connection.scope.resumes =
        world.connection.scope.resumes.filter (· != id) := congrArg Ledger.resumes ledger
    rw [resumes, ih dead', List.filter_nil]
  | down live journal ledger owed => exact congrArg Ledger.resumes ledger

/-- A step leaves the ledger of a dead connection as it is. -/
theorem ledger_step_of_dead (config : Config) (moves : List Move) (move : Move)
    (dead : (play config moves).connection.dead = true) :
    ((play config moves).step move).connection.ledger = (play config moves).connection.ledger := by
  cases (turns_play config moves move).request with
  | quiet journal silent ledger owed => exact ledger
  | issue command data live journal silent ledger owed => simp [dead] at live
  | decide id outcome journal issue verdict ledger owed =>
    rw [ledger, Connection.ledger, Connection.ledger]
    simp [Connection.take, Scope.complete, pending_of_dead config moves dead,
      resumes_of_dead config moves dead]
  | down live journal ledger owed => simp [dead] at live

theorem ledger_of_dead (config : Config) (moves more : List Move)
    (dead : (play config moves).connection.dead = true) :
    (play config (moves ++ more)).connection.ledger = (play config moves).connection.ledger := by
  induction more using List.reverseRecOn with
  | nil => rw [List.append_nil]
  | append_singleton more move ih =>
    have still : (play config (moves ++ more)).connection.dead = true :=
      (congrArg Ledger.dead ih).trans dead
    rw [← List.append_assoc, play_append, ledger_step_of_dead config _ move still, ih]

/-- After a connection has died nothing is added to the queue to the writer but the message that
tells it to close, once. -/
theorem outbound_of_dead (config : Config) (moves more : List Move)
    (dead : (play config moves).connection.dead = true) :
    let queue := (play config moves).connection.outbound
    let later := play config (moves ++ more)
    later.connection.outbound <:+ queue ∨
      (play config moves).journal.countP Entry.parting = 0 ∧
        later.journal.countP Entry.parting = 1 ∧
        later.connection.outbound <:+ queue ++ [.close] := by
  intro queue
  induction more using List.reverseRecOn with
  | nil =>
    rw [List.append_nil]
    exact .inl (List.suffix_refl _)
  | append_singleton more move ih =>
    intro later
    have later' : later = (play config (moves ++ more)).step move := by
      rw [← play_append, List.append_assoc]
    obtain ⟨used, entries, left, turn, journal, replaced⟩ := turns_play config (moves ++ more) move
    rw [← later'] at turn journal replaced
    have closed := sealed_play config (moves ++ more)
    have most : later.journal.countP Entry.parting ≤ 1 :=
      Nat.le_trans (Nat.le_add_left _ _) (sealed_play config (moves ++ (more ++ [move]))).parting_le
    have grown : later.journal.countP Entry.parting =
        (play config (moves ++ more)).journal.countP Entry.parting +
          entries.countP Entry.parting := by
      rw [journal, List.countP_append]
    -- What was true of the queue stays true of what is left of it.
    have shrinks
        (suffix : later.connection.outbound <:+ (play config (moves ++ more)).connection.outbound) :
        later.connection.outbound <:+ queue ∨
          (play config moves).journal.countP Entry.parting = 0 ∧
            later.journal.countP Entry.parting = 1 ∧
            later.connection.outbound <:+ queue ++ [.close] := by
      obtain old | ⟨none, one, old⟩ := ih
      · exact .inl (suffix.trans old)
      · exact .inr ⟨none, by omega, suffix.trans old⟩
    cases turn.queueStep with
    | same queue => exact shrinks (queue ▸ List.suffix_refl _)
    | taken queue => exact shrinks (queue ▸ List.tail_suffix _)
    | frame live id bytes queue =>
      have still : (play config (moves ++ more)).connection.dead = true :=
        (congrArg Ledger.dead (ledger_of_dead config moves more dead)).trans dead
      rw [connection, live] at still
      cases still
    | close used' entries' queue =>
      -- The writer was not told to close before.
      obtain ⟨before, after, works, -⟩ := replaced.works
      have none := closed.parting_eq_zero (by rw [works, used']; simp)
      obtain old | ⟨-, one, -⟩ := ih
      · have first : (play config moves).journal.countP Entry.parting = 0 := by
          have le : (play config moves).journal.countP Entry.parting ≤
              (play config (moves ++ more)).journal.countP Entry.parting :=
            (journal_grows config moves more).sublist.countP_le
          omega
        refine .inr ⟨first, ?_, ?_⟩
        · rw [grown, none, entries']; rfl
        · obtain ⟨gone, eq⟩ := old
          exact ⟨gone, by rw [queue, ← eq, List.append_assoc]; rfl⟩
      · omega

/-! ## Probes -/

/-- The probes of a connection that is dead after a step are gone, or were there when it was dead
already. -/
def Spent (before after : Connection) : Prop :=
  after.dead = true → after.probes = [] ∨ before.dead = true ∧ after.probes = before.probes

variable {before after : Connection}

theorem spent_of_same (dead : after.dead = before.dead) (probes : after.probes = before.probes) :
    Spent before after :=
  fun died => .inr ⟨dead ▸ died, probes⟩

theorem spent_issue (connection : Connection) (command : Command) (data : Bytes) :
    Spent connection (connection.issue command data).2.2 := by
  rcases connection.dead.eq_false_or_eq_true with dead | live
  · rw [Connection.issue_of_dead dead]
    exact spent_of_same rfl rfl
  · rcases connection.outboundOpen.eq_false_or_eq_true with accepts | refuses
    · rw [Connection.issue_of_open live accepts]
      exact fun _ => .inl rfl
    · rw [Connection.issue_of_closed live refuses]
      exact fun _ => .inl rfl

theorem spent_perform (connection : Connection) (work : Work) :
    Spent connection (connection.perform work).2 := by
  cases work with
  | dispose payload => exact spent_issue connection .disposeObjects payload
  | disconnect =>
    simp only [Connection.perform, Connection.disconnect]
    split
    · exact spent_of_same rfl rfl
    · simp only [Connection.invalidate]
      split <;> exact fun _ => .inl rfl
  | replied reply =>
    simp only [Connection.perform, Connection.replied, Connection.take]
    cases connection.request? reply.id <;> exact spent_of_same rfl rfl
  | abandon id failure =>
    simp only [Connection.perform, Connection.take]
    cases connection.request? id <;> exact spent_of_same rfl rfl
  | suspended =>
    simp only [Connection.perform, Connection.noteSuspended]
    split
    · exact spent_of_same rfl rfl
    · split <;> exact spent_of_same rfl rfl
  | release lease =>
    simp only [Connection.perform]
    split <;> exact spent_of_same rfl rfl
  | reclaim object retained =>
    simp only [Connection.perform, Connection.reclaim]
    split <;> exact spent_of_same rfl rfl
  | flush =>
    simp only [Connection.perform]
    split <;> exact spent_of_same rfl rfl
  | sendBatch counts =>
    simp only [Connection.perform]
    split <;> exact spent_of_same rfl rfl
  | close =>
    simp only [Connection.perform]
    split <;> exact spent_of_same rfl rfl
  | _ => exact spent_of_same rfl rfl

/-- Every deed spends the probes of a connection that dies, and a dead connection takes none. -/
theorem spent_deed {engine : Engine} {used left : List Work} {entries : List Entry}
    (deed : Deed engine used entries left after) : Spent engine.connection after := by
  cases deed with
  | perform work => exact spent_perform engine.connection work
  | issue command data notices => exact spent_issue { engine.connection with notices } command data
  | probe =>
    simp only [Connection.probe]
    split
    · exact spent_of_same rfl rfl
    · next live => exact fun dead => absurd dead live
  | store n key stamp value =>
    simp only [Connection.store]
    split <;> exact spent_of_same rfl rfl
  | invalidate =>
    simp only [Connection.invalidate]
    split <;> exact spent_of_same rfl rfl
  | _ => exact spent_of_same rfl rfl

theorem probes_of_dead (config : Config) (moves : List Move)
    (dead : (play config moves).connection.dead = true) :
    (play config moves).connection.probes = [] := by
  induction moves using List.reverseRecOn with
  | nil => rfl
  | append_singleton moves move ih =>
    obtain ⟨used, entries, left, deed, -⟩ := does_step (tidy_play config moves) move
    rw [play_append] at dead ⊢
    obtain none | ⟨dead', same⟩ := spent_deed deed dead
    · exact none
    · rw [same]
      exact ih dead'

/-! ## What leads to the end of a connection -/

/-- Whoever performs a piece that leads to the end leaves the connection dead, or another such
piece. -/
theorem terminal_perform (connection : Connection) {work : Work} (terminal : work.terminal) :
    (connection.perform work).2.dead = true ∨
      ∃ left ∈ (connection.perform work).1, left.terminal := by
  cases work with
  | disconnect => exact .inl (dead_perform_disconnect connection)
  | close =>
    simp only [Connection.perform]
    split
    · next dead => exact .inl dead
    · exact .inr ⟨.disconnect, List.mem_singleton_self _, rfl⟩
  | _ => simp [Work.terminal] at terminal

theorem terminal_deed {engine : Engine} {used left : List Work} {entries : List Entry}
    (deed : Deed engine used entries left after) {work : Work} (mem : work ∈ used)
    (terminal : work.terminal) : after.dead = true ∨ ∃ next ∈ left, next.terminal := by
  cases deed with
  | perform performed =>
    obtain rfl := List.mem_singleton.mp mem
    exact terminal_perform engine.connection terminal
  | _ => cases mem

/-- As long as a connection lives, a piece that leads to its end does not get lost. -/
theorem terminal_step (config : Config) (moves : List Move) (move : Move)
    (waits : ∃ work ∈ (play config moves).works, work.terminal) :
    ((play config moves).step move).connection.dead = true ∨
      ∃ work ∈ ((play config moves).step move).works, work.terminal := by
  obtain ⟨used, entries, left, deed, -, replaced⟩ := does_step (tidy_play config moves) move
  obtain ⟨before, after, works, works'⟩ := replaced.works
  obtain ⟨work, mem, terminal⟩ := waits
  rw [works] at mem
  rw [works']
  simp only [List.mem_append] at mem ⊢
  obtain (mem | mem) | mem := mem
  · exact .inr ⟨work, .inl (.inl mem), terminal⟩
  · obtain dead | ⟨next, mem, terminal⟩ := terminal_deed deed mem terminal
    · exact .inl dead
    · exact .inr ⟨next, .inl (.inr mem), terminal⟩
  · exact .inr ⟨work, .inr mem, terminal⟩

/-- A piece that leads to the end does so, at the latest when no pieces are left. -/
theorem dead_of_idle (config : Config) (moves more : List Move)
    (waits : (play config moves).connection.dead = true ∨
      ∃ work ∈ (play config moves).works, work.terminal)
    (idle : (play config (moves ++ more)).works = []) :
    (play config (moves ++ more)).connection.dead = true := by
  suffices still : (play config (moves ++ more)).connection.dead = true ∨
      ∃ work ∈ (play config (moves ++ more)).works, work.terminal by
    obtain dead | ⟨work, mem, -⟩ := still
    · exact dead
    · rw [idle] at mem
      cases mem
  clear idle
  induction more using List.reverseRecOn with
  | nil => rwa [List.append_nil]
  | append_singleton more move ih =>
    rw [← List.append_assoc, play_append]
    obtain dead | waits := ih
    · exact .inl ((turns_play config (moves ++ more) move).dead dead)
    · exact terminal_step config (moves ++ more) move waits

/-- What brings the end of a connection. -/
inductive Ending (world : World) : Move → Prop
  /-- The debuggee closes the transport. -/
  | finished (reading : world.engine.dispatcher = .reading)
    (idle : world.engine.dispatcherWork = []) : Ending world (.receive .finished)
  | readFailed (reading : world.engine.dispatcher = .reading)
    (idle : world.engine.dispatcherWork = []) (failure : Failure) :
    Ending world (.receive (.failed failure))
  | writeFailed {id : UInt32} {frame : Bytes} (writing : world.engine.writer = .writing id frame)
    (failure : Failure) : Ending world (.wrote (.error failure))
  | closed : Ending world (.start .close)
  /-- The last handle goes. -/
  | dropped (last : world.connection.handles = 1) : Ending world (.start .dropHandle)

/-- Whatever brings the end leaves a piece of work that leads to it. -/
theorem Ending.terminal {move : Move} (ending : Ending world move) :
    ∃ work ∈ (world.step move).works, work.terminal := by
  cases ending with
  | finished reading idle =>
    exact ⟨.disconnect, by simp [works, step, record, Engine.received, reading, idle], rfl⟩
  | readFailed reading idle failure =>
    exact ⟨.disconnect, by simp [works, step, record, Engine.received, reading, idle], rfl⟩
  | writeFailed writing failure =>
    exact ⟨.disconnect, by simp [works, others, step, record, Engine.wrote, writing], rfl⟩
  | closed =>
    exact ⟨.close, by simp [works, others, step, start, Connection.start], rfl⟩
  | dropped last =>
    exact ⟨.close, by simp [works, others, step, start, Connection.start, Connection.release, last],
      rfl⟩

/-- Whoever performs a teardown leaves the connection dead. -/
theorem dead_of_performed {engine : Engine} {used left : List Work} {entries : List Entry}
    (deed : Deed engine used entries left after) (mem : .performed .disconnect ∈ entries) :
    after.dead = true := by
  rw [(deed.of_performed mem).2]
  exact dead_perform_disconnect engine.connection

/-- A connection is dead just if it was torn down. -/
theorem dead_iff_performed (config : Config) (moves : List Move) :
    (play config moves).connection.dead = true ↔
      .performed .disconnect ∈ (play config moves).journal := by
  induction moves using List.reverseRecOn with
  | nil => simp [ofConfig, connection, Connection.ofConfig]
  | append_singleton moves move ih =>
    rw [play_append]
    constructor
    · intro dead
      obtain ⟨used, entries, left, turn, journal, -⟩ := turns_play config moves move
      rw [journal, List.mem_append]
      obtain ⟨-, same⟩ | ⟨-, -, -, mem, -⟩ := turn.lasts
      · exact .inl (ih.mp (same ▸ dead))
      · exact .inr mem
    · obtain ⟨used, entries, left, deed, journal, -⟩ := does_step (tidy_play config moves) move
      rw [journal, List.mem_append]
      rintro (mem | mem)
      · exact (turns_play config moves move).dead (ih.mpr mem)
      · exact dead_of_performed deed mem

/-- A connection that was torn down has nothing pending, nothing that it waits for and no probes,
and it never has again: whatever is issued on it is refused and changes nothing, tearing it down or
closing it again changes nothing, and nothing is added to the queue to the writer but the message
that tells it to close, behind which nothing stands. Whatever brings the end of a connection leaves
it torn down once nobody has a piece of work left. A connection that was not torn down queues
whatever is issued on it. -/
theorem dead_for_good (config : Config) (moves : List Move) :
    let world := play config moves
    let connection := world.connection
    (connection.dead = true ↔ .performed .disconnect ∈ world.journal) ∧
    (connection.dead = true →
      connection.pending = [] ∧ connection.scope.resumes = [] ∧ connection.probes = [] ∧
      (∀ command data, connection.issue command data = (.error .disconnected, [], connection)) ∧
      connection.perform .disconnect = ([], connection) ∧
      connection.perform .close = ([], connection) ∧
      ∀ more, let later := play config (moves ++ more)
        later.connection.dead = true ∧ later.connection.nextId = connection.nextId ∧
        later.connection.issued = connection.issued ∧
        (later.connection.outbound <:+ connection.outbound ∨
          .performed .queueClose ∉ world.journal ∧
            later.connection.outbound <:+ connection.outbound ++ [.close])) ∧
    (∀ before after, connection.outbound = before ++ .close :: after → after = []) ∧
    (∀ move, Ending world move → ∀ more, (play config (moves ++ move :: more)).works = [] →
      (play config (moves ++ move :: more)).connection.dead = true) ∧
    (connection.dead = false → connection.outboundOpen = true ∧
      ∀ command data, connection.issue command data =
        (.ok connection.nextReceipt, connection.evicted command ++ [.countSent],
          connection.send command data)) := by
  intro world connection
  refine ⟨dead_iff_performed config moves, fun dead => ?_,
    fun _ _ split => (sealed_play config moves).final split, ?_, fun live => ?_⟩
  · refine ⟨pending_of_dead config moves dead, resumes_of_dead config moves dead,
      probes_of_dead config moves dead, fun _ _ => Connection.issue_of_dead dead,
      if_pos dead, if_pos dead, fun more => ?_⟩
    have ledger := ledger_of_dead config moves more dead
    refine ⟨(congrArg Ledger.dead ledger).trans dead, congrArg Ledger.nextId ledger,
      congrArg Ledger.issued ledger, ?_⟩
    obtain queue | ⟨untold, -, queue⟩ := outbound_of_dead config moves more dead
    · exact .inl queue
    · refine .inr ⟨fun mem => ?_, queue⟩
      exact absurd untold (Nat.ne_of_gt (List.countP_pos_iff.mpr ⟨_, mem, rfl⟩))
  · intro move ending more idle
    rw [← List.singleton_append, ← List.append_assoc] at idle ⊢
    refine dead_of_idle config (moves ++ [move]) more (.inr ?_) idle
    rw [play_append]
    exact ending.terminal
  · have accepts := (shutdown_play config moves).accepts live
    exact ⟨accepts, fun _ _ => Connection.issue_of_open live accepts⟩

/-- Two commands are issued of which the first is written, then the connection is closed, and a
third is refused. -/
def closing : List Move :=
  [.start (.call .version), .take, .wrote (.ok ()), .start (.call .resumeAll), .start .close,
    .advance 2 .task, .advance 2 .task, .advance 2 .task, .advance 2 .task, .advance 2 .task,
    .advance 2 .task, .advance 2 .task, .advance 2 .task, .advance 2 .task,
    .start (.call .version)]

theorem dead_for_good_closing :
    let connection := (play {} closing).connection
    connection.dead = true ∧ (∃ id bytes, connection.outbound = [.frame id bytes, .close]) ∧
      connection.pending = [] ∧
      connection.issue .resume [] = (.error .disconnected, [], connection) := by
  intro connection
  have dead : connection.dead = true := rfl
  obtain ⟨-, after, -⟩ := dead_for_good {} closing
  obtain ⟨pending, -, -, refused, -⟩ := after dead
  exact ⟨dead, ⟨_, _, rfl⟩, pending, refused .resume []⟩

end World

end DebugLink
