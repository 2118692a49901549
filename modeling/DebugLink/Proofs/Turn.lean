import DebugLink.Proofs.Deed

/-!
# Turn: what a deed does to the requests and to the scope

A `Turn` is a deed seen by the requests, the scope and the queue to the writer alone: everything
that keeps these is one turn (`Turn.aside`), and every other deed is a turn of its own.
`Deed.turn` finds the turn of every deed, and `World.turns_step` that of every move. An invariant
of requests is proved turn by turn.

A live connection is taken to have a writer that takes messages, which `Shutdown` shows it has.
-/

namespace DebugLink

/-- The request that a piece of work settles, and its outcome. -/
def Work.settles? : Work → Option (Request × Except Failure Bytes)
  | .resolve request reply => some (request, reply.result)
  | .fail request failure => some (request, .error failure)
  | _ => none

/-- Whether a piece of work may come up without a request or a shutdown that calls for it. -/
def Work.free : Work → Bool
  | .abandon .. | .resolve .. | .fail .. | .queueClose => false
  | _ => true

/-- Whether performing a piece of work can leave the requests and the scope alone. -/
def Work.calm : Work → Bool
  | .dispose _ | .disconnect => true
  | work => work.aside

/-- Whether an entry is of something that keeps the requests and the queue to the writer. -/
def Entry.aside : Entry → Bool
  | .issued .. | .tornDown | .stored .. | .invalidated | .handed .. => false
  | .performed (.dispose _) | .performed .disconnect => true
  | .performed work => work.aside
  | _ => true

theorem Work.free_of_aside {work : Work} (aside : work.aside) : work.free := by
  cases work <;> first | rfl | simp [Work.aside] at aside

theorem Work.free_of_calm {work : Work} (calm : work.calm) : work.free := by
  cases work <;> first | rfl | simp [Work.calm, Work.aside] at calm

theorem Work.calm_of_aside {work : Work} (aside : work.aside) : work.calm := by
  cases work <;> first | rfl | simp [Work.aside] at aside

theorem Work.free_of_arrives {work : Work} (arrives : work.arrives) : work.free := by
  cases work <;> first | rfl | simp [Work.arrives] at arrives

theorem Entry.aside_of_plain {entry : Entry} (plain : entry.plain) : entry.aside := by
  cases entry <;> first | rfl | simp [Entry.plain] at plain

theorem Entry.aside_performed {work : Work} (aside : work.aside) :
    (Entry.performed work).aside := by
  cases work <;> first | rfl | simp [Work.aside] at aside

/-- What is done to the requests and the scope of a connection: pieces used up, what is recorded,
pieces left behind, and the connection afterwards. -/
inductive Turn (engine : Engine) :
    (used : List Work) → (entries : List Entry) → (left : List Work) → Connection → Prop
  | aside {used left : List Work} {entries : List Entry} {after : Connection}
    (keeps : engine.connection.Keeps after) (calm : ∀ work ∈ used, work.calm)
    (quiet : ∀ entry ∈ entries, entry.aside) (free : ∀ work ∈ left, work.free) :
    Turn engine used entries left after
  /-- By a caller or the flow loop, or because objects are to be disposed of. -/
  | issue {used : List Work} {after : Connection} (command : Command) (data : Bytes)
    (origin : used = [] ∨ used = [.dispose data]) (live : engine.connection.dead = false)
    (keeps : (engine.connection.send command data).Keeps after) :
    Turn engine used (used.map .performed ++ [.issued engine.connection.nextReceipt command data])
      (engine.connection.evicted command ++ [.countSent]) after
  | replied {after : Connection} (reply : ReplyPacket)
    (keeps : (engine.connection.take reply.id).2.Keeps after) :
    Turn engine [.replied reply] [.performed (.replied reply)]
      (((engine.connection.request? reply.id).map (.resolve · reply)).toList ++ [.flush]) after
  | abandon {after : Connection} (id : UInt32) (failure : Failure)
    (keeps : (engine.connection.take id).2.Keeps after) :
    Turn engine [.abandon id failure] [.performed (.abandon id failure)]
      ((engine.connection.request? id).map (.fail · failure)).toList after
  | settle {work : Work} {after : Connection} {request : Request}
    {outcome : Except Failure Bytes} (settles : work.settles? = some (request, outcome))
    (keeps : { engine.connection with
      outcomes := engine.connection.outcomes ++ [(request.serial, outcome)] }.Keeps after) :
    Turn engine [work] [.performed work] [] after
  | suspended {after : Connection}
    (keeps : { engine.connection with scope := engine.connection.scope.suspend }.Keeps after) :
    Turn engine [.suspended] [.performed .suspended] [] after
  | disconnect {after : Connection} (evicted : List Work) (live : engine.connection.dead = false)
    (aside : ∀ work ∈ evicted, work.aside)
    (keeps : { engine.connection with
      dead := true, pending := [], scope := engine.connection.scope.shutdown }.Keeps after) :
    Turn engine [.disconnect] [.performed .disconnect, .tornDown]
      (evicted ++ engine.connection.pending.map (.fail · .disconnected) ++
        [.clearDisposals, .closeFeed, .markClosed, .queueClose]) after
  | queueClose {after : Connection}
    (keeps : { engine.connection with
      outbound := if engine.connection.outboundOpen then
          engine.connection.outbound ++ [Message.close]
        else engine.connection.outbound }.Keeps after) :
    Turn engine [.queueClose] [.performed .queueClose] [] after
  | fail {id : UInt32} {frame : Bytes} {after : Connection} (failure : Failure)
    (writing : engine.writer = .writing id frame) (keeps : engine.connection.Keeps after) :
    Turn engine [] [.wrote id (.error failure)] [.abandon id failure, .disconnect] after
  | take {message : Message} {rest : List Message} {after : Connection}
    (receiving : engine.writer = .receiving) (first : engine.connection.outbound = message :: rest)
    (keeps : { engine.connection with outbound := rest }.Keeps after) :
    Turn engine [] message.entries [] after
  | drain {after : Connection} (draining : engine.writer = .draining)
    (idle : engine.writerWork = [])
    (keeps : { engine.connection with
      outboundOpen := false, outbound := engine.connection.outbound.tail }.Keeps after) :
    Turn engine [] [] (engine.connection.outbound.head?.toList.flatMap Message.givenUp) after
  | store {after : Connection} (n : Nat) (key : String) (stamp : Stamp) (value : StoredValue)
    (keeps : { engine.connection with
      scope := (engine.connection.scope.store key stamp value).2 }.Keeps after) :
    Turn engine [] [.stored n key value (engine.connection.scope.honours stamp)]
      [.discard (engine.connection.scope.store key stamp value).1] after
  | invalidate {left : List Work} {after : Connection} (aside : ∀ work ∈ left, work.aside)
    (keeps : { engine.connection with scope := engine.connection.scope.invalidate }.Keeps after) :
    Turn engine [] [.invalidated] left after

namespace Connection

variable {connection : Connection}

/-- A reply finds its request, if there is one. -/
theorem perform_replied (reply : ReplyPacket) :
    (connection.perform (.replied reply)).1 =
      ((connection.request? reply.id).map (.resolve · reply)).toList ++ [.flush] ∧
    (connection.take reply.id).2.Keeps (connection.perform (.replied reply)).2 := by
  simp only [perform, replied, take]
  cases connection.request? reply.id with
  | none => exact ⟨rfl, keeps_report _⟩
  | some request => exact ⟨rfl, .refl⟩

theorem perform_abandon (id : UInt32) (failure : Failure) :
    (connection.perform (.abandon id failure)).1 =
      ((connection.request? id).map (.fail · failure)).toList ∧
    (connection.take id).2.Keeps (connection.perform (.abandon id failure)).2 := by
  simp only [perform, take]
  cases connection.request? id with
  | none => exact ⟨rfl, .refl⟩
  | some request => exact ⟨rfl, .refl⟩

theorem keeps_noteSuspended :
    { connection with scope := connection.scope.suspend }.Keeps connection.noteSuspended := by
  simp only [noteSuspended]
  split
  · next active =>
    have same : connection.scope.suspend = connection.scope := by simp [Scope.suspend, active]
    rw [same]; exact .refl
  · split
    · exact .of_same rfl
    · next inactive stays =>
      have same : connection.scope.suspend = connection.scope := by
        unfold Scope.suspend at stays ⊢
        split
        · rfl
        · simp_all
      rw [same]; exact .of_same rfl

end Connection

variable {engine : Engine}

/-- Issuing is a turn, whether or not it is what a piece of work does. -/
theorem turn_issue {used : List Work} (command : Command) (data : Bytes) (notices : List Notice)
    (origin : used = [] ∨ used = [.dispose data])
    (accepts : engine.connection.dead = false → engine.connection.outboundOpen = true) :
    Turn engine used
      (used.map .performed ++ { engine.connection with notices }.issueEntries command data)
      ({ engine.connection with notices }.issue command data).2.1
      ({ engine.connection with notices }.issue command data).2.2 := by
  rcases engine.connection.dead.eq_false_or_eq_true with dead | live
  · have dead' : { engine.connection with notices }.dead = true := dead
    rw [Connection.issue_of_dead dead', Connection.issueEntries_of_dead dead', List.append_nil]
    refine .aside (.of_same rfl) ?_ ?_ (by simp)
    · rcases origin with rfl | rfl <;> simp [Work.calm]
    · rcases origin with rfl | rfl <;> simp [Entry.aside]
  · have live' : { engine.connection with notices }.dead = false := live
    have accepts' : { engine.connection with notices }.outboundOpen = true := accepts live
    rw [Connection.issue_of_open live' accepts', Connection.issueEntries_of_open live' accepts']
    exact .issue command data origin live (.of_same rfl)

/-- Tearing a connection down is one turn; a dead one stays as it is. -/
theorem turn_disconnect :
    Turn engine [.disconnect] (engine.connection.workEntries .disconnect)
      engine.connection.disconnect.1 engine.connection.disconnect.2 := by
  rcases engine.connection.dead.eq_false_or_eq_true with dead | live
  · rw [Connection.workEntries, Connection.disconnect, if_pos dead, if_pos dead]
    exact .aside .refl (by simp [Work.calm]) (by simp [Entry.aside]) (by simp)
  · rw [Connection.workEntries, Connection.disconnect, if_neg (by simp [live]),
      if_neg (by simp [live])]
    refine .disconnect _ live Connection.invalidate_aside ?_
    simp only [Connection.invalidate, Scope.shutdown, Scope.invalidate]
    split <;> exact .of_same rfl

/-- Every piece of work is a turn. -/
theorem turn_perform (work : Work)
    (accepts : engine.connection.dead = false → engine.connection.outboundOpen = true) :
    Turn engine [work] (engine.connection.workEntries work) (engine.connection.perform work).1
      (engine.connection.perform work).2 := by
  -- Most pieces leave the requests alone.
  have pieces {work : Work} (aside : work.aside) :
      Turn engine [work] [.performed work] (engine.connection.perform work).1
        (engine.connection.perform work).2 := by
    refine .aside (Connection.keeps_perform aside) ?_ ?_ ?_
    · simpa using Work.calm_of_aside aside
    · simpa using Entry.aside_performed aside
    · intro left mem
      obtain aside | rfl | ⟨payload, rfl⟩ := Connection.perform_aside aside left mem
      · exact Work.free_of_aside aside
      · rfl
      · rfl
  cases work with
  | replied reply =>
    obtain ⟨left, keeps⟩ := engine.connection.perform_replied reply
    rw [left]
    exact .replied reply keeps
  | abandon id failure =>
    obtain ⟨left, keeps⟩ := engine.connection.perform_abandon id failure
    rw [left]
    exact .abandon id failure keeps
  | resolve request reply =>
    exact .settle rfl (.of_same rfl)
  | fail request failure =>
    exact .settle rfl (.of_same rfl)
  | suspended => exact .suspended Connection.keeps_noteSuspended
  | dispose payload =>
    exact turn_issue .disposeObjects payload engine.connection.notices (.inr rfl) accepts
  | disconnect => exact turn_disconnect
  | queueClose => exact .queueClose (.of_same rfl)
  | publish batch => exact pieces rfl
  | discard values => exact pieces rfl
  | release lease => exact pieces rfl
  | reclaim object retained => exact pieces rfl
  | queueDisposal object retained => exact pieces rfl
  | flush => exact pieces rfl
  | sendBatch counts => exact pieces rfl
  | countSent => exact pieces rfl
  | close => exact pieces rfl
  | clearDisposals => exact pieces rfl
  | closeFeed => exact pieces rfl
  | markClosed => exact pieces rfl

/-- Every deed is a turn. -/
theorem Deed.turn {used left : List Work} {entries : List Entry} {after : Connection}
    (deed : Deed engine used entries left after)
    (accepts : engine.connection.dead = false → engine.connection.outboundOpen = true) :
    Turn engine used entries left after := by
  cases deed with
  | perform work => exact turn_perform work accepts
  | issue command data notices => exact turn_issue command data notices (.inl rfl) accepts
  | adopt notices idSizes handles feed plain arrive =>
    exact .aside (.of_same rfl) (by simp)
      (fun entry mem => Entry.aside_of_plain (plain entry mem))
      (fun work mem => Work.free_of_arrives (arrive work mem))
  | fail failure notices writing =>
    exact .fail failure writing (.of_same rfl)
  | take notices receiving first =>
    exact .take receiving first (.of_same rfl)
  | drain draining idle => exact .drain draining idle .refl
  | cloneAll ids plain =>
    exact .aside (.of_same rfl) (by simp)
      (fun entry mem => Entry.aside_of_plain (plain entry mem)) (by simp)
  | acquire object =>
    exact .aside (.of_same rfl) (by simp) (by simp [Entry.aside])
      (by simp)
  | probe => exact .aside Connection.keeps_probe (by simp) (by simp [Entry.aside]) (by simp)
  | store n key stamp value =>
    refine .store n key stamp value ?_
    simp only [Connection.store]
    split <;> exact .of_same rfl
  | invalidate =>
    refine .invalidate Connection.invalidate_aside ?_
    simp only [Connection.invalidate, Scope.invalidate]
    split <;> exact .of_same rfl

namespace World

variable {world : World}

/-- A world comes from another by one turn. -/
def Turns (world world' : World) : Prop :=
  ∃ used entries left, Turn world.engine used entries left world'.connection ∧
    world'.journal = world.journal ++ entries ∧ Replaced world world' used left

theorem turns_step (tidy : Tidy world)
    (accepts : world.connection.dead = false → world.connection.outboundOpen = true)
    (move : Move) : Turns world (world.step move) := by
  obtain ⟨used, entries, left, deed, rest⟩ := does_step tidy move
  exact ⟨used, entries, left, deed.turn accepts, rest⟩

end World

end DebugLink
