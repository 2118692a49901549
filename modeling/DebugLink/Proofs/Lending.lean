import DebugLink.Proofs.Deed
import DebugLink.Proofs.Shutdown

/-!
# Lending: what a deed does to the leases and to what is given back

A lease that is gone leaves a piece of work that carries what it retained, and that piece leaves
another one; then the count is in the batch. When the batch is taken, pieces carry it again until a
command to dispose of the objects is issued. `LeaseStep` says how each deed moves these counts on,
and `Deed.leaseStep` that while the connection is not going down a deed does nothing else with them.
-/

namespace DebugLink

/-- Whether a piece of work carries no counts and discards none. -/
def Work.light : Work → Bool
  | .reclaim .. | .queueDisposal .. | .sendBatch _ | .dispose _ | .clearDisposals => false
  | .replied _ | .abandon .. | .resolve .. | .fail .. | .suspended | .publish _ | .discard _
  | .release _ | .flush | .countSent | .close | .disconnect | .closeFeed | .markClosed
  | .queueClose => true

/-- Whether an entry tells neither that an id was taken in nor that objects were disposed of. -/
def Entry.light : Entry → Bool
  | .acquired .. | .performed (.dispose _) => false
  | .issued .. | .performed _ | .tornDown | .handed .. | .wrote .. | .shut | .answered ..
  | .found .. | .missed .. | .stored .. | .invalidated | .probed _ | .subscribed _
  | .delivered .. => true

/-- The connection is not dead and is not going down. -/
structure Connection.Up (connection : Connection) : Prop where
  live : connection.dead = false
  unclosed : connection.shuttingDown = false

/-- What is done to the leases and the disposals of a connection: pieces used up, what is recorded,
pieces left behind, and the connection afterwards. -/
inductive LeaseStep (before : Connection) :
    (used : List Work) → (entries : List Entry) → (left : List Work) → Connection → Prop
  /-- At most clones are made. -/
  | aside {used left : List Work} {entries : List Entry} {after : Connection} (ids : List LeaseId)
    (leases : after.leases = ids.foldl LeaseTable.clone before.leases)
    (disposals : after.disposals = before.disposals) (spent : ∀ work ∈ used, work.light)
    (quiet : ∀ entry ∈ entries, entry.light) (light : ∀ work ∈ left, work.light) :
    LeaseStep before used entries left after
  | acquire {after : Connection} (object : ObjectId)
    (leases : after.leases = (before.leases.acquire object).2)
    (disposals : after.disposals = before.disposals) :
    LeaseStep before [] [.acquired object (before.leases.acquire object).1] [] after
  | release {after : Connection} (lease : LeaseId)
    (leases : after.leases = (before.leases.drop lease).2)
    (disposals : after.disposals = before.disposals) :
    LeaseStep before [.release lease] [.performed (.release lease)]
      ((before.leases.drop lease).1.map fun gone => .reclaim gone.object gone.retained).toList after
  | reclaim {after : Connection} (object : ObjectId) (retained : UInt32)
    (leases : after.leases = before.leases.prune object)
    (disposals : after.disposals = before.disposals) :
    LeaseStep before [.reclaim object retained] [.performed (.reclaim object retained)]
      [.queueDisposal object retained] after
  | queue {left : List Work} {after : Connection} (object : ObjectId) (retained : UInt32)
    (leases : after.leases = before.leases)
    (disposals : after.disposals = before.disposals.push object retained)
    (light : ∀ work ∈ left, work.light) :
    LeaseStep before [.queueDisposal object retained] [.performed (.queueDisposal object retained)]
      left after
  | take {after : Connection} (any : before.disposals.counts ≠ [])
    (leases : after.leases = before.leases)
    (disposals : after.disposals = before.disposals.clear) :
    LeaseStep before [.flush] [.performed .flush] [.sendBatch before.disposals.counts] after
  | send {after : Connection} (counts : List (ObjectId × UInt32))
    (leases : after.leases = before.leases) (disposals : after.disposals = before.disposals) :
    LeaseStep before [.sendBatch counts] [.performed (.sendBatch counts)]
      [.dispose (disposePayload before.idSizes.object counts)] after
  | dispose {left : List Work} {after : Connection} (payload : Bytes)
    (leases : after.leases = before.leases) (disposals : after.disposals = before.disposals)
    (light : ∀ work ∈ left, work.light) :
    LeaseStep before [.dispose payload]
      [.performed (.dispose payload), .issued before.nextReceipt .disposeObjects payload] left after
  /-- Only a connection that is dead leaves this piece. -/
  | clear {entries : List Entry} {left : List Work} {after : Connection} :
    LeaseStep before [.clearDisposals] entries left after

namespace Connection

variable (connection : Connection)

/-- Two connections have the same leases and disposals, and are as far from their end. -/
structure Lends (before after : Connection) : Prop where
  leases : after.leases = before.leases
  disposals : after.disposals = before.disposals
  shuttingDown : after.shuttingDown = before.shuttingDown

theorem lends_issue (command : Command) (data : Bytes) :
    connection.Lends (connection.issue command data).2.2 := by
  rcases connection.dead.eq_false_or_eq_true with dead | live
  · rw [issue_of_dead dead]
    exact ⟨rfl, rfl, rfl⟩
  · rcases connection.outboundOpen.eq_false_or_eq_true with accepts | refuses
    · rw [issue_of_open live accepts]
      exact ⟨rfl, rfl, rfl⟩
    · rw [issue_of_closed live refuses]
      exact ⟨rfl, rfl, rfl⟩

theorem lends_invalidate : connection.Lends connection.invalidate.2 := by
  unfold invalidate
  split <;> exact ⟨rfl, rfl, rfl⟩

theorem lends_probe : connection.Lends connection.probe.2 := by
  simp only [probe]
  split <;> exact ⟨rfl, rfl, rfl⟩

theorem lends_store (key : String) (stamp : Stamp) (value : StoredValue) :
    (connection.cloneAll value.owned).Lends (connection.store key stamp value).2 := by
  simp only [store]
  split <;> exact ⟨rfl, rfl, rfl⟩

theorem lends_replied (reply : ReplyPacket) :
    connection.Lends (connection.perform (.replied reply)).2 := by
  simp only [perform, replied, take]
  cases connection.request? reply.id <;> exact ⟨rfl, rfl, rfl⟩

theorem lends_abandon (id : UInt32) (failure : Failure) :
    connection.Lends (connection.perform (.abandon id failure)).2 := by
  simp only [perform, take]
  cases connection.request? id <;> exact ⟨rfl, rfl, rfl⟩

theorem lends_suspended : connection.Lends (connection.perform .suspended).2 := by
  simp only [perform, noteSuspended]
  split
  · exact ⟨rfl, rfl, rfl⟩
  · split <;> exact ⟨rfl, rfl, rfl⟩

theorem light_issue (command : Command) (data : Bytes) :
    ∀ work ∈ (connection.issue command data).2.1, work.light := by
  rcases connection.dead.eq_false_or_eq_true with dead | live
  · simp [issue_of_dead dead]
  · have evicted : ∀ work ∈ connection.evicted command, work.light := by
      intro work mem
      obtain ⟨values, rfl⟩ := mem_evicted mem
      rfl
    rcases connection.outboundOpen.eq_false_or_eq_true with accepts | refuses
    · rw [issue_of_open live accepts]
      exact List.forall_mem_append.mpr ⟨evicted, by simp [Work.light]⟩
    · rw [issue_of_closed live refuses]
      exact evicted

theorem light_invalidate : ∀ work ∈ connection.invalidate.1, work.light := by
  intro work mem
  obtain ⟨values, rfl⟩ := mem_invalidate mem
  rfl

theorem light_issueEntries (command : Command) (data : Bytes) :
    ∀ entry ∈ connection.issueEntries command data, entry.light := by
  unfold issueEntries
  split <;> simp [Entry.light]

/-! ## Pieces of work that move counts on -/

variable {connection}

theorem perform_release (lease : LeaseId) :
    connection.perform (.release lease) =
      (((connection.leases.drop lease).1.map fun gone =>
          .reclaim gone.object gone.retained).toList,
        { connection with leases := (connection.leases.drop lease).2 }) := by
  simp only [perform]
  split <;> (next dropped => rw [dropped]; rfl)

theorem perform_reclaim (up : connection.Up) (object : ObjectId) (retained : UInt32) :
    connection.perform (.reclaim object retained) =
      ([.queueDisposal object retained],
        { connection with leases := connection.leases.prune object }) := by
  simp [perform, reclaim, up.live, up.unclosed]

theorem perform_flush_of_any (any : connection.disposals.counts ≠ []) :
    connection.perform .flush = ([.sendBatch connection.disposals.counts],
      { connection with disposals := connection.disposals.clear }) := by
  simp [perform, any]

theorem perform_flush_of_none (none : connection.disposals.counts = []) :
    connection.perform .flush = ([], connection) := by
  simp [perform, none]

theorem perform_sendBatch (up : connection.Up) (counts : List (ObjectId × UInt32)) :
    connection.perform (.sendBatch counts) =
      ([.dispose (disposePayload connection.idSizes.object counts)], connection) := by
  simp [perform, up.live, up.unclosed]

/-- No piece of work calls a shutdown off. -/
theorem unclosed_perform {work : Work}
    (unclosed : (connection.perform work).2.shuttingDown = false) :
    connection.shuttingDown = false := by
  cases work with
  | replied reply => exact (connection.lends_replied reply).shuttingDown.symm.trans unclosed
  | abandon id failure =>
    exact (connection.lends_abandon id failure).shuttingDown.symm.trans unclosed
  | suspended => exact connection.lends_suspended.shuttingDown.symm.trans unclosed
  | release lease =>
    rw [perform_release] at unclosed
    exact unclosed
  | reclaim object retained =>
    simp only [perform, reclaim] at unclosed
    split at unclosed <;> exact unclosed
  | flush =>
    simp only [perform] at unclosed
    split at unclosed <;> exact unclosed
  | sendBatch counts =>
    simp only [perform] at unclosed
    split at unclosed <;> exact unclosed
  | dispose payload =>
    exact (connection.lends_issue .disposeObjects payload).shuttingDown.symm.trans unclosed
  | close =>
    simp only [perform] at unclosed
    split at unclosed
    · exact unclosed
    · cases unclosed
  | disconnect =>
    simp only [perform, disconnect] at unclosed
    split at unclosed
    · exact unclosed
    · dsimp only at unclosed
      rwa [(lends_invalidate _).shuttingDown] at unclosed
  | _ => exact unclosed

end Connection

theorem Entry.light_of_plain {entry : Entry} (plain : entry.plain) : entry.light := by
  cases entry <;> first | rfl | simp [Entry.plain] at plain

theorem Work.light_of_arrives {work : Work} (arrives : work.arrives) : work.light := by
  cases work <;> first | rfl | simp [Work.arrives] at arrives

variable {engine : Engine} {used left : List Work} {entries : List Entry} {after : Connection}

/-- What a piece of work does to the leases and the disposals, if it does not bring the end. -/
theorem leaseStep_perform (work : Work)
    (accepts : engine.connection.dead = false → engine.connection.outboundOpen = true)
    (before : engine.connection.Up) (up : (engine.connection.perform work).2.Up) :
    LeaseStep engine.connection [work] (engine.connection.workEntries work)
      (engine.connection.perform work).1 (engine.connection.perform work).2 := by
  -- Most pieces leave the leases and the disposals alone.
  have aside {left : List Work} {after : Connection} (lends : engine.connection.Lends after)
      (spent : work.light) (quiet : ∀ entry ∈ engine.connection.workEntries work, entry.light)
      (light : ∀ work ∈ left, work.light) :
      LeaseStep engine.connection [work] (engine.connection.workEntries work) left after :=
    .aside [] lends.leases lends.disposals (by simpa using spent) quiet light
  cases work with
  | replied reply =>
    refine aside (engine.connection.lends_replied reply) rfl
      (by simp [Connection.workEntries, Entry.light]) ?_
    rw [(engine.connection.perform_replied reply).1]
    cases engine.connection.request? reply.id <;> simp [Work.light]
  | abandon id failure =>
    refine aside (engine.connection.lends_abandon id failure) rfl
      (by simp [Connection.workEntries, Entry.light]) ?_
    rw [(engine.connection.perform_abandon id failure).1]
    cases engine.connection.request? id <;> simp [Work.light]
  | suspended =>
    exact aside engine.connection.lends_suspended rfl
      (by simp [Connection.workEntries, Entry.light]) (by simp [Connection.perform])
  | discard values =>
    refine aside ⟨rfl, rfl, rfl⟩ rfl (by simp [Connection.workEntries, Entry.light]) ?_
    intro left mem
    obtain ⟨lease, -, rfl⟩ := List.mem_map.mp mem
    rfl
  | release lease =>
    rw [Connection.perform_release]
    exact .release lease rfl rfl
  | reclaim object retained =>
    rw [Connection.perform_reclaim before]
    exact .reclaim object retained rfl rfl
  | queueDisposal object retained =>
    refine .queue object retained rfl rfl ?_
    simp only [Connection.perform]
    split <;> simp [Work.light]
  | flush =>
    by_cases none : engine.connection.disposals.counts = []
    · rw [Connection.perform_flush_of_none none]
      exact aside ⟨rfl, rfl, rfl⟩ rfl (by simp [Connection.workEntries, Entry.light]) (by simp)
    · rw [Connection.perform_flush_of_any none]
      exact .take none rfl rfl
  | sendBatch counts =>
    rw [Connection.perform_sendBatch before]
    exact .send counts rfl rfl
  | dispose payload =>
    have lends := engine.connection.lends_issue .disposeObjects payload
    rw [Connection.workEntries, Connection.issueEntries_of_open before.live (accepts before.live)]
    exact .dispose payload lends.leases lends.disposals (Connection.light_issue _ _ payload)
  | close =>
    have closing := up.unclosed
    simp [Connection.perform, before.live] at closing
  | disconnect =>
    have dead := World.dead_perform_disconnect engine.connection
    rw [up.live] at dead
    cases dead
  | clearDisposals => exact .clear
  | _ =>
    exact aside ⟨rfl, rfl, rfl⟩ rfl (by simp [Connection.workEntries, Entry.light])
      (by simp [Connection.perform])

namespace Deed

theorem unclosed (deed : Deed engine used entries left after)
    (unclosed : after.shuttingDown = false) : engine.connection.shuttingDown = false := by
  cases deed with
  | perform work => exact Connection.unclosed_perform unclosed
  | issue command data notices =>
    have lends := Connection.lends_issue { engine.connection with notices } command data
    exact lends.shuttingDown.symm.trans unclosed
  | probe => exact engine.connection.lends_probe.shuttingDown.symm.trans unclosed
  | store n key stamp value =>
    exact (engine.connection.lends_store key stamp value).shuttingDown.symm.trans unclosed
  | invalidate => exact engine.connection.lends_invalidate.shuttingDown.symm.trans unclosed
  | _ => exact unclosed

/-- A connection that is not going down was not going down before. -/
theorem up (deed : Deed engine used entries left after)
    (accepts : engine.connection.dead = false → engine.connection.outboundOpen = true)
    (up : after.Up) : engine.connection.Up := by
  refine ⟨Bool.eq_false_iff.mpr fun dead => ?_, deed.unclosed up.unclosed⟩
  have dead' := (deed.turn accepts).dead_iff.mpr (.inl dead)
  rw [up.live] at dead'
  cases dead'

/-- What every deed does to the leases and the disposals, if it does not bring the end. -/
theorem leaseStep (deed : Deed engine used entries left after)
    (accepts : engine.connection.dead = false → engine.connection.outboundOpen = true)
    (up : after.Up) : LeaseStep engine.connection used entries left after := by
  cases deed with
  | perform work =>
    exact leaseStep_perform work accepts (Deed.up (.perform work) accepts up) up
  | issue command data notices =>
    have lends := Connection.lends_issue { engine.connection with notices } command data
    exact .aside [] lends.leases lends.disposals (by simp)
      (Connection.light_issueEntries _ command data) (Connection.light_issue _ command data)
  | adopt notices idSizes handles feed plain arrive =>
    exact .aside [] rfl rfl (by simp) (fun entry mem => Entry.light_of_plain (plain entry mem))
      fun work mem => Work.light_of_arrives (arrive work mem)
  | fail failure notices writing =>
    exact .aside [] rfl rfl (by simp) (by simp [Entry.light]) (by simp [Work.light])
  | @take message rest notices receiving first =>
    refine .aside [] rfl rfl (by simp) ?_ (by simp)
    cases message <;> simp [Message.entries, Entry.light]
  | drain draining idle =>
    refine .aside [] rfl rfl (by simp) (by simp) ?_
    rcases engine.connection.outbound.head? with _ | _ | _ <;>
      simp [Message.givenUp, Work.light]
  | cloneAll ids plain =>
    exact .aside ids rfl rfl (by simp) (fun entry mem => Entry.light_of_plain (plain entry mem))
      (by simp)
  | acquire object => exact .acquire object rfl rfl
  | probe =>
    have lends := engine.connection.lends_probe
    exact .aside [] lends.leases lends.disposals (by simp) (by simp [Entry.light]) (by simp)
  | store n key stamp value =>
    have lends := engine.connection.lends_store key stamp value
    exact .aside value.owned lends.leases lends.disposals (by simp) (by simp [Entry.light])
      (by simp [Connection.store, Work.light])
  | invalidate =>
    have lends := engine.connection.lends_invalidate
    exact .aside [] lends.leases lends.disposals (by simp) (by simp [Entry.light])
      engine.connection.light_invalidate

end Deed

end DebugLink
