import DebugLink.Proofs.Conservation
import DebugLink.Proofs.Teardown

/-!
# Flushing: the batch is sent whole, and never grows too large

The ids that are to be given back are collected in a batch. Whoever makes the batch full flushes it,
and so does the dispatcher when it has dealt with a reply, whatever that answered. A flush takes
everything out of the batch at once; what it took is carried by one piece of work, then by the
payload of one command, until that command is issued. `BatchStep` says how a deed changes the batch,
and `Deed.batchStep` that every deed does one of these things, whether or not the connection lives.

What is in the batch can be read off the journal (`batched`), and so can the batches that were taken
out of it (`takenOut`). The batch is full only while somebody has still to flush it (`Unfilled`).
Each batch that was taken out is under way or was issued, as one payload (`Delivered`). Once the
dispatcher has flushed because of a reply, all that it still has to do is to send what it took out,
and that puts nothing in (`answering_play`). And while nothing is queued an empty batch stays empty,
so that the dispatcher has nothing to issue (`Unprompted`).

Main statement: `batch_flushed`.
-/

namespace DebugLink

/-! ## What changes the batch -/

/-- Whether a piece of work changes the batch, or carries what was taken out of it. -/
def Work.batching : Work → Bool
  | .queueDisposal .. | .flush | .sendBatch _ | .dispose _ | .clearDisposals => true
  | .replied _ | .abandon .. | .resolve .. | .fail .. | .suspended | .publish _ | .discard _
  | .release _ | .reclaim .. | .countSent | .close | .disconnect | .closeFeed | .markClosed
  | .queueClose => false

/-- The batch that a piece of work carries. -/
@[simp]
def Work.batch? : Work → Option (List (ObjectId × UInt32))
  | .sendBatch counts => some counts
  | _ => none

/-- The payload that a piece of work carries. -/
@[simp]
def Work.payload? : Work → Option Bytes
  | .dispose payload => some payload
  | _ => none

/-- Whether a piece of work carries nothing that was taken out of the batch. -/
def Work.bare (work : Work) : Bool :=
  work.batch?.isNone && work.payload?.isNone

/-- Whether a piece of work brings on its way what was taken out of the batch. -/
def Work.posting : Work → Bool
  | .sendBatch _ | .dispose _ | .countSent => true
  | _ => false

/-- Whether an entry tells of a piece of work that changes the batch or carries what was in it. -/
def Entry.batching : Entry → Bool
  | .performed work => work.batching
  | _ => false

/-- Whether an entry says that an id was put into the batch. -/
def Entry.queues : Entry → Bool
  | .performed (.queueDisposal ..) => true
  | _ => false

/-- What an entry makes of the batch. -/
def Entry.refill (batch : List (ObjectId × UInt32)) : Entry → List (ObjectId × UInt32)
  | .performed (.queueDisposal object retained) => Disposals.addCount object retained batch
  | .performed .flush | .performed .clearDisposals => []
  | _ => batch

/-- What an entry says was taken out of the batch, if there was anything in it. -/
def Entry.taken? (batch : List (ObjectId × UInt32)) : Entry → Option (List (ObjectId × UInt32))
  | .performed .flush => if batch.isEmpty then none else some batch
  | _ => none

/-- What is in the batch by a journal. -/
def batched (journal : List Entry) : List (ObjectId × UInt32) :=
  journal.foldl Entry.refill []

/-- What was taken out of the batch, time after time, if it was as given at first. -/
def takenOut (batch : List (ObjectId × UInt32)) : List Entry → List (List (ObjectId × UInt32))
  | [] => []
  | entry :: entries => (entry.taken? batch).toList ++ takenOut (entry.refill batch) entries

section

variable {batch : List (ObjectId × UInt32)} {entries more : List Entry}

theorem takenOut_append :
    takenOut batch (entries ++ more) =
      takenOut batch entries ++ takenOut (entries.foldl Entry.refill batch) more := by
  induction entries generalizing batch with
  | nil => rfl
  | cons entry entries ih => simp [takenOut, ih]

theorem Entry.quiet {entry : Entry} (quiet : entry.batching = false) :
    entry.refill batch = batch ∧ entry.taken? batch = none ∧ entry.payload? = none := by
  cases entry with
  | performed work => cases work <;> first | exact ⟨rfl, rfl, rfl⟩ | cases quiet
  | _ => exact ⟨rfl, rfl, rfl⟩

variable (quiet : ∀ entry ∈ entries, entry.batching = false)

include quiet

theorem refill_of_quiet : entries.foldl Entry.refill batch = batch := by
  induction entries with
  | nil => rfl
  | cons entry entries ih =>
    rw [List.forall_mem_cons] at quiet
    rw [List.foldl_cons, (Entry.quiet quiet.1).1, ih quiet.2]

theorem takenOut_of_quiet : takenOut batch entries = [] := by
  induction entries with
  | nil => rfl
  | cons entry entries ih =>
    rw [List.forall_mem_cons] at quiet
    obtain ⟨same, none, -⟩ := @Entry.quiet batch entry quiet.1
    rw [takenOut, none, same, ih quiet.2]
    rfl

theorem payloads_of_quiet : entries.filterMap Entry.payload? = [] :=
  List.filterMap_eq_nil_iff.mpr fun entry mem => (@Entry.quiet [] entry (quiet entry mem)).2.2

omit quiet in
/-- As long as nothing is put into an empty batch it stays empty. -/
theorem refill_nil (none : ∀ entry ∈ entries, entry.queues = false) :
    entries.foldl Entry.refill [] = [] := by
  induction entries with
  | nil => rfl
  | cons entry entries ih =>
    rw [List.forall_mem_cons] at none
    have empty : entry.refill [] = [] := by
      cases entry with
      | performed work => cases work <;> first | rfl | cases none.1
      | _ => rfl
    rw [List.foldl_cons, empty, ih none.2]

end

/-- Only what was put into the batch after a flush is in it. -/
theorem batched_of_flushed {earlier later : List Entry}
    (none : ∀ entry ∈ later, entry.queues = false) :
    batched (earlier ++ .performed .flush :: later) = [] := by
  rw [batched, List.foldl_append, List.foldl_cons]
  exact refill_nil none

/-! ## What a deed does to the batch -/

section

variable {works : List Work}

theorem Work.bare_iff {work : Work} : work.bare ↔ work.batch? = none ∧ work.payload? = none := by
  rw [Work.bare, Bool.and_eq_true, Option.isNone_iff_eq_none, Option.isNone_iff_eq_none]

theorem Work.bare_of_quiet {work : Work} (quiet : work.batching = false) : work.bare := by
  cases work <;> first | rfl | cases quiet

theorem batches_of_bare (bare : ∀ work ∈ works, work.bare) : works.filterMap Work.batch? = [] :=
  List.filterMap_eq_nil_iff.mpr fun work mem => (Work.bare_iff.mp (bare work mem)).1

theorem payloads_of_bare (bare : ∀ work ∈ works, work.bare) :
    works.filterMap Work.payload? = [] :=
  List.filterMap_eq_nil_iff.mpr fun work mem => (Work.bare_iff.mp (bare work mem)).2

end

/-- What is done to the batch of a connection: pieces used up, what is recorded, pieces left behind,
and the connection afterwards. -/
inductive BatchStep (before : Connection) :
    (used : List Work) → (entries : List Entry) → (left : List Work) → Connection → Prop
  | aside {used left : List Work} {entries : List Entry} {after : Connection}
    (disposals : after.disposals = before.disposals)
    (spent : ∀ work ∈ used, work.batching = false)
    (quiet : ∀ entry ∈ entries, entry.batching = false) (bare : ∀ work ∈ left, work.bare) :
    BatchStep before used entries left after
  /-- Whoever makes the batch full has to flush it. -/
  | queue {after : Connection} (object : ObjectId) (retained : UInt32)
    (disposals : after.disposals = before.disposals.push object retained) :
    BatchStep before [.queueDisposal object retained] [.performed (.queueDisposal object retained)]
      (if after.disposals.isFull then [.flush] else []) after
  | spare {after : Connection} (none : before.disposals.counts = [])
    (disposals : after.disposals = before.disposals) :
    BatchStep before [.flush] [.performed .flush] [] after
  | take {after : Connection} (any : before.disposals.counts ≠ [])
    (disposals : after.disposals = before.disposals.clear) :
    BatchStep before [.flush] [.performed .flush] [.sendBatch before.disposals.counts] after
  | send {after : Connection} (counts : List (ObjectId × UInt32))
    (disposals : after.disposals = before.disposals) :
    BatchStep before [.sendBatch counts] [.performed (.sendBatch counts)]
      (if before.shuttingDown ∨ before.dead then []
        else [.dispose (disposePayload before.idSizes.object counts)]) after
  | dispose {left : List Work} {after : Connection} (payload : Bytes)
    (disposals : after.disposals = before.disposals) (bare : ∀ work ∈ left, work.bare) :
    BatchStep before [.dispose payload]
      (.performed (.dispose payload) :: before.issueEntries .disposeObjects payload) left after
  | clear {after : Connection} (disposals : after.disposals = before.disposals.clear) :
    BatchStep before [.clearDisposals] [.performed .clearDisposals] [] after

theorem Work.bare_of_light {work : Work} (light : work.light) : work.bare := by
  cases work <;> first | rfl | cases light

theorem Work.bare_of_arrives {work : Work} (arrives : work.arrives) : work.bare :=
  bare_of_light (light_of_arrives arrives)

theorem Entry.quiet_of_plain {entry : Entry} (plain : entry.plain) : entry.batching = false := by
  cases entry <;> first | rfl | cases plain

namespace Connection

variable {connection : Connection}

theorem quiet_issueEntries (command : Command) (data : Bytes) :
    ∀ entry ∈ connection.issueEntries command data, entry.batching = false := by
  unfold issueEntries
  split <;> simp [Entry.batching]

theorem bare_issue (command : Command) (data : Bytes) :
    ∀ work ∈ (connection.issue command data).2.1, work.bare :=
  fun work mem => Work.bare_of_light (connection.light_issue command data work mem)

/-- A batch that was taken out is not sent once the connection goes down. -/
theorem perform_send (counts : List (ObjectId × UInt32)) :
    connection.perform (.sendBatch counts) =
      (if connection.shuttingDown ∨ connection.dead then []
        else [.dispose (disposePayload connection.idSizes.object counts)], connection) := by
  simp only [perform]
  split <;> rfl

theorem disposals_disconnect : connection.disconnect.2.disposals = connection.disposals := by
  unfold disconnect
  split
  · rfl
  · exact (lends_invalidate _).disposals

theorem bare_disconnect : ∀ work ∈ connection.disconnect.1, work.bare := by
  unfold disconnect
  split
  · simp
  · intro work mem
    simp only [List.mem_append, List.mem_map, List.mem_cons, List.not_mem_nil, or_false] at mem
    obtain (mem | ⟨request, -, rfl⟩) | rfl | rfl | rfl | rfl := mem
    · exact Work.bare_of_light (light_invalidate _ work mem)
    all_goals rfl

end Connection

variable {engine : Engine}

/-- What a piece of work does to the batch. -/
theorem batchStep_perform (work : Work) :
    BatchStep engine.connection [work] (engine.connection.workEntries work)
      (engine.connection.perform work).1 (engine.connection.perform work).2 := by
  -- Most pieces leave the batch alone.
  have aside (other : work.batching = false)
      (disposals : (engine.connection.perform work).2.disposals = engine.connection.disposals)
      (bare : ∀ left ∈ (engine.connection.perform work).1, left.bare) :
      BatchStep engine.connection [work] (engine.connection.workEntries work)
        (engine.connection.perform work).1 (engine.connection.perform work).2 := by
    refine .aside disposals (List.forall_mem_singleton.mpr other) ?_ bare
    refine List.forall_mem_cons.mpr ⟨other, ?_⟩
    cases work with
    | dispose payload => cases other
    | disconnect =>
      cases engine.connection.dead <;> simp [Entry.batching]
    | _ => simp
  cases work with
  | replied reply =>
    refine aside rfl (engine.connection.lends_replied reply).disposals ?_
    rw [(engine.connection.perform_replied reply).1]
    cases engine.connection.request? reply.id <;> simp [Work.bare]
  | abandon id failure =>
    refine aside rfl (engine.connection.lends_abandon id failure).disposals ?_
    rw [(engine.connection.perform_abandon id failure).1]
    cases engine.connection.request? id <;> simp [Work.bare]
  | suspended => exact aside rfl engine.connection.lends_suspended.disposals (by
      simp [Connection.perform])
  | discard values =>
    refine aside rfl rfl ?_
    intro left mem
    obtain ⟨lease, -, rfl⟩ := List.mem_map.mp mem
    rfl
  | release lease =>
    rw [Connection.perform_release] at aside ⊢
    refine aside rfl rfl ?_
    intro left mem
    obtain ⟨gone, -, rfl⟩ := Option.map_eq_some_iff.mp (Option.mem_toList.mp mem)
    rfl
  | reclaim object retained =>
    refine aside rfl ?_ ?_
    · simp only [Connection.perform, Connection.reclaim]
      split <;> rfl
    · simp only [Connection.perform, Connection.reclaim]
      split
      · simp
      · exact List.forall_mem_singleton.mpr rfl
  | queueDisposal object retained =>
    exact @BatchStep.queue engine.connection
      (engine.connection.perform (.queueDisposal object retained)).2 object retained rfl
  | flush =>
    by_cases none : engine.connection.disposals.counts = []
    · rw [Connection.perform_flush_of_none none]
      exact .spare none rfl
    · rw [Connection.perform_flush_of_any none]
      exact .take none rfl
  | sendBatch counts =>
    rw [Connection.perform_send counts]
    exact .send counts rfl
  | dispose payload =>
    exact .dispose payload (engine.connection.lends_issue .disposeObjects payload).disposals
      (Connection.bare_issue _ payload)
  | close =>
    refine aside rfl ?_ ?_
    · simp only [Connection.perform]
      split <;> rfl
    · simp only [Connection.perform]
      split
      · simp
      · exact List.forall_mem_singleton.mpr rfl
  | disconnect => exact aside rfl Connection.disposals_disconnect Connection.bare_disconnect
  | clearDisposals => exact .clear rfl
  | _ => exact aside rfl rfl (by simp [Connection.perform])

variable {used left : List Work} {entries : List Entry} {after : Connection}

/-- What every deed does to the batch. -/
theorem Deed.batchStep (deed : Deed engine used entries left after) :
    BatchStep engine.connection used entries left after := by
  cases deed with
  | perform work => exact batchStep_perform work
  | issue command data notices =>
    have lends := Connection.lends_issue { engine.connection with notices } command data
    exact .aside lends.disposals (by simp) (Connection.quiet_issueEntries command data)
      (Connection.bare_issue command data)
  | adopt notices idSizes handles feed plain arrive =>
    exact .aside rfl (by simp) (fun entry mem => Entry.quiet_of_plain (plain entry mem))
      fun work mem => Work.bare_of_arrives (arrive work mem)
  | fail failure notices writing =>
    exact .aside rfl (by simp) (by simp [Entry.batching]) (by simp [Work.bare])
  | @take message rest notices receiving first =>
    refine .aside rfl (by simp) ?_ (by simp)
    cases message <;> simp [Message.entries, Entry.batching]
  | drain draining idle =>
    refine .aside rfl (by simp) (by simp) ?_
    rcases engine.connection.outbound.head? with _ | _ | _ <;> simp [Message.givenUp, Work.bare]
  | cloneAll ids plain =>
    exact .aside rfl (by simp) (fun entry mem => Entry.quiet_of_plain (plain entry mem)) (by simp)
  | acquire object => exact .aside rfl (by simp) (by simp [Entry.batching]) (by simp)
  | probe =>
    exact .aside engine.connection.lends_probe.disposals (by simp) (by simp [Entry.batching])
      (by simp)
  | store n key stamp value =>
    exact .aside (engine.connection.lends_store key stamp value).disposals (by simp)
      (by simp [Entry.batching]) (by simp [Connection.store, Work.bare])
  | invalidate =>
    refine .aside engine.connection.lends_invalidate.disposals (by simp) (by simp [Entry.batching])
      fun work mem => ?_
    exact Work.bare_of_light (engine.connection.light_invalidate work mem)

namespace BatchStep

variable {before : Connection} (step : BatchStep before used entries left after)

include step

/-- The batch is what the journal says. -/
theorem refill :
    entries.foldl Entry.refill before.disposals.counts = after.disposals.counts := by
  cases step with
  | aside disposals spent quiet bare => rw [refill_of_quiet quiet, disposals]
  | queue object retained disposals => rw [disposals]; rfl
  | spare none disposals => rw [disposals, none]; rfl
  | take any disposals => rw [disposals]; rfl
  | send counts disposals => rw [disposals]; rfl
  | dispose payload disposals bare =>
    rw [disposals, List.foldl_cons]
    exact refill_of_quiet (Connection.quiet_issueEntries _ payload)
  | clear disposals => rw [disposals]; rfl

/-- No deed changes when the batch is full. -/
theorem threshold : after.disposals.threshold = before.disposals.threshold := by
  cases step with
  | aside disposals => rw [disposals]
  | queue object retained disposals => rw [disposals]; rfl
  | spare none disposals => rw [disposals]
  | take any disposals => rw [disposals]; rfl
  | send counts disposals => rw [disposals]
  | dispose payload disposals => rw [disposals]
  | clear disposals => rw [disposals]; rfl

/-- There is one count for each object. -/
theorem increasing (increasing : before.disposals.counts.Pairwise (·.1 < ·.1)) :
    after.disposals.counts.Pairwise (·.1 < ·.1) := by
  cases step with
  | aside disposals => rwa [disposals]
  | queue object retained disposals =>
    rw [disposals]
    exact Disposals.addCount_increasing increasing
  | spare none disposals => rwa [disposals]
  | take any disposals => rw [disposals]; exact .nil
  | send counts disposals => rwa [disposals]
  | dispose payload disposals => rwa [disposals]
  | clear disposals => rw [disposals]; exact .nil

/-- A deed that does not leave a flush behind leaves a batch that is not full, unless the batch was
so before and the deed was no flush. -/
theorem unfilled (positive : 0 < before.disposals.threshold) :
    after.disposals.counts.length < after.disposals.threshold ∨ .flush ∈ left ∨
      after.disposals = before.disposals ∧ .flush ∉ used := by
  have empty (disposals : after.disposals = before.disposals.clear) :
      after.disposals.counts.length < after.disposals.threshold := by
    rw [disposals]
    exact positive
  cases step with
  | aside disposals spent =>
    exact .inr (.inr ⟨disposals, fun mem => Bool.noConfusion (spent _ mem)⟩)
  | queue object retained disposals =>
    by_cases full : after.disposals.isFull
    · exact .inr (.inl (by simp [full]))
    · exact .inl (by simpa [Disposals.isFull] using full)
  | spare none disposals =>
    refine .inl ?_
    rw [disposals, none]
    exact positive
  | take any disposals => exact .inl (empty disposals)
  | send counts disposals => exact .inr (.inr ⟨disposals, by simp⟩)
  | dispose payload disposals => exact .inr (.inr ⟨disposals, by simp⟩)
  | clear disposals => exact .inl (empty disposals)

/-- If there is nothing in the batch, and nothing was taken out, there is nothing to issue. -/
theorem bare (none : before.disposals.counts = []) (spent : ∀ work ∈ used, work.bare) :
    ∀ work ∈ left, work.bare := by
  cases step with
  | aside disposals spent quiet bare => exact bare
  | queue object retained disposals => split <;> simp [Work.bare]
  | take any => exact absurd none any
  | send counts => exact absurd (spent _ (List.mem_singleton_self _)) (by simp [Work.bare])
  | dispose payload disposals bare => exact bare
  | _ => simp

variable (up : before.Up)

include up

/-- While the connection is up, what is taken out of the batch becomes one payload. -/
theorem delivers : ∃ made : List (List (ObjectId × UInt32) × Bytes),
    (∀ pair ∈ made, pair.2 = disposePayload before.idSizes.object pair.1) ∧
    takenOut before.disposals.counts entries ++ used.filterMap Work.batch? =
      made.map (·.1) ++ left.filterMap Work.batch? ∧
    made.map (·.2) ++ used.filterMap Work.payload? =
      entries.filterMap Entry.payload? ++ left.filterMap Work.payload? := by
  cases step with
  | aside disposals spent quiet bare =>
    have spent : ∀ work ∈ used, work.bare := fun work mem => Work.bare_of_quiet (spent work mem)
    refine ⟨[], by simp, ?_, ?_⟩
    · rw [takenOut_of_quiet quiet, batches_of_bare spent, batches_of_bare bare]
      rfl
    · rw [payloads_of_quiet quiet, payloads_of_bare spent, payloads_of_bare bare]
      rfl
  | queue object retained disposals =>
    refine ⟨[], by simp, ?_, ?_⟩ <;> split <;> rfl
  | spare none disposals =>
    refine ⟨[], by simp, ?_, rfl⟩
    rw [none]
    rfl
  | take any disposals =>
    refine ⟨[], by simp, ?_, rfl⟩
    simp [takenOut, Entry.taken?, any]
  | send counts disposals =>
    rw [if_neg (by simp [up.live, up.unclosed])]
    exact ⟨[(counts, disposePayload before.idSizes.object counts)], by simp, rfl, rfl⟩
  | dispose payload disposals bare =>
    have quiet := before.quiet_issueEntries .disposeObjects payload
    refine ⟨[], by simp, ?_, ?_⟩
    · rw [batches_of_bare bare, takenOut, takenOut_of_quiet (by exact quiet)]
      rfl
    · rw [payloads_of_bare bare, filterMap_cons_toList Entry.payload?, payloads_of_quiet quiet]
      rfl
  | clear disposals => exact ⟨[], by simp, rfl, rfl⟩

/-- Each payload is issued at once. -/
theorem prompt (accepts : before.outboundOpen = true) : Prompt entries := by
  cases step with
  | aside disposals spent quiet bare => exact prompt_of_payloads (payloads_of_quiet quiet)
  | dispose payload disposals bare =>
    rw [Connection.issueEntries_of_open up.live accepts]
    exact prompt_issued payload
  | _ => exact prompt_of_payloads rfl

end BatchStep

namespace Connection

variable {connection : Connection}

/-- A reply that is read is all that a frame leaves to do. -/
theorem accept_replied {frame : Bytes} {reply : ReplyPacket}
    (mem : .replied reply ∈ (connection.accept frame).1) :
    (connection.accept frame).1 = [.replied reply] := by
  revert mem
  unfold accept
  cases Packet.decode frame with
  | error fault => simp
  | ok packet =>
    cases packet with
    | reply other =>
      intro mem
      rw [List.mem_singleton.mp mem]
    | command packet =>
      dsimp only
      split
      · split
        · simp
        · split <;> simp
      · simp

theorem posting_flush : ∀ work ∈ (connection.perform .flush).1, work.posting := by
  by_cases none : connection.disposals.counts = []
  · simp [perform_flush_of_none none]
  · simp [perform_flush_of_any none, Work.posting]

theorem evicted_disposeObjects : connection.evicted .disposeObjects = [] := rfl

/-- Whoever brings a batch on its way puts nothing into the next. -/
theorem posting_perform {work : Work} (posting : work.posting) :
    (∀ left ∈ (connection.perform work).1, left.posting) ∧
      ∀ entry ∈ connection.workEntries work, entry.queues = false := by
  cases work with
  | sendBatch counts =>
    rw [perform_send]
    refine ⟨?_, by simp [workEntries, Entry.queues]⟩
    split <;> simp [Work.posting]
  | dispose payload =>
    refine ⟨?_, ?_⟩
    · show ∀ left ∈ (connection.issue .disposeObjects payload).2.1, left.posting
      rcases connection.dead.eq_false_or_eq_true with dead | live
      · simp [issue_of_dead dead]
      · rcases connection.outboundOpen.eq_false_or_eq_true with accepts | refuses
        · simp [issue_of_open live accepts, evicted_disposeObjects, Work.posting]
        · simp [issue_of_closed live refuses, evicted_disposeObjects]
    · refine List.forall_mem_cons.mpr ⟨rfl, fun entry mem => ?_⟩
      have quiet := quiet_issueEntries .disposeObjects payload entry mem
      cases entry with
      | performed work => cases work <;> first | rfl | cases quiet
      | _ => rfl
  | countSent => exact ⟨by simp [perform], by simp [workEntries, Entry.queues]⟩
  | _ => cases posting

end Connection

/-! ## Whole runs -/

/-- What is left takes the place of what was used up, and what has come of that is added. -/
theorem perm_moved {α : Type} {old old' new new' earlier used left later : List α}
    (perm : old.Perm (old' ++ (earlier ++ used ++ later))) (moved : new ++ used = new' ++ left) :
    (old ++ new).Perm (old' ++ new' ++ (earlier ++ left ++ later)) := by
  classical
  rw [List.perm_iff_count] at perm ⊢
  intro a
  have perm := perm a
  have moved := congrArg (List.count a) moved
  simp only [List.count_append] at perm moved ⊢
  omega

namespace World

variable {world : World}

theorem batched_play (config : Config) (moves : List Move) :
    (play config moves).connection.disposals.counts = batched (play config moves).journal := by
  refine play_induction (P := fun _ world => world.connection.disposals.counts =
    batched world.journal) rfl (fun moves move same => ?_) moves
  obtain ⟨used, entries, left, deed, journal, -⟩ := does_step (tidy_play config moves) move
  rw [journal, batched, List.foldl_append, ← batched, ← same]
  exact deed.batchStep.refill.symm

/-- The batch has one count for each object, and is full only if somebody has still to flush it. -/
structure Unfilled (config : Config) (world : World) : Prop where
  threshold : world.connection.disposals.threshold = config.disposeThreshold
  increasing : world.connection.disposals.counts.Pairwise (·.1 < ·.1)
  few : .flush ∉ world.works → world.connection.disposals.counts.length < config.disposeThreshold

theorem unfilled_play (config : Config) (positive : 0 < config.disposeThreshold)
    (moves : List Move) : Unfilled config (play config moves) := by
  refine play_induction (P := fun _ world => Unfilled config world) ?_ ?_ moves
  · exact ⟨rfl, .nil, fun _ => positive⟩
  · intro moves move unfilled
    obtain ⟨used, entries, left, deed, -, replaced⟩ := does_step (tidy_play config moves) move
    obtain ⟨earlier, later, before, after⟩ := replaced.works
    have step := deed.batchStep
    have threshold := step.threshold.trans unfilled.threshold
    refine ⟨threshold, step.increasing unfilled.increasing, fun none => ?_⟩
    rw [after] at none
    simp only [List.mem_append, not_or] at none
    -- If the batch is as it was, nobody had to flush it before either.
    obtain few | flush | ⟨same, other⟩ := step.unfilled (unfilled.threshold ▸ positive)
    · exact threshold ▸ few
    · exact absurd flush none.1.2
    · rw [same]
      refine unfilled.few ?_
      rw [before]
      simp only [List.mem_append, not_or]
      exact ⟨⟨none.1.1, other⟩, none.2⟩

/-- Each batch that was taken out is under way or was made a payload, once, and each payload is
under way or was disposed of. -/
structure Delivered (config : Config) (moves : List Move) (world : World)
    (made : List (List (ObjectId × UInt32) × Bytes)) : Prop where
  sizes : ∀ pair ∈ made, ∃ earlier, earlier <+: moves ∧
    pair.2 = disposePayload (play config earlier).connection.idSizes.object pair.1
  batches : (takenOut [] world.journal).Perm (made.map (·.1) ++ world.works.filterMap Work.batch?)
  payloads : (made.map (·.2)).Perm
    (world.journal.filterMap Entry.payload? ++ world.works.filterMap Work.payload?)

theorem delivered_play (config : Config) (moves : List Move)
    (up : (play config moves).connection.Up) :
    Prompt (play config moves).journal ∧
      ∃ made, Delivered config moves (play config moves) made := by
  induction moves using List.reverseRecOn with
  | nil => exact ⟨prompt_of_payloads rfl, [], by simp, .refl _, .refl _⟩
  | append_singleton moves move ih =>
    rw [play_append] at up ⊢
    obtain ⟨used, entries, left, deed, journal, replaced⟩ := does_step (tidy_play config moves) move
    obtain ⟨earlier, later, before, after⟩ := replaced.works
    have accepts := (shutdown_play config moves).accepts
    have up := deed.up accepts up
    obtain ⟨prompt, made, delivered⟩ := ih up
    have step := deed.batchStep
    obtain ⟨more, sizes, batches, payloads⟩ := step.delivers up
    refine ⟨journal ▸ prompt.append (step.prompt up (accepts up.live)), made ++ more, ?_, ?_, ?_⟩
    · intro pair mem
      obtain old | new := List.mem_append.mp mem
      · obtain ⟨earlier, early, same⟩ := delivered.sizes pair old
        exact ⟨earlier, early.trans (List.prefix_append _ _), same⟩
      · exact ⟨moves, List.prefix_append _ _, sizes pair new⟩
    · have old := delivered.batches
      have counts := batched_play config moves
      rw [before, List.filterMap_append, List.filterMap_append] at old
      rw [journal, after, takenOut_append, List.map_append, List.filterMap_append,
        List.filterMap_append]
      rw [← batched, ← counts]
      exact perm_moved old batches
    · have old := delivered.payloads
      rw [before, List.filterMap_append, List.filterMap_append] at old
      rw [journal, after, List.map_append, List.filterMap_append, List.filterMap_append,
        List.filterMap_append]
      exact perm_moved old payloads

/-- The dispatcher has a flush to perform, now or once it has dealt with a reply. -/
def Owes (world : World) : Prop :=
  ∃ work ∈ world.engine.dispatcherWork, work = .flush ∨ ∃ reply, work = .replied reply

/-- What the dispatcher owes it does. -/
theorem owes_step (owes : world.Owes) (move : Move) :
    (world.step move).Owes ∨
      (world.step move).journal = world.journal ++ [.performed .flush] := by
  obtain ⟨work, mem, flushes⟩ := owes
  have busy {P : Prop} (idle : world.engine.dispatcherWork = []) : P := by
    rw [idle] at mem
    cases mem
  cases @dispatcher_step world move with
  | still dispatcher same => exact .inl ⟨work, same ▸ mem, flushes⟩
  | @performed first rest performs waiting dispatcher left =>
    -- A flush is recorded, a reply leaves a flush behind, and any other piece leaves both waiting.
    rw [waiting] at mem
    obtain rfl | mem := List.mem_cons.mp mem
    · obtain rfl | ⟨reply, rfl⟩ := flushes
      · refine .inr ?_
        rw [performs]
        exact journal_performDispatcher waiting
      · refine .inl ⟨.flush, ?_, .inl rfl⟩
        rw [left, (world.engine.connection.perform_replied reply).1]
        simp
    · refine .inl ⟨work, ?_, flushes⟩
      rw [left]
      exact List.mem_append_right _ mem
  | read reads reading idle => exact busy idle
  | stopped reading idle => exact busy idle

/-- It does so before it has nothing left to do. -/
theorem owes_play (config : Config) (moves more : List Move) (owes : (play config moves).Owes) :
    (play config (moves ++ more)).Owes ∨ ∃ before after, (play config (moves ++ more)).journal =
      (play config moves).journal ++ before ++ .performed .flush :: after := by
  induction more using List.reverseRecOn with
  | nil =>
    rw [List.append_nil]
    exact .inl owes
  | append_singleton more move ih =>
    rw [← List.append_assoc, play_append]
    obtain ⟨_, entries, _, -, journal, -⟩ :=
      does_step (tidy_play config (moves ++ more)) move
    obtain still | ⟨before, after, grown⟩ := ih
    · obtain still | flushed := owes_step still move
      · exact .inl still
      · obtain ⟨between, grown⟩ := journal_grows config moves more
        refine .inr ⟨between, [], ?_⟩
        rw [flushed, grown]
    · refine .inr ⟨before, after ++ entries, ?_⟩
      rw [journal, grown]
      simp

/-- The commands that the dispatcher issues. -/
def dispatched (world : World) : Move → List (Receipt × Command)
  | .performDispatcher => issues (world.connection.headEntries world.engine.dispatcherWork)
  | _ => []

/-- There is nothing in the batch, and the dispatcher has taken nothing out. -/
structure Unprompted (world : World) : Prop where
  empty : world.connection.disposals.counts = []
  bare : ∀ work ∈ world.engine.dispatcherWork, work.bare

/-- The dispatcher issues nothing but what it has taken out of the batch. -/
theorem Unprompted.dispatched (unprompted : Unprompted world) (move : Move) :
    world.dispatched move = [] := by
  cases move with
  | performDispatcher =>
    have bare := unprompted.bare
    rw [World.dispatched]
    cases works : world.engine.dispatcherWork with
    | nil => rfl
    | cons work rest =>
      rw [works, List.forall_mem_cons] at bare
      cases work with
      | dispose payload => cases bare.1
      | disconnect =>
        simp only [Connection.headEntries, Connection.workEntries]
        split <;> rfl
      | _ => rfl
  | _ => rfl

theorem Unprompted.step (unprompted : Unprompted world) (tidy : Tidy world) {move : Move}
    {entries : List Entry} (journal : (world.step move).journal = world.journal ++ entries)
    (none : ∀ entry ∈ entries, entry.queues = false) : Unprompted (world.step move) := by
  obtain ⟨used, entries', left, deed, journal', replaced⟩ := does_step tidy move
  obtain rfl := List.append_cancel_left (journal.symm.trans journal')
  have step := deed.batchStep
  -- Nothing is recorded that puts anything into the empty batch.
  have empty := step.refill
  rw [show world.engine.connection.disposals.counts = [] from unprompted.empty,
    refill_nil none] at empty
  refine ⟨empty.symm, ?_⟩
  have bare := unprompted.bare
  cases replaced with
  | dispatcher before after =>
    rw [before, List.forall_mem_append] at bare
    rw [after, List.forall_mem_append]
    exact ⟨step.bare unprompted.empty bare.1, bare.2⟩
  | other earlier later dispatcher => rwa [dispatcher]

theorem unprompted_play (config : Config) (moves more : List Move)
    (unprompted : Unprompted (play config moves)) {during : List Entry}
    (journal : (play config (moves ++ more)).journal = (play config moves).journal ++ during)
    (none : ∀ entry ∈ during, entry.queues = false) :
    gather dispatched (play config moves) more = [] ∧ Unprompted (play config (moves ++ more)) := by
  induction more using List.reverseRecOn generalizing during with
  | nil =>
    rw [List.append_nil]
    exact ⟨rfl, unprompted⟩
  | append_singleton more move ih =>
    obtain ⟨before, grown⟩ := journal_grows config moves more
    have tidy := tidy_play config (moves ++ more)
    obtain ⟨_, entries, _, -, added, -⟩ := does_step tidy move
    rw [← List.append_assoc, play_append] at journal ⊢
    have all : during = before ++ entries := by
      rw [added, ← grown, List.append_assoc] at journal
      exact (List.append_cancel_left journal).symm
    rw [all, List.forall_mem_append] at none
    obtain ⟨quiet, unprompted⟩ := ih grown.symm none.1
    refine ⟨?_, unprompted.step tidy added none.2⟩
    rw [gather_concat, quiet, unprompted.dispatched]
    rfl

/-! ## What the dispatcher does about a reply -/

/-- A dispatcher with pieces to perform keeps them until it performs them. -/
theorem dispatcherWork_waits {move : Move} (other : move ≠ .performDispatcher)
    (busy : world.engine.dispatcherWork ≠ []) :
    (world.step move).engine.dispatcherWork = world.engine.dispatcherWork := by
  cases @dispatcher_step world move with
  | still dispatcher same => exact same
  | performed performs => exact absurd performs other
  | read reads reading idle => exact absurd idle busy
  | stopped reading idle => exact absurd idle busy

/-- A reply is all that the dispatcher has to do when it has read it. -/
theorem replied_alone (config : Config) (moves : List Move) {reply : ReplyPacket}
    (mem : .replied reply ∈ (play config moves).engine.dispatcherWork) :
    (play config moves).engine.dispatcherWork = [.replied reply] := by
  induction moves using List.reverseRecOn with
  | nil => cases mem
  | append_singleton moves move ih =>
    rw [play_append] at mem ⊢
    cases @dispatcher_step (play config moves) move with
    | still dispatcher same =>
      rw [same] at mem ⊢
      exact ih mem
    | @performed work rest performs first dispatcher left =>
      rw [left] at mem
      obtain new | old := List.mem_append.mp mem
      · exact absurd new (calm_of_follows (Connection.perform_follows work) reply)
      · -- It would not have been alone before.
        have alone := ih (first ▸ List.mem_cons_of_mem _ old)
        rw [first] at alone
        obtain ⟨-, rfl⟩ := List.cons.inj alone
        cases old
    | read reads reading idle dispatcher left =>
      rw [left] at mem ⊢
      exact Connection.accept_replied mem
    | stopped reading idle dispatcher left =>
      rw [left] at mem
      simp at mem

/-- What the dispatcher may have to do about a reply before it has flushed the batch. -/
inductive Answering (reply : ReplyPacket) : List Work → Prop
  | replied : Answering reply [.replied reply]
  | resolving (request : Request) : Answering reply [.resolve request reply, .flush]
  | flushing : Answering reply [.flush]

/-- The entries of a move that say that an id was put into the batch. -/
def queued (world : World) (move : Move) : List Entry :=
  ((world.step move).journal.drop world.journal.length).filter Entry.queues

/-- Those of the dispatcher. -/
def queuedByDispatcher (world : World) : Move → List Entry
  | .performDispatcher => world.queued .performDispatcher
  | _ => []

/-- Those of everybody else. -/
def queuedByOthers (world : World) : Move → List Entry
  | .performDispatcher => []
  | move => world.queued move

theorem queued_eq_nil_iff {move : Move} {entries : List Entry}
    (journal : (world.step move).journal = world.journal ++ entries) :
    world.queued move = [] ↔ ∀ entry ∈ entries, entry.queues = false := by
  rw [queued, journal, List.drop_left, List.filter_eq_nil_iff]
  exact forall₂_congr fun _ _ => iff_of_eq (Bool.not_eq_true _)

/-- What is put into the batch is put there by the dispatcher or by somebody else. -/
theorem queues_eq_false (config : Config) (moves more : List Move)
    (own : gather queuedByDispatcher (play config moves) more = [])
    (others : gather queuedByOthers (play config moves) more = []) {during : List Entry}
    (grown : (play config (moves ++ more)).journal = (play config moves).journal ++ during) :
    ∀ entry ∈ during, entry.queues = false := by
  induction more using List.reverseRecOn generalizing during with
  | nil =>
    rw [List.append_nil, List.self_eq_append_right] at grown
    rw [grown]
    simp
  | append_singleton more move ih =>
    obtain ⟨before, grown'⟩ := journal_grows config moves more
    obtain ⟨_, entries, _, -, added, -⟩ := does_step (tidy_play config (moves ++ more)) move
    rw [gather_concat, List.append_eq_nil_iff] at own others
    rw [← List.append_assoc, play_append, added, ← grown', List.append_assoc] at grown
    rw [← List.append_cancel_left grown, List.forall_mem_append]
    refine ⟨ih own.1 others.1 grown'.symm, (queued_eq_nil_iff added).mp ?_⟩
    cases move with
    | performDispatcher => exact own.2
    | _ => exact others.2

/-- Unless the dispatcher has flushed the batch because of a reply it is about to, and since it has
done so it has put nothing in. -/
theorem answering_play (config : Config) (moves more : List Move) {reply : ReplyPacket}
    (waiting : (play config moves).engine.dispatcherWork = [.replied reply])
    (busy : ∀ early, early <+: more → early ≠ more →
      (play config (moves ++ early)).engine.dispatcherWork ≠ []) :
    Answering reply (play config (moves ++ more)).engine.dispatcherWork ∨
      ∃ first last, more = first ++ .performDispatcher :: last ∧
        (play config (moves ++ first)).engine.dispatcherWork = [.flush] ∧
        (∀ work ∈ (play config (moves ++ more)).engine.dispatcherWork, work.posting) ∧
        gather queuedByDispatcher (play config (moves ++ (first ++ [.performDispatcher]))) last =
          [] := by
  induction more using List.reverseRecOn with
  | nil =>
    rw [List.append_nil, waiting]
    exact .inl .replied
  | append_singleton more move ih =>
    have here := busy more (List.prefix_append _ _) (by simp)
    have ih := ih fun early pre ne => busy early (pre.trans (List.prefix_append _ _)) (by
      rintro rfl
      exact ne (pre.eq_of_length_le (by simp)))
    rw [← List.append_assoc, play_append]
    by_cases performs : move = .performDispatcher
    · subst performs
      obtain answering | ⟨first, last, rfl, flushing, posting, quiet⟩ := ih
      · generalize works : (play config (moves ++ more)).engine.dispatcherWork = work at answering
        cases answering with
        | replied =>
          left
          rw [engine_performDispatcher works, (Connection.perform_replied reply).1, List.append_nil]
          cases (play config (moves ++ more)).connection.request? reply.id with
          | none => exact .flushing
          | some request => exact .resolving request
        | resolving request =>
          left
          rw [engine_performDispatcher works]
          exact .flushing
        | flushing =>
          refine .inr ⟨more, [], rfl, works, ?_, rfl⟩
          rw [engine_performDispatcher works, List.append_nil]
          exact Connection.posting_flush
      · obtain ⟨work, rest, works⟩ := List.exists_cons_of_ne_nil here
        rw [works, List.forall_mem_cons] at posting
        obtain ⟨left, silent⟩ :=
          (play config (moves ++ (first ++ .performDispatcher :: last))).connection.posting_perform
            posting.1
        refine .inr ⟨first, last ++ [.performDispatcher], by simp, flushing, ?_, ?_⟩
        · rw [engine_performDispatcher works, List.forall_mem_append]
          exact ⟨left, posting.2⟩
        · have same : moves ++ (first ++ [.performDispatcher]) ++ last =
              moves ++ (first ++ .performDispatcher :: last) := by simp
          rw [gather_concat, quiet, same]
          exact (queued_eq_nil_iff (journal_performDispatcher works)).mpr silent
    · rw [dispatcherWork_waits performs here]
      obtain answering | ⟨first, last, rfl, flushing, posting, quiet⟩ := ih
      · exact .inl answering
      · refine .inr ⟨first, last ++ [move], by simp, flushing, posting, ?_⟩
        rw [gather_concat, quiet]
        cases move <;> first | rfl | exact absurd rfl performs

/-- If nobody has put anything in since the dispatcher flushed the batch, it is empty. -/
theorem empty_of_flushed (config : Config) (moves : List Move) {more first last : List Move}
    (split : more = first ++ .performDispatcher :: last)
    (flushing : (play config (moves ++ first)).engine.dispatcherWork = [.flush])
    (own : gather queuedByDispatcher (play config (moves ++ (first ++ [.performDispatcher]))) last =
      [])
    (others : gather queuedByOthers (play config (moves ++ (first ++ [.performDispatcher]))) last =
      []) :
    (play config (moves ++ more)).connection.disposals.counts = [] := by
  have flushed : (play config (moves ++ (first ++ [.performDispatcher]))).journal =
      (play config (moves ++ first)).journal ++ [.performed .flush] := by
    rw [← List.append_assoc, play_append]
    exact journal_performDispatcher flushing
  obtain ⟨during, grown⟩ := journal_grows config (moves ++ (first ++ [.performDispatcher])) last
  have none := queues_eq_false config _ last own others grown.symm
  have same : moves ++ more = moves ++ (first ++ [.performDispatcher]) ++ last := by simp [split]
  rw [same, batched_play, ← grown, flushed, List.append_assoc]
  exact batched_of_flushed none

/-- Unless somebody has a flush to perform, the batch has fewer objects than make it full, each with
one count, and what is in it is what the journal says. When the dispatcher has done all that a reply
leaves to do, whether or not there was a request for it, it has flushed the batch, which is empty
unless an id was put into it since then; and until the dispatcher has nothing more to do because of
the reply, only others put ids into it. As long as the connection is up, each batch that was taken
out of it, if there was anything in it, is still with whoever took it out or became one payload, and
each payload is still to be issued or was issued, at once when its turn came, as the data of one
command. And if no id was put into the batch since it was flushed, the dispatcher issues nothing
because of a reply, be it to a command that disposes of objects or to any other. -/
theorem batch_flushed (config : Config) (accepted : config.validate = .ok ())
    (moves more : List Move) :
    let world := play config moves
    let later := play config (moves ++ more)
    (.flush ∉ world.works →
      world.connection.disposals.counts.length < config.disposeThreshold) ∧
    (world.connection.disposals.counts.map (·.1)).Nodup ∧
    world.connection.disposals.counts = batched world.journal ∧
    (∀ reply rest, world.engine.dispatcherWork = .replied reply :: rest →
      later.engine.dispatcherWork = [] →
      ∃ before after, later.journal = world.journal ++ before ++ .performed .flush :: after ∧
        ((∀ entry ∈ after, entry.queues = false) → later.connection.disposals.counts = [])) ∧
    (∀ reply rest, world.engine.dispatcherWork = .replied reply :: rest →
      later.engine.dispatcherWork = [] →
      (∀ early, early <+: more → early ≠ more →
        (play config (moves ++ early)).engine.dispatcherWork ≠ []) →
      ∃ first last, more = first ++ .performDispatcher :: last ∧
        (play config (moves ++ first)).engine.dispatcherWork = [.flush] ∧
        let flushed := play config (moves ++ (first ++ [.performDispatcher]))
        gather queuedByDispatcher flushed last = [] ∧
          (gather queuedByOthers flushed last = [] → later.connection.disposals.counts = [])) ∧
    (world.connection.Up → Prompt world.journal ∧ ∃ made, Delivered config moves world made) ∧
    (∀ reply earlier between during, world.engine.dispatcherWork = [.replied reply] →
      world.journal = earlier ++ .performed .flush :: between →
      later.journal = world.journal ++ during →
      (∀ entry ∈ between ++ during, entry.queues = false) → gather dispatched world more = []) := by
  intro world later
  have positive : 0 < config.disposeThreshold := by
    rw [Nat.pos_iff_ne_zero]
    intro none
    simp [Config.validate, none] at accepted
  have unfilled : Unfilled config world := unfilled_play config positive moves
  refine ⟨unfilled.few, ?_, batched_play config moves, ?_, ?_, delivered_play config moves, ?_⟩
  · rw [List.Nodup, List.pairwise_map]
    exact unfilled.increasing.imp UInt64.ne_of_lt
  · intro reply rest waiting idle
    have owes : world.Owes := by
      refine ⟨.replied reply, ?_, .inr ⟨reply, rfl⟩⟩
      rw [waiting]
      exact List.mem_cons_self
    obtain ⟨work, mem, -⟩ | ⟨before, after, grown⟩ := owes_play config moves more owes
    · rw [show (play config (moves ++ more)).engine.dispatcherWork = [] from idle] at mem
      cases mem
    · refine ⟨before, after, grown, fun none => ?_⟩
      rw [batched_play config (moves ++ more), grown]
      exact batched_of_flushed none
  · intro reply rest waiting idle busy
    have mem : .replied reply ∈ world.engine.dispatcherWork := by
      rw [waiting]
      exact List.mem_cons_self
    have alone := replied_alone config moves mem
    obtain answering | ⟨first, last, split, flushing, -, own⟩ :=
      answering_play config moves more alone busy
    · rw [show (play config (moves ++ more)).engine.dispatcherWork = [] from idle] at answering
      cases answering
    · refine ⟨first, last, split, flushing, own, fun others => ?_⟩
      exact empty_of_flushed config moves split flushing own others
  · intro reply earlier between during waiting flushed grown none
    rw [List.forall_mem_append] at none
    refine (unprompted_play config moves more ⟨?_, ?_⟩ grown none.2).1
    · rw [batched_play config moves, show (play config moves).journal = _ from flushed]
      exact batched_of_flushed none.1
    · rw [show (play config moves).engine.dispatcherWork = _ from waiting]
      exact List.forall_mem_singleton.mpr rfl

/-- Two objects make the batch full. -/
def paired : Config where
  disposeThreshold := 2

/-- Two leases are kept in a cached value, which is evicted when the debuggee is resumed. That makes
the batch full, and it is sent by the caller that resumed. Then the reply to that comes in. -/
def surrendered : List Move :=
  [.start .noteSuspended, .advance 0 .task, .start (.acquire 7), .start (.acquire 8),
    .start (.cache "k" .leases), .supply 3 (.ok (.leases [0, 1])),
    .start (.dropValue (.leases [0, 1])), .advance 4 .task, .advance 4 .task, .advance 4 .task,
    .start (.call .resumeAll)] ++ List.replicate 12 (.advance 5 .task) ++
  [.receive (.frame (ReplyPacket.encode ⟨2, 0, []⟩))]

/-- The dispatcher deals with the reply. -/
def answering : List Move :=
  List.replicate 3 .performDispatcher

theorem batch_flushed_surrendered :
    paired.validate = .ok () ∧ (play paired surrendered).connection.Up ∧
      (play paired surrendered).engine.dispatcherWork = [.replied ⟨2, 0, []⟩] ∧
      (play paired surrendered).connection.disposals.counts.length < 2 ∧
      takenOut [] (play paired surrendered).journal = [[(7, 1), (8, 1)]] ∧
      (∃ made, made.map (·.1) = [[(7, 1), (8, 1)]] ∧
        Delivered paired surrendered (play paired surrendered) made) ∧
      (play paired (surrendered ++ answering)).engine.dispatcherWork = [] ∧
      (play paired (surrendered ++ answering)).connection.disposals.counts = [] ∧
      (∃ first last, answering = first ++ .performDispatcher :: last ∧
        gather queuedByDispatcher
          (play paired (surrendered ++ (first ++ [.performDispatcher]))) last = []) ∧
      gather dispatched (play paired surrendered) answering = [] := by
  have accepted : paired.validate = .ok () := rfl
  have up : (play paired surrendered).connection.Up := ⟨by decide +kernel, by decide +kernel⟩
  have waiting : (play paired surrendered).engine.dispatcherWork = [.replied ⟨2, 0, []⟩] := by
    decide +kernel
  have taken : takenOut [] (play paired surrendered).journal = [[(7, 1), (8, 1)]] := by
    decide +kernel
  have idle : (play paired (surrendered ++ answering)).engine.dispatcherWork = [] := by
    decide +kernel
  have none : ∀ entry ∈ (play paired (surrendered ++ answering)).journal.drop
      (play paired surrendered).journal.length, entry.queues = false := by decide +kernel
  have busy : ∀ early, early <+: answering → early ≠ answering →
      (play paired (surrendered ++ early)).engine.dispatcherWork ≠ [] := by
    intro early pre ne
    have short : early.length < 3 := Nat.lt_of_le_of_ne pre.length_le (mt pre.eq_of_length ne)
    have eq := List.prefix_iff_eq_take.mp pre
    generalize early.length = n at eq short
    subst eq
    obtain _ | _ | _ | n := n
    · decide +kernel
    · decide +kernel
    · decide +kernel
    · omega
  obtain ⟨few, -, -, flushed, alone, delivered, quiet⟩ :=
    batch_flushed paired accepted surrendered answering
  obtain ⟨-, made, delivered⟩ := delivered up
  refine ⟨accepted, up, waiting, few (by decide +kernel), taken, ⟨made, ?_, delivered⟩, idle, ?_,
    ?_, ?_⟩
  · have batches := delivered.batches
    have sent : (play paired surrendered).works.filterMap Work.batch? = [] := by decide +kernel
    rw [taken, sent, List.append_nil] at batches
    exact (List.singleton_perm.mp batches).symm
  · obtain ⟨before, after, grown, empty⟩ := flushed _ _ waiting idle
    refine empty fun entry mem => none entry ?_
    rw [grown, List.append_assoc, List.drop_left]
    simp [mem]
  · obtain ⟨first, last, split, -, own, -⟩ := alone _ _ waiting idle busy
    exact ⟨first, last, split, own⟩
  · obtain ⟨during, grown⟩ := journal_grows paired surrendered answering
    rw [← grown, List.drop_left] at none
    have since : ∀ entry ∈ (play paired surrendered).journal.drop 17, entry.queues = false := by
      decide +kernel
    exact quiet _ ((play paired surrendered).journal.take 16)
      ((play paired surrendered).journal.drop 17) during waiting rfl grown.symm
      (List.forall_mem_append.mpr ⟨since, none⟩)

end World

end DebugLink
