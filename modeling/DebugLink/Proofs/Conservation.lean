import DebugLink.Proofs.Batching
import DebugLink.Proofs.Lending
import DebugLink.Proofs.Tracking

/-!
# Conservation: every id that is taken in is given back once

Every time an id is taken in has to be counted at exactly one place: by the live lease on the
object, by a piece of work that is left of a lease that is gone, in the batch, by a piece of work
that is left of a batch, or in a payload that was issued. `LeaseStep.balance` shows of one step that
it moves counts from one place to the next and neither loses nor doubles any.
`World.acquisitions_eq` shows of whole runs that everything is accounted for, and that every payload
can be read.

Counts are added up in 32 bits and written as signed ones, and ids are written as wide as the
debuggee said. `World.Fits` says of a run that nothing is cut off. Only commands that the connection
issues of its own accord are counted: a caller may send a payload of its own making, and what that
gives back was never taken in.
-/

namespace DebugLink

/-! ## Where counts are -/

/-- How often an object's id was taken in. -/
def acquisitions (object : ObjectId) (journal : List Entry) : Nat :=
  journal.countP fun
    | .acquired other _ => other == object
    | _ => false

/-- The payload of a command that disposes of objects. -/
@[simp]
def Entry.payload? : Entry → Option Bytes
  | .performed (.dispose payload) => some payload
  | _ => none

/-- How often an object's id was given back. -/
def returned (object : ObjectId) (journal : List Entry) : Nat :=
  total (givenBack object) (journal.filterMap Entry.payload?)

/-- What a lease that is gone retained and that is not in the batch yet. -/
@[simp]
def Work.dropped (object : ObjectId) : Work → Nat
  | .reclaim other retained | .queueDisposal other retained =>
    if other = object then retained.toNat else 0
  | _ => 0

/-- What was taken out of the batch and is not issued yet. -/
@[simp]
def Work.underway (object : ObjectId) : Work → Nat
  | .sendBatch counts => tally object counts
  | .dispose payload => givenBack object payload
  | _ => 0

/-- What pieces of work count for an object. -/
def carried (object : ObjectId) (works : List Work) : Nat :=
  total (Work.dropped object) works + total (Work.underway object) works

section

variable {object : ObjectId} {journal entries : List Entry} {works works' : List Work}

@[simp]
theorem acquisitions_append : acquisitions object (journal ++ entries) =
    acquisitions object journal + acquisitions object entries :=
  List.countP_append

@[simp]
theorem returned_nil : returned object [] = 0 := rfl

@[simp]
theorem returned_cons {entry : Entry} : returned object (entry :: journal) =
    (entry.payload?.elim 0 (givenBack object)) + returned object journal := by
  cases payload : entry.payload? <;> simp only [returned, List.filterMap_cons, payload]
  · exact (Nat.zero_add _).symm
  · rfl

@[simp]
theorem returned_append :
    returned object (journal ++ entries) = returned object journal + returned object entries := by
  simp [returned]

@[simp]
theorem carried_append :
    carried object (works ++ works') = carried object works + carried object works' := by
  simp only [carried, total_append]
  omega

@[simp]
theorem carried_nil : carried object [] = 0 := rfl

theorem carried_cons {work : Work} : carried object (work :: works) =
    work.dropped object + work.underway object + carried object works := by
  simp only [carried, total_cons]
  omega

@[simp]
theorem carried_singleton {work : Work} :
    carried object [work] = work.dropped object + work.underway object :=
  carried_cons

/-- What a lease retained is counted by the piece of work that it leaves. -/
theorem carried_gone (gone : Option Lease) :
    carried object (gone.map fun lease => .reclaim lease.object lease.retained).toList =
      gone.elim 0 fun lease => if lease.object = object then lease.retained.toNat else 0 := by
  cases gone with
  | none => rfl
  | some lease => exact carried_singleton

@[simp]
theorem acquisitions_performed {work : Work} : acquisitions object [.performed work] = 0 := rfl

theorem carried_of_light (light : ∀ work ∈ works, work.light) : carried object works = 0 := by
  induction works with
  | nil => rfl
  | cons work works ih =>
    rw [List.forall_mem_cons] at light
    rw [carried_cons, ih light.2]
    cases work <;> first | rfl | exact absurd light.1 Bool.false_ne_true

theorem acquisitions_of_light (light : ∀ entry ∈ entries, entry.light) :
    acquisitions object entries = 0 := by
  refine List.countP_eq_zero.mpr fun entry mem => ?_
  cases entry <;> first | exact Bool.false_ne_true | exact absurd (light _ mem) Bool.false_ne_true

theorem payload?_of_light {entry : Entry} (light : entry.light) : entry.payload? = none := by
  cases entry with
  | performed work => cases work <;> first | rfl | exact absurd light Bool.false_ne_true
  | _ => rfl

theorem payloads_of_light (light : ∀ entry ∈ entries, entry.light) :
    entries.filterMap Entry.payload? = [] :=
  List.filterMap_eq_nil_iff.mpr fun entry mem => payload?_of_light (light entry mem)

theorem returned_of_light (light : ∀ entry ∈ entries, entry.light) :
    returned object entries = 0 := by
  rw [returned, payloads_of_light light]
  rfl

end

/-! ## What fits -/

/-- No count is larger than the largest there is on the wire. -/
structure Connection.Countable (connection : Connection) : Prop where
  held : ∀ lease ∈ connection.leases.live, lease.retained.toNat ≤ largestCount
  queued : ∀ pair ∈ connection.disposals.counts, pair.2.toNat ≤ largestCount

instance (connection : Connection) : Decidable connection.Countable :=
  decidable_of_iff (connection.leases.live.all (·.retained.toNat ≤ largestCount) ∧
      connection.disposals.counts.all (·.2.toNat ≤ largestCount))
    ⟨fun ⟨held, queued⟩ => ⟨by simpa using held, by simpa using queued⟩,
      fun ⟨held, queued⟩ => ⟨by simpa using held, by simpa using queued⟩⟩

/-- The batch of which an entry says that a payload was made. -/
def Entry.batch? : Entry → Option (List (ObjectId × UInt32))
  | .performed (.sendBatch counts) => some counts
  | _ => none

/-- A batch can be written with ids of a width: the ids fit there, and the number of counts fits
its field. -/
structure Writable (size : IdSize) (counts : List (ObjectId × UInt32)) : Prop where
  few : counts.length ≤ largestCount
  fit : ∀ pair ∈ counts, pair.1.toNat < Bytes.place size.bytes

instance (size : IdSize) (counts : List (ObjectId × UInt32)) : Decidable (Writable size counts) :=
  decidable_of_iff (counts.length ≤ largestCount ∧
      counts.all (·.1.toNat < Bytes.place size.bytes))
    ⟨fun ⟨few, fit⟩ => ⟨few, by simpa using fit⟩, fun ⟨few, fit⟩ => ⟨few, by simpa using fit⟩⟩

/-- Whenever a move is made all counts fit, and when it makes a payload of a batch, that can be
written as wide as ids are then. -/
def World.Fits : World → List Move → Prop
  | _, [] => True
  | world, move :: moves =>
    world.connection.Countable ∧
      (∀ counts ∈ ((world.step move).journal.drop world.journal.length).filterMap Entry.batch?,
        Writable world.connection.idSizes.object counts) ∧
      Fits (world.step move) moves

instance World.decidableFits : (world : World) → (moves : List Move) → Decidable (Fits world moves)
  | _, [] => inferInstanceAs (Decidable True)
  | world, move :: moves =>
    have := decidableFits (world.step move) moves
    inferInstanceAs (Decidable (_ ∧ _ ∧ _))

/-! ## Counts in order -/

/-- The leases of a connection are tracked, and neither a lease nor a part of the batch counts
nothing. -/
structure Connection.Accounted (connection : Connection) : Prop where
  tracked : connection.leases.Tracked
  received : connection.leases.Received
  batch : Batch connection.disposals.counts

/-- A piece of work carries counts that there may be, and the payload of a command is one of those
that were written. The batch is not cleared. -/
def Work.Sound (written : Bytes → Prop) : Work → Prop
  | .reclaim _ retained | .queueDisposal _ retained =>
    0 < retained.toNat ∧ retained.toNat ≤ largestCount
  | .sendBatch counts => counts ≠ [] ∧ Batch counts ∧ ∀ pair ∈ counts, pair.2.toNat ≤ largestCount
  | .dispose payload => written payload
  | .clearDisposals => False
  | _ => True

/-- Wherever a piece of work disposes of objects, the command is issued at once. -/
def Prompt (journal : List Entry) : Prop :=
  ∀ before payload after, journal = before ++ .performed (.dispose payload) :: after →
    ∃ receipt rest, after = .issued receipt .disposeObjects payload :: rest

theorem Work.sound_of_light {written : Bytes → Prop} {work : Work} (light : work.light) :
    work.Sound written := by
  cases work <;> first | exact absurd light Bool.false_ne_true | trivial

theorem Work.Sound.mono {written written' : Bytes → Prop} {work : Work}
    (weaker : ∀ payload, written payload → written' payload) (sound : work.Sound written) :
    work.Sound written' := by
  cases work with
  | dispose payload => exact weaker payload sound
  | _ => exact sound

theorem Prompt.append {journal entries : List Entry} (prompt : Prompt journal)
    (prompt' : Prompt entries) : Prompt (journal ++ entries) := by
  intro before payload after whole
  obtain ⟨middle, rfl, split⟩ | ⟨middle, rfl, split⟩ := List.append_eq_append_iff.mp whole
  · exact prompt' middle payload after split
  · cases middle with
    | nil => exact prompt' [] payload after split.symm
    | cons entry middle =>
      obtain ⟨rfl, rfl⟩ := List.cons.inj split
      obtain ⟨receipt, rest, rfl⟩ := prompt before payload middle rfl
      exact ⟨receipt, rest ++ entries, rfl⟩

theorem prompt_of_payloads {entries : List Entry} (none : entries.filterMap Entry.payload? = []) :
    Prompt entries := by
  rintro before payload after rfl
  simp [Entry.payload?] at none

theorem prompt_issued {receipt : Receipt} (payload : Bytes) :
    Prompt [.performed (.dispose payload), .issued receipt .disposeObjects payload] := by
  intro earlier other later split
  cases earlier with
  | nil =>
    cases split
    exact ⟨_, [], rfl⟩
  | cons entry earlier => cases earlier <;> simp at split

namespace LeaseStep

variable {before after : Connection} {used left : List Work} {entries : List Entry}
  {written : Bytes → Prop} {object : ObjectId}
  (step : LeaseStep before used entries left after) (spent : ∀ work ∈ used, work.Sound written)

include step spent

theorem prompt : Prompt entries := by
  cases step with
  | aside ids leases disposals spent quiet light =>
    exact prompt_of_payloads (payloads_of_light quiet)
  | dispose payload leases disposals light => exact prompt_issued payload
  | clear => exact (spent .clearDisposals (by simp)).elim
  | _ => exact prompt_of_payloads rfl

/-- What is disposed of was written before. -/
theorem disposed : ∀ payload ∈ entries.filterMap Entry.payload?, written payload := by
  cases step with
  | aside ids leases disposals spent quiet light => simp [payloads_of_light quiet]
  | dispose payload leases disposals light =>
    exact List.forall_mem_singleton.mpr (spent (.dispose payload) (by simp))
  | clear => exact (spent .clearDisposals (by simp)).elim
  | _ => simp

variable (accounted : before.Accounted) (countable : before.Countable)

include accounted countable

theorem orderly : after.Accounted := by
  obtain ⟨tracked, received, batch⟩ := accounted
  cases step with
  | aside ids leases disposals spent quiet light =>
    exact ⟨leases ▸ tracked.clone ids, leases ▸ received.clone ids, disposals ▸ batch⟩
  | acquire object leases disposals =>
    have fits (lease : Lease) (live : lease ∈ before.leases.live) :
        lease.retained.toNat + 1 < UInt32.size :=
      Nat.lt_of_le_of_lt (Nat.succ_le_succ (countable.held lease live)) (by decide)
    exact ⟨leases ▸ tracked.acquire object, leases ▸ received.acquire fits object,
      disposals ▸ batch⟩
  | release lease leases disposals =>
    exact ⟨leases ▸ tracked.drop lease, leases ▸ received.drop lease, disposals ▸ batch⟩
  | reclaim object retained leases disposals =>
    exact ⟨leases ▸ tracked.prune object, leases ▸ received.prune object, disposals ▸ batch⟩
  | queue object retained leases disposals light =>
    have positive := (spent (.queueDisposal object retained) (by simp)).1
    exact ⟨leases ▸ tracked, leases ▸ received, disposals ▸ Disposals.batch_push batch positive⟩
  | take any leases disposals =>
    exact ⟨leases ▸ tracked, leases ▸ received, disposals ▸ Disposals.batch_clear⟩
  | send counts leases disposals =>
    exact ⟨leases ▸ tracked, leases ▸ received, disposals ▸ batch⟩
  | dispose payload leases disposals light =>
    exact ⟨leases ▸ tracked, leases ▸ received, disposals ▸ batch⟩
  | clear => exact (spent .clearDisposals (by simp)).elim

variable
  (writable : ∀ counts ∈ entries.filterMap Entry.batch?, Writable before.idSizes.object counts)

include writable

theorem sound
    (gives : ∀ payload counts, Gives before.idSizes.object payload counts → written payload) :
    ∀ work ∈ left, work.Sound written := by
  cases step with
  | aside ids leases disposals spent quiet light =>
    exact fun work mem => Work.sound_of_light (light work mem)
  | acquire => simp
  | release lease leases disposals =>
    intro work mem
    obtain ⟨gone, dropped, rfl⟩ := Option.map_eq_some_iff.mp (Option.mem_toList.mp mem)
    have live := LeaseTable.mem_of_drop dropped
    exact ⟨accounted.received gone live, countable.held gone live⟩
  | reclaim object retained leases disposals =>
    have carries := spent (.reclaim object retained) (by simp)
    exact List.forall_mem_singleton.mpr carries
  | queue object retained leases disposals light =>
    exact fun work mem => Work.sound_of_light (light work mem)
  | take any leases disposals =>
    exact List.forall_mem_singleton.mpr ⟨any, accounted.batch, countable.queued⟩
  | send counts leases disposals =>
    have carries := spent (.sendBatch counts) (by simp)
    have writable := writable counts (by simp [Entry.batch?])
    exact List.forall_mem_singleton.mpr (gives _ _ (gives_disposePayload carries.1 carries.2.1
      ⟨writable.few, carries.2.2⟩ writable.fit))
  | dispose payload leases disposals light =>
    exact fun work mem => Work.sound_of_light (light work mem)
  | clear => exact (spent .clearDisposals (by simp)).elim

/-- No count is lost or doubled. -/
theorem balance (named : object ≠ 0) :
    acquisitions object entries + before.leases.held object +
        tally object before.disposals.counts + carried object used =
      after.leases.held object + tally object after.disposals.counts + carried object left +
        returned object entries := by
  obtain ⟨tracked, received, batch⟩ := accounted
  cases step with
  | aside ids leases disposals spent quiet light =>
    rw [leases, disposals, LeaseTable.held_clone, carried_of_light spent, carried_of_light light,
      acquisitions_of_light quiet, returned_of_light quiet]
    omega
  | acquire other leases disposals =>
    have taken : acquisitions object [.acquired other (before.leases.acquire other).1] =
        if other = object then 1 else 0 := by
      simp [acquisitions, List.countP_cons]
    have held : (before.leases.acquire other).2.held object =
        before.leases.held object + if other = object then 1 else 0 := by
      by_cases null : other = 0
      · rw [if_neg (null ▸ named.symm), LeaseTable.acquire, if_pos null]
        rfl
      · have small := tracked.held_le countable.held other
        exact tracked.held_acquire null
          (Nat.lt_of_le_of_lt (Nat.succ_le_succ small) (by decide)) object
    rw [leases, disposals, taken, held]
    simp
    omega
  | release lease leases disposals =>
    rw [leases, disposals, ← tracked.held_drop lease object, carried_gone]
    simp
    omega
  | reclaim other retained leases disposals =>
    rw [leases, disposals, tracked.held_prune]
    simp
  | queue other retained leases disposals light =>
    have fits (pair : ObjectId × UInt32) (mem : pair ∈ before.disposals.counts) :
        pair.2.toNat + retained.toNat < UInt32.size := by
      have queued := countable.queued pair mem
      have carries := (spent (.queueDisposal other retained) (by simp)).2
      exact Nat.lt_of_le_of_lt (Nat.add_le_add queued carries) (by decide)
    rw [leases, disposals, Disposals.push, Disposals.tally_addCount fits, carried_of_light light]
    simp
    omega
  | take any leases disposals =>
    have cleared : tally object before.disposals.clear.counts = 0 := rfl
    rw [leases, disposals, cleared]
    simp
  | send counts leases disposals =>
    have carries := spent (.sendBatch counts) (by simp)
    have writable := writable counts (by simp [Entry.batch?])
    have given := givenBack_disposePayload object carries.1 carries.2.1
      ⟨writable.few, carries.2.2⟩ writable.fit
    rw [leases, disposals]
    simp [given]
  | dispose payload leases disposals light =>
    rw [leases, disposals, carried_of_light light]
    have nothing : acquisitions object [.performed (.dispose payload),
        .issued before.nextReceipt .disposeObjects payload] = 0 := rfl
    simp [nothing]
  | clear => exact (spent .clearDisposals (by simp)).elim

end LeaseStep

/-! ## Whole runs -/

namespace World

/-- A payload gives back a batch of counts, read as wide as ids were at a time of a run. -/
def Written (config : Config) (moves : List Move) (payload : Bytes) : Prop :=
  ∃ earlier counts, earlier <+: moves ∧
    Gives (play config earlier).connection.idSizes.object payload counts

/-- Everything that was taken in is accounted for. -/
structure Conserved (config : Config) (moves : List Move) (world : World) : Prop where
  accounted : world.connection.Accounted
  sound : ∀ work ∈ world.works, work.Sound (Written config moves)
  prompt : Prompt world.journal
  written : ∀ payload ∈ world.journal.filterMap Entry.payload?, Written config moves payload
  balance : ∀ object, object ≠ 0 →
    acquisitions object world.journal = world.connection.leases.held object +
      tally object world.connection.disposals.counts + carried object world.works +
        returned object world.journal

theorem fits_append {world : World} {moves : List Move} {move : Move} :
    Fits world (moves ++ [move]) ↔
      Fits world moves ∧ Fits (moves.foldl World.step world) [move] := by
  induction moves generalizing world with
  | nil => simp [Fits]
  | cons first moves ih => simp only [List.cons_append, Fits, ih, List.foldl_cons, and_assoc]

theorem conserved_ofConfig (config : Config) : Conserved config [] (ofConfig config) where
  accounted := by
    refine ⟨⟨?_, List.nodup_nil, ?_, ?_, ?_, ?_⟩, ?_, ⟨List.Pairwise.nil, ?_⟩⟩
    all_goals exact fun _ mem => absurd mem List.not_mem_nil
  sound := fun _ mem => absurd mem List.not_mem_nil
  prompt := prompt_of_payloads rfl
  written := fun _ mem => absurd mem List.not_mem_nil
  balance := fun _ _ => rfl

variable {config : Config} {moves : List Move} {move : Move}

theorem Conserved.step (conserved : Conserved config moves (play config moves))
    (fits : Fits (play config moves) [move])
    (up : ((play config moves).step move).connection.Up) :
    Conserved config (moves ++ [move]) ((play config moves).step move) := by
  obtain ⟨used, entries, left, deed, journal, replaced⟩ := does_step (tidy_play config moves) move
  have step := deed.leaseStep (shutdown_play config moves).accepts up
  obtain ⟨earlier, later, before, after⟩ := replaced.works
  obtain ⟨countable, writable, -⟩ := fits
  rw [journal, List.drop_left] at writable
  have longer (payload : Bytes) (written : Written config moves payload) :
      Written config (moves ++ [move]) payload := by
    obtain ⟨earlier, counts, early, gives⟩ := written
    exact ⟨earlier, counts, early.trans (List.prefix_append _ _), gives⟩
  have spent : ∀ work ∈ used, work.Sound (Written config moves) := by
    intro work mem
    exact conserved.sound work (by simp [before, mem])
  have gives : ∀ payload counts,
      Gives (play config moves).connection.idSizes.object payload counts →
        Written config moves payload :=
    fun payload counts gives => ⟨moves, counts, List.prefix_refl _, gives⟩
  refine ⟨step.orderly spent conserved.accounted countable, ?_, ?_, ?_, ?_⟩
  · intro work mem
    refine Work.Sound.mono longer ?_
    simp only [after, List.mem_append] at mem
    obtain (mem | mem) | mem := mem
    · exact conserved.sound work (by simp [before, mem])
    · exact step.sound spent conserved.accounted countable writable gives work mem
    · exact conserved.sound work (by simp [before, mem])
  · rw [journal]
    exact conserved.prompt.append (step.prompt spent)
  · rw [journal, List.filterMap_append]
    intro payload mem
    obtain mem | mem := List.mem_append.mp mem
    · exact longer payload (conserved.written payload mem)
    · exact longer payload (step.disposed spent payload mem)
  · intro object named
    have whole := conserved.balance object named
    have one := step.balance spent conserved.accounted countable writable named
    rw [before, carried_append, carried_append] at whole
    rw [journal, after, acquisitions_append, returned_append, carried_append, carried_append]
    simp only [connection] at whole one ⊢
    omega

theorem conserved_play (config : Config) (moves : List Move)
    (fits : Fits (ofConfig config) moves) (up : (play config moves).connection.Up) :
    Conserved config moves (play config moves) := by
  induction moves using List.reverseRecOn with
  | nil => exact conserved_ofConfig config
  | append_singleton moves move ih =>
    rw [play_append] at up ⊢
    obtain ⟨before, fits⟩ := fits_append.mp fits
    obtain ⟨_, _, _, deed, -, -⟩ := does_step (tidy_play config moves) move
    have earlier := deed.up (shutdown_play config moves).accepts up
    exact (ih before earlier).step fits up

/-- Until a connection goes down, and if nothing is cut off: every time an id is taken in is counted
once, by the live lease on the object, by what is left of a lease that is gone, in the batch, by
what was taken out of the batch, or in a payload that was issued. There is at most one live lease
on an object. Every payload that the connection disposes of objects with is issued at once. At a
width that ids had before, it is read with nothing left over, as at least one object with a positive
count, in the order of the ids. -/
theorem acquisitions_eq (config : Config) (moves : List Move) (fits : Fits (ofConfig config) moves)
    (up : (play config moves).connection.Up) :
    (∀ lease ∈ (play config moves).connection.leases.live,
      (play config moves).connection.leases.known? lease.object = some lease) ∧
    (∀ object, object ≠ 0 →
      acquisitions object (play config moves).journal =
        (play config moves).connection.leases.held object +
          total (Work.dropped object) (play config moves).works +
          tally object (play config moves).connection.disposals.counts +
          total (Work.underway object) (play config moves).works +
          returned object (play config moves).journal) ∧
    ∀ before payload after,
      (play config moves).journal = before ++ .performed (.dispose payload) :: after →
        (∃ receipt rest, after = .issued receipt .disposeObjects payload :: rest) ∧
        ∃ earlier counts, earlier <+: moves ∧ disposals? payload = some counts ∧
          Gives (play config earlier).connection.idSizes.object payload counts := by
  have conserved := conserved_play config moves fits up
  have tracked := conserved.accounted.tracked
  refine ⟨fun lease live => tracked.known?_eq_some_iff.mpr ⟨live, rfl⟩, fun object named => ?_,
    fun before payload after split => ?_⟩
  · rw [conserved.balance object named, carried]
    omega
  · refine ⟨conserved.prompt before payload after split, ?_⟩
    obtain ⟨earlier, counts, early, gives⟩ := conserved.written payload (by simp [split])
    exact ⟨earlier, counts, early, disposals?_eq gives.any gives.reads, gives⟩

/-- An id is taken in twice and both clones are dropped. Before that is accounted for, the id is
taken in again. Then a batch with the first two is sent, and the new lease is given up as well. -/
def regained : List Move :=
  [.start (.acquire 7), .start (.acquire 7), .start (.dropLease 0), .start (.dropLease 0),
    .advance 2 .task, .advance 3 .task, .start (.acquire 7), .advance 3 .task, .advance 3 .task,
    .start .flush, .advance 5 .task, .advance 5 .task, .advance 5 .task, .advance 5 .task,
    .start (.dropLease 1), .advance 6 .task]

/-- The payload that gives an object back twice. -/
def twice : Bytes :=
  [0, 0, 0, 1, 0, 0, 0, 0, 0, 0, 0, 7, 0, 0, 0, 2]

theorem acquisitions_eq_regained :
    Fits (ofConfig {}) regained ∧ (play {} regained).connection.Up ∧
      acquisitions 7 (play {} regained).journal = 0 + 1 + 0 + 0 + 2 ∧
      ∃ earlier counts, earlier <+: regained ∧ disposals? twice = some counts ∧
        Gives (play {} earlier).connection.idSizes.object twice counts := by
  have fits : Fits (ofConfig {}) regained := by decide +kernel
  have up : (play {} regained).connection.Up := ⟨rfl, rfl⟩
  obtain ⟨-, balance, payloads⟩ := acquisitions_eq {} regained fits up
  refine ⟨fits, up, balance 7 (by decide), ?_⟩
  exact (payloads ((play {} regained).journal.take 9) twice _ rfl).2

end World

end DebugLink
