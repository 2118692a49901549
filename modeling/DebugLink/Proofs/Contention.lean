import DebugLink.Proofs.Idleness

/-!
# Contention: publishers and readers of a feed at once

A batch is handed out, a subscription is made or ends, and the policy is applied, by somebody who
holds the lock of the feed. But a reader takes a batch out of its queue and out of its depth without
the lock, and only then waits for it, to apply the policy. So a depth can fall between any two steps
of the holder: after a batch was counted and before it is queued, or while the depths are read one
after the other to find the largest.

A `Contention` is a feed in the hands of such users, with every single access to a counter or a
queue a step of its own. Steps of one user that nobody interrupts make the operation of the feed
(`run_publish`, `run_drop`, `run_receive`).

While the depths are read, none of those that were read is above what was found, and what was found
is at most the largest unless somebody has counted since, who then still waits (`Obeys.read`,
`Obeys.found`). So what the policy decides is right when the lock is released, or somebody waits to
correct it.

Main statement: `Contention.obeys_run`.
-/

namespace DebugLink

namespace EventFeed

variable {feed : EventFeed}

theorem deepest_le {most : Nat} (within : ∀ s ∈ feed.subscriptions, s.depth ≤ most) :
    feed.deepest ≤ most := by
  have bound (depths : List Nat) (init : Nat) (first : init ≤ most)
      (rest : ∀ depth ∈ depths, depth ≤ most) : depths.foldl max init ≤ most := by
    induction depths generalizing init with
    | nil => exact first
    | cons depth depths ih =>
      obtain ⟨next, rest⟩ := List.forall_mem_cons.mp rest
      exact ih _ (Nat.max_le.mpr ⟨first, next⟩) rest
  rw [deepest_eq_foldl]
  refine bound feed.depths 0 (Nat.zero_le _) fun depth mem => ?_
  obtain ⟨s, registered, rfl⟩ := List.mem_map.mp mem
  exact within s (List.mem_filter.mp registered).1

/-- Where no depth rises the largest does not. -/
theorem deepest_update_le (serves : feed.Serves) (id : SubscriptionId)
    {f : Subscription → Subscription} (falls : ∀ s, (f s).depth ≤ s.depth) :
    (feed.update id f).deepest ≤ feed.deepest := by
  refine deepest_le fun s mem => ?_
  obtain ⟨old, known, rfl⟩ := List.mem_map.mp mem
  have before := depth_le_deepest known (serves old known)
  split
  · exact (falls old).trans before
  · exact before

theorem Serves.deepest_eq (serves : feed.Serves) :
    feed.deepest = feed.subscriptions.foldl (max · ·.depth) 0 := by
  rw [deepest, registered, List.filter_eq_self.mpr serves]

theorem Serves.subscribe (serves : feed.Serves) (opened : feed.closed = false) :
    feed.subscribe.2.Serves := by
  intro s mem
  obtain old | new := List.mem_append.mp mem
  · exact serves s old
  · simp [List.mem_singleton.mp new, opened]

end EventFeed

/-- What the holder of the lock does next. -/
inductive Holder
  /-- It adds a batch to the depth of a subscription, or has done so with all of them. -/
  | raising (batch : EventBatch) (place : Nat)
  /-- It puts the batch into the queue. -/
  | sending (batch : EventBatch) (place : Nat)
  /-- It reads the depth of a subscription, or has read them all. The largest so far is kept. -/
  | reading (place most : Nat)

/-- A feed with many users. -/
structure Contention where
  feed : EventFeed
  /-- Who holds the lock, if somebody does. -/
  holder : Option Holder := none
  /-- The subscriptions from which a batch was taken that is still in the depth. -/
  uncounted : List SubscriptionId := []
  /-- How many readers have taken a batch out of a depth and wait to apply the policy. -/
  waiting : Nat := 0

/-- A step of somebody who uses the feed. -/
inductive ContentionMove
  | subscribe
  /-- The lock is taken, to hand out a batch. -/
  | publish (batch : EventBatch)
  /-- The lock is taken, and a subscription ends. -/
  | drop (id : SubscriptionId)
  /-- A reader that waits takes the lock, to apply the policy. -/
  | judge
  /-- The holder of the lock goes on. -/
  | proceed
  /-- The next delivery is taken out of a queue. -/
  | receive (id : SubscriptionId)
  /-- A batch that was taken out of its queue is taken out of the depth. -/
  | count (id : SubscriptionId)

namespace Contention

/-- Changes the subscription at a place. -/
def alter (state : Contention) (place : Nat) (f : Subscription → Subscription) : Contention :=
  { state with feed := { state.feed with
      subscriptions := state.feed.subscriptions.modify place f } }

/-- The holder of the lock goes on. -/
def proceed (state : Contention) : Holder → Contention
  | .raising batch place =>
    if place < state.feed.subscriptions.length then
      { state.alter place fun s => { s with depth := s.depth + 1 } with
        holder := some (.sending batch place) }
    else { state with holder := some (.reading 0 0) }
  | .sending batch place =>
    { state.alter place fun s => { s with queue := s.queue ++ [.events batch] } with
      holder := some (.raising batch (place + 1)) }
  | .reading place most =>
    match state.feed.subscriptions[place]? with
    | some s => { state with holder := some (.reading (place + 1) (max most s.depth)) }
    | none =>
      { state with
        feed := { state.feed with flow := state.feed.flow.onDepth most }, holder := none }

/-- Somebody takes the lock, which is free. -/
def enter (state : Contention) : ContentionMove → Contention
  | .subscribe => { state with feed := state.feed.subscribe.2 }
  | .publish batch => { state with holder := some (.raising batch 0) }
  | .drop id =>
    if (state.feed.find? id).any (·.registered) then
      { state with
        feed := { state.feed with
          subscriptions := state.feed.subscriptions.filter (·.id != id) }
        holder := some (.reading 0 0) }
    else state
  | .judge =>
    if state.waiting = 0 then state
    else { state with waiting := state.waiting - 1, holder := some (.reading 0 0) }
  | _ => state

def step (state : Contention) : ContentionMove → Contention
  | .proceed =>
    match state.holder with
    | some holder => state.proceed holder
    | none => state
  | .receive id =>
    { state with
      feed := (state.feed.pop id).2
      uncounted := (Delivery.counts id (state.feed.pop id).1).toList ++ state.uncounted }
  | .count id =>
    if id ∈ state.uncounted then
      { state with
        feed := state.feed.countReceived id
        uncounted := state.uncounted.erase id
        waiting := state.waiting + 1 }
    else state
  | move => if state.holder.isSome then state else state.enter move

def run (state : Contention) (moves : List ContentionMove) : Contention :=
  moves.foldl step state

/-! ## Operations that nobody interrupts -/

theorem run_append {state : Contention} (moves more : List ContentionMove) :
    state.run (moves ++ more) = (state.run moves).run more :=
  List.foldl_append

/-- The holder of the lock goes on alone. -/
def finish (state : Contention) (n : Nat) : Contention :=
  state.run (List.replicate n .proceed)

theorem finish_add {state : Contention} (m n : Nat) :
    state.finish (m + n) = (state.finish m).finish n := by
  rw [finish, ← List.replicate_append_replicate, run_append]
  rfl

variable (feed : EventFeed) (uncounted : List SubscriptionId) (waiting : Nat)

/-- The depths that are left are read, and the policy is applied. -/
theorem finish_reading (done left : List Subscription) (all : feed.subscriptions = done ++ left)
    (most : Nat) :
    ∃ n, finish ⟨feed, some (.reading done.length most), uncounted, waiting⟩ n =
      ⟨{ feed with flow := feed.flow.onDepth (left.foldl (max · ·.depth) most) }, none, uncounted,
        waiting⟩ := by
  induction left generalizing done most with
  | nil =>
    refine ⟨1, ?_⟩
    have last : feed.subscriptions[done.length]? = none := by simp [all]
    simp [finish, run, step, proceed, last]
  | cons s left ih =>
    obtain ⟨n, rest⟩ := ih (done ++ [s]) (by simp [all]) (max most s.depth)
    have here : feed.subscriptions[done.length]? = some s := by simp [all]
    have next : finish ⟨feed, some (.reading done.length most), uncounted, waiting⟩ 1 =
        ⟨feed, some (.reading (done ++ [s]).length (max most s.depth)), uncounted, waiting⟩ := by
      simp [finish, run, step, proceed, here]
    refine ⟨1 + n, ?_⟩
    rw [finish_add, next, rest, List.foldl_cons]

theorem alter_length (done left : List Subscription) (s : Subscription)
    (f : Subscription → Subscription) (holder : Option Holder) :
    alter ⟨{ feed with subscriptions := done ++ s :: left }, holder, uncounted, waiting⟩
        done.length f =
      ⟨{ feed with subscriptions := done ++ f s :: left }, holder, uncounted, waiting⟩ := by
  have changed : (done ++ s :: left).modify done.length f = done ++ f s :: left := by
    induction done with
    | nil => rfl
    | cons first done ih => simp [List.modify_succ_cons, ih]
  rw [alter, changed]

/-- A batch is handed to the subscriptions that are left. -/
theorem finish_raising (batch : EventBatch) (done left : List Subscription) :
    ∃ n, finish ⟨{ feed with subscriptions := done ++ left }, some (.raising batch done.length),
        uncounted, waiting⟩ n =
      ⟨{ feed with subscriptions := done ++ left.map (·.push batch) }, some (.reading 0 0),
        uncounted, waiting⟩ := by
  induction left generalizing done with
  | nil =>
    refine ⟨1, ?_⟩
    simp [finish, run, step, proceed]
  | cons s left ih =>
    obtain ⟨n, rest⟩ := ih (done ++ [s.push batch])
    have next : finish ⟨{ feed with subscriptions := done ++ s :: left },
        some (.raising batch done.length), uncounted, waiting⟩ 2 =
        ⟨{ feed with subscriptions := done ++ [s.push batch] ++ left },
          some (.raising batch (done ++ [s.push batch]).length), uncounted, waiting⟩ := by
      simp [finish, run, step, proceed, alter_length, Subscription.push]
    refine ⟨2 + n, ?_⟩
    rw [finish_add, next, rest, List.map_cons, List.append_assoc, List.singleton_append]

/-- Somebody who takes the lock to apply the policy applies it. -/
theorem finish_start (serves : feed.Serves) :
    ∃ n, finish ⟨feed, some (.reading 0 0), uncounted, waiting⟩ n =
      ⟨feed.applyPolicy, none, uncounted, waiting⟩ := by
  rw [EventFeed.applyPolicy, serves.deepest_eq]
  exact finish_reading feed uncounted waiting [] feed.subscriptions rfl 0

/-- A batch that is published alone. -/
theorem run_publish (opened : feed.closed = false) (serves : feed.Serves) (batch : EventBatch) :
    ∃ n, (step ⟨feed, none, uncounted, waiting⟩ (.publish batch)).finish n =
      ⟨feed.publish batch, none, uncounted, waiting⟩ := by
  have handed : feed.subscriptions.map (fun s => if s.registered then s.push batch else s) =
      feed.subscriptions.map (·.push batch) :=
    List.map_congr_left fun s mem => if_pos (serves s mem)
  have serves' : EventFeed.Serves
      { feed with subscriptions := feed.subscriptions.map (·.push batch) } := by
    intro s mem
    obtain ⟨old, known, rfl⟩ := List.mem_map.mp mem
    exact serves old known
  obtain ⟨m, raised⟩ := finish_raising feed uncounted waiting batch [] feed.subscriptions
  obtain ⟨n, applied⟩ := finish_start _ uncounted waiting serves'
  refine ⟨m + n, ?_⟩
  rw [EventFeed.publish, if_neg (by simp [opened]), handed, ← applied, finish_add]
  exact congrArg (·.finish n) raised

/-- A subscription that ends alone. -/
theorem run_drop (serves : feed.Serves) (id : SubscriptionId) :
    ∃ n, (step ⟨feed, none, uncounted, waiting⟩ (.drop id)).finish n =
      ⟨feed.drop id, none, uncounted, waiting⟩ := by
  simp only [step, enter, EventFeed.drop, Option.isSome_none, Bool.false_eq_true, if_false]
  split
  · exact finish_start _ uncounted waiting fun s mem => serves s (List.mem_filter.mp mem).1
  · next ended =>
    rw [serves.filter_of_ended ended]
    exact ⟨0, rfl⟩

/-- A batch that is received alone. -/
theorem run_receive (serves : feed.Serves) (id : SubscriptionId) :
    ∃ moves, run ⟨feed, none, uncounted, waiting⟩ (.receive id :: moves) =
      ⟨(feed.receive id true).2, none, uncounted, waiting⟩ := by
  rw [EventFeed.receive]
  split
  · next batch popped taken =>
    have serves' : popped.Serves := by
      rw [show popped = (feed.pop id).2 by rw [taken]]
      obtain same | ⟨rest, changed⟩ := feed.pop_eq id
      · rwa [same]
      · rw [changed]
        exact serves.update id fun _ => rfl
    have serves' : (popped.countReceived id).Serves := serves'.update id fun _ => rfl
    obtain ⟨n, applied⟩ := finish_start _ uncounted waiting serves'
    refine ⟨.count id :: .judge :: List.replicate n .proceed, ?_⟩
    refine Eq.trans ?_ applied
    simp [run, step, enter, taken, Delivery.counts, finish]
  · next other =>
    have none : Delivery.counts id (feed.pop id).1 = none := by
      cases popped : (feed.pop id).1 with
      | none => rfl
      | some delivery =>
        cases delivery with
        | events batch => exact (other batch (feed.pop id).2 (Prod.ext popped rfl)).elim
        | disconnected => rfl
    exact ⟨[], by simp [run, step, none]⟩

/-! ## What holds at every moment -/

/-- The feed is open. While nobody holds the lock, events are held above the high watermark, and
below the low one they are not, unless a reader waits to apply the policy. -/
structure Obeys (high low : Nat) (state : Contention) : Prop where
  marks : state.feed.flow.high = high ∧ state.feed.flow.low = low
  opened : state.feed.closed = false
  serves : state.feed.Serves
  held : state.holder = none → high < state.feed.deepest → state.feed.flow.held = true
  released : state.holder = none → state.waiting = 0 → state.feed.deepest < low →
    state.feed.flow.held = false
  /-- No depth that was read is above the largest that was found. -/
  read : ∀ place most, state.holder = some (.reading place most) →
    ∀ s ∈ state.feed.subscriptions.take place, s.depth ≤ most
  /-- What was found is still there, unless somebody has counted a batch. -/
  found : ∀ place most, state.holder = some (.reading place most) → state.waiting = 0 →
    most ≤ state.feed.deepest

namespace Obeys

variable {high low : Nat} {state : Contention}

/-- The lock is taken or kept, and no depths are read. -/
theorem busy (obeys : Obeys high low state) {subscriptions : List Subscription} {holder : Holder}
    (serves : ∀ s ∈ subscriptions, s.registered = true)
    (other : ∀ place most, holder ≠ .reading place most) :
    Obeys high low { state with
      feed := { state.feed with subscriptions }, holder := some holder } where
  marks := obeys.marks
  opened := obeys.opened
  serves := serves
  held := nofun
  released := nofun
  read := fun place most reading => absurd (Option.some.inj reading) (other place most)
  found := fun place most reading => absurd (Option.some.inj reading) (other place most)

/-- The depths are read from the first on. -/
theorem start (obeys : Obeys high low state) {subscriptions : List Subscription} (waiting : Nat)
    (serves : ∀ s ∈ subscriptions, s.registered = true) :
    Obeys high low { state with
      feed := { state.feed with subscriptions }, holder := some (.reading 0 0), waiting } where
  marks := obeys.marks
  opened := obeys.opened
  serves := serves
  held := nofun
  released := nofun
  read := by
    intro place most reading s mem
    cases reading
    rw [List.take_zero] at mem
    cases mem
  found := by
    intro place most reading _
    cases reading
    exact Nat.zero_le _

/-- Depths fall without the lock only if somebody waits from then on. -/
theorem update (obeys : Obeys high low state) (id : SubscriptionId)
    {f : Subscription → Subscription} (registered : ∀ s, (f s).registered = s.registered)
    (falls : ∀ s, (f s).depth ≤ s.depth) {uncounted : List SubscriptionId} {waiting : Nat}
    (waits : waiting = 0 → state.waiting = 0 ∧ ∀ s, (f s).depth = s.depth) :
    Obeys high low { state with feed := state.feed.update id f, uncounted, waiting } := by
  have deepest_falls : (state.feed.update id f).deepest ≤ state.feed.deepest :=
    EventFeed.deepest_update_le obeys.serves id falls
  have deepest_stays (none : waiting = 0) :
      (state.feed.update id f).deepest = state.feed.deepest :=
    EventFeed.deepest_of_depths (EventFeed.depths_update id (waits none).2 registered)
  constructor
  · exact obeys.marks
  · exact obeys.opened
  · exact obeys.serves.update id registered
  · intro free high
    exact obeys.held free (Nat.lt_of_lt_of_le high deepest_falls)
  · intro free none low
    rw [deepest_stays none] at low
    exact obeys.released free (waits none).1 low
  · -- What was read has only fallen since.
    intro place most reading s mem
    have mem : s ∈ (state.feed.subscriptions.map _).take place := mem
    rw [← List.map_take] at mem
    obtain ⟨old, known, rfl⟩ := List.mem_map.mp mem
    have before := obeys.read place most reading old known
    split
    · exact (falls old).trans before
    · exact before
  · intro place most reading none
    have found := obeys.found place most reading (waits none).1
    rwa [← deepest_stays none] at found

theorem alter (obeys : Obeys high low state) (place : Nat) {f : Subscription → Subscription}
    (registered : ∀ s, (f s).registered = s.registered) :
    ∀ s ∈ (state.alter place f).feed.subscriptions, s.registered = true := by
  intro s mem
  obtain ⟨k, found⟩ := List.mem_iff_getElem?.mp mem
  rw [Contention.alter, List.getElem?_modify] at found
  obtain ⟨old, known, rfl⟩ := Option.map_eq_some_iff.mp found
  have before := obeys.serves old (List.mem_of_getElem? known)
  by_cases here : place = k
  · simpa [here, registered] using before
  · simpa [here] using before

theorem proceed (ordered : low < high) (obeys : Obeys high low state) {holder : Holder}
    (holds : state.holder = some holder) : Obeys high low (state.proceed holder) := by
  cases holder with
  | raising batch place =>
    rw [Contention.proceed]
    split
    · exact obeys.busy (obeys.alter place fun _ => rfl) (by simp)
    · exact obeys.start state.waiting obeys.serves
  | sending batch place => exact obeys.busy (obeys.alter place fun _ => rfl) (by simp)
  | reading place most =>
    have read := obeys.read place most holds
    have found := obeys.found place most holds
    rw [Contention.proceed]
    split
    · next s here =>
      -- One more depth is read, which joins those that are not above what was found.
      have mem := List.mem_of_getElem? here
      have depth := EventFeed.depth_le_deepest mem (obeys.serves s mem)
      refine ⟨obeys.marks, obeys.opened, obeys.serves, nofun, nofun, ?_, ?_⟩
      · intro place' most' reading t mem
        cases reading
        rw [List.take_add_one, here, Option.toList_some] at mem
        obtain old | new := List.mem_append.mp mem
        · exact (read t old).trans (Nat.le_max_left _ _)
        · rw [List.mem_singleton.mp new]
          exact Nat.le_max_right _ _
      · intro place' most' reading none
        cases reading
        exact Nat.max_le.mpr ⟨found none, depth⟩
    · next last =>
      -- All depths have been read, so what was found decides.
      rw [List.take_of_length_le (List.getElem?_eq_none_iff.mp last)] at read
      have most_deepest := EventFeed.deepest_le read
      obtain ⟨highMark, lowMark⟩ := obeys.marks
      refine ⟨?_, obeys.opened, obeys.serves, ?_, ?_, nofun, nofun⟩
      · exact ⟨FlowControl.marks_onDepth.1.trans highMark,
          FlowControl.marks_onDepth.2.trans lowMark⟩
      · intro _ high
        have high : state.feed.flow.high < state.feed.deepest := highMark ▸ high
        exact FlowControl.held_onDepth_of_gt (high.trans_le most_deepest)
      · intro _ none low
        have low : state.feed.deepest < state.feed.flow.low := lowMark ▸ low
        exact FlowControl.held_onDepth_of_lt (by omega) ((found none).trans_lt low)

theorem enter (obeys : Obeys high low state) (free : state.holder = none)
    (move : ContentionMove) : Obeys high low (state.enter move) := by
  cases move with
  | subscribe =>
    refine ⟨obeys.marks, obeys.opened, obeys.serves.subscribe obeys.opened, ?_, ?_, ?_, ?_⟩
    · intro _ deep
      rw [Contention.enter, EventFeed.deepest_subscribe] at deep
      exact obeys.held free deep
    · intro _ none shallow
      rw [Contention.enter, EventFeed.deepest_subscribe] at shallow
      exact obeys.released free none shallow
    · intro place most reading
      cases free.symm.trans reading
    · intro place most reading
      cases free.symm.trans reading
  | publish batch => exact obeys.busy obeys.serves (by simp)
  | drop id =>
    rw [Contention.enter]
    split
    · exact obeys.start state.waiting fun s mem => obeys.serves s (List.mem_filter.mp mem).1
    · exact obeys
  | judge =>
    rw [Contention.enter]
    split
    · exact obeys
    · exact obeys.start (state.waiting - 1) obeys.serves
  | _ => exact obeys

theorem step (ordered : low < high) (obeys : Obeys high low state) (move : ContentionMove) :
    Obeys high low (state.step move) := by
  have taken (move : ContentionMove) :
      Obeys high low (if state.holder.isSome then state else state.enter move) := by
    split
    · exact obeys
    · next free => exact obeys.enter (by simpa using free) move
  cases move with
  | proceed =>
    rw [Contention.step]
    split
    · next holder holds => exact obeys.proceed ordered holds
    · exact obeys
  | receive id =>
    rw [Contention.step]
    obtain same | ⟨rest, changed⟩ := state.feed.pop_eq id
    · rw [same]
      exact ⟨obeys.marks, obeys.opened, obeys.serves, obeys.held, obeys.released, obeys.read,
        obeys.found⟩
    · rw [changed]
      exact obeys.update id (f := fun s => { s with queue := rest }) (fun _ => rfl)
        (fun _ => Nat.le_refl _) fun none => ⟨none, fun _ => rfl⟩
  | count id =>
    rw [Contention.step]
    split
    · exact obeys.update id (f := fun s => { s with depth := s.depth - 1 }) (fun _ => rfl)
        (fun s => Nat.sub_le _ _) nofun
    · exact obeys
  | _ => exact taken _

theorem run (ordered : low < high) (obeys : Obeys high low state) (moves : List ContentionMove) :
    Obeys high low (state.run moves) := by
  induction moves generalizing state with
  | nil => exact obeys
  | cons move moves ih => exact ih (obeys.step ordered move)

end Obeys

/-- However publishers and readers come one between the other. -/
theorem obeys_run {high low : Nat} (ordered : low < high) (moves : List ContentionMove) :
    Obeys high low (run { feed := { flow := { high, low } } } moves) := by
  refine Obeys.run ordered ?_ moves
  refine ⟨⟨rfl, rfl⟩, rfl, nofun, fun _ deep => ?_, fun _ _ _ => rfl, nofun, nofun⟩
  exact absurd deep (Nat.not_lt_zero _)

end Contention

end DebugLink
