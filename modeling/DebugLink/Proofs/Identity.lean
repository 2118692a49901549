import DebugLink.Proofs.Lending
import DebugLink.Proofs.Tracking
import Mathlib.Data.Finset.Card
import Mathlib.Data.List.Nodup

/-!
# Identity: one lease on an object

The last clone of a lease goes away in one step, and its object is forgotten in another. Between the
two the object's id may be taken in again, any number of times, so the table may have an entry that
leads nowhere while a piece of work waits to remove it, and such a piece may find the entry of a
later lease instead. `TableStep` lists what a deed does to the table of leases before the connection
is dead. With it every entry is accounted for: it leads to a live lease, or a piece of work waits to
forget its object (`World.Leased`).

Main statement: `World.one_lease`.
-/

namespace DebugLink

namespace LeaseTable

variable {table : LeaseTable} {object : ObjectId} {id : LeaseId}

/-! ## Entries by object -/

/-- There is at most one entry for an object. -/
def Keyed (table : LeaseTable) : Prop :=
  (table.entries.map (·.1)).Nodup

theorem Keyed.lookup (keyed : table.Keyed) {entry : ObjectId × LeaseId}
    (mem : entry ∈ table.entries) : table.entries.lookup entry.1 = some entry.2 := by
  obtain ⟨before, after, split⟩ := List.append_of_mem mem
  refine List.lookup_eq_some_iff.mpr ⟨before, after, split, fun other earlier => ?_⟩
  rw [Keyed, split, List.map_append, List.nodup_append] at keyed
  have differs := keyed.2.2 other.1 (List.mem_map_of_mem earlier) entry.1 (by simp)
  simpa using differs.symm

theorem Keyed.forget (keyed : table.Keyed) (object : ObjectId) :
    ((table.entries.filter (·.1 != object)).map (·.1)).Nodup :=
  (List.filter_sublist.map _).nodup keyed

theorem Keyed.enter (keyed : table.Keyed) (object : ObjectId) (id : LeaseId) :
    (table.enter object id).Keyed := by
  refine List.nodup_cons.mpr ⟨fun mem => ?_, keyed.forget object⟩
  obtain ⟨entry, kept, same⟩ := List.mem_map.mp mem
  have differs := (List.mem_filter.mp kept).2
  simp [same] at differs

/-! ## The object of a lease -/

/-- The live leases, each with the object it is on. -/
def tenancies (table : LeaseTable) : List (LeaseId × ObjectId) :=
  table.live.map fun lease => (lease.id, lease.object)

theorem mem_tenancies : (id, object) ∈ table.tenancies ↔
    ∃ lease ∈ table.live, lease.id = id ∧ lease.object = object := by
  simp [tenancies]

theorem Tracked.tenancy_inj (tracked : table.Tracked) {other : ObjectId}
    (live : (id, object) ∈ table.tenancies) (live' : (id, other) ∈ table.tenancies) :
    object = other := by
  obtain ⟨lease, mem, same, rfl⟩ := mem_tenancies.mp live
  obtain ⟨lease', mem', same', rfl⟩ := mem_tenancies.mp live'
  rw [List.inj_on_of_nodup_map tracked.nodup mem mem' (same.trans same'.symm)]

theorem tenancies_update {f : Lease → Lease} (ids : ∀ lease, (f lease).id = lease.id)
    (objects : ∀ lease, (f lease).object = lease.object) :
    (table.update id f).tenancies = table.tenancies := by
  simp only [tenancies, LeaseTable.update, List.map_map]
  refine List.map_congr_left fun lease _ => ?_
  by_cases same : lease.id = id <;> simp [same, ids, objects]

/-- Clones change neither the entries nor what the leases are on. -/
theorem clones_aside (ids : List LeaseId) :
    (ids.foldl LeaseTable.clone table).entries = table.entries ∧
      (ids.foldl LeaseTable.clone table).next = table.next ∧
      (ids.foldl LeaseTable.clone table).tenancies = table.tenancies := by
  induction ids generalizing table with
  | nil => exact ⟨rfl, rfl, rfl⟩
  | cons id ids ih =>
    obtain ⟨entries, next, tenancies⟩ := @ih (table.clone id)
    exact ⟨entries, next, tenancies.trans (tenancies_update (fun _ => rfl) fun _ => rfl)⟩

theorem drop_aside (id : LeaseId) :
    (table.drop id).2.entries = table.entries ∧ (table.drop id).2.next = table.next := by
  unfold LeaseTable.drop
  split
  · exact ⟨rfl, rfl⟩
  · split <;> exact ⟨rfl, rfl⟩

theorem tenancies_drop_subset (id : LeaseId) :
    (table.drop id).2.tenancies ⊆ table.tenancies := by
  unfold LeaseTable.drop
  split
  · exact List.Subset.refl _
  · split
    · exact List.map_subset _ List.filter_sublist.subset
    · rw [tenancies_update]
      · exact List.Subset.refl _
      · exact fun _ => rfl
      · exact fun _ => rfl

/-- When a clone is dropped, a lease stays on its object or is the one that goes. -/
theorem Tracked.mem_tenancies_drop (tracked : table.Tracked) (dropped : LeaseId)
    (live : (id, object) ∈ table.tenancies) :
    (id, object) ∈ (table.drop dropped).2.tenancies ∨
      ∃ gone, (table.drop dropped).1 = some gone ∧ gone.object = object := by
  cases found : table.lease? dropped with
  | none =>
    rw [LeaseTable.drop, found]
    exact .inl live
  | some lease =>
    obtain ⟨mem, rfl⟩ := (lease?_eq_some_iff tracked.nodup).mp found
    simp only [LeaseTable.drop, found]
    split
    · by_cases same : lease.id = id
      · subst same
        exact .inr ⟨lease, rfl, tracked.tenancy_inj (mem_tenancies.mpr ⟨lease, mem, rfl, rfl⟩) live⟩
      · obtain ⟨holder, mem', rfl, rfl⟩ := mem_tenancies.mp live
        refine .inl (mem_tenancies.mpr ⟨holder, List.mem_filter.mpr ⟨mem', ?_⟩, rfl, rfl⟩)
        simpa using Ne.symm same
    · left
      rw [tenancies_update]
      · exact live
      · exact fun _ => rfl
      · exact fun _ => rfl

/-- An id is taken in for the live lease on the object, or for a new one. -/
theorem Tracked.acquire_cases (tracked : table.Tracked) (named : object ≠ 0) :
    (∃ id, (table.acquire object).1 = some id ∧ (id, object) ∈ table.tenancies ∧
      (table.acquire object).2.entries = table.entries ∧
      (table.acquire object).2.next = table.next ∧
      (table.acquire object).2.tenancies = table.tenancies) ∨
    (table.acquire object).1 = some table.next ∧
      (table.acquire object).2.entries = (table.enter object table.next).entries ∧
      (table.acquire object).2.next = table.next + 1 ∧
      (table.acquire object).2.tenancies = table.tenancies ++ [(table.next, object)] := by
  cases known : table.known? object with
  | some lease =>
    obtain ⟨live, rfl⟩ := tracked.known?_eq_some_iff.mp known
    refine .inl ⟨lease.id, ?_, mem_tenancies.mpr ⟨lease, live, rfl, rfl⟩, ?_⟩
    · rw [LeaseTable.acquire, if_neg named, known]
    · rw [acquire_of_known named known]
      exact ⟨rfl, rfl, tenancies_update (fun _ => rfl) fun _ => rfl⟩
  | none =>
    refine .inr ⟨?_, ?_⟩
    · rw [LeaseTable.acquire, if_neg named, known]
    · rw [acquire_of_unknown named known]
      exact ⟨rfl, rfl, by simp [tenancies, first]⟩

/-- Pruning leaves of an object's entries only one that leads to a live lease. -/
theorem Tracked.mem_prune (tracked : table.Tracked) (keyed : table.Keyed)
    {entry : ObjectId × LeaseId} (mem : entry ∈ (table.prune object).entries)
    (same : entry.1 = object) : (entry.2, entry.1) ∈ table.tenancies := by
  unfold LeaseTable.prune at mem
  split at mem
  · next found =>
    obtain ⟨lease, known⟩ := Option.isSome_iff_exists.mp found
    obtain ⟨live, rfl⟩ := tracked.known?_eq_some_iff.mp known
    have entered := keyed.lookup mem
    rw [same, tracked.entered lease live] at entered
    exact mem_tenancies.mpr ⟨lease, live, Option.some.inj entered, same.symm⟩
  · have differs := (List.mem_filter.mp mem).2
    simp [same] at differs

theorem prune_aside (object : ObjectId) :
    (table.prune object).entries ⊆ table.entries ∧ (table.prune object).next = table.next ∧
      (table.prune object).tenancies = table.tenancies := by
  unfold LeaseTable.prune
  split
  · exact ⟨List.Subset.refl _, rfl, rfl⟩
  · exact ⟨List.filter_sublist.subset, rfl, rfl⟩

/-- The leases that were handed out for objects: each is on its object as long as it lives, and no
other leases are live. -/
structure Handed (table : LeaseTable) (given : ObjectId → LeaseId → Prop) : Prop where
  below : ∀ {object id}, given object id → id < table.next
  on : ∀ {object id other}, given object id → (id, other) ∈ table.tenancies → other = object
  covers : ∀ {id object}, (id, object) ∈ table.tenancies → given object id

namespace Handed

variable {after : LeaseTable} {given : ObjectId → LeaseId → Prop}

/-- A live lease is handed out again. -/
theorem again (handed : table.Handed given) (live : (id, object) ∈ table.tenancies)
    (next : after.next = table.next) (tenancies : after.tenancies = table.tenancies) :
    after.Handed fun object' id' => given object' id' ∨ object' = object ∧ id' = id := by
  refine ⟨?_, ?_, fun live' => .inl (handed.covers (tenancies ▸ live'))⟩
  · rintro _ _ (mem | ⟨rfl, rfl⟩)
    · exact next ▸ handed.below mem
    · exact next ▸ handed.below (handed.covers live)
  · rintro _ _ _ (mem | ⟨rfl, rfl⟩) live'
    · exact handed.on mem (tenancies ▸ live')
    · exact handed.on (handed.covers live) (tenancies ▸ live')

/-- A new lease is handed out. Its number is not that of any lease before. -/
theorem anew (handed : table.Handed given) (next : after.next = table.next + 1)
    (tenancies : after.tenancies = table.tenancies ++ [(table.next, object)]) :
    after.Handed fun object' id' => given object' id' ∨ object' = object ∧ id' = table.next := by
  refine ⟨?_, ?_, fun live => ?_⟩
  · rintro _ _ (mem | ⟨rfl, rfl⟩)
    · exact next ▸ Nat.lt_succ_of_lt (handed.below mem)
    · exact next ▸ Nat.lt_succ_self _
  · rintro _ _ _ (mem | ⟨rfl, rfl⟩) live
    · rw [tenancies] at live
      obtain old | last := List.mem_append.mp live
      · exact handed.on mem old
      · obtain ⟨rfl, rfl⟩ := Prod.mk.inj (List.mem_singleton.mp last)
        exact absurd (handed.below mem) (Nat.lt_irrefl _)
    · rw [tenancies] at live
      obtain old | last := List.mem_append.mp live
      · exact absurd (handed.below (handed.covers old)) (Nat.lt_irrefl _)
      · exact (Prod.mk.inj (List.mem_singleton.mp last)).2
  · rw [tenancies] at live
    obtain old | last := List.mem_append.mp live
    · exact .inl (handed.covers old)
    · obtain ⟨rfl, rfl⟩ := Prod.mk.inj (List.mem_singleton.mp last)
      exact .inr ⟨rfl, rfl⟩

end Handed

end LeaseTable

/-! ## What a deed does to the table -/

/-- A piece of work waits to forget an object. -/
def Forgets (works : List Work) (object : ObjectId) : Prop :=
  ∃ retained, .reclaim object retained ∈ works

/-- What is done to the table of leases: pieces used up, what is recorded, pieces left behind, and
the table afterwards. -/
inductive TableStep (before : LeaseTable) :
    (used : List Work) → (entries : List Entry) → (left : List Work) → LeaseTable → Prop
  /-- At most clones are made. -/
  | aside {used left : List Work} {entries : List Entry} (ids : List LeaseId)
    (spent : ∀ object, ¬Forgets used object)
    (quiet : ∀ object lease, .acquired object lease ∉ entries) :
    TableStep before used entries left (ids.foldl LeaseTable.clone before)
  | acquire (object : ObjectId) :
    TableStep before [] [.acquired object (before.acquire object).1] [] (before.acquire object).2
  | drop (lease : LeaseId) :
    TableStep before [.release lease] [.performed (.release lease)]
      ((before.drop lease).1.map fun gone => .reclaim gone.object gone.retained).toList
      (before.drop lease).2
  | prune {left : List Work} (object : ObjectId) (retained : UInt32) :
    TableStep before [.reclaim object retained] [.performed (.reclaim object retained)] left
      (before.prune object)

namespace TableStep

variable {before after : LeaseTable} {used left : List Work} {entries : List Entry}

theorem tracked (step : TableStep before used entries left after) (tracked : before.Tracked) :
    after.Tracked := by
  cases step with
  | aside ids spent quiet => exact tracked.clone ids
  | acquire object => exact tracked.acquire object
  | drop lease => exact tracked.drop lease
  | prune object retained => exact tracked.prune object

theorem keyed (step : TableStep before used entries left after) (tracked : before.Tracked)
    (keyed : before.Keyed) : after.Keyed := by
  cases step with
  | aside ids spent quiet =>
    rw [LeaseTable.Keyed, (LeaseTable.clones_aside ids).1]
    exact keyed
  | acquire object =>
    by_cases named : object = 0
    · rw [LeaseTable.acquire, if_pos named]
      exact keyed
    · obtain ⟨_, _, _, same, _⟩ | ⟨_, new, _⟩ := tracked.acquire_cases named
      · rw [LeaseTable.Keyed, same]
        exact keyed
      · rw [LeaseTable.Keyed, new]
        exact keyed.enter object before.next
  | drop lease =>
    rw [LeaseTable.Keyed, (LeaseTable.drop_aside lease).1]
    exact keyed
  | prune object retained =>
    unfold LeaseTable.prune
    split
    · exact keyed
    · exact keyed.forget object

/-- An entry leads to a live lease, or was left behind by one that is gone. Only pruning uses up the
piece that waits for it. -/
theorem accounted (step : TableStep before used entries left after) (tracked : before.Tracked)
    (keyed : before.Keyed) {waits : ObjectId → Prop}
    (accounted : ∀ entry ∈ before.entries,
      (entry.2, entry.1) ∈ before.tenancies ∨ waits entry.1) :
    ∀ entry ∈ after.entries, (entry.2, entry.1) ∈ after.tenancies ∨
      waits entry.1 ∧ ¬Forgets used entry.1 ∨ Forgets left entry.1 := by
  cases step with
  | aside ids spent quiet =>
    obtain ⟨entries, -, tenancies⟩ := @LeaseTable.clones_aside before ids
    rw [entries, tenancies]
    exact fun entry mem => (accounted entry mem).imp_right fun waits => .inl ⟨waits, spent _⟩
  | acquire object =>
    have none (entry : ObjectId × LeaseId) : ¬Forgets [] entry.1 := by
      rintro ⟨_, mem⟩
      simp at mem
    by_cases named : object = 0
    · rw [LeaseTable.acquire, if_pos named]
      exact fun entry mem => (accounted entry mem).imp_right fun waits => .inl ⟨waits, none entry⟩
    · obtain ⟨_, _, _, entries, _, tenancies⟩ | ⟨_, entries, _, tenancies⟩ :=
        tracked.acquire_cases named
      · rw [entries, tenancies]
        exact fun entry mem => (accounted entry mem).imp_right fun waits => .inl ⟨waits, none entry⟩
      · rw [entries, tenancies]
        intro entry mem
        obtain rfl | old := List.mem_cons.mp mem
        · exact .inl (by simp)
        · obtain live | waits := accounted entry (List.mem_filter.mp old).1
          · exact .inl (List.mem_append_left _ live)
          · exact .inr (.inl ⟨waits, none entry⟩)
  | drop lease =>
    rw [(LeaseTable.drop_aside lease).1]
    intro entry mem
    obtain live | waits := accounted entry mem
    · obtain stays | ⟨gone, dropped, same⟩ := tracked.mem_tenancies_drop lease live
      · exact .inl stays
      · exact .inr (.inr ⟨gone.retained, by simp [dropped, same]⟩)
    · refine .inr (.inl ⟨waits, ?_⟩)
      rintro ⟨_, mem⟩
      simp at mem
  | prune object retained =>
    obtain ⟨fewer, -, tenancies⟩ := @LeaseTable.prune_aside before object
    rw [tenancies]
    intro entry mem
    by_cases same : entry.1 = object
    · exact .inl (tracked.mem_prune keyed mem same)
    · refine (accounted entry (fewer mem)).imp_right fun waits => .inl ⟨waits, ?_⟩
      rintro ⟨_, mem⟩
      simp [same] at mem

/-- Leases are handed out for the object they are on, and there are no others. -/
theorem handed (step : TableStep before used entries left after) (tracked : before.Tracked)
    {given : ObjectId → LeaseId → Prop} (handed : before.Handed given) :
    after.Handed fun object id => given object id ∨ .acquired object (some id) ∈ entries := by
  -- A step that records nothing makes no lease.
  have fewer (quiet : ∀ object id, .acquired object (some id) ∉ entries)
      (next : after.next = before.next) (subset : after.tenancies ⊆ before.tenancies) :
      after.Handed fun object id => given object id ∨ .acquired object (some id) ∈ entries := by
    refine ⟨fun mem => next ▸ handed.below (mem.resolve_right (quiet _ _)), ?_, ?_⟩
    · exact fun mem live => handed.on (mem.resolve_right (quiet _ _)) (subset live)
    · exact fun live => .inl (handed.covers (subset live))
  cases step with
  | aside ids spent quiet =>
    obtain ⟨-, next, tenancies⟩ := @LeaseTable.clones_aside before ids
    exact fewer (fun _ _ => quiet _ _) next (by rw [tenancies]; exact List.Subset.refl _)
  | drop lease =>
    exact fewer (by simp) (LeaseTable.drop_aside lease).2 (LeaseTable.tenancies_drop_subset lease)
  | prune object retained =>
    obtain ⟨-, next, tenancies⟩ := @LeaseTable.prune_aside before object
    exact fewer (by simp) next (by rw [tenancies]; exact List.Subset.refl _)
  | acquire object =>
    by_cases named : object = 0
    · rw [LeaseTable.acquire, if_pos named] at fewer ⊢
      exact fewer (by simp) rfl (List.Subset.refl _)
    · simp only [List.mem_singleton, Entry.acquired.injEq]
      obtain ⟨known, found, live, _, next, tenancies⟩ | ⟨new, _, next, tenancies⟩ :=
        tracked.acquire_cases named
      · simp only [found, Option.some.injEq]
        exact handed.again live next tenancies
      · simp only [new, Option.some.injEq]
        exact handed.anew next tenancies

end TableStep

namespace Connection

variable {connection : Connection}

theorem acquired_not_mem_issueEntries (command : Command) (data : Bytes) (object : ObjectId)
    (lease : Option LeaseId) : .acquired object lease ∉ connection.issueEntries command data := by
  intro mem
  simpa [Entry.light] using connection.light_issueEntries command data _ mem

theorem acquired_not_mem_workEntries (work : Work) (object : ObjectId) (lease : Option LeaseId) :
    .acquired object lease ∉ connection.workEntries work := by
  cases work with
  | dispose payload =>
    simpa [workEntries] using acquired_not_mem_issueEntries .disposeObjects payload object lease
  | disconnect =>
    simp only [workEntries]
    split <;> simp
  | _ => simp [workEntries]

end Connection

variable {engine : Engine} {used left : List Work} {entries : List Entry} {after : Connection}

/-- What a piece of work does to the table of leases, if it does not bring the end. -/
theorem tableStep_perform (work : Work)
    (live : (engine.connection.perform work).2.dead = false) :
    TableStep engine.connection.leases [work] (engine.connection.workEntries work)
      (engine.connection.perform work).1 (engine.connection.perform work).2.leases := by
  -- Most pieces leave the leases alone.
  have aside {left : List Work} {leases : LeaseTable} (same : leases = engine.connection.leases)
      (spent : ∀ object retained, work ≠ .reclaim object retained) :
      TableStep engine.connection.leases [work] (engine.connection.workEntries work) left
        leases := by
    rw [same]
    refine .aside [] ?_ (Connection.acquired_not_mem_workEntries work)
    rintro object ⟨retained, mem⟩
    exact spent object retained (List.mem_singleton.mp mem).symm
  cases work with
  | replied reply => exact aside (engine.connection.lends_replied reply).leases (by simp)
  | abandon id failure => exact aside (engine.connection.lends_abandon id failure).leases (by simp)
  | suspended => exact aside engine.connection.lends_suspended.leases (by simp)
  | release lease =>
    rw [Connection.perform_release]
    exact .drop lease
  | reclaim object retained =>
    have pruned : (engine.connection.perform (.reclaim object retained)).2.leases =
        engine.connection.leases.prune object := by
      simp only [Connection.perform, Connection.reclaim]
      split <;> rfl
    rw [pruned]
    exact .prune object retained
  | flush =>
    refine aside ?_ (by simp)
    simp only [Connection.perform]
    split <;> rfl
  | sendBatch counts =>
    refine aside ?_ (by simp)
    simp only [Connection.perform]
    split <;> rfl
  | dispose payload =>
    exact aside (engine.connection.lends_issue .disposeObjects payload).leases (by simp)
  | close =>
    refine aside ?_ (by simp)
    simp only [Connection.perform]
    split <;> rfl
  | disconnect =>
    rw [World.dead_perform_disconnect] at live
    cases live
  | _ => exact aside rfl (by simp)

/-- What every deed does to the table of leases, if it does not bring the end. -/
theorem Deed.tableStep (deed : Deed engine used entries left after) (live : after.dead = false) :
    TableStep engine.connection.leases used entries left after.leases := by
  have aside {left : List Work} {entries : List Entry} {leases : LeaseTable} (ids : List LeaseId)
      (same : leases = ids.foldl LeaseTable.clone engine.connection.leases)
      (quiet : ∀ object lease, .acquired object lease ∉ entries) :
      TableStep engine.connection.leases [] entries left leases := by
    rw [same]
    exact .aside ids (fun _ ⟨_, mem⟩ => by simp at mem) quiet
  have plain {entries : List Entry} (plain : ∀ entry ∈ entries, entry.plain) (object : ObjectId)
      (lease : Option LeaseId) : .acquired object lease ∉ entries :=
    fun mem => by simpa [Entry.plain] using plain _ mem
  cases deed with
  | perform work => exact tableStep_perform work live
  | issue command data notices =>
    have lends := Connection.lends_issue { engine.connection with notices } command data
    exact aside [] lends.leases (Connection.acquired_not_mem_issueEntries command data)
  | adopt notices idSizes handles feed quiet arrive => exact aside [] rfl (plain quiet)
  | fail failure notices writing => exact aside [] rfl (by simp)
  | @take message rest notices receiving first =>
    exact aside [] rfl (by cases message <;> simp [Message.entries])
  | drain draining idle => exact aside [] rfl (by simp)
  | cloneAll ids quiet => exact aside ids rfl (plain quiet)
  | acquire object => exact .acquire object
  | probe => exact aside [] engine.connection.lends_probe.leases (by simp)
  | store n key stamp value =>
    exact aside value.owned (engine.connection.lends_store key stamp value).leases (by simp)
  | invalidate => exact aside [] engine.connection.lends_invalidate.leases (by simp)

/-! ## Whole runs -/

namespace World

variable {config : Config} {moves : List Move} {world world' : World}

/-- The table of leases is in order: it leads to every live lease, every entry leads to one or is
about to be forgotten, and the live leases are those that were handed out. -/
structure Leased (world : World) : Prop where
  tracked : world.connection.leases.Tracked
  keyed : world.connection.leases.Keyed
  accounted : ∀ entry ∈ world.connection.leases.entries,
    (entry.2, entry.1) ∈ world.connection.leases.tenancies ∨ Forgets world.works entry.1
  handed : world.connection.leases.Handed fun object id =>
    .acquired object (some id) ∈ world.journal

theorem leased_ofConfig (config : Config) : Leased (ofConfig config) where
  tracked := by
    refine ⟨?_, List.nodup_nil, ?_, ?_, ?_, ?_⟩
    all_goals exact fun _ mem => absurd mem List.not_mem_nil
  keyed := List.nodup_nil
  accounted := fun _ mem => absurd mem List.not_mem_nil
  handed := by
    refine ⟨fun mem => absurd mem List.not_mem_nil, fun mem => absurd mem List.not_mem_nil, ?_⟩
    exact fun mem => absurd mem List.not_mem_nil

theorem Leased.step (leased : Leased world) (does : Does world world')
    (live : world'.connection.dead = false) : Leased world' := by
  obtain ⟨used, entries, left, deed, journal, replaced⟩ := does
  obtain ⟨earlier, later, before, after⟩ := replaced.works
  have step := deed.tableStep live
  refine ⟨step.tracked leased.tracked, step.keyed leased.tracked leased.keyed, ?_, ?_⟩
  · intro entry mem
    rw [after]
    refine (step.accounted leased.tracked leased.keyed leased.accounted entry mem).imp_right ?_
    rintro (⟨⟨retained, waits⟩, stays⟩ | ⟨retained, waits⟩)
    · rw [before] at waits
      refine ⟨retained, ?_⟩
      simp only [List.mem_append] at waits ⊢
      obtain (waits | spent) | waits := waits
      · exact .inl (.inl waits)
      · exact absurd ⟨retained, spent⟩ stays
      · exact .inr waits
    · exact ⟨retained, List.mem_append_left _ (List.mem_append_right _ waits)⟩
  · rw [journal]
    simp only [List.mem_append]
    exact step.handed leased.tracked leased.handed

theorem leased_play (config : Config) (moves : List Move)
    (live : (play config moves).connection.dead = false) : Leased (play config moves) := by
  induction moves using List.reverseRecOn with
  | nil => exact leased_ofConfig config
  | append_singleton moves move ih =>
    rw [play_append] at live ⊢
    have earlier : (play config moves).connection.dead = false :=
      Bool.eq_false_iff.mpr fun dead => by
        simp [(turns_play config moves move).dead dead] at live
    exact (ih earlier).step (does_step (tidy_play config moves) move) live

/-- A lease that was handed out for an object and is still live. -/
def Handle (world : World) (object : ObjectId) (id : LeaseId) : Prop :=
  .acquired object (some id) ∈ world.journal ∧
    ∃ lease ∈ world.connection.leases.live, lease.id = id

/-- Until a connection is dead, there is at most one live lease on an object. All handles of an
object that are still good are of that one lease, and it is the one that the table knows. When no
object waits to be forgotten, the table has as many entries as there are objects with a live
lease. -/
theorem one_lease (config : Config) (moves : List Move)
    (live : (play config moves).connection.dead = false) :
    let world := play config moves
    let leases := world.connection.leases
    (∀ lease ∈ leases.live, ∀ other ∈ leases.live, lease.object = other.object → lease = other) ∧
    (∀ object id other, world.Handle object id → world.Handle object other → id = other) ∧
    (∀ lease ∈ leases.live, leases.known? lease.object = some lease) ∧
    ((∀ object, ¬Forgets world.works object) →
      leases.size = (leases.live.map (·.object)).toFinset.card) := by
  intro world leases
  obtain ⟨tracked, keyed, accounted, handed⟩ := leased_play config moves live
  have known (lease : Lease) (mem : lease ∈ leases.live) :
      leases.known? lease.object = some lease :=
    tracked.known?_eq_some_iff.mpr ⟨mem, rfl⟩
  have unique (lease : Lease) (mem : lease ∈ leases.live) (other : Lease)
      (mem' : other ∈ leases.live) (same : lease.object = other.object) : lease = other := by
    have found := known lease mem
    rw [same, known other mem'] at found
    exact (Option.some.inj found).symm
  refine ⟨unique, ?_, known, fun settled => ?_⟩
  · rintro object id other ⟨given, lease, mem, rfl⟩ ⟨given', lease', mem', rfl⟩
    have on := handed.on given (LeaseTable.mem_tenancies.mpr ⟨lease, mem, rfl, rfl⟩)
    have on' := handed.on given' (LeaseTable.mem_tenancies.mpr ⟨lease', mem', rfl, rfl⟩)
    rw [unique lease mem lease' mem' (on.trans on'.symm)]
  · have objects : (leases.entries.map (·.1)).toFinset =
        (leases.live.map (·.object)).toFinset := by
      ext object
      simp only [List.mem_toFinset, List.mem_map]
      constructor
      · rintro ⟨entry, mem, rfl⟩
        have leads := (accounted entry mem).resolve_right (settled entry.1)
        obtain ⟨lease, mem, -, on⟩ := LeaseTable.mem_tenancies.mp leads
        exact ⟨lease, mem, on⟩
      · rintro ⟨lease, mem, rfl⟩
        obtain ⟨before, after, split, -⟩ :=
          List.lookup_eq_some_iff.mp (tracked.entered lease mem)
        exact ⟨(lease.object, lease.id), by rw [split]; simp, rfl⟩
    rw [← objects, List.toFinset_card_of_nodup keyed, List.length_map]
    rfl

/-- Twice the last clone of a lease is dropped and the id is taken in again before that is accounted
for. Then the two gone leases are, the later one first. -/
def renewed : List Move :=
  [.start (.acquire 7), .start (.dropLease 0), .advance 1 .task, .start (.acquire 7),
    .start (.dropLease 1), .advance 3 .task, .start (.acquire 7), .advance 3 .task,
    .advance 1 .task]

theorem one_lease_renewed :
    let world := play {} renewed
    world.connection.dead = false ∧ world.Handle 7 2 ∧
      (∀ id, world.Handle 7 id → id = 2) ∧
      world.connection.leases.known? 7 = some ⟨2, 7, 1, 1⟩ ∧
      (∀ object, ¬Forgets world.works object) ∧
      world.connection.leases.size = ([7] : List ObjectId).toFinset.card := by
  intro world
  have live : world.connection.dead = false := rfl
  obtain ⟨-, same, known, size⟩ := one_lease {} renewed live
  have handed : world.journal[4]? = some (.acquired 7 (some 2)) := rfl
  have handle : world.Handle 7 2 :=
    ⟨List.mem_of_getElem? handed, ⟨2, 7, 1, 1⟩, List.mem_singleton_self _, rfl⟩
  have works : world.works = [.queueDisposal 7 1, .queueDisposal 7 1] := rfl
  have settled : ∀ object, ¬Forgets world.works object := by
    rintro object ⟨retained, mem⟩
    simp [works] at mem
  exact ⟨live, handle, fun id other => same 7 id 2 other handle,
    known ⟨2, 7, 1, 1⟩ (List.mem_singleton_self _), settled, size settled⟩

end World

end DebugLink
