import DebugLink.Lease
import Mathlib.Data.List.Nodup

/-!
# Tracking: the table of leases knows every live lease

`Tracked` says that the table leads to every live lease by the object it is on, and to no other. So
there is at most one live lease on an object, and it is the one the table knows
(`known?_eq_some_iff`). Taking an id in, cloning, dropping and pruning keep that, and how often an
object's id was received for its live lease (`held`) changes only with the first and the last clone
and when the id is received again. So there is no lease whose id was never received (`Received`), as
long as the counts do not overflow.
-/

namespace DebugLink

namespace LeaseTable

variable {table : LeaseTable} {object : ObjectId} {lease : Lease}

/-- The table leads to every live lease by the object it is on, and to no other. -/
structure Tracked (table : LeaseTable) : Prop where
  fresh : ∀ lease ∈ table.live, lease.id < table.next
  nodup : (table.live.map (·.id)).Nodup
  named : ∀ lease ∈ table.live, lease.object ≠ 0
  entered : ∀ lease ∈ table.live, table.entries.lookup lease.object = some lease.id
  used : ∀ entry ∈ table.entries, entry.2 < table.next
  sound : ∀ entry ∈ table.entries, ∀ lease ∈ table.live, lease.id = entry.2 →
    lease.object = entry.1

/-- How often an object's id was received for its live lease. -/
def held (table : LeaseTable) (object : ObjectId) : Nat :=
  ((table.known? object).map (·.retained.toNat)).getD 0

theorem lease?_eq_some_iff (nodup : (table.live.map (·.id)).Nodup) {id : LeaseId} :
    table.lease? id = some lease ↔ lease ∈ table.live ∧ lease.id = id := by
  constructor
  · intro found
    exact ⟨List.mem_of_find?_eq_some found, by simpa using List.find?_some found⟩
  · rintro ⟨mem, rfl⟩
    cases found : table.lease? lease.id with
    | none => simpa using List.find?_eq_none.mp found lease mem
    | some other =>
      have same : other.id = lease.id := by simpa using List.find?_some found
      rw [List.inj_on_of_nodup_map nodup (List.mem_of_find?_eq_some found) mem same]

namespace Tracked

/-- The table knows just the live lease on an object. -/
theorem known?_eq_some_iff (tracked : table.Tracked) :
    table.known? object = some lease ↔ lease ∈ table.live ∧ lease.object = object := by
  simp only [known?, Option.bind_eq_some_iff, lease?_eq_some_iff tracked.nodup]
  constructor
  · rintro ⟨id, entered, mem, rfl⟩
    obtain ⟨before, after, eq, -⟩ := List.lookup_eq_some_iff.mp entered
    exact ⟨mem, tracked.sound (object, lease.id) (by rw [eq]; simp) lease mem rfl⟩
  · rintro ⟨mem, rfl⟩
    exact ⟨lease.id, tracked.entered lease mem, mem, rfl⟩

theorem known?_eq_none_iff (tracked : table.Tracked) :
    table.known? object = none ↔ ∀ lease ∈ table.live, lease.object ≠ object := by
  rw [Option.eq_none_iff_forall_not_mem]
  simp only [Option.mem_def, tracked.known?_eq_some_iff, not_and]

/-- What the table knows of an object depends on nothing but its live leases. -/
theorem known?_congr {table' : LeaseTable} (tracked : table.Tracked) (tracked' : table'.Tracked)
    (same : ∀ lease, lease.object = object → (lease ∈ table'.live ↔ lease ∈ table.live)) :
    table'.known? object = table.known? object := by
  apply Option.ext
  intro lease
  rw [tracked'.known?_eq_some_iff, tracked.known?_eq_some_iff]
  exact and_congr_left fun on => same lease on

theorem held_congr {table' : LeaseTable} (tracked : table.Tracked) (tracked' : table'.Tracked)
    (same : ∀ lease, lease.object = object → (lease ∈ table'.live ↔ lease ∈ table.live)) :
    table'.held object = table.held object := by
  rw [held, held, tracked.known?_congr tracked' same]

theorem held_of_live (tracked : table.Tracked) (live : lease ∈ table.live) :
    table.held lease.object = lease.retained.toNat := by
  rw [held, tracked.known?_eq_some_iff.mpr ⟨live, rfl⟩]
  rfl

theorem held_of_known (known : table.known? object = none) : table.held object = 0 := by
  rw [held, known]
  rfl

theorem held_le (tracked : table.Tracked) {most : Nat}
    (small : ∀ lease ∈ table.live, lease.retained.toNat ≤ most) (object : ObjectId) :
    table.held object ≤ most := by
  cases known : table.known? object with
  | none => simp [held, known]
  | some lease =>
    obtain ⟨live, rfl⟩ := tracked.known?_eq_some_iff.mp known
    exact tracked.held_of_live live ▸ small lease live

end Tracked

/-! ## Changing a lease -/

/-- A change of one lease that leaves it where it is. -/
def revise (id : LeaseId) (f : Lease → Lease) (lease : Lease) : Lease :=
  if lease.id = id then f lease else lease

variable {id : LeaseId} {f : Lease → Lease}

theorem known?_update (ids : ∀ lease, (f lease).id = lease.id) :
    (table.update id f).known? object = (table.known? object).map (revise id f) := by
  have same (lease : Lease) : (revise id f lease).id = lease.id := by
    unfold revise
    split
    · exact ids lease
    · rfl
  have lease? (id' : LeaseId) :
      (table.update id f).lease? id' = (table.lease? id').map (revise id f) := by
    show (table.live.map (revise id f)).find? _ = _
    rw [List.find?_map]
    simp only [LeaseTable.lease?, Function.comp_def, same]
  show (table.entries.lookup object).bind (table.update id f).lease? = _
  cases entered : table.entries.lookup object with
  | none => simp [known?, entered]
  | some id' => simp [known?, entered, lease?]

namespace Tracked

theorem update (tracked : table.Tracked) (ids : ∀ lease, (f lease).id = lease.id)
    (objects : ∀ lease, (f lease).object = lease.object) : (table.update id f).Tracked := by
  have live : (table.update id f).live = table.live.map (revise id f) := rfl
  have id_revise (lease : Lease) : (revise id f lease).id = lease.id := by
    unfold revise
    split
    · exact ids lease
    · rfl
  have object_revise (lease : Lease) : (revise id f lease).object = lease.object := by
    unfold revise
    split
    · exact objects lease
    · rfl
  constructor
  · simp only [live, List.forall_mem_map, id_revise]
    exact tracked.fresh
  · rw [live, List.map_map]
    simpa only [Function.comp_def, id_revise] using tracked.nodup
  · simp only [live, List.forall_mem_map, object_revise]
    exact tracked.named
  · simp only [live, List.forall_mem_map, id_revise, object_revise]
    exact tracked.entered
  · exact tracked.used
  · simp only [live, List.forall_mem_map, id_revise, object_revise]
    exact tracked.sound

theorem clone (tracked : table.Tracked) (ids : List LeaseId) :
    (ids.foldl LeaseTable.clone table).Tracked := by
  induction ids generalizing table with
  | nil => exact tracked
  | cons id ids ih => exact ih (tracked.update (fun _ => rfl) fun _ => rfl)

end Tracked

theorem held_update (ids : ∀ lease, (f lease).id = lease.id)
    (retained : ∀ lease, (f lease).retained = lease.retained) :
    (table.update id f).held object = table.held object := by
  have same (lease : Lease) : (revise id f lease).retained = lease.retained := by
    unfold revise
    split
    · exact retained lease
    · rfl
  rw [held, known?_update ids, Option.map_map, held]
  simp only [Function.comp_def, same]

theorem held_clone (ids : List LeaseId) :
    (ids.foldl LeaseTable.clone table).held object = table.held object := by
  induction ids generalizing table with
  | nil => rfl
  | cons id ids ih => exact ih.trans (held_update (fun _ => rfl) fun _ => rfl)

/-! ## Taking an id in -/

/-- Removing an object's entries leaves those of the others. -/
theorem lookup_forget {entries : List (ObjectId × LeaseId)} {other : ObjectId}
    (differs : other ≠ object) :
    (entries.filter (·.1 != object)).lookup other = entries.lookup other := by
  induction entries with
  | nil => rfl
  | cons entry entries ih =>
    obtain ⟨key, id⟩ := entry
    by_cases here : key = object
    · subst here
      rw [List.filter_cons_of_neg (by simp), ih, List.lookup_cons, beq_false_of_ne differs]
    · rw [List.filter_cons_of_pos (by simpa using here), List.lookup_cons, List.lookup_cons, ih]

/-- The first lease on an object. -/
def first (table : LeaseTable) (object : ObjectId) : Lease :=
  { id := table.next, object, retained := 1, clones := 1 }

theorem acquire_of_unknown (named : object ≠ 0) (unknown : table.known? object = none) :
    (table.acquire object).2 = { table.enter object table.next with
      live := table.live ++ [table.first object], next := table.next + 1 } := by
  rw [LeaseTable.acquire, if_neg named, unknown]
  rfl

theorem acquire_of_known (named : object ≠ 0) (known : table.known? object = some lease) :
    (table.acquire object).2 = table.update lease.id fun lease =>
      { lease with retained := lease.retained + 1, clones := lease.clones + 1 } := by
  rw [LeaseTable.acquire, if_neg named, known]

theorem Tracked.acquire_first (tracked : table.Tracked) (named : object ≠ 0)
    (unknown : table.known? object = none) :
    LeaseTable.Tracked { table.enter object table.next with
      live := table.live ++ [table.first object], next := table.next + 1 } := by
  have free := tracked.known?_eq_none_iff.mp unknown
  constructor
  · intro lease mem
    obtain old | new := List.mem_append.mp mem
    · exact Nat.lt_succ_of_lt (tracked.fresh lease old)
    · rw [List.mem_singleton.mp new]
      exact Nat.lt_succ_self _
  · rw [List.map_append, List.nodup_append]
    refine ⟨tracked.nodup, List.nodup_singleton _, fun id old id' new => ?_⟩
    obtain ⟨lease, mem, rfl⟩ := List.mem_map.mp old
    rw [List.mem_singleton.mp new]
    exact Nat.ne_of_lt (tracked.fresh lease mem)
  · intro lease mem
    obtain old | new := List.mem_append.mp mem
    · exact tracked.named lease old
    · rw [List.mem_singleton.mp new]
      exact named
  · intro lease mem
    obtain old | new := List.mem_append.mp mem
    · show List.lookup _ ((object, table.next) :: _) = _
      rw [List.lookup_cons, beq_false_of_ne (free lease old)]
      exact (lookup_forget (free lease old)).trans (tracked.entered lease old)
    · rw [List.mem_singleton.mp new]
      exact List.lookup_cons_self
  · intro entry mem
    obtain rfl | old := List.mem_cons.mp mem
    · exact Nat.lt_succ_self _
    · exact Nat.lt_succ_of_lt (tracked.used entry (List.mem_filter.mp old).1)
  · intro entry mem lease live same
    obtain rfl | entered := List.mem_cons.mp mem <;> obtain old | new := List.mem_append.mp live
    · exact absurd same (Nat.ne_of_lt (tracked.fresh lease old))
    · rw [List.mem_singleton.mp new]
      rfl
    · exact tracked.sound entry (List.mem_filter.mp entered).1 lease old same
    · rw [List.mem_singleton.mp new] at same
      exact absurd same.symm (Nat.ne_of_lt (tracked.used entry (List.mem_filter.mp entered).1))

namespace Tracked

theorem acquire (tracked : table.Tracked) (object : ObjectId) :
    (table.acquire object).2.Tracked := by
  by_cases named : object = 0
  · rwa [LeaseTable.acquire, if_pos named]
  · cases known : table.known? object with
    | some lease =>
      rw [acquire_of_known named known]
      exact tracked.update (fun _ => rfl) fun _ => rfl
    | none =>
      rw [acquire_of_unknown named known]
      exact tracked.acquire_first named known

/-- An id that is taken in counts once. -/
theorem held_acquire (tracked : table.Tracked) (named : object ≠ 0)
    (fits : table.held object + 1 < UInt32.size) (other : ObjectId) :
    (table.acquire object).2.held other = table.held other + if object = other then 1 else 0 := by
  cases known : table.known? object with
  | some lease =>
    obtain ⟨live, rfl⟩ := tracked.known?_eq_some_iff.mp known
    rw [tracked.held_of_live live] at fits
    rw [acquire_of_known named known, held, known?_update]
    swap
    · intro _
      rfl
    cases found : table.known? other with
    | none =>
      have differs : lease.object ≠ other := tracked.known?_eq_none_iff.mp found lease live
      rw [if_neg differs, held_of_known found]
      rfl
    | some lease' =>
      obtain ⟨live', rfl⟩ := tracked.known?_eq_some_iff.mp found
      by_cases same : lease.object = lease'.object
      · rw [← same, known] at found
        obtain rfl := Option.some.inj found
        rw [tracked.held_of_live live, if_pos rfl]
        simp only [Option.map_some, Option.getD_some, revise, if_true, UInt32.toNat_add]
        exact Nat.mod_eq_of_lt fits
      · have ids : lease'.id ≠ lease.id := fun ids =>
          same (congrArg Lease.object (List.inj_on_of_nodup_map tracked.nodup live' live ids)).symm
        simp [revise, ids, same, tracked.held_of_live live']
  | none =>
    have tracked' := tracked.acquire_first named known
    rw [acquire_of_unknown named known]
    by_cases same : object = other
    · subst same
      rw [if_pos rfl, held_of_known known]
      have live : table.first object ∈ table.live ++ [table.first object] := by simp
      exact tracked'.held_of_live live
    · rw [if_neg same]
      refine tracked.held_congr tracked' fun lease' on => ?_
      have old : lease' ≠ table.first object := by
        rintro rfl
        exact same on
      simp [old]

/-! ## Dropping a clone -/

theorem without (tracked : table.Tracked) (id : LeaseId) :
    LeaseTable.Tracked { table with live := table.live.filter (·.id != id) } := by
  have kept {lease : Lease} (mem : lease ∈ table.live.filter (·.id != id)) :
      lease ∈ table.live := (List.mem_filter.mp mem).1
  exact ⟨fun lease mem => tracked.fresh lease (kept mem),
    (List.filter_sublist.map _).nodup tracked.nodup,
    fun lease mem => tracked.named lease (kept mem),
    fun lease mem => tracked.entered lease (kept mem), tracked.used,
    fun entry entered lease mem => tracked.sound entry entered lease (kept mem)⟩

theorem drop (tracked : table.Tracked) (id : LeaseId) : (table.drop id).2.Tracked := by
  unfold LeaseTable.drop
  split
  · exact tracked
  · split
    · exact tracked.without id
    · exact tracked.update (fun _ => rfl) fun _ => rfl

/-- A lease that goes takes with it how often its id was received. -/
theorem held_without (tracked : table.Tracked) (live : lease ∈ table.live) (other : ObjectId) :
    held { table with live := table.live.filter (·.id != lease.id) } other +
      (if lease.object = other then lease.retained.toNat else 0) = table.held other := by
  have tracked' := tracked.without lease.id
  by_cases same : lease.object = other
  · subst same
    have gone : LeaseTable.known? { table with live := table.live.filter (·.id != lease.id) }
        lease.object = none := by
      rw [tracked'.known?_eq_none_iff]
      intro other mem on
      obtain ⟨mem, differs⟩ := List.mem_filter.mp mem
      have known := tracked.known?_eq_some_iff.mpr ⟨mem, on⟩
      rw [tracked.known?_eq_some_iff.mpr ⟨live, rfl⟩] at known
      obtain rfl := Option.some.inj known
      simp at differs
    rw [held_of_known gone, if_pos rfl, Nat.zero_add, tracked.held_of_live live]
  · rw [if_neg same]
    refine tracked.held_congr tracked' fun lease' on => ?_
    rw [List.mem_filter, and_iff_left_iff_imp, bne_iff_ne]
    intro mem ids
    rw [List.inj_on_of_nodup_map tracked.nodup mem live ids] at on
    exact same on

theorem held_drop (tracked : table.Tracked) (id : LeaseId) (other : ObjectId) :
    (table.drop id).2.held other + ((table.drop id).1.elim 0 fun gone =>
      if gone.object = other then gone.retained.toNat else 0) = table.held other := by
  cases found : table.lease? id with
  | none =>
    rw [LeaseTable.drop, found]
    rfl
  | some lease =>
    obtain ⟨live, rfl⟩ := (lease?_eq_some_iff tracked.nodup).mp found
    simp only [LeaseTable.drop, found]
    split
    · exact tracked.held_without live other
    · exact held_update (fun _ => rfl) fun _ => rfl

/-! ## Pruning -/

theorem prune (tracked : table.Tracked) (object : ObjectId) : (table.prune object).Tracked := by
  unfold LeaseTable.prune
  split
  · exact tracked
  · next unknown =>
    have free := tracked.known?_eq_none_iff.mp (Option.not_isSome_iff_eq_none.mp unknown)
    exact ⟨tracked.fresh, tracked.nodup, tracked.named,
      fun lease live => (lookup_forget (free lease live)).trans (tracked.entered lease live),
      fun entry mem => tracked.used entry (List.mem_filter.mp mem).1,
      fun entry mem => tracked.sound entry (List.mem_filter.mp mem).1⟩

/-- Nothing that is held is pruned. -/
theorem held_prune (tracked : table.Tracked) (object other : ObjectId) :
    (table.prune object).held other = table.held other := by
  refine tracked.held_congr (tracked.prune object) fun lease _ => ?_
  unfold LeaseTable.prune
  split <;> rfl

end Tracked

/-! ## No lease without a receipt -/

/-- The id of every live lease was received. -/
def Received (table : LeaseTable) : Prop :=
  ∀ lease ∈ table.live, 0 < lease.retained.toNat

theorem Received.update (received : table.Received)
    (positive : ∀ lease ∈ table.live, 0 < (f lease).retained.toNat) :
    (table.update id f).Received := by
  intro lease mem
  obtain ⟨old, live, rfl⟩ := List.mem_map.mp mem
  split
  · exact positive old live
  · exact received old live

theorem Received.clone (received : table.Received) (ids : List LeaseId) :
    (ids.foldl LeaseTable.clone table).Received := by
  induction ids generalizing table with
  | nil => exact received
  | cons id ids ih => exact ih (received.update received)

theorem Received.acquire (received : table.Received)
    (fits : ∀ lease ∈ table.live, lease.retained.toNat + 1 < UInt32.size) (object : ObjectId) :
    (table.acquire object).2.Received := by
  by_cases named : object = 0
  · rwa [LeaseTable.acquire, if_pos named]
  · cases known : table.known? object with
    | some lease =>
      rw [acquire_of_known named known]
      refine received.update fun lease live => ?_
      rw [UInt32.toNat_add]
      exact Nat.lt_of_lt_of_eq (Nat.succ_pos _) (Nat.mod_eq_of_lt (fits lease live)).symm
    | none =>
      rw [acquire_of_unknown named known]
      intro lease mem
      obtain old | new := List.mem_append.mp mem
      · exact received lease old
      · rw [List.mem_singleton.mp new]
        exact Nat.one_pos

theorem Received.drop (received : table.Received) (id : LeaseId) :
    (table.drop id).2.Received := by
  unfold LeaseTable.drop
  split
  · exact received
  · split
    · intro lease mem
      exact received lease (List.mem_filter.mp mem).1
    · exact received.update received

theorem Received.prune (received : table.Received) (object : ObjectId) :
    (table.prune object).Received := by
  unfold LeaseTable.prune
  split <;> exact received

/-- A lease that goes was live. -/
theorem mem_of_drop (gone : (table.drop id).1 = some lease) : lease ∈ table.live := by
  unfold LeaseTable.drop at gone
  split at gone
  · cases gone
  · next found =>
    split at gone
    · obtain rfl := Option.some.inj gone
      exact List.mem_of_find?_eq_some found
    · cases gone

end LeaseTable

end DebugLink
