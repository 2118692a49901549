import DebugLink.Lease
import DebugLink.Proofs.Reading

/-!
# Batching: counts are added up by object, and given back as one payload

A batch has at most one count for each object, in the order of the ids, and adding to a count
changes no other (`tally_addCount`). What a payload gives back can be read off it again
(`gives_disposePayload`). The payload does not say how wide its ids are, but only one width leaves
nothing of it (`disposals?_eq`), so it is clear what it gives back (`givenBack_disposePayload`).

The counts of a payload are signed numbers of four bytes. What does not fit there is not given back
as it should be, and neither is an id that does not fit its width.
-/

namespace DebugLink

namespace Reader

/-- An object with how often its id is given back. -/
def disposal (size : IdSize) : Reader (ObjectId × Int32) := do
  let object ← id size
  let count ← int32
  return (object, count)

/-- The payload that gives counts back: how many there are, then each object with its count. -/
def disposals (size : IdSize) : Reader (List (ObjectId × Int32)) := do
  let count ← int32
  times (disposal size) count.toInt.toNat

/-- Two widths that leave nothing of a payload with counts are the same. -/
theorem disposals_width {size size' : IdSize} {payload : Bytes}
    {counts counts' : List (ObjectId × Int32)} (some : counts ≠ [])
    (runs : (disposals size).run payload = .ok counts [])
    (runs' : (disposals size').run payload = .ok counts' []) : size = size' := by
  have pair (size : IdSize) : Consumes (disposal size) (size.bytes + 4) :=
    (consumes_id size).bind fun _ => consumes_int32.bind fun _ => consumes_pure _
  obtain ⟨count, left, first, runs⟩ := run_bind runs
  obtain ⟨count', left', first', runs'⟩ := run_bind runs'
  rw [first] at first'
  cases first'
  have length := length_times runs
  have taken := consumes_times (pair size) _ _ _ _ runs
  have taken' := consumes_times (pair size') _ _ _ _ runs'
  rw [taken] at taken'
  have positive : 0 < count.toInt.toNat := by
    rw [← length]
    exact List.length_pos_iff.mpr some
  have bytes : size.bytes + 4 = size'.bytes + 4 :=
    Nat.eq_of_mul_eq_mul_left positive (by simpa using taken')
  cases size <;> cases size' <;> first | rfl | simp [IdSize.bytes] at bytes

end Reader

/-- The largest count that there is on the wire. -/
def largestCount : Nat :=
  UInt32.size / 2 - 1

/-- A count as it is on the wire. -/
def onWire (pair : ObjectId × UInt32) : ObjectId × Int32 :=
  (pair.1, Int32.ofNat (min pair.2.toNat largestCount))

theorem toInt_onWire {pair : ObjectId × UInt32} (small : pair.2.toNat ≤ largestCount) :
    (onWire pair).2.toInt = pair.2.toNat := by
  rw [onWire, Nat.min_eq_left small]
  apply Int32.toInt_ofNat_of_lt
  exact Nat.lt_of_le_of_lt small (by decide)

/-- What a payload gives back, read at the one width that leaves nothing of it. -/
def disposals? (payload : Bytes) : Option (List (ObjectId × Int32)) :=
  [IdSize.two, .four, .eight].findSome? fun size =>
    match (Reader.disposals size).run payload with
    | .ok counts [] => some counts
    | _ => none

theorem disposals?_eq {size : IdSize} {payload : Bytes} {counts : List (ObjectId × Int32)}
    (any : counts ≠ []) (runs : (Reader.disposals size).run payload = .ok counts []) :
    disposals? payload = some counts := by
  have other (size' : IdSize) (differs : size' ≠ size) :
      (match (Reader.disposals size').run payload with
        | .ok counts [] => some counts
        | _ => none) = none := by
    split
    · next runs' => exact absurd (Reader.disposals_width any runs runs').symm differs
    · rfl
  cases size with
  | two => simp [disposals?, runs]
  | four => simp [disposals?, runs, other .two]
  | eight => simp [disposals?, runs, other .two, other .four]

theorem Reader.reads_disposals (size : IdSize) {counts : List (ObjectId × UInt32)}
    (few : counts.length ≤ largestCount)
    (fit : ∀ pair ∈ counts, pair.1.toNat < Bytes.place size.bytes) :
    Reads (disposals size) (disposePayload size counts) (counts.map onWire) := by
  have small {n : Nat} (small : n ≤ largestCount) : n < Bytes.place 4 :=
    Nat.lt_of_le_of_lt small (by decide)
  refine (reads_int32 (small few)).bind _ ?_
  have length : (Int32.ofNat counts.length).toInt.toNat = counts.length := by
    rw [Int32.toInt_ofNat_of_lt (Nat.lt_of_le_of_lt few (by decide)), Int.toNat_natCast]
  rw [length]
  refine reads_times fun pair mem => ?_
  refine (reads_id size (fit pair mem)).bind _ ?_
  exact (reads_int32 (small (Nat.min_le_right _ _))).convert (pair.1, ·)

/-! ## Counts -/

/-- What the members of a list count for, added up. -/
def total {α : Type} (count : α → Nat) : List α → Nat
  | [] => 0
  | a :: list => count a + total count list

section Total

variable {α β : Type} {count : β → Nat}

@[simp]
theorem total_nil : total count [] = 0 := rfl

@[simp]
theorem total_cons (b : β) (list : List β) :
    total count (b :: list) = count b + total count list := rfl

@[simp]
theorem total_append (list more : List β) :
    total count (list ++ more) = total count list + total count more := by
  induction list with
  | nil => exact (Nat.zero_add _).symm
  | cons b list ih => rw [List.cons_append, total_cons, ih, total_cons, Nat.add_assoc]

theorem total_map {count' : α → Nat} {f : α → β} {list : List α}
    (same : ∀ a ∈ list, count (f a) = count' a) : total count (list.map f) = total count' list := by
  induction list with
  | nil => rfl
  | cons a list ih =>
    rw [List.forall_mem_cons] at same
    rw [List.map_cons, total_cons, total_cons, same.1, ih same.2]

end Total

/-- How often an object's id is counted. -/
def tally (object : ObjectId) (counts : List (ObjectId × UInt32)) : Nat :=
  total (fun pair => if pair.1 = object then pair.2.toNat else 0) counts

/-- There is one count for each object, in the order of the ids, and none is zero. -/
structure Batch (counts : List (ObjectId × UInt32)) : Prop where
  increasing : counts.Pairwise (·.1 < ·.1)
  positive : ∀ pair ∈ counts, 0 < pair.2.toNat

/-- Counts can be told on the wire. -/
structure Tellable (counts : List (ObjectId × UInt32)) : Prop where
  few : counts.length ≤ largestCount
  small : ∀ pair ∈ counts, pair.2.toNat ≤ largestCount

namespace Disposals

variable {object other : ObjectId} {count : UInt32} {counts : List (ObjectId × UInt32)}

theorem toNat_addCounts {a b : UInt32} (fits : a.toNat + b.toNat < UInt32.size) :
    (addCounts a b).toNat = a.toNat + b.toNat := by
  rw [addCounts, if_pos fits, UInt32.toNat_add]
  exact Nat.mod_eq_of_lt fits

theorem addCounts_pos {a b : UInt32} (positive : 0 < b.toNat) : 0 < (addCounts a b).toNat := by
  by_cases fits : a.toNat + b.toNat < UInt32.size
  · rw [toNat_addCounts fits]
    omega
  · rw [addCounts, if_neg fits]
    decide

/-- Adding to one count changes no other. -/
theorem tally_addCount (fits : ∀ pair ∈ counts, pair.2.toNat + count.toNat < UInt32.size) :
    tally other (addCount object count counts) =
      tally other counts + if object = other then count.toNat else 0 := by
  induction counts with
  | nil => simp [addCount, tally]
  | cons pair counts ih =>
    obtain ⟨key, sum⟩ := pair
    rw [List.forall_mem_cons] at fits
    have ih := ih fits.2
    simp only [tally] at ih ⊢
    simp only [addCount]
    split
    · simp only [total_cons]
      omega
    · split
      · next same =>
        subst same
        simp only [total_cons, toNat_addCounts fits.1]
        split <;> omega
      · simp only [total_cons, ih]
        omega

theorem mem_addCount {pair : ObjectId × UInt32} (mem : pair ∈ addCount object count counts) :
    pair ∈ counts ∨ pair.1 = object ∧ (pair.2 = count ∨ ∃ sum, pair.2 = addCounts sum count) := by
  induction counts with
  | nil => exact .inr (by simp [List.mem_singleton.mp mem])
  | cons first counts ih =>
    obtain ⟨key, sum⟩ := first
    simp only [addCount] at mem
    split at mem
    · obtain rfl | old := List.mem_cons.mp mem
      · exact .inr ⟨rfl, .inl rfl⟩
      · exact .inl old
    · split at mem
      · next same =>
        obtain rfl | old := List.mem_cons.mp mem
        · exact .inr ⟨same.symm, .inr ⟨sum, rfl⟩⟩
        · exact .inl (List.mem_cons_of_mem _ old)
      · obtain rfl | new := List.mem_cons.mp mem
        · exact .inl List.mem_cons_self
        · exact (ih new).imp (List.mem_cons_of_mem _) id

theorem addCount_increasing (increasing : counts.Pairwise (·.1 < ·.1)) :
    (addCount object count counts).Pairwise (·.1 < ·.1) := by
  induction counts with
  | nil => exact List.pairwise_singleton _ _
  | cons first counts ih =>
    obtain ⟨key, sum⟩ := first
    obtain ⟨above, rest⟩ := List.pairwise_cons.mp increasing
    simp only [addCount]
    split
    · next before =>
      refine List.pairwise_cons.mpr ⟨fun pair mem => ?_, increasing⟩
      obtain rfl | mem := List.mem_cons.mp mem
      · exact before
      · exact UInt64.lt_trans before (above pair mem)
    · next after =>
      split
      · exact List.pairwise_cons.mpr ⟨above, rest⟩
      · next differs =>
        refine List.pairwise_cons.mpr ⟨fun pair mem => ?_, ih rest⟩
        obtain old | ⟨here, -⟩ := mem_addCount mem
        · exact above pair old
        · rw [here]
          exact UInt64.lt_of_le_of_ne (UInt64.not_lt.mp after) (Ne.symm differs)

theorem batch_clear {disposals : Disposals} : Batch disposals.clear.counts where
  increasing := List.Pairwise.nil
  positive := fun _ mem => absurd mem List.not_mem_nil

/-- A batch to which a count is added stays one. -/
theorem batch_push {disposals : Disposals} (batch : Batch disposals.counts)
    (positive : 0 < count.toNat) : Batch (disposals.push object count).counts where
  increasing := addCount_increasing batch.increasing
  positive := by
    intro pair mem
    obtain old | ⟨-, new | ⟨sum, new⟩⟩ := mem_addCount mem
    · exact batch.positive pair old
    · rw [new]
      exact positive
    · rw [new]
      exact addCounts_pos positive

end Disposals

/-! ## What a payload gives back -/

/-- How often an object's id is given back by a payload. -/
def givenBack (object : ObjectId) (payload : Bytes) : Nat :=
  total (fun pair => if pair.1 = object then pair.2.toInt.toNat else 0)
    ((disposals? payload).getD [])

/-- A payload is one batch of counts, and nothing else, at a width. -/
structure Gives (size : IdSize) (payload : Bytes) (counts : List (ObjectId × Int32)) : Prop where
  reads : (Reader.disposals size).run payload = .ok counts []
  any : counts ≠ []
  increasing : counts.Pairwise (·.1 < ·.1)
  positive : ∀ pair ∈ counts, 0 < pair.2.toInt

section Payload

variable {size : IdSize} {counts : List (ObjectId × UInt32)}

theorem gives_disposePayload (any : counts ≠ []) (batch : Batch counts) (tellable : Tellable counts)
    (fit : ∀ pair ∈ counts, pair.1.toNat < Bytes.place size.bytes) :
    Gives size (disposePayload size counts) (counts.map onWire) where
  reads := by
    have read := Reader.reads_disposals size tellable.few fit []
    rwa [List.append_nil] at read
  any := by simpa using any
  increasing := by
    rw [List.pairwise_map]
    exact batch.increasing
  positive := by
    simp only [List.forall_mem_map]
    intro pair mem
    rw [toInt_onWire (tellable.small pair mem)]
    exact Int.natCast_pos.mpr (batch.positive pair mem)

/-- A payload gives back what it was written from. -/
theorem givenBack_disposePayload (object : ObjectId) (any : counts ≠ []) (batch : Batch counts)
    (tellable : Tellable counts) (fit : ∀ pair ∈ counts, pair.1.toNat < Bytes.place size.bytes) :
    givenBack object (disposePayload size counts) = tally object counts := by
  have gives := gives_disposePayload any batch tellable fit
  rw [givenBack, disposals?_eq gives.any gives.reads, Option.getD_some, tally]
  refine total_map fun pair mem => ?_
  rw [toInt_onWire (tellable.small pair mem), Int.toNat_natCast]
  rfl

end Payload

end DebugLink
