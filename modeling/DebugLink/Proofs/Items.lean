import DebugLink.Proofs.Texts
import Mathlib.Algebra.Group.Nat.Defs

/-!
# Items: strings and ids one after the other in a payload

A payload is put together from items, and where an item starts depends on all that stand before it.
A reader knows only what kind of item comes next, which is its `Slot`; it gives back what was
`carried`, in which an id has lost the digits its width has no room for.

Each item is recognized by the reader of its slot, and what is recognized cannot be read once it
was cut short. A buffer that ends too early ends within one item (`exists_cut`): the items before it
are read, and it is not.

Main statement: `items_roundtrip`.
-/

namespace DebugLink

namespace Bytes

/-- A place counts eight binary digits for each byte behind it. -/
theorem place_eq (behind : Nat) : place behind = 2 ^ (8 * behind) := by
  induction behind with
  | zero => rfl
  | succ behind ih =>
    rw [place, ih, Nat.mul_succ 8 behind, pow_add]
    rfl

/-- What a width has no room for is not written. -/
theorem ofNat_mod_place (width n : Nat) : ofNat width (n % place width) = ofNat width n := by
  have written := ofNat_toNat (ofNat width n)
  rwa [length_ofNat, toNat_ofNat] at written

end Bytes

namespace Payload

/-- One value of a payload. -/
inductive Item
  | text (value : String)
  | id (size : IdSize) (value : UInt64)
  deriving DecidableEq

/-- What kind of value comes next. -/
inductive Slot
  | text
  | id (size : IdSize)
  deriving DecidableEq

namespace Item

def slot : Item → Slot
  | text _ => .text
  | id size _ => .id size

def put : Item → Bytes
  | text value => putText value
  | id size value => putId size value

/-- A string's length has to fit its length field. -/
def Fits : Item → Prop
  | text value => value.utf8ByteSize < 2 ^ 32
  | id _ _ => True

/-- What travels of an item. -/
def carried : Item → Item
  | text value => text value
  | id size value => id size (UInt64.ofNat (value.toNat % 2 ^ (8 * size.bytes)))

end Item

/-- The items one after the other. -/
def putAll (items : List Item) : Bytes :=
  items.flatMap Item.put

def Slot.read : Slot → Reader Item
  | text => .text <$> Reader.text
  | id size => .id size <$> Reader.id size

/-- Reads one item for each slot. -/
def readAll : List Slot → Reader (List Item)
  | [] => return []
  | slot :: slots => do
    let item ← slot.read
    return item :: (← readAll slots)

/-! ## One item -/

variable {item : Item}

/-- What is carried of an id fits its width. -/
theorem toNat_carried (size : IdSize) (value : UInt64) :
    (UInt64.ofNat (value.toNat % 2 ^ (8 * size.bytes))).toNat =
      value.toNat % 2 ^ (8 * size.bytes) := by
  apply UInt64.toNat_ofNat_of_lt'
  exact Nat.lt_of_le_of_lt (Nat.mod_le _ _) value.toNat_lt

theorem putId_carried (size : IdSize) (value : UInt64) :
    putId size (UInt64.ofNat (value.toNat % 2 ^ (8 * size.bytes))) = putId size value := by
  rw [putId, putId, toNat_carried, ← Bytes.place_eq, Bytes.ofNat_mod_place]

/-- The reader of a slot takes what an item of that kind was written as. -/
theorem recognizes_read (slot : Slot) :
    slot.read.Recognizes fun value bytes =>
      ∃ item : Item, item.slot = slot ∧ item.Fits ∧ bytes = item.put ∧ value = item.carried := by
  cases slot with
  | text =>
    refine (Reader.recognizes_text.convert Item.text).congr fun value bytes => ⟨?_, ?_⟩
    · intro spelled
      obtain ⟨text, ⟨fits, written⟩, same⟩ := spelled
      rw [Utf8.length_encode] at fits
      exact ⟨.text text, rfl, fits, written, same⟩
    · intro carried
      obtain ⟨item, kind, fits, written, same⟩ := carried
      cases item with
      | text text =>
        refine ⟨text, ⟨?_, written⟩, same⟩
        rw [Utf8.length_encode]
        exact fits
      | id size value => cases kind
  | id size =>
    refine ((Reader.recognizes_id size).convert (Item.id size)).congr fun value bytes => ⟨?_, ?_⟩
    · intro spelled
      obtain ⟨id, ⟨small, written⟩, same⟩ := spelled
      refine ⟨.id size id, rfl, trivial, written, ?_⟩
      rw [Item.carried, ← Bytes.place_eq, Nat.mod_eq_of_lt small, UInt64.ofNat_toNat, same]
    · intro carried
      obtain ⟨item, kind, fits, written, same⟩ := carried
      cases item with
      | text text => cases kind
      | id size' value =>
        cases kind
        refine ⟨_, ⟨?_, ?_⟩, same⟩
        · rw [toNat_carried, Bytes.place_eq]
          exact Nat.mod_lt _ (Nat.two_pow_pos _)
        · rw [putId_carried]
          exact written

theorem reads_put (fits : item.Fits) : item.slot.read.Reads item.put item.carried :=
  (recognizes_read item.slot).complete ⟨item, rfl, fits, rfl, rfl⟩

/-- An item without its end is refused. -/
theorem exists_fault (fits : item.Fits) {part : Bytes} (begins : part <+: item.put)
    (short : part ≠ item.put) : ∃ fault left, item.slot.read.run part = .error fault left := by
  obtain ⟨fault, refused⟩ := Reader.Recognizes.fails_of_prefix (recognizes_read item.slot)
    ⟨item, rfl, fits, rfl, rfl⟩ begins short
  rw [Reader.parse] at refused
  cases read : item.slot.read.run part with
  | ok value rest =>
    rw [read] at refused
    cases refused
  | error fault left => exact ⟨fault, left, rfl⟩

/-! ## Many items -/

variable {items : List Item} {front : Bytes}

theorem putAll_cons (item : Item) (items : List Item) :
    putAll (item :: items) = item.put ++ putAll items :=
  List.flatMap_cons

theorem reads_putAll (fits : ∀ item ∈ items, item.Fits) :
    (readAll (items.map Item.slot)).Reads (putAll items) (items.map Item.carried) := by
  induction items with
  | nil => exact Reader.reads_pure []
  | cons item items ih =>
    rw [List.forall_mem_cons] at fits
    rw [putAll_cons]
    exact (reads_put fits.1).bind _ ((ih fits.2).convert (item.carried :: ·))

/-- What ends too early ends within an item. By induction on the items: the end is in the first of
them or behind it. -/
theorem exists_cut (begins : front <+: putAll items) (short : front ≠ putAll items) :
    ∃ done item later part, items = done ++ item :: later ∧ front = putAll done ++ part ∧
      part <+: item.put ∧ part ≠ item.put := by
  induction items generalizing front with
  | nil =>
    have none : front = [] := List.prefix_nil.mp begins
    exact absurd none short
  | cons item items ih =>
    obtain ⟨back, split⟩ := begins
    rw [putAll_cons] at split short
    obtain ⟨missing, whole, rest⟩ | ⟨next, passed, rest⟩ := List.append_eq_append_iff.mp split
    · by_cases all : front = item.put
      · have others : [] ≠ putAll items := by
          intro last
          rw [← last, List.append_nil] at short
          exact short all
        obtain ⟨done, item', later, part, cut, none, within, part_short⟩ :=
          ih List.nil_prefix others
        refine ⟨item :: done, item', later, part, ?_, ?_, within, part_short⟩
        · rw [cut, List.cons_append]
        · rw [putAll_cons, List.append_assoc, ← none, List.append_nil, all]
      · exact ⟨[], item, items, front, rfl, rfl, ⟨missing, whole.symm⟩, all⟩
    · have more : next ≠ putAll items := by
        intro last
        rw [passed, last] at short
        exact short rfl
      obtain ⟨done, item', later, part, cut, some, within, part_short⟩ := ih ⟨back, rest.symm⟩ more
      refine ⟨item :: done, item', later, part, ?_, ?_, within, part_short⟩
      · rw [cut, List.cons_append]
      · rw [putAll_cons, List.append_assoc, ← some, passed]

/-- Reading stops at the first item that is refused, with its fault. -/
theorem readAll_stops {done : List Item} (fits : ∀ item ∈ done, item.Fits) {slot : Slot}
    (slots : List Slot) {part left : Bytes} {fault : WireFault}
    (refused : slot.read.run part = .error fault left) :
    (readAll (done.map Item.slot ++ slot :: slots)).run (putAll done ++ part) =
      .error fault left := by
  induction done with
  | nil =>
    have stops : slot.read part = .error fault left := refused
    show EStateM.bind slot.read _ part = _
    rw [EStateM.bind, stops]
  | cons item done ih =>
    rw [List.forall_mem_cons] at fits
    have took : item.slot.read (item.put ++ (putAll done ++ part)) = _ :=
      reads_put fits.1 (putAll done ++ part)
    have stops : readAll (done.map Item.slot ++ slot :: slots) (putAll done ++ part) = _ :=
      ih fits.2
    rw [putAll_cons, List.append_assoc]
    show EStateM.bind item.slot.read (fun item => EStateM.bind (readAll _) _) _ = _
    rw [EStateM.bind, took]
    show EStateM.bind (readAll (done.map Item.slot ++ slot :: slots)) _ (putAll done ++ part) = _
    rw [EStateM.bind, stops]

/-- Items that were written are read back, an id modulo what its width has room for, and what comes
behind them is left. Of a buffer that ends too early the items that are wholly there are read, and
reading them all fails at the first that is not. -/
theorem items_roundtrip (items : List Item) (fits : ∀ item ∈ items, item.Fits) :
    (∀ rest, (readAll (items.map Item.slot)).run (putAll items ++ rest) =
      .ok (items.map Item.carried) rest) ∧
    ∀ front, front <+: putAll items → front ≠ putAll items →
      ∃ done item later part, items = done ++ item :: later ∧ front = putAll done ++ part ∧
        part <+: item.put ∧ part ≠ item.put ∧
        (readAll (done.map Item.slot)).run front = .ok (done.map Item.carried) part ∧
        ∃ (fault : WireFault) (left : Bytes), item.slot.read.run part = .error fault left ∧
          (readAll (items.map Item.slot)).run front = .error fault left := by
  refine ⟨reads_putAll fits, ?_⟩
  intro front begins short
  obtain ⟨done, item, later, part, rfl, rfl, within, part_short⟩ := exists_cut begins short
  rw [List.forall_mem_append, List.forall_mem_cons] at fits
  obtain ⟨fault, left, refused⟩ := exists_fault fits.2.1 within part_short
  refine ⟨done, item, later, part, rfl, rfl, within, part_short, reads_putAll fits.1 part, fault,
    left, refused, ?_⟩
  rw [List.map_append, List.map_cons]
  exact readAll_stops fits.1 _ refused

/-- A string with two bytes to its last character, between an id that is too wide and one that
fits. -/
def crate : List Item := [.id .four 0x1DEADBEEF, .text "café", .id .two 0x0102]

/-- They are read with a byte behind them. Cut within the last character, they are not. -/
theorem items_roundtrip_crate :
    (∀ item ∈ crate, item.Fits) ∧
      putAll crate =
        [0xDE, 0xAD, 0xBE, 0xEF, 0, 0, 0, 5, 0x63, 0x61, 0x66, 0xC3, 0xA9, 0x01, 0x02] ∧
      (readAll (crate.map Item.slot)).run (putAll crate ++ [7]) =
        .ok [.id .four 0xDEADBEEF, .text "café", .id .two 0x0102] [7] ∧
      (putAll crate).take 12 <+: putAll crate ∧ (putAll crate).take 12 ≠ putAll crate ∧
      ∃ (fault : WireFault) (left : Bytes),
        (readAll (crate.map Item.slot)).run ((putAll crate).take 12) = .error fault left := by
  have fits : ∀ item ∈ crate, item.Fits := by
    have small : "café".utf8ByteSize < 2 ^ 32 := by decide +kernel
    rw [crate, List.forall_mem_cons, List.forall_mem_cons, List.forall_mem_singleton]
    exact ⟨trivial, small, trivial⟩
  have short : (putAll crate).take 12 ≠ putAll crate := by decide +kernel
  have begins := List.take_prefix 12 (putAll crate)
  obtain ⟨whole, cut⟩ := items_roundtrip crate fits
  obtain ⟨done, item, later, part, -, -, -, -, -, fault, left, -, refused⟩ := cut _ begins short
  exact ⟨fits, by decide +kernel, whole [7], begins, short, fault, left, refused⟩

end Payload

end DebugLink
