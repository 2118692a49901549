import DebugLink.Proofs.Requests
import Mathlib.Data.List.Nodup

/-!
# Numbering: which ids the commands get

Commands are numbered from zero and get the ids from one on, in order, coming round to one again
behind the largest (`idOf`). So the receipts that were handed out are known from their number
alone (`numbered_play`), and as long as there are not more of them than ids, no two have the same
id (`nodup_ids`).
-/

namespace DebugLink

/-- The id of the command with a number. -/
def idOf (serial : Nat) : UInt32 :=
  UInt32.ofNat (serial % (UInt32.size - 1) + 1)

theorem toNat_idOf (serial : Nat) : (idOf serial).toNat = serial % (UInt32.size - 1) + 1 := by
  rw [idOf, UInt32.toNat_ofNat']
  have below : serial % (UInt32.size - 1) < UInt32.size - 1 := Nat.mod_lt _ (by decide)
  exact Nat.mod_eq_of_lt (by simp [UInt32.size] at below ⊢; omega)

/-- The ids follow each other, and zero is skipped. -/
theorem idAfter_idOf (serial : Nat) : Connection.idAfter (idOf serial) = idOf (serial + 1) := by
  have number := toNat_idOf serial
  have next := toNat_idOf (serial + 1)
  have below : serial % (UInt32.size - 1) < UInt32.size - 1 := Nat.mod_lt _ (by decide)
  have sum : (idOf serial + 1).toNat = ((idOf serial).toNat + 1) % UInt32.size := by
    rw [UInt32.toNat_add]; rfl
  rw [Connection.idAfter]
  split
  · next zero =>
    have zero := congrArg UInt32.toNat zero
    apply UInt32.toNat_inj.mp
    simp [UInt32.size] at *
    omega
  · next positive =>
    have positive : (idOf serial + 1).toNat ≠ 0 := fun zero => positive (UInt32.toNat_inj.mp zero)
    apply UInt32.toNat_inj.mp
    simp [UInt32.size] at *
    omega

/-- Two of the first commands, as many as there are ids, have different ids. -/
theorem idOf_inj {first second : Nat} (few : first < UInt32.size - 1)
    (few' : second < UInt32.size - 1) (same : idOf first = idOf second) : first = second := by
  have same := congrArg UInt32.toNat same
  rw [toNat_idOf, toNat_idOf, Nat.mod_eq_of_lt few, Nat.mod_eq_of_lt few'] at same
  omega

namespace Connection

/-- The receipt of the command with a number, on a connection with a name. -/
def receiptOf (name serial : Nat) : Receipt :=
  { connection := name, id := idOf serial, serial }

end Connection

namespace World

variable {world world' : World}

/-- The receipts that were handed out are those of the first numbers, and the next id is that of
the next one. -/
structure Numbered (world : World) : Prop where
  receipts : receipts world.journal =
    (List.range world.connection.issued).map (Connection.receiptOf world.connection.name)
  next : world.connection.nextId = idOf world.connection.issued

/-- A step issues the next command or none. -/
theorem Numbered.step (numbered : Numbered world) (step : RequestStep world world') :
    Numbered world' := by
  -- Nothing but issuing a command touches the numbers.
  have same (ledger : world'.connection.ledger.name = world.connection.name ∧
        world'.connection.ledger.issued = world.connection.issued ∧
        world'.connection.ledger.nextId = world.connection.nextId)
      (none : DebugLink.receipts world'.journal = DebugLink.receipts world.journal) :
      Numbered world' := by
    obtain ⟨name, issued, nextId⟩ := ledger
    simp only [Connection.ledger] at name issued nextId
    refine ⟨?_, ?_⟩
    · rw [none, name, issued]
      exact numbered.receipts
    · rw [nextId, issued]
      exact numbered.next
  cases step with
  | quiet journal silent ledger owed =>
    apply same (by rw [ledger]; exact ⟨rfl, rfl, rfl⟩)
    rw [journal, receipts_append, receipts_of_silent silent, List.append_nil]
  | issue command data live journal silent ledger owed =>
    obtain ⟨name, issued, nextId⟩ : world'.connection.name = world.connection.name ∧
        world'.connection.issued = world.connection.issued + 1 ∧
        world'.connection.nextId = Connection.idAfter world.connection.nextId :=
      ⟨congrArg Ledger.name ledger, congrArg Ledger.issued ledger, congrArg Ledger.nextId ledger⟩
    have receipt : world.connection.nextReceipt =
        Connection.receiptOf world.connection.name world.connection.issued := by
      rw [Connection.nextReceipt, Connection.receiptOf, numbered.next]
    refine ⟨?_, ?_⟩
    · rw [journal, receipts_append, receipts_append, numbered.receipts, name, issued,
        List.range_succ, List.map_append, List.map_singleton, ← receipt,
        receipts_of_silent silent]
      rfl
    · rw [nextId, issued, numbered.next, idAfter_idOf]
  | decide id outcome journal issue verdict ledger owed =>
    apply same (by rw [ledger]; exact ⟨rfl, rfl, rfl⟩)
    rw [journal, receipts_append]
    simp [DebugLink.receipts, issues, issue]
  | down live journal ledger owed =>
    apply same (by rw [ledger]; exact ⟨rfl, rfl, rfl⟩)
    rw [journal, receipts_append]
    simp [DebugLink.receipts, issues, Entry.issue?]

theorem numbered_play (config : Config) (moves : List Move) : Numbered (play config moves) := by
  refine turn_induction ⟨rfl, rfl⟩ (fun _ turns numbered => ?_) moves
  exact numbered.step turns.request

/-- A connection keeps its name. -/
theorem name_play (config : Config) (moves : List Move) :
    (play config moves).connection.name = 0 := by
  refine turn_induction (P := fun world => world.connection.name = 0) rfl
    (fun {world world'} _ turns ih => ?_) moves
  cases turns.request with
  | quiet journal silent ledger owed => exact (congrArg Ledger.name ledger).trans ih
  | issue command data live journal silent ledger owed =>
    exact (congrArg Ledger.name ledger).trans ih
  | decide id outcome journal issue verdict ledger owed =>
    exact (congrArg Ledger.name ledger).trans ih
  | down live journal ledger owed => exact (congrArg Ledger.name ledger).trans ih

namespace Numbered

theorem mem_receipts (numbered : Numbered world) {receipt : Receipt} :
    receipt ∈ DebugLink.receipts world.journal ↔
      ∃ serial < world.connection.issued,
        receipt = Connection.receiptOf world.connection.name serial := by
  rw [numbered.receipts, List.mem_map]
  simp only [List.mem_range, eq_comm]

/-- The next receipt was not handed out before. -/
theorem fresh (numbered : Numbered world) :
    world.connection.nextReceipt ∉ DebugLink.receipts world.journal := by
  rw [numbered.mem_receipts]
  rintro ⟨serial, below, same⟩
  have same : world.connection.issued = serial := congrArg Receipt.serial same
  omega

/-- No two commands have the same number. -/
theorem nodup_serials (numbered : Numbered world) :
    ((DebugLink.receipts world.journal).map (·.serial)).Nodup := by
  rw [numbered.receipts, List.map_map]
  exact (List.map_id' _).symm ▸ List.nodup_range

theorem serial_inj (numbered : Numbered world) {first second : Receipt}
    (mem : first ∈ DebugLink.receipts world.journal)
    (mem' : second ∈ DebugLink.receipts world.journal) (same : first.serial = second.serial) :
    first = second :=
  List.inj_on_of_nodup_map numbered.nodup_serials mem mem' same

/-- No two commands have the same id, unless there are more of them than ids. -/
theorem nodup_ids (numbered : Numbered world) (few : world.connection.issued < UInt32.size) :
    ((DebugLink.receipts world.journal).map (·.id)).Nodup := by
  rw [numbered.receipts, List.map_map]
  refine (List.nodup_map_iff_inj_on List.nodup_range).mpr fun first mem second mem' same => ?_
  rw [List.mem_range] at mem mem'
  exact idOf_inj (by omega) (by omega) same

end Numbered

end World

end DebugLink
