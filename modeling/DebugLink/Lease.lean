import DebugLink.Command

/-!
# Lease: local leases on remote objects

While the debugger holds on to a remote object there is one lease on its id, however often the id
has been received and however many clones of the lease there are. A lease counts how often its id
was received. When the last clone goes away that count has to be given back: it is added to the
`Disposals`, and sooner or later one command disposes of the whole batch.

The table of leases only points at them. An entry whose lease is gone stays until it is forgotten
or replaced, because an id may be received again before its old lease has been accounted for.
-/

namespace DebugLink

/-- The identity of a lease. No two leases of a connection ever share one. -/
abbrev LeaseId := Nat

/-- A live lease. -/
structure Lease where
  id : LeaseId
  object : ObjectId
  /-- How often the object's id was received. -/
  retained : UInt32
  /-- How many clones there are. -/
  clones : Nat
  deriving DecidableEq, Repr

/-- The leases of a connection and the table of the objects they are on. -/
structure LeaseTable where
  live : List Lease := []
  entries : List (ObjectId × LeaseId) := []
  next : LeaseId := 0
  deriving DecidableEq, Repr

namespace LeaseTable

variable (table : LeaseTable)

/-- The live lease with an identity. -/
def lease? (id : LeaseId) : Option Lease :=
  table.live.find? (·.id == id)

/-- The live lease that the table knows for an object. -/
def known? (object : ObjectId) : Option Lease :=
  (table.entries.lookup object).bind table.lease?

/-- Changes the lease with an identity. -/
def update (id : LeaseId) (f : Lease → Lease) : LeaseTable :=
  { table with live := table.live.map fun lease => if lease.id = id then f lease else lease }

/-- The table with one entry for an object. -/
def enter (object : ObjectId) (id : LeaseId) : LeaseTable :=
  { table with entries := (object, id) :: table.entries.filter (·.1 != object) }

/-- Takes in an id received from the debuggee: one more clone of the object's lease, or the first
of a new one. The null id has no object. -/
def acquire (object : ObjectId) : Option LeaseId × LeaseTable :=
  if object = 0 then (none, table)
  else match table.known? object with
    | some lease =>
      (some lease.id, table.update lease.id fun lease =>
        { lease with retained := lease.retained + 1, clones := lease.clones + 1 })
    | none =>
      let lease : Lease := { id := table.next, object, retained := 1, clones := 1 }
      (some lease.id,
        { table.enter object lease.id with live := table.live ++ [lease], next := table.next + 1 })

/-- One more clone. -/
def clone (id : LeaseId) : LeaseTable :=
  table.update id fun lease => { lease with clones := lease.clones + 1 }

/-- One clone less. The lease is gone with its last clone, and is then returned: what it retained
has to be accounted for. -/
def drop (id : LeaseId) : Option Lease × LeaseTable :=
  match table.lease? id with
  | none => (none, table)
  | some lease =>
    if lease.clones ≤ 1 then
      (some lease, { table with live := table.live.filter (·.id != id) })
    else (none, table.update id fun lease => { lease with clones := lease.clones - 1 })

/-- Removes an object's entry if its lease is gone. An entry for a later lease stays. -/
def prune (object : ObjectId) : LeaseTable :=
  if (table.known? object).isSome then table
  else { table with entries := table.entries.filter (·.1 != object) }

/-- Removes every entry. -/
def clear : LeaseTable :=
  { table with entries := [] }

/-- The number of entries. -/
def size : Nat :=
  table.entries.length

end LeaseTable

/-- Counts to be given back, one for each object, in the order of the ids. -/
structure Disposals where
  /-- How many objects make the batch full. -/
  threshold : Nat
  counts : List (ObjectId × UInt32) := []
  deriving DecidableEq, Repr

namespace Disposals

/-- The sum of two counts, or the largest count if that is too large. -/
def addCounts (a b : UInt32) : UInt32 :=
  if a.toNat + b.toNat < UInt32.size then a + b else UInt32.ofNat (UInt32.size - 1)

/-- Adds to an object's count. -/
def addCount (object : ObjectId) (count : UInt32) :
    List (ObjectId × UInt32) → List (ObjectId × UInt32)
  | [] => [(object, count)]
  | (other, sum) :: rest =>
    if object < other then (object, count) :: (other, sum) :: rest
    else if object = other then (other, addCounts sum count) :: rest
    else (other, sum) :: addCount object count rest

/-- Queues `count` releases of an object. -/
def push (batch : Disposals) (object : ObjectId) (count : UInt32) : Disposals :=
  { batch with counts := addCount object count batch.counts }

/-- Whether the batch should be sent. -/
def isFull (batch : Disposals) : Bool :=
  batch.counts.length ≥ batch.threshold

/-- The batch without its counts. -/
def clear (batch : Disposals) : Disposals :=
  { batch with counts := [] }

end Disposals

/-- The payload that gives counts back: how many there are, then each object with its count.
Counts are signed on the wire, so a larger one is cut down to the largest. -/
def disposePayload (size : IdSize) (counts : List (ObjectId × UInt32)) : Bytes :=
  Bytes.ofNat 4 counts.length ++ counts.flatMap fun (object, count) =>
    Payload.putId size object ++ Bytes.ofNat 4 (min count.toNat (UInt32.size / 2 - 1))

end DebugLink
