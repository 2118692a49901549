/-!
# Scope: values that hold while the debuggee is suspended

What has been read from the debuggee stays true as long as the debuggee does not run. The scope is
active from a suspension of the whole debuggee until the next command that may let it run is
issued. While it is active, values can be stored in it under keys; when it ends they go, and the
epoch, which also counts the beginnings, moves on.

A value takes time to compute, and the debuggee may run meanwhile. So a computation begins with a
`Stamp` that notes the epoch, and its result is stored only if the scope is still active in that
epoch. A suspension that is reported while a resuming command awaits its reply is not
believed, because it may be older than the command.

A scope that is not active holds no values (`Sound`), and its epoch never goes back.
-/

namespace DebugLink

/-- Taken when a computation begins and shown when its result is stored. -/
structure Stamp where
  epoch : Nat
  storable : Bool
  deriving DecidableEq, Repr

/-- The values of the current suspension, and what is known about it. -/
structure Scope (α : Type) where
  active : Bool := false
  /-- How often the scope has begun or ended. -/
  epoch : Nat := 0
  /-- The ids of resuming commands whose replies are awaited. -/
  resumes : List UInt32 := []
  values : List (String × α) := []
  deriving Repr

namespace Scope

variable {α : Type} (scope : Scope α)

/-- The debuggee is reported to be suspended. -/
def suspend : Scope α :=
  if scope.active ∨ scope.resumes ≠ [] then scope
  else { scope with active := true, epoch := scope.epoch + 1 }

/-- The values that go when the scope ends. -/
def contents : List α :=
  scope.values.map (·.2)

/-- The scope ends. The debuggee may run even if the scope was not active, so the epoch moves on
in any case. -/
def leave : Scope α :=
  { scope with active := false, epoch := scope.epoch + 1, values := [] }

/-- A resuming command with the id is issued: the scope ends, and a reply is expected. -/
def expectResume (id : UInt32) : Scope α :=
  { scope.leave with
    resumes := if id ∈ scope.resumes then scope.resumes else scope.resumes ++ [id] }

/-- The command with the id, if it was a resuming one, is settled. -/
def complete (id : UInt32) : Scope α :=
  { scope with resumes := scope.resumes.filter (· != id) }

/-- Whether there is nothing to invalidate. -/
def dormant : Bool :=
  !scope.active && scope.values.isEmpty

/-- The scope ends, unless there is nothing to invalidate. -/
def invalidate : Scope α :=
  if scope.dormant then scope else scope.leave

/-- The connection is gone: no resuming command will ever be settled. -/
def shutdown : Scope α :=
  invalidate { scope with resumes := [] }

/-- The value under a key, if the scope is active and the value is of the kind asked for. -/
def value? (key : String) (fits : α → Bool) : Option α :=
  if scope.active then (scope.values.lookup key).filter fits else none

/-- The stamp of a computation that begins now. -/
def stamp : Stamp :=
  { epoch := scope.epoch, storable := scope.active }

/-- Whether the result of a computation may still be stored. -/
def honours (stamp : Stamp) : Bool :=
  stamp.storable && stamp.epoch == scope.epoch && scope.active

/-- Stores a value under a key, replacing the one that is there. -/
def put (key : String) (value : α) : Scope α :=
  { scope with values := scope.values.filter (·.1 != key) ++ [(key, value)] }

/-- Stores the result of a computation if its stamp is honoured. Returned are the values that
nobody holds any longer: the one that was replaced, or the result itself. -/
def store (key : String) (stamp : Stamp) (value : α) : List α × Scope α :=
  if scope.honours stamp then ((scope.values.lookup key).toList, scope.put key value)
  else ([value], scope)

/-- The number of values. -/
def size : Nat :=
  scope.values.length

/-- There are values only while the scope is active. -/
def Sound : Prop :=
  scope.active = false → scope.values = []

variable {scope}

/-- To issue a resuming command moves the epoch on, whether or not the scope was active. -/
theorem epoch_lt_expectResume (id : UInt32) : scope.epoch < (scope.expectResume id).epoch :=
  Nat.lt_succ_self _

end Scope

end DebugLink
