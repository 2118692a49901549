import DebugLink.WireFault

/-!
# Identifier: remote ids and the widths they travel at

The debuggee names its objects, classes, methods and frames by numbers. Locally an id is 64 bits
wide; on the wire each kind of id has a width of its own, two, four or eight bytes, that the two
sides agree on.
-/

namespace DebugLink

/-- The id of a remote object. Threads are objects. -/
abbrev ObjectId := UInt64

/-- The id of a class or interface. -/
abbrev ReferenceTypeId := UInt64

/-- The id of a method within its class. -/
abbrev MethodId := UInt64

/-- The width of an id on the wire. -/
inductive IdSize
  | two | four | eight
  deriving DecidableEq, Repr

/-- The width in bytes. -/
def IdSize.bytes : IdSize → Nat
  | .two => 2
  | .four => 4
  | .eight => 8

/-- The width that a number of bytes names. -/
def IdSize.ofWidth : Int → Except WireFault IdSize
  | 2 => .ok .two
  | 4 => .ok .four
  | 8 => .ok .eight
  | width => .error (.unsupportedWidth width)

/-- The widths of the five kinds of ids, in the order in which the debuggee reports them. -/
structure IdSizes where
  field : IdSize
  method : IdSize
  object : IdSize
  referenceType : IdSize
  frame : IdSize
  deriving DecidableEq, Repr

/-- Until the debuggee has said otherwise, every id is eight bytes wide. -/
def IdSizes.initial : IdSizes := ⟨.eight, .eight, .eight, .eight, .eight⟩

/-- The widths in order. -/
def IdSizes.toList (sizes : IdSizes) : List IdSize :=
  [sizes.field, sizes.method, sizes.object, sizes.referenceType, sizes.frame]

/-- A position in the debuggee's code. -/
structure Location where
  /-- What kind of type the class is: 1 a class, 2 an interface, 3 an array. -/
  typeTag : UInt8
  classId : ReferenceTypeId
  methodId : MethodId
  index : UInt64
  deriving DecidableEq, Repr

end DebugLink
