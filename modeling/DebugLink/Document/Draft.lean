import DebugLink.Document
import DebugLink.Text.Decimal
import DebugLink.Text.Hex

/-!
# Document.Draft: a JSON text, as far as it is well formed

Whoever decodes a text as it comes meets the first fault of any kind, and a text with a bad value
in front of a syntax error has to be refused for the bad value. So reading never fails: it yields
the part of the text in front of its first syntax error, with a mark where it breaks off. Lists and
objects know whether they were closed, and a value that is not there at all is `broken`.

Repeated fields are kept in order. A string keeps no value if one of its escapes names no
character, and a number that is not a plain integer keeps only whether it is finite as a double.
-/

namespace DebugLink

/-- What is kept of a number. A minus sign in front of zero makes it a fraction. -/
inductive Numeral
  | integer (n : Int)
  | fraction (finite : Bool)
  deriving DecidableEq, Repr

/-- A JSON text up to its first fault. -/
inductive Draft
  | null
  | bool (b : Bool)
  | number (n : Numeral)
  | text (s : Option String)
  | list (items : List Draft) (closed : Bool)
  | object (fields : List (Option String × Draft)) (closed : Bool)
  | broken
  deriving Repr

namespace Draft

/-- Whether the text is well formed to the value's end. A fault inside a list or an object leaves
it open. -/
def intact : Draft → Bool
  | list _ closed => closed
  | object _ closed => closed
  | broken => false
  | _ => true

def isBlank (c : Char) : Bool :=
  c = ' ' ∨ c = '\n' ∨ c = '\t' ∨ c = '\r'

def skipBlanks (chars : List Char) : List Char :=
  chars.dropWhile isBlank

/-! ## Strings -/

/-- The number that four hexadecimal digits spell. -/
def hex4? : List Char → Option (Nat × List Char)
  | a :: b :: c :: d :: rest => do
    let high := (← Hex.value? a) * 16 + (← Hex.value? b)
    let low := (← Hex.value? c) * 16 + (← Hex.value? d)
    return (high * 256 + low, rest)
  | _ => none

/-- The character behind a backslash that stands for another one. -/
def escaped? : Char → Option Char
  | '"' => some '"'
  | '\\' => some '\\'
  | '/' => some '/'
  | 'b' => some '\x08'
  | 'f' => some '\x0c'
  | 'n' => some '\n'
  | 'r' => some '\r'
  | 't' => some '\t'
  | _ => none

/-- The character of two surrogates. -/
def joinSurrogates (high low : Nat) : Char :=
  Char.ofNat (0x10000 + (high - 0xD800) * 0x400 + (low - 0xDC00))

/-- The units of a string up to its closing quote: characters, and the numbers of surrogates that
escapes name. Each step uses up a character, `fuel` of them at most. -/
def readUnits? : (fuel : Nat) → List Char → Option (List (Char ⊕ Nat) × List Char)
  | 0, _ => none
  | _, [] => none
  | _, '"' :: rest => some ([], rest)
  | fuel + 1, '\\' :: 'u' :: rest => do
    let (n, rest) ← hex4? rest
    let (units, rest) ← readUnits? fuel rest
    let unit := if 0xD800 ≤ n ∧ n < 0xE000 then .inr n else .inl (Char.ofNat n)
    return (unit :: units, rest)
  | fuel + 1, '\\' :: c :: rest => do
    let c ← escaped? c
    let (units, rest) ← readUnits? fuel rest
    return (.inl c :: units, rest)
  | fuel + 1, c :: rest =>
    if c.toNat < 0x20 ∨ c = '\\' then none
    else do
      let (units, rest) ← readUnits? fuel rest
      return (.inl c :: units, rest)

/-- The characters that units spell, or `none` if a surrogate stands alone. -/
def spell? : List (Char ⊕ Nat) → Option (List Char)
  | [] => some []
  | .inl c :: rest => (c :: ·) <$> spell? rest
  | .inr high :: .inr low :: rest =>
    if high < 0xDC00 ∧ 0xDC00 ≤ low then (joinSurrogates high low :: ·) <$> spell? rest
    else none
  | .inr _ :: _ => none

/-- A string behind its opening quote: its value and the text behind it. -/
def readText? (chars : List Char) : Option (Option String × List Char) := do
  let (units, rest) ← readUnits? (chars.length + 1) chars
  return (String.ofList <$> spell? units, rest)

/-! ## Numbers -/

/-- The digits behind a decimal point, if there is one. -/
def readDecimals? : List Char → Option (List Char × List Char)
  | '.' :: rest =>
    let digits := rest.takeWhile Char.isDigit
    if digits.isEmpty then none else some (digits, rest.dropWhile Char.isDigit)
  | rest => some ([], rest)

/-- The exponent behind an `e`, if there is one. -/
def readExponent? : List Char → Option (Option Int × List Char)
  | c :: rest =>
    if c = 'e' ∨ c = 'E' then
      let (sign, rest) : Int × List Char := match rest with
        | '-' :: rest => (-1, rest)
        | '+' :: rest => (1, rest)
        | rest => (1, rest)
      let digits := rest.takeWhile Char.isDigit
      if digits.isEmpty then none
      else some (some (sign * Decimal.value digits), rest.dropWhile Char.isDigit)
    else some (none, c :: rest)
  | [] => some (none, [])

/-- A number behind its sign. An integer has neither a decimal point nor an exponent, and lies in
the range of the two 64-bit types. -/
def readNumber? (negative : Bool) (chars : List Char) : Option (Numeral × List Char) := do
  let digits := chars.takeWhile Char.isDigit
  if digits.isEmpty ∨ (digits.head? = some '0' ∧ digits.length > 1) then none
  else
    let (decimals, rest) ← readDecimals? (chars.dropWhile Char.isDigit)
    let (exponent, rest) ← readExponent? rest
    let magnitude := Decimal.value digits
    let plain := decimals.isEmpty ∧ exponent.isNone
    if plain ∧ ¬negative ∧ magnitude < UInt64.size then return (.integer magnitude, rest)
    else if plain ∧ negative ∧ 0 < magnitude ∧ magnitude ≤ UInt64.size / 2 then
      return (.integer (-magnitude), rest)
    else
      return (.fraction (Decimal.ofDigits digits decimals (exponent.getD 0)).isFinite, rest)

/-! ## Values -/

/-- The text behind a word, if the text begins with it. -/
def dropWord? : (word : List Char) → List Char → Option (List Char)
  | [], chars => some chars
  | w :: word, c :: chars => if w = c then dropWord? word chars else none
  | _ :: _, [] => none

/-- A value whose whole text is one word, sign or string. -/
def ofToken (token : Option (Draft × List Char)) : Draft × Option (List Char) :=
  match token with
  | some (draft, rest) => (draft, some rest)
  | none => (.broken, none)

mutual

/-- The value a text begins with, and the text behind it unless a fault lies in between. Values
nest at most `fuel` deep. -/
def read : (fuel : Nat) → List Char → Draft × Option (List Char)
  | 0, _ => (.broken, none)
  | fuel + 1, chars =>
    match skipBlanks chars with
    | 'n' :: rest => ofToken ((dropWord? "ull".toList rest).map (.null, ·))
    | 't' :: rest => ofToken ((dropWord? "rue".toList rest).map (.bool true, ·))
    | 'f' :: rest => ofToken ((dropWord? "alse".toList rest).map (.bool false, ·))
    | '"' :: rest => ofToken ((readText? rest).map fun (s, rest) => (.text s, rest))
    | '-' :: rest => ofToken ((readNumber? true rest).map fun (n, rest) => (.number n, rest))
    | '[' :: rest =>
      match skipBlanks rest with
      | ']' :: rest => (.list [] true, some rest)
      | rest =>
        let (items, rest) := readItems fuel rest
        (.list items rest.isSome, rest)
    | '\x7b' :: rest =>
      match skipBlanks rest with
      | '\x7d' :: rest => (.object [] true, some rest)
      | rest =>
        let (fields, rest) := readFields fuel rest
        (.object fields rest.isSome, rest)
    | rest => ofToken ((readNumber? false rest).map fun (n, rest) => (.number n, rest))

/-- The items of a list up to its end. -/
def readItems : (fuel : Nat) → List Char → List Draft × Option (List Char)
  | 0, _ => ([], none)
  | fuel + 1, chars =>
    match read fuel chars with
    | (item, none) => ([item], none)
    | (item, some rest) =>
      match skipBlanks rest with
      | ']' :: rest => ([item], some rest)
      | ',' :: rest =>
        let (items, rest) := readItems fuel rest
        (item :: items, rest)
      | _ => ([item], none)

/-- The fields of an object up to its end. -/
def readFields : (fuel : Nat) → List Char → List (Option String × Draft) × Option (List Char)
  | 0, _ => ([], none)
  | fuel + 1, chars =>
    match skipBlanks chars with
    | '"' :: rest =>
      match readText? rest with
      | none => ([], none)
      | some (name, rest) =>
        match skipBlanks rest with
        | ':' :: rest =>
          match read fuel rest with
          | (value, none) => ([(name, value)], none)
          | (value, some rest) =>
            match skipBlanks rest with
            | '\x7d' :: rest => ([(name, value)], some rest)
            | ',' :: rest =>
              let (fields, rest) := readFields fuel rest
              ((name, value) :: fields, rest)
            | _ => ([(name, value)], none)
        | _ => ([(name, .broken)], none)
    | _ => ([], none)

end

/-- The value a text begins with, and whether the text ends with it. -/
def ofString (text : String) : Draft × Bool :=
  let chars := text.toList
  match read (2 * chars.length + 2) chars with
  | (draft, some rest) => (draft, (skipBlanks rest).isEmpty)
  | (draft, none) => (draft, false)

end Draft

end DebugLink
