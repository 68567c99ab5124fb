import InventoryFilter.Json.Basic

set_option autoImplicit false

/-!
# Reading JSON

The reader accepts exactly one value with nothing but blanks around it.  It takes no trailing
commas, no comments, no leading zeros, and no control characters or halves of surrogate pairs in
strings.
-/

namespace InventoryFilter.Json

/-- Whether the character may stand between the parts of a value. -/
def isBlank (c : Char) : Bool := c == ' ' || c == '\t' || c == '\n' || c == '\r'

/-- The text after leading blanks. -/
def skipBlanks (cs : List Char) : List Char := cs.dropWhile isBlank

theorem skipBlanks_cons {c : Char} (hc : isBlank c = false) (cs : List Char) :
    skipBlanks (c :: cs) = c :: cs := by
  simp [skipBlanks, hc]

/-! ## Strings -/

/-- The value of a hexadecimal digit. -/
def hexDigit? (c : Char) : Option Nat :=
  if c.isDigit then some (c.toNat - '0'.toNat)
  else if 'a' ≤ c && c ≤ 'f' then some (c.toNat - 'a'.toNat + 10)
  else if 'A' ≤ c && c ≤ 'F' then some (c.toNat - 'A'.toNat + 10)
  else none

/-- A number of four hexadecimal digits. -/
def readHex? : List Char → Option (Nat × List Char)
  | a :: b :: c :: d :: rest => do
    let a ← hexDigit? a
    let b ← hexDigit? b
    let c ← hexDigit? c
    let d ← hexDigit? d
    some (((a * 16 + b) * 16 + c) * 16 + d, rest)
  | _ => none

/-- A character by its number, after the letter that announces it.  A character beyond the first
`2 ^ 16` is given as a pair of surrogates. -/
def readCodePoint? (cs : List Char) : Option (Char × List Char) := do
  let (high, rest) ← readHex? cs
  if 0xD800 ≤ high && high < 0xDC00 then
    match rest with
    | '\\' :: 'u' :: rest =>
      let (low, rest) ← readHex? rest
      if 0xDC00 ≤ low && low < 0xE000 then
        some (Char.ofNat (0x10000 + (high - 0xD800) * 0x400 + (low - 0xDC00)), rest)
      else none
    | _ => none
  else if 0xDC00 ≤ high && high < 0xE000 then none
  else some (Char.ofNat high, rest)

/-- An escape, after its backslash. -/
def readEscape? : List Char → Option (Char × List Char)
  | '"' :: rest => some ('"', rest)
  | '\\' :: rest => some ('\\', rest)
  | '/' :: rest => some ('/', rest)
  | 'b' :: rest => some ('\x08', rest)
  | 'f' :: rest => some ('\x0c', rest)
  | 'n' :: rest => some ('\n', rest)
  | 'r' :: rest => some ('\r', rest)
  | 't' :: rest => some ('\t', rest)
  | 'u' :: rest => readCodePoint? rest
  | _ => none

/-- The rest of a string, after its opening quote.  Each step takes at least one character. -/
def readString? : Nat → List Char → Option (List Char × List Char)
  | 0, _ => none
  | _ + 1, [] => none
  | fuel + 1, c :: rest =>
    if c = '"' then some ([], rest)
    else if c = '\\' then do
      let (d, rest) ← readEscape? rest
      let (more, rest) ← readString? fuel rest
      some (d :: more, rest)
    else if c.toNat < 32 then none
    else do
      let (more, rest) ← readString? fuel rest
      some (c :: more, rest)

/-! ## Numbers -/

/-- The digits before the point: a zero alone, or digits that do not begin with a zero. -/
def readWhole? : List Char → Option (List Char × List Char)
  | '0' :: rest => some (['0'], rest)
  | cs =>
    match cs.takeWhile Char.isDigit with
    | [] => none
    | digits => some (digits, cs.dropWhile Char.isDigit)

/-- The digits after the point, if there is one. -/
def readFraction? : List Char → Option (List Char × List Char)
  | '.' :: cs =>
    match cs.takeWhile Char.isDigit with
    | [] => none
    | digits => some (digits, cs.dropWhile Char.isDigit)
  | cs => some ([], cs)

/-- The digits of an exponent with its sign. -/
def readSignedDigits? (cs : List Char) : Option (Int × List Char) :=
  let (negative, cs) : Bool × List Char :=
    match cs with
    | '-' :: cs => (true, cs)
    | '+' :: cs => (false, cs)
    | cs => (false, cs)
  match cs.takeWhile Char.isDigit with
  | [] => none
  | digits =>
    let n : Int := Decimal.ofDigits digits
    some (if negative then -n else n, cs.dropWhile Char.isDigit)

/-- The exponent, if there is one. -/
def readExponent? : List Char → Option (Int × List Char)
  | 'e' :: cs | 'E' :: cs => readSignedDigits? cs
  | cs => some (0, cs)

/-- A number, after its sign. -/
def readNumber? (negative : Bool) (cs : List Char) : Option (Json × List Char) := do
  let (whole, rest) ← readWhole? cs
  let (fraction, rest) ← readFraction? rest
  let (exponent, rest) ← readExponent? rest
  let d := Decimal.ofParts negative whole fraction
  some (number ⟨negative, d.digits, d.exponent + exponent⟩, rest)

/-! ## Values -/

/-- The text after a given word, if it begins with that word. -/
def dropWord? : List Char → List Char → Option (List Char)
  | [], cs => some cs
  | _ :: _, [] => none
  | w :: ws, c :: cs => if w = c then dropWord? ws cs else none

/-- A value that is one of the three words, or a number. -/
def readScalar? (cs : List Char) : Option (Json × List Char) :=
  match cs with
  | 'n' :: _ => (dropWord? "null".toList cs).map (null, ·)
  | 't' :: _ => (dropWord? "true".toList cs).map (boolean true, ·)
  | 'f' :: _ => (dropWord? "false".toList cs).map (boolean false, ·)
  | '-' :: rest => readNumber? true rest
  | _ => readNumber? false cs

/-- The key of a field with the colon after it, and the blanks around them. -/
def readKey? (cs : List Char) : Option (String × List Char) :=
  match skipBlanks cs with
  | '"' :: rest => do
    let (key, rest) ← readString? (rest.length + 1) rest
    match skipBlanks rest with
    | ':' :: rest => some (String.ofList key, rest)
    | _ => none
  | _ => none

mutual

/-- A value with blanks before it.  Two steps take at least one character. -/
def readValue? : Nat → List Char → Option (Json × List Char)
  | 0, _ => none
  | fuel + 1, cs =>
    match skipBlanks cs with
    | '"' :: rest => do
      let (s, rest) ← readString? (rest.length + 1) rest
      some (string (String.ofList s), rest)
    | '[' :: rest =>
      match skipBlanks rest with
      | ']' :: rest => some (array [], rest)
      | _ => do
        let (items, rest) ← readItems? fuel rest
        some (array items, rest)
    | '\x7b' :: rest =>
      match skipBlanks rest with
      | '\x7d' :: rest => some (object [], rest)
      | _ => do
        let (fields, rest) ← readFields? fuel rest
        some (object fields, rest)
    | cs => readScalar? cs

/-- At least one item, and the closing bracket. -/
def readItems? : Nat → List Char → Option (List Json × List Char)
  | 0, _ => none
  | fuel + 1, cs => do
    let (item, rest) ← readValue? fuel cs
    match skipBlanks rest with
    | ']' :: rest => some ([item], rest)
    | ',' :: rest =>
      let (items, rest) ← readItems? fuel rest
      some (item :: items, rest)
    | _ => none

/-- At least one field, and the closing brace. -/
def readFields? : Nat → List Char → Option (List (String × Json) × List Char)
  | 0, _ => none
  | fuel + 1, cs => do
    let (key, rest) ← readKey? cs
    let (value, rest) ← readValue? fuel rest
    match skipBlanks rest with
    | '\x7d' :: rest => some ([(key, value)], rest)
    | ',' :: rest =>
      let (fields, rest) ← readFields? fuel rest
      some ((key, value) :: fields, rest)
    | _ => none

end

/-- Texts whose first character is no bracket and no quote are words or numbers. -/
theorem readValue?_scalar (fuel : Nat) {c : Char} (hblank : isBlank c = false) (hquote : c ≠ '"')
    (hbracket : c ≠ '[') (hbrace : c ≠ '\x7b') (cs : List Char) :
    readValue? (fuel + 1) (c :: cs) = readScalar? (c :: cs) := by
  rw [readValue?, skipBlanks_cons hblank]
  split
  · next hcs => exact absurd (List.cons.inj hcs).1 hquote
  · next hcs => exact absurd (List.cons.inj hcs).1 hbracket
  · next hcs => exact absurd (List.cons.inj hcs).1 hbrace
  · rfl

/-- The value that a text spells. -/
def ofText? (text : String) : Option Json := do
  let cs := text.toList
  let (value, rest) ← readValue? (2 * cs.length + 2) cs
  if (skipBlanks rest).isEmpty then some value else none

end InventoryFilter.Json
