import InventoryFilter.Pattern.Fault
import InventoryFilter.Pattern.Spacing
import InventoryFilter.Pattern.Tree

set_option autoImplicit false

/-!
# Escapes

What may follow a backslash: a character by number, a property, a class of one letter, an
assertion, a control character by letter, or a sign that stands for itself.
-/

namespace InventoryFilter.Pattern

/-! ## Characters by number -/

/-- Whether the character is a hexadecimal digit. -/
def isHexDigit (c : Char) : Bool :=
  c.isDigit || ('a' ≤ c && c ≤ 'f') || ('A' ≤ c && c ≤ 'F')

/-- The value of a hexadecimal digit. -/
def hexValue (c : Char) : Nat :=
  if c.isDigit then c.toNat - '0'.toNat
  else if 'a' ≤ c && c ≤ 'f' then c.toNat - 'a'.toNat + 10
  else c.toNat - 'A'.toNat + 10

/-- The number that hexadecimal digits spell. -/
def hexNumber (digits : List Char) : Nat := digits.foldl (fun n c => 16 * n + hexValue c) 0

/-- The character with the number that the digits spell. -/
def hexChar (digits : List Char) (byte : Bool) : Except Fault Atom :=
  let n := hexNumber digits
  if n.isValidChar then .ok (.literal (Char.ofNat n) byte) else .error .hexNotScalar

/-- Exactly so many hexadecimal digits. -/
def readHexDigits (spaced : Bool) : Nat → List Char → Except Fault (List Char × List Char)
  | 0, cs => .ok ([], cs)
  | _ + 1, [] => .error .escapeUnclosed
  | count + 1, c :: cs =>
    if isHexDigit c then do
      let (digits, rest) ← readHexDigits spaced count (skipSpacing spaced cs)
      .ok (c :: digits, rest)
    else .error .hexDigit

/-- A character by number, after the letter that announces it: so many digits, or any number of
digits between braces. -/
def readHex (spaced : Bool) (count : Nat) (cs : List Char) : Except Fault (Atom × List Char) :=
  match skipSpacing spaced cs with
  | [] => .error .escapeUnclosed
  | '\x7b' :: inner =>
    match spanSpaced spaced isHexDigit false inner with
    | (_, []) => .error .escapeUnclosed
    | (digits, c :: rest) =>
      if c ≠ '\x7d' then .error .hexDigit
      else if digits.isEmpty then .error .hexEmpty
      else do
        let a ← hexChar digits false
        .ok (a, skipSpacing spaced rest)
  | cs => do
    let (digits, rest) ← readHexDigits spaced count cs
    let a ← hexChar digits (count == 2)
    .ok (a, rest)

/-! ## Properties -/

/-- The text before and after the first `!=`. -/
def splitAtNotEqual : List Char → Option (List Char × List Char)
  | '!' :: '=' :: rest => some ([], rest)
  | [] => none
  | c :: cs => (splitAtNotEqual cs).map fun (before, after) => (c :: before, after)

/-- The text before and after the first occurrence of a character. -/
def splitAtChar (separator : Char) (cs : List Char) : Option (List Char × List Char) :=
  match cs.span (· ≠ separator) with
  | (_, []) => none
  | (before, _ :: after) => some (before, after)

/-- The request that stands between the braces of a property escape. -/
def PropertyQuery.ofText (text : List Char) : PropertyQuery :=
  match splitAtNotEqual text with
  | some (name, value) => .valued name value
  | none =>
    match splitAtChar ':' text with
    | some (name, value) => .valued name value
    | none =>
      match splitAtChar '=' text with
      | some (name, value) => .valued name value
      | none => .named text

/-- A property, after the letter that announces it: one character, or a request in braces. -/
def readProperty (spaced negated : Bool) (cs : List Char) : Except Fault (Atom × List Char) :=
  match skipSpacing spaced cs with
  | [] => .error .escapeUnclosed
  | '\x7b' :: inner =>
    match spanSpaced spaced (· ≠ '\x7d') false inner with
    | (_, []) => .error .escapeUnclosed
    | (text, _ :: rest) => .ok (.property negated (.ofText text), rest)
  | c :: rest =>
    if c = '\\' then .error .propertyMalformed
    else .ok (.property negated (.named [c]), skipSpacing spaced rest)

/-! ## Word boundaries -/

/-- Whether the character may stand in the name of a word boundary. -/
def isBoundaryChar (c : Char) : Bool := c.isAlpha || c == '-'

/-- The names of word boundaries. -/
def boundaryNames : List String := ["start", "end", "start-half", "end-half"]

/-- What may follow a word boundary: a brace with a letter or hyphen after it opens a name, and any
other brace is left to be read as a count. -/
def readBoundary (spaced : Bool) (cs : List Char) : Except Fault (Atom × List Char) :=
  match cs with
  | '\x7b' :: inner =>
    match skipSpacing spaced inner with
    | [] => .error .boundaryOrCountUnclosed
    | c :: _ =>
      if isBoundaryChar c then
        match spanSpaced spaced isBoundaryChar false inner with
        | (_, []) => .error .boundaryUnclosed
        | (name, c :: rest) =>
          if c ≠ '\x7d' then .error .boundaryUnclosed
          else if boundaryNames.contains (String.ofList name) then .ok (.assertion, rest)
          else .error .boundaryUnknown
      else .ok (.assertion, cs)
  | _ => .ok (.assertion, cs)

/-! ## All escapes -/

/-- Whether a backslash before the character lets it stand for itself. -/
def isEscapable (c : Char) : Bool :=
  c.toNat < 128 && !c.isAlphanum && c != '<' && c != '>'

/-- The control characters with an escape of one letter. -/
def controlEscape? : Char → Option Char
  | 'a' => some '\x07'
  | 'f' => some '\x0c'
  | 't' => some '\t'
  | 'n' => some '\n'
  | 'r' => some '\r'
  | 'v' => some '\x0b'
  | _ => none

/-- The classes with an escape of one letter, a capital letter for the complement. -/
def shorthandEscape? : Char → Option (Bool × Shorthand)
  | 'd' => some (false, .digit)
  | 's' => some (false, .space)
  | 'w' => some (false, .word)
  | 'D' => some (true, .digit)
  | 'S' => some (true, .space)
  | 'W' => some (true, .word)
  | _ => none

/-- How many digits follow the letters that announce a character by number. -/
def hexLength? : Char → Option Nat
  | 'x' => some 2
  | 'u' => some 4
  | 'U' => some 8
  | _ => none

/-- An escape, after its backslash. -/
def readEscape (spaced : Bool) : List Char → Except Fault (Atom × List Char)
  | [] => .error .escapeUnclosed
  | c :: rest =>
    if c.isDigit then .error .backreference
    else if let some count := hexLength? c then readHex spaced count rest
    else if c = 'p' || c = 'P' then readProperty spaced (c == 'P') rest
    else if let some (negated, kind) := shorthandEscape? c then .ok (.shorthand negated kind, rest)
    else if isEscapable c then .ok (.literal c false, rest)
    else if let some control := controlEscape? c then .ok (.literal control false, rest)
    else if c = 'b' then readBoundary spaced rest
    else if ['A', 'z', 'B', '<', '>'].contains c then .ok (.assertion, rest)
    else .error .escapeUnknown

end InventoryFilter.Pattern
