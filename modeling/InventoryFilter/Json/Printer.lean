import InventoryFilter.Decimal.Layout
import InventoryFilter.Json.Basic

set_option autoImplicit false

/-!
# Writing JSON

A value is written on one line without spaces, or over several lines with two spaces for each level.
A writer puts its text in front of the text that follows, so that nothing is copied twice.
-/

namespace InventoryFilter.Json

/-- Numbers have an exponent below `10 ^ (-5)` and from `10 ^ 16` on, with its sign. -/
def numberLayout : Decimal.Layout := ⟨-5, 16, true⟩

/-- A control character by its number in four hexadecimal digits. -/
def controlEscape (c : Char) : List Char :=
  let digits := Nat.toDigits 16 c.toNat
  '\\' :: 'u' :: List.replicate (4 - digits.length) '0' ++ digits

/-- How a character stands in a string: quotes, backslashes and control characters are escaped. -/
def stringChar (c : Char) : List Char :=
  if c = '"' || c = '\\' then ['\\', c]
  else if c = '\x08' then ['\\', 'b']
  else if c = '\x0c' then ['\\', 'f']
  else if c = '\n' then ['\\', 'n']
  else if c = '\r' then ['\\', 'r']
  else if c = '\t' then ['\\', 't']
  else if c.toNat < 32 then controlEscape c
  else [c]

/-- A string between its quotes, in front of the text that follows it. -/
def stringBefore (s : String) (after : List Char) : List Char :=
  '"' :: s.toList.flatMap stringChar ++ '"' :: after

/-- A truth value. -/
def booleanText (b : Bool) : List Char := if b then "true".toList else "false".toList

mutual

/-- The value on one line, in front of the text that follows it. -/
def compactBefore : Json → List Char → List Char
  | null, after => "null".toList ++ after
  | boolean b, after => booleanText b ++ after
  | number d, after => (d.text numberLayout).toList ++ after
  | string s, after => stringBefore s after
  | array items, after => '[' :: compactItems items (']' :: after)
  | object fields, after => '\x7b' :: compactFields fields ('\x7d' :: after)

/-- Items with commas between them. -/
def compactItems : List Json → List Char → List Char
  | [], after => after
  | [item], after => item.compactBefore after
  | item :: items, after => item.compactBefore (',' :: compactItems items after)

/-- Fields with commas between them. -/
def compactFields : List (String × Json) → List Char → List Char
  | [], after => after
  | [(key, value)], after => stringBefore key (':' :: value.compactBefore after)
  | (key, value) :: fields, after =>
    stringBefore key (':' :: value.compactBefore (',' :: compactFields fields after))

end

/-- A number is its sign, the text of its magnitude and what follows. -/
theorem compactBefore_number (d : Decimal) (after : List Char) :
    (number d).compactBefore after =
      (if d.negative then ['-'] else []) ++ d.magnitudeText numberLayout ++ after := by
  rw [compactBefore, Decimal.text, String.toList_ofList]

/-- The beginning of a line at a level. -/
def newLine (level : Nat) : List Char := '\n' :: List.replicate (2 * level) ' '

mutual

/-- The value over several lines from a line at the given level on, in front of the text that
follows it. -/
def prettyBefore (level : Nat) : Json → List Char → List Char
  | null, after => "null".toList ++ after
  | boolean b, after => booleanText b ++ after
  | number d, after => (d.text numberLayout).toList ++ after
  | string s, after => stringBefore s after
  | array [], after => '[' :: ']' :: after
  | array (item :: items), after =>
    '[' :: prettyItems (level + 1) (item :: items) (newLine level ++ ']' :: after)
  | object [], after => '\x7b' :: '\x7d' :: after
  | object (field :: fields), after =>
    '\x7b' :: prettyFields (level + 1) (field :: fields) (newLine level ++ '\x7d' :: after)

/-- Items on lines of their own with commas between them. -/
def prettyItems (level : Nat) : List Json → List Char → List Char
  | [], after => after
  | [item], after => newLine level ++ item.prettyBefore level after
  | item :: items, after =>
    newLine level ++ item.prettyBefore level (',' :: prettyItems level items after)

/-- Fields on lines of their own with commas between them. -/
def prettyFields (level : Nat) : List (String × Json) → List Char → List Char
  | [], after => after
  | [(key, value)], after =>
    newLine level ++ stringBefore key (':' :: ' ' :: value.prettyBefore level after)
  | (key, value) :: fields, after =>
    newLine level ++ stringBefore key
      (':' :: ' ' :: value.prettyBefore level (',' :: prettyFields level fields after))

end

/-- The value as text on one line. -/
def compact (j : Json) : String := String.ofList (j.compactBefore [])

/-- The value as text over several lines. -/
def pretty (j : Json) : String := String.ofList (j.prettyBefore 0 [])

end InventoryFilter.Json
