import InventoryFilter.Text.GraphemeExtend
import InventoryFilter.Text.Unprintable

set_option autoImplicit false

/-!
# Quoted text for logs

A log line shows a text between double quotes with everything escaped that would break the line
or could not be seen: quotes, backslashes, line ends, and characters without a shape of their own.
-/

namespace InventoryFilter.Text

/-- The code point in small hexadecimal digits between braces. -/
def codePointEscape (c : Char) : List Char :=
  '\\' :: 'u' :: '\x7b' :: Nat.toDigits 16 c.toNat ++ ['\x7d']

/-- How one character stands in a quoted text. -/
def quotedChar (c : Char) : List Char :=
  if c = '\x00' then ['\\', '0']
  else if c = '\t' then ['\\', 't']
  else if c = '\r' then ['\\', 'r']
  else if c = '\n' then ['\\', 'n']
  else if c = '"' || c = '\\' then ['\\', c]
  else if isGraphemeExtend c || isUnprintable c then codePointEscape c
  else [c]

/-- The text between double quotes. -/
def quoted (s : String) : String :=
  String.ofList ('"' :: s.toList.flatMap quotedChar ++ ['"'])

end InventoryFilter.Text
