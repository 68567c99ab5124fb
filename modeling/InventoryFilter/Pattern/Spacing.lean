import InventoryFilter.Text.Blank

set_option autoImplicit false

/-!
# Free spacing

Under the free-spacing flag a pattern may hold blanks and comments between its parts.  A comment
begins with `#` and ends with the line.  Each reader below takes the flag as its first argument and
leaves the text alone when it is off.
-/

namespace InventoryFilter.Pattern

open InventoryFilter.Text

/-- The characters after leading blanks and comments, from inside a comment or not. -/
def dropSpacing (inComment : Bool) : List Char → List Char
  | [] => []
  | c :: cs =>
    if inComment then dropSpacing (c != '\n') cs
    else if isBlank c then dropSpacing false cs
    else if c = '#' then dropSpacing true cs
    else c :: cs

/-- The characters after leading blanks and comments, if these do not count. -/
def skipSpacing (spaced : Bool) (cs : List Char) : List Char :=
  if spaced then dropSpacing false cs else cs

/-- The first run of characters with a property, and what follows it.  Under free spacing, blanks
and comments around the run and inside it do not count. -/
def spanSpaced (spaced : Bool) (p : Char → Bool) (inComment : Bool) :
    List Char → List Char × List Char
  | [] => ([], [])
  | c :: cs =>
    if inComment then spanSpaced spaced p (c != '\n') cs
    else if spaced && isBlank c then spanSpaced spaced p false cs
    else if spaced && c = '#' then spanSpaced spaced p true cs
    else if p c then
      let (run, rest) := spanSpaced spaced p false cs
      (c :: run, rest)
    else ([], c :: cs)

/-- The next character that counts.  Under free spacing this looks past blanks and past the sign
of one comment, but not past the text of a comment. -/
def peekSpaced (spaced : Bool) (cs : List Char) : Option Char :=
  if spaced then
    match cs.dropWhile isBlank with
    | '#' :: rest => (rest.dropWhile isBlank).head?
    | rest => rest.head?
  else cs.head?

end InventoryFilter.Pattern
