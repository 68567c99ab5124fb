set_option autoImplicit false

/-!
# What is said about a text that is no pattern

A text that is refused as a pattern comes with the words of whoever refused it.  Of a report on its
spelling only the last line is told, which says what is wrong.
-/

namespace InventoryFilter.Pattern

/-- Why a text is no pattern, in the words of whoever refused it. -/
inductive Refusal
  /-- a report on the spelling, of one or more lines -/
  | spelling (report : String)
  /-- a message about anything else -/
  | other (message : String)
  deriving DecidableEq, Repr, Inhabited

/-- The last line of a text.  A line feed at its end ends the last line and begins no other. -/
def lastLine (cs : List Char) : List Char :=
  let backwards :=
    match cs.reverse with
    | '\n' :: '\r' :: rest => rest
    | '\n' :: rest => rest
    | rest => rest
  (backwards.takeWhile (· != '\n')).reverse

/-- The text without the word that announces an error, as often as it stands in front. -/
def dropAnnouncements : List Char → List Char
  | 'e' :: 'r' :: 'r' :: 'o' :: 'r' :: ':' :: ' ' :: rest => dropAnnouncements rest
  | cs => cs

/-- What is told of a refusal. -/
def Refusal.detail : Refusal → String
  | spelling report => String.ofList (dropAnnouncements (lastLine report.toList))
  | other message => message

end InventoryFilter.Pattern
