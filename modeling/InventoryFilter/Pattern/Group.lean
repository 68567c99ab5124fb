import InventoryFilter.Pattern.Escape
import InventoryFilter.Text.Alphabetic
import InventoryFilter.Text.Numeric

set_option autoImplicit false

/-!
# The beginning of a group

An opening bracket may be followed by a question mark and then by a name or by flags.  Flags with a
closing bracket right after them are a directive for the rest of the enclosing group.
-/

namespace InventoryFilter.Pattern

open InventoryFilter.Text

/-- What an opening bracket turns out to begin. -/
inductive Opening
  /-- flags for the rest of the enclosing group -/
  | directive (settings : FlagSettings)
  /-- a group that is counted -/
  | capturing
  /-- a group that is counted and has a name -/
  | named (name : List Char)
  /-- a group with flags of its own -/
  | plain (settings : FlagSettings)
  deriving DecidableEq, Repr, Inhabited

/-! ## Flags -/

/-- The flag with the given letter. -/
def Flag.ofChar? : Char → Option Flag
  | 'i' => some .caseInsensitive
  | 'm' => some .multiLine
  | 's' => some .dotMatchesLineEnd
  | 'U' => some .swapGreed
  | 'u' => some .unicode
  | 'R' => some .crlf
  | 'x' => some .freeSpacing
  | _ => none

/-- The flags up to a colon or a closing bracket, given whether a negation was seen, whether it was
seen just now, and the settings so far, the last one first. -/
def readFlags (negated dangling : Bool) (seen : FlagSettings) :
    List Char → Except Fault (Opening × List Char)
  | [] => .error .flagsUnclosed
  | c :: rest =>
    if c = ':' then
      if dangling then .error .negationDangling else .ok (.plain seen.reverse, rest)
    else if c = ')' then
      if dangling then .error .negationDangling
      else if seen.isEmpty then .error .repetitionMissing
      else .ok (.directive seen.reverse, rest)
    else if c = '-' then
      if negated then .error .negationRepeated else readFlags true true seen rest
    else
      match Flag.ofChar? c with
      | none => .error .flagUnknown
      | some flag =>
        if (seen.lookup flag).isSome then .error .flagDuplicate
        else readFlags negated false ((flag, !negated) :: seen) rest

/-! ## Names -/

/-- Whether a name may begin with the character. -/
def isNameStart (c : Char) : Bool := c == '_' || isAlphabetic c

/-- Whether a name may go on with the character. -/
def isNameChar (c : Char) : Bool :=
  isNameStart c || isNumeric c || c == '.' || c == '[' || c == ']'

/-- The rest of a name up to its closing angle bracket. -/
def readNameRest : List Char → Except Fault (List Char × List Char)
  | [] => .error .nameUnclosed
  | c :: rest =>
    if c = '>' then .ok ([], rest)
    else if isNameChar c then do
      let (name, rest) ← readNameRest rest
      .ok (c :: name, rest)
    else .error .nameCharacter

/-- A name up to its closing angle bracket, which is none of the names already given. -/
def readGroupName (names : List (List Char)) : List Char → Except Fault (List Char × List Char)
  | [] => .error .nameUnclosed
  | c :: rest =>
    if c = '>' then .error .nameEmpty
    else if isNameStart c then do
      let (more, rest) ← readNameRest rest
      if names.contains (c :: more) then .error .nameDuplicate else .ok (c :: more, rest)
    else .error .nameCharacter

/-- The beginning of a group, after its opening bracket, given the names of the groups so far. -/
def readOpening (spaced : Bool) (names : List (List Char)) (cs : List Char) :
    Except Fault (Opening × List Char) :=
  match skipSpacing spaced cs with
  | '?' :: '=' :: _ | '?' :: '!' :: _ | '?' :: '<' :: '=' :: _ | '?' :: '<' :: '!' :: _ =>
    .error .lookAround
  | '?' :: 'P' :: '<' :: rest | '?' :: '<' :: rest => do
    let (name, rest) ← readGroupName names rest
    .ok (.named name, rest)
  | ['?'] => .error .groupUnclosed
  | '?' :: rest => readFlags false false [] rest
  | rest => .ok (.capturing, rest)

end InventoryFilter.Pattern
