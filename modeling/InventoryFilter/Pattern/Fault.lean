set_option autoImplicit false

/-!
# Why a pattern is refused

A pattern is read from left to right, and the first fault in its spelling counts.  A pattern that
is spelled correctly may still nest too deeply, ask for a property that does not exist, match bytes
that are no text, or be too large.
-/

namespace InventoryFilter.Pattern

/-- Why a pattern is refused. -/
inductive Fault
  /-- a repetition has nothing to repeat -/
  | repetitionMissing
  /-- a counted repetition has no closing brace -/
  | countUnclosed
  /-- a counted repetition lacks a number -/
  | countEmpty
  /-- a count does not fit 32 bits -/
  | countTooLarge
  /-- a counted repetition ends below its start -/
  | countReversed
  /-- the pattern looks ahead or behind -/
  | lookAround
  /-- the name of a group does not end -/
  | nameUnclosed
  /-- the name of a group holds a character that names cannot hold -/
  | nameCharacter
  /-- the name of a group is empty -/
  | nameEmpty
  /-- two groups have the same name -/
  | nameDuplicate
  /-- a group is not closed -/
  | groupUnclosed
  /-- a bracket closes no group -/
  | groupUnopened
  /-- a letter is not a flag -/
  | flagUnknown
  /-- a flag is given twice -/
  | flagDuplicate
  /-- flags are negated twice -/
  | negationRepeated
  /-- a negation has no flag after it -/
  | negationDangling
  /-- the flags of a group do not end -/
  | flagsUnclosed
  /-- an escape does not end -/
  | escapeUnclosed
  /-- an escape refers back to a group -/
  | backreference
  /-- an escape has no meaning -/
  | escapeUnknown
  /-- a hexadecimal escape holds something that is no digit -/
  | hexDigit
  /-- a hexadecimal escape has no digits -/
  | hexEmpty
  /-- a hexadecimal escape is not the number of a character -/
  | hexNotScalar
  /-- a property escape names no property -/
  | propertyMalformed
  /-- a brace after a word boundary does not close -/
  | boundaryOrCountUnclosed
  /-- a named word boundary does not close -/
  | boundaryUnclosed
  /-- a word boundary has an unknown name -/
  | boundaryUnknown
  /-- a character class does not close -/
  | classUnclosed
  /-- one end of a range is not a character -/
  | rangeBoundary
  /-- a range ends below its start -/
  | rangeReversed
  /-- an assertion stands in a character class -/
  | classEscape
  /-- groups, classes and repetitions nest too deeply -/
  | nestingTooDeep
  /-- a property does not exist -/
  | propertyUnknown
  /-- a property does not have the value -/
  | propertyValueUnknown
  /-- characters beyond ASCII stand where only bytes count -/
  | unicodeNotAllowed
  /-- the pattern could match a part of a character -/
  | invalidText
  /-- the pattern is too large -/
  | tooLarge
  deriving DecidableEq, Repr, Inhabited

/-- How deep a pattern may nest. -/
def nestLimit : Nat := 250

/-- How many bytes a pattern may take. -/
def sizeLimit : Nat := 10485760

/-- What is said about a fault. -/
def Fault.message : Fault → String
  | repetitionMissing => "repetition operator missing expression"
  | countUnclosed => "unclosed counted repetition"
  | countEmpty => "repetition quantifier expects a valid decimal"
  | countTooLarge => "decimal literal invalid"
  | countReversed => "invalid repetition count range, the start must be <= the end"
  | lookAround => "look-around, including look-ahead and look-behind, is not supported"
  | nameUnclosed => "unclosed capture group name"
  | nameCharacter => "invalid capture group character"
  | nameEmpty => "empty capture group name"
  | nameDuplicate => "duplicate capture group name"
  | groupUnclosed => "unclosed group"
  | groupUnopened => "unopened group"
  | flagUnknown => "unrecognized flag"
  | flagDuplicate => "duplicate flag"
  | negationRepeated => "flag negation operator repeated"
  | negationDangling => "dangling flag negation operator"
  | flagsUnclosed => "expected flag but got end of regex"
  | escapeUnclosed => "incomplete escape sequence, reached end of pattern prematurely"
  | backreference => "backreferences are not supported"
  | escapeUnknown => "unrecognized escape sequence"
  | hexDigit => "invalid hexadecimal digit"
  | hexEmpty => "hexadecimal literal empty"
  | hexNotScalar => "hexadecimal literal is not a Unicode scalar value"
  | propertyMalformed => "invalid Unicode character class"
  | boundaryOrCountUnclosed =>
    "found either the beginning of a special word boundary or a bounded repetition on a \\b " ++
      "with an opening brace, but no closing brace"
  | boundaryUnclosed =>
    "special word boundary assertion is either unclosed or contains an invalid character"
  | boundaryUnknown =>
    "unrecognized special word boundary assertion, valid choices are: " ++
      "start, end, start-half or end-half"
  | classUnclosed => "unclosed character class"
  | rangeBoundary => "invalid range boundary, must be a literal"
  | rangeReversed => "invalid character class range, the start must be <= the end"
  | classEscape => "invalid escape sequence found in character class"
  | nestingTooDeep =>
    "exceed the maximum number of nested parentheses/brackets (" ++ toString nestLimit ++ ")"
  | propertyUnknown => "Unicode property not found"
  | propertyValueUnknown => "Unicode property value not found"
  | unicodeNotAllowed => "Unicode not allowed here"
  | invalidText => "pattern can match invalid UTF-8"
  | tooLarge => "Compiled regex exceeds size limit of " ++ toString sizeLimit ++ " bytes."

end InventoryFilter.Pattern
