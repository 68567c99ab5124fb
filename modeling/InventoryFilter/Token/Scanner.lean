import InventoryFilter.Text.Measure
import InventoryFilter.Token.Basic
import InventoryFilter.Token.Lexeme

set_option autoImplicit false

/-!
# The token stream of a filter

A scanner walks through a filter and yields one token after another, and the end of the input again
and again when there is nothing left.  It can be stepped, or read as a stream that is finished once
it has yielded the end.
-/

namespace InventoryFilter

open Text

/-- Whether the character only separates tokens. -/
def isSeparator (c : Char) : Bool := c == ' ' || c == '\t' || c == '\r' || c == '\n'

/-- A place in a filter. -/
structure Scanner where
  /-- the offset at which the last token began -/
  start : Nat
  /-- the offset of the next character -/
  position : Nat
  /-- the characters from there on -/
  rest : List Char
  /-- whether the stream has yielded the end -/
  finished : Bool
  deriving DecidableEq, Repr, Inhabited

namespace Scanner

/-- The beginning of a filter. -/
def ofInput (input : String) : Scanner := ⟨0, 0, input.toList, false⟩

/-- The next token and the place after it. -/
def step (s : Scanner) : Token × Scanner :=
  let start := s.position + byteLength (s.rest.takeWhile isSeparator)
  match s.rest.dropWhile isSeparator with
  | [] => (.finishAt start, { s with start, position := start, rest := [] })
  | c :: cs =>
    let (lexeme, rest) := Lexeme.first c cs
    let stop := start + byteLength lexeme.source
    (⟨lexeme.kind, ⟨start, stop⟩, .ofList lexeme.text⟩, { s with start, position := stop, rest })

/-- The next token of the stream, or none once the stream has yielded the end. -/
def next? (s : Scanner) : Option Token × Scanner :=
  if s.finished then (none, s)
  else (some s.step.1, { s.step.2 with finished := s.step.1.isFinish })

/-- A token other than the end takes at least one character. -/
theorem length_rest_step_lt {s : Scanner} (h : s.step.1.isFinish = false) :
    s.step.2.rest.length < s.rest.length := by
  have hle : (s.rest.dropWhile isSeparator).length ≤ s.rest.length :=
    (List.dropWhile_sublist isSeparator).length_le
  unfold step at h ⊢
  split at h
  · simp [Token.isFinish, Token.finishAt] at h
  · next c cs hrest =>
    rw [hrest] at hle
    exact Nat.lt_of_lt_of_le (Lexeme.length_first_rest_lt c cs) hle

/-- All remaining tokens of the stream, and the place after them. -/
def drain (s : Scanner) : List Token × Scanner :=
  if s.finished then ([], s)
  else if _h : s.step.1.isFinish then ([s.step.1], { s.step.2 with finished := true })
  else
    let (tokens, last) := s.step.2.drain
    (s.step.1 :: tokens, last)
termination_by s.rest.length
decreasing_by exact length_rest_step_lt (by simpa using _h)

end Scanner

/-- All tokens of a filter, with the end of the input last. -/
def tokenize (input : String) : List Token := (Scanner.ofInput input).drain.1

end InventoryFilter
