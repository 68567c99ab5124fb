import InventoryFilter.Quantity.StorageUnit
import InventoryFilter.Text.Alphabetic
import InventoryFilter.Text.Numeric
import InventoryFilter.Token.Kind

set_option autoImplicit false

/-!
# The first lexeme of a text

Which token a text begins with depends on its first character: an operator or bracket, a quoted
text, a pattern between slashes, a quantity, or a word.  Anything else is illegal, one character at
a time.  Each reader returns the characters that it takes and the rest, and loses none.
-/

namespace InventoryFilter

/-- A token without its place: the characters it takes from the source, and what they say. -/
structure Lexeme where
  kind : TokenKind
  source : List Char
  text : List Char
  deriving DecidableEq, Repr, Inhabited

namespace Lexeme

/-- A lexeme that says what stands in the source. -/
def verbatim (kind : TokenKind) (source : List Char) : Lexeme := ⟨kind, source, source⟩

/-! ## Operators and brackets -/

/-- The operator or bracket that begins with the first character.  The longer one wins. -/
def symbol? : Char → List Char → Option (Lexeme × List Char)
  | '(', cs => some (verbatim .openBracket ['('], cs)
  | ')', cs => some (verbatim .closeBracket [')'], cs)
  | '=', cs => some (verbatim .equal ['='], cs)
  | '~', cs => some (verbatim .like ['~'], cs)
  | '<', '=' :: cs => some (verbatim .lessEqual ['<', '='], cs)
  | '<', cs => some (verbatim .less ['<'], cs)
  | '>', '=' :: cs => some (verbatim .greaterEqual ['>', '='], cs)
  | '>', cs => some (verbatim .greater ['>'], cs)
  | '!', '=' :: cs => some (verbatim .notEqual ['!', '='], cs)
  | '!', '~' :: cs => some (verbatim .notLike ['!', '~'], cs)
  | _, _ => none

/-! ## Quoted texts -/

/-- Whether the character opens a quoted text. -/
def isQuote (c : Char) : Bool := c == '\'' || c == '"'

/-- A text up to the next quote of the same kind.  It must end, and must not be empty. -/
def quoted (quote : Char) (cs : List Char) : Lexeme × List Char :=
  let content := cs.takeWhile (· != quote)
  match cs.dropWhile (· != quote) with
  | [] => (verbatim .illegal (quote :: content), [])
  | close :: rest =>
    if content.isEmpty then (verbatim .illegal [quote, close], rest)
    else (⟨.string, quote :: content ++ [close], content⟩, rest)

/-! ## Patterns -/

/-- A pattern up to the slash that ends it: its characters in the source, the pattern they spell,
and the rest.  A backslash before a slash makes it a part of the pattern; before any other
character it stays in the pattern with that character. -/
def patternBody? : List Char → Option (List Char × List Char × List Char)
  | [] => none
  | ['\\'] => none
  | '\\' :: c :: cs =>
    (patternBody? cs).map fun (source, text, rest) =>
      ('\\' :: c :: source, (if c = '/' then ['/'] else ['\\', c]) ++ text, rest)
  | c :: cs =>
    if c = '/' then some ([], [], cs)
    else (patternBody? cs).map fun (source, text, rest) => (c :: source, c :: text, rest)

/-- A pattern after its first slash.  It must end. -/
def slashed (cs : List Char) : Lexeme × List Char :=
  match patternBody? cs with
  | none => (verbatim .illegal ('/' :: cs), [])
  | some (source, text, rest) => (⟨.pattern, '/' :: source ++ ['/'], text⟩, rest)

/-! ## Quantities -/

/-- The point and the digits after it, if a digit follows the point. -/
def fraction : List Char → List Char × List Char
  | '.' :: c :: cs =>
    if c.isDigit then
      ('.' :: (c :: cs).takeWhile Char.isDigit, (c :: cs).dropWhile Char.isDigit)
    else ([], '.' :: c :: cs)
  | cs => ([], cs)

/-- The letters that follow, if all of them together spell a unit. -/
def unitLetters (cs : List Char) : List Char × List Char :=
  if (StorageUnit.ofSuffix? (cs.takeWhile Char.isAlpha)).isSome then
    (cs.takeWhile Char.isAlpha, cs.dropWhile Char.isAlpha)
  else ([], cs)

/-- A number with its unit. -/
def number (cs : List Char) : Lexeme × List Char :=
  let whole := cs.takeWhile Char.isDigit
  let (point, rest) := fraction (cs.dropWhile Char.isDigit)
  let (unit, rest) := unitLetters rest
  (verbatim .quantity (whole ++ point ++ unit), rest)

/-! ## Words -/

/-- Whether a word may begin with the character. -/
def isWordStart (c : Char) : Bool := Text.isAlphabetic c || c == '_'

/-- Whether a word may go on with the character. -/
def isWordChar (c : Char) : Bool :=
  Text.isAlphabetic c || Text.isNumeric c || c == '.' || c == '_'

theorem isWordChar_of_isWordStart {c : Char} (h : isWordStart c = true) :
    isWordChar c = true := by
  simp only [isWordStart, isWordChar, Bool.or_eq_true] at *
  rcases h with h | h
  · exact .inl (.inl (.inl h))
  · exact .inr h

/-- The longest word. -/
def word (cs : List Char) : Lexeme × List Char :=
  let run := cs.takeWhile isWordChar
  (verbatim (.ofWord run) run, cs.dropWhile isWordChar)

/-! ## The first lexeme -/

/-- The lexeme that the text `c :: cs` begins with, and the rest. -/
def first (c : Char) (cs : List Char) : Lexeme × List Char :=
  match symbol? c cs with
  | some found => found
  | none =>
    if isQuote c then quoted c cs
    else if c = '/' then slashed cs
    else if c.isDigit then number (c :: cs)
    else if isWordStart c then word (c :: cs)
    else (verbatim .illegal [c], cs)

/-! ## Nothing is lost -/

theorem symbol?_source {c : Char} {cs : List Char} {r : Lexeme × List Char}
    (h : symbol? c cs = some r) : r.1.source ++ r.2 = c :: cs := by
  unfold symbol? at h
  split at h <;> first | cases h; rfl | cases h

theorem quoted_source (quote : Char) (cs : List Char) :
    (quoted quote cs).1.source ++ (quoted quote cs).2 = quote :: cs := by
  have hsplit := List.takeWhile_append_dropWhile (p := (· != quote)) (l := cs)
  unfold quoted
  simp only
  split
  · next h =>
    rw [h, List.append_nil] at hsplit
    simp only [verbatim, List.append_nil, hsplit]
  · next close rest h =>
    rw [h] at hsplit
    split
    · next he =>
      have : cs.takeWhile (· != quote) = [] := by simpa using he
      rw [this] at hsplit
      simpa [verbatim] using hsplit
    · simpa using hsplit

theorem patternBody?_source {cs source text rest : List Char}
    (h : patternBody? cs = some (source, text, rest)) : source ++ '/' :: rest = cs := by
  fun_induction patternBody? cs generalizing source text rest with
  | case1 => cases h
  | case2 => cases h
  | case3 c cs ih =>
    obtain ⟨⟨s, t, r⟩, hr, he⟩ := Option.map_eq_some_iff.1 h
    cases he
    simp [ih hr]
  | case4 cs => cases h; rfl
  | case5 c cs _ _ _ ih =>
    obtain ⟨⟨s, t, r⟩, hr, he⟩ := Option.map_eq_some_iff.1 h
    cases he
    simp [ih hr]

theorem slashed_source (cs : List Char) :
    (slashed cs).1.source ++ (slashed cs).2 = '/' :: cs := by
  unfold slashed
  split
  · simp [verbatim]
  · next source text rest h => simp [patternBody?_source h]

theorem fraction_append (cs : List Char) : (fraction cs).1 ++ (fraction cs).2 = cs := by
  unfold fraction
  split
  · split
    · simp only [List.cons_append, List.takeWhile_append_dropWhile]
    · rfl
  · rfl

theorem unitLetters_append (cs : List Char) : (unitLetters cs).1 ++ (unitLetters cs).2 = cs := by
  unfold unitLetters
  split
  · exact List.takeWhile_append_dropWhile
  · rfl

theorem number_source (cs : List Char) : (number cs).1.source ++ (number cs).2 = cs := by
  simp only [number, verbatim, List.append_assoc, unitLetters_append, fraction_append,
    List.takeWhile_append_dropWhile]

theorem word_source (cs : List Char) : (word cs).1.source ++ (word cs).2 = cs :=
  List.takeWhile_append_dropWhile

/-- The first lexeme and the rest make up the text. -/
theorem first_source (c : Char) (cs : List Char) :
    (first c cs).1.source ++ (first c cs).2 = c :: cs := by
  unfold first
  split
  · next h => exact symbol?_source h
  · split
    · exact quoted_source c cs
    · split
      · next h => subst h; exact slashed_source cs
      · split
        · exact number_source (c :: cs)
        · split
          · exact word_source (c :: cs)
          · rfl

/-! ## Something is taken -/

theorem symbol?_source_ne_nil {c : Char} {cs : List Char} {r : Lexeme × List Char}
    (h : symbol? c cs = some r) : r.1.source ≠ [] := by
  unfold symbol? at h
  split at h <;> first | cases h; simp [verbatim] | cases h

theorem first_source_ne_nil (c : Char) (cs : List Char) : (first c cs).1.source ≠ [] := by
  unfold first
  split
  · next h => exact symbol?_source_ne_nil h
  · split
    · unfold quoted
      simp only
      split
      · simp [verbatim]
      · split <;> simp [verbatim]
    · split
      · unfold slashed
        split <;> simp [verbatim]
      · split
        · next h => simp [number, verbatim, h]
        · split
          · next h => simp [word, verbatim, isWordChar_of_isWordStart h]
          · simp [verbatim]

/-- The rest is shorter than the text. -/
theorem length_first_rest_lt (c : Char) (cs : List Char) :
    (first c cs).2.length < (c :: cs).length := by
  rw [← first_source c cs, List.length_append]
  have h := List.length_pos_iff.2 (first_source_ne_nil c cs)
  omega

end Lexeme

end InventoryFilter
