import InventoryFilter.Proofs.Placement

set_option autoImplicit false

/-!
# The grammar of tokens

Which token a text begins with, said without a scanner.  There are five classes of tokens.  The
beginning of the text decides which of them the token is in, each class says how far the token
goes, and a text that begins with none of them begins with an illegal piece:

    word     := (alphabetic | "_") (alphabetic | numeric | "." | "_")*    as long as it goes
    quantity := digit+ ("." digit+)?                                      as long as it goes,
                and then all ASCII letters that follow, if together they are a unit
    symbol   := "(" | ")" | "=" | "!=" | "<" | "<=" | ">" | ">=" | "~" | "!~"    the longer one
    string   := a quote, one or more other characters, the same quote
    pattern  := "/" (neither "/" nor "\" | "\" any character)* "/"

Main statement: every token of a filter, before the end of the input, is the one with which the
filter begins at its place.
-/

namespace InventoryFilter

namespace Lexical

/-! ## Forms of tokens -/

/-- Whether the text begins with such a character. -/
def BeginsWith (p : Char → Prop) (text : List Char) : Prop := ∃ c cs, text = c :: cs ∧ p c

/-- `source` is the longest beginning of the text that has the form. -/
structure Longest (form : List Char → Prop) (text source : List Char) : Prop where
  begins : source <+: text
  fits : form source
  longest : ∀ other, other <+: text → form other → other.length ≤ source.length

/-- Whether all characters may stand in a word. -/
def IsWordRun (cs : List Char) : Prop :=
  ∀ c ∈ cs, Text.isAlphabetic c = true ∨ Text.isNumeric c = true ∨ c = '.' ∨ c = '_'

/-- Whether the text is the word, in any mixture of small and capital ASCII letters. -/
def IsSpelling (word : String) (cs : List Char) : Prop :=
  Text.asciiLower cs = word.toList

/-- One or more digits. -/
def IsDigits (cs : List Char) : Prop := cs ≠ [] ∧ ∀ c ∈ cs, c.isDigit = true

/-- Digits, and perhaps a point and more digits. -/
def IsNumeral (cs : List Char) : Prop :=
  IsDigits cs ∨
    ∃ whole fraction, IsDigits whole ∧ IsDigits fraction ∧ cs = whole ++ '.' :: fraction

/-- Whether all characters are ASCII letters. -/
def IsLetters (cs : List Char) : Prop := ∀ c ∈ cs, c.isAlpha = true

/-- Whether the letters name a unit. -/
def IsUnit (cs : List Char) : Prop :=
  IsSpelling "kb" cs ∨ IsSpelling "mb" cs ∨ IsSpelling "gb" cs ∨ IsSpelling "tb" cs

/-- The operators and brackets that are no words. -/
def symbols : List (TokenKind × List Char) :=
  [(.openBracket, ['(']), (.closeBracket, [')']), (.equal, ['=']), (.notEqual, ['!', '=']),
    (.less, ['<']), (.lessEqual, ['<', '=']), (.greater, ['>']), (.greaterEqual, ['>', '=']),
    (.like, ['~']), (.notLike, ['!', '~'])]

/-- Whether the text is an operator or a bracket. -/
def IsSymbol (cs : List Char) : Prop := ∃ kind, (kind, cs) ∈ symbols

/-- A quote, one or more other characters, and the same quote. -/
def IsQuoted (cs : List Char) : Prop :=
  ∃ quote content, (quote = '\'' ∨ quote = '"') ∧ content ≠ [] ∧ quote ∉ content ∧
    cs = quote :: content ++ [quote]

/-- The characters of a pattern between slashes. -/
def IsSlashed (cs : List Char) : Prop :=
  ∃ body text, Lexeme.PatternBody body text ∧ cs = '/' :: body ++ ['/']

/-! ## Classes of tokens -/

/-- The classes of legal tokens. -/
inductive TokenClass
  | word
  | quantity
  | symbol
  | string
  | pattern
  deriving DecidableEq, Repr

namespace TokenClass

/-- The class of the tokens of the kind.  Illegal pieces and the end of the input are in none. -/
def ofKind? : TokenKind → Option TokenClass
  | .and | .or | .boolean | .identifier => some word
  | .quantity => some quantity
  | .equal | .notEqual | .less | .lessEqual | .greater | .greaterEqual | .like | .notLike
  | .openBracket | .closeBracket => some symbol
  | .string => some string
  | .pattern => some pattern
  | .illegal | .finish => none

/-- Whether the text begins with a token of the class. -/
def Opens : TokenClass → List Char → Prop
  | word, text => BeginsWith (fun c => Text.isAlphabetic c = true ∨ c = '_') text
  | quantity, text => BeginsWith (fun c => c.isDigit = true) text
  | symbol, text => ∃ source, IsSymbol source ∧ source <+: text
  | string, text => ∃ source, IsQuoted source ∧ source <+: text
  | pattern, text => ∃ source, IsSlashed source ∧ source <+: text

/-- Which kind a token of the class is at the beginning of the text, and how far it goes. -/
def Takes : TokenClass → List Char → TokenKind → List Char → Prop
  | word, text, kind, source =>
    Longest IsWordRun text source ∧
      (kind = .and ↔ IsSpelling "and" source) ∧ (kind = .or ↔ IsSpelling "or" source) ∧
      (kind = .boolean ↔ IsSpelling "true" source ∨ IsSpelling "false" source) ∧
      (kind = .identifier ↔ ¬ (IsSpelling "and" source ∨ IsSpelling "or" source ∨
        IsSpelling "true" source ∨ IsSpelling "false" source))
  | quantity, text, _, source =>
    ∃ number letters, Longest IsNumeral text number ∧
      Longest IsLetters (text.drop number.length) letters ∧
      (IsUnit letters → source = number ++ letters) ∧ (¬ IsUnit letters → source = number)
  | symbol, text, kind, source => Longest IsSymbol text source ∧ (kind, source) ∈ symbols
  | string, text, _, source => IsQuoted source ∧ source <+: text
  | pattern, text, _, source => IsSlashed source ∧ source <+: text

end TokenClass

/-- What an illegal token takes: the quotes of an empty text, all of a text or a pattern that does
not end, and otherwise one character. -/
inductive IllegalPiece : List Char → List Char → Prop
  | emptyText {quote : Char} {rest : List Char} (hquote : quote = '\'' ∨ quote = '"') :
      IllegalPiece (quote :: quote :: rest) [quote, quote]
  | openText {quote : Char} {rest : List Char} (hquote : quote = '\'' ∨ quote = '"')
      (hopen : quote ∉ rest) : IllegalPiece (quote :: rest) (quote :: rest)
  | openPattern {rest : List Char} : IllegalPiece ('/' :: rest) ('/' :: rest)
  | character {c : Char} {rest : List Char} (hquote : ¬ (c = '\'' ∨ c = '"')) (hslash : c ≠ '/') :
      IllegalPiece (c :: rest) [c]

/-- `IsFirst text kind source`: the token with which the text begins is of the kind, and it takes
`source`. -/
structure IsFirst (text : List Char) (kind : TokenKind) (source : List Char) : Prop where
  begins : source <+: text
  /-- the token is of a class exactly if the text begins with a token of the class -/
  opens : ∀ k : TokenClass, TokenClass.ofKind? kind = some k ↔ k.Opens text
  /-- the token takes what its class prescribes -/
  takes : ∀ k : TokenClass, TokenClass.ofKind? kind = some k → k.Takes text kind source
  /-- the token is illegal exactly if the text begins with no token of any class -/
  illegal : kind = .illegal ↔ ∀ k : TokenClass, ¬ k.Opens text
  illegalPiece : kind = .illegal → IllegalPiece text source

/-! ## Longest runs -/

theorem longest_takeWhile {p : Char → Bool} {form : List Char → Prop}
    (hform : ∀ cs, form cs ↔ ∀ c ∈ cs, p c = true) (cs : List Char) :
    Longest form cs (cs.takeWhile p) where
  begins := List.takeWhile_prefix p
  fits := (hform _).2 (List.all_eq_true.1 List.all_takeWhile)
  longest := by
    rintro other ⟨rest, rfl⟩ hother
    rw [List.takeWhile_append_of_pos ((hform other).1 hother), List.length_append]
    exact Nat.le_add_right _ _

theorem isWordRun_iff (cs : List Char) :
    IsWordRun cs ↔ ∀ c ∈ cs, Lexeme.isWordChar c = true := by
  simp [IsWordRun, Lexeme.isWordChar, or_assoc]

/-! ## Words -/

theorem ofWord_of_isSpelling {cs : List Char} {word : String} {kind : TokenKind}
    (hmem : (word, kind) ∈ TokenKind.keywords) (h : IsSpelling word cs) :
    TokenKind.ofWord cs = kind := by
  have hsame : ∀ other : String,
      Text.sameIgnoringCase other.toList cs = (Text.asciiLower other.toList == word.toList) := by
    intro other
    rw [Text.sameIgnoringCase, h]
  simp only [TokenKind.keywords, List.mem_cons, Prod.mk.injEq, List.not_mem_nil, or_false] at hmem
  simp only [TokenKind.ofWord, hsame]
  rcases hmem with ⟨rfl, rfl⟩ | ⟨rfl, rfl⟩ | ⟨rfl, rfl⟩ | ⟨rfl, rfl⟩ <;> rfl

theorem exists_isSpelling_of_ofWord {cs : List Char} (h : TokenKind.ofWord cs ≠ .identifier) :
    ∃ word, (word, TokenKind.ofWord cs) ∈ TokenKind.keywords ∧ IsSpelling word cs := by
  have hlower : ∀ entry ∈ TokenKind.keywords,
      Text.asciiLower entry.1.toList = entry.1.toList := by
    decide
  unfold TokenKind.ofWord at h ⊢
  split at h
  · next word kind hfind =>
    have hmem := List.mem_of_find?_eq_some hfind
    have hsame := List.find?_some hfind
    simp only [Text.sameIgnoringCase_iff] at hsame
    exact ⟨word, hmem, hsame.symm.trans (hlower _ hmem)⟩
  · exact absurd rfl h

/-- A word is a keyword exactly if it is spelled as one. -/
theorem ofWord_iff (cs : List Char) :
    (TokenKind.ofWord cs = .and ↔ IsSpelling "and" cs) ∧
      (TokenKind.ofWord cs = .or ↔ IsSpelling "or" cs) ∧
      (TokenKind.ofWord cs = .boolean ↔ IsSpelling "true" cs ∨ IsSpelling "false" cs) ∧
      (TokenKind.ofWord cs = .identifier ↔ ¬ (IsSpelling "and" cs ∨ IsSpelling "or" cs ∨
        IsSpelling "true" cs ∨ IsSpelling "false" cs)) := by
  have hand := @ofWord_of_isSpelling cs "and" .and (by decide)
  have hor := @ofWord_of_isSpelling cs "or" .or (by decide)
  have htrue := @ofWord_of_isSpelling cs "true" .boolean (by decide)
  have hfalse := @ofWord_of_isSpelling cs "false" .boolean (by decide)
  by_cases hidentifier : TokenKind.ofWord cs = .identifier
  · grind
  · obtain ⟨word, hmem, hword⟩ := exists_isSpelling_of_ofWord hidentifier
    simp only [TokenKind.keywords, List.mem_cons, Prod.mk.injEq, List.not_mem_nil,
      or_false] at hmem
    grind

theorem word_takes {c : Char} (hstart : Lexeme.isWordStart c = true) (cs : List Char) :
    TokenClass.ofKind? (Lexeme.first c cs).1.kind = some .word ∧
      TokenClass.word.Takes (c :: cs) (Lexeme.first c cs).1.kind
        (Lexeme.first c cs).1.source := by
  rw [Lexeme.first_of_isWordStart hstart]
  refine ⟨?_, longest_takeWhile isWordRun_iff (c :: cs), ofWord_iff _⟩
  simp only [Lexeme.word, Lexeme.verbatim]
  rcases TokenKind.ofWord_cases ((c :: cs).takeWhile Lexeme.isWordChar) with h | h | h | h <;>
    rw [h] <;> rfl

/-! ## Quantities -/

theorem isUnit_iff (cs : List Char) : IsUnit cs ↔ (StorageUnit.ofSuffix? cs).isSome = true := by
  have hlower : ∀ unit : StorageUnit, ∀ word : String,
      Text.asciiLower unit.suffix.toList = word.toList →
      (Text.sameIgnoringCase unit.suffix.toList cs = true ↔ IsSpelling word cs) := by
    intro unit word hword
    rw [Text.sameIgnoringCase_iff, hword, IsSpelling]
    exact eq_comm
  rw [StorageUnit.ofSuffix?, List.find?_isSome]
  simp only [StorageUnit.named, List.mem_cons, List.not_mem_nil, or_false, exists_eq_or_imp,
    exists_eq_left, hlower .kilobyte "kb" rfl, hlower .megabyte "mb" rfl,
    hlower .gigabyte "gb" rfl, hlower .terabyte "tb" rfl]
  rfl

theorem fraction_cases (cs : List Char) :
    (∃ c ds, cs = '.' :: c :: ds ∧ c.isDigit = true ∧
        Lexeme.fraction cs =
          ('.' :: (c :: ds).takeWhile Char.isDigit, (c :: ds).dropWhile Char.isDigit)) ∨
      (∀ c ds, cs = '.' :: c :: ds → c.isDigit = false) ∧ Lexeme.fraction cs = ([], cs) := by
  unfold Lexeme.fraction
  split
  · next c ds =>
    by_cases hdigit : c.isDigit = true
    · exact .inl ⟨c, ds, rfl, hdigit, by rw [if_pos hdigit]⟩
    · refine .inr ⟨?_, by rw [if_neg hdigit]⟩
      rintro d ds' ⟨⟩
      simpa using hdigit
  · next hother => exact .inr ⟨fun c ds hcs => absurd hcs (hother c ds), rfl⟩

/-- The digits at the beginning of the text, and the fraction after them, are the longest
numeral. -/
theorem longest_isNumeral {text : List Char} (h : BeginsWith (fun c => c.isDigit = true) text) :
    Longest IsNumeral text (text.takeWhile Char.isDigit ++
      (Lexeme.fraction (text.dropWhile Char.isDigit)).1) := by
  have hsplit : text.takeWhile Char.isDigit ++ text.dropWhile Char.isDigit = text :=
    List.takeWhile_append_dropWhile
  have hwhole : IsDigits (text.takeWhile Char.isDigit) := by
    obtain ⟨c, cs, rfl, hdigit⟩ := h
    refine ⟨?_, List.all_eq_true.1 List.all_takeWhile⟩
    rw [List.takeWhile_cons_of_pos hdigit]
    exact List.cons_ne_nil _ _
  refine ⟨?_, ?_, ?_⟩
  · refine ⟨(Lexeme.fraction (text.dropWhile Char.isDigit)).2, ?_⟩
    rw [List.append_assoc, Lexeme.fraction_append, hsplit]
  · rcases fraction_cases (text.dropWhile Char.isDigit) with ⟨c, ds, _, hdigit, hfraction⟩ |
      ⟨_, hfraction⟩
    · rw [hfraction]
      refine .inr ⟨_, _, hwhole, ⟨?_, List.all_eq_true.1 List.all_takeWhile⟩, rfl⟩
      rw [List.takeWhile_cons_of_pos hdigit]
      exact List.cons_ne_nil _ _
    · rw [hfraction, List.append_nil]
      exact .inl hwhole
  · rintro other hbegins (hdigits | ⟨whole, fraction, hdigits, ⟨hne, hfraction⟩, rfl⟩)
    · have hrun := longest_takeWhile (p := Char.isDigit) (fun _ => Iff.rfl) text
      have hle := hrun.longest other hbegins hdigits.2
      rw [List.length_append]
      exact Nat.le_add_right_of_le hle
    · -- a numeral with a point has the same digits before it, and no more digits after it
      obtain ⟨rest, rfl⟩ := hbegins
      obtain ⟨d, ds, rfl⟩ := List.exists_cons_of_ne_nil hne
      have hpoint : ∀ c ∈ ('.' :: (d :: ds ++ rest)).head?, c.isDigit = false := by
        rintro c ⟨⟩
        rfl
      obtain ⟨htake, hdrop⟩ := span_run hdigits.2 hpoint
      have hassoc : whole ++ '.' :: (d :: ds) ++ rest = whole ++ '.' :: (d :: ds ++ rest) := by
        simp
      rw [hassoc, htake, hdrop, List.cons_append, Lexeme.fraction,
        if_pos (hfraction d (by simp)), ← List.cons_append,
        List.takeWhile_append_of_pos hfraction]
      simp

theorem quantity_takes {c : Char} (hdigit : c.isDigit = true) (cs : List Char) :
    TokenClass.ofKind? (Lexeme.first c cs).1.kind = some .quantity ∧
      TokenClass.quantity.Takes (c :: cs) (Lexeme.first c cs).1.kind
        (Lexeme.first c cs).1.source := by
  have hnumber := longest_isNumeral ⟨c, cs, rfl, hdigit⟩
  rw [Lexeme.first_of_isDigit hdigit]
  refine ⟨rfl, _, _, hnumber, longest_takeWhile (fun _ => Iff.rfl) _, ?_⟩
  -- what is left behind the numeral is where the unit is looked for
  have hsplit : (c :: cs).takeWhile Char.isDigit ++
      (Lexeme.fraction ((c :: cs).dropWhile Char.isDigit)).1 ++
        (Lexeme.fraction ((c :: cs).dropWhile Char.isDigit)).2 = c :: cs := by
    rw [List.append_assoc, Lexeme.fraction_append, List.takeWhile_append_dropWhile]
  have hleft := congrArg (List.drop ((c :: cs).takeWhile Char.isDigit ++
    (Lexeme.fraction ((c :: cs).dropWhile Char.isDigit)).1).length) hsplit
  rw [List.drop_left] at hleft
  rw [← hleft, isUnit_iff]
  simp only [Lexeme.number, Lexeme.verbatim, Lexeme.unitLetters]
  constructor
  · intro hunit
    rw [if_pos hunit]
  · intro hunit
    rw [if_neg hunit, List.append_nil]

/-! ## Operators and brackets -/

theorem length_le_of_isSymbol {cs : List Char} (h : IsSymbol cs) : cs.length ≤ 2 := by
  have hall : ∀ entry ∈ symbols, entry.2.length ≤ 2 := by decide
  obtain ⟨kind, hmem⟩ := h
  exact hall _ hmem

/-- The pairs of characters that are symbols. -/
theorem isSymbol_pair_iff {c d : Char} :
    IsSymbol [c, d] ↔ c = '!' ∧ (d = '=' ∨ d = '~') ∨ (c = '<' ∨ c = '>') ∧ d = '=' := by
  simp only [IsSymbol, symbols, List.mem_cons, Prod.mk.injEq, List.not_mem_nil, or_false,
    List.cons.injEq, reduceCtorEq, and_false, and_true]
  grind

theorem symbol_takes_pair {kind : TokenKind} {c d : Char} (h : (kind, [c, d]) ∈ symbols)
    (cs : List Char) : TokenClass.symbol.Takes (c :: d :: cs) kind [c, d] :=
  ⟨⟨⟨cs, rfl⟩, ⟨kind, h⟩, fun _ _ hother => length_le_of_isSymbol hother⟩, h⟩

theorem symbol_takes_single {kind : TokenKind} {c : Char} {cs : List Char}
    (h : (kind, [c]) ∈ symbols) (hpair : ∀ d ds, cs = d :: ds → ¬ IsSymbol [c, d]) :
    TokenClass.symbol.Takes (c :: cs) kind [c] := by
  refine ⟨⟨⟨cs, rfl⟩, ⟨kind, h⟩, ?_⟩, h⟩
  intro other hbegins hother
  match other, hbegins with
  | [], _ => exact Nat.zero_le _
  | [_], _ => exact Nat.le_refl _
  | a :: b :: tail, ⟨rest, hrest⟩ =>
    obtain ⟨rfl, rfl⟩ := List.cons.inj hrest
    have htail : tail = [] := by
      have hle := length_le_of_isSymbol hother
      exact List.eq_nil_of_length_eq_zero (by simpa using hle)
    rw [htail] at hother
    exact absurd hother (hpair b _ rfl)

theorem symbol_takes_of_eq_some {c : Char} {cs rest : List Char} {l : Lexeme}
    (h : Lexeme.symbol? c cs = some (l, rest)) :
    TokenClass.symbol.Takes (c :: cs) l.kind l.source := by
  unfold Lexeme.symbol? at h
  split at h
  · cases h; exact symbol_takes_single (by decide) (by simp [isSymbol_pair_iff])
  · cases h; exact symbol_takes_single (by decide) (by simp [isSymbol_pair_iff])
  · cases h; exact symbol_takes_single (by decide) (by simp [isSymbol_pair_iff])
  · cases h; exact symbol_takes_single (by decide) (by simp [isSymbol_pair_iff])
  · cases h; exact symbol_takes_pair (by decide) _
  · next hother =>
    cases h
    refine symbol_takes_single (by decide) ?_
    rintro d ds rfl hsymbol
    exact hother ds (by simpa [isSymbol_pair_iff] using hsymbol)
  · cases h; exact symbol_takes_pair (by decide) _
  · next hother =>
    cases h
    refine symbol_takes_single (by decide) ?_
    rintro d ds rfl hsymbol
    exact hother ds (by simpa [isSymbol_pair_iff] using hsymbol)
  · cases h; exact symbol_takes_pair (by decide) _
  · cases h; exact symbol_takes_pair (by decide) _
  · cases h

theorem symbol?_ne_none_of_opens {c : Char} {cs : List Char}
    (h : TokenClass.symbol.Opens (c :: cs)) : Lexeme.symbol? c cs ≠ none := by
  obtain ⟨source, ⟨kind, hmem⟩, rest, hrest⟩ := h
  simp only [symbols, List.mem_cons, Prod.mk.injEq, List.not_mem_nil, or_false] at hmem
  rcases hmem with ⟨_, rfl⟩ | ⟨_, rfl⟩ | ⟨_, rfl⟩ | ⟨_, rfl⟩ | ⟨_, rfl⟩ | ⟨_, rfl⟩ | ⟨_, rfl⟩ |
    ⟨_, rfl⟩ | ⟨_, rfl⟩ | ⟨_, rfl⟩ <;>
  · cases hrest
    unfold Lexeme.symbol?
    split <;> simp_all

theorem symbol_takes {c : Char} {cs : List Char} (h : TokenClass.symbol.Opens (c :: cs)) :
    TokenClass.ofKind? (Lexeme.first c cs).1.kind = some .symbol ∧
      TokenClass.symbol.Takes (c :: cs) (Lexeme.first c cs).1.kind
        (Lexeme.first c cs).1.source := by
  obtain ⟨⟨l, rest⟩, hsymbol⟩ := Option.ne_none_iff_exists'.1 (symbol?_ne_none_of_opens h)
  have htakes := symbol_takes_of_eq_some hsymbol
  have hclass : ∀ entry ∈ symbols, TokenClass.ofKind? entry.1 = some .symbol := by decide
  rw [Lexeme.first, hsymbol]
  exact ⟨hclass _ htakes.2, htakes⟩

/-! ## Literals -/

theorem string_takes {c : Char} {cs : List Char} (h : TokenClass.string.Opens (c :: cs)) :
    TokenClass.ofKind? (Lexeme.first c cs).1.kind = some .string ∧
      TokenClass.string.Takes (c :: cs) (Lexeme.first c cs).1.kind
        (Lexeme.first c cs).1.source := by
  obtain ⟨source, hform, hbegins⟩ := h
  obtain ⟨quote, content, hquote, hne, hnot, rfl⟩ := id hform
  obtain ⟨rest, hrest⟩ := id hbegins
  have htext : quote :: (content ++ quote :: rest) = c :: cs := by simpa using hrest
  obtain ⟨rfl, rfl⟩ := List.cons.inj htext
  rw [Lexeme.first_quoted (Lexeme.isQuote_iff.2 hquote) hne hnot]
  exact ⟨rfl, hform, hbegins⟩

theorem pattern_takes {c : Char} {cs : List Char} (h : TokenClass.pattern.Opens (c :: cs)) :
    TokenClass.ofKind? (Lexeme.first c cs).1.kind = some .pattern ∧
      TokenClass.pattern.Takes (c :: cs) (Lexeme.first c cs).1.kind
        (Lexeme.first c cs).1.source := by
  obtain ⟨source, hform, hbegins⟩ := h
  obtain ⟨body, text, hbody, rfl⟩ := id hform
  obtain ⟨rest, hrest⟩ := id hbegins
  have htext : '/' :: (body ++ '/' :: rest) = c :: cs := by simpa using hrest
  obtain ⟨rfl, rfl⟩ := List.cons.inj htext
  rw [Lexeme.first_slashed hbody]
  exact ⟨rfl, hform, hbegins⟩

/-! ## First tokens -/

/-- A text that begins with a token of a class is scanned as one. -/
theorem takes_of_opens {k : TokenClass} {c : Char} {cs : List Char} (h : k.Opens (c :: cs)) :
    TokenClass.ofKind? (Lexeme.first c cs).1.kind = some k ∧
      k.Takes (c :: cs) (Lexeme.first c cs).1.kind (Lexeme.first c cs).1.source := by
  cases k with
  | word =>
    obtain ⟨_, _, ⟨⟩, hstart⟩ := h
    exact word_takes (by simpa [Lexeme.isWordStart] using hstart) cs
  | quantity =>
    obtain ⟨_, _, ⟨⟩, hdigit⟩ := h
    exact quantity_takes hdigit cs
  | symbol => exact symbol_takes h
  | string => exact string_takes h
  | pattern => exact pattern_takes h

/-- A text that begins with no token of any class is scanned as an illegal piece. -/
theorem illegalPiece_of_not_opens {c : Char} {cs : List Char}
    (h : ∀ k : TokenClass, ¬ k.Opens (c :: cs)) :
    (Lexeme.first c cs).1.kind = .illegal ∧
      IllegalPiece (c :: cs) (Lexeme.first c cs).1.source := by
  rcases Lexeme.first_cases c cs with hsymbol | ⟨hquote, hfirst⟩ | ⟨rfl, hfirst⟩ |
    ⟨hdigit, _⟩ | ⟨hstart, _⟩ | ⟨⟨_, hquote, hslash, _⟩, hfirst⟩
  · have htakes := symbol_takes_of_eq_some hsymbol
    exact absurd ⟨_, htakes.1.fits, htakes.1.begins⟩ (h .symbol)
  · have hquote' := Lexeme.isQuote_iff.1 hquote
    rw [hfirst]
    rcases Lexeme.quoted_cases c cs with ⟨hopen, hquoted⟩ | ⟨rest, rfl, hquoted⟩ |
      ⟨content, rest, hne, hnot, rfl, _⟩
    · rw [hquoted]
      exact ⟨rfl, .openText hquote' hopen⟩
    · rw [hquoted]
      exact ⟨rfl, .emptyText hquote'⟩
    · exact absurd ⟨_, ⟨c, content, hquote', hne, hnot, rfl⟩, rest, by simp⟩ (h .string)
  · rw [hfirst]
    rcases Lexeme.slashed_cases cs with ⟨_, hslashed⟩ | ⟨body, text, rest, hbody, rfl, _⟩
    · rw [hslashed]
      exact ⟨rfl, .openPattern⟩
    · exact absurd ⟨_, ⟨body, text, hbody, rfl⟩, rest, by simp⟩ (h .pattern)
  · exact absurd ⟨c, cs, rfl, hdigit⟩ (h .quantity)
  · exact absurd ⟨c, cs, rfl, by simpa [Lexeme.isWordStart] using hstart⟩ (h .word)
  · rw [hfirst]
    refine ⟨rfl, .character ?_ hslash⟩
    rw [← Lexeme.isQuote_iff, hquote]
    exact Bool.false_ne_true

/-- The lexeme with which a text is scanned is the token with which it begins. -/
theorem isFirst_first (c : Char) (cs : List Char) :
    IsFirst (c :: cs) (Lexeme.first c cs).1.kind (Lexeme.first c cs).1.source := by
  by_cases hopens : ∃ k : TokenClass, k.Opens (c :: cs)
  · obtain ⟨k, hk⟩ := hopens
    obtain ⟨hclass, htakes⟩ := takes_of_opens hk
    have hlegal : (Lexeme.first c cs).1.kind ≠ .illegal := by
      intro hillegal
      rw [hillegal] at hclass
      cases hclass
    have hunique : ∀ k', TokenClass.ofKind? (Lexeme.first c cs).1.kind = some k' → k = k' :=
      fun k' hclass' => Option.some.inj (hclass.symm.trans hclass')
    exact {
      begins := ⟨_, Lexeme.first_source c cs⟩
      opens := fun k' => ⟨fun hclass' => hunique k' hclass' ▸ hk, fun hk' => (takes_of_opens hk').1⟩
      takes := fun k' hclass' => hunique k' hclass' ▸ htakes
      illegal := ⟨fun hillegal => absurd hillegal hlegal, fun hnone => absurd hk (hnone k)⟩
      illegalPiece := fun hillegal => absurd hillegal hlegal }
  · have hnone : ∀ k : TokenClass, ¬ k.Opens (c :: cs) := fun k hk => hopens ⟨k, hk⟩
    obtain ⟨hillegal, hpiece⟩ := illegalPiece_of_not_opens hnone
    have hclass : TokenClass.ofKind? (Lexeme.first c cs).1.kind = none := by
      rw [hillegal]
      rfl
    exact {
      begins := ⟨_, Lexeme.first_source c cs⟩
      opens := fun k => ⟨fun hsome => by simp [hclass] at hsome, fun hk => absurd hk (hnone k)⟩
      takes := fun k hsome => by simp [hclass] at hsome
      illegal := ⟨fun _ => hnone, fun _ => hillegal⟩
      illegalPiece := fun _ => hpiece }

end Lexical

/-- Every token of a filter before the end of the input is the one with which the filter begins at
its place. -/
theorem tokenize_isFirst (input : String) (t : Token) (ht : t ∈ tokenize input)
    (hkind : t.kind ≠ .finish) :
    ∃ before source rest : String, input = before ++ source ++ rest ∧
      t.span.start = before.utf8ByteSize ∧ t.span.stop = (before ++ source).utf8ByteSize ∧
      Lexical.IsFirst (source ++ rest).toList t.kind source.toList := by
  obtain ⟨before, c, after, l, rest, hinput, hfirst, rfl⟩ :=
    (tiles_tokenize input).exists_first t ht hkind
  have hsource := Lexeme.first_source c after
  have hgrammar := Lexical.isFirst_first c after
  rw [hfirst] at hsource hgrammar
  rw [← hsource] at hinput hgrammar
  obtain ⟨hsplit, hstart, hstop⟩ := Lexeme.tokenAt_split hinput
  rw [Nat.zero_add]
  exact ⟨_, _, _, hsplit, hstart, hstop, by simpa using hgrammar⟩

/-- The letters behind a number are left out when they go on after a unit. -/
theorem tokenize_isFirst_number :
    let input := "RAM.Size<=1.5gbit"
    let number : Token := ⟨.quantity, ⟨10, 13⟩, "1.5"⟩
    number ∈ tokenize input ∧ number.kind ≠ .finish ∧
      ∃ before source rest : String, input = before ++ source ++ rest ∧
        10 = before.utf8ByteSize ∧ 13 = (before ++ source).utf8ByteSize ∧
        Lexical.IsFirst (source ++ rest).toList .quantity source.toList := by
  intro input number
  have hmem : number ∈ tokenize input := by decide +kernel
  exact ⟨hmem, nofun, tokenize_isFirst input number hmem nofun⟩

end InventoryFilter
