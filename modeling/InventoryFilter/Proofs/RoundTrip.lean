import InventoryFilter.Expr.Display
import InventoryFilter.Pattern.Standard
import InventoryFilter.Proofs.Leaves
import InventoryFilter.Proofs.Readers

set_option autoImplicit false

/-!
# Showing and reading again

A tree whose leaves can be spelled is read again from the filter that shows it.  Its operators and
operands are shown with a space, a bracket or nothing after them, and in front of these every leaf
is scanned as the one token it was shown as.
-/

namespace InventoryFilter

/-- What stands after a shown expression: nothing, a space or a closing bracket. -/
def EndsExpr (rest : List Char) : Prop := ∀ c ∈ rest.head?, c = ' ' ∨ c = ')'

theorem EndsExpr.nil : EndsExpr [] := by
  intro c hc
  cases hc

theorem EndsExpr.space (rest : List Char) : EndsExpr (' ' :: rest) := by
  intro c hc
  cases hc
  exact .inl rfl

theorem EndsExpr.closeBracket (rest : List Char) : EndsExpr (')' :: rest) := by
  intro c hc
  cases hc
  exact .inr rfl

/-- A property that neither a space nor a closing bracket has is lost at the end of an
expression. -/
theorem EndsExpr.head_eq_false {rest : List Char} (h : EndsExpr rest) {p : Char → Bool}
    (hspace : p ' ' = false) (hclose : p ')' = false) : ∀ c ∈ rest.head?, p c = false := by
  intro c hc
  rcases h c hc with rfl | rfl
  · exact hspace
  · exact hclose

namespace Lexeme

/-! ## Leaves in front of what follows -/

theorem first_word {c : Char} {cs rest : List Char} (hstart : isWordStart c = true)
    (hrun : ∀ d ∈ c :: cs, isWordChar d = true) (hrest : EndsExpr rest) :
    first c (cs ++ rest) = (verbatim (.ofWord (c :: cs)) (c :: cs), rest) := by
  obtain ⟨htake, hdrop⟩ := span_run hrun (hrest.head_eq_false (by decide) (by decide))
  rw [List.cons_append] at htake hdrop
  rw [first_of_isWordStart hstart, word, htake, hdrop]

theorem unitLetters_suffix (unit : StorageUnit) {rest : List Char} (hrest : EndsExpr rest) :
    unitLetters (unit.suffix.toList ++ rest) = (unit.suffix.toList, rest) := by
  obtain ⟨htake, hdrop⟩ :=
    span_run unit.isAlpha_of_mem_suffix (hrest.head_eq_false (by decide) (by decide))
  rw [unitLetters, htake, hdrop]
  by_cases hunit : unit = .none
  · subst hunit
    rfl
  · rw [StorageUnit.ofSuffix?_suffix unit hunit]
    rfl

/-- No unit begins with a digit, and neither does what stands after an expression. -/
theorem isDigit_head_suffix (unit : StorageUnit) {rest : List Char} (hrest : EndsExpr rest) :
    ∀ c ∈ (unit.suffix.toList ++ rest).head?, c.isDigit = false := by
  cases unit with
  | none => exact hrest.head_eq_false (by decide) (by decide)
  | kilobyte => intro c hc; cases hc; decide
  | megabyte => intro c hc; cases hc; decide
  | gigabyte => intro c hc; cases hc; decide
  | terabyte => intro c hc; cases hc; decide

theorem number_fixed {cs rest : List Char} (h : Binary64.FixedForm Quantity.places cs)
    (unit : StorageUnit) (hrest : EndsExpr rest) :
    number (cs ++ unit.suffix.toList ++ rest) =
      (verbatim .quantity (cs ++ unit.suffix.toList), rest) := by
  obtain ⟨whole, point, rfl, _, _, htake, hfraction⟩ :=
    span_fixedForm (by decide) h (isDigit_head_suffix unit hrest)
  rw [List.append_assoc, number, htake, hfraction]
  simp only [unitLetters_suffix unit hrest]

/-- A shown operator is scanned as the one token it stands for. -/
theorem first_spelling (op : Operator) (rest : List Char) :
    ∃ c cs, op.spelling.toList = c :: cs ∧ isSeparator c = false ∧
      first c (cs ++ ' ' :: rest) = (verbatim op.kind op.spelling.toList, ' ' :: rest) := by
  cases op with
  | and =>
    refine ⟨'a', ['n', 'd'], by decide, by decide, ?_⟩
    exact first_word (by decide) (List.all_eq_true.1 (by decide)) (.space rest)
  | or =>
    refine ⟨'o', ['r'], by decide, by decide, ?_⟩
    exact first_word (by decide) (List.all_eq_true.1 (by decide)) (.space rest)
  | equal => exact ⟨'=', [], by decide, by decide, rfl⟩
  | notEqual => exact ⟨'!', ['='], by decide, by decide, rfl⟩
  | less => exact ⟨'<', [], by decide, by decide, rfl⟩
  | lessEqual => exact ⟨'<', ['='], by decide, by decide, rfl⟩
  | greater => exact ⟨'>', [], by decide, by decide, rfl⟩
  | greaterEqual => exact ⟨'>', ['='], by decide, by decide, rfl⟩
  | like => exact ⟨'~', [], by decide, by decide, rfl⟩
  | notLike => exact ⟨'!', ['~'], by decide, by decide, rfl⟩

end Lexeme

namespace Expr

/-! ## The tokens of a shown leaf -/

/-- A text that is shown and what follows it are scanned as one lexeme and what follows. -/
theorem map_content_lexemes {c : Char} {cs rest : List Char} {l : Lexeme}
    (hsep : isSeparator c = false) (hfirst : Lexeme.first c cs = (l, rest)) :
    (lexemes (c :: cs)).map Lexeme.content = l.content :: (lexemes rest).map Lexeme.content := by
  rw [lexemes_cons hsep, hfirst]
  rfl

theorem lexemes_quoteText {s : String} (h : TokenKind.string.Spells s.toList)
    (rest : List Char) :
    (lexemes ((quoteText s).toList ++ rest)).map Lexeme.content =
      (.string, s.toList) :: (lexemes rest).map Lexeme.content := by
  obtain ⟨hne, quote, hquote, hnot⟩ := h
  have hquote' : quote = '\'' ∨ quote = '"' := by simpa [Lexeme.isQuote] using hquote
  unfold quoteText
  split
  · next hmem =>
    -- the text holds one kind of quotes, so it was spelled between the other
    have hdouble : '"' ∉ s.toList := by
      rcases hquote' with rfl | rfl
      · exact absurd (List.contains_iff_mem.1 hmem) hnot
      · exact hnot
    simpa [Lexeme.content] using
      map_content_lexemes (by decide) (Lexeme.first_quoted (by decide) hne hdouble rest)
  · next hmem =>
    have hsingle : '\'' ∉ s.toList := fun hin => hmem (List.contains_iff_mem.2 hin)
    simpa [Lexeme.content] using
      map_content_lexemes (by decide) (Lexeme.first_quoted (by decide) hne hsingle rest)

theorem lexemes_slashPattern {s : String} (h : TokenKind.pattern.Spells s.toList)
    (rest : List Char) :
    (lexemes ((slashPattern s).toList ++ rest)).map Lexeme.content =
      (.pattern, s.toList) :: (lexemes rest).map Lexeme.content := by
  obtain ⟨source, hbody⟩ := h
  unfold slashPattern
  rw [← hbody.source_eq]
  simpa [Lexeme.content] using map_content_lexemes (by decide) (Lexeme.first_slashed hbody rest)

theorem lexemes_word (c : Char) (cs : List Char) {rest : List Char}
    (hstart : Lexeme.isWordStart c = true) (hrun : ∀ d ∈ c :: cs, Lexeme.isWordChar d = true)
    (hrest : EndsExpr rest) :
    (lexemes (c :: cs ++ rest)).map Lexeme.content =
      (.ofWord (c :: cs), c :: cs) :: (lexemes rest).map Lexeme.content := by
  have hsep : isSeparator c = false := isSeparator_eq_false hstart rfl
  exact map_content_lexemes hsep (Lexeme.first_word hstart hrun hrest)

theorem lexemes_text {q : Quantity} {rank : Fin (2047 * Nat.pow 2 52)}
    (hvalue : q.value = .finite false rank) {rest : List Char} (hrest : EndsExpr rest) :
    (lexemes (q.text.toList ++ rest)).map Lexeme.content =
      (.quantity, q.text.toList) :: (lexemes rest).map Lexeme.content := by
  have hform : Binary64.FixedForm Quantity.places (q.value.fixed Quantity.places).toList := by
    rw [hvalue]
    exact Binary64.fixed_form (by decide) rank
  have hnumber := Lexeme.number_fixed hform q.unit hrest
  rw [← String.toList_append, ← Quantity.text] at hnumber
  obtain ⟨c, cs, htext, hdigit⟩ := Quantity.exists_isDigit_text hvalue
  have hsep : isSeparator c = false := isSeparator_eq_false hdigit rfl
  rw [htext, List.cons_append] at hnumber ⊢
  exact map_content_lexemes hsep ((Lexeme.first_of_isDigit hdigit _).trans hnumber)

/-! ## The tokens of a shown expression -/

variable [Pattern.Validator]

/-- Whether every leaf is spelled as filters spell it, and every quantity is read again as it is
shown. -/
def Printable : Expr → Prop
  | binary l _ r => l.Printable ∧ r.Printable
  | quantity q => q.Unsigned ∧ Quantity.ofText q.text = .ok q
  | e => e.Spellable

/-- The quantities in the expression, from left to right and with repetitions. -/
def quantities : Expr → List Quantity
  | binary l _ r => l.quantities ++ r.quantities
  | quantity q => [q]
  | _ => []

theorem Spellable.printable {e : Expr} (h : e.Spellable)
    (hread : ∀ q ∈ e.quantities, Quantity.ofText q.text = .ok q) : e.Printable := by
  induction e with
  | binary l op r ihl ihr =>
    refine ⟨ihl h.1 fun q hq => hread q ?_, ihr h.2 fun q hq => hread q ?_⟩
    · simp [quantities, hq]
    · simp [quantities, hq]
  | quantity q => exact ⟨h, hread q (by simp [quantities])⟩
  | string s => exact h
  | identifier name => exact h
  | boolean b => exact h
  | pattern p => exact h

theorem Printable.spellable {e : Expr} (h : e.Printable) : e.Spellable := by
  induction e with
  | binary l op r ihl ihr => exact ⟨ihl h.1, ihr h.2⟩
  | quantity q => exact h.1
  | string s => exact h
  | identifier name => exact h
  | boolean b => exact h
  | pattern p => exact h

/-- The kinds and texts of the tokens that the shown expression consists of. -/
def phrase : Expr → List (TokenKind × List Char)
  | binary l op r =>
    (.openBracket, ['(']) ::
      (l.phrase ++ (op.kind, op.spelling.toList) :: (r.phrase ++ [(.closeBracket, [')'])]))
  | string s => [(.string, s.toList)]
  | identifier name => [(.identifier, name.toList)]
  | boolean b => [(.boolean, if b then ['t', 'r', 'u', 'e'] else ['f', 'a', 'l', 's', 'e'])]
  | pattern p => [(.pattern, p.text.toList)]
  | quantity q => [(.quantity, q.text.toList)]

/-- `Shows e contents`: shown before the end of an expression, `e` is scanned as tokens of these
kinds and texts. -/
def Shows (e : Expr) (contents : List (TokenKind × List Char)) : Prop :=
  ∀ rest, EndsExpr rest → (lexemes (e.display.toList ++ rest)).map Lexeme.content =
    contents ++ (lexemes rest).map Lexeme.content

theorem Shows.binary {l r : Expr} {ls rs : List (TokenKind × List Char)} (hl : l.Shows ls)
    (hr : r.Shows rs) (op : Operator) :
    (binary l op r).Shows ((.openBracket, ['(']) ::
      (ls ++ (op.kind, op.spelling.toList) :: (rs ++ [(.closeBracket, [')'])]))) := by
  intro rest _
  obtain ⟨c, cs, hop, hsep, hfirst⟩ := Lexeme.first_spelling op (r.display.toList ++ ')' :: rest)
  have hshown : (Expr.binary l op r).display.toList ++ rest =
      '(' :: (l.display.toList ++
        ' ' :: (op.spelling.toList ++ ' ' :: (r.display.toList ++ ')' :: rest))) := by
    simp [display]
  have hopen : Lexeme.first '(' (l.display.toList ++
        ' ' :: (op.spelling.toList ++ ' ' :: (r.display.toList ++ ')' :: rest))) =
      (.verbatim .openBracket ['('], _) := rfl
  have hclose : Lexeme.first ')' rest = (.verbatim .closeBracket [')'], rest) := rfl
  rw [hshown, map_content_lexemes (by decide) hopen, hl _ (.space _),
    lexemes_separator (by decide), hop, List.cons_append, map_content_lexemes hsep hfirst,
    lexemes_separator (by decide), hr _ (.closeBracket _),
    map_content_lexemes (by decide) hclose]
  simp [Lexeme.content, Lexeme.verbatim, hop]

/-- An expression whose leaves can be spelled is scanned as its own tokens. -/
theorem Spellable.shows {e : Expr} (h : e.Spellable) : e.Shows e.phrase := by
  induction e with
  | binary l op r ihl ihr => exact (ihl h.1).binary (ihr h.2) op
  | string s => exact fun rest _ => lexemes_quoteText h rest
  | identifier name =>
    intro rest hrest
    obtain ⟨⟨c, cs, hname, hstart⟩, hrun, hkind⟩ := h
    rw [display, phrase, hname] at *
    rw [lexemes_word c cs hstart hrun hrest, hkind]
    rfl
  | boolean b =>
    intro rest hrest
    cases b with
    | true =>
      show (lexemes ("true".toList ++ rest)).map Lexeme.content = _
      exact lexemes_word 't' ['r', 'u', 'e'] (by decide) (List.all_eq_true.1 (by decide)) hrest
    | false =>
      show (lexemes ("false".toList ++ rest)).map Lexeme.content = _
      exact lexemes_word 'f' ['a', 'l', 's', 'e'] (by decide) (List.all_eq_true.1 (by decide)) hrest
  | pattern p => exact fun rest _ => lexemes_slashPattern h rest
  | quantity q =>
    intro rest hrest
    obtain ⟨⟨rank, hvalue⟩, _⟩ := h
    exact lexemes_text hvalue hrest

/-- The tokens of a shown expression before the end of the input. -/
theorem Shows.map_content_tokenize {e : Expr} {contents : List (TokenKind × List Char)}
    (h : e.Shows contents) :
    ((tokenize e.display).takeWhile (!·.isFinish)).map Token.content = contents := by
  have hlex := h [] EndsExpr.nil
  rw [List.append_nil, lexemes_nil, List.map_nil, List.append_nil] at hlex
  exact (InventoryFilter.map_content_tokenize e.display).trans hlex

end Expr

/-! ## The tree of a shown expression -/

section

variable [Pattern.Validator]

open Grammar in
/-- The tokens of a shown expression are an operand whose tree is that expression. -/
theorem Expr.derives_of_phrase {e : Expr} (h : e.Printable) {ts : List Token}
    (hts : ts.map Token.content = e.phrase) : Derives 3 ts e := by
  have hsplit : ∀ {t : Token} {kind : TokenKind} {text : List Char},
      t.content = (kind, text) → t.kind = kind ∧ t.lexeme = String.ofList text := by
    intro t kind text ht
    obtain ⟨hkind, htext⟩ := Prod.mk.injEq _ _ _ _ ▸ ht
    exact ⟨hkind, by rw [← htext, String.ofList_toList]⟩
  induction e generalizing ts with
  | binary l op r ihl ihr =>
    simp only [phrase, List.map_eq_cons_iff, List.map_eq_append_iff, List.map_eq_nil_iff] at hts
    obtain ⟨t, _, rfl, ht, ls, _, rfl, hls, u, _, rfl, hu, rs, _, rfl, hrs, v, _, rfl, hv, rfl⟩ :=
      hts
    have hinner : Derives op.layer (ls ++ u :: rs) (.binary l op r) :=
      .chained ((ihl h.1 hls).loosen (by have := op.layer_le; omega)) (hsplit hu).1
        ((ihr h.2 hrs).loosen (by have := op.layer_le; omega))
    simpa using Derives.bracketed (hsplit ht).1 (hsplit hv).1 (hinner.loosen (Nat.zero_le _))
  | string s =>
    obtain ⟨t, rfl, ht⟩ := List.map_eq_singleton_iff.1 hts
    obtain ⟨hkind, hlexeme⟩ := hsplit ht
    rw [String.ofList_toList] at hlexeme
    exact .leaf (hlexeme ▸ .string hkind)
  | identifier name =>
    obtain ⟨t, rfl, ht⟩ := List.map_eq_singleton_iff.1 hts
    obtain ⟨hkind, hlexeme⟩ := hsplit ht
    rw [String.ofList_toList] at hlexeme
    exact .leaf (hlexeme ▸ .identifier hkind)
  | boolean b =>
    obtain ⟨t, rfl, ht⟩ := List.map_eq_singleton_iff.1 hts
    obtain ⟨hkind, hlexeme⟩ := hsplit ht
    have hvalue : Text.sameIgnoringCase t.lexeme.toList ['t', 'r', 'u', 'e'] = b := by
      rw [hlexeme]
      cases b <;> decide
    exact .leaf (hvalue ▸ .boolean hkind)
  | pattern p =>
    obtain ⟨t, rfl, ht⟩ := List.map_eq_singleton_iff.1 hts
    obtain ⟨hkind, hlexeme⟩ := hsplit ht
    rw [String.ofList_toList] at hlexeme
    exact .leaf (.pattern hkind (Pattern.ofText_eq_ok_iff.2 hlexeme.symm))
  | quantity q =>
    obtain ⟨t, rfl, ht⟩ := List.map_eq_singleton_iff.1 hts
    obtain ⟨hkind, hlexeme⟩ := hsplit ht
    rw [String.ofList_toList] at hlexeme
    exact .leaf (.quantity hkind (hlexeme ▸ h.2))

/-- A printable expression is read again from the filter that shows it. -/
theorem parse_display {e : Expr} (h : e.Printable) : parse e.display = .ok e :=
  parse_eq_ok_iff.2
    ((Expr.derives_of_phrase h h.spellable.shows.map_content_tokenize).loosen (Nat.zero_le _))

/-- A filter whose quantities are read again as they are shown is read again from the form that
shows its tree. -/
theorem parse_display_of_parse {input : String} {e : Expr} (h : parse input = .ok e)
    (hread : ∀ q ∈ e.quantities, Quantity.ofText q.text = .ok q) :
    parse e.display = .ok e :=
  parse_display ((spellable_of_parse h).printable hread)

end

open scoped Pattern.Standard in
theorem parse_display_of_parse_mixed :
    ∃ e, parse "a.b!~/x\\/y/ or \"it's\"=8.5gb" = .ok e ∧
      (∀ q ∈ e.quantities, Quantity.ofText q.text = .ok q) ∧
      e.display = "((a.b !~ /x\\/y/) or (\"it's\" = 8.50Gb))" ∧ parse e.display = .ok e := by
  have hparse : ∃ e, (parse "a.b!~/x\\/y/ or \"it's\"=8.5gb").toOption = some e ∧
      (∀ q ∈ e.quantities, (Quantity.ofText q.text).toOption = some q) ∧
      e.display = "((a.b !~ /x\\/y/) or (\"it's\" = 8.50Gb))" :=
    ⟨(parse "a.b!~/x\\/y/ or \"it's\"=8.5gb").toOption.getD default, by decide +kernel⟩
  obtain ⟨e, hparse, hread, hshown⟩ := hparse
  have hparse' := eq_ok_of_toOption_eq_some hparse
  have hread' := fun q hq => eq_ok_of_toOption_eq_some (hread q hq)
  exact ⟨e, hparse', hread', hshown, parse_display_of_parse hparse' hread'⟩

end InventoryFilter
