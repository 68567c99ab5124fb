import InventoryFilter.Pattern.Standard
import InventoryFilter.Proofs.Composition
import InventoryFilter.Proofs.PatternText
import InventoryFilter.Proofs.TokenGrammar

set_option autoImplicit false

/-!
# Which trees are read again

A tree that was not read from a filter may have leaves that no filter spells.  Shown as a filter it
is then either rejected or read as another tree, whatever stands around such a leaf.  For what is
read has only leaves that filters spell, and a tree that agrees with it has the same leaves, but
for the sign of a zero.  That sign would be an illegal token, and without it each quantity is read
from the one token that shows it.
-/

namespace InventoryFilter

open Text

/-! ## Quantities that can be read again -/

namespace Quantity

theorem exists_value_of_agrees {q q' : Quantity} {negative : Bool}
    {rank : Fin (2047 * Nat.pow 2 52)} (hvalue : q'.value = .finite negative rank)
    (h : q'.agrees q = true) :
    q'.unit = q.unit ∧ ∃ negative', q.value = .finite negative' rank := by
  obtain ⟨hnumber, hunit⟩ := Bool.and_eq_true_iff.1 h
  refine ⟨beq_iff_eq.1 hunit, ?_⟩
  rw [hvalue] at hnumber
  cases hq : q.value with
  | finite negative' rank' =>
    rw [hq] at hnumber
    obtain ⟨hrank, -⟩ := Bool.and_eq_true_iff.1 hnumber
    exact ⟨negative', by rw [beq_iff_eq.1 hrank]⟩
  | infinite negative' =>
    rw [hq] at hnumber
    cases hnumber
  | nan =>
    rw [hq] at hnumber
    cases hnumber

/-- Quantities that agree are the same if neither has a sign. -/
theorem eq_of_agrees {q q' : Quantity} {rank : Fin (2047 * Nat.pow 2 52)} (h' : q'.Unsigned)
    (hvalue : q.value = .finite false rank) (h : q'.agrees q = true) : q' = q := by
  obtain ⟨⟨rank', hvalue'⟩, _⟩ := h'
  obtain ⟨hunit, negative, hsame⟩ := exists_value_of_agrees hvalue' h
  obtain ⟨-, rfl⟩ := Binary64.finite.inj (hvalue.symm.trans hsame)
  cases q
  cases q'
  exact congr (congrArg Quantity.mk (hvalue'.trans hvalue.symm)) hunit

theorem agrees_self {q : Quantity} (h : q.value.isFinite = true) : q.agrees q = true := by
  cases hvalue : q.value with
  | finite negative rank => simp [agrees, hvalue, Binary64.sameNumber]
  | infinite negative => rw [hvalue] at h; cases h
  | nan => rw [hvalue] at h; cases h

/-- A quantity without a sign is read again as itself if it is read again as one that agrees. -/
theorem ofText_text_iff {q : Quantity} :
    q.Unsigned ∧ ofText q.text = .ok q ↔
      q.value.toBits < Nat.pow 2 63 ∧ ∃ q', ofText q.text = .ok q' ∧ q'.agrees q = true := by
  constructor
  · rintro ⟨⟨⟨rank, hvalue⟩, _⟩, hread⟩
    refine ⟨?_, q, hread, agrees_self (by rw [hvalue]; rfl)⟩
    have hle : 2047 * Nat.pow 2 52 ≤ Nat.pow 2 63 := by decide
    simpa [hvalue, Binary64.toBits] using Nat.lt_of_lt_of_le rank.isLt hle
  · rintro ⟨hsign, q', hread, hagrees⟩
    obtain ⟨_, _, _, _, hfinite, _⟩ := ofText_eq_ok_iff.1 hread
    cases hvalue' : q'.value with
    | finite negative' rank =>
      obtain ⟨_, negative, hvalue⟩ := exists_value_of_agrees hvalue' hagrees
      obtain rfl : negative = false := by
        cases negative with
        | false => rfl
        | true =>
          rw [hvalue, Binary64.toBits, if_pos rfl] at hsign
          omega
      obtain ⟨c, cs, htext, hdigit⟩ := exists_isDigit_text hvalue
      have hunsigned := unsigned_of_ofText htext hdigit hread
      obtain rfl := eq_of_agrees hunsigned hvalue hagrees
      exact ⟨hunsigned, hread⟩
    | infinite negative' => rw [hvalue'] at hfinite; cases hfinite
    | nan => rw [hvalue'] at hfinite; cases hfinite

end Quantity

/-! ## Leaves that can be read again -/

namespace Expr

/-- Whether the text is a name of a column: it begins with a letter or an underscore, goes on with
letters, digits, points and underscores, and is no keyword in any mixture of cases. -/
def IsName (cs : List Char) : Prop :=
  Lexical.BeginsWith (fun c => isAlphabetic c = true ∨ c = '_') cs ∧ Lexical.IsWordRun cs ∧
    ¬ (Lexical.IsSpelling "and" cs ∨ Lexical.IsSpelling "or" cs ∨
      Lexical.IsSpelling "true" cs ∨ Lexical.IsSpelling "false" cs)

theorem isIdentifier_iff_isName {cs : List Char} : IsIdentifier cs ↔ IsName cs := by
  unfold IsIdentifier IsName Lexical.BeginsWith
  rw [Lexical.isWordRun_iff, (Lexical.ofWord_iff cs).2.2.2]
  simp [Lexeme.isWordStart]

theorem spells_string_iff {s : String} :
    TokenKind.string.Spells s.toList ↔ s ≠ "" ∧ ¬ ('\'' ∈ s.toList ∧ '"' ∈ s.toList) := by
  have hempty : s.toList ≠ [] ↔ s ≠ "" := not_congr String.toList_eq_nil_iff
  have hquote : (∃ quote, Lexeme.isQuote quote = true ∧ quote ∉ s.toList) ↔
      ¬ ('\'' ∈ s.toList ∧ '"' ∈ s.toList) := by
    simp only [Lexeme.isQuote_iff, or_and_right, exists_or, exists_eq_left]
    exact Decidable.not_and_iff_or_not.symm
  exact and_congr hempty hquote

variable [Pattern.Validator]

/-- The patterns in the expression, from left to right and with repetitions. -/
def patterns : Expr → List Pattern
  | binary l _ r => l.patterns ++ r.patterns
  | pattern p => [p]
  | _ => []

/-- Whether each leaf can stand in a filter as it is shown: names are names, texts are not empty
and lack one of the quotes, slashes stand behind an even number of backslashes, and quantities have
no sign and agree with what they are shown as. -/
def LeavesShown : Expr → Prop
  | binary l _ r => l.LeavesShown ∧ r.LeavesShown
  | string s => s ≠ "" ∧ ¬ ('\'' ∈ s.toList ∧ '"' ∈ s.toList)
  | identifier name => IsName name.toList
  | boolean _ => True
  | pattern p => SlashesBare p.text.toList
  | quantity q =>
    q.value.toBits < Nat.pow 2 63 ∧ ∃ q', Quantity.ofText q.text = .ok q' ∧ q'.agrees q = true

/-- A tree is printable if its leaves can stand in a filter, and its patterns end so that they can
be closed. -/
theorem printable_iff {e : Expr} :
    e.Printable ↔ e.LeavesShown ∧ ∀ p ∈ e.patterns, endBackslashes p.text.toList % 2 = 0 := by
  induction e with
  | binary l op r ihl ihr =>
    simp only [Printable, LeavesShown, patterns, List.forall_mem_append, ihl, ihr]
    exact and_and_and_comm
  | string s => exact spells_string_iff.trans (and_iff_left (by simp [patterns])).symm
  | identifier name => exact isIdentifier_iff_isName.trans (and_iff_left (by simp [patterns])).symm
  | boolean b => simp [Printable, Spellable, LeavesShown, patterns]
  | pattern p => exact Lexeme.exists_patternBody_iff.trans (and_congr_right' (by simp [patterns]))
  | quantity q => exact Quantity.ofText_text_iff.trans (and_iff_left (by simp [patterns])).symm

/-! ## Trees that agree -/

/-- Trees that are built alike from leaves that say the same. -/
inductive Alike : Expr → Expr → Prop
  | binary {l l' r r' : Expr} (op : Operator) (hl : Alike l' l) (hr : Alike r' r) :
      Alike (.binary l' op r') (.binary l op r)
  | string (s : String) : Alike (.string s) (.string s)
  | identifier (name : String) : Alike (.identifier name) (.identifier name)
  | boolean (b : Bool) : Alike (.boolean b) (.boolean b)
  | pattern (p : Pattern) : Alike (.pattern p) (.pattern p)
  | quantity {q q' : Quantity} (h : q'.agrees q = true) : Alike (.quantity q') (.quantity q)

theorem alike_of_agrees {e e' : Expr} (h : e'.agrees e = true) : Alike e' e := by
  fun_induction agrees e' e with
  | case1 l' op r' l op' r ihl ihr =>
    simp only [Bool.and_eq_true, beq_iff_eq] at h
    obtain ⟨⟨rfl, hl⟩, hr⟩ := h
    exact .binary op (ihl hl) (ihr hr)
  | case2 s' s => exact beq_iff_eq.1 h ▸ .string s'
  | case3 n' n => exact beq_iff_eq.1 h ▸ .identifier n'
  | case4 b' b => exact beq_iff_eq.1 h ▸ .boolean b'
  | case5 p' p => exact beq_iff_eq.1 h ▸ .pattern p'
  | case6 q' q => exact .quantity h
  | case7 => cases h

theorem Printable.agrees_self {e : Expr} (h : e.Printable) : e.agrees e = true := by
  induction e with
  | binary l op r ihl ihr => simp [agrees, ihl h.1, ihr h.2]
  | quantity q =>
    obtain ⟨⟨⟨rank, hvalue⟩, _⟩, _⟩ := h
    exact Quantity.agrees_self (by rw [hvalue]; rfl)
  | _ => simp [agrees]

/-- A tree that filters spell is the same as one that agrees with it and has no signs. -/
theorem Alike.eq {e e' : Expr} (h : Alike e' e) (hspell : e'.Spellable)
    (hsigns : ∀ q ∈ e.quantities, ∃ rank, q.value = .finite false rank) : e' = e := by
  induction h with
  | binary op hl hr ihl ihr =>
    have hsigns' := List.forall_mem_append.1 hsigns
    rw [ihl hspell.1 hsigns'.1, ihr hspell.2 hsigns'.2]
  | quantity hagrees =>
    obtain ⟨rank, hvalue⟩ := hsigns _ List.mem_cons_self
    rw [Quantity.eq_of_agrees hspell hvalue hagrees]
  | _ => rfl

/-! ## The tokens of trees that agree -/

omit [Pattern.Validator] in
/-- A minus sign is an illegal token. -/
theorem lexemes_minus (rest : List Char) :
    (lexemes ('-' :: rest)).map Lexeme.content =
      (.illegal, ['-']) :: (lexemes rest).map Lexeme.content := by
  have hfirst : Lexeme.first '-' rest = (.verbatim .illegal ['-'], rest) := by
    have hstart : Lexeme.isWordStart '-' = false := Lexeme.not_isWordStart (by decide)
    rw [Lexeme.first, Lexeme.symbol?_eq_none (by decide)]
    simp [Lexeme.isQuote, hstart]
  exact map_content_lexemes (by decide) hfirst

/-- A finite quantity is scanned as one token, unless it has a sign. -/
theorem exists_shows_quantity {q : Quantity} {negative : Bool} {rank : Fin (2047 * Nat.pow 2 52)}
    (hvalue : q.value = .finite negative rank) :
    ∃ contents, (quantity q).Shows contents ∧
      ((∀ content ∈ contents, content.1 ≠ .illegal) → negative = false) := by
  cases negative with
  | false =>
    exact ⟨[(.quantity, q.text.toList)], fun _ hrest => lexemes_text hvalue hrest, fun _ => rfl⟩
  | true =>
    obtain ⟨r, hr, htext⟩ :
        ∃ r : Quantity, r.value = .finite false rank ∧ q.text.toList = '-' :: r.text.toList :=
      ⟨⟨.finite false rank, q.unit⟩, rfl, by simp [Quantity.text, hvalue, Binary64.fixed]⟩
    refine ⟨[(.illegal, ['-']), (.quantity, r.text.toList)], fun rest hrest => ?_, fun hlegal => ?_⟩
    · rw [display, htext, List.cons_append, lexemes_minus, lexemes_text hr hrest]
      rfl
    · exact absurd rfl (hlegal _ List.mem_cons_self)

/-- A tree that agrees with one that filters spell is scanned as some tokens, and if none of these
is illegal, it has no signs. -/
theorem Alike.exists_shows {e e' : Expr} (h : Alike e' e) (hspell : e'.Spellable) :
    ∃ contents, e.Shows contents ∧ ((∀ content ∈ contents, content.1 ≠ .illegal) →
      ∀ q ∈ e.quantities, ∃ rank, q.value = .finite false rank) := by
  induction h with
  | binary op hl hr ihl ihr =>
    obtain ⟨ls, hls, hleft⟩ := ihl hspell.1
    obtain ⟨rs, hrs, hright⟩ := ihr hspell.2
    refine ⟨_, hls.binary hrs op, fun hlegal => List.forall_mem_append.2 ⟨?_, ?_⟩⟩
    · exact hleft fun content hcontent => hlegal content (by simp [hcontent])
    · exact hright fun content hcontent => hlegal content (by simp [hcontent])
  | quantity hagrees =>
    obtain ⟨⟨rank, hvalue'⟩, _⟩ := hspell
    obtain ⟨_, negative, hvalue⟩ := Quantity.exists_value_of_agrees hvalue' hagrees
    obtain ⟨contents, hshows, hsign⟩ := exists_shows_quantity hvalue
    refine ⟨contents, hshows, fun hlegal q hq => ?_⟩
    rw [List.mem_singleton.1 hq]
    exact ⟨rank, hsign hlegal ▸ hvalue⟩
  | _ => exact ⟨_, Spellable.shows hspell, fun _ => by simp [quantities]⟩

theorem filter_phrase (e : Expr) :
    e.phrase.filter (·.1 == .quantity) =
      e.quantities.map fun q => (.quantity, q.text.toList) := by
  induction e with
  | binary l op r ihl ihr =>
    have hop : (op.kind == .quantity) = false := by cases op <;> rfl
    simp [phrase, quantities, ihl, ihr, hop]
  | _ => simp [phrase, quantities]

end Expr

section

variable [Pattern.Validator]

theorem Grammar.Literal.map_ofText {t : Token} {e : Expr} (h : Literal t e) :
    ([t].filter (·.kind == .quantity)).map (fun t => Quantity.ofText t.lexeme) =
      e.quantities.map .ok := by
  cases h <;> simp [Expr.quantities, *]

/-- The quantities in a tree are read from the quantities among the tokens, in their order. -/
theorem Grammar.Derives.map_ofText {layer : Nat} {ts : List Token} {e : Expr}
    (h : Derives layer ts e) :
    (ts.filter (·.kind == .quantity)).map (fun t => Quantity.ofText t.lexeme) =
      e.quantities.map .ok := by
  induction h with
  | leaf hleaf => exact hleaf.map_ofText
  | bracketed hopen hclose _ ih => simp [ih, hopen, hclose]
  | single _ ih => exact ih
  | @chained t op ts us left right _ hop _ ihLeft ihRight =>
    have hkind : (t.kind == .quantity) = false := by
      rw [hop]
      cases op <;> rfl
    simp [Expr.quantities, ihLeft, ihRight, hkind]

/-- If the tokens that show a tree have this tree, they show its quantities as they are read. -/
theorem Grammar.Derives.ofText_text {layer : Nat} {ts : List Token} {e : Expr}
    (h : Derives layer ts e) (hts : ts.map Token.content = e.phrase) :
    ∀ q ∈ e.quantities, Quantity.ofText q.text = .ok q := by
  refine List.map_inj_left.1 ?_
  calc e.quantities.map (fun q => Quantity.ofText q.text)
      = (e.phrase.filter (·.1 == .quantity)).map (fun c => Quantity.ofText (.ofList c.2)) := by
        simp [e.filter_phrase]
    _ = (ts.filter (·.kind == .quantity)).map (fun t => Quantity.ofText t.lexeme) := by
        simp [← hts, List.filter_map, Token.content, Function.comp_def]
    _ = e.quantities.map .ok := h.map_ofText

/-- A tree is read again as one that agrees with it only if it is printable. -/
theorem printable_of_parse_display {e e' : Expr} (h : parse e.display = .ok e')
    (hagrees : e'.agrees e = true) : e.Printable := by
  have hderives := parse_eq_ok_iff.1 h
  have hspell := spellable_of_parse h
  have halike := Expr.alike_of_agrees hagrees
  obtain ⟨contents, hshows, hsigns⟩ := halike.exists_shows hspell
  have hlegal : ∀ content ∈ contents, content.1 ≠ .illegal := by
    intro content hcontent
    rw [← hshows.map_content_tokenize] at hcontent
    obtain ⟨t, ht, rfl⟩ := List.mem_map.1 hcontent
    exact hderives.kind_ne_illegal t ht
  obtain rfl := halike.eq hspell (hsigns hlegal)
  -- both trees are one, and its quantities are read from the tokens that show them
  exact hspell.printable (hderives.ofText_text hspell.shows.map_content_tokenize)

/-- A tree is read again from the filter that shows it, as a tree that agrees with it, exactly if
each of its leaves can stand in a filter as it is shown, as long as no pattern in it ends with an
odd number of backslashes.  A tree with such a pattern is never read again. -/
theorem parse_display_agrees_iff (e : Expr) :
    ((∀ p ∈ e.patterns, endBackslashes p.text.toList % 2 = 0) →
      ((∃ e', parse e.display = .ok e' ∧ e'.agrees e = true) ↔ e.LeavesShown)) ∧
    ((∃ p ∈ e.patterns, endBackslashes p.text.toList % 2 = 1) →
      ¬ ∃ e', parse e.display = .ok e' ∧ e'.agrees e = true) := by
  have hread : (∃ e', parse e.display = .ok e' ∧ e'.agrees e = true) ↔
      e.LeavesShown ∧ ∀ p ∈ e.patterns, endBackslashes p.text.toList % 2 = 0 := by
    rw [← Expr.printable_iff]
    constructor
    · rintro ⟨e', hparse, hagrees⟩
      exact printable_of_parse_display hparse hagrees
    · exact fun hprintable => ⟨e, parse_display hprintable, hprintable.agrees_self⟩
  rw [hread]
  refine ⟨fun hends => and_iff_left hends, ?_⟩
  rintro ⟨p, hp, hodd⟩ ⟨_, hends⟩
  rw [hends p hp] at hodd
  cases hodd

end

open scoped Pattern.Standard in
/-- A tree that is read again has leaves that can stand in a filter, and a comment in a pattern may
end with one backslash, which keeps the pattern from being closed. -/
theorem parse_display_agrees_iff_comment :
    (∃ e : Expr, e.display = "((a.b !~ /x\\/y/) or (\"it's\" = 8.50Gb))" ∧
      (∀ p ∈ e.patterns, endBackslashes p.text.toList % 2 = 0) ∧
      (∃ e', parse e.display = .ok e' ∧ e'.agrees e = true) ∧ e.LeavesShown) ∧
    ∃ p : Pattern, p.text = "(?x)#\\" ∧ endBackslashes p.text.toList % 2 = 1 ∧
      ¬ ∃ e', parse (Expr.pattern p).display = .ok e' ∧ e'.agrees (.pattern p) = true := by
  have hparse : ∃ e, (parse "((a.b !~ /x\\/y/) or (\"it's\" = 8.50Gb))").toOption = some e ∧
      e.display = "((a.b !~ /x\\/y/) or (\"it's\" = 8.50Gb))" ∧
      (∀ p ∈ e.patterns, endBackslashes p.text.toList % 2 = 0) ∧ e.agrees e = true :=
    ⟨(parse "((a.b !~ /x\\/y/) or (\"it's\" = 8.50Gb))").toOption.getD default,
      by decide +kernel⟩
  have hvalid : (Pattern.Validator.check "(?x)#\\").toOption = some () := by decide +kernel
  obtain ⟨e, hread, hshown, hends, hagrees⟩ := hparse
  obtain ⟨p, hp⟩ : ∃ p : Pattern, p.text = "(?x)#\\" :=
    ⟨⟨_, eq_ok_of_toOption_eq_some hvalid⟩, rfl⟩
  have hodd : endBackslashes p.text.toList % 2 = 1 := by rw [hp]; decide
  have hreads : ∃ e', parse e.display = .ok e' ∧ e'.agrees e = true :=
    ⟨e, by rw [hshown]; exact eq_ok_of_toOption_eq_some hread, hagrees⟩
  refine ⟨⟨e, hshown, hends, hreads, ?_⟩, p, hp, hodd, ?_⟩
  · exact ((parse_display_agrees_iff e).1 hends).1 hreads
  · exact (parse_display_agrees_iff (.pattern p)).2 ⟨p, List.mem_cons_self, hodd⟩

end InventoryFilter
