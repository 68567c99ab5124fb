import InventoryFilter.Proofs.Amounts
import InventoryFilter.Proofs.Parsing
import InventoryFilter.Proofs.Scanning

set_option autoImplicit false

/-!
# The leaves of filters

Not every tree is the tree of some filter: its texts, identifiers, patterns and quantities come
from scanned tokens, and are like them.
-/

namespace InventoryFilter

open Grammar

/-- Written with places, a number is split at its point, and what follows it is left. -/
theorem Lexeme.span_fixedForm {places : Nat} (hplaces : 0 < places) {cs rest : List Char}
    (h : Binary64.FixedForm places cs) (hrest : ∀ c ∈ rest.head?, c.isDigit = false) :
    ∃ whole point, cs = whole ++ point ∧ whole ≠ [] ∧ (∀ c ∈ whole, c.isDigit = true) ∧
      (cs ++ rest).takeWhile Char.isDigit = whole ∧
      fraction ((cs ++ rest).dropWhile Char.isDigit) = (point, rest) := by
  obtain ⟨whole, digits, rfl, hne, hwhole, hlength, hdigits⟩ := h
  obtain ⟨d, ds, rfl⟩ : ∃ d ds, digits = d :: ds :=
    List.exists_cons_of_ne_nil (by rintro rfl; rw [← hlength] at hplaces; cases hplaces)
  have hpoint : ∀ c ∈ ('.' :: (d :: ds ++ rest)).head?, c.isDigit = false := by
    rintro c ⟨⟩
    rfl
  obtain ⟨htake, hdrop⟩ := span_run hwhole hpoint
  obtain ⟨htake', hdrop'⟩ := span_run hdigits hrest
  have hassoc : whole ++ '.' :: (d :: ds) ++ rest = whole ++ '.' :: (d :: ds ++ rest) := by simp
  refine ⟨whole, '.' :: d :: ds, rfl, hne, hwhole, by rw [hassoc, htake], ?_⟩
  rw [List.cons_append] at htake' hdrop' hdrop hassoc
  rw [hassoc, hdrop, fraction, if_pos (hdigits d (by simp)), htake', hdrop']

variable [Pattern.Validator]

/-- Whether every leaf is like those that filters spell. -/
def Expr.Spellable : Expr → Prop
  | binary l _ r => l.Spellable ∧ r.Spellable
  | string s => TokenKind.string.Spells s.toList
  | identifier name => TokenKind.identifier.Spells name.toList
  | boolean _ => True
  | pattern p => TokenKind.pattern.Spells p.text.toList
  | quantity q => q.Unsigned

theorem Grammar.Literal.spellable {t : Token} {e : Expr} (h : Literal t e)
    (ht : t.kind.Spells t.lexeme.toList) : e.Spellable := by
  cases h with
  | string hkind => rw [hkind] at ht; exact ht
  | identifier hkind => rw [hkind] at ht; exact ht
  | boolean hkind => exact True.intro
  | quantity hkind hread =>
    rw [hkind] at ht
    obtain ⟨c, cs, htext, hdigit⟩ := ht
    exact Quantity.unsigned_of_ofText htext hdigit hread
  | pattern hkind hread =>
    rw [hkind, ← Pattern.ofText_eq_ok_iff.1 hread] at ht
    exact ht

/-- Tokens that are spelled as their kinds ask give trees whose leaves are. -/
theorem Grammar.Derives.spellable {layer : Nat} {ts : List Token} {e : Expr}
    (h : Derives layer ts e) (hts : ∀ t ∈ ts, t.kind.Spells t.lexeme.toList) :
    e.Spellable := by
  induction h with
  | leaf hleaf => exact hleaf.spellable (hts _ (by simp))
  | bracketed _ _ _ ih =>
    refine ih fun t ht => hts t ?_
    simp [ht]
  | single _ ih => exact ih hts
  | chained _ _ _ ihLeft ihRight =>
    refine ⟨ihLeft fun t ht => hts t ?_, ihRight fun t ht => hts t ?_⟩
    · simp [ht]
    · simp [ht]

theorem Grammar.Literal.identifiers_eq {t : Token} {e : Expr} (h : Literal t e) :
    e.identifiers = if t.kind = .identifier then [t.lexeme] else [] := by
  cases h <;> simp [Expr.identifiers, *]

/-- The names in a tree are the identifiers among the tokens, in their order. -/
theorem Grammar.Derives.identifiers_eq {layer : Nat} {ts : List Token} {e : Expr}
    (h : Derives layer ts e) :
    e.identifiers = (ts.filter (·.kind == .identifier)).map (·.lexeme) := by
  induction h with
  | @leaf t e hleaf =>
    rw [hleaf.identifiers_eq]
    split <;> simp [*]
  | bracketed hopen hclose _ ih => simp [ih, hopen, hclose]
  | single _ ih => exact ih
  | @chained t op ts us left right _ hop _ ihLeft ihRight =>
    have hkind : (t.kind == .identifier) = false := by
      rw [hop]
      cases op <;> rfl
    simp [Expr.identifiers, ihLeft, ihRight, hkind]

/-- A filter has the tree that the grammar gives its tokens. -/
theorem parse_eq_ok_iff {input : String} {e : Expr} :
    parse input = .ok e ↔ Derives 0 ((tokenize input).takeWhile (!·.isFinish)) e := by
  rw [parse, Parser.expression_eq_ok_iff, Parser.pending_ofTokens]

theorem spellable_of_parse {input : String} {e : Expr} (h : parse input = .ok e) :
    e.Spellable :=
  (parse_eq_ok_iff.1 h).spellable (tokenize_spells input)

end InventoryFilter
