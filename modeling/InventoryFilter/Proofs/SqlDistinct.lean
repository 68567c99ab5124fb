import InventoryFilter.Pattern.Standard
import InventoryFilter.Proofs.SqlQuoting

set_option autoImplicit false

/-!
# Telling rendered predicates apart

Without columns, the text of a compiled filter determines its tree but for two things.  A pattern is
rendered as the text it is written as, and a quantity as the number that it amounts to.  A predicate
is a tree in which nothing else is left, and two filters are compiled to the same text exactly if
they have the same predicate.

No predicate is rendered as the beginning of another one.  That holds of the tokens of a predicate,
whatever follows them, and it carries over to the text because the text determines the tokens.
-/

namespace InventoryFilter

/-- An operand of a predicate. -/
inductive Predicate.Leaf
  | text (value : String)
  | identifier (name : String)
  | boolean (value : Bool)
  /-- the number that a quantity amounts to, as it is rendered -/
  | amount (sql : String)
  deriving DecidableEq, Repr

/-- What the text of a rendered tree says. -/
inductive Predicate
  | leaf (operand : Predicate.Leaf)
  | binary (left : Predicate) (op : Operator) (right : Predicate)
  deriving DecidableEq, Repr

/-- The tree with each pattern replaced by its text, and each quantity by its number. -/
def Expr.predicate [Pattern.Validator] : Expr → Predicate
  | binary l op r => .binary l.predicate op r.predicate
  | string s => .leaf (.text s)
  | identifier name => .leaf (.identifier name)
  | boolean b => .leaf (.boolean b)
  | pattern p => .leaf (.text p.text)
  | quantity q => .leaf (.amount q.sql)

/-! ## Operators -/

namespace Operator

/-- The tokens in front of the left operand. -/
def opening (op : Operator) : List SqlToken :=
  match op.sqlToken? with
  | some _ => [.symbol ['(']]
  | none =>
    (if op = .notLike then [.word "NOT".toList, .blank ' '] else []) ++
      [.word "regexp_matches".toList, .symbol ['(']]

/-- The tokens between the operands. -/
def between (op : Operator) : List SqlToken :=
  match op.sqlToken? with
  | some t => [.blank ' ', t, .blank ' ']
  | none => [.symbol [','], .blank ' ']

theorem binary_eq (left : List SqlToken) (op : Operator) (right : List SqlToken) :
    SqlToken.binary left op right =
      op.opening ++ (left ++ (op.between ++ (right ++ [.symbol [')']]))) := by
  unfold SqlToken.binary opening between
  cases op.sqlToken? <;> simp

theorem opening_cases (op : Operator) :
    op.opening = [.symbol ['(']] ∨
      op.opening = [.word "regexp_matches".toList, .symbol ['(']] ∨
      op.opening =
        [.word "NOT".toList, .blank ' ', .word "regexp_matches".toList, .symbol ['(']] := by
  cases op <;> simp [opening, sqlToken?]

/-- The tokens in front of the left operand end where they end, whatever the operand is. -/
theorem opening_append_inj {op op' : Operator} {rest rest' : List SqlToken}
    (h : op.opening ++ rest = op'.opening ++ rest') : op.opening = op'.opening ∧ rest = rest' := by
  rcases op.opening_cases with hop | hop | hop <;>
    rcases op'.opening_cases with hop' | hop' | hop' <;> simp_all

/-- The tokens around the left operand determine the operator. -/
theorem between_append_inj {op op' : Operator} {rest rest' : List SqlToken}
    (hopening : op.opening = op'.opening) (h : op.between ++ rest = op'.between ++ rest') :
    op = op' ∧ rest = rest' := by
  cases op <;> cases op' <;> simp_all [opening, between, sqlToken?]

end Operator

/-! ## Operands -/

/-- Blanks stand for underscores only, and so the name tells the identifier. -/
theorem Expr.spaced_inj {name name' : String} (hname : IsIdentifier name.toList)
    (hname' : IsIdentifier name'.toList) (h : spaced name = spaced name') : name = name' := by
  have hback : ∀ n : String, IsIdentifier n.toList →
      (spaced n).map (fun c => if c = ' ' then '_' else c) = n.toList := by
    intro n hn
    rw [spaced, List.map_map]
    refine (List.map_congr_left fun c hc => ?_).trans (List.map_id _)
    have hblank : c ≠ ' ' := by
      rintro rfl
      exact absurd (hn.2.1 ' ' hc) (by decide +kernel)
    by_cases hscore : c = '_'
    · simp [hscore]
    · simp [hscore, hblank]
  rw [← String.toList_inj, ← hback name hname, h, hback name' hname']

namespace Predicate

/-- The token of an operand. -/
def Leaf.token : Leaf → SqlToken
  | text s => .constant s.toList
  | identifier name => .name (Expr.spaced name)
  | boolean b => .word (if b then "TRUE".toList else "FALSE".toList)
  | amount sql => .number sql.toList

/-- Whether an operand that is an identifier has the form of one. -/
def Leaf.Named : Leaf → Prop
  | identifier name => IsIdentifier name.toList
  | _ => True

theorem Leaf.token_inj {a b : Leaf} (ha : a.Named) (hb : b.Named) (h : a.token = b.token) :
    a = b := by
  cases a <;> cases b <;> simp only [token, SqlToken.constant.injEq, SqlToken.name.injEq,
    SqlToken.word.injEq, SqlToken.number.injEq, String.toList_inj, reduceCtorEq] at h
  case text => rw [h]
  case identifier => rw [Expr.spaced_inj ha hb h]
  case boolean b c => cases b <;> cases c <;> simp_all
  case amount => rw [h]

/-- No operand begins as an operator does. -/
theorem Leaf.token_cons_ne_opening (a : Leaf) (op : Operator) (rest rest' : List SqlToken) :
    a.token :: rest ≠ op.opening ++ rest' := by
  rcases op.opening_cases with hop | hop | hop <;> rw [hop] <;> cases a with
  | boolean b => cases b <;> simp [token]
  | _ => simp [token]

/-! ## Trees -/

/-- The tokens of a predicate. -/
def tokens : Predicate → List SqlToken
  | leaf a => [a.token]
  | binary l op r => SqlToken.binary l.tokens op r.tokens

/-- Whether the identifiers of a predicate have the form of one. -/
def Named : Predicate → Prop
  | leaf a => a.Named
  | binary l _ r => l.Named ∧ r.Named

/-- The tokens of a predicate end where they end, and determine it. -/
theorem tokens_append_inj {p q : Predicate} (hp : p.Named) (hq : q.Named)
    {rest rest' : List SqlToken} (h : p.tokens ++ rest = q.tokens ++ rest') :
    p = q ∧ rest = rest' := by
  induction p generalizing q rest rest' with
  | leaf a =>
    cases q with
    | leaf b =>
      obtain ⟨htoken, hrest⟩ := List.cons.inj h
      exact ⟨congrArg leaf (Leaf.token_inj hp hq htoken), hrest⟩
    | binary l op r =>
      rw [tokens, tokens, Operator.binary_eq, List.append_assoc] at h
      exact absurd h (a.token_cons_ne_opening op _ _)
  | binary l op r ihl ihr =>
    cases q with
    | leaf b =>
      rw [tokens, tokens, Operator.binary_eq, List.append_assoc] at h
      exact absurd h.symm (b.token_cons_ne_opening op _ _)
    | binary l' op' r' =>
      rw [tokens, tokens, Operator.binary_eq, Operator.binary_eq] at h
      simp only [List.append_assoc] at h
      obtain ⟨hopening, hleft⟩ := Operator.opening_append_inj h
      obtain ⟨rfl, hbetween⟩ := ihl hp.1 hq.1 hleft
      obtain ⟨rfl, hright⟩ := Operator.between_append_inj hopening hbetween
      obtain ⟨rfl, hclose⟩ := ihr hp.2 hq.2 hright
      exact ⟨rfl, (List.cons.inj hclose).2⟩

theorem tokens_inj {p q : Predicate} (hp : p.Named) (hq : q.Named) :
    p.tokens = q.tokens ↔ p = q := by
  constructor
  · intro h
    exact (tokens_append_inj hp hq (congrArg (· ++ []) h)).1
  · rintro rfl
    rfl

end Predicate

section

variable [Pattern.Validator]

namespace Expr

/-- Without columns, the tokens of a tree are those of its predicate. -/
theorem sqlTokens_empty (e : Expr) : e.sqlTokens .empty = e.predicate.tokens := by
  induction e with
  | binary l op r ihl ihr => rw [sqlTokens, ihl, ihr, predicate, Predicate.tokens]
  | _ => rfl

theorem named_predicate {e : Expr} (h : e.Spellable) : e.predicate.Named := by
  induction e with
  | binary l op r ihl ihr => exact ⟨ihl h.1, ihr h.2⟩
  | identifier name => exact h
  | _ => exact True.intro

/-- Without columns, two trees have the same text exactly if they have the same predicate. -/
theorem sql_empty_inj {e e' : Expr} (h : e.Spellable) (h' : e'.Spellable) :
    e.sql .empty = e'.sql .empty ↔ e.predicate = e'.predicate := by
  have hscan : ∀ {t : Expr}, t.Spellable →
      Sql.scan (t.sql .empty).toList = some t.predicate.tokens := by
    intro t ht
    rw [← sqlTokens_empty]
    exact scan_sql (by simp [ColumnMap.empty]) ht
  rw [← Predicate.tokens_inj (named_predicate h) (named_predicate h')]
  constructor
  · intro hsql
    have hsame := hscan h
    rw [hsql, hscan h'] at hsame
    exact (Option.some.inj hsame).symm
  · intro htokens
    rw [← String.toList_inj, ← Sql.flatMap_spelling_of_scan (hscan h), htokens,
      Sql.flatMap_spelling_of_scan (hscan h')]

end Expr

/-- Two filters are compiled to the same text, without columns, exactly if their trees are equal
once patterns are replaced by their texts and quantities by their numbers. -/
theorem compile_eq_iff_predicate_eq {f g sql sql' : String} (hf : compile f .empty = .ok sql)
    (hg : compile g .empty = .ok sql') :
    ∃ e e', parse f = .ok e ∧ parse g = .ok e' ∧
      (sql = sql' ↔ e.predicate = e'.predicate) := by
  obtain ⟨e, hparse, rfl⟩ := compile_eq_ok_iff.1 hf
  obtain ⟨e', hparse', rfl⟩ := compile_eq_ok_iff.1 hg
  exact ⟨e, e', hparse, hparse',
    Expr.sql_empty_inj (spellable_of_parse hparse) (spellable_of_parse hparse')⟩

end

open scoped Pattern.Standard in
/-- A pattern and a text, or two quantities, may be rendered alike, but not two identifiers. -/
theorem compile_eq_iff_predicate_eq_spellings :
    let shared := "(regexp_matches(\"a b\", 'x/''') AND (\"c\" < 1024.00))"
    let other := "(regexp_matches(\"A b\", 'x/''') AND (\"c\" < 1024.00))"
    compile "a_b ~ /x\\/'/ and c < 1gb" .empty = .ok shared ∧
      compile "a_b ~ \"x/'\" and c < 1024mb" .empty = .ok shared ∧
      compile "A_b ~ /x\\/'/ and c < 1gb" .empty = .ok other ∧
      (∃ e e', parse "a_b ~ /x\\/'/ and c < 1gb" = .ok e ∧
        parse "a_b ~ \"x/'\" and c < 1024mb" = .ok e' ∧ e.predicate = e'.predicate) ∧
      ∃ e e', parse "a_b ~ /x\\/'/ and c < 1gb" = .ok e ∧
        parse "A_b ~ /x\\/'/ and c < 1gb" = .ok e' ∧ e.predicate ≠ e'.predicate := by
  intro shared other
  have hpattern : compile "a_b ~ /x\\/'/ and c < 1gb" .empty = .ok shared :=
    eq_ok_of_toOption_eq_some (by decide +kernel)
  have htext : compile "a_b ~ \"x/'\" and c < 1024mb" .empty = .ok shared :=
    eq_ok_of_toOption_eq_some (by decide +kernel)
  have hcapital : compile "A_b ~ /x\\/'/ and c < 1gb" .empty = .ok other :=
    eq_ok_of_toOption_eq_some (by decide +kernel)
  obtain ⟨e, e', he, he', hsame⟩ := compile_eq_iff_predicate_eq hpattern htext
  obtain ⟨t, t', ht, ht', hdiffer⟩ := compile_eq_iff_predicate_eq hpattern hcapital
  refine ⟨hpattern, htext, hcapital, ⟨e, e', he, he', hsame.1 rfl⟩, t, t', ht, ht', ?_⟩
  rw [Ne, ← hdiffer]
  decide

end InventoryFilter
