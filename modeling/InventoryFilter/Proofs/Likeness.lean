import InventoryFilter.Proofs.Placement
import InventoryFilter.Expr.Parser
import Mathlib.Data.List.Forall2
import Mathlib.Data.List.TakeWhile

set_option autoImplicit false

/-!
# Reading tokens that are alike

Two filters whose tokens are alike, one by one, are read alike.  What it takes for tokens to be
alike is left open.  It is enough that tokens which are alike are of one kind, stand for expressions
that are alike, and are refused alike, and that an operator between expressions that are alike makes
expressions that are alike.  The parser then takes the same path through both lists of tokens.
-/

namespace InventoryFilter

open List (Forall₂)

/-- Two results are alike: both are values that are alike, or both are errors that are. -/
inductive AlikeResults {ε α : Type} (errors : ε → ε → Prop) (values : α → α → Prop) :
    Except ε α → Except ε α → Prop
  | ok {a b : α} (h : values a b) : AlikeResults errors values (.ok a) (.ok b)
  | error {e f : ε} (h : errors e f) : AlikeResults errors values (.error e) (.error f)

variable [Pattern.Validator]

/-- When tokens, expressions and rejections are alike, such that reading respects it. -/
structure Likeness where
  token : Token → Token → Prop
  expr : Expr → Expr → Prop
  rejection : Rejection → Rejection → Prop
  kind_eq : ∀ {t u : Token}, token t u → t.kind = u.kind
  /-- tokens that are alike are read alike on their own -/
  leaf : ∀ {t u : Token} {r r' : Except Cause Expr}, token t u → t.leaf? = some r →
    u.leaf? = some r' →
    AlikeResults (fun cause cause' => rejection ⟨t.position, cause⟩ ⟨u.position, cause'⟩) expr r r'
  binary : ∀ {left left' right right' : Expr} (op : Operator), expr left left' →
    expr right right' → expr (.binary left op right) (.binary left' op right')
  refuse : ∀ {t u : Token} (expected : String), token t u →
    rejection (t.refuse expected) (u.refuse expected)
  /-- the same cause at tokens that are alike makes rejections that are alike -/
  reject : ∀ {t u : Token} (cause : Cause), token t u →
    rejection ⟨t.position, cause⟩ ⟨u.position, cause⟩

/-- Whether a token stands for something on its own depends on its kind alone. -/
theorem Token.leaf?_eq_none_iff (t : Token) :
    t.leaf? = none ↔ t.kind.startsOperand = false ∨ t.kind = .openBracket := by
  unfold leaf?
  cases hkind : t.kind with
  | quantity =>
    simp only [TokenKind.startsOperand]
    split <;> simp
  | pattern =>
    simp only [TokenKind.startsOperand]
    split <;> simp
  | _ => simp [TokenKind.startsOperand]

namespace Likeness

variable (L : Likeness)

/-- What is read from tokens that are alike is alike, and so are the tokens that are left. -/
def Results : Except Halt (Expr × List Token) → Except Halt (Expr × List Token) → Prop :=
  AlikeResults (fun h h' => L.rejection h.rejection h'.rejection)
    fun r r' => L.expr r.1 r'.1 ∧ Forall₂ L.token r.2 r'.2

/-- With the given fuel, `operand` respects the likeness. -/
def OperandAlike (finish finish' : Token) (fuel : Nat) : Prop :=
  ∀ {ts us : List Token}, Forall₂ L.token ts us →
    L.Results (Parser.operand finish fuel ts) (Parser.operand finish' fuel us)

/-- With the given fuel, `climb` respects the likeness. -/
def ClimbAlike (finish finish' : Token) (fuel : Nat) : Prop :=
  ∀ (least : Nat) {ts us : List Token}, Forall₂ L.token ts us →
    L.Results (Parser.climb finish fuel least ts) (Parser.climb finish' fuel least us)

/-- With the given fuel, `operators` respects the likeness. -/
def OperatorsAlike (finish finish' : Token) (fuel : Nat) : Prop :=
  ∀ (least : Nat) {left left' : Expr} {ts us : List Token}, L.expr left left' →
    Forall₂ L.token ts us →
    L.Results (Parser.operators finish fuel least left ts)
      (Parser.operators finish' fuel least left' us)

variable {L} {finish finish' : Token} {fuel : Nat}

theorem operand_alike (hfinish : L.token finish finish')
    (hclimb : L.ClimbAlike finish finish' fuel) : L.OperandAlike finish finish' (fuel + 1) := by
  intro ts us h
  cases h with
  | nil => exact .error (L.reject _ hfinish)
  | @cons t u ts us ht hts =>
    have hkind := L.kind_eq ht
    rw [Parser.operand, Parser.operand, ← hkind]
    by_cases hopen : t.kind = .openBracket
    · rw [if_pos hopen, if_pos hopen]
      have hinner := hclimb 0 hts
      generalize Parser.climb finish fuel 0 ts = r, Parser.climb finish' fuel 0 us = r' at hinner
      cases hinner with
      | error hhalt => exact .error hhalt
      | @ok a b hinner =>
        obtain ⟨inner, rest⟩ := a
        obtain ⟨inner', rest'⟩ := b
        obtain ⟨hexpr, hrest⟩ := hinner
        cases hrest with
        | nil => exact .error (L.reject _ ht)
        | @cons v w rest rest' hv hrest =>
          simp only [← L.kind_eq hv]
          by_cases hclose : v.kind = .closeBracket
          · rw [if_pos hclose, if_pos hclose]
            exact .ok ⟨hexpr, hrest⟩
          · rw [if_neg hclose, if_neg hclose]
            exact .error (L.refuse _ hv)
    · rw [if_neg hopen, if_neg hopen]
      have hnone : t.leaf? = none ↔ u.leaf? = none := by
        rw [t.leaf?_eq_none_iff, u.leaf?_eq_none_iff, hkind]
      cases hleaf : t.leaf? with
      | none =>
        rw [hnone.1 hleaf]
        exact .error (L.refuse _ ht)
      | some r =>
        cases hleaf' : u.leaf? with
        | none => simp [hleaf, hleaf'] at hnone
        | some r' =>
          cases L.leaf ht hleaf hleaf' with
          | ok hexpr => exact .ok ⟨hexpr, hts⟩
          | error hcause => exact .error hcause

theorem climb_alike (hoperand : L.OperandAlike finish finish' fuel)
    (hoperators : L.OperatorsAlike finish finish' fuel) :
    L.ClimbAlike finish finish' (fuel + 1) := by
  intro least ts us h
  rw [Parser.climb, Parser.climb]
  have hfirst := hoperand h
  generalize Parser.operand finish fuel ts = r, Parser.operand finish' fuel us = r' at hfirst
  cases hfirst with
  | error hhalt => exact .error hhalt
  | ok hleft => exact hoperators least hleft.1 hleft.2

theorem operators_alike (hclimb : L.ClimbAlike finish finish' fuel)
    (hoperators : L.OperatorsAlike finish finish' fuel) :
    L.OperatorsAlike finish finish' (fuel + 1) := by
  intro least left left' ts us hleft h
  cases h with
  | nil =>
    rw [Parser.operators, Parser.operators]
    exact .ok ⟨hleft, .nil⟩
  | @cons t u ts us ht hts =>
    rw [Parser.operators, Parser.operators, ← L.kind_eq ht]
    cases hop : Operator.ofKind? t.kind with
    | none => exact .ok ⟨hleft, .cons ht hts⟩
    | some op =>
      by_cases hloose : op.leftPower < least
      · simp only [if_pos hloose]
        exact .ok ⟨hleft, .cons ht hts⟩
      · simp only [if_neg hloose]
        have hright := hclimb op.rightPower hts
        generalize Parser.climb finish fuel op.rightPower ts = r,
          Parser.climb finish' fuel op.rightPower us = r' at hright
        cases hright with
        | error hhalt => exact .error hhalt
        | ok hright => exact hoperators least (L.binary op hleft hright.1) hright.2

theorem reads_alike (hfinish : L.token finish finish') (fuel : Nat) :
    L.OperandAlike finish finish' fuel ∧ L.ClimbAlike finish finish' fuel ∧
      L.OperatorsAlike finish finish' fuel := by
  induction fuel with
  | zero =>
    refine ⟨?_, ?_, ?_⟩
    · intro ts us _
      cases ts <;> cases us <;> exact .error (L.reject _ hfinish)
    · intro least ts us _
      exact .error (L.reject _ hfinish)
    · intro least left left' ts us _ _
      exact .error (L.reject _ hfinish)
  | succ fuel ih =>
    obtain ⟨hoperand, hclimb, hoperators⟩ := ih
    exact ⟨operand_alike hfinish hclimb, climb_alike hoperand hoperators,
      operators_alike hclimb hoperators⟩

/-- Parsers whose tokens are alike answer alike. -/
theorem expression_alike {p q : Parser} (hfinish : L.token p.finish q.finish)
    (hpending : Forall₂ L.token p.pending q.pending) :
    AlikeResults L.rejection L.expr p.expression.1 q.expression.1 := by
  have hread := (reads_alike hfinish (Parser.fuelFor p.pending)).2.1 0 hpending
  have hfuel : Parser.fuelFor q.pending = Parser.fuelFor p.pending := by
    rw [Parser.fuelFor, Parser.fuelFor, hpending.length_eq]
  unfold Parser.expression Parser.binary
  rw [hfuel]
  generalize Parser.climb p.finish (Parser.fuelFor p.pending) 0 p.pending = r,
    Parser.climb q.finish (Parser.fuelFor p.pending) 0 q.pending = r' at hread
  cases hread with
  | error hhalt => exact .error hhalt
  | @ok a b hread =>
    obtain ⟨e, rest⟩ := a
    obtain ⟨e', rest'⟩ := b
    obtain ⟨hexpr, hrest⟩ := hread
    cases hrest with
    | nil => exact .ok hexpr
    | @cons t u rest rest' ht hrest =>
      apply AlikeResults.error
      unfold Parser.refuseAfter
      rw [← L.kind_eq ht]
      by_cases hclose : t.kind = .closeBracket
      · rw [if_pos hclose, if_pos hclose]
        exact L.reject _ ht
      · rw [if_neg hclose, if_neg hclose]
        split
        · exact L.refuse _ ht
        · exact L.refuse _ ht

/-- Tokens that are alike are alike up to the end of the input, and from there on. -/
theorem span_alike {ts us : List Token} (h : Forall₂ L.token ts us) :
    Forall₂ L.token (ts.takeWhile (!·.isFinish)) (us.takeWhile (!·.isFinish)) ∧
      Forall₂ L.token (ts.dropWhile (!·.isFinish)) (us.dropWhile (!·.isFinish)) := by
  induction h with
  | nil => exact ⟨.nil, .nil⟩
  | @cons t u ts us ht hts ih =>
    have hsame : u.isFinish = t.isFinish := by rw [Token.isFinish, Token.isFinish, L.kind_eq ht]
    cases hfinish : t.isFinish with
    | true => simpa [hsame, hfinish] using And.intro ht hts
    | false => simpa [hsame, hfinish] using And.intro (And.intro ht ih.1) ih.2

theorem ofTokens_alike {ts us : List Token} (h : Forall₂ L.token ts us)
    (hends : ∃ t ∈ ts, t.isFinish = true) :
    L.token (Parser.ofTokens ts).finish (Parser.ofTokens us).finish ∧
      Forall₂ L.token (Parser.ofTokens ts).pending (Parser.ofTokens us).pending := by
  obtain ⟨htake, hdrop⟩ := span_alike h
  unfold Parser.ofTokens
  generalize hleft : ts.dropWhile (!·.isFinish) = left, us.dropWhile (!·.isFinish) = right at hdrop
  cases hdrop with
  | nil =>
    obtain ⟨t, ht, hfinish⟩ := hends
    have hnone := List.dropWhile_eq_nil_iff.1 hleft t ht
    simp [hfinish] at hnone
  | cons hfinish _ => exact ⟨hfinish, htake⟩

/-- Filters whose tokens are alike are read alike. -/
theorem parse_alike {s s' : String} (h : Forall₂ L.token (tokenize s) (tokenize s')) :
    AlikeResults L.rejection L.expr (parse s) (parse s') := by
  obtain ⟨tokens, htokens, _⟩ := (tiles_tokenize s).eq_append_finishAt
  have hends : ∃ t ∈ tokenize s, t.isFinish = true :=
    ⟨_, by rw [htokens]; exact List.mem_append_right _ List.mem_cons_self, rfl⟩
  obtain ⟨hfinish, hpending⟩ := ofTokens_alike h hends
  exact expression_alike hfinish hpending

end Likeness

end InventoryFilter
