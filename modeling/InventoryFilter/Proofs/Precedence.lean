import InventoryFilter.Proofs.Cursor

set_option autoImplicit false

/-!
# What the precedence loop guarantees

Reading an expression with a least strength takes some tokens and stops before an operator that is
too loose.  Of the tree that is read, every operator has at least that strength, unless it stands in
brackets.

A least strength falls between two layers of the grammar or onto one of them, and only the layer
counts.  So all of this follows from the phrases that are read, for any strength.
-/

namespace InventoryFilter

open Grammar

/-- For which operators a strength is too much is told by a layer. -/
theorem Operator.exists_layer (least : Nat) :
    ∃ layer ≤ 3, ∀ op : Operator, op.leftPower < least ↔ op.layer < layer := by
  by_cases hhigh : 6 ≤ least
  · refine ⟨3, Nat.le_refl _, fun op => ?_⟩
    have hlayer := op.layer_le
    rw [leftPower_eq]
    omega
  · refine ⟨least / 2, by omega, fun op => ?_⟩
    rw [leftPower_eq]
    omega

/-! ## Operators outside brackets -/

variable [Pattern.Validator]

/-- `Spells ts e outer`: the tokens `ts` spell the tree `e`, and `outer` are the operators of the
tree that are reached from its root without entering brackets, from left to right. -/
inductive Spells : List Token → Expr → List Operator → Prop
  | leaf {t : Token} {e : Expr} (hleaf : Literal t e) : Spells [t] e []
  | bracketed {t u : Token} {ts : List Token} {e : Expr} {inner : List Operator}
      (hopen : t.kind = .openBracket) (hclose : u.kind = .closeBracket)
      (hinner : Spells ts e inner) : Spells (t :: (ts ++ [u])) e []
  | chained {t : Token} {op : Operator} {ts us : List Token} {left right : Expr}
      {before after : List Operator} (hleft : Spells ts left before) (hop : t.kind = op.kind)
      (hright : Spells us right after) :
      Spells (ts ++ t :: us) (.binary left op right) (before ++ op :: after)

/-- In a phrase of a layer, the operators outside brackets are of that layer or tighter. -/
theorem Grammar.Derives.exists_spells {layer : Nat} {ts : List Token} {e : Expr}
    (h : Derives layer ts e) : ∃ outer, Spells ts e outer ∧ ∀ op ∈ outer, layer ≤ op.layer := by
  induction h with
  | leaf hleaf => exact ⟨[], .leaf hleaf, by simp⟩
  | bracketed hopen hclose _ ih =>
    obtain ⟨inner, hinner, -⟩ := ih
    exact ⟨[], .bracketed hopen hclose hinner, by simp⟩
  | single _ ih =>
    obtain ⟨outer, hspells, hlayers⟩ := ih
    exact ⟨outer, hspells, fun op hop => Nat.le_of_succ_le (hlayers op hop)⟩
  | @chained t op ts us left right _ hop _ ihLeft ihRight =>
    obtain ⟨before, hleft, hbefore⟩ := ihLeft
    obtain ⟨after, hright, hafter⟩ := ihRight
    refine ⟨before ++ op :: after, .chained hleft hop hright, ?_⟩
    intro other hother
    rcases List.mem_append.1 hother with hother | hother
    · exact hbefore other hother
    · rcases List.mem_cons.1 hother with rfl | hother
      · exact Nat.le_refl _
      · exact Nat.le_of_succ_le (hafter other hother)

/-- The operators among the tokens that stand outside all brackets, so many of which are open in
front of them. -/
def operatorsOutside : Nat → List Token → List Operator
  | _, [] => []
  | depth, t :: ts =>
    if t.kind = .openBracket then operatorsOutside (depth + 1) ts
    else if t.kind = .closeBracket then operatorsOutside (depth - 1) ts
    else (if depth = 0 then (Operator.ofKind? t.kind).toList else []) ++ operatorsOutside depth ts

namespace Spells

theorem ne_nil {ts : List Token} {e : Expr} {outer : List Operator} (h : Spells ts e outer) :
    ts ≠ [] := by
  cases h <;> simp

/-- The operators that are reached without entering brackets are those of the tokens outside
brackets. -/
theorem operatorsOutside_append {ts : List Token} {e : Expr} {outer : List Operator}
    (h : Spells ts e outer) (depth : Nat) (rest : List Token) :
    operatorsOutside depth (ts ++ rest) =
      (if depth = 0 then outer else []) ++ operatorsOutside depth rest := by
  induction h generalizing depth rest with
  | @leaf t e hleaf =>
    have hkind : t.kind ≠ .openBracket ∧ t.kind ≠ .closeBracket ∧
        Operator.ofKind? t.kind = none := by
      cases hleaf <;> simp_all <;> rfl
    obtain ⟨hopen, hclose, hop⟩ := hkind
    rw [List.singleton_append, operatorsOutside, if_neg hopen, if_neg hclose, hop]
    rfl
  | @bracketed t u ts e inner hopen hclose _ ih =>
    have hne : ¬ u.kind = .openBracket := by rw [hclose]; decide
    rw [List.cons_append, operatorsOutside, if_pos hopen, List.append_assoc, ih,
      List.singleton_append, operatorsOutside, if_neg hne, if_pos hclose, Nat.add_sub_cancel]
    simp
  | @chained t op ts us left right before after _ hop _ ihLeft ihRight =>
    have hkind : t.kind ≠ .openBracket ∧ t.kind ≠ .closeBracket := by
      rw [hop]
      cases op <;> decide
    rw [List.append_assoc, ihLeft, List.cons_append, operatorsOutside, if_neg hkind.1,
      if_neg hkind.2, ihRight, hop, Operator.ofKind?_kind]
    by_cases hdepth : depth = 0 <;> simp [hdepth]

/-- Which operators stand outside brackets is decided by the tokens. -/
theorem outer_unique {ts : List Token} {e e' : Expr} {outer outer' : List Operator}
    (h : Spells ts e outer) (h' : Spells ts e' outer') : outer = outer' := by
  have hall := h.operatorsOutside_append 0 []
  rw [h'.operatorsOutside_append 0 []] at hall
  simpa using hall.symm

end Spells

/-! ## Any least strength -/

namespace Parser

section Strengths

variable {least least' : Nat}
  (h : ∀ op : Operator, op.leftPower < least ↔ op.leftPower < least')

include h

/-- Of a least strength, only for which operators it is too much makes a difference. -/
theorem operators_congr (finish : Token) (fuel : Nat) (left : Expr) (ts : List Token) :
    operators finish fuel least left ts = operators finish fuel least' left ts := by
  induction fuel generalizing left ts with
  | zero => rw [operators, operators]
  | succ fuel ih =>
    cases ts with
    | nil => rw [operators, operators]
    | cons t ts =>
      rw [operators, operators]
      cases Operator.ofKind? t.kind with
      | none => rfl
      | some op => simp only [h op, ih]

theorem climb_congr (finish : Token) (fuel : Nat) (ts : List Token) :
    climb finish fuel least ts = climb finish fuel least' ts := by
  cases fuel with
  | zero => rfl
  | succ fuel =>
    rw [climb, climb]
    cases operand finish fuel ts with
    | error halt => rfl
    | ok r => exact operators_congr h finish fuel r.1 r.2

end Strengths

/-- What is read with a least strength are some tokens.  The operators outside brackets have at
least that strength, and no such operator follows. -/
theorem binary_guarantees {p : Parser} {least : Nat} {e : Expr} {rest : List Token}
    (h : p.binary least = .ok (e, rest)) :
    ∃ us outer, p.pending = us ++ rest ∧ Spells us e outer ∧
      (∀ op ∈ outer, least ≤ op.leftPower) ∧
      ∀ t ∈ rest.head?, ∀ op, Operator.ofKind? t.kind = some op → op.leftPower < least := by
  obtain ⟨layer, hle, hlayer⟩ := Operator.exists_layer least
  rw [binary, climb_congr fun op => (hlayer op).trans (op.leftPower_lt_iff layer).symm] at h
  obtain ⟨us, hpending, hderives, hstops⟩ :=
    (reads_sound p.finish _).2.1 layer p.pending e rest hle h
  obtain ⟨outer, hspells, hlayers⟩ := hderives.exists_spells
  refine ⟨us, outer, hpending, hspells, ?_, ?_⟩
  · intro op hop
    exact Nat.not_lt.1 (mt (hlayer op).1 (Nat.not_lt.2 (hlayers op hop)))
  · intro t ht op hop
    obtain ⟨behind, hrest⟩ := List.head?_eq_some_iff.1 ht
    exact (hlayer op).2 (hstops t behind op hrest hop)

end Parser

end InventoryFilter
