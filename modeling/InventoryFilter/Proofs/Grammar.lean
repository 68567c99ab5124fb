import InventoryFilter.Expr.Parser

set_option autoImplicit false

/-!
# The grammar of filters

Which trees a list of tokens stands for, said without a parser:

    disjunction := conjunction ("or" conjunction)*
    conjunction := comparison ("and" comparison)*
    comparison  := operand (comparator operand)*
    operand     := literal | identifier | "(" disjunction ")"

Every repetition groups to the left, and brackets leave no trace in the tree.  The layers are
numbered from the loosest, so that disjunctions are layer `0` and operands are layer `3`.
-/

namespace InventoryFilter

/-- The layer of the grammar whose repetition the operator belongs to. -/
def Operator.layer : Operator → Nat
  | or => 0
  | and => 1
  | _ => 2

theorem Operator.layer_le (op : Operator) : op.layer ≤ 2 := by
  cases op <;> decide

/-- The powers of an operator are its layer, spread out so that a border fits between two layers. -/
theorem Operator.leftPower_eq (op : Operator) : op.leftPower = 2 * op.layer + 1 := by
  cases op <;> rfl

theorem Operator.rightPower_eq (op : Operator) : op.rightPower = 2 * (op.layer + 1) := by
  rw [rightPower, leftPower_eq]
  omega

/-- An operator is too loose for a border between two layers exactly if its layer is. -/
theorem Operator.leftPower_lt_iff (op : Operator) (layer : Nat) :
    op.leftPower < 2 * layer ↔ op.layer < layer := by
  rw [leftPower_eq]
  omega

variable [Pattern.Validator]

namespace Grammar

/-- The tree that a single token stands for. -/
inductive Literal : Token → Expr → Prop
  | string {t : Token} (hkind : t.kind = .string) : Literal t (.string t.lexeme)
  | identifier {t : Token} (hkind : t.kind = .identifier) : Literal t (.identifier t.lexeme)
  | boolean {t : Token} (hkind : t.kind = .boolean) :
      Literal t (.boolean (Text.sameIgnoringCase t.lexeme.toList ['t', 'r', 'u', 'e']))
  | quantity {t : Token} {q : Quantity} (hkind : t.kind = .quantity)
      (hread : Quantity.ofText t.lexeme = .ok q) : Literal t (.quantity q)
  | pattern {t : Token} {p : Pattern} (hkind : t.kind = .pattern)
      (hread : Pattern.ofText t.lexeme = .ok p) : Literal t (.pattern p)

/-- `Derives layer ts e`: the tokens `ts` are a phrase of the layer, and `e` is its tree. -/
inductive Derives : Nat → List Token → Expr → Prop
  /-- a literal or an identifier -/
  | leaf {t : Token} {e : Expr} (hleaf : Literal t e) : Derives 3 [t] e
  /-- a disjunction in brackets -/
  | bracketed {t u : Token} {ts : List Token} {e : Expr} (hopen : t.kind = .openBracket)
      (hclose : u.kind = .closeBracket) (hinner : Derives 0 ts e) :
      Derives 3 (t :: (ts ++ [u])) e
  /-- a phrase of the next layer, with no repetition after it -/
  | single {layer : Nat} {ts : List Token} {e : Expr} (hphrase : Derives (layer + 1) ts e) :
      Derives layer ts e
  /-- one more repetition -/
  | chained {t : Token} {op : Operator} {ts us : List Token} {left right : Expr}
      (hleft : Derives op.layer ts left) (hop : t.kind = op.kind)
      (hright : Derives (op.layer + 1) us right) :
      Derives op.layer (ts ++ t :: us) (.binary left op right)

/-- A phrase of a layer is a phrase of every looser layer. -/
theorem Derives.loosen {layer tighter : Nat} {ts : List Token} {e : Expr}
    (hle : layer ≤ tighter) (h : Derives tighter ts e) : Derives layer ts e := by
  induction hle with
  | refl => exact h
  | step _ ih => exact ih (.single h)

end Grammar

/-! ## Single tokens -/

open Grammar in
/-- A token is read on its own as the grammar has it. -/
theorem Token.leaf?_eq_ok_iff {t : Token} {e : Expr} :
    t.leaf? = some (.ok e) ↔ Literal t e := by
  constructor
  · intro h
    unfold leaf? at h
    split at h
    · next hkind => cases h; exact .string hkind
    · next hkind => cases h; exact .identifier hkind
    · next hkind => cases h; exact .boolean hkind
    · next hkind =>
      split at h
      · next q hread => cases h; exact .quantity hkind hread
      · cases h
    · next hkind =>
      split at h
      · next p hread => cases h; exact .pattern hkind hread
      · cases h
    · cases h
  · intro h
    cases h with
    | string hkind => simp [leaf?, hkind]
    | identifier hkind => simp [leaf?, hkind]
    | boolean hkind => simp [leaf?, hkind]
    | quantity hkind hread => simp [leaf?, hkind, hread]
    | pattern hkind hread => simp [leaf?, hkind, hread]

/-- A literal is no bracket. -/
theorem Grammar.Literal.kind_ne_openBracket {t : Token} {e : Expr} (h : Literal t e) :
    t.kind ≠ .openBracket := by
  cases h <;> simp [*]

end InventoryFilter
