import InventoryFilter.Proofs.SqlScanning
import Mathlib.Data.List.Chain

set_option autoImplicit false

/-!
# The grammar of SQL predicates

Which trees a list of SQL tokens stands for:

    arguments   := disjunction ("," disjunction)*
    disjunction := conjunction ("OR" conjunction)*
    conjunction := negation ("AND" negation)*
    negation    := "NOT" negation | comparison
    comparison  := operand (comparator operand)*
    operand     := constant | name | function "(" arguments ")" | "(" disjunction ")"

Every repetition groups to the left.  The layers are numbered from the loosest, so that arguments
are layer `0` and operands are layer `5`.  No list of tokens has two trees.
-/

namespace InventoryFilter

/-- An operator between two SQL expressions.  The comma puts arguments together. -/
inductive SqlOperator
  | comma
  | or
  | and
  | equal
  | notEqual
  | less
  | lessEqual
  | greater
  | greaterEqual
  deriving DecidableEq, Repr

/-- An SQL expression. -/
inductive SqlExpr
  | leaf (t : SqlToken)
  | not (e : SqlExpr)
  | call (function : List Char) (arguments : SqlExpr)
  | binary (left : SqlExpr) (op : SqlOperator) (right : SqlExpr)
  deriving DecidableEq, Repr

namespace SqlOperator

/-- The token that stands for the operator. -/
def token : SqlOperator → SqlToken
  | comma => .symbol [',']
  | or => .word "OR".toList
  | and => .word "AND".toList
  | equal => .symbol ['=']
  | notEqual => .symbol ['!', '=']
  | less => .symbol ['<']
  | lessEqual => .symbol ['<', '=']
  | greater => .symbol ['>']
  | greaterEqual => .symbol ['>', '=']

/-- The operator that a token stands for. -/
def ofToken? (t : SqlToken) : Option SqlOperator :=
  [comma, or, and, equal, notEqual, less, lessEqual, greater, greaterEqual].find? (·.token == t)

theorem ofToken?_token (op : SqlOperator) : ofToken? op.token = some op := by
  cases op <;> rfl

/-- The layer of the grammar whose repetition the operator belongs to. -/
def layer : SqlOperator → Nat
  | comma => 0
  | or => 1
  | and => 2
  | _ => 4

/-- Negations are a layer without an operator. -/
theorem layer_ne_three (op : SqlOperator) : op.layer ≠ 3 := by
  cases op <;> decide

end SqlOperator

namespace SqlToken

/-- The token of negation. -/
def negation : SqlToken := word "NOT".toList

def openBracket : SqlToken := symbol ['(']

def closeBracket : SqlToken := symbol [')']

/-- Whether the token is a constant or a name. -/
def isLeaf : SqlToken → Bool
  | constant _ => true
  | name _ => true
  | number _ => true
  | word text => text == "TRUE".toList || text == "FALSE".toList
  | _ => false

/-- Whether the token is a blank. -/
def isBlank : SqlToken → Bool
  | blank _ => true
  | _ => false

@[simp] theorem isBlank_blank (c : Char) : (blank c).isBlank = true := rfl

@[simp] theorem isBlank_word (text : List Char) : (word text).isBlank = false := rfl

@[simp] theorem isBlank_symbol (text : List Char) : (symbol text).isBlank = false := rfl

@[simp] theorem isBlank_token (op : SqlOperator) : op.token.isBlank = false := by
  cases op <;> rfl

/-- Whether the word may be the name of a function. -/
def isFunction (text : List Char) : Bool :=
  ["AND".toList, "OR".toList, "NOT".toList, "TRUE".toList, "FALSE".toList].all (· != text)

end SqlToken

namespace Sql

open SqlToken

/-- `Derives layer ts e`: the tokens `ts` are a phrase of the layer, and `e` is its tree. -/
inductive Derives : Nat → List SqlToken → SqlExpr → Prop
  /-- a constant or a name -/
  | leaf {t : SqlToken} (hleaf : t.isLeaf = true) : Derives 5 [t] (.leaf t)
  /-- a disjunction in brackets -/
  | bracketed {ts : List SqlToken} {e : SqlExpr} (hinner : Derives 1 ts e) :
      Derives 5 (openBracket :: (ts ++ [closeBracket])) e
  /-- a function and its arguments -/
  | call {f : List Char} {ts : List SqlToken} {e : SqlExpr} (hfunction : isFunction f = true)
      (harguments : Derives 0 ts e) :
      Derives 5 (word f :: openBracket :: (ts ++ [closeBracket])) (.call f e)
  /-- a negation of what binds as tight as a negation -/
  | negated {ts : List SqlToken} {e : SqlExpr} (hinner : Derives 3 ts e) :
      Derives 3 (negation :: ts) (.not e)
  /-- a phrase of the next layer, with no repetition after it -/
  | single {layer : Nat} {ts : List SqlToken} {e : SqlExpr} (hphrase : Derives (layer + 1) ts e) :
      Derives layer ts e
  /-- one more repetition -/
  | chained {op : SqlOperator} {ts us : List SqlToken} {left right : SqlExpr}
      (hleft : Derives op.layer ts left) (hright : Derives (op.layer + 1) us right) :
      Derives op.layer (ts ++ op.token :: us) (.binary left op right)

/-- A phrase of a layer is a phrase of every looser layer. -/
theorem Derives.loosen {layer tighter : Nat} {ts : List SqlToken} {e : SqlExpr}
    (hle : layer ≤ tighter) (h : Derives tighter ts e) : Derives layer ts e := by
  induction hle with
  | refl => exact h
  | step _ ih => exact ih (.single h)

/-- `Reads sql e`: the text, split into tokens and without its blanks, is a disjunction with the
tree `e`. -/
def Reads (sql : String) (e : SqlExpr) : Prop :=
  ∃ ts, scan sql.toList = some ts ∧
    Derives 1 (ts.filter fun t => !t.isBlank) e

/-! ## A reader

The reader is lenient: it takes a negation for any operand and any token for a function, and does
not look at closing brackets.  But it reads every phrase, and reads it as its tree, so that there is
only one. -/

mutual

/-- Reads an operand or a negation. -/
def operand : Nat → List SqlToken → Option (SqlExpr × List SqlToken)
  | 0, _ => none
  | _ + 1, [] => none
  | fuel + 1, t :: ts =>
    if t = negation then (climb fuel 3 ts).map fun r => (.not r.1, r.2)
    else if t = openBracket then (climb fuel 1 ts).map fun r => (r.1, r.2.tail)
    else if t.isLeaf then some (.leaf t, ts)
    else (climb fuel 0 ts.tail).map fun r => (.call t.spelling r.1, r.2.tail)

/-- Reads a phrase of the layer, as far as it goes. -/
def climb : Nat → Nat → List SqlToken → Option (SqlExpr × List SqlToken)
  | 0, _, _ => none
  | fuel + 1, least, ts => (operand fuel ts).bind fun r => operators fuel least r.1 r.2

/-- Reads on from the expression on the left, as long as operators of the layer or a tighter one
follow. -/
def operators : Nat → Nat → SqlExpr → List SqlToken → Option (SqlExpr × List SqlToken)
  | 0, _, _, _ => none
  | _ + 1, _, left, [] => some (left, [])
  | fuel + 1, least, left, t :: ts =>
    match SqlOperator.ofToken? t with
    | none => some (left, t :: ts)
    | some op =>
      if op.layer < least then some (left, t :: ts)
      else (climb fuel (op.layer + 1) ts).bind fun r =>
        operators fuel least (.binary left op r.1) r.2

end

/-- The tokens do not go on with an operator of the given layer or a tighter one. -/
def StopsAt (layer : Nat) (ts : List SqlToken) : Prop :=
  ∀ t op, t ∈ ts.head? → SqlOperator.ofToken? t = some op → op.layer < layer

theorem StopsAt.nil (layer : Nat) : StopsAt layer [] := by
  intro t op h
  cases h

theorem StopsAt.mono {layer tighter : Nat} {ts : List SqlToken} (hle : layer ≤ tighter)
    (h : StopsAt layer ts) : StopsAt tighter ts := by
  intro t op ht hop
  exact Nat.lt_of_lt_of_le (h t op ht hop) hle

/-- No operator stands between a negation and a comparison. -/
theorem StopsAt.of_four {ts : List SqlToken} (h : StopsAt 4 ts) : StopsAt 3 ts := by
  intro t op ht hop
  have hlt : op.layer < 4 := h t op ht hop
  have hne := op.layer_ne_three
  omega

theorem StopsAt.closeBracket (layer : Nat) (ts : List SqlToken) :
    StopsAt layer (closeBracket :: ts) := by
  rintro t op ⟨⟩ hop
  cases hop

/-- An operator stops the layers that are tighter than its own. -/
theorem StopsAt.token (op : SqlOperator) (ts : List SqlToken) :
    StopsAt (op.layer + 1) (op.token :: ts) := by
  rintro t op' ⟨⟩ hop
  rw [SqlOperator.ofToken?_token] at hop
  cases hop
  exact Nat.lt_succ_self _

theorem operators_of_stopsAt {fuel layer : Nat} (left : SqlExpr) {ts : List SqlToken}
    (hfuel : 0 < fuel) (h : StopsAt layer ts) :
    operators fuel layer left ts = some (left, ts) := by
  obtain ⟨fuel, rfl⟩ := Nat.exists_eq_succ_of_ne_zero (Nat.ne_of_gt hfuel)
  cases ts with
  | nil => rw [operators]
  | cons t ts =>
    rw [operators]
    split
    · rfl
    · next op hop => rw [if_pos (h t op rfl hop)]

/-- `ReadsOn layer us e`: before tokens that do not tighten it, the phrase `us` is read as `e`,
whatever looser layer is asked for, and reading goes on with the operators after it.  Fuel for the
tokens that are left remains. -/
def ReadsOn (layer : Nat) (us : List SqlToken) (e : SqlExpr) : Prop :=
  ∀ (least : Nat) (rest : List SqlToken) (fuel : Nat), least ≤ layer → StopsAt (layer + 1) rest →
    2 * (us ++ rest).length + 2 ≤ fuel →
    ∃ fuel', 2 * rest.length + 1 ≤ fuel' ∧
      climb fuel least (us ++ rest) = operators fuel' least e rest

/-- Before tokens that stop its layer, a phrase is all that is read. -/
theorem ReadsOn.climb_eq {layer : Nat} {us rest : List SqlToken} {e : SqlExpr} {fuel : Nat}
    (h : ReadsOn layer us e) (hstops : StopsAt layer rest)
    (hfuel : 2 * (us ++ rest).length + 2 ≤ fuel) :
    climb fuel layer (us ++ rest) = some (e, rest) := by
  obtain ⟨fuel', hfuel', hclimb⟩ :=
    h layer rest fuel (Nat.le_refl _) (hstops.mono (Nat.le_succ _)) hfuel
  rw [hclimb]
  exact operators_of_stopsAt e (by omega) hstops

theorem ReadsOn.of_operand {layer : Nat} {us : List SqlToken} {e : SqlExpr}
    (h : ∀ (rest : List SqlToken) (fuel : Nat), StopsAt (layer + 1) rest →
      2 * (us ++ rest).length ≤ fuel → operand (fuel + 1) (us ++ rest) = some (e, rest)) :
    ReadsOn layer us e := by
  intro least rest fuel _ hstops hfuel
  obtain ⟨fuel, rfl⟩ : ∃ f, fuel = f + 2 := ⟨fuel - 2, by omega⟩
  refine ⟨fuel + 1, ?_, ?_⟩
  · simp only [List.length_append] at hfuel
    omega
  · rw [climb, h rest fuel hstops (by omega)]
    rfl

theorem ReadsOn.leaf {t : SqlToken} (h : t.isLeaf = true) : ReadsOn 5 [t] (.leaf t) := by
  refine ReadsOn.of_operand ?_
  intro rest fuel _ _
  have hnegation : t ≠ negation := by rintro rfl; cases h
  have hopen : t ≠ openBracket := by rintro rfl; cases h
  rw [List.singleton_append, operand, if_neg hnegation, if_neg hopen, if_pos h]

theorem ReadsOn.bracketed {ts : List SqlToken} {e : SqlExpr} (h : ReadsOn 1 ts e) :
    ReadsOn 5 (openBracket :: (ts ++ [closeBracket])) e := by
  refine ReadsOn.of_operand ?_
  intro rest fuel _ hfuel
  simp only [List.cons_append, List.append_assoc, List.nil_append, List.length_cons] at hfuel ⊢
  have hinner : climb fuel 1 (ts ++ closeBracket :: rest) = some (e, closeBracket :: rest) :=
    h.climb_eq (.closeBracket 1 rest) (by omega)
  rw [operand, if_neg (by decide), if_pos rfl, hinner]
  rfl

theorem ReadsOn.call {f : List Char} {ts : List SqlToken} {e : SqlExpr}
    (hfunction : isFunction f = true) (h : ReadsOn 0 ts e) :
    ReadsOn 5 (word f :: openBracket :: (ts ++ [closeBracket])) (.call f e) := by
  refine ReadsOn.of_operand ?_
  intro rest fuel _ hfuel
  simp only [List.cons_append, List.append_assoc, List.nil_append, List.length_cons] at hfuel ⊢
  have hinner : climb fuel 0 (ts ++ closeBracket :: rest) = some (e, closeBracket :: rest) :=
    h.climb_eq (.closeBracket 0 rest) (by omega)
  have hnegation : word f ≠ negation := by rintro ⟨⟩; cases hfunction
  have hopen : word f ≠ openBracket := by rintro ⟨⟩
  have hleaf : ¬ (word f).isLeaf = true := by
    intro hleaf
    rcases (by simpa [isLeaf] using hleaf : f = _ ∨ f = _) with rfl | rfl <;> cases hfunction
  rw [operand, if_neg hnegation, if_neg hopen, if_neg hleaf]
  simp only [List.tail_cons, hinner, Option.map_some, spelling]

theorem ReadsOn.negated {ts : List SqlToken} {e : SqlExpr} (h : ReadsOn 3 ts e) :
    ReadsOn 3 (negation :: ts) (.not e) := by
  refine ReadsOn.of_operand ?_
  intro rest fuel hstops hfuel
  simp only [List.cons_append, List.length_cons] at hfuel ⊢
  have hinner : climb fuel 3 (ts ++ rest) = some (e, rest) :=
    h.climb_eq hstops.of_four (by omega)
  rw [operand, if_pos rfl, hinner]
  rfl

theorem ReadsOn.chained {op : SqlOperator} {ts us : List SqlToken} {left right : SqlExpr}
    (hleft : ReadsOn op.layer ts left) (hright : ReadsOn (op.layer + 1) us right) :
    ReadsOn op.layer (ts ++ op.token :: us) (.binary left op right) := by
  intro least rest fuel hleast hstops hfuel
  simp only [List.append_assoc, List.cons_append] at hfuel ⊢
  obtain ⟨fuel₁, hfuel₁, hclimb⟩ :=
    hleft least (op.token :: (us ++ rest)) fuel hleast (.token op _) hfuel
  simp only [List.length_cons] at hfuel₁
  obtain ⟨fuel₂, rfl⟩ : ∃ f, fuel₁ = f + 1 := ⟨fuel₁ - 1, by omega⟩
  have hnext : climb fuel₂ (op.layer + 1) (us ++ rest) = some (right, rest) :=
    hright.climb_eq hstops (by omega)
  refine ⟨fuel₂, ?_, ?_⟩
  · simp only [List.length_append] at hfuel₁
    omega
  · rw [hclimb, operators, SqlOperator.ofToken?_token]
    simp only [if_neg (Nat.not_lt.2 hleast), hnext, Option.bind_some]

/-- Every phrase is read as its tree. -/
theorem Derives.readsOn {layer : Nat} {us : List SqlToken} {e : SqlExpr}
    (h : Derives layer us e) : ReadsOn layer us e := by
  induction h with
  | leaf hleaf => exact .leaf hleaf
  | bracketed _ ih => exact ih.bracketed
  | call hfunction _ ih => exact ih.call hfunction
  | negated _ ih => exact ih.negated
  | single _ ih =>
    intro least rest fuel hleast hstops hfuel
    exact ih least rest fuel (Nat.le_succ_of_le hleast) (hstops.mono (Nat.le_succ _)) hfuel
  | chained _ _ ihLeft ihRight => exact ihLeft.chained ihRight

/-- No list of tokens is a phrase of a layer with two trees. -/
theorem Derives.unique {layer : Nat} {ts : List SqlToken} {e e' : SqlExpr}
    (h : Derives layer ts e) (h' : Derives layer ts e') : e = e' := by
  have hread := h.readsOn.climb_eq (.nil layer) (Nat.le_refl _)
  rw [h'.readsOn.climb_eq (.nil layer) (Nat.le_refl _)] at hread
  cases hread
  rfl

/-! ## Where negations stand -/

/-- A comparison is not followed by a negation. -/
def MayPrecede (t u : SqlToken) : Prop :=
  u = negation → ∀ op : SqlOperator, t = op.token → op.layer ≠ 4

theorem MayPrecede.of_ne {t u : SqlToken} (h : u ≠ negation) : MayPrecede t u :=
  fun hu => absurd hu h

theorem MayPrecede.of_ofToken?_eq_none {t u : SqlToken} (h : SqlOperator.ofToken? t = none) :
    MayPrecede t u := by
  rintro _ op rfl
  rw [SqlOperator.ofToken?_token] at h
  cases h

theorem token_ne_negation (op : SqlOperator) : op.token ≠ negation := by
  cases op <;> decide

/-- What binds as tight as a comparison does not begin with a negation. -/
theorem Derives.negation_notMem_head? {layer : Nat} {ts : List SqlToken} {e : SqlExpr}
    (h : Derives layer ts e) (hlayer : 4 ≤ layer) : negation ∉ ts.head? := by
  induction h with
  | leaf hleaf =>
    rintro ⟨⟩
    cases hleaf
  | bracketed => rintro ⟨⟩
  | call hfunction =>
    rintro ⟨⟩
    cases hfunction
  | negated => omega
  | single _ ih => exact ih (by omega)
  | @chained op ts us _ _ _ _ ihLeft _ =>
    cases ts with
    | nil =>
      intro hhead
      exact token_ne_negation op (Option.some.inj hhead)
    | cons t ts => exact ihLeft hlayer

/-- In no phrase is a comparison followed by a negation. -/
theorem Derives.isChain {layer : Nat} {ts : List SqlToken} {e : SqlExpr}
    (h : Derives layer ts e) : ts.IsChain MayPrecede := by
  -- brackets around a phrase neither compare nor negate
  have hclose : ∀ {ts : List SqlToken}, ts.IsChain MayPrecede →
      (openBracket :: (ts ++ [closeBracket])).IsChain MayPrecede := by
    intro ts hts
    refine List.isChain_cons.2 ⟨fun y _ => .of_ofToken?_eq_none rfl, ?_⟩
    refine List.isChain_append.2 ⟨hts, List.isChain_singleton _, ?_⟩
    rintro x _ y ⟨⟩
    exact .of_ne (by decide)
  induction h with
  | leaf => exact List.isChain_singleton _
  | bracketed _ ih => exact hclose ih
  | call _ _ ih =>
    refine List.isChain_cons.2 ⟨?_, hclose ih⟩
    rintro y ⟨⟩
    exact .of_ne (by decide)
  | negated _ ih => exact List.isChain_cons.2 ⟨fun y _ => .of_ofToken?_eq_none rfl, ih⟩
  | single _ ih => exact ih
  | @chained op ts us _ _ _ hright ihLeft ihRight =>
    have hnext : ∀ y ∈ us.head?, MayPrecede op.token y := by
      rintro y hy rfl op' htoken hlayer
      have hop : op = op' := by
        have hsome := SqlOperator.ofToken?_token op
        rw [htoken, SqlOperator.ofToken?_token] at hsome
        exact (Option.some.inj hsome).symm
      subst hop
      exact hright.negation_notMem_head? (by omega) hy
    refine List.isChain_append.2 ⟨ihLeft, List.isChain_cons.2 ⟨hnext, ihRight⟩, ?_⟩
    rintro x _ y ⟨⟩
    exact .of_ne (token_ne_negation op)

end Sql

end InventoryFilter
