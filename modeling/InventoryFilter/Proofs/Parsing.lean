import InventoryFilter.Pattern.Standard
import InventoryFilter.Proofs.Grammar

set_option autoImplicit false

/-!
# Reading is deriving

The parser accepts exactly the phrases of the grammar and builds exactly their trees.  The border
between two layers of the grammar is a strength: reading with at least the strength `2 * layer`
reads a phrase of that layer, and goes on as long as an operator of that layer or a tighter one
follows.
-/

namespace InventoryFilter

open Grammar

/-- The tokens do not go on with an operator of the given layer or a tighter one. -/
def StopsAt (layer : Nat) (ts : List Token) : Prop :=
  ∀ t rest op, ts = t :: rest → Operator.ofKind? t.kind = some op → op.layer < layer

theorem StopsAt.nil (layer : Nat) : StopsAt layer [] := by
  intro t rest op h
  cases h

theorem StopsAt.mono {layer tighter : Nat} {ts : List Token} (hle : layer ≤ tighter)
    (h : StopsAt layer ts) : StopsAt tighter ts := by
  intro t rest op hts hop
  exact Nat.lt_of_lt_of_le (h t rest op hts hop) hle

/-- A token that is no operator stops every layer. -/
theorem StopsAt.of_ofKind?_eq_none {layer : Nat} {t : Token} {ts : List Token}
    (h : Operator.ofKind? t.kind = none) : StopsAt layer (t :: ts) := by
  intro u rest op hts hop
  cases hts
  rw [h] at hop
  cases hop

/-- An operator stops the layers that are tighter than its own. -/
theorem StopsAt.of_kind {op : Operator} {t : Token} {ts : List Token} (h : t.kind = op.kind) :
    StopsAt (op.layer + 1) (t :: ts) := by
  intro u rest op' hts hop
  cases hts
  rw [h, Operator.ofKind?_kind] at hop
  cases hop
  exact Nat.lt_succ_self _

theorem eq_ok_of_toOption_eq_some {ε α : Type} {x : Except ε α} {a : α}
    (h : x.toOption = some a) : x = .ok a := by
  cases x with
  | error => cases h
  | ok => cases h; rfl

theorem eq_error_of_map_eq_error {ε α β : Type} {x : Except ε α} {f : α → β} {r : ε}
    (h : x.map f = .error r) : x = .error r := by
  cases x with
  | error => cases h; rfl
  | ok => cases h

section

variable [Pattern.Validator]

namespace Parser

/-! ## What is read is derived -/

/-- What `operand` reads with the given fuel is an operand. -/
def OperandSound (finish : Token) (fuel : Nat) : Prop :=
  ∀ ts e rest, operand finish fuel ts = .ok (e, rest) → ∃ us, ts = us ++ rest ∧ Derives 3 us e

/-- What `climb` reads with the given fuel is a phrase of the layer whose border is asked for, and
no operator of that layer follows. -/
def ClimbSound (finish : Token) (fuel : Nat) : Prop :=
  ∀ layer ts e rest, layer ≤ 3 → climb finish fuel (2 * layer) ts = .ok (e, rest) →
    ∃ us, ts = us ++ rest ∧ Derives layer us e ∧ StopsAt layer rest

/-- What `operators` reads with the given fuel makes a phrase together with the phrase on its left.
That one may be of any tighter layer, as long as no operator of a still tighter layer follows it. -/
def OperatorsSound (finish : Token) (fuel : Nat) : Prop :=
  ∀ layer tighter done left ts e rest, layer ≤ tighter → tighter ≤ 3 →
    Derives tighter done left → StopsAt (tighter + 1) ts →
    operators finish fuel (2 * layer) left ts = .ok (e, rest) →
    ∃ us, ts = us ++ rest ∧ Derives layer (done ++ us) e ∧ StopsAt layer rest

theorem operand_sound {finish : Token} {fuel : Nat} (hclimb : ClimbSound finish fuel) :
    OperandSound finish (fuel + 1) := by
  intro ts e rest h
  cases ts with
  | nil => cases h
  | cons t ts =>
    rw [operand] at h
    split at h
    · next hopen =>
      split at h
      · cases h
      · cases h
      · next inner u rest' hinner =>
        split at h
        · next hclose =>
          cases h
          obtain ⟨us, hus, hder, _⟩ := hclimb 0 ts e (u :: rest) (by omega) hinner
          exact ⟨t :: (us ++ [u]), by simp [hus], .bracketed hopen hclose hder⟩
        · cases h
    · split at h
      · next e' hleaf =>
        cases h
        exact ⟨[t], rfl, .leaf (Token.leaf?_eq_ok_iff.1 hleaf)⟩
      · cases h
      · cases h

theorem climb_sound {finish : Token} {fuel : Nat} (hoperand : OperandSound finish fuel)
    (hoperators : OperatorsSound finish fuel) : ClimbSound finish (fuel + 1) := by
  intro layer ts e rest hlayer h
  rw [climb] at h
  split at h
  · cases h
  · next left mid hleft =>
    obtain ⟨us, hus, hder⟩ := hoperand ts left mid hleft
    -- operands are the tightest layer, so whatever follows one is allowed to
    have hstops : StopsAt 4 mid := by
      intro t _ op _ _
      have := op.layer_le
      omega
    obtain ⟨vs, hvs, hder', hrest⟩ :=
      hoperators layer 3 us left mid e rest hlayer (by omega) hder hstops h
    exact ⟨us ++ vs, by rw [hus, hvs, List.append_assoc], hder', hrest⟩

theorem operators_sound {finish : Token} {fuel : Nat} (hclimb : ClimbSound finish fuel)
    (hoperators : OperatorsSound finish fuel) : OperatorsSound finish (fuel + 1) := by
  intro layer tighter done left ts e rest hle htighter hder hstops h
  -- when no further operator is taken, the phrase on the left stands as it is
  have hstay : ts = rest → left = e → StopsAt layer rest →
      ∃ us, ts = us ++ rest ∧ Derives layer (done ++ us) e ∧ StopsAt layer rest := by
    rintro rfl rfl hrest
    exact ⟨[], rfl, by simpa using hder.loosen hle, hrest⟩
  cases ts with
  | nil =>
    rw [operators] at h
    cases h
    exact hstay rfl rfl (.nil layer)
  | cons t ts =>
    rw [operators] at h
    split at h
    · next hnone =>
      cases h
      exact hstay rfl rfl (.of_ofKind?_eq_none hnone)
    · next op hop =>
      have hkind := Operator.kind_of_ofKind? hop
      split at h
      · next hloose =>
        cases h
        refine hstay rfl rfl ((StopsAt.of_kind hkind.symm).mono ?_)
        exact (op.leftPower_lt_iff layer).1 hloose
      · next htight =>
        have hlayer : layer ≤ op.layer :=
          Nat.not_lt.1 fun hlt => htight ((op.leftPower_lt_iff layer).2 hlt)
        have hop_le : op.layer ≤ tighter := Nat.le_of_lt_succ (hstops t ts op rfl hop)
        have htop := op.layer_le
        split at h
        · cases h
        · next right mid hright =>
          rw [Operator.rightPower_eq] at hright
          obtain ⟨us, hus, hright', hmid⟩ :=
            hclimb (op.layer + 1) ts right mid (by omega) hright
          have hchain : Derives op.layer (done ++ t :: us) (.binary left op right) :=
            .chained (hder.loosen hop_le) hkind.symm hright'
          obtain ⟨vs, hvs, hder', hrest⟩ :=
            hoperators layer op.layer _ _ mid e rest hlayer (by omega) hchain hmid h
          refine ⟨t :: (us ++ vs), by rw [hus, hvs]; simp, ?_, hrest⟩
          simpa using hder'

theorem reads_sound (finish : Token) (fuel : Nat) :
    OperandSound finish fuel ∧ ClimbSound finish fuel ∧ OperatorsSound finish fuel := by
  induction fuel with
  | zero =>
    refine ⟨?_, ?_, ?_⟩
    · intro ts e rest h
      cases ts <;> cases h
    · intro layer ts e rest _ h
      cases h
    · intro layer tighter done left ts e rest _ _ _ _ h
      cases h
  | succ fuel ih =>
    obtain ⟨hoperand, hclimb, hoperators⟩ := ih
    exact ⟨operand_sound hclimb, climb_sound hoperand hoperators,
      operators_sound hclimb hoperators⟩

/-! ## What is derived is read -/

/-- Operators of the layers that the tokens stop are not taken. -/
theorem operators_of_stopsAt (finish : Token) {fuel layer : Nat} (left : Expr) {ts : List Token}
    (hfuel : 0 < fuel) (h : StopsAt layer ts) :
    operators finish fuel (2 * layer) left ts = .ok (left, ts) := by
  obtain ⟨fuel, rfl⟩ := Nat.exists_eq_succ_of_ne_zero (Nat.ne_of_gt hfuel)
  cases ts with
  | nil => rw [operators]
  | cons t ts =>
    rw [operators]
    split
    · rfl
    · next op hop =>
      rw [if_pos ((op.leftPower_lt_iff layer).2 (h t ts op rfl hop))]

/-- `ReadsThrough finish layer us e`: before tokens that do not tighten it, the phrase `us` is read
as `e`, whatever looser border is asked for, and reading goes on with the operators after it.  Fuel
for the tokens that are left remains. -/
def ReadsThrough (finish : Token) (layer : Nat) (us : List Token) (e : Expr) : Prop :=
  ∀ (least : Nat) (rest : List Token) (fuel : Nat), least ≤ layer → StopsAt (layer + 1) rest →
    2 * (us ++ rest).length + 2 ≤ fuel →
    ∃ fuel', 2 * rest.length + 1 ≤ fuel' ∧
      climb finish fuel (2 * least) (us ++ rest) = operators finish fuel' (2 * least) e rest

/-- Before tokens that stop its layer, a phrase is all that is read. -/
theorem ReadsThrough.climb_eq {finish : Token} {layer fuel : Nat} {us rest : List Token} {e : Expr}
    (h : ReadsThrough finish layer us e) (hstops : StopsAt layer rest)
    (hfuel : 2 * (us ++ rest).length + 2 ≤ fuel) :
    climb finish fuel (2 * layer) (us ++ rest) = .ok (e, rest) := by
  obtain ⟨fuel', hfuel', hclimb⟩ :=
    h layer rest fuel (Nat.le_refl _) (hstops.mono (Nat.le_succ _)) hfuel
  rw [hclimb]
  exact operators_of_stopsAt finish e (by omega) hstops

theorem ReadsThrough.of_operand {finish : Token} {layer : Nat} {us : List Token} {e : Expr}
    (h : ∀ (rest : List Token) (fuel : Nat), 2 * (us ++ rest).length ≤ fuel →
      operand finish (fuel + 1) (us ++ rest) = .ok (e, rest)) : ReadsThrough finish layer us e := by
  intro least rest fuel _ _ hfuel
  obtain ⟨fuel, rfl⟩ : ∃ f, fuel = f + 2 := ⟨fuel - 2, by omega⟩
  refine ⟨fuel + 1, ?_, ?_⟩
  · simp only [List.length_append] at hfuel
    omega
  · rw [climb, h rest fuel (by omega)]

theorem ReadsThrough.leaf {finish t : Token} {e : Expr} (h : Literal t e) :
    ReadsThrough finish 3 [t] e := by
  refine ReadsThrough.of_operand ?_
  intro rest fuel _
  rw [List.singleton_append, operand, if_neg h.kind_ne_openBracket, Token.leaf?_eq_ok_iff.2 h]

theorem ReadsThrough.bracketed {finish t u : Token} {ts : List Token} {e : Expr}
    (hopen : t.kind = .openBracket) (hclose : u.kind = .closeBracket)
    (h : ReadsThrough finish 0 ts e) : ReadsThrough finish 3 (t :: (ts ++ [u])) e := by
  refine ReadsThrough.of_operand ?_
  intro rest fuel hfuel
  simp only [List.cons_append, List.append_assoc, List.nil_append, List.length_cons] at hfuel ⊢
  have hstops : StopsAt 0 (u :: rest) := .of_ofKind?_eq_none (by rw [hclose]; rfl)
  have hinner : climb finish fuel 0 (ts ++ u :: rest) = .ok (e, u :: rest) :=
    h.climb_eq hstops (by omega)
  rw [operand, if_pos hopen]
  simp only [hinner, if_pos hclose]

theorem ReadsThrough.chained {finish t : Token} {op : Operator} {ts us : List Token}
    {left right : Expr} (hleft : ReadsThrough finish op.layer ts left) (hop : t.kind = op.kind)
    (hright : ReadsThrough finish (op.layer + 1) us right) :
    ReadsThrough finish op.layer (ts ++ t :: us) (.binary left op right) := by
  intro least rest fuel hleast hstops hfuel
  simp only [List.append_assoc, List.cons_append] at hfuel ⊢
  obtain ⟨fuel₁, hfuel₁, hclimb⟩ :=
    hleft least (t :: (us ++ rest)) fuel hleast (.of_kind hop) hfuel
  simp only [List.length_cons] at hfuel₁
  obtain ⟨fuel₂, rfl⟩ : ∃ f, fuel₁ = f + 1 := ⟨fuel₁ - 1, by omega⟩
  have hnext : climb finish fuel₂ op.rightPower (us ++ rest) = .ok (right, rest) := by
    rw [Operator.rightPower_eq]
    exact hright.climb_eq hstops (by omega)
  have htight : ¬ op.leftPower < 2 * least := by
    rw [Operator.leftPower_lt_iff]
    omega
  refine ⟨fuel₂, ?_, ?_⟩
  · simp only [List.length_append] at hfuel₁
    omega
  · rw [hclimb, operators, hop, Operator.ofKind?_kind]
    simp only [if_neg htight, hnext]

/-- Every phrase is read as its tree. -/
theorem readsThrough_of_derives (finish : Token) {layer : Nat} {us : List Token} {e : Expr}
    (h : Derives layer us e) : ReadsThrough finish layer us e := by
  induction h with
  | leaf hleaf => exact .leaf hleaf
  | bracketed hopen hclose _ ih => exact ih.bracketed hopen hclose
  | single _ ih =>
    intro least rest fuel hleast hstops hfuel
    exact ih least rest fuel (Nat.le_succ_of_le hleast) (hstops.mono (Nat.le_succ _)) hfuel
  | chained _ hop _ ihLeft ihRight => exact ihLeft.chained hop ihRight

/-! ## Whole filters -/

/-- A list of tokens is read whole as an expression exactly if it is a disjunction with that
tree. -/
theorem climb_eq_ok_iff (finish : Token) (ts : List Token) (e : Expr) :
    climb finish (fuelFor ts) 0 ts = .ok (e, []) ↔ Derives 0 ts e := by
  constructor
  · intro h
    obtain ⟨us, hus, hder, _⟩ := (reads_sound finish _).2.1 0 ts e [] (by omega) h
    rw [List.append_nil] at hus
    exact hus ▸ hder
  · intro h
    have hfuel : 2 * (ts ++ []).length + 2 ≤ fuelFor ts := by simp [fuelFor]
    have hclimb := (readsThrough_of_derives finish h).climb_eq (.nil 0) hfuel
    rw [List.append_nil] at hclimb
    exact hclimb

omit [Pattern.Validator] in
/-- The tokens that a parser reads are those before the first end of input. -/
theorem pending_ofTokens (ts : List Token) :
    (ofTokens ts).pending = ts.takeWhile (!·.isFinish) := by
  unfold ofTokens
  split
  · rfl
  · next h =>
    have hsplit := List.takeWhile_append_dropWhile (p := fun t : Token => !t.isFinish) (l := ts)
    rw [h, List.append_nil] at hsplit
    exact hsplit.symm

/-- A parser answers with an expression exactly if all its tokens are a disjunction with that
tree. -/
theorem expression_eq_ok_iff (p : Parser) (e : Expr) :
    p.expression.1 = .ok e ↔ Derives 0 p.pending e := by
  rw [← climb_eq_ok_iff p.finish]
  unfold expression binary
  constructor
  · intro h
    split at h
    · cases h
    · next hread => cases h; exact hread
    · cases h
  · intro h
    rw [h]

end Parser

/-- No list of tokens is a disjunction with two trees. -/
theorem Grammar.Derives.unique {ts : List Token} {e e' : Expr} (h : Derives 0 ts e)
    (h' : Derives 0 ts e') : e = e' := by
  have hread := (Parser.climb_eq_ok_iff (.finishAt 0) ts e).2 h
  rw [(Parser.climb_eq_ok_iff (.finishAt 0) ts e').2 h'] at hread
  cases hread
  rfl

/-- The parser for a list of tokens accepts exactly the disjunctions of the grammar, and answers
with their tree, of which there is only one.  The tokens from the first end of input on do not
count. -/
theorem Parser.ofTokens_accepts_iff_derives (ts : List Token) :
    (∀ e, (ofTokens ts).expression.1 = .ok e ↔
      Derives 0 (ts.takeWhile (!·.isFinish)) e) ∧
    ∀ e e', Derives 0 (ts.takeWhile (!·.isFinish)) e →
      Derives 0 (ts.takeWhile (!·.isFinish)) e' → e = e' := by
  refine ⟨fun e => ?_, fun e e' h h' => h.unique h'⟩
  rw [expression_eq_ok_iff, pending_ofTokens]

end

open scoped Pattern.Standard in
theorem Parser.ofTokens_accepts_iff_derives_layers :
    let tree : Expr := .binary (.identifier "a") .or
      (.binary (.binary (.binary (.identifier "b") .equal (.identifier "c")) .notLike (.string "d"))
        .and (.boolean true))
    Derives 0 ((tokenize "a or (b = c !~ 'd') and true").takeWhile (!·.isFinish)) tree ∧
      ∀ e, Derives 0 ((tokenize "a or (b = c !~ 'd') and true").takeWhile (!·.isFinish)) e →
        e = tree := by
  intro tree
  obtain ⟨haccepts, hunique⟩ :=
    ofTokens_accepts_iff_derives (tokenize "a or (b = c !~ 'd') and true")
  have hread : (ofTokens (tokenize "a or (b = c !~ 'd') and true")).expression.1.toOption =
      some tree := by
    decide +kernel
  have hderives := (haccepts tree).1 (eq_ok_of_toOption_eq_some hread)
  exact ⟨hderives, fun e he => hunique e tree he hderives⟩

end InventoryFilter
