import InventoryFilter.Proofs.Parsing

set_option autoImplicit false

/-!
# Reading from a stream of tokens

A parser is made from a list of tokens, of which it keeps those before the end of the input.  A
cursor is made from a stream: it holds one token and whatever is still to come, looks at nothing but
the token it holds, and moves on by one token at a time.  Nothing cuts the stream at the end of the
input.  That reading from a cursor never leaves an end of input or an illegal token behind, at any
depth and after any rejection, is a fact about its readers.

Main statement: as long as a parser and a cursor stand before the same tokens up to such a token,
they answer alike, however often they are asked.
-/

namespace InventoryFilter

/-- A place in a stream of tokens: the token there, and those that are still to come. -/
structure Cursor where
  current : Token
  upcoming : List Token
  deriving DecidableEq, Repr

namespace Cursor

/-- The beginning of a stream.  A stream of nothing ends at the beginning. -/
def ofTokens : List Token → Cursor
  | [] => ⟨.finishAt 0, []⟩
  | t :: ts => ⟨t, ts⟩

/-- The place after the current token.  Behind its last token the stream ends. -/
def advance (c : Cursor) : Cursor :=
  match c.upcoming with
  | [] => ⟨.finishAt c.current.span.stop, []⟩
  | t :: ts => ⟨t, ts⟩

section

variable [Pattern.Validator]

mutual

/-- An operand at the place, and the place where reading it stopped. -/
def operand : Nat → Cursor → Except Rejection Expr × Cursor
  | 0, c => (.error ⟨c.current.position, .unexpectedFinish "expression"⟩, c)
  | fuel + 1, c =>
    if c.current.kind = .openBracket then
      match climb fuel 0 c.advance with
      | (.error r, d) => (.error r, d)
      | (.ok inner, d) =>
        if d.current.kind = .closeBracket then (.ok inner, d.advance)
        else if d.current.kind = .finish then (.error ⟨c.current.position, .unmatchedOpen⟩, d)
        else (.error (d.current.refuse "')'"), d)
    else if c.current.kind = .finish then
      (.error ⟨c.current.position, .unexpectedFinish "expression"⟩, c)
    else
      match c.current.leaf? with
      | some (.ok e) => (.ok e, c.advance)
      | some (.error cause) => (.error ⟨c.current.position, cause⟩, c.advance)
      | none => (.error (c.current.refuse "expression"), c)

/-- An operand, and operators with at least the given strength after it. -/
def climb : Nat → Nat → Cursor → Except Rejection Expr × Cursor
  | 0, _, c => (.error ⟨c.current.position, .unexpectedFinish "expression"⟩, c)
  | fuel + 1, least, c =>
    match operand fuel c with
    | (.error r, d) => (.error r, d)
    | (.ok left, d) => operators fuel least left d

/-- Operators with at least the given strength after the expression on their left. -/
def operators : Nat → Nat → Expr → Cursor → Except Rejection Expr × Cursor
  | 0, _, _, c => (.error ⟨c.current.position, .unexpectedFinish "expression"⟩, c)
  | fuel + 1, least, left, c =>
    match Operator.ofKind? c.current.kind with
    | none => (.ok left, c)
    | some op =>
      if op.leftPower < least then (.ok left, c)
      else
        match climb fuel op.rightPower c.advance with
        | (.error r, d) => (.error r, d)
        | (.ok right, d) => operators fuel least (.binary left op right) d

end

/-- Fuel that reading from the place never uses up. -/
def fuel (c : Cursor) : Nat := 2 * c.upcoming.length + 5

/-- All that is ahead as one expression, and the place where reading stopped. -/
def expression (c : Cursor) : Except Rejection Expr × Cursor :=
  match climb c.fuel 0 c with
  | (.error r, d) => (.error r, d)
  | (.ok e, d) =>
    if d.current.kind = .finish then (.ok e, d) else (.error (Parser.refuseAfter d.current), d)

/-- The results of asking for an expression so many times. -/
def expressions : Nat → Cursor → List (Except Rejection Expr)
  | 0, _ => []
  | n + 1, c => c.expression.1 :: expressions n c.expression.2

end

/-! ## The same tokens ahead -/

/-- `Before finish n ts c`: the cursor stands before the tokens `ts` and then `finish`, as far as
an illegal token, with `n` tokens to go until then. -/
inductive Before (finish : Token) : Nat → List Token → Cursor → Prop
  | finish {c : Cursor} (hcurrent : c.current = finish) (hkind : finish.kind = .finish) :
      Before finish 0 [] c
  | illegal {c : Cursor} {ts : List Token} (hkind : c.current.kind = .illegal) :
      Before finish 0 (c.current :: ts) c
  | token {n : Nat} {c : Cursor} {ts : List Token} (hkind : c.current.kind ≠ .finish)
      (hrest : Before finish n ts c.advance) : Before finish (n + 1) (c.current :: ts) c

variable {finish : Token} {n : Nat} {ts : List Token} {c : Cursor}

theorem Before.le_length (h : Before finish n ts c) : n ≤ ts.length := by
  induction h with
  | finish _ _ => exact Nat.le_refl _
  | illegal _ => exact Nat.zero_le _
  | token _ _ ih => exact Nat.succ_le_succ ih

theorem Before.le_upcoming (h : Before finish n ts c) : n ≤ c.upcoming.length + 1 := by
  induction h with
  | finish _ _ => exact Nat.zero_le _
  | illegal _ => exact Nat.zero_le _
  | @token n c ts _ hrest ih =>
    cases hupcoming : c.upcoming with
    | nil =>
      -- behind the last token there is only the end
      have hend : c.advance.current.kind = .finish := by simp [advance, hupcoming, Token.finishAt]
      cases hrest with
      | finish _ _ => exact Nat.le_refl _
      | illegal hkind =>
        rw [hend] at hkind
        cases hkind
      | token hkind _ => exact absurd hend hkind
    | cons t us =>
      have hadvance : c.advance = ⟨t, us⟩ := by simp [advance, hupcoming]
      rw [hadvance] at ih
      simpa using ih

/-- A token that is neither the end nor illegal is left behind on both sides. -/
theorem Before.advance {t : Token} (h : Before finish n (t :: ts) c) (hlegal : t.kind ≠ .illegal) :
    ∃ m, n = m + 1 ∧ c.current = t ∧ Before finish m ts c.advance := by
  cases h with
  | illegal hkind => exact absurd hkind hlegal
  | token _ hrest => exact ⟨_, rfl, rfl, hrest⟩

theorem Before.current_eq {t : Token} (h : Before finish n (t :: ts) c) :
    c.current = t ∧ c.current.kind ≠ .finish := by
  cases h with
  | illegal hkind => exact ⟨rfl, by rw [hkind]; decide⟩
  | token hkind _ => exact ⟨rfl, hkind⟩

theorem Before.kind_eq_finish (h : Before finish n [] c) :
    c.current = finish ∧ c.current.kind = .finish := by
  cases h with
  | finish hcurrent hkind => exact ⟨hcurrent, by rw [hcurrent, hkind]⟩

/-! ## Reading in step -/

variable [Pattern.Validator]

/-- A parser and a cursor have read alike: the same expression with at most `n` tokens to go, or
the same rejection, and they stand before the same tokens again. -/
inductive Alike (finish : Token) (n : Nat) :
    Except Halt (Expr × List Token) → Except Rejection Expr × Cursor → Prop
  | ok {m : Nat} {e : Expr} {rest : List Token} {d : Cursor} (hle : m ≤ n)
      (hrest : Before finish m rest d) : Alike finish n (.ok (e, rest)) (.ok e, d)
  | error {m : Nat} {r : Rejection} {rest : List Token} {d : Cursor}
      (hrest : Before finish m rest d) : Alike finish n (.error ⟨r, rest⟩) (.error r, d)

theorem Alike.mono {m : Nat} {result : Except Halt (Expr × List Token)}
    {result' : Except Rejection Expr × Cursor} (hle : m ≤ n) (h : Alike finish m result result') :
    Alike finish n result result' := by
  cases h with
  | ok hle' hrest => exact .ok (Nat.le_trans hle' hle) hrest
  | error hrest => exact .error hrest

/-- With enough fuel on both sides, operands are read alike. -/
def OperandAlike (finish : Token) (fuel : Nat) : Prop :=
  ∀ {n : Nat} {ts : List Token} {c : Cursor} (fuel' : Nat), Before finish n ts c →
    2 * n + 1 ≤ fuel → 2 * n + 1 ≤ fuel' →
    Alike finish (n - 1) (Parser.operand finish fuel ts) (operand fuel' c)

/-- With enough fuel on both sides, operands and the operators after them are read alike. -/
def ClimbAlike (finish : Token) (fuel : Nat) : Prop :=
  ∀ {n : Nat} {ts : List Token} {c : Cursor} (fuel' least : Nat), Before finish n ts c →
    2 * n + 2 ≤ fuel → 2 * n + 2 ≤ fuel' →
    Alike finish n (Parser.climb finish fuel least ts) (climb fuel' least c)

/-- With enough fuel on both sides, operators are read alike. -/
def OperatorsAlike (finish : Token) (fuel : Nat) : Prop :=
  ∀ {n : Nat} {ts : List Token} {c : Cursor} (fuel' least : Nat) (left : Expr),
    Before finish n ts c → 2 * n + 1 ≤ fuel → 2 * n + 1 ≤ fuel' →
    Alike finish n (Parser.operators finish fuel least left ts) (operators fuel' least left c)

theorem kind_ne_illegal_of_leaf? {t : Token} {r : Except Cause Expr} (h : t.leaf? = some r) :
    t.kind ≠ .illegal := by
  intro hkind
  simp [Token.leaf?, hkind] at h

theorem operand_alike {fuel : Nat} (hclimb : ClimbAlike finish fuel) :
    OperandAlike finish (fuel + 1) := by
  intro n ts c fuel' h hfuel hfuel'
  obtain ⟨fuel', rfl⟩ : ∃ f, fuel' = f + 1 := ⟨fuel' - 1, by omega⟩
  cases ts with
  | nil =>
    obtain ⟨hcurrent, hkind⟩ := h.kind_eq_finish
    have hopen : ¬ c.current.kind = .openBracket := by rw [hkind]; decide
    rw [Parser.operand, operand, if_neg hopen, if_pos hkind, hcurrent]
    exact .error h
  | cons t ts =>
    obtain ⟨rfl, hkind⟩ := h.current_eq
    rw [Parser.operand, operand]
    by_cases hopen : c.current.kind = .openBracket
    · rw [if_pos hopen, if_pos hopen]
      obtain ⟨m, rfl, -, hrest⟩ := h.advance (by rw [hopen]; decide)
      have hinner := hclimb fuel' 0 hrest (by omega) (by omega)
      generalize Parser.climb finish fuel 0 ts = result, climb fuel' 0 c.advance = result' at hinner
      cases hinner with
      | error hrest => exact .error hrest
      | @ok k e rest d hle hrest =>
        cases rest with
        | nil =>
          have hend := hrest.kind_eq_finish.2
          have hclose : ¬ d.current.kind = .closeBracket := by rw [hend]; decide
          simp only [if_neg hclose, if_pos hend]
          exact .error hrest
        | cons u rest =>
          obtain ⟨rfl, hend⟩ := hrest.current_eq
          by_cases hclose : d.current.kind = .closeBracket
          · obtain ⟨l, rfl, -, hrest'⟩ := hrest.advance (by rw [hclose]; decide)
            simp only [if_pos hclose]
            exact .ok (by omega) hrest'
          · simp only [if_neg hclose, if_neg hend]
            exact .error hrest
    · rw [if_neg hopen, if_neg hopen, if_neg hkind]
      cases hleaf : c.current.leaf? with
      | none => exact .error h
      | some r =>
        obtain ⟨m, rfl, -, hrest⟩ := h.advance (kind_ne_illegal_of_leaf? hleaf)
        cases r with
        | ok e => exact .ok (by omega) hrest
        | error cause => exact .error hrest

theorem climb_alike {fuel : Nat} (hoperand : OperandAlike finish fuel)
    (hoperators : OperatorsAlike finish fuel) : ClimbAlike finish (fuel + 1) := by
  intro n ts c fuel' least h hfuel hfuel'
  obtain ⟨fuel', rfl⟩ : ∃ f, fuel' = f + 1 := ⟨fuel' - 1, by omega⟩
  rw [Parser.climb, climb]
  have hfirst := hoperand fuel' h (by omega) (by omega)
  generalize Parser.operand finish fuel ts = result, operand fuel' c = result' at hfirst
  cases hfirst with
  | error hrest => exact .error hrest
  | ok hle hrest =>
    exact (hoperators fuel' least _ hrest (by omega) (by omega)).mono (by omega)

theorem operators_alike {fuel : Nat} (hclimb : ClimbAlike finish fuel)
    (hoperators : OperatorsAlike finish fuel) : OperatorsAlike finish (fuel + 1) := by
  intro n ts c fuel' least left h hfuel hfuel'
  obtain ⟨fuel', rfl⟩ : ∃ f, fuel' = f + 1 := ⟨fuel' - 1, by omega⟩
  rw [operators]
  cases ts with
  | nil =>
    have hnone : Operator.ofKind? c.current.kind = none := by rw [h.kind_eq_finish.2]; rfl
    rw [Parser.operators, hnone]
    exact .ok (Nat.le_refl _) h
  | cons t ts =>
    obtain ⟨rfl, _⟩ := h.current_eq
    rw [Parser.operators]
    cases hop : Operator.ofKind? c.current.kind with
    | none => exact .ok (Nat.le_refl _) h
    | some op =>
      by_cases hloose : op.leftPower < least
      · simp only [if_pos hloose]
        exact .ok (Nat.le_refl _) h
      · simp only [if_neg hloose]
        have hlegal : c.current.kind ≠ .illegal := by
          intro hkind
          rw [hkind] at hop
          cases hop
        obtain ⟨m, rfl, -, hrest⟩ := h.advance hlegal
        have hright := hclimb fuel' op.rightPower hrest (by omega) (by omega)
        generalize Parser.climb finish fuel op.rightPower ts = result,
          climb fuel' op.rightPower c.advance = result' at hright
        cases hright with
        | error hrest => exact .error hrest
        | ok hle hrest =>
          exact (hoperators fuel' least _ hrest (by omega) (by omega)).mono (by omega)

theorem reads_alike (finish : Token) (fuel : Nat) :
    OperandAlike finish fuel ∧ ClimbAlike finish fuel ∧ OperatorsAlike finish fuel := by
  induction fuel with
  | zero =>
    refine ⟨?_, ?_, ?_⟩
    · intro n ts c fuel' _ hfuel
      omega
    · intro n ts c fuel' least _ hfuel
      omega
    · intro n ts c fuel' least left _ hfuel
      omega
  | succ fuel ih =>
    obtain ⟨hoperand, hclimb, hoperators⟩ := ih
    exact ⟨operand_alike hclimb, climb_alike hoperand hoperators,
      operators_alike hclimb hoperators⟩

/-- Asked once, a parser and a cursor before the same tokens answer alike, and stand before the same
tokens again. -/
theorem Before.expression (h : Before finish n ts c) :
    (Parser.mk ts finish).expression.1 = c.expression.1 ∧
      ∃ m rest, (Parser.mk ts finish).expression.2 = ⟨rest, finish⟩ ∧
        Before finish m rest c.expression.2 := by
  have hle := h.le_length
  have hle' := h.le_upcoming
  have hread := (reads_alike finish (Parser.fuelFor ts)).2.1 c.fuel 0 h
    (by rw [Parser.fuelFor]; omega) (by rw [fuel]; omega)
  unfold Parser.expression Parser.binary Cursor.expression
  generalize Parser.climb finish (Parser.fuelFor ts) 0 ts = result, climb c.fuel 0 c = result'
    at hread
  cases hread with
  | error hrest => exact ⟨rfl, _, _, rfl, hrest⟩
  | @ok m e rest d _ hrest =>
    cases rest with
    | nil =>
      simp only [if_pos hrest.kind_eq_finish.2, true_and]
      exact ⟨_, _, rfl, hrest⟩
    | cons t rest =>
      obtain ⟨rfl, hkind⟩ := hrest.current_eq
      simp only [if_neg hkind, true_and]
      exact ⟨_, _, rfl, hrest⟩

/-- However often they are asked, a parser and a cursor before the same tokens answer alike. -/
theorem Before.expressions (h : Before finish n ts c) (calls : Nat) :
    Parser.expressions calls ⟨ts, finish⟩ = c.expressions calls := by
  induction calls generalizing n ts c with
  | zero => rfl
  | succ calls ih =>
    obtain ⟨hresult, m, rest, hparser, hrest⟩ := h.expression
    rw [Parser.expressions, Cursor.expressions, hresult, hparser, ih hrest]

end Cursor

end InventoryFilter
