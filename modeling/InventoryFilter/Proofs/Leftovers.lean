import InventoryFilter.Pattern.Standard
import InventoryFilter.Proofs.Barriers
import InventoryFilter.Proofs.Likeness
import InventoryFilter.Proofs.Precedence

set_option autoImplicit false

/-!
# Cases that are left over

How strong an operator is, which operator a token stands for, whether a token begins an operand and
which expression it stands for: all this can be looked up in a table each.  A reader that does so
has to do something with a token that one table has and another has not, and with a token that fits
nowhere behind an expression.  What it does in these cases is left open here.

Main statement: it makes no difference, since the cases never arise.  The loop does not stop before
an operator unless it is too loose, so what follows a complete expression, in brackets or not, is no
operator, and whatever else can follow has a case of its own.
-/

namespace InventoryFilter

/-! ## Tables of kinds -/

/-- How tightly an operator of the kind holds what stands on its left and on its right. -/
def TokenKind.powers? : TokenKind → Option (Nat × Nat)
  | or => some (1, 2)
  | and => some (3, 4)
  | equal | notEqual | less | lessEqual | greater | greaterEqual | like | notLike => some (5, 6)
  | _ => none

/-- The kinds with a strength are those of operators. -/
theorem TokenKind.powers?_eq (kind : TokenKind) :
    kind.powers? = (Operator.ofKind? kind).map fun op => (op.leftPower, op.rightPower) := by
  cases kind <;> rfl

/-- What is no operator begins an operand, closes a bracket, is illegal or the end. -/
theorem TokenKind.cases_of_ofKind?_eq_none (kind : TokenKind) :
    Operator.ofKind? kind = none →
      kind.startsOperand = true ∨ kind = .closeBracket ∨ kind = .illegal ∨ kind = .finish := by
  cases kind <;> decide

/-! ## What is reported -/

/-- A rejection that never asks for the end of the input, and asks for a closing bracket only where
an operand begins. -/
structure Rejection.Ordinary (r : Rejection) : Prop where
  not_finish : ∀ kind lexeme, r.cause ≠ .unexpected "end of input" kind lexeme
  closing : ∀ kind lexeme, r.cause = .unexpected "')'" kind lexeme → kind.startsOperand = true

namespace Rejection.Ordinary

theorem of_cause_ne {r : Rejection} (h : ∀ expected kind lexeme,
    r.cause ≠ .unexpected expected kind lexeme) : r.Ordinary :=
  ⟨h "end of input", fun kind lexeme hcause => absurd hcause (h "')'" kind lexeme)⟩

/-- What is refused for want of an operand or an operator is refused in an ordinary way. -/
theorem refuse {t : Token} {expected : String} (hfinish : expected ≠ "end of input")
    (hclosing : expected = "')'" → t.kind = .illegal ∨ t.kind.startsOperand = true) :
    (t.refuse expected).Ordinary := by
  unfold Token.refuse
  split
  · exact of_cause_ne (by simp)
  · next hlegal =>
    refine ⟨?_, ?_⟩
    · intro kind lexeme hcause
      cases hcause
      exact hfinish rfl
    · intro kind lexeme hcause
      cases hcause
      exact (hclosing rfl).resolve_left hlegal

/-- What a token is refused for on its own has to do with its text. -/
theorem of_leaf? [Pattern.Validator] {t : Token} {cause : Cause}
    (h : t.leaf? = some (.error cause)) :
    (Rejection.mk t.position cause).Ordinary := by
  refine of_cause_ne ?_
  rintro expected kind lexeme rfl
  unfold Token.leaf? at h
  split at h
  · cases h
  · cases h
  · cases h
  · split at h <;> cases h
  · split at h <;> cases h
  · cases h

/-- What cannot follow a complete expression is refused in an ordinary way, unless it is left
over. -/
theorem refuseAfter {t : Token} (h : t.kind = .closeBracket ∨ t.kind = .illegal ∨
    t.kind.startsOperand = true) : (Parser.refuseAfter t).Ordinary := by
  unfold Parser.refuseAfter
  split
  · exact of_cause_ne (by simp)
  · next hclose =>
    split
    · exact refuse (by decide) fun hclosing => absurd hclosing (by decide)
    · next hstarts =>
      have hillegal : t.kind = .illegal := (h.resolve_left hclose).resolve_right hstarts
      rw [Token.refuse, if_pos hillegal]
      exact of_cause_ne (by simp)

end Rejection.Ordinary

/-! ## A reader with cases left over -/

section

variable [Pattern.Validator]

/-- What is done in the cases that are left over. -/
structure Leftovers where
  /-- for a token that begins an operand and stands for no expression -/
  operand : Token → Except Rejection Expr
  /-- behind an expression, for a token that has a strength and stands for no operator -/
  operator : Expr → Cursor → Except Rejection Expr × Cursor
  /-- behind an expression in brackets, for a token that has no case of its own there -/
  closing : Token → Rejection
  /-- behind a complete expression, for a token that has no case of its own there -/
  following : Token → Rejection

namespace Leftovers

mutual

/-- An operand at the place, and the place where reading it stopped. -/
def readOperand (l : Leftovers) : Nat → Cursor → Except Rejection Expr × Cursor
  | 0, c => (.error ⟨c.current.position, .unexpectedFinish "expression"⟩, c)
  | fuel + 1, c =>
    if c.current.kind = .openBracket then
      match readBinary l fuel 0 c.advance with
      | (.error r, d) => (.error r, d)
      | (.ok inner, d) =>
        if d.current.kind = .closeBracket then (.ok inner, d.advance)
        else if d.current.kind = .finish then (.error ⟨c.current.position, .unmatchedOpen⟩, d)
        else if d.current.kind = .illegal ∨ d.current.kind.startsOperand = true then
          (.error (d.current.refuse "')'"), d)
        else (.error (l.closing d.current), d)
    else if c.current.kind = .finish then
      (.error ⟨c.current.position, .unexpectedFinish "expression"⟩, c)
    else if c.current.kind.startsOperand = true then
      match c.current.leaf? with
      | some (.ok e) => (.ok e, c.advance)
      | some (.error cause) => (.error ⟨c.current.position, cause⟩, c.advance)
      | none => (l.operand c.current, c.advance)
    else (.error (c.current.refuse "expression"), c)

/-- An operand, and operators with at least the given strength after it. -/
def readBinary (l : Leftovers) : Nat → Nat → Cursor → Except Rejection Expr × Cursor
  | 0, _, c => (.error ⟨c.current.position, .unexpectedFinish "expression"⟩, c)
  | fuel + 1, least, c =>
    match readOperand l fuel c with
    | (.error r, d) => (.error r, d)
    | (.ok left, d) => readOperators l fuel least left d

/-- Operators with at least the given strength after the expression on their left. -/
def readOperators (l : Leftovers) : Nat → Nat → Expr → Cursor → Except Rejection Expr × Cursor
  | 0, _, _, c => (.error ⟨c.current.position, .unexpectedFinish "expression"⟩, c)
  | fuel + 1, least, left, c =>
    match c.current.kind.powers? with
    | none => (.ok left, c)
    | some (leftPower, rightPower) =>
      if leftPower < least then (.ok left, c)
      else
        match Operator.ofKind? c.current.kind with
        | none => l.operator left c
        | some op =>
          match readBinary l fuel rightPower c.advance with
          | (.error r, d) => (.error r, d)
          | (.ok right, d) => readOperators l fuel least (.binary left op right) d

end

/-- All that is ahead as one expression, and the place where reading stopped. -/
def expression (l : Leftovers) (c : Cursor) : Except Rejection Expr × Cursor :=
  match l.readBinary c.fuel 0 c with
  | (.error r, d) => (.error r, d)
  | (.ok e, d) =>
    if d.current.kind = .finish then (.ok e, d)
    else if d.current.kind = .closeBracket ∨ d.current.kind = .illegal ∨
        d.current.kind.startsOperand = true then
      (.error (Parser.refuseAfter d.current), d)
    else (.error (l.following d.current), d)

/-- The results of asking for an expression so many times. -/
def expressions (l : Leftovers) : Nat → Cursor → List (Except Rejection Expr)
  | 0, _ => []
  | n + 1, c => (l.expression c).1 :: expressions l n (l.expression c).2

end Leftovers

/-! ## What can follow an expression -/

namespace Cursor

theorem operators_stop {fuel least : Nat} {left e : Expr} {c d : Cursor}
    (h : operators fuel least left c = (.ok e, d)) {op : Operator}
    (hop : Operator.ofKind? d.current.kind = some op) : op.leftPower < least := by
  induction fuel generalizing left c with
  | zero => rw [operators] at h; cases h
  | succ fuel ih =>
    rw [operators] at h
    cases hkind : Operator.ofKind? c.current.kind with
    | none =>
      rw [hkind] at h
      cases h
      rw [hkind] at hop
      cases hop
    | some first =>
      simp only [hkind] at h
      by_cases hloose : first.leftPower < least
      · rw [if_pos hloose] at h
        cases h
        rw [hkind] at hop
        cases hop
        exact hloose
      · rw [if_neg hloose] at h
        generalize climb fuel first.rightPower c.advance = result at h
        obtain ⟨result, mid⟩ := result
        cases result with
        | error r => cases h
        | ok right => exact ih h

/-- No operator follows an expression that may hold any operator. -/
theorem kind_behind {fuel : Nat} {e : Expr} {c d : Cursor} (h : climb fuel 0 c = (.ok e, d)) :
    d.current.kind.startsOperand = true ∨ d.current.kind = .closeBracket ∨
      d.current.kind = .illegal ∨ d.current.kind = .finish := by
  refine d.current.kind.cases_of_ofKind?_eq_none ?_
  cases hop : Operator.ofKind? d.current.kind with
  | none => rfl
  | some op =>
    cases fuel with
    | zero => rw [climb] at h; cases h
    | succ fuel =>
      rw [climb] at h
      generalize operand fuel c = result at h
      obtain ⟨result, mid⟩ := result
      cases result with
      | error r => cases h
      | ok left => exact absurd (operators_stop h hop) (Nat.not_lt_zero _)

end Cursor

/-! ## The cases left over make no difference -/

/-- A result is the same as another, which is no rejection or an ordinary one. -/
inductive Unaffected : Except Rejection Expr × Cursor → Except Rejection Expr × Cursor → Prop
  | ok (e : Expr) (d : Cursor) : Unaffected (.ok e, d) (.ok e, d)
  | error {r : Rejection} (h : r.Ordinary) (d : Cursor) : Unaffected (.error r, d) (.error r, d)

theorem Unaffected.eq {result result' : Except Rejection Expr × Cursor}
    (h : Unaffected result result') : result = result' := by
  cases h with
  | ok e d => rfl
  | error h d => rfl

/-- Where an operand is due, the end is rejected in an ordinary way, and so is a lack of fuel. -/
theorem Unaffected.missing (position : Nat) (c : Cursor) :
    Unaffected (.error ⟨position, .unexpectedFinish "expression"⟩, c)
      (.error ⟨position, .unexpectedFinish "expression"⟩, c) :=
  .error (.of_cause_ne (by simp)) c

namespace Leftovers

variable {l : Leftovers} {fuel : Nat}

theorem readOperand_unaffected
    (hbinary : ∀ least c, Unaffected (l.readBinary fuel least c) (Cursor.climb fuel least c))
    (c : Cursor) : Unaffected (l.readOperand (fuel + 1) c) (Cursor.operand (fuel + 1) c) := by
  rw [readOperand, Cursor.operand]
  by_cases hopen : c.current.kind = .openBracket
  · rw [if_pos hopen, if_pos hopen]
    have hinner := hbinary 0 c.advance
    generalize l.readBinary fuel 0 c.advance = result at hinner
    generalize hread : Cursor.climb fuel 0 c.advance = result' at hinner
    cases hinner with
    | error h d => exact .error h d
    | ok inner d =>
      have hbehind := Cursor.kind_behind hread
      by_cases hclose : d.current.kind = .closeBracket
      · simp only [if_pos hclose]
        exact .ok inner d.advance
      simp only [if_neg hclose]
      by_cases hfinish : d.current.kind = .finish
      · simp only [if_pos hfinish]
        exact .error (.of_cause_ne (by simp)) d
      simp only [if_neg hfinish]
      -- the loop has passed every operator, so nothing is left over for the bracket
      have hcase : d.current.kind = .illegal ∨ d.current.kind.startsOperand = true := by
        simp only [hclose, hfinish, or_false, false_or] at hbehind
        exact hbehind.symm
      simp only [if_pos hcase]
      exact .error (.refuse (by decide) fun _ => hcase) d
  · rw [if_neg hopen, if_neg hopen]
    by_cases hfinish : c.current.kind = .finish
    · rw [if_pos hfinish, if_pos hfinish]
      exact .missing _ c
    rw [if_neg hfinish, if_neg hfinish]
    -- a token begins an operand, brackets apart, exactly if it stands for an expression
    cases hleaf : c.current.leaf? with
    | none =>
      have hstarts : ¬ c.current.kind.startsOperand = true := by
        simpa [hopen] using c.current.leaf?_eq_none_iff.1 hleaf
      rw [if_neg hstarts]
      exact .error (.refuse (by decide) fun hclosing => absurd hclosing (by decide)) c
    | some result =>
      have hstarts : c.current.kind.startsOperand = true := by
        have hsome := mt c.current.leaf?_eq_none_iff.2 (by simp [hleaf])
        simpa [hopen] using hsome
      rw [if_pos hstarts]
      cases result with
      | ok e => exact .ok e c.advance
      | error cause => exact .error (.of_leaf? hleaf) c.advance

theorem readBinary_unaffected
    (hoperand : ∀ c, Unaffected (l.readOperand fuel c) (Cursor.operand fuel c))
    (hoperators : ∀ least left c,
      Unaffected (l.readOperators fuel least left c) (Cursor.operators fuel least left c))
    (least : Nat) (c : Cursor) :
    Unaffected (l.readBinary (fuel + 1) least c) (Cursor.climb (fuel + 1) least c) := by
  rw [readBinary, Cursor.climb]
  have hfirst := hoperand c
  generalize l.readOperand fuel c = result, Cursor.operand fuel c = result' at hfirst
  cases hfirst with
  | error h d => exact .error h d
  | ok left d => exact hoperators least left d

theorem readOperators_unaffected
    (hbinary : ∀ least c, Unaffected (l.readBinary fuel least c) (Cursor.climb fuel least c))
    (hoperators : ∀ least left c,
      Unaffected (l.readOperators fuel least left c) (Cursor.operators fuel least left c))
    (least : Nat) (left : Expr) (c : Cursor) :
    Unaffected (l.readOperators (fuel + 1) least left c)
      (Cursor.operators (fuel + 1) least left c) := by
  rw [readOperators, Cursor.operators, TokenKind.powers?_eq]
  cases hop : Operator.ofKind? c.current.kind with
  | none => exact .ok left c
  | some op =>
    simp only [Option.map_some]
    by_cases hloose : op.leftPower < least
    · simp only [if_pos hloose]
      exact .ok left c
    simp only [if_neg hloose]
    have hright := hbinary op.rightPower c.advance
    generalize l.readBinary fuel op.rightPower c.advance = result,
      Cursor.climb fuel op.rightPower c.advance = result' at hright
    cases hright with
    | error h d => exact .error h d
    | ok right d => exact hoperators least (.binary left op right) d

theorem reads_unaffected (l : Leftovers) (fuel : Nat) :
    (∀ c, Unaffected (l.readOperand fuel c) (Cursor.operand fuel c)) ∧
      (∀ least c, Unaffected (l.readBinary fuel least c) (Cursor.climb fuel least c)) ∧
      ∀ least left c,
        Unaffected (l.readOperators fuel least left c) (Cursor.operators fuel least left c) := by
  induction fuel with
  | zero =>
    refine ⟨?_, ?_, ?_⟩
    · intro c
      rw [readOperand, Cursor.operand]
      exact .missing _ c
    · intro least c
      rw [readBinary, Cursor.climb]
      exact .missing _ c
    · intro least left c
      rw [readOperators, Cursor.operators]
      exact .missing _ c
  | succ fuel ih =>
    obtain ⟨hoperand, hbinary, hoperators⟩ := ih
    exact ⟨readOperand_unaffected hbinary, readBinary_unaffected hoperand hoperators,
      readOperators_unaffected hbinary hoperators⟩

theorem expression_unaffected (l : Leftovers) (c : Cursor) :
    Unaffected (l.expression c) c.expression := by
  have hread := (reads_unaffected l c.fuel).2.1 0 c
  unfold expression Cursor.expression
  generalize l.readBinary c.fuel 0 c = result at hread
  generalize hclimb : Cursor.climb c.fuel 0 c = result' at hread
  cases hread with
  | error h d => exact .error h d
  | ok e d =>
    have hbehind := Cursor.kind_behind hclimb
    by_cases hfinish : d.current.kind = .finish
    · simp only [if_pos hfinish]
      exact .ok e d
    simp only [if_neg hfinish]
    have hcase : d.current.kind = .closeBracket ∨ d.current.kind = .illegal ∨
        d.current.kind.startsOperand = true := by
      simp only [hfinish, or_false] at hbehind
      rcases hbehind with hstarts | hclose | hillegal
      · exact .inr (.inr hstarts)
      · exact .inl hclose
      · exact .inr (.inl hillegal)
    simp only [if_pos hcase]
    exact .error (.refuseAfter hcase) d

/-- However often it is asked, the reader answers like one without cases left over, and rejects in
ordinary ways. -/
theorem expressions_unaffected (l : Leftovers) (calls : Nat) (c : Cursor) :
    l.expressions calls c = c.expressions calls ∧
      ∀ r, .error r ∈ c.expressions calls → r.Ordinary := by
  induction calls generalizing c with
  | zero => exact ⟨rfl, by simp [Cursor.expressions]⟩
  | succ calls ih =>
    rw [expressions, Cursor.expressions]
    have hfirst := expression_unaffected l c
    generalize l.expression c = result, c.expression = result' at hfirst
    cases hfirst with
    | ok e d =>
      obtain ⟨hsame, hordinary⟩ := ih d
      refine ⟨by rw [hsame], fun r hr => hordinary r ?_⟩
      simpa using hr
    | @error r' h d =>
      obtain ⟨hsame, hordinary⟩ := ih d
      refine ⟨by rw [hsame], fun r hr => ?_⟩
      rcases List.mem_cons.1 hr with hhead | htail
      · cases hhead
        exact h
      · exact hordinary r htail

/-- The readers do not differ, with any fuel, at any place and for any strength. -/
theorem readBinary_eq (l : Leftovers) (fuel least : Nat) (c : Cursor) :
    l.readBinary fuel least c = Cursor.climb fuel least c :=
  ((reads_unaffected l fuel).2.1 least c).eq

end Leftovers

/-- Whatever strength is asked for, an expression takes at least one token, no operator of that
strength follows it, and all its operators outside brackets have that strength.  Hence none of the
cases that are left over ever arises, with any fuel and at any place, whatever the tokens are and
however often an expression is asked for.  What would be done there makes no difference, the end of
the input is never asked for, and a closing bracket only where an operand begins. -/
theorem Parser.binary_strength_and_leftovers :
    (∀ (p : Parser) (least : Nat) (e : Expr) (rest : List Token),
      p.binary least = .ok (e, rest) →
        (∃ us, us ≠ [] ∧ p.pending = us ++ rest ∧ (∃ outer, Spells us e outer) ∧
          ∀ outer, Spells us e outer → ∀ op ∈ outer, least ≤ op.leftPower) ∧
        ∀ t ∈ rest.head?, ∀ left right, t.kind.powers? = some (left, right) → left < least) ∧
    (∀ (l : Leftovers) (fuel least : Nat) (c : Cursor),
      l.readBinary fuel least c = Cursor.climb fuel least c) ∧
    ∀ (ts : List Token) (calls : Nat),
      (∀ l : Leftovers,
        l.expressions calls (Cursor.ofTokens ts) = expressions calls (ofTokens ts)) ∧
      ∀ r, .error r ∈ expressions calls (ofTokens ts) → r.Ordinary := by
  refine ⟨?_, Leftovers.readBinary_eq, ?_⟩
  · intro p least e rest h
    obtain ⟨us, outer, hpending, hspells, houter, hstops⟩ := binary_guarantees h
    refine ⟨⟨us, hspells.ne_nil, hpending, ⟨outer, hspells⟩, ?_⟩, ?_⟩
    · intro outer' hspells'
      rwa [hspells'.outer_unique hspells]
    · intro t ht left right hpowers
      rw [TokenKind.powers?_eq] at hpowers
      obtain ⟨op, hop, hpair⟩ := Option.map_eq_some_iff.1 hpowers
      cases hpair
      exact hstops t ht op hop
  · intro ts calls
    have hcursor : expressions calls (ofTokens ts) = (Cursor.ofTokens ts).expressions calls :=
      expressions_eq_of_equalUpToBarrier (.refl ts) calls
    rw [hcursor]
    refine ⟨fun l => (l.expressions_unaffected calls _).1, ?_⟩
    -- the cases do not arise, so any way to deal with them will do
    let l : Leftovers := ⟨fun t => .error ⟨t.position, .unmatchedClose⟩,
      fun left c => (.ok left, c), fun t => ⟨t.position, .unmatchedClose⟩,
      fun t => ⟨t.position, .unmatchedClose⟩⟩
    exact (l.expressions_unaffected calls _).2

end

open scoped Pattern.Standard in
/-- The brackets hide an operator that is too loose, and reading stops before another one. -/
theorem Parser.binary_strength_and_leftovers_bracket :
    let tree : Expr := .binary (.binary (.identifier "a") .or (.identifier "b")) .equal
      (.identifier "c")
    let bracket := ofTokens (tokenize "(a or b)=c and d")
    (∃ rest, bracket.binary 4 = .ok (tree, rest) ∧
      (∃ us, us ≠ [] ∧ bracket.pending = us ++ rest ∧ (∃ outer, Spells us tree outer) ∧
        ∀ outer, Spells us tree outer → ∀ op ∈ outer, 4 ≤ op.leftPower) ∧
      (⟨.and, ⟨11, 14⟩, "and"⟩ : Token) ∈ rest.head? ∧ 3 < 4) ∧
    .error ⟨3, .unexpected "')'" .identifier "b"⟩ ∈ expressions 2 (ofTokens (tokenize "(a b")) ∧
    TokenKind.startsOperand .identifier = true := by
  intro tree bracket
  obtain ⟨hstrength, -, hleftover⟩ := binary_strength_and_leftovers
  have hread : bracket.binary 4 =
      .ok (tree, [⟨.and, ⟨11, 14⟩, "and"⟩, ⟨.identifier, ⟨15, 16⟩, "d"⟩]) :=
    eq_ok_of_toOption_eq_some (by decide +kernel)
  have hreport : .error ⟨3, .unexpected "')'" .identifier "b"⟩ ∈
      expressions 2 (ofTokens (tokenize "(a b")) := by decide +kernel
  obtain ⟨hus, hstops⟩ := hstrength bracket 4 tree _ hread
  refine ⟨⟨_, hread, hus, rfl, hstops _ rfl 3 4 rfl⟩, hreport, ?_⟩
  exact ((hleftover _ 2).2 _ hreport).closing _ _ rfl

end InventoryFilter
