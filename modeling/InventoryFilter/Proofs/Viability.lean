import InventoryFilter.Pattern.Standard
import InventoryFilter.Proofs.Parsing
import Mathlib.Data.List.TakeWhile

set_option autoImplicit false

/-!
# Where a filter cannot be read on

A list of tokens is viable if it is the beginning of some filter.  The parser rejects a filter at
its first token that ends no viable beginning.  If all tokens are viable the filter is rejected at
its end, or at the innermost bracket that is left open there.

To say what a parser knows at a token it is enough to know which brackets are open and whether an
operand is due.  Reading the tokens one by one on that knowledge alone gives the same fault as the
parser, however deep in its recursion the parser finds it.
-/

namespace InventoryFilter

open Grammar

/-! ## Places of rejections -/

/-- An illegal or unexpected token is refused at its own place. -/
theorem Token.position_refuse (t : Token) (expected : String) :
    (t.refuse expected).position = t.position := by
  unfold refuse
  split <;> rfl

theorem Parser.position_refuseAfter (t : Token) : (refuseAfter t).position = t.position := by
  unfold refuseAfter
  split
  · rfl
  · split <;> exact t.position_refuse _

/-- The place at which the tokens end: that of the first end of input among them, or else the end of
the last of them. -/
def endPosition (ts : List Token) : Nat :=
  match ts.find? Token.isFinish with
  | some t => t.position
  | none => (ts.getLast?.map (·.span.stop)).getD 0

theorem Parser.position_finish_ofTokens (ts : List Token) :
    (ofTokens ts).finish.position = endPosition ts := by
  rw [endPosition, ts.find?_eq_head?_dropWhile_not, ofTokens]
  cases ts.dropWhile (!·.isFinish) with
  | nil => rfl
  | cons finish _ => rfl

/-! ## Brackets that are left open -/

theorem Operator.startsOperand_kind (op : Operator) : op.kind.startsOperand = false := by
  cases op <;> rfl

theorem Operator.kind_ne {kind : TokenKind} (h : ofKind? kind = none) (op : Operator) :
    op.kind ≠ kind := by
  rintro rfl
  rw [ofKind?_kind] at h
  cases h

/-- Whether every bracket among the tokens has its counterpart among them. -/
inductive Balanced : List Token → Prop
  | nil : Balanced []
  | token {t : Token} (hopen : t.kind ≠ .openBracket) (hclose : t.kind ≠ .closeBracket) :
      Balanced [t]
  | bracketed {t u : Token} {ts : List Token} (hopen : t.kind = .openBracket)
      (hclose : u.kind = .closeBracket) (h : Balanced ts) : Balanced (t :: (ts ++ [u]))
  | append {ts us : List Token} (hleft : Balanced ts) (hright : Balanced us) :
      Balanced (ts ++ us)

/-- Whether the token is the innermost bracket that the tokens leave open: every bracket behind it
has its counterpart there. -/
def IsInnermostOpen (ts : List Token) (t : Token) : Prop :=
  ∃ before after, ts = before ++ t :: after ∧ t.kind = .openBracket ∧ Balanced after

/-- Whether the brackets, the innermost first, are all that the tokens leave open. -/
def LeavesOpen (ts : List Token) : List Token → Prop
  | [] => Balanced ts
  | t :: outer => ∃ before after, ts = before ++ t :: after ∧ t.kind = .openBracket ∧
      Balanced after ∧ LeavesOpen before outer

theorem LeavesOpen.append {ts us opened : List Token} (h : LeavesOpen ts opened)
    (hus : Balanced us) : LeavesOpen (ts ++ us) opened := by
  cases opened with
  | nil => exact Balanced.append h hus
  | cons t outer =>
    obtain ⟨before, after, rfl, hopen, hafter, houter⟩ := h
    exact ⟨before, after ++ us, by simp, hopen, hafter.append hus, houter⟩

section

variable [Pattern.Validator]

/-- Whether the tokens are the beginning of a filter. -/
def Viable (ts : List Token) : Prop := ∃ us e, Derives 0 (ts ++ us) e

/-! ## Reading token by token -/

/-- What is known between two tokens: the open brackets, the innermost first, and what is due. -/
inductive Expectation
  /-- an operand is due -/
  | operand (opened : List Token)
  /-- an operand has been read, and an operator or a closing bracket is due -/
  | operator (opened : List Token)
  deriving DecidableEq, Repr

namespace Expectation

/-- What is known after one more token, if it can be read. -/
def step : Expectation → Token → Option Expectation
  | operand opened, t =>
    if t.kind = .openBracket then some (operand (t :: opened))
    else
      match t.leaf? with
      | some (.ok _) => some (operator opened)
      | _ => none
  | operator opened, t =>
    match Operator.ofKind? t.kind with
    | some _ => some (operand opened)
    | none => if t.kind = .closeBracket then opened.tail?.map operator else none

/-- What is known after the tokens, if all of them can be read. -/
def run : Expectation → List Token → Option Expectation
  | s, [] => some s
  | s, t :: ts => (s.step t).bind fun next => next.run ts

/-- The place at which something is missing if no token follows. -/
def missing (finish : Token) : Expectation → Option Nat
  | operand _ => some finish.position
  | operator [] => none
  | operator (t :: _) => some t.position

/-- The place of the first token that cannot be read, or at which something is missing at the
end. -/
def fault (finish : Token) (s : Expectation) : List Token → Option Nat
  | [] => s.missing finish
  | t :: ts =>
    match s.step t with
    | none => some t.position
    | some next => next.fault finish ts

theorem run_append (s : Expectation) (ts us : List Token) :
    s.run (ts ++ us) = (s.run ts).bind fun next => next.run us := by
  induction ts generalizing s with
  | nil => rfl
  | cons t ts ih =>
    rw [List.cons_append, run, run]
    cases s.step t with
    | none => rfl
    | some next => exact ih next

/-- Tokens that can be read leave the fault to what follows. -/
theorem fault_append {finish : Token} {s next : Expectation} {ts : List Token}
    (h : s.run ts = some next) (us : List Token) :
    s.fault finish (ts ++ us) = next.fault finish us := by
  induction ts generalizing s with
  | nil =>
    cases h
    rfl
  | cons t ts ih =>
    obtain ⟨mid, hmid, hrun⟩ := Option.bind_eq_some_iff.1 h
    rw [List.cons_append, fault, hmid]
    exact ih hrun

/-- Without a fault all tokens can be read. -/
theorem isSome_run_of_fault_eq_none {finish : Token} {s : Expectation} {ts : List Token}
    (h : s.fault finish ts = none) : (s.run ts).isSome = true := by
  induction ts generalizing s with
  | nil => rfl
  | cons t ts ih =>
    rw [fault] at h
    rw [run]
    cases hstep : s.step t with
    | none =>
      rw [hstep] at h
      cases h
    | some next =>
      rw [hstep] at h
      exact ih h

/-- A fault is at the first token that cannot be read, or at the end. -/
theorem fault_eq_some_cases {finish : Token} {s : Expectation} {ts : List Token} {position : Nat}
    (h : s.fault finish ts = some position) :
    (∃ before t after next, ts = before ++ t :: after ∧ s.run before = some next ∧
        next.step t = none ∧ position = t.position) ∨
      ∃ next, s.run ts = some next ∧ next.missing finish = some position := by
  induction ts generalizing s with
  | nil => exact .inr ⟨s, rfl, h⟩
  | cons t ts ih =>
    rw [fault] at h
    cases hstep : s.step t with
    | none =>
      rw [hstep] at h
      exact .inl ⟨[], t, ts, s, rfl, rfl, hstep, (Option.some.inj h).symm⟩
    | some next =>
      rw [hstep] at h
      rcases ih h with ⟨before, u, after, last, rfl, hrun, hlast, hposition⟩ | ⟨last, hrun, hlast⟩
      · refine .inl ⟨t :: before, u, after, last, rfl, ?_, hlast, hposition⟩
        rw [run, hstep]
        exact hrun
      · refine .inr ⟨last, ?_, hlast⟩
        rw [run, hstep]
        exact hrun

end Expectation

/-- After a complete operand, a token that is neither an operator nor a closing bracket for an open
one cannot be read. -/
theorem Expectation.step_operator_eq_none {t : Token} {opened : List Token}
    (hop : Operator.ofKind? t.kind = none) (hclose : opened = [] ∨ t.kind ≠ .closeBracket) :
    (operator opened).step t = none := by
  rw [step, hop]
  rcases hclose with rfl | hother
  · exact ite_self none
  · exact if_neg hother

namespace Parser

/-! ## The parser finds the same fault -/

/-- A result of reading an operand, and perhaps more, agrees with reading token by token: what is
left has the fault that the tokens have, and a rejection is at their fault. -/
def Agrees (finish : Token) (s : Expectation) (opened ts : List Token) :
    Except Halt (Expr × List Token) → Prop
  | .ok (_, rest) => s.fault finish ts = (Expectation.operator opened).fault finish rest
  | .error halt => s.fault finish ts = some halt.rejection.position

/-- Results agree wherever the tokens have the same fault. -/
theorem Agrees.of_fault_eq {finish : Token} {s s' : Expectation} {opened ts us : List Token}
    {result : Except Halt (Expr × List Token)} (h : s.fault finish ts = s'.fault finish us)
    (hagrees : Agrees finish s' opened us result) : Agrees finish s opened ts result := by
  cases result with
  | error halt => exact h.trans hagrees
  | ok r => exact h.trans hagrees

/-- With enough fuel, `operand` agrees with reading token by token. -/
def OperandAgrees (finish : Token) (fuel : Nat) : Prop :=
  ∀ opened ts, 2 * ts.length + 1 ≤ fuel →
    Agrees finish (.operand opened) opened ts (operand finish fuel ts)

/-- With enough fuel, `climb` agrees with reading token by token. -/
def ClimbAgrees (finish : Token) (fuel : Nat) : Prop :=
  ∀ least opened ts, 2 * ts.length + 2 ≤ fuel →
    Agrees finish (.operand opened) opened ts (climb finish fuel least ts)

/-- With enough fuel, `operators` agrees with reading token by token after an operand. -/
def OperatorsAgree (finish : Token) (fuel : Nat) : Prop :=
  ∀ least left opened ts, 2 * ts.length + 1 ≤ fuel →
    Agrees finish (.operator opened) opened ts (operators finish fuel least left ts)

/-- After a whole expression no operator follows. -/
theorem ofKind?_eq_none_of_climb {finish u : Token} {fuel : Nat} {ts rest : List Token} {e : Expr}
    (h : climb finish fuel 0 ts = .ok (e, u :: rest)) : Operator.ofKind? u.kind = none := by
  obtain ⟨_, _, _, hstops⟩ := (reads_sound finish fuel).2.1 0 ts e (u :: rest) (by omega) h
  cases hop : Operator.ofKind? u.kind with
  | none => rfl
  | some op => exact absurd (hstops u rest op rfl hop) (Nat.not_lt_zero _)

theorem operand_agrees {finish : Token} {fuel : Nat} (hclimb : ClimbAgrees finish fuel) :
    OperandAgrees finish (fuel + 1) := by
  intro opened ts hfuel
  cases ts with
  | nil => rfl
  | cons t ts =>
    rw [operand]
    split
    · next hopen =>
      -- the bracket is open while its inside is read
      have hstep : (Expectation.operand opened).step t = some (.operand (t :: opened)) :=
        if_pos hopen
      have hinner := hclimb 0 (t :: opened) ts (by simp only [List.length_cons] at hfuel; omega)
      have hfault : (Expectation.operand opened).fault finish (t :: ts) =
          (Expectation.operand (t :: opened)).fault finish ts := by
        rw [Expectation.fault, hstep]
      split
      · next halt hread =>
        rw [hread] at hinner
        exact hfault.trans hinner
      · next hread =>
        rw [hread] at hinner
        exact hfault.trans hinner
      · next inner u rest hread =>
        rw [hread] at hinner
        have hnone := ofKind?_eq_none_of_climb hread
        split
        · next hclose =>
          have hstep' : (Expectation.operator (t :: opened)).step u = some (.operator opened) := by
            rw [Expectation.step, hnone]
            exact if_pos hclose
          refine (hfault.trans hinner).trans ?_
          rw [Expectation.fault, hstep']
        · next hother =>
          refine (hfault.trans hinner).trans ?_
          rw [Expectation.fault, Expectation.step_operator_eq_none hnone (.inr hother)]
          exact congrArg some (u.position_refuse _).symm
    · next hopen =>
      split
      · next e hleaf =>
        show (Expectation.operand opened).fault finish (t :: ts) = _
        rw [Expectation.fault, Expectation.step, if_neg hopen, hleaf]
      · next cause hleaf =>
        show (Expectation.operand opened).fault finish (t :: ts) = _
        rw [Expectation.fault, Expectation.step, if_neg hopen, hleaf]
      · next hleaf =>
        show (Expectation.operand opened).fault finish (t :: ts) = _
        rw [Expectation.fault, Expectation.step, if_neg hopen, hleaf]
        exact congrArg some (t.position_refuse _).symm

theorem climb_agrees {finish : Token} {fuel : Nat} (hoperand : OperandAgrees finish fuel)
    (hoperators : OperatorsAgree finish fuel) : ClimbAgrees finish (fuel + 1) := by
  intro least opened ts hfuel
  have hfirst := hoperand opened ts (by omega)
  rw [climb]
  split
  · next halt hread =>
    rw [hread] at hfirst
    exact hfirst
  · next left rest hread =>
    obtain ⟨us, rfl, _⟩ := (reads_sound finish fuel).1 ts left rest hread
    rw [hread] at hfirst
    refine Agrees.of_fault_eq hfirst (hoperators least left opened rest ?_)
    simp only [List.length_append] at hfuel
    omega

theorem operators_agree {finish : Token} {fuel : Nat} (hclimb : ClimbAgrees finish fuel)
    (hoperators : OperatorsAgree finish fuel) : OperatorsAgree finish (fuel + 1) := by
  intro least left opened ts hfuel
  cases ts with
  | nil => rfl
  | cons t ts =>
    simp only [List.length_cons] at hfuel
    rw [operators]
    split
    · rfl
    · next op hop =>
      split
      · rfl
      · have hstep : (Expectation.operator opened).step t = some (.operand opened) := by
          rw [Expectation.step, hop]
        have hfault : (Expectation.operator opened).fault finish (t :: ts) =
            (Expectation.operand opened).fault finish ts := by
          rw [Expectation.fault, hstep]
        have hright := hclimb op.rightPower opened ts (by omega)
        split
        · next halt hread =>
          rw [hread] at hright
          exact hfault.trans hright
        · next right rest hread =>
          rw [hread] at hright
          have hlayer := op.layer_le
          rw [Operator.rightPower_eq] at hread
          obtain ⟨us, rfl, _⟩ :=
            (reads_sound finish fuel).2.1 (op.layer + 1) ts right rest (by omega) hread
          refine Agrees.of_fault_eq (hfault.trans hright)
            (hoperators least (.binary left op right) opened rest ?_)
          simp only [List.length_append] at hfuel
          omega

theorem reads_agree (finish : Token) (fuel : Nat) :
    OperandAgrees finish fuel ∧ ClimbAgrees finish fuel ∧ OperatorsAgree finish fuel := by
  induction fuel with
  | zero =>
    refine ⟨?_, ?_, ?_⟩
    · intro opened ts hfuel
      omega
    · intro least opened ts hfuel
      omega
    · intro least left opened ts hfuel
      omega
  | succ fuel ih =>
    obtain ⟨hoperand, hclimb, hoperators⟩ := ih
    exact ⟨operand_agrees hclimb, climb_agrees hoperand hoperators,
      operators_agree hclimb hoperators⟩

/-- A parser that is rejected is rejected at the fault of its tokens. -/
theorem fault_of_expression_eq_error {p : Parser} {r : Rejection}
    (h : p.expression.1 = .error r) :
    (Expectation.operand []).fault p.finish p.pending = some r.position := by
  have hagrees := (reads_agree p.finish (fuelFor p.pending)).2.1 0 [] p.pending
    (by simp only [fuelFor]; omega)
  unfold expression binary at h
  split at h
  · next halt hread =>
    cases h
    rw [hread] at hagrees
    exact hagrees
  · cases h
  · next e t rest hread =>
    cases h
    have hnone := ofKind?_eq_none_of_climb hread
    rw [hread] at hagrees
    refine Eq.trans hagrees ?_
    rw [Expectation.fault, Expectation.step_operator_eq_none hnone (.inl rfl)]
    exact congrArg some (position_refuseAfter t).symm

end Parser

/-! ## Viable beginnings -/

theorem fault_eq_none_iff (finish : Token) (ts : List Token) :
    (Expectation.operand []).fault finish ts = none ↔ ∃ e, Derives 0 ts e := by
  have haccepts := Parser.expression_eq_ok_iff ⟨ts, finish⟩
  constructor
  · intro h
    cases hresult : (Parser.mk ts finish).expression.1 with
    | ok e => exact ⟨e, (haccepts e).1 hresult⟩
    | error r =>
      have hfault := Parser.fault_of_expression_eq_error hresult
      rw [h] at hfault
      cases hfault
  · rintro ⟨e, he⟩
    have hagrees := (Parser.reads_agree finish (Parser.fuelFor ts)).2.1 0 [] ts
      (by simp only [Parser.fuelFor]; omega)
    rw [(Parser.climb_eq_ok_iff finish ts e).2 he] at hagrees
    exact hagrees

/-- Whatever has been read, some tokens complete it. -/
theorem Expectation.exists_fault_eq_none (finish : Token) (s : Expectation) :
    ∃ us, s.fault finish us = none := by
  have hclosed : ∀ opened, ∃ us, (operator opened).fault finish us = none := by
    intro opened
    induction opened with
    | nil => exact ⟨[], rfl⟩
    | cons t outer ih =>
      obtain ⟨us, hus⟩ := ih
      exact ⟨⟨.closeBracket, default, ")"⟩ :: us, hus⟩
  cases s with
  | operator opened => exact hclosed opened
  | operand opened =>
    obtain ⟨us, hus⟩ := hclosed opened
    exact ⟨⟨.identifier, default, "x"⟩ :: us, hus⟩

/-- A beginning is viable exactly if it can be read token by token. -/
theorem viable_iff (ts : List Token) :
    Viable ts ↔ ∃ s, (Expectation.operand []).run ts = some s := by
  rw [← Option.isSome_iff_exists]
  constructor
  · rintro ⟨us, e, h⟩
    have hrun := Expectation.isSome_run_of_fault_eq_none ((fault_eq_none_iff default _).2 ⟨e, h⟩)
    rw [Expectation.run_append] at hrun
    exact Option.isSome_of_isSome_bind hrun
  · intro h
    obtain ⟨s, hs⟩ := Option.isSome_iff_exists.1 h
    obtain ⟨us, hus⟩ := s.exists_fault_eq_none default
    rw [← Expectation.fault_append hs] at hus
    obtain ⟨e, he⟩ := (fault_eq_none_iff default _).1 hus
    exact ⟨us, e, he⟩

/-- A beginning of a viable beginning is viable. -/
theorem Viable.take {ts : List Token} (h : Viable ts) (k : Nat) : Viable (ts.take k) := by
  obtain ⟨us, e, he⟩ := h
  refine ⟨ts.drop k ++ us, e, ?_⟩
  rwa [← List.append_assoc, List.take_append_drop]

/-! ## Brackets behind viable tokens -/

theorem Grammar.Literal.startsOperand {t : Token} {e : Expr} (h : Literal t e) :
    t.kind.startsOperand = true := by
  cases h <;> simp [*, TokenKind.startsOperand]

theorem Grammar.Literal.kind_ne {t : Token} {e : Expr} {kind : TokenKind} (h : Literal t e)
    (hkind : kind.startsOperand = false) : t.kind ≠ kind := by
  rintro rfl
  rw [h.startsOperand] at hkind
  cases hkind

namespace Expectation

/-- The open brackets, the innermost first. -/
def opened : Expectation → List Token
  | operand opened => opened
  | operator opened => opened

/-- What a token can do: open a bracket, be an operand, be an operator, or close a bracket. -/
theorem step_cases {s next : Expectation} {t : Token} (h : s.step t = some next) :
    (∃ opened, s = operand opened ∧ t.kind = .openBracket ∧ next = operand (t :: opened)) ∨
      (∃ opened e, s = operand opened ∧ Literal t e ∧ next = operator opened) ∨
      (∃ opened op, s = operator opened ∧ t.kind = Operator.kind op ∧ next = operand opened) ∨
      ∃ inner outer, s = operator (inner :: outer) ∧ t.kind = .closeBracket ∧
        next = operator outer := by
  cases s with
  | operand opened =>
    rw [step] at h
    split at h
    · next hopen => exact .inl ⟨opened, rfl, hopen, (Option.some.inj h).symm⟩
    · split at h
      · next e hleaf =>
        exact .inr (.inl ⟨opened, e, rfl, Token.leaf?_eq_ok_iff.1 hleaf, (Option.some.inj h).symm⟩)
      · cases h
  | operator opened =>
    rw [step] at h
    split at h
    · next op hop =>
      exact .inr (.inr (.inl
        ⟨opened, op, rfl, (Operator.kind_of_ofKind? hop).symm, (Option.some.inj h).symm⟩))
    · split at h
      · next hclose =>
        cases opened with
        | nil => cases h
        | cons inner outer =>
          exact .inr (.inr (.inr ⟨inner, outer, rfl, hclose, (Option.some.inj h).symm⟩))
      · cases h

theorem leavesOpen_step {s next : Expectation} {t : Token} {ts : List Token}
    (h : LeavesOpen ts s.opened) (hstep : s.step t = some next) :
    LeavesOpen (ts ++ [t]) next.opened := by
  rcases step_cases hstep with ⟨opened, rfl, hopen, rfl⟩ | ⟨opened, e, rfl, hleaf, rfl⟩ |
    ⟨opened, op, rfl, hkind, rfl⟩ | ⟨inner, outer, rfl, hclose, rfl⟩
  · exact ⟨ts, [], rfl, hopen, .nil, h⟩
  · exact h.append (.token hleaf.kind_ne_openBracket (hleaf.kind_ne rfl))
  · refine h.append (.token ?_ ?_)
    · rw [hkind]
      exact op.kind_ne rfl
    · rw [hkind]
      exact op.kind_ne rfl
  · obtain ⟨before, after, rfl, hopen, hafter, houter⟩ := h
    have happend := LeavesOpen.append houter (.bracketed hopen hclose hafter)
    simpa [opened] using happend

theorem leavesOpen_run {s next : Expectation} {ts us : List Token} (h : LeavesOpen ts s.opened)
    (hrun : s.run us = some next) : LeavesOpen (ts ++ us) next.opened := by
  induction us generalizing s ts with
  | nil =>
    cases hrun
    simpa using h
  | cons u us ih =>
    obtain ⟨mid, hstep, hrest⟩ := Option.bind_eq_some_iff.1 hrun
    simpa using ih (leavesOpen_step h hstep) hrest

end Expectation

/-! ## Rejections -/

/-- Whether the tokens are empty or end with an operator or an opening bracket. -/
def AwaitsOperand (ts : List Token) : Prop :=
  ∀ t ∈ ts.getLast?, t.kind = .openBracket ∨ ∃ op : Operator, t.kind = op.kind

/-- Whether the token is illegal, or would be an operand but stands for no tree. -/
def Token.Refused (t : Token) : Prop :=
  t.kind = .illegal ∨
    t.kind.startsOperand = true ∧ t.kind ≠ .openBracket ∧ ∀ e, ¬ Literal t e

/-- The place at which tokens that end at the given place are rejected. -/
structure IsFault (ts : List Token) (ending position : Nat) : Prop where
  /-- it is that of the first token with which the tokens up to it are not viable -/
  first : ∀ k t, ts[k]? = some t → ¬ Viable (ts.take (k + 1)) →
    (∀ j < k, Viable (ts.take (j + 1))) → position = t.position
  /-- if there is none and an operand is awaited, it is the end -/
  awaiting : (∀ k < ts.length, Viable (ts.take (k + 1))) → AwaitsOperand ts → position = ending
  /-- if there is none and no operand is awaited, it is that of the innermost open bracket -/
  unclosed : (∀ k < ts.length, Viable (ts.take (k + 1))) → ¬ AwaitsOperand ts →
    ∃ t, IsInnermostOpen ts t ∧ position = t.position

namespace Expectation

theorem step_eq_none_of_refused {t : Token} (h : t.Refused) (s : Expectation) :
    s.step t = none := by
  rw [Option.eq_none_iff_forall_ne_some]
  intro next hstep
  rcases step_cases hstep with ⟨_, _, hopen, _⟩ | ⟨_, e, _, hleaf, _⟩ | ⟨_, op, _, hkind, _⟩ |
    ⟨_, _, _, hclose, _⟩
  · rcases h with h | ⟨_, h, _⟩
    · rw [hopen] at h
      cases h
    · exact h hopen
  · rcases h with h | ⟨_, _, h⟩
    · exact hleaf.kind_ne rfl h
    · exact h e hleaf
  · rcases h with h | ⟨h, _⟩
    · exact op.kind_ne rfl (hkind.symm.trans h)
    · rw [hkind, op.startsOperand_kind] at h
      cases h
  · rcases h with h | ⟨h, _⟩
    · rw [hclose] at h
      cases h
    · rw [hclose] at h
      cases h

/-- Exactly opening brackets and operators make an operand due. -/
theorem operand_due_iff {s next : Expectation} {t : Token} (h : s.step t = some next) :
    (t.kind = .openBracket ∨ ∃ op : Operator, t.kind = op.kind) ↔
      ∃ opened, next = operand opened := by
  rcases step_cases h with ⟨opened, _, hopen, rfl⟩ | ⟨opened, e, _, hleaf, rfl⟩ |
    ⟨opened, op, _, hkind, rfl⟩ | ⟨_, outer, _, hclose, rfl⟩
  · exact ⟨fun _ => ⟨_, rfl⟩, fun _ => .inl hopen⟩
  · refine ⟨?_, nofun⟩
    rintro (hopen | ⟨op, hkind⟩)
    · exact absurd hopen hleaf.kind_ne_openBracket
    · exact absurd hkind (hleaf.kind_ne op.startsOperand_kind)
  · exact ⟨fun _ => ⟨_, rfl⟩, fun _ => .inr ⟨op, hkind⟩⟩
  · refine ⟨?_, nofun⟩
    rw [hclose]
    rintro (hopen | ⟨op, hkind⟩)
    · cases hopen
    · exact absurd hkind.symm (op.kind_ne rfl)

/-- An operand is awaited after the tokens exactly if one is due. -/
theorem awaitsOperand_iff {next : Expectation} {opened ts : List Token}
    (h : (operand opened).run ts = some next) :
    AwaitsOperand ts ↔ ∃ opened', next = operand opened' := by
  rcases List.eq_nil_or_concat ts with rfl | ⟨before, t, rfl⟩
  · cases h
    exact ⟨fun _ => ⟨opened, rfl⟩, fun _ => nofun⟩
  · rw [List.concat_eq_append, run_append] at h
    obtain ⟨mid, _, hlast⟩ := Option.bind_eq_some_iff.1 h
    obtain ⟨last, hstep, hend⟩ := Option.bind_eq_some_iff.1 hlast
    cases hend
    rw [← operand_due_iff hstep]
    simp [AwaitsOperand]

end Expectation

theorem not_viable_of_refused {before after : List Token} {t : Token} (h : t.Refused) :
    ¬ Viable (before ++ t :: after) := by
  rw [viable_iff, Expectation.run_append]
  rintro ⟨s, hrun⟩
  obtain ⟨mid, _, hrest⟩ := Option.bind_eq_some_iff.1 hrun
  rw [Expectation.run, Expectation.step_eq_none_of_refused h] at hrest
  cases hrest

/-- If a token cannot be read after those before it, the tokens up to it are the shortest that are
not viable. -/
theorem isFault_of_step_eq_none {before after : List Token} {t : Token} {s : Expectation}
    (hrun : (Expectation.operand []).run before = some s) (hstep : s.step t = none) (ending : Nat) :
    IsFault (before ++ t :: after) ending t.position := by
  have hbefore : ∀ k < before.length, Viable ((before ++ t :: after).take (k + 1)) := by
    intro k hk
    rw [List.take_append_of_le_length hk]
    exact ((viable_iff before).2 ⟨s, hrun⟩).take (k + 1)
  have hnot : ¬ Viable ((before ++ t :: after).take (before.length + 1)) := by
    have htake : (before ++ t :: after).take (before.length + 1) = before ++ [t] := by
      rw [List.take_length_add_append]
      rfl
    rw [htake, viable_iff, Expectation.run_append, hrun, Option.bind_some, Expectation.run, hstep]
    rintro ⟨_, hnone⟩
    cases hnone
  have hall : ¬ ∀ k < (before ++ t :: after).length,
      Viable ((before ++ t :: after).take (k + 1)) := by
    intro hviable
    exact hnot (hviable before.length (by simp))
  refine ⟨?_, fun hviable => absurd hviable hall, fun hviable => absurd hviable hall⟩
  intro k u hu hk hleast
  have hle : before.length ≤ k := Nat.not_lt.1 fun hlt => hk (hbefore k hlt)
  have hge : k ≤ before.length := Nat.not_lt.1 fun hlt => hnot (hleast before.length hlt)
  have hsame : t = u := by simpa [Nat.le_antisymm hge hle] using hu
  rw [hsame]

/-- If all tokens can be read, what is missing after them is an operand or a closing bracket. -/
theorem isFault_of_missing {finish : Token} {ts : List Token} {s : Expectation} {position : Nat}
    (hrun : (Expectation.operand []).run ts = some s)
    (hmissing : s.missing finish = some position) :
    IsFault ts finish.position position := by
  have hviable := (viable_iff ts).2 ⟨s, hrun⟩
  have hawaits := Expectation.awaitsOperand_iff hrun
  have hnothing : LeavesOpen [] (Expectation.operand []).opened := Balanced.nil
  have hopened := Expectation.leavesOpen_run hnothing hrun
  refine ⟨fun k t _ hk => absurd (hviable.take (k + 1)) hk, ?_, ?_⟩
  · intro _ hdue
    obtain ⟨opened, rfl⟩ := hawaits.1 hdue
    exact (Option.some.inj hmissing).symm
  · intro _ hdue
    cases s with
    | operand opened => exact absurd (hawaits.2 ⟨opened, rfl⟩) hdue
    | operator opened =>
      cases opened with
      | nil => cases hmissing
      | cons t outer =>
        obtain ⟨before, after, hts, hopen, hafter, _⟩ := hopened
        exact ⟨t, ⟨before, after, hts, hopen, hafter⟩, (Option.some.inj hmissing).symm⟩

/-- Tokens are rejected where they first cannot be read on.  No filter holds an illegal token, or an
operand that stands for no tree. -/
theorem Parser.isFault_of_expression_eq_error {ts : List Token} {r : Rejection}
    (h : (ofTokens ts).expression.1 = .error r) :
    IsFault (ts.takeWhile (!·.isFinish)) (endPosition ts) r.position ∧
      ∀ before t after, t.Refused → ¬ Viable (before ++ t :: after) := by
  refine ⟨?_, fun before t after hrefused => not_viable_of_refused hrefused⟩
  have hfault := fault_of_expression_eq_error h
  rw [← pending_ofTokens, ← position_finish_ofTokens]
  rcases Expectation.fault_eq_some_cases hfault with ⟨before, t, after, s, hts, hrun, hstep, hat⟩ |
    ⟨s, hrun, hmissing⟩
  · rw [hts, hat]
    exact isFault_of_step_eq_none hrun hstep _
  · exact isFault_of_missing hrun hmissing

end

open scoped Pattern.Standard in
theorem Parser.isFault_of_expression_eq_error_unclosed :
    ∃ r, (ofTokens (tokenize "(a or (b) and (c = 'd'")).expression.1 = .error r ∧
      r.position = 14 ∧
      (∃ t, IsInnermostOpen ((tokenize "(a or (b) and (c = 'd'").takeWhile (!·.isFinish)) t ∧
        r.position = t.position) ∧
      ∀ before after, ¬ Viable (before ++ ⟨.illegal, ⟨0, 1⟩, "@"⟩ :: after) := by
  have hrejected : (ofTokens (tokenize "(a or (b) and (c = 'd'")).expression.1.toOption = none := by
    decide +kernel
  have hat : (Expectation.operand []).fault (ofTokens (tokenize "(a or (b) and (c = 'd'")).finish
      (ofTokens (tokenize "(a or (b) and (c = 'd'")).pending = some 14 := by
    decide +kernel
  have hrun : (Expectation.operand []).run
      ((tokenize "(a or (b) and (c = 'd'").takeWhile (!·.isFinish)) =
        some (.operator [⟨.openBracket, ⟨14, 15⟩, "("⟩, ⟨.openBracket, ⟨0, 1⟩, "("⟩]) := by
    decide +kernel
  cases hresult : (ofTokens (tokenize "(a or (b) and (c = 'd'")).expression.1 with
  | ok e =>
    rw [hresult] at hrejected
    cases hrejected
  | error r =>
    obtain ⟨hfault, hrefused⟩ := isFault_of_expression_eq_error hresult
    rw [fault_of_expression_eq_error hresult] at hat
    refine ⟨r, rfl, Option.some.inj hat, hfault.unclosed ?_ ?_,
      fun before after => hrefused before _ after (.inl rfl)⟩
    · exact fun k _ => ((viable_iff _).2 ⟨_, hrun⟩).take (k + 1)
    · rw [Expectation.awaitsOperand_iff hrun]
      rintro ⟨_, ⟨⟩⟩

end InventoryFilter
