import InventoryFilter.Pattern.Standard
import InventoryFilter.Proofs.Cursor
import InventoryFilter.Proofs.Viability

set_option autoImplicit false

/-!
# Tokens that are never passed

An end of input and an illegal token are barriers.  However often a parser is asked, and whatever
it was in the middle of when it rejected, it never gets past one, so that nothing behind the first
barrier makes a difference.  A list without an end of input is read as if there were one right
behind its last token.  Once a parser has answered with an expression it stands at the end, and
asks for an expression there ever after.
-/

namespace InventoryFilter

/-- Whether the token is an end of input or illegal. -/
def Token.IsBarrier (t : Token) : Prop := t.kind = .finish ∨ t.kind = .illegal

/-- Whether two lists of tokens are equal up to the first barrier in both of them. -/
inductive EqualUpToBarrier : List Token → List Token → Prop
  | nil : EqualUpToBarrier [] []
  | barrier {t : Token} {ts us : List Token} (h : t.IsBarrier) :
      EqualUpToBarrier (t :: ts) (t :: us)
  | token {t : Token} {ts us : List Token} (h : EqualUpToBarrier ts us) :
      EqualUpToBarrier (t :: ts) (t :: us)

namespace EqualUpToBarrier

theorem refl (ts : List Token) : EqualUpToBarrier ts ts := by
  induction ts with
  | nil => exact .nil
  | cons t ts ih => exact .token ih

/-- What follows a barrier does not count. -/
theorem append {b : Token} (h : b.IsBarrier) (front ts us : List Token) :
    EqualUpToBarrier (front ++ b :: ts) (front ++ b :: us) := by
  induction front with
  | nil => exact .barrier h
  | cons t front ih => exact .token ih

theorem eq_nil_or_eq_cons {ts us : List Token} (h : EqualUpToBarrier ts us) :
    (ts = [] ∧ us = []) ∨ ∃ t ts' us', ts = t :: ts' ∧ us = t :: us' := by
  cases h with
  | nil => exact .inl ⟨rfl, rfl⟩
  | barrier _ => exact .inr ⟨_, _, _, rfl, rfl⟩
  | token _ => exact .inr ⟨_, _, _, rfl, rfl⟩

end EqualUpToBarrier

namespace Parser

/-! ## Parsers of lists -/

theorem ofTokens_cons_of_kind_eq {t : Token} (h : t.kind = .finish) (ts : List Token) :
    ofTokens (t :: ts) = ⟨[], t⟩ := by
  simp [ofTokens, Token.isFinish, h]

theorem ofTokens_singleton {t : Token} (h : t.kind ≠ .finish) :
    ofTokens [t] = ⟨[t], .finishAt t.span.stop⟩ := by
  simp [ofTokens, Token.isFinish, h]

/-- A token before others is pending before them. -/
theorem ofTokens_cons_cons {t : Token} (h : t.kind ≠ .finish) (u : Token) (us : List Token) :
    ofTokens (t :: u :: us) = ⟨t :: (ofTokens (u :: us)).pending, (ofTokens (u :: us)).finish⟩ := by
  have hdrop : (t :: u :: us).dropWhile (!·.isFinish) = (u :: us).dropWhile (!·.isFinish) :=
    List.dropWhile_cons_of_pos (by simp [Token.isFinish, h])
  have htake : (t :: u :: us).takeWhile (!·.isFinish) = t :: (u :: us).takeWhile (!·.isFinish) :=
    List.takeWhile_cons_of_pos (by simp [Token.isFinish, h])
  unfold ofTokens
  rw [hdrop, htake]
  cases (u :: us).dropWhile (!·.isFinish) with
  | nil => simp
  | cons finish rest => rfl

/-- An end of input right behind the last token is where the tokens end anyway. -/
theorem ofTokens_append_finishAt {ts : List Token} (h : ∀ t ∈ ts, t.kind ≠ .finish) :
    ofTokens (ts ++ [.finishAt ((ts.getLast?.map (·.span.stop)).getD 0)]) = ofTokens ts := by
  have hopen : ∀ t ∈ ts, (!t.isFinish) = true := by
    intro t ht
    simp [Token.isFinish, h t ht]
  have hnone : ts.dropWhile (!·.isFinish) = [] := List.dropWhile_eq_nil_iff.2 hopen
  unfold ofTokens
  rw [List.dropWhile_append_of_pos hopen, List.takeWhile_append_of_pos hopen, hnone]
  simp [Token.isFinish, Token.finishAt]

/-- A parser for a list stands before the same tokens as a cursor for any list that is equal to it
up to the first barrier. -/
theorem before_ofTokens {ts us : List Token} (h : EqualUpToBarrier ts us) :
    ∃ n, Cursor.Before (ofTokens ts).finish n (ofTokens ts).pending (Cursor.ofTokens us) := by
  induction h with
  | nil => exact ⟨0, .finish rfl rfl⟩
  | @barrier t ts us hbarrier =>
    rcases hbarrier with hfinish | hillegal
    · rw [ofTokens_cons_of_kind_eq hfinish]
      exact ⟨0, .finish rfl hfinish⟩
    · have hpending : (ofTokens (t :: ts)).pending = t :: ts.takeWhile (!·.isFinish) := by
        rw [pending_ofTokens]
        exact List.takeWhile_cons_of_pos (by simp [Token.isFinish, hillegal])
      rw [hpending]
      exact ⟨0, .illegal (c := ⟨t, us⟩) hillegal⟩
  | @token t ts us h ih =>
    by_cases hfinish : t.kind = .finish
    · rw [ofTokens_cons_of_kind_eq hfinish]
      exact ⟨0, .finish rfl hfinish⟩
    · obtain ⟨n, hbefore⟩ := ih
      rcases h.eq_nil_or_eq_cons with ⟨rfl, rfl⟩ | ⟨u, ts, us, rfl, rfl⟩
      · -- the stream makes its own end behind its last token
        rw [ofTokens_singleton hfinish]
        exact ⟨1, .token (c := ⟨t, []⟩) hfinish (.finish rfl rfl)⟩
      · rw [ofTokens_cons_cons hfinish]
        exact ⟨n + 1, .token (c := ⟨t, u :: us⟩) hfinish hbefore⟩

section

variable [Pattern.Validator]

/-- However often it is asked, a parser for a list answers like a cursor for any list that is equal
to it up to the first barrier. -/
theorem expressions_eq_of_equalUpToBarrier {ts us : List Token} (h : EqualUpToBarrier ts us)
    (calls : Nat) :
    expressions calls (ofTokens ts) = (Cursor.ofTokens us).expressions calls := by
  obtain ⟨n, hbefore⟩ := before_ofTokens h
  exact hbefore.expressions calls

/-! ## Calls after an expression -/

/-- A parser keeps the token that ends its tokens. -/
theorem finish_expression (p : Parser) : p.expression.2.finish = p.finish := by
  unfold expression
  split <;> rfl

/-- A parser that has answered with an expression stands at the end. -/
theorem pending_of_expression_eq_ok {p : Parser} {e : Expr} (h : p.expression.1 = .ok e) :
    p.expression.2.pending = [] := by
  unfold expression at h ⊢
  split at h
  · cases h
  · rfl
  · cases h

/-- At the end, an expression is asked for again and again. -/
theorem expressions_at_finish (finish : Token) (calls : Nat) :
    expressions calls ⟨[], finish⟩ =
      List.replicate calls (.error ⟨finish.position, .unexpectedFinish "expression"⟩) := by
  induction calls with
  | zero => rfl
  | succ calls ih => rw [expressions, List.replicate_succ, ← ih]; rfl

/-- Every call after one that has answered with an expression is rejected at the end. -/
theorem expressions_after_ok {p : Parser} {e : Expr} {i j calls : Nat}
    (h : (expressions calls p)[i]? = some (.ok e)) (hij : i < j) (hj : j < calls) :
    (expressions calls p)[j]? =
      some (.error ⟨p.finish.position, .unexpectedFinish "expression"⟩) := by
  induction i generalizing p j calls with
  | zero =>
    obtain ⟨calls, rfl⟩ : ∃ k, calls = k + 1 := ⟨calls - 1, by omega⟩
    obtain ⟨j, rfl⟩ : ∃ k, j = k + 1 := ⟨j - 1, by omega⟩
    have hok : p.expression.1 = .ok e := by simpa [expressions] using h
    have hstate : p.expression.2 = ⟨[], p.finish⟩ := by
      rw [← pending_of_expression_eq_ok hok, ← finish_expression p]
    have hlt : j < calls := by omega
    rw [expressions, List.getElem?_cons_succ, hstate, expressions_at_finish]
    simp [hlt]
  | succ i ih =>
    obtain ⟨calls, rfl⟩ : ∃ k, calls = k + 1 := ⟨calls - 1, by omega⟩
    obtain ⟨j, rfl⟩ : ∃ k, j = k + 1 := ⟨j - 1, by omega⟩
    rw [expressions, List.getElem?_cons_succ] at h ⊢
    rw [ih h (by omega) (by omega), finish_expression]

/-- However often it is asked, a parser answers as if the tokens were read one by one from a stream
that is never cut.  Whatever follows an end of input or an illegal token may be dropped or replaced,
and a list without an end of input may be given one right behind its last token.  After an answer
with an expression, an expression is missing at the end in every later call. -/
theorem expressions_behind_barriers (ts : List Token) (calls : Nat) :
    expressions calls (ofTokens ts) = (Cursor.ofTokens ts).expressions calls ∧
    (∀ front b behind other, ts = front ++ b :: behind → b.IsBarrier →
      expressions calls (ofTokens (front ++ b :: other)) = expressions calls (ofTokens ts)) ∧
    ((∀ t ∈ ts, t.kind ≠ .finish) →
      expressions calls (ofTokens (ts ++ [.finishAt ((ts.getLast?.map (·.span.stop)).getD 0)])) =
        expressions calls (ofTokens ts)) ∧
    ∀ i j e, (expressions calls (ofTokens ts))[i]? = some (.ok e) → i < j → j < calls →
      ∃ r, (expressions calls (ofTokens ts))[j]? = some (.error r) ∧
        r.position = endPosition ts ∧
        r.message = "unexpected end of input: expected expression" := by
  refine ⟨expressions_eq_of_equalUpToBarrier (.refl ts) calls, ?_, ?_, ?_⟩
  · rintro front b behind other rfl hbarrier
    calc expressions calls (ofTokens (front ++ b :: other))
        = (Cursor.ofTokens (front ++ b :: behind)).expressions calls :=
          expressions_eq_of_equalUpToBarrier (.append hbarrier front other behind) calls
      _ = expressions calls (ofTokens (front ++ b :: behind)) :=
          (expressions_eq_of_equalUpToBarrier (.refl _) calls).symm
  · intro hopen
    rw [ofTokens_append_finishAt hopen]
  · intro i j e hok hij hj
    refine ⟨_, expressions_after_ok hok hij hj, ?_, rfl⟩
    exact position_finish_ofTokens ts

end

open scoped Pattern.Standard in
theorem expressions_behind_barriers_bracket :
    let bracket : List Token := [⟨.openBracket, ⟨0, 1⟩, "("⟩, ⟨.identifier, ⟨1, 2⟩, "a"⟩,
      ⟨.illegal, ⟨2, 3⟩, "@"⟩, ⟨.closeBracket, ⟨3, 4⟩, ")"⟩]
    let pair : List Token := [⟨.identifier, ⟨0, 1⟩, "a"⟩, ⟨.identifier, ⟨2, 3⟩, "b"⟩, .finishAt 5,
      ⟨.identifier, ⟨6, 7⟩, "c"⟩]
    expressions 3 (ofTokens (bracket.take 3)) = expressions 3 (ofTokens bracket) ∧
      expressions 3 (ofTokens (bracket ++ [.finishAt 4])) = expressions 3 (ofTokens bracket) ∧
      (expressions 3 (ofTokens pair))[1]? = some (.ok (.identifier "b")) ∧
      ∃ r, (expressions 3 (ofTokens pair))[2]? = some (.error r) ∧
        r.position = 5 ∧ r.message = "unexpected end of input: expected expression" := by
  intro bracket pair
  obtain ⟨-, hreplaced, happended, -⟩ := expressions_behind_barriers bracket 3
  obtain ⟨-, -, -, hafter⟩ := expressions_behind_barriers pair 3
  have hok : (expressions 3 (ofTokens pair))[1]? = some (.ok (.identifier "b")) := rfl
  exact ⟨hreplaced (bracket.take 2) ⟨.illegal, ⟨2, 3⟩, "@"⟩ _ [] rfl (.inr rfl),
    happended (by decide), hok, hafter 1 2 _ hok (by decide) (by decide)⟩

end Parser

end InventoryFilter
