import InventoryFilter.Proofs.Fronts

set_option autoImplicit false

/-!
# One stream of tokens

A scanner can be stepped, asked for the next token of its stream, or drained, in any order.  All
three walk through the same tokens, and the end of the input is repeated without end.  Only the
stream remembers whether it has yielded the end: a step neither asks for that nor changes it.

Main statement: whatever the calls are, the tokens they yield are those of the filter, one after
another; the stream is over exactly if it has yielded the end itself; and the scanner never leaves
the filter or stands inside a character.
-/

namespace InventoryFilter

open Text

namespace Scanner

/-- The ways to ask a scanner for tokens. -/
inductive Call
  | next
  | step
  | drain
  deriving DecidableEq, Repr

/-- The tokens that a call yields, and the place after it. -/
def call (s : Scanner) : Call → List Token × Scanner
  | .next => (s.next?.1.toList, s.next?.2)
  | .step => ([s.step.1], s.step.2)
  | .drain => s.drain

/-- Calls one after another: the tokens that each of them yields, and the place after all. -/
def run (s : Scanner) : List Call → List (Call × List Token) × Scanner
  | [] => ([], s)
  | c :: calls =>
    ((c, (s.call c).1) :: ((s.call c).2.run calls).1, ((s.call c).2.run calls).2)

/-- The tokens that the calls have yielded, in order. -/
def yielded (log : List (Call × List Token)) : List Token := log.flatMap (·.2)

/-! ## From steps to runs -/

/-- A step neither asks whether the stream is over nor changes it. -/
theorem step_finished (s : Scanner) (finished : Bool) :
    ({ s with finished } : Scanner).step = (s.step.1, { s.step.2 with finished }) := by
  unfold step
  simp only
  split <;> rfl

theorem finished_step (s : Scanner) : s.step.2.finished = s.finished := by
  rcases s.step_cases with ⟨_, hstep⟩ | ⟨_, _, _, _, _, _, _, _, hstep⟩ <;> rw [hstep]

theorem next?_of_finished {s : Scanner} (h : s.finished = true) : s.next? = (none, s) := if_pos h

theorem next?_of_open {s : Scanner} (h : s.finished = false) :
    s.next? = (some s.step.1, { s.step.2 with finished := s.step.1.isFinish }) := by
  simp [next?, h]

theorem next?_eq_none_iff (s : Scanner) : s.next?.1 = none ↔ s.finished = true := by
  cases h : s.finished with
  | true => simp [next?_of_finished h]
  | false => simp [next?_of_open h]

section Invariants

variable {P : List Token → Scanner → Prop}
  (hstream : ∀ {ts : List Token} {s : Scanner} (finished : Bool), P ts s →
    P ts { s with finished })
  (hstep : ∀ {ts : List Token} {s : Scanner}, P ts s → P (ts ++ [s.step.1]) s.step.2)

include hstream hstep

/-- What every step keeps, a drained stream keeps. -/
theorem drain_keeps {ts : List Token} {s : Scanner} (h : P ts s) :
    P (ts ++ s.drain.1) s.drain.2 := by
  fun_induction drain s generalizing ts with
  | case1 s _ => simpa using h
  | case2 s _ _ => exact hstream true (hstep h)
  | case3 s _ _ tokens last hdrain ih =>
    have hlast := ih (hstep h)
    rw [hdrain] at hlast
    simpa using hlast

/-- What every step keeps, every call keeps. -/
theorem call_keeps {ts : List Token} {s : Scanner} (h : P ts s) (c : Call) :
    P (ts ++ (s.call c).1) (s.call c).2 := by
  cases c with
  | next =>
    rw [call]
    cases hfinished : s.finished with
    | true =>
      rw [next?_of_finished hfinished]
      simpa using h
    | false =>
      rw [next?_of_open hfinished]
      exact hstream _ (hstep h)
  | step => exact hstep h
  | drain => exact drain_keeps hstream hstep h

/-- What every step keeps, every run keeps. -/
theorem run_keeps {ts : List Token} {s : Scanner} (h : P ts s) (calls : List Call) :
    P (ts ++ yielded (s.run calls).1) (s.run calls).2 := by
  induction calls generalizing ts s with
  | nil => simpa [run, yielded] using h
  | cons c calls ih =>
    have hrest := ih (call_keeps hstream hstep h c)
    simpa [run, yielded] using hrest

end Invariants

/-! ## The place of the scanner -/

/-- The scanner has read the filter as far as its position, the last token from its start on. -/
def Within (input : String) (s : Scanner) : Prop :=
  ∃ before token, input.toList = before ++ token ++ s.rest ∧
    s.start = byteLength before ∧ s.position = byteLength (before ++ token)

theorem Within.step {input : String} {s : Scanner} (h : Within input s) :
    Within input s.step.2 := by
  obtain ⟨before, token, hinput, _, hposition⟩ := h
  rcases s.step_cases with ⟨_, hstep⟩ | ⟨gap, c, cs, l, rest, hrest, _, hfirst, hstep⟩
  · rw [hstep]
    refine ⟨before ++ token ++ s.rest, [], by simp [hinput], ?_, ?_⟩
    · simp only [hposition, byteLength_append]
    · simp only [hposition, byteLength_append, byteLength_nil, Nat.add_zero]
  · have hsource := Lexeme.first_source c cs
    rw [hfirst] at hsource
    rw [hstep]
    refine ⟨before ++ token ++ gap, l.source, ?_, ?_, ?_⟩
    · rw [hinput, hrest, ← hsource]
      simp
    · simp only [hposition, byteLength_append]
    · simp only [hposition, byteLength_append]

/-- The start and the position of the scanner cut the filter into three texts. -/
theorem Within.exists_split {input : String} {s : Scanner} (h : Within input s) :
    ∃ before token after : String, input = before ++ token ++ after ∧
      s.start = before.utf8ByteSize ∧ s.position = (before ++ token).utf8ByteSize := by
  obtain ⟨before, token, hinput, hstart, hposition⟩ := h
  refine ⟨.ofList before, .ofList token, .ofList s.rest, ?_, ?_, ?_⟩
  · rw [← String.ofList_append, ← String.ofList_append, ← hinput, String.ofList_toList]
  · rw [← byteLength_toList, String.toList_ofList, hstart]
  · rw [← String.ofList_append, ← byteLength_toList, String.toList_ofList, hposition]

/-! ## The tokens ahead of the scanner -/

/-- The tokens from the position of the scanner on, up to the end of the input. -/
def ahead (s : Scanner) : List Token := tokensFrom s.position s.rest

theorem ahead_eq_cons (s : Scanner) :
    s.ahead = s.step.1 :: if s.step.1.isFinish then [] else s.step.2.ahead := by
  have hdrain := drain_eq_tokensFrom (s := { s with finished := false }) rfl
  rw [drain_eq_cons rfl, step_finished] at hdrain
  rw [ahead, ← hdrain, ahead, ← drain_eq_tokensFrom (s := { s.step.2 with finished := false }) rfl]

/-- Behind the end of the input there is the end of the input again. -/
theorem ahead_of_isFinish {s : Scanner} (h : s.step.1.isFinish = true) :
    s.step.2.ahead = [s.step.1] := by
  rcases s.step_cases with ⟨_, hstep⟩ | ⟨_, c, cs, l, _, _, _, hfirst, hstep⟩
  · rw [hstep, ahead, tokensFrom_separators _ (by simp)]
    rfl
  · have hkind : l.kind = .finish := by simpa [hstep, Token.isFinish] using h
    exact absurd hkind (Lexeme.kind_ne_finish hfirst)

/-- So far the tokens `ts` have been yielded: they come from the tokens of the filter, with the end
repeated, and those that are left are ahead. -/
def Walks (tokens : List Token) (finish : Token) (ts : List Token) (s : Scanner) : Prop :=
  ∃ left repeats, ts ++ left = tokens ++ List.replicate repeats finish ∧ s.ahead = left ++ [finish]

theorem Walks.step {tokens ts : List Token} {finish : Token} {s : Scanner}
    (h : Walks tokens finish ts s) : Walks tokens finish (ts ++ [s.step.1]) s.step.2 := by
  obtain ⟨left, repeats, hts, hahead⟩ := h
  have hstep := s.ahead_eq_cons
  rw [hahead] at hstep
  cases left with
  | nil =>
    -- the end of the input is yielded once more
    obtain ⟨rfl, hnil⟩ := List.cons.inj hstep
    have hfinish : s.step.1.isFinish = true := by
      cases hopen : s.step.1.isFinish with
      | true => rfl
      | false =>
        rw [hopen, if_neg Bool.false_ne_true, ahead_eq_cons] at hnil
        cases hnil
    refine ⟨[], repeats + 1, ?_, ahead_of_isFinish hfinish⟩
    rw [List.append_nil] at hts ⊢
    rw [hts, List.replicate_succ', List.append_assoc]
  | cons t left =>
    obtain ⟨rfl, hleft⟩ := List.cons.inj hstep
    have hopen : ¬ s.step.1.isFinish = true := by
      intro hfinish
      rw [if_pos hfinish] at hleft
      simp at hleft
    rw [if_neg hopen] at hleft
    exact ⟨left, repeats, by rw [List.append_assoc]; exact hts, hleft.symm⟩

/-- Every token that has been yielded is the one at its place in the filter, or the end if there are
no more. -/
theorem Walks.getElem?_eq {tokens ts : List Token} {finish : Token} {s : Scanner}
    (h : Walks tokens finish ts s) {k : Nat} {t : Token} (ht : ts[k]? = some t) :
    (if k < tokens.length + 1 then (tokens ++ [finish])[k]? else some finish) = some t := by
  obtain ⟨left, repeats, hts, _⟩ := h
  have hk : k < ts.length := (List.getElem?_eq_some_iff.1 ht).1
  rw [← List.getElem?_append_left hk, hts] at ht
  rcases Nat.lt_or_ge k tokens.length with hlt | hge
  · rw [List.getElem?_append_left hlt] at ht
    rw [if_pos (by omega), List.getElem?_append_left hlt, ht]
  · have hfinish : finish = t := by
      rw [List.getElem?_append_right hge, List.getElem?_replicate] at ht
      split at ht
      · exact Option.some.inj ht
      · cases ht
    subst hfinish
    split
    · rw [List.getElem?_append_right hge, Nat.sub_eq_zero_of_le (by omega)]
      rfl
    · rfl

/-! ## The end of the stream -/

/-- Whether the call belongs to the stream and has yielded the end of the input. -/
def Ends (entry : Call × List Token) : Prop :=
  entry.1 ≠ .step ∧ ∃ t ∈ entry.2, t.kind = .finish

theorem finished_drain (s : Scanner) :
    s.drain.2.finished = true ∧ (s.finished = false → ∃ t ∈ s.drain.1, t.kind = .finish) := by
  fun_induction drain s with
  | case1 s hfinished => simp [hfinished]
  | case2 s _ hfinish =>
    have hkind : s.step.1.kind = .finish := by simpa [Token.isFinish] using hfinish
    exact ⟨rfl, fun _ => ⟨_, List.mem_singleton.2 rfl, hkind⟩⟩
  | case3 s _ _ tokens last hdrain ih =>
    rw [hdrain, finished_step] at ih
    refine ⟨ih.1, fun hopen => ?_⟩
    obtain ⟨t, ht, hkind⟩ := ih.2 hopen
    exact ⟨t, List.mem_cons_of_mem _ ht, hkind⟩

theorem finished_call (s : Scanner) (c : Call) :
    (s.call c).2.finished = true ↔ s.finished = true ∨ Ends (c, (s.call c).1) := by
  cases c with
  | step => simp [call, finished_step, Ends]
  | next =>
    rw [call]
    cases hfinished : s.finished with
    | true => simp [next?_of_finished hfinished, hfinished]
    | false => simp [next?_of_open hfinished, Ends, Token.isFinish]
  | drain =>
    obtain ⟨hfinished, hends⟩ := s.finished_drain
    cases hopen : s.finished with
    | true => exact iff_of_true hfinished (.inl rfl)
    | false => exact iff_of_true hfinished (.inr ⟨by simp, hends hopen⟩)

theorem finished_run (s : Scanner) (calls : List Call) :
    (s.run calls).2.finished = true ↔
      s.finished = true ∨ ∃ entry ∈ (s.run calls).1, Ends entry := by
  induction calls generalizing s with
  | nil => simp [run]
  | cons c calls ih => simp [run, ih, finished_call, or_assoc]

end Scanner

/-- Calls in any order walk through the tokens of the filter.  The token yielded at a place is the
token of the filter at that place, and the last one from then on.  The stream is over exactly if a
call to it has yielded the end, whatever steps have yielded.  The scanner stays inside the filter
and between characters. -/
theorem Scanner.run_walks_tokens (input : String) (calls : List Call) :
    let log := ((ofInput input).run calls).1
    let s := ((ofInput input).run calls).2
    (∀ k t, (yielded log)[k]? = some t →
        (if k < (tokenize input).length then (tokenize input)[k]? else (tokenize input).getLast?) =
          some t) ∧
      (tokenize input).getLast? = some (.finishAt input.utf8ByteSize) ∧
      (s.next?.1 = none ↔
        ∃ entry ∈ log, entry.1 ≠ .step ∧ ∃ t ∈ entry.2, t.kind = .finish) ∧
      s.start ≤ s.position ∧ s.position ≤ input.utf8ByteSize ∧
      ∃ before token after : String, input = before ++ token ++ after ∧
        s.start = before.utf8ByteSize ∧ s.position = (before ++ token).utf8ByteSize := by
  intro log s
  obtain ⟨ts, hts⟩ := exists_yields 0 input.toList
  have htokens : tokenize input = ts ++ [.finishAt (0 + byteLength input.toList)] :=
    hts.tokensFrom_eq_append_finishAt
  rw [Nat.zero_add, byteLength_toList] at htokens
  have hwalks : Walks ts (.finishAt input.utf8ByteSize) (yielded log) s := by
    have hstart : Walks ts (.finishAt input.utf8ByteSize) [] (ofInput input) :=
      ⟨ts, 0, by simp, htokens⟩
    exact run_keeps (fun _ h => h) Walks.step hstart calls
  have hwithin : Within input s := by
    have hstart : Within input (ofInput input) := ⟨[], [], rfl, rfl, rfl⟩
    exact @run_keeps (fun _ => Within input) (fun _ h => h) Within.step [] _ hstart calls
  have hlast : (tokenize input).getLast? = some (.finishAt input.utf8ByteSize) := by
    rw [htokens, List.getLast?_concat]
  refine ⟨?_, hlast, ?_, ?_⟩
  · intro k t ht
    have hplace := hwalks.getElem?_eq ht
    rw [hlast, htokens, List.length_append]
    exact hplace
  · rw [next?_eq_none_iff]
    exact (finished_run (ofInput input) calls).trans (or_iff_right Bool.false_ne_true)
  · obtain ⟨before, token, after, hinput, hstart, hposition⟩ := hwithin.exists_split
    refine ⟨?_, ?_, before, token, after, hinput, hstart, hposition⟩
    · rw [hstart, hposition, String.utf8ByteSize_append]
      exact Nat.le_add_right _ _
    · have hsize := congrArg String.utf8ByteSize hinput
      rw [String.utf8ByteSize_append] at hsize
      omega

/-- A step over the end does not end the stream, and the end of the stream does not stop steps. -/
theorem Scanner.run_walks_tokens_interleaved :
    let calls : List Call := [.step, .next, .step, .step, .next, .next, .drain, .step]
    let log := ((ofInput "é<1").run calls).1
    let s := ((ofInput "é<1").run calls).2
    log.map (fun entry => entry.2.map (·.kind)) =
        [[.identifier], [.less], [.quantity], [.finish], [.finish], [], [], [.finish]] ∧
      (∀ k t, (yielded log)[k]? = some t →
        (if k < 4 then (tokenize "é<1")[k]? else some (.finishAt 4)) = some t) ∧
      s.next?.1 = none ∧ s.start ≤ s.position ∧ s.position ≤ 4 := by
  intro calls log s
  have hkinds : log.map (fun entry => entry.2.map (·.kind)) =
      [[.identifier], [.less], [.quantity], [.finish], [.finish], [], [], [.finish]] := by
    decide +kernel
  have hends : ∃ entry ∈ log, entry.1 ≠ .step ∧ ∃ t ∈ entry.2, t.kind = .finish := by
    decide +kernel
  have hlength : (tokenize "é<1").length = 4 := by decide +kernel
  obtain ⟨htokens, hlast, hover, hplace, hbound, _⟩ := run_walks_tokens "é<1" calls
  rw [hlength, hlast] at htokens
  exact ⟨hkinds, htokens, hover.2 hends, hplace, hbound⟩

end InventoryFilter
