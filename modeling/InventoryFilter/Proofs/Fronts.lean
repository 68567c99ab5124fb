import InventoryFilter.Proofs.Borders

set_option autoImplicit false

/-!
# The tokens of the front of a text

A text can be cut at every border between two tokens: its front is scanned as some tokens, and the
rest is then scanned on its own.  The front is judged with the text that really follows it, so a cut
never splits a word or a number.  Before another rest that offers no more to go on with, the front
is scanned as the same tokens.
-/

namespace InventoryFilter

open Text

/-! ## Scanning from an offset -/

/-- A text holds only separators, or a lexeme stands behind the separators in front. -/
theorem exists_stands (cs : List Char) :
    (∀ c ∈ cs, isSeparator c = true) ∨
      ∃ gap l rest, cs = gap ++ (l.source ++ rest) ∧ (∀ c ∈ gap, isSeparator c = true) ∧
        Lexeme.Stands l rest := by
  have hgap : ∀ c ∈ cs.takeWhile isSeparator, isSeparator c = true :=
    List.all_eq_true.1 List.all_takeWhile
  have hsplit : cs.takeWhile isSeparator ++ cs.dropWhile isSeparator = cs :=
    List.takeWhile_append_dropWhile
  cases hdrop : cs.dropWhile isSeparator with
  | nil =>
    rw [hdrop, List.append_nil] at hsplit
    exact .inl (hsplit ▸ hgap)
  | cons c rest =>
    have hsep : isSeparator c = false := endsRun_dropWhile isSeparator cs c (by rw [hdrop]; rfl)
    have hsource := Lexeme.first_source c rest
    obtain ⟨d, ds, hds⟩ := List.exists_cons_of_ne_nil (Lexeme.first_source_ne_nil c rest)
    rw [hdrop, ← hsource] at hsplit
    refine .inr ⟨_, (Lexeme.first c rest).1, (Lexeme.first c rest).2, hsplit.symm, hgap, ?_⟩
    rw [hds, List.cons_append] at hsource
    obtain ⟨rfl, hrest⟩ := List.cons.inj hsource
    exact ⟨d, ds, hds, hsep, by rw [hrest]⟩

/-- The tokens of a text that begins at an offset, with the end of the input last. -/
def tokensFrom (offset : Nat) (cs : List Char) : List Token :=
  (⟨offset, offset, cs, false⟩ : Scanner).drain.1

theorem tokenize_eq_tokensFrom (input : String) : tokenize input = tokensFrom 0 input.toList := rfl

namespace Scanner

theorem step_of_separators {s : Scanner} (h : ∀ c ∈ s.rest, isSeparator c = true) :
    s.step.1 = .finishAt (s.position + byteLength s.rest) := by
  have hend : EndsRun isSeparator [] := fun c hc => by cases hc
  obtain ⟨htake, hdrop⟩ := span_run h hend
  rw [List.append_nil] at htake hdrop
  simp [step, htake, hdrop]

theorem step_of_stands {s : Scanner} {gap rest : List Char} {l : Lexeme}
    (hrest : s.rest = gap ++ (l.source ++ rest)) (hgap : ∀ c ∈ gap, isSeparator c = true)
    (hl : l.Stands rest) :
    s.step = (l.tokenAt (s.position + byteLength gap),
      ⟨s.position + byteLength gap, s.position + byteLength gap + byteLength l.source, rest,
        s.finished⟩) := by
  obtain ⟨c, cs, hsource, hsep, hfirst⟩ := hl
  have hhead : EndsRun isSeparator (l.source ++ rest) := by
    rw [hsource]
    rintro d ⟨⟩
    exact hsep
  obtain ⟨htake, hdrop⟩ := span_run hgap hhead
  rw [← hrest] at htake hdrop
  rw [hsource, List.cons_append] at hdrop
  simp [step, htake, hdrop, hfirst, Lexeme.tokenAt]

/-- The stream goes on step by step until it yields the end. -/
theorem drain_eq_cons {s : Scanner} (hopen : s.finished = false) :
    s.drain.1 = s.step.1 :: if s.step.1.isFinish then [] else s.step.2.drain.1 := by
  rw [drain]
  cases hfinish : s.step.1.isFinish with
  | true => simp [hopen]
  | false => simp [hopen]

/-- Where the last token began makes no difference to those that follow. -/
theorem drain_eq_tokensFrom {s : Scanner} (hopen : s.finished = false) :
    s.drain.1 = tokensFrom s.position s.rest := by
  obtain ⟨start, position, rest, finished⟩ := s
  subst hopen
  rw [tokensFrom, drain_eq_cons rfl, drain_eq_cons (s := ⟨position, position, rest, false⟩) rfl]
  rfl

end Scanner

theorem tokensFrom_separators (offset : Nat) {gap : List Char}
    (h : ∀ c ∈ gap, isSeparator c = true) :
    tokensFrom offset gap = [.finishAt (offset + byteLength gap)] := by
  have hstep := Scanner.step_of_separators (s := ⟨offset, offset, gap, false⟩) h
  rw [tokensFrom, Scanner.drain_eq_cons rfl, hstep]
  rfl

theorem tokensFrom_lexeme (offset : Nat) {gap rest : List Char} {l : Lexeme}
    (hgap : ∀ c ∈ gap, isSeparator c = true) (hl : l.Stands rest) :
    tokensFrom offset (gap ++ (l.source ++ rest)) =
      l.tokenAt (offset + byteLength gap) ::
        tokensFrom (offset + byteLength gap + byteLength l.source) rest := by
  have hstep := Scanner.step_of_stands (s := ⟨offset, offset, gap ++ (l.source ++ rest), false⟩)
    rfl hgap hl
  obtain ⟨c, cs, _, _, hfirst⟩ := hl
  have hkind : (l.tokenAt (offset + byteLength gap)).isFinish = false := by
    simpa [Token.isFinish] using Lexeme.kind_ne_finish hfirst
  rw [tokensFrom, Scanner.drain_eq_cons rfl, hstep]
  simp only [hkind, Bool.false_eq_true, if_false]
  rw [Scanner.drain_eq_tokensFrom rfl]

/-- Separators in front of a text only move it. -/
theorem tokensFrom_append (offset : Nat) {gap : List Char}
    (hgap : ∀ c ∈ gap, isSeparator c = true) (cs : List Char) :
    tokensFrom offset (gap ++ cs) = tokensFrom (offset + byteLength gap) cs := by
  rcases exists_stands cs with hcs | ⟨gap', l, rest, rfl, hgap', hl⟩
  · have hall : ∀ c ∈ gap ++ cs, isSeparator c = true :=
      fun c hc => (List.mem_append.1 hc).elim (hgap c) (hcs c)
    rw [tokensFrom_separators _ hall, tokensFrom_separators _ hcs, byteLength_append,
      Nat.add_assoc]
  · have hall : ∀ c ∈ gap ++ gap', isSeparator c = true :=
      fun c hc => (List.mem_append.1 hc).elim (hgap c) (hgap' c)
    rw [← List.append_assoc, tokensFrom_lexeme _ hall hl, tokensFrom_lexeme _ hgap' hl]
    simp only [byteLength_append, Nat.add_assoc]

/-! ## Fronts -/

/-- `Yields offset front rest ts`: before `rest`, the text `front`, which begins at the offset, is
scanned as the tokens `ts`, and none of them goes on into `rest`. -/
inductive Yields : Nat → List Char → List Char → List Token → Prop
  | separators {offset : Nat} {gap rest : List Char} (hgap : ∀ c ∈ gap, isSeparator c = true) :
      Yields offset gap rest []
  | lexeme {offset : Nat} {gap front rest : List Char} {l : Lexeme} {ts : List Token}
      (hgap : ∀ c ∈ gap, isSeparator c = true) (hl : l.Stands (front ++ rest))
      (hfront : Yields (offset + byteLength gap + byteLength l.source) front rest ts) :
      Yields offset (gap ++ (l.source ++ front)) rest (l.tokenAt (offset + byteLength gap) :: ts)

/-- Every text is a front of which nothing is left. -/
theorem exists_yields (offset : Nat) (cs : List Char) : ∃ ts, Yields offset cs [] ts := by
  induction hn : cs.length using Nat.strongRecOn generalizing offset cs with
  | ind n ih =>
    rcases exists_stands cs with hcs | ⟨gap, l, rest, rfl, hgap, hl⟩
    · exact ⟨[], .separators hcs⟩
    · obtain ⟨c, ds, hsource, _⟩ := id hl
      have hlt : rest.length < n := by
        rw [← hn, hsource]
        simp only [List.length_append, List.length_cons]
        omega
      obtain ⟨ts, hts⟩ :=
        ih rest.length hlt (offset + byteLength gap + byteLength l.source) rest rfl
      exact ⟨_, .lexeme hgap (by rwa [List.append_nil]) hts⟩

namespace Yields

/-- The tokens of the front come first, and then those of the rest. -/
theorem tokensFrom_eq {offset : Nat} {front rest : List Char} {ts : List Token}
    (h : Yields offset front rest ts) :
    tokensFrom offset (front ++ rest) = ts ++ tokensFrom (offset + byteLength front) rest := by
  induction h with
  | separators hgap => exact tokensFrom_append _ hgap _
  | @lexeme offset gap front rest l ts hgap hl _ ih =>
    have hassoc : gap ++ (l.source ++ front) ++ rest = gap ++ (l.source ++ (front ++ rest)) := by
      simp
    rw [hassoc, tokensFrom_lexeme _ hgap hl, ih, List.cons_append]
    simp only [byteLength_append, Nat.add_assoc]

/-- When nothing is left, the end of the input follows the tokens of the front. -/
theorem tokensFrom_eq_append_finishAt {offset : Nat} {cs : List Char} {ts : List Token}
    (h : Yields offset cs [] ts) :
    tokensFrom offset cs = ts ++ [.finishAt (offset + byteLength cs)] := by
  have hnil : ∀ c ∈ ([] : List Char), isSeparator c = true := by simp
  have hrest := h.tokensFrom_eq
  rw [List.append_nil, tokensFrom_separators _ hnil] at hrest
  exact hrest

/-- None of the tokens of a front is the end of the input. -/
theorem kind_ne_finish {offset : Nat} {front rest : List Char} {ts : List Token}
    (h : Yields offset front rest ts) : ∀ t ∈ ts, t.kind ≠ .finish := by
  induction h with
  | separators _ => simp
  | @lexeme offset gap front rest l ts _ hl _ ih =>
    obtain ⟨c, cs, _, _, hfirst⟩ := hl
    intro t ht
    rcases List.mem_cons.1 ht with rfl | ht
    · exact Lexeme.kind_ne_finish hfirst
    · exact ih t ht

/-- When nothing is left, the tokens of the front are those before the end of the input. -/
theorem takeWhile_tokensFrom {offset : Nat} {cs : List Char} {ts : List Token}
    (h : Yields offset cs [] ts) : (tokensFrom offset cs).takeWhile (!·.isFinish) = ts := by
  have hopen : ∀ t ∈ ts, (!t.isFinish) = true := by
    intro t ht
    simpa [Token.isFinish] using h.kind_ne_finish t ht
  rw [h.tokensFrom_eq_append_finishAt, List.takeWhile_append_of_pos hopen]
  exact List.append_nil ts

/-- Before every rest that offers no more, a front without an open literal yields the same tokens,
and offers no more itself. -/
theorem of_offersNoMore {offset : Nat} {front rest rest' : List Char} {ts : List Token}
    (h : Yields offset front rest ts) (hmore : Lexeme.OffersNoMore rest' rest)
    (hclosed : ∀ t ∈ ts, ¬ Lexeme.Unclosed t.kind t.lexeme.toList) :
    Yields offset front rest' ts ∧ Lexeme.OffersNoMore (front ++ rest') (front ++ rest) := by
  induction h with
  | separators hgap => exact ⟨.separators hgap, hmore.separators hgap⟩
  | @lexeme offset gap front rest l ts hgap hl _ ih =>
    obtain ⟨hfront, hfrontMore⟩ := ih hmore fun t ht => hclosed t (by simp [ht])
    have hopen : ¬ Lexeme.Unclosed l.kind l.text := by
      simpa [Lexeme.tokenAt] using hclosed _ (List.mem_cons_self ..)
    have hl' : l.Stands (front ++ rest') := hl.of_offersNoMore hfrontMore fun h => absurd h hopen
    refine ⟨.lexeme hgap hl' hfront, ?_⟩
    simpa using (hfrontMore.lexeme hl hl').separators hgap

/-- Every token of a front begins where a shorter front ends. -/
theorem exists_front {offset : Nat} {front rest : List Char} {ts : List Token}
    (h : Yields offset front rest ts) {t : Token} (ht : t ∈ ts) :
    ∃ before after us, front = before ++ after ∧ after ≠ [] ∧
      t.span.start = offset + byteLength before ∧ Yields offset before (after ++ rest) us := by
  induction h with
  | separators _ => cases ht
  | @lexeme offset gap front rest l ts hgap hl hfront ih =>
    rcases List.mem_cons.1 ht with rfl | ht
    · obtain ⟨c, cs, hsource, _⟩ := id hl
      exact ⟨gap, l.source ++ front, [], rfl, by simp [hsource], rfl, .separators hgap⟩
    · obtain ⟨before, after, us, rfl, hne, hstart, hbefore⟩ := ih ht
      refine ⟨gap ++ (l.source ++ before), after, l.tokenAt (offset + byteLength gap) :: us,
        by simp, hne, ?_, .lexeme hgap (by simpa using hl) hbefore⟩
      rw [hstart]
      simp only [byteLength_append, Nat.add_assoc]

theorem eq_nil_of_front_eq_nil {offset : Nat} {rest : List Char} {ts : List Token}
    (h : Yields offset [] rest ts) : ts = [] := by
  generalize hfront : ([] : List Char) = front at h
  cases h with
  | separators _ => rfl
  | lexeme _ hl _ =>
    obtain ⟨c, cs, hsource, _⟩ := hl
    simp [hsource] at hfront

/-- Only the last token of a front, with nothing behind it, is an open literal. -/
theorem eq_nil_of_unclosed {offset : Nat} {front rest : List Char} {ts : List Token}
    (h : Yields offset front rest ts) {t : Token} (ht : t ∈ ts)
    (hopen : Lexeme.Unclosed t.kind t.lexeme.toList) : rest = [] ∧ ts.getLast? = some t := by
  induction h with
  | separators _ => cases ht
  | @lexeme offset gap front rest l ts _ hl hfront ih =>
    rcases List.mem_cons.1 ht with rfl | ht
    · have hnil : front ++ rest = [] :=
        hl.eq_nil_of_unclosed (by simpa [Lexeme.tokenAt] using hopen)
      obtain ⟨rfl, rfl⟩ := List.append_eq_nil_iff.1 hnil
      exact ⟨rfl, by rw [hfront.eq_nil_of_front_eq_nil]; rfl⟩
    · obtain ⟨hrest, hlast⟩ := ih ht
      refine ⟨hrest, ?_⟩
      rw [List.getLast?_cons, hlast]
      rfl

end Yields

end InventoryFilter
