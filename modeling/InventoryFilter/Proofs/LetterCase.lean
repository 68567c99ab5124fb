import InventoryFilter.Proofs.Amounts
import InventoryFilter.Proofs.Fronts
import Mathlib.Data.List.Forall2

set_option autoImplicit false

/-!
# The case of letters in words and quantities

Words are compared with the keywords, and the letters behind a number with the units, without
regard to the case of ASCII letters.  The readers of words and of numbers therefore take equally
many characters in every spelling of a text, and no token looks at the case of a letter behind it.

Main statement: two filters that differ only in the case of letters inside words and quantities have
tokens that differ only in the case of those letters.
-/

namespace InventoryFilter

open Text Lexical
open List (Forall₂)

theorem Text.isDigit_of_isAlpha {c : Char} (h : c.isAlpha = true) : c.isDigit = false := by
  rw [Bool.eq_false_iff]
  intro hdigit
  rw [isAlpha_eq_false_of_isDigit hdigit] at h
  cases h

theorem TokenKind.ofWord_asciiLower (cs : List Char) : ofWord (asciiLower cs) = ofWord cs := by
  simp only [ofWord, sameIgnoringCase, asciiLower_asciiLower]

theorem StorageUnit.ofSuffix?_asciiLower (cs : List Char) :
    ofSuffix? (asciiLower cs) = ofSuffix? cs := by
  simp only [ofSuffix?, sameIgnoringCase, asciiLower_asciiLower]

namespace Lexeme

/-! ## The readers -/

theorem isWordStart_toLower (c : Char) : isWordStart c.toLower = isWordStart c :=
  apply_toLower (b := true) (fun c hc => by simp [isWordStart, isAlphabetic_of_isAlpha hc]) c

theorem isWordChar_toLower (c : Char) : isWordChar c.toLower = isWordChar c :=
  apply_toLower (b := true) (fun c hc => by simp [isWordChar, isAlphabetic_of_isAlpha hc]) c

theorem isDigit_toLower (c : Char) : c.toLower.isDigit = c.isDigit :=
  apply_toLower (fun _ => isDigit_of_isAlpha) c

theorem isSeparator_toLower (c : Char) : isSeparator c.toLower = isSeparator c :=
  apply_toLower (fun _ hc => isSeparator_eq_false hc (by decide)) c

/-- Separators have no other spelling. -/
theorem gap_eq_of_asciiLower_eq {gap gap' : List Char} (hgap : ∀ c ∈ gap, isSeparator c = true)
    (h : asciiLower gap' = asciiLower gap) : gap' = gap := by
  refine eq_of_asciiLower_eq (fun c hc => ?_) h
  rw [Bool.eq_false_iff]
  intro hletter
  have hsep := hgap c hc
  rw [isSeparator_eq_false hletter (by decide)] at hsep
  cases hsep

theorem beq_toLower {d : Char} (hd : d.isAlpha = false) (c : Char) :
    (c.toLower == d) = (c == d) :=
  apply_toLower (fun _ hc => beq_eq_false_iff_ne.2 (ne_of_isAlpha hc hd)) c

/-- No token looks at the case of the letter behind it. -/
theorem lookahead_toLower {p : Char → Bool} (hp : p ∈ lookahead) (c : Char) :
    p c.toLower = p c := by
  simp only [lookahead, List.mem_cons, List.not_mem_nil, or_false] at hp
  rcases hp with rfl | rfl | rfl | rfl | rfl
  · exact isWordChar_toLower c
  · exact isDigit_toLower c
  · exact isAlpha_toLower c
  · exact beq_toLower (by decide) c
  · exact beq_toLower (by decide) c

theorem endsRun_asciiLower {p : Char → Bool} (hp : ∀ c : Char, p c.toLower = p c)
    (cs : List Char) : EndsRun p (asciiLower cs) ↔ EndsRun p cs := by
  cases cs with
  | nil => exact Iff.rfl
  | cons c cs => simp [EndsRun, hp]

theorem fraction_asciiLower (cs : List Char) :
    fraction (asciiLower cs) = (asciiLower (fraction cs).1, asciiLower (fraction cs).2) := by
  rcases fraction_cases cs with ⟨c, ds, rfl, hdigit, hfraction⟩ | ⟨_, hfraction⟩
  · have hdigit' : c.toLower.isDigit = true := by rw [isDigit_toLower, hdigit]
    have htake := takeWhile_asciiLower isDigit_toLower (c :: ds)
    have hdrop := dropWhile_asciiLower isDigit_toLower (c :: ds)
    rw [hfraction, asciiLower_cons, asciiLower_cons, asciiLower_cons, ← htake, ← hdrop]
    exact if_pos hdigit'
  · rw [hfraction]
    apply fraction_of_fst_eq_nil
    cases cs with
    | nil => rfl
    | cons c ds =>
      by_cases hpoint : c = '.'
      · subst hpoint
        exact (fraction_point_fst _).2 ((endsRun_asciiLower isDigit_toLower ds).2
          ((fraction_point_fst ds).1 (congrArg Prod.fst hfraction)))
      · have hpoint' : c.toLower ≠ '.' := by
          rw [← beq_eq_false_iff_ne, beq_toLower (by decide), beq_eq_false_iff_ne]
          exact hpoint
        rw [fraction_eq_nil (by simpa using hpoint')]

theorem unitLetters_asciiLower (cs : List Char) :
    unitLetters (asciiLower cs) =
      (asciiLower (unitLetters cs).1, asciiLower (unitLetters cs).2) := by
  unfold unitLetters
  rw [takeWhile_asciiLower isAlpha_toLower, dropWhile_asciiLower isAlpha_toLower,
    StorageUnit.ofSuffix?_asciiLower]
  split <;> rfl

/-- The lexeme with its capital ASCII letters made small. -/
def lowered (l : Lexeme) : Lexeme := ⟨l.kind, asciiLower l.source, asciiLower l.text⟩

theorem word_asciiLower (cs : List Char) :
    word (asciiLower cs) = ((word cs).1.lowered, asciiLower (word cs).2) := by
  simp only [word, verbatim, lowered, takeWhile_asciiLower isWordChar_toLower,
    dropWhile_asciiLower isWordChar_toLower, TokenKind.ofWord_asciiLower]

theorem number_asciiLower (cs : List Char) :
    number (asciiLower cs) = ((number cs).1.lowered, asciiLower (number cs).2) := by
  simp only [number, verbatim, lowered, takeWhile_asciiLower isDigit_toLower,
    dropWhile_asciiLower isDigit_toLower, fraction_asciiLower, unitLetters_asciiLower,
    asciiLower_append]

end Lexeme

/-- Whether tokens of the kind are words or quantities. -/
def TokenKind.IgnoresCase (kind : TokenKind) : Prop :=
  TokenClass.ofKind? kind = some .word ∨ TokenClass.ofKind? kind = some .quantity

instance (kind : TokenKind) : Decidable kind.IgnoresCase := inferInstanceAs (Decidable (_ ∨ _))

namespace Lexeme

/-- A reader that does not see the case of letters reads every spelling of a text alike. -/
theorem lowered_eq_of_asciiLower_eq {read : List Char → Lexeme × List Char}
    (hread : ∀ cs, read (asciiLower cs) = ((read cs).1.lowered, asciiLower (read cs).2))
    {cs cs' : List Char} (h : asciiLower cs' = asciiLower cs) :
    (read cs').1.lowered = (read cs).1.lowered ∧
      asciiLower (read cs').2 = asciiLower (read cs).2 := by
  have hboth := hread cs'
  rw [h, hread cs] at hboth
  obtain ⟨hl, hrest⟩ := Prod.mk.inj hboth
  exact ⟨hl.symm, hrest.symm⟩

/-- A word or a quantity is scanned alike in another case. -/
theorem first_lowered {c c' : Char} {cs cs' : List Char}
    (hcase : (first c cs).1.kind.IgnoresCase) (h : asciiLower (c' :: cs') = asciiLower (c :: cs)) :
    (first c' cs').1.lowered = (first c cs).1.lowered ∧
      asciiLower (first c' cs').2 = asciiLower (first c cs).2 := by
  have hhead : c'.toLower = c.toLower := (List.cons.inj h).1
  have hopens := (isFirst_first c cs).opens
  rcases hcase with hword | hquantity
  · have hstart : isWordStart c = true := by
      obtain ⟨d, ds, hd, hstart⟩ := (hopens .word).1 hword
      cases hd
      simpa [isWordStart] using hstart
    have hstart' : isWordStart c' = true :=
      (eq_of_toLower_eq isWordStart_toLower hhead).trans hstart
    rw [first_of_isWordStart hstart, first_of_isWordStart hstart']
    exact lowered_eq_of_asciiLower_eq word_asciiLower h
  · have hdigit : c.isDigit = true := by
      obtain ⟨d, ds, hd, hdigit⟩ := (hopens .quantity).1 hquantity
      cases hd
      exact hdigit
    have hdigit' : c'.isDigit = true := (eq_of_toLower_eq isDigit_toLower hhead).trans hdigit
    rw [first_of_isDigit hdigit, first_of_isDigit hdigit']
    exact lowered_eq_of_asciiLower_eq number_asciiLower h

theorem OffersNoMore.of_asciiLower_eq {rest rest' : List Char}
    (h : asciiLower rest' = asciiLower rest) : OffersNoMore rest' rest where
  head := fun _ hp => Text.of_asciiLower_eq (endsRun_asciiLower (lookahead_toLower hp)) h
  point := Text.of_asciiLower_eq (P := fun cs => (fraction cs).1 = [])
    (fun cs => by simp [fraction_asciiLower]) h
  unit := Text.of_asciiLower_eq (P := fun cs => (unitLetters cs).1 = [])
    (fun cs => by simp [unitLetters_asciiLower]) h

/-! ## Lexemes in another case -/

/-- A word or a quantity stands in every spelling. -/
theorem Stands.exists_lowered {l : Lexeme} {rest source' rest' : List Char} (h : l.Stands rest)
    (hcase : l.kind.IgnoresCase) (hsource : asciiLower source' = asciiLower l.source)
    (hrest : asciiLower rest' = asciiLower rest) :
    ∃ l' : Lexeme, l'.source = source' ∧ l'.lowered = l.lowered ∧ l'.Stands rest' := by
  obtain ⟨c, cs, hcs, hsep, hfirst⟩ := h
  rw [hcs] at hsource
  obtain ⟨c', cs', rfl, hhead, _⟩ := List.map_eq_cons_iff.1 hsource
  have htext : asciiLower (c' :: (cs' ++ rest')) = asciiLower (c :: (cs ++ rest)) := by
    rw [← List.cons_append, ← List.cons_append, asciiLower_append, asciiLower_append, hsource,
      hrest]
  obtain ⟨hlowered, _⟩ := first_lowered (by rwa [hfirst]) htext
  rw [hfirst] at hlowered
  -- both lexemes take equally many characters
  have hlength : (first c' (cs' ++ rest')).1.source.length = (c' :: cs').length := by
    have hsame := length_eq_of_asciiLower_eq (congrArg Lexeme.source hlowered)
    rw [hsame, hcs, length_eq_of_asciiLower_eq hsource]
  obtain ⟨htake, hleft⟩ := List.append_inj (first_source c' (cs' ++ rest')) hlength
  have hsep' : isSeparator c' = false := (eq_of_toLower_eq isSeparator_toLower hhead).trans hsep
  exact ⟨_, htake, hlowered, c', cs', htake, hsep', Prod.ext rfl hleft⟩

/-- Every lexeme stands in another spelling, which must be the same unless the lexeme is a word or a
quantity. -/
theorem Stands.exists_recased {l : Lexeme} {rest source' rest' : List Char} (h : l.Stands rest)
    (hsource : asciiLower source' = asciiLower l.source)
    (hrest : asciiLower rest' = asciiLower rest)
    (hliteral : ¬ l.kind.IgnoresCase → source' = l.source) :
    ∃ l' : Lexeme, l'.source = source' ∧ l'.lowered = l.lowered ∧ l'.Stands rest' ∧
      (¬ l.kind.IgnoresCase → l' = l) := by
  by_cases hcase : l.kind.IgnoresCase
  · obtain ⟨l', hl'source, hlowered, hl'⟩ := h.exists_lowered hcase hsource hrest
    exact ⟨l', hl'source, hlowered, hl', fun h => absurd hcase h⟩
  · refine ⟨l, (hliteral hcase).symm, rfl, ?_, fun _ => rfl⟩
    apply h.of_offersNoMore (.of_asciiLower_eq hrest)
    intro hopen
    rw [h.eq_nil_of_unclosed hopen] at hrest
    exact asciiLower_eq_nil_iff.1 hrest

end Lexeme

/-! ## Tokens in another case -/

/-- The tokens differ at most in the case of the letters of a word or a quantity. -/
structure Token.Recased (t t' : Token) : Prop where
  kind : t'.kind = t.kind
  span : t'.span = t.span
  letters : asciiLower t'.lexeme.toList = asciiLower t.lexeme.toList
  literal : ¬ t.kind.IgnoresCase → t'.lexeme = t.lexeme

theorem Lexeme.recased_tokenAt {l l' : Lexeme} (h : l'.lowered = l.lowered)
    (hliteral : ¬ l.kind.IgnoresCase → l' = l) (offset : Nat) :
    (l.tokenAt offset).Recased (l'.tokenAt offset) := by
  obtain ⟨hkind, hsource, htext⟩ := Lexeme.mk.inj h
  refine ⟨hkind, ?_, ?_, ?_⟩
  · simp only [tokenAt, byteLength_eq_of_asciiLower_eq hsource]
  · simpa [tokenAt] using htext
  · intro hcase
    rw [hliteral hcase]

/-- Where the texts, which begin at the offset, differ, they differ inside words and quantities
among the tokens. -/
def DifferInside (offset : Nat) (cs cs' : List Char) (ts : List Token) : Prop :=
  ∀ i, cs[i]? ≠ cs'[i]? → ∃ t ∈ ts, t.kind.IgnoresCase ∧
    t.span.start ≤ offset + byteLength (cs.take i) ∧
    offset + byteLength (cs.take i) < t.span.stop

theorem Text.byteLength_take_lt {cs : List Char} {i : Nat} (h : i < cs.length) :
    byteLength (cs.take i) < byteLength cs := by
  have hsplit := congrArg byteLength (List.take_append_drop i cs)
  have hdrop := length_le_byteLength (cs.drop i)
  rw [byteLength_append] at hsplit
  rw [List.length_drop] at hdrop
  omega

namespace DifferInside

variable {offset : Nat} {cs cs' : List Char} {t : Token} {ts : List Token}

/-- Texts that differ inside the tokens still do so behind fronts of one length. -/
theorem drop_front {front front' : List Char}
    (h : DifferInside offset (front ++ cs) (front' ++ cs') ts)
    (hlength : front'.length = front.length) :
    DifferInside (offset + byteLength front) cs cs' ts := by
  intro i hi
  have hget : (front ++ cs)[front.length + i]? ≠ (front' ++ cs')[front.length + i]? := by
    rw [List.getElem?_append_right (by omega), List.getElem?_append_right (by omega), hlength,
      Nat.add_sub_cancel_left]
    exact hi
  obtain ⟨t, ht, hcase, hplace⟩ := h _ hget
  rw [List.take_length_add_append, byteLength_append, ← Nat.add_assoc] at hplace
  exact ⟨t, ht, hcase, hplace⟩

/-- A token that ends where the texts begin covers no place in them. -/
theorem drop_token (h : DifferInside offset cs cs' (t :: ts)) (hstop : t.span.stop ≤ offset) :
    DifferInside offset cs cs' ts := by
  intro i hi
  obtain ⟨u, hu, hcase, hplace⟩ := h i hi
  rcases List.mem_cons.1 hu with rfl | hu
  · omega
  · exact ⟨u, hu, hcase, hplace⟩

/-- The texts do not differ inside a token that is neither a word nor a quantity. -/
theorem source_eq {source source' : List Char}
    (h : DifferInside offset (source ++ cs) (source' ++ cs') (t :: ts))
    (hlength : source'.length = source.length) (hcase : ¬ t.kind.IgnoresCase)
    (hlater : ∀ u ∈ ts, offset + byteLength source ≤ u.span.start) : source' = source := by
  refine List.ext_getElem? fun i => ?_
  by_contra hne
  have hi : i < source.length := by
    by_contra hi
    exact hne (by rw [List.getElem?_eq_none (by omega), List.getElem?_eq_none (by omega)])
  have hget : (source ++ cs)[i]? ≠ (source' ++ cs')[i]? := by
    rw [List.getElem?_append_left hi, List.getElem?_append_left (by omega)]
    exact Ne.symm hne
  obtain ⟨u, hu, hucase, hstart, _⟩ := h i hget
  rcases List.mem_cons.1 hu with rfl | hu
  · exact hcase hucase
  · have hplace := byteLength_take_lt hi
    have hstart' := hlater u hu
    rw [List.take_append_of_le_length (Nat.le_of_lt hi)] at hstart
    omega

end DifferInside

namespace Yields

theorem le_start {offset : Nat} {front rest : List Char} {ts : List Token}
    (h : Yields offset front rest ts) : ∀ t ∈ ts, offset ≤ t.span.start := by
  induction h with
  | separators _ => simp
  | @lexeme offset gap front rest l ts _ _ _ ih =>
    intro t ht
    rcases List.mem_cons.1 ht with rfl | ht
    · exact Nat.le_add_right _ _
    · have := ih t ht
      omega

/-- A front in another case yields the tokens in another case. -/
theorem recased {offset : Nat} {front rest : List Char} {ts : List Token}
    (h : Yields offset front rest ts) {front' rest' : List Char}
    (hfront : asciiLower front' = asciiLower front) (hrest : asciiLower rest' = asciiLower rest)
    (hinside : DifferInside offset front front' ts) :
    ∃ ts', Yields offset front' rest' ts' ∧ Forall₂ Token.Recased ts ts' := by
  induction h generalizing front' with
  | separators hgap =>
    have heq := Lexeme.gap_eq_of_asciiLower_eq hgap hfront
    subst heq
    exact ⟨[], .separators hgap, .nil⟩
  | @lexeme offset gap front rest l ts hgap hl hyields ih =>
    obtain ⟨gap', tail, rfl, hgap', htail⟩ := exists_append_of_asciiLower_eq hfront
    have heq := Lexeme.gap_eq_of_asciiLower_eq hgap hgap'
    subst heq
    obtain ⟨source, front', rfl, hsource, hfront'⟩ := exists_append_of_asciiLower_eq htail
    have hlength := length_eq_of_asciiLower_eq hsource
    have hfollow : asciiLower (front' ++ rest') = asciiLower (front ++ rest) := by
      rw [asciiLower_append, asciiLower_append, hfront', hrest]
    have hbehind := hinside.drop_front rfl
    obtain ⟨l', rfl, hlowered, hl', hliteral⟩ := hl.exists_recased hsource hfollow
      fun hcase => hbehind.source_eq hlength hcase hyields.le_start
    have hlater := (hbehind.drop_front hlength).drop_token (Nat.le_refl _)
    obtain ⟨ts', hts', halike⟩ := ih hfront' hrest hlater
    rw [← byteLength_eq_of_asciiLower_eq hsource] at hts'
    exact ⟨_, .lexeme hgap hl' hts', .cons (Lexeme.recased_tokenAt hlowered hliteral _) halike⟩

end Yields

/-- Filters that differ only inside words and quantities have tokens that differ only there. -/
theorem tokenize_recased {s s' : String} (hletters : asciiLower s'.toList = asciiLower s.toList)
    (hinside : DifferInside 0 s.toList s'.toList (tokenize s)) :
    Forall₂ Token.Recased (tokenize s) (tokenize s') := by
  obtain ⟨ts, hts⟩ := exists_yields 0 s.toList
  have htokens : tokenize s = ts ++ [.finishAt (0 + byteLength s.toList)] :=
    hts.tokensFrom_eq_append_finishAt
  have hwithin : DifferInside 0 s.toList s'.toList ts := by
    intro i hi
    obtain ⟨t, ht, hcase, hplace⟩ := hinside i hi
    rw [htokens] at ht
    rcases List.mem_append.1 ht with ht | ht
    · exact ⟨t, ht, hcase, hplace⟩
    · rw [List.mem_singleton.1 ht] at hcase
      exact absurd hcase (show ¬ TokenKind.finish.IgnoresCase by decide)
  obtain ⟨ts', hts', halike⟩ := hts.recased hletters (rfl : asciiLower [] = asciiLower []) hwithin
  have htokens' : tokenize s' = ts' ++ [.finishAt (0 + byteLength s'.toList)] :=
    hts'.tokensFrom_eq_append_finishAt
  rw [htokens, htokens', byteLength_eq_of_asciiLower_eq hletters]
  exact List.rel_append halike (.cons ⟨rfl, rfl, rfl, fun _ => rfl⟩ .nil)

end InventoryFilter
