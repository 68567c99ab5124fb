import InventoryFilter.Pattern.Standard
import InventoryFilter.Proofs.Fronts
import InventoryFilter.Proofs.Likeness

set_option autoImplicit false

/-!
# Separators between tokens

Separators may be inserted before any token of a filter, and at its end unless the filter leaves a
literal open there.  The tokens before them stay as they are, the tokens behind them only move, and
the filter is read as before: as the same expression, or to a rejection that moves with the token it
points at and says the same.
-/

namespace InventoryFilter

open Text

/-! ## Moving what stands behind a place -/

/-- The token after so many bytes have been inserted at a place: it moves, unless it begins before
the place. -/
def Token.shiftFrom (place bytes : Nat) (t : Token) : Token :=
  if t.span.start < place then t
  else { t with span := ⟨t.span.start + bytes, t.span.stop + bytes⟩ }

/-- The rejection after so many bytes have been inserted at a place: its position moves, unless it
lies before the place. -/
def Rejection.shiftFrom (place bytes : Nat) (r : Rejection) : Rejection :=
  if r.position < place then r else { r with position := r.position + bytes }

namespace Token

theorem shiftFrom_of_lt {place : Nat} {t : Token} (h : t.span.start < place) (bytes : Nat) :
    t.shiftFrom place bytes = t :=
  if_pos h

theorem shiftFrom_of_le {place : Nat} {t : Token} (h : place ≤ t.span.start) (bytes : Nat) :
    t.shiftFrom place bytes =
      { t with span := ⟨t.span.start + bytes, t.span.stop + bytes⟩ } :=
  if_neg (Nat.not_lt.2 h)

@[simp] theorem kind_shiftFrom (place bytes : Nat) (t : Token) :
    (t.shiftFrom place bytes).kind = t.kind := by
  unfold shiftFrom
  split <;> rfl

@[simp] theorem lexeme_shiftFrom (place bytes : Nat) (t : Token) :
    (t.shiftFrom place bytes).lexeme = t.lexeme := by
  unfold shiftFrom
  split <;> rfl

/-- A rejection at a token moves with it. -/
theorem rejection_shiftFrom (place bytes : Nat) (t : Token) (cause : Cause) :
    (⟨(t.shiftFrom place bytes).position, cause⟩ : Rejection) =
      Rejection.shiftFrom place bytes ⟨t.position, cause⟩ := by
  unfold shiftFrom Rejection.shiftFrom position
  split <;> rfl

theorem refuse_shiftFrom (place bytes : Nat) (t : Token) (expected : String) :
    (t.shiftFrom place bytes).refuse expected =
      (t.refuse expected).shiftFrom place bytes := by
  unfold refuse
  simp only [kind_shiftFrom, lexeme_shiftFrom, rejection_shiftFrom]
  split <;> rfl

theorem leaf?_shiftFrom [Pattern.Validator] (place bytes : Nat) (t : Token) :
    (t.shiftFrom place bytes).leaf? = t.leaf? := by
  simp only [leaf?, kind_shiftFrom, lexeme_shiftFrom]

end Token

@[simp] theorem Rejection.message_shiftFrom (place bytes : Nat) (r : Rejection) :
    (r.shiftFrom place bytes).message = r.message := by
  unfold shiftFrom
  split <;> rfl

/-! ## Tokens behind separators -/

theorem Lexeme.shiftFrom_tokenAt {l : Lexeme} {place offset : Nat} (h : place ≤ offset)
    (bytes : Nat) : (l.tokenAt offset).shiftFrom place bytes = l.tokenAt (offset + bytes) := by
  rw [Token.shiftFrom_of_le h]
  simp only [tokenAt, Nat.add_right_comm]

namespace Yields

/-- The tokens of a front begin before what follows it. -/
theorem start_lt {offset : Nat} {front rest : List Char} {ts : List Token}
    (h : Yields offset front rest ts) : ∀ t ∈ ts, t.span.start < offset + byteLength front := by
  induction h with
  | separators _ => simp
  | @lexeme offset gap front rest l ts _ hl _ ih =>
    obtain ⟨c, cs, hsource, _⟩ := hl
    have hpos := c.utf8Size_pos
    have hlength : byteLength l.source = c.utf8Size + byteLength cs := by rw [hsource]; rfl
    intro t ht
    simp only [byteLength_append]
    rcases List.mem_cons.1 ht with rfl | ht
    · simp only [Lexeme.tokenAt]
      omega
    · have := ih t ht
      omega

/-- A text that begins later yields the same tokens, later by the same distance. -/
theorem shift {offset place : Nat} {front rest : List Char} {ts : List Token}
    (h : Yields offset front rest ts) (hplace : place ≤ offset) (bytes : Nat) :
    Yields (offset + bytes) front rest (ts.map (·.shiftFrom place bytes)) := by
  induction h with
  | separators hgap => exact .separators hgap
  | @lexeme offset gap front rest l ts hgap hl _ ih =>
    have hcomm : offset + byteLength gap + byteLength l.source + bytes =
        offset + bytes + byteLength gap + byteLength l.source := by omega
    have hfront := ih (by omega)
    rw [hcomm] at hfront
    rw [List.map_cons, Lexeme.shiftFrom_tokenAt (by omega), Nat.add_right_comm]
    exact .lexeme hgap hl hfront

end Yields

theorem tokensFrom_add {offset place : Nat} (hplace : place ≤ offset) (bytes : Nat)
    (cs : List Char) :
    tokensFrom (offset + bytes) cs = (tokensFrom offset cs).map (·.shiftFrom place bytes) := by
  obtain ⟨ts, hts⟩ := exists_yields offset cs
  have hfinish : (Token.finishAt (offset + byteLength cs)).shiftFrom place bytes =
      .finishAt (offset + bytes + byteLength cs) := by
    rw [Token.shiftFrom_of_le (Nat.le_trans hplace (Nat.le_add_right _ _))]
    simp only [Token.finishAt, Span.at, Nat.add_right_comm]
  rw [hts.tokensFrom_eq_append_finishAt, (hts.shift hplace bytes).tokensFrom_eq_append_finishAt,
    List.map_append, List.map_singleton, hfinish]

/-- Separators between a front without an open literal and what follows it only move the tokens
that follow. -/
theorem Yields.tokensFrom_insert {front rest gap : List Char} {ts : List Token}
    (h : Yields 0 front rest ts)
    (hclosed : ∀ t ∈ ts, ¬ Lexeme.Unclosed t.kind t.lexeme.toList)
    (hgap : ∀ c ∈ gap, isSeparator c = true) :
    tokensFrom 0 (front ++ (gap ++ rest)) =
      (tokensFrom 0 (front ++ rest)).map (·.shiftFrom (byteLength front) (byteLength gap)) := by
  have hmore : Lexeme.OffersNoMore (gap ++ rest) rest := by
    cases gap with
    | nil => exact .refl rest
    | cons c gap => exact (Lexeme.Breaks.separator (hgap c (by simp)) _).offersNoMore _
  have hstay : ts.map (·.shiftFrom (byteLength front) (byteLength gap)) = ts := by
    refine (List.map_congr_left fun t ht => ?_).trans (List.map_id ts)
    have hlt := h.start_lt t ht
    exact Token.shiftFrom_of_lt (by omega) _
  rw [(h.of_offersNoMore hmore hclosed).1.tokensFrom_eq, h.tokensFrom_eq, List.map_append, hstay,
    tokensFrom_append _ hgap, tokensFrom_add (Nat.le_of_eq (Nat.zero_add _).symm)]

/-- Whether separators may be inserted at the place: a token begins there, or the filter ends there
and its last token is no literal left open. -/
def MaySeparate (input : String) (place : Nat) : Prop :=
  (∃ t ∈ tokenize input, t.kind ≠ .finish ∧ t.span.start = place) ∨
    place = input.utf8ByteSize ∧ ∀ t ∈ ((tokenize input).takeWhile (!·.isFinish)).getLast?,
      ¬ Lexeme.Unclosed t.kind t.lexeme.toList

/-- A place where separators may be inserted cuts the filter behind a front that has no open
literal. -/
theorem MaySeparate.exists_yields {input : String} {place : Nat} (h : MaySeparate input place) :
    ∃ front rest ts, input.toList = front ++ rest ∧ byteLength front = place ∧
      Yields 0 front rest ts ∧ ∀ t ∈ ts, ¬ Lexeme.Unclosed t.kind t.lexeme.toList := by
  obtain ⟨ts, hts⟩ := InventoryFilter.exists_yields 0 input.toList
  have htokens : tokenize input = ts ++ [.finishAt (0 + byteLength input.toList)] :=
    hts.tokensFrom_eq_append_finishAt
  rcases h with ⟨t, ht, hkind, hstart⟩ | ⟨hplace, hlast⟩
  · have hmem : t ∈ ts := by
      rw [htokens] at ht
      rcases List.mem_append.1 ht with ht | ht
      · exact ht
      · rw [List.mem_singleton.1 ht] at hkind
        exact absurd rfl hkind
    obtain ⟨front, rest, us, hfront, hne, hstart', hus⟩ := hts.exists_front hmem
    rw [List.append_nil] at hus
    refine ⟨front, rest, us, hfront, by omega, hus, ?_⟩
    intro u hu hopen
    exact hne (hus.eq_nil_of_unclosed hu hopen).1
  · refine ⟨input.toList, [], ts, (List.append_nil _).symm, ?_, hts, ?_⟩
    · rw [hplace, byteLength_toList]
    · intro t ht hopen
      have htake : (tokenize input).takeWhile (!·.isFinish) = ts := hts.takeWhile_tokensFrom
      refine hlast t ?_ hopen
      rw [htake, (hts.eq_nil_of_unclosed ht hopen).2]
      rfl

section

variable [Pattern.Validator]

/-! ## Filters behind separators -/

/-- Tokens are alike if they differ by what has been inserted at the place. -/
def Likeness.shifted (place bytes : Nat) : Likeness where
  token t u := u = t.shiftFrom place bytes
  expr := Eq
  rejection r r' := r' = r.shiftFrom place bytes
  kind_eq := by
    rintro t u rfl
    simp
  leaf := by
    rintro t u r r' rfl hr hr'
    rw [Token.leaf?_shiftFrom, hr] at hr'
    cases hr'
    cases r with
    | ok e => exact .ok rfl
    | error cause => exact .error (t.rejection_shiftFrom place bytes cause)
  binary := by
    rintro left _ right _ op rfl rfl
    rfl
  refuse := by
    rintro t u expected rfl
    exact t.refuse_shiftFrom place bytes expected
  reject := by
    rintro t u cause rfl
    exact t.rejection_shiftFrom place bytes cause

/-- A filter whose tokens have moved is read as before. -/
theorem parse_of_tokenize_shiftFrom {s s' : String} {place bytes : Nat}
    (h : tokenize s' = (tokenize s).map (·.shiftFrom place bytes)) :
    parse s' = (parse s).mapError (·.shiftFrom place bytes) := by
  have htokens : List.Forall₂ (Likeness.shifted place bytes).token (tokenize s) (tokenize s') := by
    rw [h]
    exact List.forall₂_map_right_iff.2 (List.forall₂_same.2 fun t _ => rfl)
  have hparse := Likeness.parse_alike htokens
  generalize parse s = r, parse s' = r' at hparse
  cases hparse with
  | ok h => exact congrArg Except.ok h.symm
  | error h => exact congrArg Except.error h

/-- Separators inserted where they may be only move the tokens behind them, and the filter is read
as before: as the same expression, or to a rejection that says the same. -/
theorem tokenize_insert_separators (input : String) (place : Nat) (h : MaySeparate input place) :
    ∃ before after : String, input = before ++ after ∧ before.utf8ByteSize = place ∧
      ∀ gap : String, (∀ c ∈ gap.toList, c = ' ' ∨ c = '\t' ∨ c = '\r' ∨ c = '\n') →
        tokenize (before ++ gap ++ after) =
            (tokenize input).map (·.shiftFrom place gap.utf8ByteSize) ∧
          parse (before ++ gap ++ after) =
            (parse input).mapError (·.shiftFrom place gap.utf8ByteSize) ∧
          (parse (before ++ gap ++ after)).mapError (·.message) =
            (parse input).mapError (·.message) := by
  obtain ⟨front, rest, ts, hinput, hplace, hts, hclosed⟩ := h.exists_yields
  have hsplit : input = String.ofList front ++ String.ofList rest := by
    rw [← String.ofList_append, ← hinput, String.ofList_toList]
  refine ⟨.ofList front, .ofList rest, hsplit, ?_, ?_⟩
  · rw [← byteLength_toList, String.toList_ofList, hplace]
  intro gap hgap
  have hsep : ∀ c ∈ gap.toList, isSeparator c = true := by
    intro c hc
    simpa [isSeparator, or_assoc] using hgap c hc
  have htokens : tokenize (String.ofList front ++ gap ++ String.ofList rest) =
      (tokenize input).map (·.shiftFrom place gap.utf8ByteSize) := by
    have hinsert := hts.tokensFrom_insert hclosed hsep
    rw [← hinput, hplace, byteLength_toList] at hinsert
    rw [tokenize_eq_tokensFrom, tokenize_eq_tokensFrom, ← hinsert]
    simp
  have hparse := parse_of_tokenize_shiftFrom htokens
  refine ⟨htokens, hparse, ?_⟩
  rw [hparse]
  cases parse input with
  | ok e => rfl
  | error r => exact congrArg Except.error (r.message_shiftFrom _ _)

end

open scoped Pattern.Standard in
/-- Behind a number, separators may even stand in front of letters. -/
theorem tokenize_insert_separators_number :
    let input := "x<1.5gbit"
    MaySeparate input 5 ∧
      ∃ before after : String, input = before ++ after ∧ before.utf8ByteSize = 5 ∧
        tokenize (before ++ "\t\r\n" ++ after) = (tokenize input).map (·.shiftFrom 5 3) ∧
        parse (before ++ "\t\r\n" ++ after) = (parse input).mapError (·.shiftFrom 5 3) ∧
        (parse (before ++ "\t\r\n" ++ after)).mapError (·.message) =
          (parse input).mapError (·.message) := by
  intro input
  have hplace : MaySeparate input 5 :=
    .inl ⟨⟨.identifier, ⟨5, 9⟩, "gbit"⟩, by decide +kernel, nofun, rfl⟩
  obtain ⟨before, after, hinput, hsize, hinsert⟩ := tokenize_insert_separators input 5 hplace
  exact ⟨hplace, before, after, hinput, hsize, hinsert "\t\r\n" (by simp)⟩

end InventoryFilter
