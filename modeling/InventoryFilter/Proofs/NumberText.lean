import InventoryFilter.Json.Printer
import InventoryFilter.Json.Reader
import InventoryFilter.Proofs.ReadBack
import InventoryFilter.Proofs.TokenGrammar

set_option autoImplicit false

/-!
# Reading numbers back

A number that is written with a layout is read again as a decimal of the same sign and value.  Only
the spelling can differ: a whole number is written with a point and a zero behind it, and is read
with that zero as one more digit.
-/

namespace InventoryFilter

open Lexical (IsDigits)

namespace Decimal

/-! ## Digits -/

theorem ofDigits_append (cs ds : List Char) :
    ofDigits (cs ++ ds) = ofDigits cs * Nat.pow 10 ds.length + ofDigits ds := by
  unfold ofDigits
  rw [Nat.ofDigitChars_append, Nat.ofDigitChars_eq_ofDigitChars_zero, Nat.mul_comm, Nat.pow_eq]

theorem ofDigits_toDigits (n : Nat) : ofDigits (Nat.toDigits 10 n) = n :=
  Nat.ofDigitChars_toDigits (by decide) (by decide)

theorem ofDigits_zeros (n : Nat) : ofDigits (List.replicate n '0') = 0 := by
  rw [ofDigits, Nat.ofDigitChars_replicate_zero, Nat.mul_zero]

theorem isDigits_toDigits (n : Nat) : IsDigits (Nat.toDigits 10 n) :=
  ⟨Nat.toDigits_ne_nil, fun _ hc => Nat.isDigit_of_mem_toDigits (by decide) (by decide) hc⟩

theorem isDigit_of_mem_zeros {n : Nat} {c : Char} (hc : c ∈ List.replicate n '0') :
    c.isDigit = true := by
  rw [List.eq_of_mem_replicate hc]
  rfl

theorem isDigits_append {cs ds : List Char} (hne : cs ++ ds ≠ []) (hcs : ∀ c ∈ cs, c.isDigit = true)
    (hds : ∀ c ∈ ds, c.isDigit = true) : IsDigits (cs ++ ds) :=
  ⟨hne, fun c hc => (List.mem_append.1 hc).elim (hcs c) (hds c)⟩

/-- Only zero is written with a leading zero. -/
theorem head?_toDigits {n : Nat} (hn : n ≠ 0) : (Nat.toDigits 10 n).head? ≠ some '0' := by
  induction n using Nat.strongRecOn with
  | ind n ih =>
    by_cases hsmall : n < 10
    · rw [Nat.toDigits_of_lt_base hsmall]
      intro hzero
      exact hn (Nat.digitChar_eq_zero.1 (Option.some.inj hzero))
    · obtain ⟨c, cs, hcs⟩ := List.exists_cons_of_ne_nil
        (Nat.toDigits_ne_nil : Nat.toDigits 10 (n / 10) ≠ [])
      have hrest := ih (n / 10) (by omega) (by omega)
      rw [hcs] at hrest
      rw [Nat.toDigits_of_base_le (by decide) (by omega), hcs]
      exact hrest

/-! ## The decimal that is read -/

/-- The decimal as it is spelled with a layout: zero and whole numbers have one place after the
point unless they have an exponent. -/
def respelled (layout : Layout) (d : Decimal) : Decimal :=
  let place := d.exponent + (Nat.toDigits 10 d.digits).length - 1
  if d.digits = 0 then ⟨d.negative, 0, -1⟩
  else if (layout.plainFrom ≤ place ∧ place < layout.plainBelow) ∧ 0 ≤ d.exponent then
    ⟨d.negative, d.digits * Nat.pow 10 (d.exponent.toNat + 1), -1⟩
  else d

/-- Spelling a decimal does not change the number that it is read as. -/
theorem ofDecimal_respelled (layout : Layout) (d : Decimal) :
    Binary64.ofDecimal (d.respelled layout) = Binary64.ofDecimal d := by
  obtain ⟨negative, digits, exponent⟩ := d
  unfold respelled
  simp only
  split
  · next hzero =>
    subst hzero
    exact ofDecimal_eq_of_nearest_eq rfl ((nearest_zero _ _).trans (nearest_zero _ _).symm)
  · split
    · next hwhole =>
      refine ofDecimal_eq_of_nearest_eq rfl ?_
      rw [← nearest_shift negative negative digits (exponent.toNat + 1) exponent]
      have hplace : exponent - (exponent.toNat + 1 : Nat) = -1 := by omega
      rw [hplace]
    · rfl

end Decimal

namespace Json

open Decimal

/-! ## The parts of a number -/

/-- Text that does not go on with the number before it. -/
def EndsNumber (after : List Char) : Prop :=
  ∀ c ∈ after.head?, c.isDigit = false ∧ c ≠ '.' ∧ c ≠ 'e' ∧ c ≠ 'E'

theorem EndsNumber.isDigit {after : List Char} (h : EndsNumber after) :
    ∀ c ∈ after.head?, c.isDigit = false :=
  fun c hc => (h c hc).1

theorem readWhole?_run {digits after : List Char} (hdigits : IsDigits digits)
    (hlead : digits.head? = some '0' → digits = ['0'])
    (hafter : ∀ c ∈ after.head?, c.isDigit = false) :
    readWhole? (digits ++ after) = some (digits, after) := by
  unfold readWhole?
  split
  · next rest hcs =>
    cases digits with
    | nil => exact absurd rfl hdigits.1
    | cons c cs =>
      obtain ⟨rfl, rfl⟩ := List.cons.inj hcs
      cases hlead rfl
      rfl
  · rw [(span_run hdigits.2 hafter).1, (span_run hdigits.2 hafter).2]
    cases digits with
    | nil => exact absurd rfl hdigits.1
    | cons c cs => rfl

theorem readFraction?_run {digits after : List Char} (hdigits : IsDigits digits)
    (hafter : ∀ c ∈ after.head?, c.isDigit = false) :
    readFraction? ('.' :: (digits ++ after)) = some (digits, after) := by
  simp only [readFraction?]
  rw [(span_run hdigits.2 hafter).1, (span_run hdigits.2 hafter).2]
  cases digits with
  | nil => exact absurd rfl hdigits.1
  | cons c cs => rfl

theorem readFraction?_absent {after : List Char} (hafter : ∀ c ∈ after.head?, c ≠ '.') :
    readFraction? after = some ([], after) := by
  unfold readFraction?
  split
  · exact absurd rfl (hafter '.' rfl)
  · rfl

theorem readExponent?_absent {after : List Char} (hafter : EndsNumber after) :
    readExponent? after = some (0, after) := by
  unfold readExponent?
  split
  · exact absurd rfl (hafter 'e' rfl).2.2.1
  · exact absurd rfl (hafter 'E' rfl).2.2.2
  · rfl

theorem readSignedDigits?_run (negative : Bool) {digits after : List Char}
    (hdigits : IsDigits digits) (hafter : ∀ c ∈ after.head?, c.isDigit = false) :
    readSignedDigits? ((if negative then '-' else '+') :: (digits ++ after)) =
      some (if negative then -(ofDigits digits : Int) else ofDigits digits, after) := by
  have hspan := span_run hdigits.2 hafter
  cases digits with
  | nil => exact absurd rfl hdigits.1
  | cons c cs =>
    rw [List.cons_append] at hspan
    cases negative <;> simp [readSignedDigits?, hspan.1, hspan.2]

theorem exponentMark_eq (place : Int) :
    exponentMark numberLayout place =
      'e' :: (if decide (place < 0) then '-' else '+') :: Nat.toDigits 10 place.natAbs := by
  by_cases hneg : place < 0 <;> simp [exponentMark, numberLayout, hneg]

theorem readExponent?_mark (place : Int) {after : List Char}
    (hafter : ∀ c ∈ after.head?, c.isDigit = false) :
    readExponent? (exponentMark numberLayout place ++ after) = some (place, after) := by
  rw [exponentMark_eq]
  refine (readSignedDigits?_run (decide (place < 0)) (isDigits_toDigits _) hafter).trans ?_
  rw [ofDigits_toDigits]
  by_cases hneg : place < 0
  · simp only [hneg, decide_true, if_true]
    rw [show -(place.natAbs : Int) = place by omega]
  · simp only [hneg, decide_false, Bool.false_eq_true, if_false]
    rw [show (place.natAbs : Int) = place by omega]

/-! ## Numbers -/

/-- Digits on both sides of a point, and what is read as an exponent. -/
theorem readNumber?_point (negative : Bool) {whole fraction tail after : List Char} {exponent : Int}
    (hwhole : IsDigits whole) (hlead : whole.head? = some '0' → whole = ['0'])
    (hfraction : IsDigits fraction) (htail : ∀ c ∈ tail.head?, c.isDigit = false)
    (hexponent : readExponent? tail = some (exponent, after)) :
    readNumber? negative (whole ++ '.' :: (fraction ++ tail)) =
      some (number ⟨negative, ofDigits (whole ++ fraction), -fraction.length + exponent⟩,
        after) := by
  have hpoint : ∀ c ∈ ('.' :: (fraction ++ tail)).head?, c.isDigit = false := by
    rintro _ ⟨rfl⟩
    rfl
  simp [readNumber?, readWhole?_run hwhole hlead hpoint, readFraction?_run hfraction htail,
    hexponent, ofParts]

/-- Digits without a point, and what is read as an exponent. -/
theorem readNumber?_whole (negative : Bool) {whole tail after : List Char} {exponent : Int}
    (hwhole : IsDigits whole) (hlead : whole.head? = some '0' → whole = ['0'])
    (htail : ∀ c ∈ tail.head?, c.isDigit = false ∧ c ≠ '.')
    (hexponent : readExponent? tail = some (exponent, after)) :
    readNumber? negative (whole ++ tail) =
      some (number ⟨negative, ofDigits whole, exponent⟩, after) := by
  simp [readNumber?, readWhole?_run hwhole hlead (fun c hc => (htail c hc).1),
    readFraction?_absent (fun c hc => (htail c hc).2), hexponent, ofParts]

theorem ofDigits_zero_cons (cs : List Char) : ofDigits ('0' :: cs) = ofDigits cs := rfl

/-- Digits behind the point, after any number of zeros. -/
theorem readNumber?_fraction (negative : Bool) (zeros n : Nat) {after : List Char}
    (hafter : EndsNumber after) :
    readNumber? negative ('0' :: '.' :: (List.replicate zeros '0' ++ Nat.toDigits 10 n ++ after)) =
      some (number ⟨negative, n, -(zeros + (Nat.toDigits 10 n).length : Nat)⟩, after) := by
  have hfraction : IsDigits (List.replicate zeros '0' ++ Nat.toDigits 10 n) :=
    isDigits_append (by simp [Nat.toDigits_ne_nil]) (fun _ => isDigit_of_mem_zeros)
      (isDigits_toDigits n).2
  have hzero : IsDigits ['0'] := isDigits_toDigits 0
  refine (readNumber?_point negative hzero (fun _ => rfl) hfraction hafter.isDigit
    (readExponent?_absent hafter)).trans ?_
  simp [ofDigits_zero_cons, ofDigits_append, ofDigits_zeros, ofDigits_toDigits]

/-- A whole number, with zeros behind its digits and one zero behind the point. -/
theorem readNumber?_zeros (negative : Bool) {n : Nat} (hn : n ≠ 0) (zeros : Nat)
    {after : List Char} (hafter : EndsNumber after) :
    readNumber? negative
        (Nat.toDigits 10 n ++ List.replicate zeros '0' ++ '.' :: (['0'] ++ after)) =
      some (number ⟨negative, n * Nat.pow 10 (zeros + 1), -1⟩, after) := by
  have hwhole : IsDigits (Nat.toDigits 10 n ++ List.replicate zeros '0') :=
    isDigits_append (by simp [Nat.toDigits_ne_nil]) (isDigits_toDigits n).2
      (fun _ => isDigit_of_mem_zeros)
  have hlead : (Nat.toDigits 10 n ++ List.replicate zeros '0').head? ≠ some '0' := by
    obtain ⟨c, cs, hcs⟩ := List.exists_cons_of_ne_nil (Nat.toDigits_ne_nil : Nat.toDigits 10 n ≠ [])
    have hhead := head?_toDigits hn
    rw [hcs] at hhead ⊢
    exact hhead
  have hzero : IsDigits ['0'] := isDigits_toDigits 0
  refine (readNumber?_point negative hwhole (fun h => absurd h hlead) hzero hafter.isDigit
    (readExponent?_absent hafter)).trans ?_
  have hvalue : ofDigits (Nat.toDigits 10 n ++ List.replicate zeros '0' ++ ['0']) =
      n * Nat.pow 10 (zeros + 1) := by
    rw [ofDigits_append, ofDigits_append, ofDigits_toDigits, ofDigits_zeros, List.length_replicate]
    exact Nat.mul_assoc n (Nat.pow 10 zeros) 10
  rw [hvalue]
  rfl

/-- A point between the digits. -/
theorem readNumber?_split (negative : Bool) {n : Nat} (hn : n ≠ 0) {whole : Nat}
    (hwhole : 0 < whole) (hsplit : whole < (Nat.toDigits 10 n).length) {tail after : List Char}
    {exponent : Int} (htail : ∀ c ∈ tail.head?, c.isDigit = false)
    (hexponent : readExponent? tail = some (exponent, after)) :
    readNumber? negative
        ((Nat.toDigits 10 n).take whole ++ '.' :: ((Nat.toDigits 10 n).drop whole ++ tail)) =
      some (number ⟨negative, n, whole - (Nat.toDigits 10 n).length + exponent⟩, after) := by
  have hdigits := (isDigits_toDigits n).2
  have hlead : ((Nat.toDigits 10 n).take whole).head? ≠ some '0' := by
    rw [List.head?_take, if_neg (Nat.ne_of_gt hwhole)]
    exact head?_toDigits hn
  have hfirst : IsDigits ((Nat.toDigits 10 n).take whole) :=
    ⟨List.ne_nil_of_length_pos (by simp; omega), fun c hc => hdigits c (List.mem_of_mem_take hc)⟩
  have hsecond : IsDigits ((Nat.toDigits 10 n).drop whole) :=
    ⟨List.ne_nil_of_length_pos (by simp; omega), fun c hc => hdigits c (List.mem_of_mem_drop hc)⟩
  refine (readNumber?_point negative hfirst (fun h => absurd h hlead) hsecond htail
    hexponent).trans ?_
  have hplaces : -(((Nat.toDigits 10 n).drop whole).length : Int) =
      whole - (Nat.toDigits 10 n).length := by
    rw [List.length_drop]
    omega
  rw [List.take_append_drop, ofDigits_toDigits, hplaces]

/-- Positional digits are read at their places. -/
theorem readNumber?_positional (negative : Bool) {n : Nat} (hn : n ≠ 0) (place : Int)
    {after : List Char} (hafter : EndsNumber after) :
    readNumber? negative (positional (Nat.toDigits 10 n) place ++ after) =
      some (number
        (if 0 ≤ place + 1 - (Nat.toDigits 10 n).length then
          ⟨negative, n * Nat.pow 10 ((place + 1 - (Nat.toDigits 10 n).length).toNat + 1), -1⟩
        else ⟨negative, n, place + 1 - (Nat.toDigits 10 n).length⟩), after) := by
  have hpos : 0 < (Nat.toDigits 10 n).length := Nat.length_toDigits_pos
  unfold positional
  split
  · next hneg =>
    -- all digits stand behind the point
    have hread := readNumber?_fraction negative (-place - 1).toNat n hafter
    have hplaces : -(((-place - 1).toNat + (Nat.toDigits 10 n).length : Nat) : Int) =
        place + 1 - (Nat.toDigits 10 n).length := by
      omega
    rw [hplaces] at hread
    rw [if_neg (by omega)]
    exact hread
  · simp only
    split
    · next hwhole =>
      -- all digits stand before the point, with zeros up to it
      have hread := readNumber?_zeros negative hn
        (place.toNat + 1 - (Nat.toDigits 10 n).length) hafter
      have hzeros : (place + 1 - (Nat.toDigits 10 n).length).toNat =
          place.toNat + 1 - (Nat.toDigits 10 n).length := by
        omega
      rw [if_pos (by omega), hzeros, List.append_assoc]
      exact hread
    · next hsplit =>
      have hread := readNumber?_split negative hn (Nat.succ_pos place.toNat)
        (Nat.lt_of_not_le hsplit) hafter.isDigit (readExponent?_absent hafter)
      have hplaces : ((place.toNat + 1 : Nat) : Int) - (Nat.toDigits 10 n).length + 0 =
          place + 1 - (Nat.toDigits 10 n).length := by
        omega
      rw [hplaces] at hread
      rw [if_neg (by omega), List.append_assoc]
      exact hread

/-- A number with an exponent is read with the place of its last digit as exponent. -/
theorem readNumber?_scientific (negative : Bool) {n : Nat} (hn : n ≠ 0) (place : Int)
    {after : List Char} (hafter : EndsNumber after) :
    readNumber? negative (scientific numberLayout (Nat.toDigits 10 n) place ++ after) =
      some (number ⟨negative, n, place + 1 - (Nat.toDigits 10 n).length⟩, after) := by
  have hexponent := readExponent?_mark place hafter.isDigit
  have hmark : ∀ c ∈ (exponentMark numberLayout place ++ after).head?,
      c.isDigit = false ∧ c ≠ '.' := by
    rintro _ ⟨rfl⟩
    exact ⟨rfl, by decide⟩
  cases hdigits : Nat.toDigits 10 n with
  | nil => exact absurd hdigits Nat.toDigits_ne_nil
  | cons first more =>
    cases more with
    | nil =>
      have hread := readNumber?_whole negative (isDigits_toDigits n)
        (fun h => absurd h (head?_toDigits hn)) hmark hexponent
      rw [ofDigits_toDigits, hdigits] at hread
      refine hread.trans ?_
      rw [List.length_singleton, show place + 1 - (1 : Nat) = place by omega]
    | cons second more =>
      have hread := readNumber?_split negative hn Nat.one_pos
        (by rw [hdigits]; exact Nat.succ_lt_succ (Nat.succ_pos _)) (fun c hc => (hmark c hc).1)
        hexponent
      rw [hdigits] at hread
      rw [show ((1 : Nat) : Int) - (first :: second :: more).length + place =
        place + 1 - (first :: second :: more).length by omega] at hread
      simpa [scientific] using hread

/-- A number is read back as it is spelled, up to the first character that does not belong to it. -/
theorem readNumber?_magnitudeText (d : Decimal) {after : List Char} (hafter : EndsNumber after) :
    readNumber? d.negative (d.magnitudeText numberLayout ++ after) =
      some (number (d.respelled numberLayout), after) := by
  obtain ⟨negative, digits, exponent⟩ := d
  unfold magnitudeText respelled
  simp only
  have hexponent : exponent + (Nat.toDigits 10 digits).length - 1 + 1 -
      (Nat.toDigits 10 digits).length = exponent := by
    omega
  by_cases hzero : digits = 0
  · simp only [if_pos hzero]
    exact readNumber?_fraction negative 0 0 hafter
  · simp only [if_neg hzero]
    split
    · next hplain =>
      rw [readNumber?_positional negative hzero _ hafter, hexponent]
      simp only [hplain, true_and]
    · next hplain =>
      rw [readNumber?_scientific negative hzero _ hafter, hexponent, if_neg (fun h => hplain h.1)]

end Json

end InventoryFilter
