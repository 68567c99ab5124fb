import InventoryFilter.Proofs.NumberText
import InventoryFilter.Quantity.Reader

set_option autoImplicit false

/-!
# The amounts of quantities

A quantity that is spelled without a sign has no sign, neither as it stands nor in megabytes, and
is written as digits, a point and two more digits.
-/

namespace InventoryFilter

theorem Text.isAlpha_eq_false_of_isDigit {c : Char} (h : c.isDigit = true) :
    c.isAlpha = false := by
  have hdigit : 48 ≤ c.toNat ∧ c.toNat ≤ 57 := Char.isDigit_iff_toNat.1 h
  have hval : c.val.toNat = c.toNat := rfl
  -- letters of both cases come after the digits
  have hletter : ∀ first : UInt32, 57 < first.toNat → ¬ first ≤ c.val := by
    intro first hfirst hle
    rw [UInt32.le_iff_toNat_le] at hle
    omega
  rw [Bool.eq_false_iff]
  intro halpha
  rcases Bool.or_eq_true_iff.1 halpha with hupper | hlower
  · exact hletter 'A'.val (by decide) (of_decide_eq_true hupper).1
  · exact hletter 'a'.val (by decide) (of_decide_eq_true (Bool.and_eq_true_iff.1 hlower).1)

theorem StorageUnit.isAlpha_of_mem_suffix (unit : StorageUnit) :
    ∀ c ∈ unit.suffix.toList, c.isAlpha = true := by
  have hall : unit.suffix.toList.all Char.isAlpha = true := by cases unit <;> rfl
  exact List.all_eq_true.1 hall

open Lexical (IsDigits)

namespace Binary64

/-- The digits of a fixed count of places are the count that was written. -/
theorem exists_fixedDigits_eq {places : Nat} (hplaces : 0 < places) (n : Nat) :
    ∃ whole fraction, fixedDigits places n = whole ++ '.' :: fraction ∧
      IsDigits whole ∧ IsDigits fraction ∧ fraction.length = places ∧
      Decimal.ofDigits (whole ++ fraction) = n := by
  have hlength : (Nat.toDigits 10 (n % Nat.pow 10 places)).length ≤ places :=
    (Nat.length_toDigits_le_iff (by decide) hplaces).2 (Nat.mod_lt _ (Nat.pow_pos (by decide)))
  have hfraction :
      (List.replicate (places - (Nat.toDigits 10 (n % Nat.pow 10 places)).length) '0' ++
        Nat.toDigits 10 (n % Nat.pow 10 places)).length = places := by
    rw [List.length_append, List.length_replicate]
    omega
  refine ⟨Nat.toDigits 10 (n / Nat.pow 10 places), _, ?_, Decimal.isDigits_toDigits _,
    Decimal.isDigits_append ?_ (fun _ => Decimal.isDigit_of_mem_zeros)
      (Decimal.isDigits_toDigits _).2, hfraction, ?_⟩
  · simp [fixedDigits]
  · simp [Nat.toDigits_ne_nil]
  · rw [Decimal.ofDigits_append, hfraction, Decimal.ofDigits_append, Decimal.ofDigits_zeros,
      Nat.zero_mul, Nat.zero_add, Decimal.ofDigits_toDigits, Decimal.ofDigits_toDigits]
    exact Nat.div_add_mod' n (Nat.pow 10 places)

/-- Some digits, a point, and as many digits as there are places. -/
def FixedForm (places : Nat) (cs : List Char) : Prop :=
  ∃ whole fraction, cs = whole ++ '.' :: fraction ∧
    whole ≠ [] ∧ (∀ c ∈ whole, c.isDigit = true) ∧
    fraction.length = places ∧ ∀ c ∈ fraction, c.isDigit = true

theorem fixedDigits_form {places : Nat} (hplaces : 0 < places) (n : Nat) :
    FixedForm places (fixedDigits places n) := by
  obtain ⟨whole, fraction, htext, hwhole, hfraction, hlength, _⟩ := exists_fixedDigits_eq hplaces n
  exact ⟨whole, fraction, htext, hwhole.1, hwhole.2, hlength, hfraction.2⟩

theorem fixed_form {places : Nat} (hplaces : 0 < places) (rank : Fin (2047 * Nat.pow 2 52)) :
    FixedForm places (fixed places (finite false rank)).toList := by
  simpa [fixed] using fixedDigits_form hplaces (scaledRank places rank)

theorem eq_finite_of_isFinite_ofRatio {negative : Bool} {num den : Nat}
    (h : (ofRatio negative num den).isFinite = true) :
    ∃ rank, ofRatio negative num den = finite negative rank := by
  unfold ofRatio at h ⊢
  simp only at h ⊢
  split at h
  · next hrank => exact ⟨_, by rw [dif_pos hrank]⟩
  · cases h

/-- A finite product of a number without a sign and a rounded quotient without a sign has no
sign. -/
theorem eq_finite_of_isFinite_mul {rank : Fin (2047 * Nat.pow 2 52)} {num den : Nat}
    (h : ((finite false rank).mul (ofRatio false num den)).isFinite = true) :
    ∃ rank', (finite false rank).mul (ofRatio false num den) = finite false rank' := by
  unfold ofRatio at h ⊢
  simp only at h ⊢
  split at h
  · next hrank =>
    rw [dif_pos hrank]
    simp only [mul, bne_self_eq_false] at h ⊢
    exact eq_finite_of_isFinite_ofRatio h
  · simp only [mul] at h
    split at h <;> cases h

end Binary64

namespace Quantity

/-- Whether the quantity has no sign, neither as it stands nor in megabytes, and is finite. -/
def Unsigned (q : Quantity) : Prop :=
  (∃ rank, q.value = .finite false rank) ∧ ∃ rank, q.baseline = .finite false rank

/-- Without a sign, a finite quantity is written with a digit first. -/
theorem exists_isDigit_text {q : Quantity} {rank : Fin (2047 * Nat.pow 2 52)}
    (hvalue : q.value = .finite false rank) :
    ∃ c cs, q.text.toList = c :: cs ∧ c.isDigit = true := by
  have hplaces : 0 < places := by decide
  obtain ⟨whole, fraction, htext, hne, hdigits, _⟩ := Binary64.fixed_form hplaces rank
  obtain ⟨c, cs, rfl⟩ := List.exists_cons_of_ne_nil hne
  refine ⟨c, cs ++ '.' :: fraction ++ q.unit.suffix.toList, ?_, hdigits c (by simp)⟩
  rw [text, hvalue, String.toList_append, htext]
  rfl

theorem negative_of_readMagnitude? {negative : Bool} {cs : List Char} {d : Decimal}
    (h : readMagnitude? negative cs = some d) : d.negative = negative := by
  unfold readMagnitude? at h
  simp only at h
  split at h
  · split at h
    · cases h
    · cases h; rfl
  · split at h
    · cases h; rfl
    · cases h

/-- A number that begins with a digit has no sign. -/
theorem negative_of_readNumber? {c : Char} {cs : List Char} {d : Decimal}
    (hdigit : c.isDigit = true) (h : readNumber? (c :: cs) = some d) : d.negative = false := by
  unfold readNumber? at h
  split at h
  · exact negative_of_readMagnitude? h
  · next hcs =>
    cases hcs
    exact absurd hdigit (by decide)
  · exact negative_of_readMagnitude? h

/-- The last check of a quantity: it must be finite, as it stands and in megabytes. -/
def checkRange (text : String) (q : Quantity) : Except QuantityFault Quantity :=
  if q.value.isFinite && q.baseline.isFinite then .ok q else .error (.outOfRange text)

theorem checkRange_eq_ok_iff {text : String} {q r : Quantity} :
    checkRange text q = .ok r ↔
      q = r ∧ r.value.isFinite = true ∧ r.baseline.isFinite = true := by
  unfold checkRange
  constructor
  · intro h
    split at h
    · next hfinite =>
      cases h
      exact ⟨rfl, Bool.and_eq_true_iff.1 hfinite⟩
    · cases h
  · rintro ⟨rfl, hfinite⟩
    rw [if_pos (Bool.and_eq_true_iff.2 hfinite)]

theorem ofText_eq (text : String) :
    ofText text =
      match readUnit? (text.toList.dropWhile (!·.isAlpha)),
        readNumber? (text.toList.takeWhile (!·.isAlpha)) with
      | some unit, some number => checkRange text ⟨.ofDecimal number, unit⟩
      | _, _ => .error (.malformed text) := rfl

/-- A text is a quantity exactly if its letters name a unit, the rest is a number, and number and
megabytes are finite. -/
theorem ofText_eq_ok_iff {text : String} {q : Quantity} :
    ofText text = .ok q ↔
      ∃ number, readUnit? (text.toList.dropWhile (!·.isAlpha)) = some q.unit ∧
        readNumber? (text.toList.takeWhile (!·.isAlpha)) = some number ∧
        q.value = .ofDecimal number ∧ q.value.isFinite = true ∧ q.baseline.isFinite = true := by
  rw [ofText_eq]
  constructor
  · intro h
    split at h
    · next unit number hunit hnumber =>
      obtain ⟨hq, hfinite⟩ := checkRange_eq_ok_iff.1 h
      refine ⟨number, ?_, hnumber, ?_, hfinite⟩
      · rw [hunit, ← hq]
      · rw [← hq]
    · cases h
  · rintro ⟨number, hunit, hnumber, hvalue, hfinite⟩
    rw [hunit, hnumber]
    refine checkRange_eq_ok_iff.2 ⟨?_, hfinite⟩
    rw [← hvalue]

/-- A quantity that is spelled with a digit first has no sign. -/
theorem unsigned_of_ofText {text : String} {q : Quantity} {c : Char} {cs : List Char}
    (htext : text.toList = c :: cs) (hdigit : c.isDigit = true) (h : ofText text = .ok q) :
    q.Unsigned := by
  obtain ⟨number, _, hnumber, hvalue, hfinite, hbaseline⟩ := ofText_eq_ok_iff.1 h
  rw [htext, List.takeWhile_cons_of_pos (by simp [Text.isAlpha_eq_false_of_isDigit hdigit])]
    at hnumber
  rw [Binary64.ofDecimal, negative_of_readNumber? hdigit hnumber] at hvalue
  rw [hvalue] at hfinite
  obtain ⟨rank, hrank⟩ := Binary64.eq_finite_of_isFinite_ofRatio hfinite
  rw [baseline, hvalue, hrank, StorageUnit.factor, Binary64.twoPow] at hbaseline
  refine ⟨⟨rank, hvalue.trans hrank⟩, ?_⟩
  rw [baseline, hvalue, hrank, StorageUnit.factor, Binary64.twoPow]
  exact Binary64.eq_finite_of_isFinite_mul hbaseline

end Quantity

end InventoryFilter
