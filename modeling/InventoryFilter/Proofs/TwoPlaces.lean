import InventoryFilter.Proofs.NumberText
import InventoryFilter.Proofs.QuantityTokens

set_option autoImplicit false

/-!
# Quantities with two decimal places

A quantity is shown with two decimal places.  Below `2 ^ 46` the numbers of the format are so close
that hundredths can be told apart: a count of hundredths is read as a number that is shown as the
same count.  From there on it is the other way round.  The hundredths are so close that numbers can
be told apart by them: the count that a number is shown as is read as the same number.

Main statement: a quantity that is spelled with at most two decimal places is read again as itself,
and any other is shown in the same way once it has been read again.
-/

namespace InventoryFilter

open Lexical (IsLetters span_isAlpha)

namespace Binary64

/-! ## Rounded quotients -/

/-- A quotient that is less than one half away from a whole number is rounded to it. -/
theorem roundDiv_eq {num den q : Nat} (hden : 0 < den) (hlow : 2 * q * den < 2 * num + den)
    (hhigh : 2 * num < (2 * q + 1) * den) : roundDiv num den = q := by
  obtain ⟨hnear, hnear'⟩ := roundDiv_near num hden
  have hge : 2 * q * den < (2 * roundDiv num den + 2) * den := by
    have hsplit : (2 * roundDiv num den + 2) * den = (2 * roundDiv num den + 1) * den + den :=
      Nat.succ_mul _ _
    omega
  have hle : 2 * roundDiv num den * den < (2 * q + 2) * den := by
    have hsplit : (2 * q + 2) * den = (2 * q + 1) * den + den := Nat.succ_mul _ _
    omega
  have hge' := Nat.lt_of_mul_lt_mul_right hge
  have hle' := Nat.lt_of_mul_lt_mul_right hle
  omega

theorem roundDiv_le {num den q : Nat} (hden : 0 < den) (h : num ≤ q * den) :
    roundDiv num den ≤ q := by
  obtain ⟨-, hnear⟩ := roundDiv_near num hden
  have hle : 2 * roundDiv num den * den < (2 * q + 2) * den := by
    rw [Nat.add_mul, Nat.mul_assoc 2 q]
    omega
  have hle' := Nat.lt_of_mul_lt_mul_right hle
  omega

theorem le_roundDiv {num den q : Nat} (hden : 0 < den) (h : q * den ≤ num) :
    q ≤ roundDiv num den := by
  obtain ⟨hnear, -⟩ := roundDiv_near num hden
  have hle : 2 * q * den < (2 * roundDiv num den + 2) * den := by
    have hsplit : (2 * roundDiv num den + 2) * den = (2 * roundDiv num den + 1) * den + den :=
      Nat.succ_mul _ _
    rw [Nat.mul_assoc 2 q]
    omega
  have hle' := Nat.lt_of_mul_lt_mul_right hle
  omega

/-- A multiple that is rounded to multiples of a smaller step is found again by rounding. -/
theorem roundDiv_roundDiv {n den step : Nat} (hstep : 0 < step) (h : step < den) :
    roundDiv (roundDiv (n * den) step * step) den = n := by
  obtain ⟨hnear, hnear'⟩ := roundDiv_near (n * den) hstep
  rw [Nat.add_mul, Nat.one_mul] at hnear
  rw [Nat.mul_assoc] at hnear hnear'
  refine roundDiv_eq (Nat.zero_lt_of_lt h) ?_ ?_
  · rw [Nat.mul_assoc]
    omega
  · rw [Nat.add_mul, Nat.mul_assoc, Nat.one_mul]
    omega

/-! ## The spacing around a quotient -/

-- powers in the spelling of the format's definitions, with exponents that no step computes with
theorem two_pow_le_two_pow {a b : Nat} (h : a ≤ b) : Nat.pow 2 a ≤ Nat.pow 2 b :=
  Nat.pow_le_pow_right (by decide) h

theorem two_pow_add (a b : Nat) : Nat.pow 2 (a + b) = Nat.pow 2 a * Nat.pow 2 b :=
  Nat.pow_add 2 a b

theorem lt_of_two_pow_lt {a b : Nat} (h : Nat.pow 2 a < Nat.pow 2 b) : a < b :=
  (Nat.pow_lt_pow_iff_right (by decide)).1 h

/-- Around a quotient of units, the numbers of the format are `2 ^ spacing` units apart. -/
structure IsSpacing (num den spacing : Nat) : Prop where
  above : spacing = 0 ∨ den * Nat.pow 2 (52 + spacing) ≤ num
  below : num < den * Nat.pow 2 (53 + spacing)

theorem isSpacing_log2 (num : Nat) {den : Nat} (hden : 0 < den) :
    IsSpacing num den ((num / den).log2 - 52) where
  above := by
    by_cases hlog : (num / den).log2 ≤ 52
    · exact .inl (Nat.sub_eq_zero_of_le hlog)
    · have hne : num / den ≠ 0 := by
        intro hzero
        rw [hzero] at hlog
        exact hlog (Nat.zero_le _)
      have hexp : 52 + ((num / den).log2 - 52) = (num / den).log2 := by omega
      rw [hexp, Nat.mul_comm]
      exact .inr ((Nat.le_div_iff_mul_le hden).1 (Nat.log2_self_le hne))
  below := by
    have hlt : num < Nat.pow 2 ((num / den).log2 + 1) * den :=
      (Nat.div_lt_iff_lt_mul hden).1 Nat.lt_log2_self
    rw [Nat.mul_comm] at hlt
    refine Nat.lt_of_lt_of_le hlt (Nat.mul_le_mul_left den ?_)
    exact two_pow_le_two_pow (by omega)

/-- There is only one spacing around a quotient. -/
theorem IsSpacing.unique {num den spacing spacing' : Nat} (h : IsSpacing num den spacing)
    (h' : IsSpacing num den spacing') : spacing = spacing' := by
  have hle : ∀ {s s' : Nat}, IsSpacing num den s → IsSpacing num den s' → s ≤ s' := by
    intro s s' hs hs'
    rcases hs.above with hzero | habove
    · omega
    · have hpow := Nat.lt_of_mul_lt_mul_left (Nat.lt_of_le_of_lt habove hs'.below)
      have hexp := lt_of_two_pow_lt hpow
      omega
  exact Nat.le_antisymm (hle h h') (hle h' h)

/-- The spacing decides which rank a quotient is rounded to. -/
theorem IsSpacing.nearestRank_eq {num den spacing : Nat} (hden : 0 < den)
    (h : IsSpacing (num * unitsPerOne) den spacing) :
    nearestRank num den =
      spacing * Nat.pow 2 52 + roundDiv (num * unitsPerOne) (den * Nat.pow 2 spacing) := by
  unfold nearestRank
  simp only [(isSpacing_log2 _ hden).unique h]

/-- With 53 bits at a spacing, a rank is as many of the spacings as the bits say. -/
theorem units_add {spacing m : Nat} (hlow : spacing = 0 ∨ Nat.pow 2 52 ≤ m)
    (hhigh : m ≤ Nat.pow 2 53) :
    units (spacing * Nat.pow 2 52 + m) = m * Nat.pow 2 spacing := by
  have hnormal : ∀ s k, Nat.pow 2 52 ≤ k → k < Nat.pow 2 53 →
      units (s * Nat.pow 2 52 + k) = k * Nat.pow 2 s := by
    intro s k hk hk'
    simp only [Nat.pow_eq] at hk hk' ⊢
    have hdiv : (s * 2 ^ 52 + k) / 2 ^ 52 - 1 = s := by omega
    have hmod : 2 ^ 52 + (s * 2 ^ 52 + k) % 2 ^ 52 = k := by omega
    unfold units
    simp only [Nat.pow_eq]
    rw [if_neg (by omega), hdiv, hmod]
  by_cases htop : m = Nat.pow 2 53
  · -- rounded up to the next power of two, which begins the next spacing
    have hnext : spacing * Nat.pow 2 52 + m = (spacing + 1) * Nat.pow 2 52 + Nat.pow 2 52 := by
      rw [htop]
      simp only [Nat.pow_eq]
      omega
    rw [hnext, hnormal (spacing + 1) _ (by decide) (by decide), htop]
    simp only [Nat.pow_eq, ← Nat.pow_add]
    congr 1
    omega
  · by_cases hsmall : m < Nat.pow 2 52
    · obtain rfl : spacing = 0 := by omega
      simp only [Nat.zero_mul, Nat.zero_add, units, if_pos hsmall]
      exact (Nat.mul_one m).symm
    · exact hnormal spacing m (by omega) (by omega)

/-- At its spacing, a quotient is rounded to 53 bits. -/
theorem IsSpacing.roundDiv_bounds {num den spacing : Nat} (hden : 0 < den)
    (h : IsSpacing num den spacing) :
    (spacing = 0 ∨ Nat.pow 2 52 ≤ roundDiv num (den * Nat.pow 2 spacing)) ∧
      roundDiv num (den * Nat.pow 2 spacing) ≤ Nat.pow 2 53 := by
  have hpos : 0 < den * Nat.pow 2 spacing := Nat.mul_pos hden (Nat.two_pow_pos _)
  have hpow : ∀ k, den * Nat.pow 2 (k + spacing) = Nat.pow 2 k * (den * Nat.pow 2 spacing) := by
    intro k
    rw [two_pow_add, Nat.mul_left_comm]
  refine ⟨h.above.imp_right fun habove => ?_, ?_⟩
  · exact le_roundDiv hpos (hpow 52 ▸ habove)
  · exact roundDiv_le hpos (Nat.le_of_lt (hpow 53 ▸ h.below))

/-- The number nearest to a quotient, in units: the quotient rounded to a multiple of the
spacing. -/
theorem IsSpacing.units_nearestRank {num den spacing : Nat} (hden : 0 < den)
    (h : IsSpacing (num * unitsPerOne) den spacing) :
    units (nearestRank num den) =
      roundDiv (num * unitsPerOne) (den * Nat.pow 2 spacing) * Nat.pow 2 spacing := by
  obtain ⟨hlow, hhigh⟩ := h.roundDiv_bounds hden
  rw [h.nearestRank_eq hden]
  exact units_add hlow hhigh

/-! ## Numbers and hundredths -/

/-- The exponent as a variable, so that no step computes the power. -/
theorem exists_unitsPerOne_eq : ∃ a, a = 1074 ∧ unitsPerOne = Nat.pow 2 a := by
  unfold unitsPerOne
  exact ⟨_, rfl, rfl⟩

/-- Numbers that are at most `2 ^ (-7)` apart are closer than hundredths. -/
theorem hundred_mul_lt {spacing : Nat} (h : spacing ≤ 1067) :
    100 * Nat.pow 2 spacing < unitsPerOne := by
  obtain ⟨a, ha, hunits⟩ := exists_unitsPerOne_eq
  have hle : Nat.pow 2 (7 + spacing) ≤ Nat.pow 2 a := two_pow_le_two_pow (by omega)
  have hseven : Nat.pow 2 7 = 128 := rfl
  have hpos : 0 < Nat.pow 2 spacing := Nat.two_pow_pos _
  rw [two_pow_add, hseven] at hle
  omega

/-- Hundredths are closer than numbers that are at least `2 ^ (-6)` apart. -/
theorem lt_hundred_mul {spacing : Nat} (h : 1068 ≤ spacing) :
    unitsPerOne < 100 * Nat.pow 2 spacing := by
  obtain ⟨a, ha, hunits⟩ := exists_unitsPerOne_eq
  have hle : Nat.pow 2 a ≤ Nat.pow 2 (6 + spacing) := two_pow_le_two_pow (by omega)
  have hsix : Nat.pow 2 6 = 64 := rfl
  have hpos : 0 < Nat.pow 2 spacing := Nat.two_pow_pos _
  rw [two_pow_add, hsix] at hle
  omega

/-- Below `2 ^ 46`, numbers are at most `2 ^ (-7)` apart. -/
theorem IsSpacing.le_of_lt {num den spacing : Nat} (h : IsSpacing num den spacing)
    (hlt : num < den * (Nat.pow 2 46 * unitsPerOne)) : spacing ≤ 1067 := by
  obtain ⟨a, ha, hunits⟩ := exists_unitsPerOne_eq
  rw [hunits, ← two_pow_add] at hlt
  rcases h.above with hzero | habove
  · omega
  · have hexp := lt_of_two_pow_lt (Nat.lt_of_mul_lt_mul_left (Nat.lt_of_le_of_lt habove hlt))
    omega

/-- From `2 ^ 46` on, numbers are at least `2 ^ (-6)` apart. -/
theorem IsSpacing.le_of_le {num den spacing : Nat} (h : IsSpacing num den spacing)
    (hle : den * (Nat.pow 2 46 * unitsPerOne) ≤ num) : 1068 ≤ spacing := by
  obtain ⟨a, ha, hunits⟩ := exists_unitsPerOne_eq
  rw [hunits, ← two_pow_add] at hle
  have hexp := lt_of_two_pow_lt (Nat.lt_of_mul_lt_mul_left (Nat.lt_of_le_of_lt hle h.below))
  omega

/-- Where numbers are closer than hundredths, hundredths can be told apart. -/
theorem scaledRank_nearestRank {n : Nat} (h : n ≤ 100 * Nat.pow 2 46) :
    scaledRank 2 (nearestRank n 100) = n := by
  rcases Nat.eq_or_lt_of_le h with rfl | hlt
  · decide +kernel
  have hspacing := isSpacing_log2 (n * unitsPerOne) (Nat.succ_pos 99)
  generalize (n * unitsPerOne / 100).log2 - 52 = spacing at hspacing
  have hclose : spacing ≤ 1067 := by
    refine hspacing.le_of_lt ?_
    rw [← Nat.mul_assoc]
    exact Nat.mul_lt_mul_of_pos_right hlt unitsPerOne_pos
  have hstep : 0 < 100 * Nat.pow 2 spacing := Nat.mul_pos (by decide) (Nat.two_pow_pos _)
  rw [scaledRank, hspacing.units_nearestRank (by decide), Nat.mul_assoc,
    Nat.mul_comm (Nat.pow 2 spacing)]
  exact roundDiv_roundDiv hstep (hundred_mul_lt hclose)

/-- Where hundredths are closer than numbers, numbers can be told apart. -/
theorem nearestRank_scaledRank {rank : Nat} (h : Nat.pow 2 46 * unitsPerOne ≤ units rank) :
    nearestRank (scaledRank 2 rank) 100 = rank := by
  obtain ⟨m, hunits, hrank⟩ := units_eq rank
  have hself := isSpacing_log2 (units rank) Nat.one_pos
  rw [Nat.div_one] at hself
  generalize (units rank).log2 - 52 = spacing at hunits hrank hself
  have hspacing : 1068 ≤ spacing := hself.le_of_le (by rwa [Nat.one_mul])
  obtain ⟨habove, hbelow⟩ := hself
  rw [Nat.one_mul] at habove hbelow
  have hclose := lt_hundred_mul hspacing
  have hshown : units rank * Nat.pow 10 2 = m * (100 * Nat.pow 2 spacing) := by
    rw [hunits, Nat.mul_assoc, Nat.mul_comm (Nat.pow 2 spacing)]
  have hround : roundDiv (scaledRank 2 rank * unitsPerOne) (100 * Nat.pow 2 spacing) = m := by
    rw [scaledRank, hshown]
    exact roundDiv_roundDiv unitsPerOne_pos hclose
  have hsame : IsSpacing (scaledRank 2 rank * unitsPerOne) 100 spacing := by
    refine ⟨.inr ?_, ?_⟩
    · -- the power of two below the number is a whole number of hundredths
      obtain ⟨a, ha, hone⟩ := exists_unitsPerOne_eq
      have hpow : Nat.pow 2 (52 + spacing) = Nat.pow 2 (52 + spacing - a) * unitsPerOne := by
        rw [hone, ← two_pow_add, Nat.sub_add_cancel (by omega)]
      have hle : 100 * Nat.pow 2 (52 + spacing) ≤ 100 * units rank :=
        Nat.mul_le_mul_left 100 (habove.resolve_left (by omega))
      rw [hpow, ← Nat.mul_assoc, Nat.mul_comm 100 (units rank)] at hle
      rw [hpow, ← Nat.mul_assoc]
      exact Nat.mul_le_mul_right _ (le_roundDiv unitsPerOne_pos hle)
    · have hm : m + 1 ≤ Nat.pow 2 53 := by
        rw [hunits, two_pow_add] at hbelow
        exact Nat.lt_of_mul_lt_mul_right hbelow
      have hlast := Nat.mul_le_mul_right (100 * Nat.pow 2 spacing) hm
      have hnear : 2 * (scaledRank 2 rank * unitsPerOne) ≤
          2 * (m * (100 * Nat.pow 2 spacing)) + unitsPerOne := by
        rw [← Nat.mul_assoc, ← hshown]
        exact (roundDiv_near _ unitsPerOne_pos).2
      rw [two_pow_add, Nat.mul_left_comm]
      rw [Nat.add_mul, Nat.one_mul] at hlast
      omega
  rw [hsame.nearestRank_eq (by decide), hround, ← hrank]

/-- A count of hundredths beyond those that can be told apart is read as a number beyond them. -/
theorem le_units_nearestRank {n : Nat} (h : 100 * Nat.pow 2 46 ≤ n) :
    Nat.pow 2 46 * unitsPerOne ≤ units (nearestRank n 100) := by
  have hspacing := isSpacing_log2 (n * unitsPerOne) (Nat.succ_pos 99)
  generalize (n * unitsPerOne / 100).log2 - 52 = spacing at hspacing
  have hclose : 1068 ≤ spacing := by
    refine hspacing.le_of_le ?_
    rw [← Nat.mul_assoc]
    exact Nat.mul_le_mul_right _ h
  have hbits := (hspacing.roundDiv_bounds (by decide)).1.resolve_left (by omega)
  obtain ⟨a, ha, hunits⟩ := exists_unitsPerOne_eq
  calc Nat.pow 2 46 * unitsPerOne
      = Nat.pow 2 (46 + a) := by rw [hunits, two_pow_add]
    _ ≤ Nat.pow 2 (52 + spacing) := two_pow_le_two_pow (by omega)
    _ = Nat.pow 2 52 * Nat.pow 2 spacing := two_pow_add 52 spacing
    _ ≤ roundDiv (n * unitsPerOne) (100 * Nat.pow 2 spacing) * Nat.pow 2 spacing :=
        Nat.mul_le_mul_right _ hbits
    _ = units (nearestRank n 100) := (hspacing.units_nearestRank (by decide)).symm

/-- A count of hundredths is read as a number that is read again from what it is shown as. -/
theorem nearestRank_scaledRank_nearestRank (n : Nat) :
    nearestRank (scaledRank 2 (nearestRank n 100)) 100 = nearestRank n 100 := by
  rcases Nat.le_total n (100 * Nat.pow 2 46) with hsmall | hlarge
  · rw [scaledRank_nearestRank hsmall]
  · exact nearestRank_scaledRank (le_units_nearestRank hlarge)

/-- A number is shown as a count of hundredths that can be told apart, or as one that is read as
the same number. -/
theorem scaledRank_le_or (rank : Nat) :
    scaledRank 2 rank ≤ 100 * Nat.pow 2 46 ∨ nearestRank (scaledRank 2 rank) 100 = rank := by
  rcases Nat.le_total (units rank) (Nat.pow 2 46 * unitsPerOne) with hsmall | hlarge
  · refine .inl (roundDiv_le unitsPerOne_pos ?_)
    rw [Nat.mul_assoc, Nat.mul_comm]
    exact Nat.mul_le_mul_left 100 hsmall
  · exact .inr (nearestRank_scaledRank hlarge)

/-! ## Numbers of the format -/

theorem nearestRank_lt {num den : Nat} (hden : 0 < den) (h : num ≤ Nat.pow 2 100 * den) :
    nearestRank num den < 2047 * Nat.pow 2 52 := by
  have hspacing := isSpacing_log2 (num * unitsPerOne) hden
  generalize (num * unitsPerOne / den).log2 - 52 = spacing at hspacing
  have hle : spacing ≤ 1122 := by
    rcases hspacing.above with hzero | habove
    · omega
    · obtain ⟨a, ha, hunits⟩ := exists_unitsPerOne_eq
      have hless : num * unitsPerOne ≤ den * Nat.pow 2 (100 + a) := by
        rw [two_pow_add, hunits, ← Nat.mul_assoc, Nat.mul_comm den]
        exact Nat.mul_le_mul_right _ h
      have hpow := Nat.le_of_mul_le_mul_left (Nat.le_trans habove hless) hden
      have hexp := (Nat.pow_le_pow_iff_right (by decide)).1 hpow
      omega
  have hbits := (hspacing.roundDiv_bounds hden).2
  rw [hspacing.nearestRank_eq hden]
  simp only [Nat.pow_eq] at hbits ⊢
  omega

theorem mul_finite (n n' : Bool) (r r' : Fin (2047 * Nat.pow 2 52)) :
    (finite n r).mul (finite n' r') =
      ofRatio (n != n') (units r * units r') (unitsPerOne * unitsPerOne) := rfl

theorem isFinite_ofRatio {negative : Bool} {num den : Nat} (hden : 0 < den)
    (h : num ≤ Nat.pow 2 100 * den) : (ofRatio negative num den).isFinite = true := by
  unfold ofRatio
  simp only [dif_pos (nearestRank_lt hden h)]
  rfl

end Binary64

namespace StorageUnit

theorem exponent_le (unit : StorageUnit) : unit.exponent ≤ 20 := by cases unit <;> decide

open Binary64 in
/-- The factor of a unit is its power of two, without any rounding. -/
theorem exists_factor_eq (unit : StorageUnit) :
    ∃ rank, unit.factor = .finite false rank ∧
      units rank * Nat.pow 2 10 = Nat.pow 2 (unit.exponent + 10).toNat * unitsPerOne := by
  cases unit with
  | none => exact ⟨⟨1023 * Nat.pow 2 52, by decide⟩, by decide +kernel⟩
  | kilobyte => exact ⟨⟨1013 * Nat.pow 2 52, by decide⟩, by decide +kernel⟩
  | megabyte => exact ⟨⟨1023 * Nat.pow 2 52, by decide⟩, by decide +kernel⟩
  | gigabyte => exact ⟨⟨1033 * Nat.pow 2 52, by decide⟩, by decide +kernel⟩
  | terabyte => exact ⟨⟨1043 * Nat.pow 2 52, by decide⟩, by decide +kernel⟩

open Binary64 in
theorem exists_factor_le (unit : StorageUnit) :
    ∃ rank, unit.factor = .finite false rank ∧ units rank ≤ Nat.pow 2 20 * unitsPerOne := by
  obtain ⟨rank, hfactor, hunits⟩ := unit.exists_factor_eq
  have hexponent := unit.exponent_le
  have hpow : Nat.pow 2 30 = Nat.pow 2 20 * Nat.pow 2 10 := by decide
  refine ⟨rank, hfactor, Nat.le_of_mul_le_mul_right (c := Nat.pow 2 10) ?_ (by decide)⟩
  calc units rank * Nat.pow 2 10
      = Nat.pow 2 (unit.exponent + 10).toNat * unitsPerOne := hunits
    _ ≤ Nat.pow 2 30 * unitsPerOne :=
        Nat.mul_le_mul_right _ (Nat.pow_le_pow_right Nat.two_pos (by omega))
    _ = Nat.pow 2 20 * unitsPerOne * Nat.pow 2 10 := by rw [hpow, Nat.mul_right_comm]

end StorageUnit

namespace Quantity

/-! ## Reading a quantity that was shown -/

theorem readUnit?_suffix (unit : StorageUnit) : readUnit? unit.suffix.toList = some unit := by
  by_cases hunit : unit = .none
  · rw [hunit]
    rfl
  · obtain ⟨c, hsuffix⟩ := StorageUnit.suffix_eq_pair hunit
    have hread := StorageUnit.ofSuffix?_suffix unit hunit
    rw [hsuffix] at hread ⊢
    exact hread

/-- A finite quantity is read again in its unit, with the count of hundredths that it is shown
with. -/
theorem ofText_text_eq {q : Quantity} {negative : Bool} {rank : Fin (2047 * Nat.pow 2 52)}
    (hvalue : q.value = .finite negative rank) :
    ofText q.text =
      checkRange q.text ⟨.ofDecimal ⟨negative, Binary64.scaledRank 2 rank, -2⟩, q.unit⟩ := by
  obtain ⟨whole, fraction, hdigits, hwhole, hfraction, hlength, hcount⟩ :=
    Binary64.exists_fixedDigits_eq Nat.two_pos (Binary64.scaledRank 2 rank)
  have hnumeral : Lexical.IsNumeral (whole ++ '.' :: fraction) :=
    .inr ⟨whole, fraction, hwhole, hfraction, rfl⟩
  have hdecimal : Decimal.ofParts negative whole fraction =
      ⟨negative, Binary64.scaledRank 2 rank, -2⟩ := by
    rw [Decimal.ofParts, hcount, hlength]
    rfl
  have hmagnitude : readMagnitude? negative (whole ++ '.' :: fraction) =
      some ⟨negative, Binary64.scaledRank 2 rank, -2⟩ := by
    rw [readMagnitude?_point negative hwhole.2 hfraction.2 (.inl hwhole.1), hdecimal]
  obtain ⟨number, htext, hplain, hnumber⟩ : ∃ number : List Char,
      q.text.toList = number ++ q.unit.suffix.toList ∧ (∀ c ∈ number, c.isAlpha = false) ∧
        readNumber? number = some ⟨negative, Binary64.scaledRank 2 rank, -2⟩ := by
    cases negative with
    | true =>
      refine ⟨'-' :: (whole ++ '.' :: fraction), ?_, ?_, hmagnitude⟩
      · simp [text, hvalue, Binary64.fixed, places, hdigits]
      · exact List.forall_mem_cons.2 ⟨rfl, hnumeral.isAlpha_eq_false⟩
    | false =>
      refine ⟨whole ++ '.' :: fraction, ?_, hnumeral.isAlpha_eq_false, ?_⟩
      · simp [text, hvalue, Binary64.fixed, places, hdigits]
      · rw [readNumber?_of_isNumeral hnumeral, hmagnitude]
  obtain ⟨htake, hdrop⟩ := span_isAlpha hplain q.unit.isAlpha_of_mem_suffix
  rw [ofText_eq, htext, htake, hdrop, readUnit?_suffix, hnumber]

theorem nearest_hundredths (negative : Bool) (n : Nat) :
    Decimal.nearest ⟨negative, n, -2⟩ = Binary64.nearestRank n 100 := by
  rw [Decimal.nearest, Decimal.ratio_eq]
  exact congrArg (Binary64.nearestRank · 100) (Nat.mul_one n)

/-- A quantity is read again as itself if the hundredths that it is shown with are read as its
number. -/
theorem ofText_text {q : Quantity} {negative : Bool} {rank : Fin (2047 * Nat.pow 2 52)}
    (hvalue : q.value = .finite negative rank) (hfinite : q.baseline.isFinite = true)
    (hread : Binary64.nearestRank (Binary64.scaledRank 2 rank) 100 = rank) :
    ofText q.text = .ok q := by
  have hdecimal : Binary64.ofDecimal ⟨negative, Binary64.scaledRank 2 rank, -2⟩ = q.value := by
    rw [hvalue, Decimal.ofDecimal_eq_finite_iff, nearest_hundredths]
    exact ⟨rfl, hread⟩
  rw [ofText_text_eq hvalue, hdecimal]
  exact checkRange_eq_ok_iff.2 ⟨rfl, by rw [hvalue]; rfl, hfinite⟩

/-! ## At most two decimal places -/

/-- Whether the text is spelled with digits, no more than two of them behind a point, and then
letters. -/
def HasTwoPlaces (text : String) : Prop :=
  ∃ number letters, text.toList = number ++ letters ∧ IsLetters letters ∧
    ((∀ c ∈ number, c.isDigit = true) ∨
      ∃ whole fraction, number = whole ++ '.' :: fraction ∧ (∀ c ∈ whole, c.isDigit = true) ∧
        (∀ c ∈ fraction, c.isDigit = true) ∧ fraction.length ≤ 2)

/-- A text with at most two decimal places spells a number of hundredths. -/
theorem HasTwoPlaces.le_exponent {text : String} {d : Decimal} (h : HasTwoPlaces text)
    (hread : readNumber? (text.toList.takeWhile (!·.isAlpha)) = some d) : -2 ≤ d.exponent := by
  obtain ⟨number, letters, htext, hletters, hnumber⟩ := h
  have hchar : ∀ c ∈ number, c.isDigit = true ∨ c = '.' := by
    intro c hc
    rcases hnumber with hdigits | ⟨whole, fraction, rfl, hwhole, hfraction, _⟩
    · exact .inl (hdigits c hc)
    · rcases List.mem_append.1 hc with hc | hc
      · exact .inl (hwhole c hc)
      · rcases List.mem_cons.1 hc with hpoint | hc
        · exact .inr hpoint
        · exact .inl (hfraction c hc)
  have hplain : ∀ c ∈ number, c.isAlpha = false := by
    intro c hc
    rcases hchar c hc with hdigit | rfl
    · exact Text.isAlpha_eq_false_of_isDigit hdigit
    · rfl
  have hhead : ∀ c ∈ number.head?, c ≠ '+' ∧ c ≠ '-' := by
    intro c hc
    rcases hchar c (List.mem_of_mem_head? hc) with hdigit | rfl
    · constructor <;> rintro rfl <;> exact absurd hdigit (by decide)
    · decide
  rw [htext, (span_isAlpha hplain hletters).1, readNumber?_of_head hhead] at hread
  rcases hnumber with hdigits | ⟨whole, fraction, rfl, hwhole, hfraction, hlength⟩
  · by_cases hne : number = []
    · rw [hne] at hread
      cases hread
    · rw [readMagnitude?_whole false hdigits hne] at hread
      cases hread
      simp [Decimal.ofParts]
  · by_cases hne : whole = [] ∧ fraction = []
    · rw [hne.1, hne.2] at hread
      cases hread
    · rw [readMagnitude?_point false hwhole hfraction (Decidable.not_and_iff_or_not.1 hne)] at hread
      cases hread
      simp only [Decimal.ofParts]
      omega

/-- A decimal with at most two places is read as some count of hundredths is. -/
theorem exists_nearest_eq {d : Decimal} (h : -2 ≤ d.exponent) :
    ∃ n, d.nearest = Binary64.nearestRank n 100 := by
  have hshift := Decimal.nearest_shift d.negative d.negative d.digits (d.exponent + 2).toNat
    d.exponent
  have hexponent : d.exponent - (d.exponent + 2).toNat = -2 := by omega
  rw [hexponent, nearest_hundredths] at hshift
  exact ⟨_, hshift.symm⟩

open Binary64 in
/-- Hundredths that can be told apart are few enough for every unit. -/
theorem exists_value_of_hundredths {n : Nat} (h : n ≤ 100 * Nat.pow 2 46) (negative : Bool)
    (unit : StorageUnit) :
    ∃ rank : Fin (2047 * Nat.pow 2 52), ofDecimal ⟨negative, n, -2⟩ = .finite negative rank ∧
      scaledRank 2 rank = n ∧
      (Quantity.mk (.finite negative rank) unit).baseline.isFinite = true := by
  have hshown := scaledRank_nearestRank h
  have hlt : nearestRank n 100 < 2047 * Nat.pow 2 52 :=
    nearestRank_lt (by decide) (Nat.le_trans h (by decide))
  have hvalue : ofDecimal ⟨negative, n, -2⟩ = .finite negative ⟨nearestRank n 100, hlt⟩ :=
    Decimal.ofDecimal_eq_finite_iff.2 ⟨rfl, nearest_hundredths negative n⟩
  obtain ⟨f, hfactor, hunits⟩ := unit.exists_factor_le
  have hsmall : units (nearestRank n 100) ≤ Nat.pow 2 47 * unitsPerOne := by
    have hnear := (roundDiv_near (units (nearestRank n 100) * Nat.pow 10 2) unitsPerOne_pos).1
    rw [← scaledRank, hshown] at hnear
    have hcount : (2 * n + 1) * unitsPerOne ≤ 200 * Nat.pow 2 47 * unitsPerOne :=
      Nat.mul_le_mul_right _ (by simp only [Nat.pow_eq] at h ⊢; omega)
    rw [Nat.mul_assoc 200] at hcount
    have hhundred : Nat.pow 10 2 = 100 := rfl
    rw [hhundred] at hnear
    omega
  refine ⟨⟨nearestRank n 100, hlt⟩, hvalue, hshown, ?_⟩
  rw [baseline, hfactor, mul_finite]
  refine isFinite_ofRatio (Nat.mul_pos unitsPerOne_pos unitsPerOne_pos) ?_
  calc units (nearestRank n 100) * units f
      ≤ Nat.pow 2 47 * unitsPerOne * (Nat.pow 2 20 * unitsPerOne) := Nat.mul_le_mul hsmall hunits
    _ = Nat.pow 2 47 * Nat.pow 2 20 * (unitsPerOne * unitsPerOne) := Nat.mul_mul_mul_comm _ _ _ _
    _ ≤ Nat.pow 2 100 * (unitsPerOne * unitsPerOne) := Nat.mul_le_mul_right _ (by decide)

theorem exists_value_of_ofText {text : String} {q : Quantity} (h : ofText text = .ok q) :
    ∃ d rank, readNumber? (text.toList.takeWhile (!·.isAlpha)) = some d ∧
      q.value = .finite d.negative rank ∧ d.nearest = rank ∧ q.baseline.isFinite = true := by
  obtain ⟨d, _, hnumber, hvalue, hfinite, hbaseline⟩ := ofText_eq_ok_iff.1 h
  rw [hvalue] at hfinite
  obtain ⟨rank, hrank⟩ := Binary64.eq_finite_of_isFinite_ofRatio hfinite
  exact ⟨d, rank, hnumber, hvalue.trans hrank, (Decimal.ofDecimal_eq_finite_iff.1 hrank).2,
    hbaseline⟩

/-- Quantities in the same unit that round to the same count of hundredths are shown in the same
way. -/
theorem text_eq_of_scaledRank_eq {q q' : Quantity} {negative : Bool}
    {rank rank' : Fin (2047 * Nat.pow 2 52)} (hvalue : q.value = .finite negative rank)
    (hvalue' : q'.value = .finite negative rank') (hunit : q'.unit = q.unit)
    (h : Binary64.scaledRank places rank' = Binary64.scaledRank places rank) :
    q'.text = q.text := by
  rw [text, text, hvalue, hvalue', hunit, Binary64.fixed, Binary64.fixed, h]

theorem exists_ofText_text {q : Quantity} {negative : Bool} {rank : Fin (2047 * Nat.pow 2 52)}
    (hvalue : q.value = .finite negative rank) (hfinite : q.baseline.isFinite = true) :
    ∃ q', ofText q.text = .ok q' ∧ q'.text = q.text := by
  rcases Binary64.scaledRank_le_or rank with hsmall | hsame
  · obtain ⟨rank', hvalue', hshown, hbaseline⟩ :=
      exists_value_of_hundredths hsmall negative q.unit
    refine ⟨⟨.finite negative rank', q.unit⟩, ?_, text_eq_of_scaledRank_eq hvalue rfl rfl hshown⟩
    rw [ofText_text_eq hvalue, hvalue', checkRange_eq_ok_iff]
    exact ⟨rfl, rfl, hbaseline⟩
  · exact ⟨q, ofText_text hvalue hfinite hsame, rfl⟩

/-- A quantity that is spelled with at most two decimal places is read again as itself from the text
that shows it.  Any quantity that was read is read again from the text that shows it, as one that
is shown in the same way. -/
theorem ofText_shown :
    (∀ text q, HasTwoPlaces text → ofText text = .ok q → ofText q.text = .ok q) ∧
    ∀ text q, ofText text = .ok q → ∃ q', ofText q.text = .ok q' ∧ q'.text = q.text := by
  refine ⟨fun text q hplaces hread => ?_, fun text q hread => ?_⟩
  · obtain ⟨d, rank, hnumber, hvalue, hnearest, hfinite⟩ := exists_value_of_ofText hread
    obtain ⟨n, hn⟩ := exists_nearest_eq (hplaces.le_exponent hnumber)
    refine ofText_text hvalue hfinite ?_
    rw [← hnearest, hn]
    exact Binary64.nearestRank_scaledRank_nearestRank n
  · obtain ⟨d, rank, _, hvalue, _, hfinite⟩ := exists_value_of_ofText hread
    exact exists_ofText_text hvalue hfinite

/-- Beyond `2 ^ 46` a quantity can be shown with other hundredths than it was spelled with and is
still read again as itself, and one with three places is shown rounded from then on. -/
theorem ofText_shown_rounded :
    (∃ q, HasTwoPlaces "70368744177664.99gb" ∧ ofText "70368744177664.99gb" = .ok q ∧
      q.text = "70368744177664.98Gb" ∧ ofText q.text = .ok q) ∧
    ∃ q, ofText "0.125" = .ok q ∧ q.text = "0.12" ∧ ofText q.text ≠ .ok q ∧
      ∃ q', ofText q.text = .ok q' ∧ q'.text = q.text := by
  have hlarge : ∃ q, (ofText "70368744177664.99gb").toOption = some q ∧
      q.text = "70368744177664.98Gb" :=
    ⟨(ofText "70368744177664.99gb").toOption.getD default, by decide +kernel⟩
  have hsmall : ∃ q, (ofText "0.125").toOption = some q ∧ q.text = "0.12" ∧
      (ofText q.text).toOption ≠ some q :=
    ⟨(ofText "0.125").toOption.getD default, by decide +kernel⟩
  obtain ⟨q, hread, hshown⟩ := hlarge
  obtain ⟨r, hread', hshown', hother⟩ := hsmall
  have hplaces : HasTwoPlaces "70368744177664.99gb" :=
    ⟨"70368744177664.99".toList, ['g', 'b'], by decide, List.all_eq_true.1 (by decide), .inr
      ⟨"70368744177664".toList, ['9', '9'], by decide, List.all_eq_true.1 (by decide),
        List.all_eq_true.1 (by decide), by decide⟩⟩
  have hok := eq_ok_of_toOption_eq_some hread
  have hok' := eq_ok_of_toOption_eq_some hread'
  refine ⟨⟨q, hplaces, hok, hshown, ofText_shown.1 _ q hplaces hok⟩, r, hok', hshown', ?_, ?_⟩
  · intro hsame
    exact hother (by rw [hsame]; rfl)
  · exact ofText_shown.2 _ r hok'

end Quantity

end InventoryFilter
