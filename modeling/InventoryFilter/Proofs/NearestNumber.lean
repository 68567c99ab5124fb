import InventoryFilter.Proofs.TwoPlaces
import Mathlib.Algebra.Order.Field.Rat
import Mathlib.Tactic.FieldSimp
import Mathlib.Tactic.Linarith
import Mathlib.Tactic.Positivity
import Mathlib.Tactic.Ring

set_option autoImplicit false

/-!
# The nearest number

Rounding, said without a rounding rule: the nearest of all candidates is taken, and of two that are
equally near the even one.  Whole numbers are candidates when a number is written with decimal
places, and the magnitudes of the format are when a quotient is read or two numbers are multiplied.
-/

namespace InventoryFilter

/-! ## The nearest whole number -/

/-- `n` is the whole number that is nearest to `x`, and the even one of two that are. -/
structure NearestEven (x : ℚ) (n : ℕ) : Prop where
  near : |x - n| ≤ 1 / 2
  even : |x - n| = 1 / 2 → Even n

namespace NearestEven

theorem one_le_add {n k : ℕ} (h : k ≠ n) (x : ℚ) : 1 ≤ |x - n| + |x - k| := by
  have hone : (1 : ℚ) ≤ |(n : ℚ) - k| := by
    have hne : (n : ℤ) - k ≠ 0 := by omega
    exact_mod_cast Int.one_le_abs hne
  have htriangle := abs_sub_le (n : ℚ) x k
  rw [abs_sub_comm (n : ℚ) x] at htriangle
  linarith

/-- No whole number is nearer. -/
theorem le {x : ℚ} {n : ℕ} (h : NearestEven x n) (k : ℕ) : |x - n| ≤ |x - k| := by
  by_cases hk : k = n
  · rw [hk]
  · linarith [h.near, one_le_add hk x]

theorem ge_of_le {x : ℚ} {n k : ℕ} (h : NearestEven x n) (hk : (k : ℚ) ≤ x) : k ≤ n := by
  by_contra hlt
  have hnext : (n : ℚ) + 1 ≤ k := by exact_mod_cast not_le.1 hlt
  linarith [(abs_le.1 h.near).2]

theorem le_of_le {x : ℚ} {n k : ℕ} (h : NearestEven x n) (hk : x ≤ k) : n ≤ k := by
  by_contra hlt
  have hnext : (k : ℚ) + 1 ≤ n := by exact_mod_cast not_le.1 hlt
  linarith [(abs_le.1 h.near).1]

/-- If another whole number is equally near, this one is even. -/
theorem even_of_eq {x : ℚ} {n k : ℕ} (h : NearestEven x n) (hk : k ≠ n)
    (heq : |x - k| = |x - n|) : Even n :=
  h.even (le_antisymm h.near (by linarith [one_le_add hk x]))

/-- Rounding keeps the order.  Only in the middle between two whole numbers could it fail, and there
only one of them is even. -/
theorem mono {x x' : ℚ} {n n' : ℕ} (h : NearestEven x n) (h' : NearestEven x' n') (hle : x ≤ x') :
    n ≤ n' := by
  by_contra hlt
  have hnext : (n' : ℚ) + 1 ≤ n := by exact_mod_cast not_le.1 hlt
  have hlow := (abs_le.1 h.near).1
  have hhigh := (abs_le.1 h'.near).2
  obtain rfl : x = x' := by linarith
  have hone : n = n' + 1 := by
    have hcast : (n : ℚ) = n' + 1 := by linarith
    exact_mod_cast hcast
  have heq : |x - n| = |x - n'| := le_antisymm (h.le n') (h'.le n)
  have hn := h.even_of_eq (by omega) heq.symm
  have hn' := h'.even_of_eq (by omega) heq
  rw [Nat.even_iff] at hn hn'
  omega

theorem unique {x : ℚ} {n n' : ℕ} (h : NearestEven x n) (h' : NearestEven x n') : n = n' :=
  Nat.le_antisymm (h.mono h' le_rfl) (h'.mono h le_rfl)

/-- A number is rounded to one below an even number exactly if it is below the middle between that
number and the odd one before it. -/
theorem lt_iff {x : ℚ} {n k : ℕ} (h : NearestEven x n) (hk : Even k) :
    n < k ↔ x < k - 1 / 2 := by
  obtain ⟨hlow, hhigh⟩ := abs_le.1 h.near
  constructor
  · intro hn
    have hle : (n : ℚ) + 1 ≤ k := by exact_mod_cast hn
    refine lt_of_le_of_ne (by linarith) fun hx => ?_
    -- in the middle, the odd number would have been taken
    have hodd : n + 1 = k := by
      have hcast : (n : ℚ) + 1 = k := by linarith
      exact_mod_cast hcast
    have heven : Even n := by
      refine h.even ?_
      rw [hx, ← hodd, Nat.cast_add_one, abs_of_nonneg (by linarith)]
      ring
    rw [Nat.even_iff] at heven hk
    omega
  · intro hx
    have hcast : (n : ℚ) < k := by linarith
    exact_mod_cast hcast

end NearestEven

/-- A fraction below one half is dropped, one above is counted as one, and one half goes to the
even neighbour. -/
theorem NearestEven.of_fraction {q n : ℕ} {f : ℚ} (hzero : 0 ≤ f) (hone : f < 1)
    (hless : f < 1 / 2 → n = q) (hmore : 1 / 2 < f → n = q + 1)
    (htie : f = 1 / 2 → Even n ∧ (n = q ∨ n = q + 1)) : NearestEven (q + f) n := by
  have hbelow : (q : ℚ) + f - q = f := add_sub_cancel_left _ _
  have habove : (q : ℚ) + f - (q + 1 : ℕ) = -(1 - f) := by
    push_cast
    ring
  rcases lt_trichotomy f (1 / 2) with h | h | h
  · obtain rfl := hless h
    rw [← abs_of_nonneg hzero, ← hbelow] at h
    exact ⟨h.le, fun heq => absurd heq h.ne⟩
  · obtain ⟨heven, rfl | rfl⟩ := htie h
    · refine ⟨?_, fun _ => heven⟩
      rw [hbelow, abs_of_nonneg hzero, h]
    · refine ⟨?_, fun _ => heven⟩
      rw [habove, abs_neg, abs_of_nonneg (by linarith)]
      linarith
  · obtain rfl := hmore h
    have hlt : |(q : ℚ) + f - (q + 1 : ℕ)| < 1 / 2 := by
      rw [habove, abs_neg, abs_of_nonneg (by linarith)]
      linarith
    exact ⟨hlt.le, fun heq => absurd heq hlt.ne⟩

namespace Binary64

/-- Rounded division is rounding of the quotient. -/
theorem nearestEven_roundDiv (num : ℕ) {den : ℕ} (hden : 0 < den) :
    NearestEven (num / den) (roundDiv num den) := by
  have hpos : (0 : ℚ) < den := by exact_mod_cast hden
  have hquot : (num : ℚ) / den = (num / den : ℕ) + (num % den : ℕ) / den := by
    have hdiv : ((num / den : ℕ) : ℚ) * den + (num % den : ℕ) = num := by
      exact_mod_cast Nat.div_add_mod' num den
    rw [← hdiv, add_div, mul_div_cancel_right₀ _ hpos.ne']
  have hless : ((num % den : ℕ) : ℚ) / den < 1 / 2 ↔ 2 * (num % den) < den := by
    rw [div_lt_div_iff₀ hpos two_pos, one_mul, mul_comm]
    exact_mod_cast Iff.rfl
  have hmore : 1 / 2 < ((num % den : ℕ) : ℚ) / den ↔ den < 2 * (num % den) := by
    rw [div_lt_div_iff₀ two_pos hpos, one_mul, mul_comm]
    exact_mod_cast Iff.rfl
  have hone : ((num % den : ℕ) : ℚ) / den < 1 :=
    (div_lt_one hpos).2 (by exact_mod_cast Nat.mod_lt num hden)
  rw [hquot]
  refine .of_fraction (by positivity) hone (fun h => ?_) (fun h => ?_) fun h => ?_
  · exact if_pos (hless.1 h)
  · have hgt := hmore.1 h
    unfold roundDiv
    simp only
    rw [if_neg (by omega), if_pos hgt]
  · have hnot := mt hless.2 h.not_lt
    have hnot' := mt hmore.2 h.not_gt
    unfold roundDiv
    simp only
    rw [if_neg hnot, if_neg hnot']
    split
    · next heven => exact ⟨Nat.even_iff.2 heven, .inl rfl⟩
    · next hodd => exact ⟨Nat.even_iff.2 (by omega), .inr rfl⟩

/-! ## The nearest magnitude -/

/-- The exact value of the magnitude of the given rank.  Ranks beyond the largest number of the
format go on as if its exponents did. -/
def magnitude (rank : ℕ) : ℚ := units rank / unitsPerOne

/-- The rank is that of the magnitude that is nearest to `x`, and the even one of two that are. -/
structure IsNearest (x : ℚ) (rank : ℕ) : Prop where
  near : ∀ other, |x - magnitude rank| ≤ |x - magnitude other|
  even : ∀ other, other ≠ rank → |x - magnitude other| = |x - magnitude rank| → Even rank

/-- A rank is 53 bits at a spacing, or fewer at the least spacing. -/
theorem exists_spacing (rank : ℕ) :
    ∃ spacing m, rank = spacing * Nat.pow 2 52 + m ∧ (spacing = 0 ∨ Nat.pow 2 52 ≤ m) ∧
      m < Nat.pow 2 53 := by
  simp only [Nat.pow_eq]
  exact ⟨rank / 2 ^ 52 - 1, rank - (rank / 2 ^ 52 - 1) * 2 ^ 52, by omega, by omega, by omega⟩

theorem strictMono_units : StrictMono units := by
  refine strictMono_nat_of_lt_succ fun rank => ?_
  obtain ⟨spacing, m, rfl, hlow, hhigh⟩ := exists_spacing rank
  rw [Nat.add_assoc, units_add hlow hhigh.le, units_add (hlow.imp_right Nat.le_succ_of_le) hhigh]
  exact Nat.mul_lt_mul_of_pos_right (Nat.lt_succ_self m) (Nat.two_pow_pos spacing)

theorem strictMono_magnitude : StrictMono magnitude := by
  intro rank other h
  have hpos : (0 : ℚ) < unitsPerOne := by exact_mod_cast unitsPerOne_pos
  exact div_lt_div_of_pos_right (by exact_mod_cast strictMono_units h) hpos

/-- A magnitude is a multiple of any spacing, unless it is below all numbers with that spacing. -/
theorem units_cases (rank spacing : ℕ) :
    (∃ k, units rank = k * Nat.pow 2 spacing) ∨ units rank < Nat.pow 2 (52 + spacing) := by
  obtain ⟨s, m, rfl, hlow, hhigh⟩ := exists_spacing rank
  rw [units_add hlow hhigh.le]
  rcases Nat.lt_or_ge s spacing with hlt | hle
  · refine .inr ?_
    calc m * Nat.pow 2 s
        < Nat.pow 2 53 * Nat.pow 2 s := Nat.mul_lt_mul_of_pos_right hhigh (Nat.two_pow_pos s)
      _ = Nat.pow 2 (53 + s) := (two_pow_add 53 s).symm
      _ ≤ Nat.pow 2 (52 + spacing) := two_pow_le_two_pow (by omega)
  · refine .inl ⟨m * Nat.pow 2 (s - spacing), ?_⟩
    rw [Nat.mul_assoc, ← two_pow_add, Nat.sub_add_cancel hle]

/-- The width of a spacing. -/
def width (spacing : ℕ) : ℚ := (Nat.pow 2 spacing : ℕ) / unitsPerOne

theorem width_pos (spacing : ℕ) : 0 < width spacing := by
  have hpow : (0 : ℚ) < (Nat.pow 2 spacing : ℕ) := by exact_mod_cast Nat.two_pow_pos spacing
  have hpos : (0 : ℚ) < unitsPerOne := by exact_mod_cast unitsPerOne_pos
  exact div_pos hpow hpos

theorem width_succ (spacing : ℕ) : width (spacing + 1) = 2 * width spacing := by
  have hpow : Nat.pow 2 (spacing + 1) = 2 * Nat.pow 2 spacing := Nat.mul_comm _ _
  rw [width, width, hpow, Nat.cast_mul, mul_div_assoc, Nat.cast_ofNat]

theorem width_mono : Monotone width := by
  refine monotone_nat_of_le_succ fun spacing => ?_
  rw [width_succ]
  linarith [width_pos spacing]

theorem width_add (spacing k : ℕ) : width (spacing + k) = width spacing * 2 ^ k := by
  induction k with
  | zero => rw [Nat.add_zero, pow_zero, mul_one]
  | succ k ih =>
    rw [← Nat.add_assoc, width_succ, ih, pow_succ]
    ring

theorem width_one : width 1074 = 1 := by
  obtain ⟨a, ha, hunits⟩ := exists_unitsPerOne_eq
  have hpow : (0 : ℚ) < (Nat.pow 2 a : ℕ) := by exact_mod_cast Nat.two_pow_pos a
  rw [width, ← ha, hunits, div_self hpow.ne']

/-- Distances are counted in widths. -/
theorem abs_sub_mul_width (x y : ℚ) (spacing : ℕ) :
    |x * width spacing - y * width spacing| = |x - y| * width spacing := by
  rw [← sub_mul, abs_mul, abs_of_pos (width_pos spacing)]

theorem magnitude_eq_mul_width (rank spacing : ℕ) :
    magnitude rank = units rank / (Nat.pow 2 spacing : ℕ) * width spacing := by
  have hpow : (0 : ℚ) < (Nat.pow 2 spacing : ℕ) := by exact_mod_cast Nat.two_pow_pos spacing
  rw [magnitude, width, div_mul_div_cancel₀ hpow.ne']

/-- With 53 bits at a spacing, a magnitude is as many widths as the bits say. -/
theorem magnitude_spaced {spacing m : ℕ} (hlow : spacing = 0 ∨ Nat.pow 2 52 ≤ m)
    (hhigh : m ≤ Nat.pow 2 53) : magnitude (spacing * Nat.pow 2 52 + m) = m * width spacing := by
  rw [magnitude, units_add hlow hhigh, Nat.cast_mul, mul_div_assoc, width]

/-- `RoundsAt x rank spacing m y`: around `x` the numbers have the spacing.  In its widths, `x` is
`y`, which is rounded to the 53 bits `m`, and these give the rank. -/
structure RoundsAt (x : ℚ) (rank spacing m : ℕ) (y : ℚ) : Prop where
  quotient_eq : x = y * width spacing
  rank_eq : rank = spacing * Nat.pow 2 52 + m
  nearest : NearestEven y m
  above : spacing = 0 ∨ (Nat.pow 2 52 : ℕ) ≤ y
  below : y < (Nat.pow 2 53 : ℕ)

theorem exists_roundsAt (num : ℕ) {den : ℕ} (hden : 0 < den) :
    ∃ spacing m y, RoundsAt (num / den) (nearestRank num den) spacing m y := by
  have hspacing := isSpacing_log2 (num * unitsPerOne) hden
  generalize (num * unitsPerOne / den).log2 - 52 = spacing at hspacing
  have hone : (0 : ℚ) < unitsPerOne := by exact_mod_cast unitsPerOne_pos
  have hpos : (0 : ℚ) < den := by exact_mod_cast hden
  have hpow : (0 : ℚ) < (Nat.pow 2 spacing : ℕ) := by exact_mod_cast Nat.two_pow_pos spacing
  have hstep : 0 < den * Nat.pow 2 spacing := Nat.mul_pos hden (Nat.two_pow_pos spacing)
  have hscale : ∀ k, ((den * Nat.pow 2 (k + spacing) : ℕ) : ℚ) =
      (Nat.pow 2 k : ℕ) * (den * Nat.pow 2 spacing : ℕ) := by
    intro k
    rw [two_pow_add]
    push_cast
    ring
  refine ⟨spacing, _, ((num * unitsPerOne : ℕ) : ℚ) / (den * Nat.pow 2 spacing : ℕ), ?_,
    hspacing.nearestRank_eq hden, nearestEven_roundDiv _ hstep, ?_, ?_⟩
  · rw [width]
    push_cast
    field_simp
  · refine hspacing.above.imp_right fun habove => ?_
    rw [le_div_iff₀ (by exact_mod_cast hstep), ← hscale]
    exact_mod_cast habove
  · rw [div_lt_iff₀ (by exact_mod_cast hstep), ← hscale]
    exact_mod_cast hspacing.below

namespace RoundsAt

variable {x y : ℚ} {rank spacing m : ℕ}

theorem bits (h : RoundsAt x rank spacing m y) :
    (spacing = 0 ∨ Nat.pow 2 52 ≤ m) ∧ m ≤ Nat.pow 2 53 :=
  ⟨h.above.imp_right h.nearest.ge_of_le, h.nearest.le_of_le h.below.le⟩

theorem magnitude_eq (h : RoundsAt x rank spacing m y) : magnitude rank = m * width spacing := by
  rw [h.rank_eq, magnitude_spaced h.bits.1 h.bits.2]

theorem abs_sub_eq (h : RoundsAt x rank spacing m y) {other : ℕ} {k : ℚ}
    (hk : magnitude other = k * width spacing) :
    |x - magnitude other| = |y - k| * width spacing := by
  rw [h.quotient_eq, hk, abs_sub_mul_width]

/-- Every other magnitude is a multiple of the width, or is below all that have this spacing and
so is farther away than the lowest of them. -/
theorem competitor (h : RoundsAt x rank spacing m y) (other : ℕ) :
    (∃ k : ℕ, magnitude other = k * width spacing) ∨
      |x - magnitude rank| < |x - magnitude other| := by
  have hpow : (0 : ℚ) < (Nat.pow 2 spacing : ℕ) := by exact_mod_cast Nat.two_pow_pos spacing
  have hmultiple : ∀ k, units other = k * Nat.pow 2 spacing →
      magnitude other = k * width spacing := by
    intro k hk
    rw [magnitude_eq_mul_width other spacing, hk, Nat.cast_mul, mul_div_cancel_right₀ _ hpow.ne']
  rcases units_cases other spacing with ⟨k, hk⟩ | hlow
  · exact .inl ⟨k, hmultiple k hk⟩
  · rcases h.above with rfl | habove
    · exact .inl ⟨units other, hmultiple _ (Nat.mul_one _).symm⟩
    · refine .inr ?_
      have hless : (units other : ℚ) / (Nat.pow 2 spacing : ℕ) < (Nat.pow 2 52 : ℕ) := by
        rw [div_lt_iff₀ hpow]
        rw [two_pow_add] at hlow
        exact_mod_cast hlow
      rw [h.abs_sub_eq h.magnitude_eq, h.abs_sub_eq (magnitude_eq_mul_width other spacing)]
      refine mul_lt_mul_of_pos_right (lt_of_le_of_lt (h.nearest.le (Nat.pow 2 52)) ?_)
        (width_pos spacing)
      rw [abs_of_nonneg (by linarith), abs_of_nonneg (by linarith)]
      linarith

theorem isNearest (h : RoundsAt x rank spacing m y) : IsNearest x rank where
  near := by
    intro other
    rcases h.competitor other with ⟨k, hk⟩ | hfar
    · rw [h.abs_sub_eq h.magnitude_eq, h.abs_sub_eq hk]
      exact mul_le_mul_of_nonneg_right (h.nearest.le k) (width_pos spacing).le
    · exact hfar.le
  even := by
    intro other hother heq
    rcases h.competitor other with ⟨k, hk⟩ | hfar
    · have hne : k ≠ m := by
        rintro rfl
        exact hother (strictMono_magnitude.injective (hk.trans h.magnitude_eq.symm))
      rw [h.abs_sub_eq h.magnitude_eq, h.abs_sub_eq hk] at heq
      have heven := h.nearest.even_of_eq hne (mul_right_cancel₀ (width_pos spacing).ne' heq)
      rw [h.rank_eq]
      exact (Even.mul_left (by decide) spacing).add heven
    · exact absurd heq hfar.ne'

end RoundsAt

/-- Of two numbers, one that is not nearer than the upper one is above their middle. -/
theorem add_le_of_abs_sub_le {a b x : ℚ} (hlt : a < b) (h : |x - b| ≤ |x - a|) :
    a + b ≤ 2 * x := by
  cases abs_cases (x - b) <;> cases abs_cases (x - a) <;> linarith

theorem le_add_of_abs_sub_le {a b x : ℚ} (hlt : a < b) (h : |x - a| ≤ |x - b|) :
    2 * x ≤ a + b := by
  cases abs_cases (x - b) <;> cases abs_cases (x - a) <;> linarith

namespace IsNearest

/-- Rounding keeps the order.  Two ranks with the quotient in the middle between them are both even,
and then a rank between them is nearer. -/
theorem mono {x x' : ℚ} {rank rank' : ℕ} (h : IsNearest x rank) (h' : IsNearest x' rank')
    (hle : x ≤ x') : rank ≤ rank' := by
  by_contra hnot
  have hlt : rank' < rank := not_le.1 hnot
  have hmag := strictMono_magnitude hlt
  have habove := add_le_of_abs_sub_le hmag (h.near rank')
  have hbelow := le_add_of_abs_sub_le hmag (h'.near rank)
  have hmiddle : x = (magnitude rank' + magnitude rank) / 2 := by linarith
  obtain rfl : x = x' := by linarith
  have hequal := le_antisymm (h.near rank') (h'.near rank)
  have heven := h.even rank' hlt.ne hequal.symm
  have heven' := h'.even rank hlt.ne' hequal
  have hnext : rank' + 1 < rank := by
    rw [Nat.even_iff] at heven heven'
    omega
  have hlow := strictMono_magnitude (Nat.lt_succ_self rank')
  have hhigh := strictMono_magnitude hnext
  have hnear := h.near (rank' + 1)
  rw [hmiddle] at hnear
  cases abs_cases ((magnitude rank' + magnitude rank) / 2 - magnitude (rank' + 1)) <;>
    cases abs_cases ((magnitude rank' + magnitude rank) / 2 - magnitude rank) <;> linarith

theorem unique {x : ℚ} {rank rank' : ℕ} (h : IsNearest x rank) (h' : IsNearest x rank') :
    rank = rank' :=
  Nat.le_antisymm (h.mono h' le_rfl) (h'.mono h le_rfl)

end IsNearest

/-! ## The limit of the format -/

/-- The least number that is rounded to infinity: it lies in the middle between the largest number
of the format and the next power of two. -/
def limit : ℚ := 2 ^ 1024 - 2 ^ 970

theorem limit_eq : limit = ((Nat.pow 2 53 : ℕ) - 1 / 2) * width 2045 := by
  have hwidth : width 2045 = 2 * 2 ^ 970 := by
    rw [← pow_succ', ← one_mul (2 ^ (970 + 1) : ℚ), ← width_one]
    exact width_add 1074 971
  have hpow : (2 : ℚ) ^ 1024 = 2 ^ 54 * 2 ^ 970 := pow_add 2 54 970
  have hbits : ((Nat.pow 2 53 : ℕ) : ℚ) = 2 ^ 53 := by norm_cast
  rw [limit, hwidth, hpow, hbits]
  generalize (2 : ℚ) ^ 970 = w
  ring

/-- A quotient is rounded to a number of the format exactly if it is below the limit. -/
theorem RoundsAt.rank_lt_iff {x y : ℚ} {rank spacing m : ℕ} (h : RoundsAt x rank spacing m y) :
    rank < 2047 * Nat.pow 2 52 ↔ x < limit := by
  have hbits : ((Nat.pow 2 53 : ℕ) : ℚ) = 2 * (Nat.pow 2 52 : ℕ) := by norm_cast
  have hone : (1 : ℚ) ≤ (Nat.pow 2 52 : ℕ) := by norm_cast
  have hrank := h.rank_eq
  obtain ⟨hlow, hhigh⟩ := h.bits
  rw [h.quotient_eq, limit_eq]
  rcases lt_trichotomy spacing 2045 with hlt | rfl | hgt
  · refine iff_of_true ?_ ?_
    · simp only [Nat.pow_eq] at hrank hhigh ⊢
      omega
    · calc y * width spacing
          < (Nat.pow 2 53 : ℕ) * width spacing := mul_lt_mul_of_pos_right h.below (width_pos _)
        _ ≤ (Nat.pow 2 53 : ℕ) * width 2044 :=
            mul_le_mul_of_nonneg_left (width_mono (by omega)) (by positivity)
        _ = (Nat.pow 2 52 : ℕ) * width 2045 := by rw [width_succ 2044, hbits]; ring
        _ ≤ ((Nat.pow 2 53 : ℕ) - 1 / 2) * width 2045 :=
            mul_le_mul_of_nonneg_right (by linarith) (width_pos _).le
  · rw [mul_lt_mul_iff_left₀ (width_pos 2045), ← h.nearest.lt_iff (by decide)]
    simp only [Nat.pow_eq] at hrank ⊢
    omega
  · refine iff_of_false ?_ ?_
    · have hm := hlow.resolve_left (by omega)
      simp only [Nat.pow_eq] at hrank hm ⊢
      omega
    · rw [not_lt]
      calc ((Nat.pow 2 53 : ℕ) - 1 / 2) * width 2045
          ≤ (Nat.pow 2 53 : ℕ) * width 2045 :=
            mul_le_mul_of_nonneg_right (by linarith) (width_pos _).le
        _ = (Nat.pow 2 52 : ℕ) * width 2046 := by rw [width_succ 2045, hbits]; ring
        _ ≤ (Nat.pow 2 52 : ℕ) * width spacing :=
            mul_le_mul_of_nonneg_left (width_mono (by omega)) (by positivity)
        _ ≤ y * width spacing :=
            mul_le_mul_of_nonneg_right (h.above.resolve_left (by omega)) (width_pos _).le

/-! ## Rounded numbers -/

/-- `RoundsTo negative x number`: of all numbers with the sign, this is the one to which the
magnitude `x` is rounded. -/
inductive RoundsTo (negative : Bool) (x : ℚ) : Binary64 → Prop
  | finite {rank : Fin (2047 * Nat.pow 2 52)} (hlimit : x < limit) (hnearest : IsNearest x rank) :
      RoundsTo negative x (.finite negative rank)
  | infinite (hlimit : limit ≤ x) : RoundsTo negative x (.infinite negative)

theorem RoundsTo.unique {negative : Bool} {x : ℚ} {number other : Binary64}
    (h : RoundsTo negative x number) (h' : RoundsTo negative x other) : number = other := by
  cases h with
  | finite hlimit hnearest =>
    cases h' with
    | finite hlimit' hnearest' => rw [Fin.ext (hnearest.unique hnearest')]
    | infinite hlimit' => exact absurd hlimit (not_lt.2 hlimit')
  | infinite hlimit =>
    cases h' with
    | finite hlimit' hnearest' => exact absurd hlimit' (not_lt.2 hlimit)
    | infinite hlimit' => rfl

/-- A quotient becomes the number to which it is rounded. -/
theorem roundsTo_ofRatio (negative : Bool) (num : ℕ) {den : ℕ} (hden : 0 < den) :
    RoundsTo negative (num / den) (ofRatio negative num den) := by
  obtain ⟨_, _, _, hrounds⟩ := exists_roundsAt num hden
  unfold ofRatio
  simp only
  split
  · next hrank => exact .finite (hrounds.rank_lt_iff.1 hrank) hrounds.isNearest
  · next hrank => exact .infinite (not_lt.1 (mt hrounds.rank_lt_iff.2 hrank))

end Binary64

end InventoryFilter
