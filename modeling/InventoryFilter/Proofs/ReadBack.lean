import InventoryFilter.Binary64.Shortest

set_option autoImplicit false

/-!
# Decimals that read back

Which number a decimal is read as depends on its sign and its value alone, not on how many zeros it
is spelled with.  The value of a finite number is read as that number, and so is the shortest
decimal that stands for it.
-/

namespace InventoryFilter

namespace Binary64

/-! ## Rounding sees the quotient alone -/

theorem roundDiv_mul_mul (num den : Nat) {k : Nat} (hk : 0 < k) :
    roundDiv (num * k) (den * k) = roundDiv num den := by
  unfold roundDiv
  simp only [Nat.mul_div_mul_right _ _ hk, Nat.mul_mod_mul_right, ← Nat.mul_assoc,
    Nat.mul_lt_mul_right hk]

theorem nearestRank_mul_mul (num den : Nat) {k : Nat} (hk : 0 < k) :
    nearestRank (num * k) (den * k) = nearestRank num den := by
  have hnum : num * k * unitsPerOne = num * unitsPerOne * k := Nat.mul_right_comm _ _ _
  have hden : ∀ spacing, den * k * spacing = den * spacing * k := fun _ => Nat.mul_right_comm _ _ _
  unfold nearestRank
  simp only [hnum, hden, Nat.mul_div_mul_right _ _ hk, roundDiv_mul_mul _ _ hk]

/-- Equal quotients have the same nearest number. -/
theorem nearestRank_eq_of_mul_eq {num den num' den' : Nat} (hden : 0 < den) (hden' : 0 < den')
    (h : num * den' = num' * den) : nearestRank num den = nearestRank num' den' := by
  rw [← nearestRank_mul_mul num den hden', h, Nat.mul_comm den den',
    nearestRank_mul_mul num' den' hden]

/-! ## Exact values -/

theorem unitsPerOne_pos : 0 < unitsPerOne := by
  have hpow : ∀ n, 0 < Nat.pow 2 n := fun n => Nat.two_pow_pos n
  unfold unitsPerOne
  exact hpow 1074

/-- A magnitude is a whole multiple of the spacing of the numbers around it. -/
theorem units_eq (rank : Nat) :
    ∃ m, units rank = m * Nat.pow 2 ((units rank).log2 - 52) ∧
      rank = ((units rank).log2 - 52) * Nat.pow 2 52 + m := by
  by_cases hsmall : rank < Nat.pow 2 52
  · have hunits : units rank = rank := if_pos hsmall
    have hlog : rank.log2 - 52 = 0 := by
      by_cases hzero : rank = 0
      · rw [hzero]
        rfl
      · have := (Nat.log2_lt hzero).2 hsmall
        omega
    rw [hunits, hlog]
    exact ⟨rank, (Nat.mul_one rank).symm, by simp⟩
  · -- the leading bit stands 52 places above the spacing
    have hunits : units rank = (Nat.pow 2 52 + rank % Nat.pow 2 52) *
        Nat.pow 2 (rank / Nat.pow 2 52 - 1) := if_neg hsmall
    have hpos : 0 < Nat.pow 2 (rank / Nat.pow 2 52 - 1) := Nat.two_pow_pos _
    simp only [Nat.pow_eq] at hsmall hunits hpos ⊢
    have hlog : (units rank).log2 = 52 + (rank / 2 ^ 52 - 1) := by
      have hne : units rank ≠ 0 := by
        rw [hunits]
        exact Nat.ne_of_gt (Nat.mul_pos (by omega) hpos)
      rw [Nat.log2_eq_iff hne, hunits, Nat.pow_add, Nat.add_right_comm, Nat.pow_add]
      exact ⟨Nat.mul_le_mul_right _ (by omega), Nat.mul_lt_mul_of_pos_right (by omega) hpos⟩
    have hspacing : (units rank).log2 - 52 = rank / 2 ^ 52 - 1 := by omega
    refine ⟨2 ^ 52 + rank % 2 ^ 52, by rw [hspacing]; exact hunits, ?_⟩
    rw [hspacing]
    omega

/-- The value of a magnitude is read as that magnitude. -/
theorem nearestRank_units (rank : Nat) : nearestRank (units rank) unitsPerOne = rank := by
  obtain ⟨m, hunits, hrank⟩ := units_eq rank
  have hpow : 0 < Nat.pow 2 ((units rank).log2 - 52) := Nat.two_pow_pos _
  have hround : roundDiv (units rank * unitsPerOne)
      (unitsPerOne * Nat.pow 2 ((units rank).log2 - 52)) = m := by
    have hnum : units rank * unitsPerOne =
        m * (unitsPerOne * Nat.pow 2 ((units rank).log2 - 52)) := by
      rw [Nat.mul_left_comm, Nat.mul_comm unitsPerOne]
      exact congrArg (· * unitsPerOne) hunits
    rw [hnum]
    exact roundDiv_mul_left m (Nat.mul_pos unitsPerOne_pos hpow)
  unfold nearestRank
  simp only [Nat.mul_div_cancel _ unitsPerOne_pos, hround]
  exact hrank.symm

theorem nearestRank_zero {den : Nat} (hden : 0 < den) : nearestRank 0 den = 0 := by
  have hunits : units 0 = 0 := rfl
  calc nearestRank 0 den
      = nearestRank (units 0) unitsPerOne :=
        nearestRank_eq_of_mul_eq hden unitsPerOne_pos (by simp only [hunits, Nat.zero_mul])
    _ = 0 := nearestRank_units 0

end Binary64

namespace Decimal

open Binary64

/-! ## The nearest number of a decimal -/

theorem ratio_eq (d : Decimal) :
    d.ratio = (d.digits * Nat.pow 10 d.exponent.toNat, Nat.pow 10 (-d.exponent).toNat) := by
  unfold ratio
  split
  · next h =>
    have hzero : (-d.exponent).toNat = 0 := by omega
    rw [hzero]
  · next h =>
    have hzero : d.exponent.toNat = 0 := by omega
    rw [hzero]
    exact congrArg (·, _) (Nat.mul_one d.digits).symm

/-- The rank of the magnitude that is nearest to the decimal. -/
def nearest (d : Decimal) : Nat := nearestRank d.ratio.1 d.ratio.2

/-- The number that a decimal is read as depends on its sign and its nearest magnitude. -/
theorem ofDecimal_eq_of_nearest_eq {d d' : Decimal} (hsign : d.negative = d'.negative)
    (h : d.nearest = d'.nearest) : ofDecimal d = ofDecimal d' := by
  unfold nearest at h
  simp only [ofDecimal, ofRatio, hsign, h]

theorem ofDecimal_eq_finite_iff {d : Decimal} {negative : Bool}
    {rank : Fin (2047 * Nat.pow 2 52)} :
    ofDecimal d = finite negative rank ↔ d.negative = negative ∧ d.nearest = rank := by
  unfold ofDecimal ofRatio nearest
  simp only
  constructor
  · intro h
    split at h
    · cases h
      exact ⟨rfl, rfl⟩
    · cases h
  · rintro ⟨rfl, h⟩
    have hlt : nearestRank d.ratio.1 d.ratio.2 < 2047 * Nat.pow 2 52 := h ▸ rank.isLt
    rw [dif_pos hlt]
    exact congrArg _ (Fin.ext h)

/-- Zeros behind the digits do not change the nearest number, as long as the exponent makes up for
them. -/
theorem nearest_shift (negative negative' : Bool) (digits zeros : Nat) (exponent : Int) :
    nearest ⟨negative, digits * Nat.pow 10 zeros, exponent - zeros⟩ =
      nearest ⟨negative', digits, exponent⟩ := by
  have hsum : zeros + (exponent - zeros).toNat + (-exponent).toNat =
      exponent.toNat + (-(exponent - zeros)).toNat := by
    omega
  unfold nearest
  rw [ratio_eq, ratio_eq]
  refine nearestRank_eq_of_mul_eq (Nat.pow_pos (by decide)) (Nat.pow_pos (by decide)) ?_
  simp only [Nat.pow_eq, Nat.mul_assoc, ← Nat.pow_add]
  rw [← hsum, Nat.add_assoc]

theorem nearest_zero (negative : Bool) (exponent : Int) : nearest ⟨negative, 0, exponent⟩ = 0 := by
  unfold nearest
  rw [ratio_eq, Nat.zero_mul]
  exact nearestRank_zero (Nat.pow_pos (by decide))

end Decimal

namespace Binary64

/-! ## Shortest decimals -/

/-- Trailing zeros may be dropped. -/
theorem nearest_dropZeros (fuel : Nat) (d : Decimal) : (dropZeros fuel d).nearest = d.nearest := by
  induction fuel generalizing d with
  | zero => rfl
  | succ fuel ih =>
    rw [dropZeros]
    split
    · next hzero =>
      have hdigits : d.digits = d.digits / 10 * Nat.pow 10 1 :=
        (Nat.div_mul_cancel (Nat.dvd_of_mod_eq_zero hzero)).symm
      have hexponent : d.exponent = d.exponent + 1 - (1 : Nat) := by omega
      rw [ih, ← Decimal.nearest_shift d.negative d.negative (d.digits / 10) 1 (d.exponent + 1),
        ← hdigits, ← hexponent]
    · rfl

/-- What is found on a grid reads back. -/
theorem nearest_of_onGrid? {tie : Tie} {rank : Fin (2047 * Nat.pow 2 52)} {place : Int}
    {d : Decimal} (h : onGrid? tie rank place = some d) : d.nearest = rank := by
  have hreads : ∀ {d' : Decimal}, (ofDecimal d' == finite false rank) = true → d'.nearest = rank :=
    fun hread => (Decimal.ofDecimal_eq_finite_iff.1 (eq_of_beq hread)).2
  unfold onGrid? at h
  simp only at h
  split at h
  · split at h
    · next hread => cases h; exact hreads hread
    · split at h
      · next hread => cases h; exact hreads hread
      · cases h
  · split at h
    · next hread => cases h; exact hreads hread
    · split at h
      · next hread => cases h; exact hreads hread
      · cases h

/-- The value of a magnitude, written out in full, reads back. -/
theorem nearest_units (negative : Bool) (rank : Nat) :
    Decimal.nearest ⟨negative, units rank * Nat.pow 5 1074, -1074⟩ = rank := by
  have hden : ∀ n, Nat.pow 10 n = Nat.pow 2 n * Nat.pow 5 n := fun n => Nat.mul_pow 2 5 n
  have hfive : ∀ n, 0 < Nat.pow 5 n := fun n => Nat.pow_pos (by decide)
  have hratio : ∀ digits, Decimal.ratio ⟨negative, digits, -1074⟩ = (digits, Nat.pow 10 1074) :=
    fun _ => if_neg (show ¬ (0 : Int) ≤ -1074 by decide)
  calc Decimal.nearest ⟨negative, units rank * Nat.pow 5 1074, -1074⟩
      = nearestRank (units rank * Nat.pow 5 1074) (Nat.pow 2 1074 * Nat.pow 5 1074) := by
        rw [Decimal.nearest, hratio, hden]
    _ = nearestRank (units rank) (Nat.pow 2 1074) := nearestRank_mul_mul _ _ (hfive 1074)
    _ = rank := nearestRank_units rank

/-- The shortest decimal of a magnitude reads back. -/
theorem nearest_shortestOfRank (tie : Tie) (rank : Fin (2047 * Nat.pow 2 52)) :
    (shortestOfRank tie rank).nearest = rank := by
  unfold shortestOfRank
  split
  · next hzero =>
    rw [Decimal.nearest_zero, hzero]
  · simp only
    split
    · next d hfound =>
      obtain ⟨n, _, hgrid⟩ := List.exists_of_findSome?_eq_some hfound
      rw [nearest_dropZeros]
      exact nearest_of_onGrid? hgrid
    · exact nearest_units false rank

/-- Every finite number is read back from its shortest decimal. -/
theorem exists_shortest? (tie : Tie) {x : Binary64} (h : x.isFinite = true) :
    ∃ d, x.shortest? tie = some d ∧ ofDecimal d = x := by
  cases x with
  | finite negative rank =>
    refine ⟨_, rfl, Decimal.ofDecimal_eq_finite_iff.2 ⟨rfl, ?_⟩⟩
    exact nearest_shortestOfRank tie rank
  | infinite negative => cases h
  | nan => cases h

end Binary64

end InventoryFilter
