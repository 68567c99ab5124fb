import InventoryFilter.Pattern.Standard
import InventoryFilter.Proofs.Borders
import InventoryFilter.Proofs.PatternText
import InventoryFilter.Proofs.QuantityGrammar

set_option autoImplicit false

/-!
# Amounts in megabytes

An amount is rounded three times on its way into SQL: when it is read, when it is multiplied by the
factor of its unit, and when it is written with two places.  The factors are powers of two, so the
second rounding changes nothing, except for numbers that are so small that they are written as zero
anyway.  What is written is therefore the exact product rounded once, and amounts keep their order
across units.
-/

namespace InventoryFilter

theorem NearestEven.zero {x : ℚ} (hzero : 0 ≤ x) (hhalf : x < 1 / 2) : NearestEven x 0 := by
  have hlt : |x - (0 : ℕ)| < 1 / 2 := by
    rwa [Nat.cast_zero, sub_zero, abs_of_nonneg hzero]
  exact ⟨hlt.le, fun heq => absurd heq hlt.ne⟩

namespace Binary64

/-! ## Powers of two -/

theorem width_zero_le : width 0 ≤ 1 / 2 ^ 100 := by
  have hle : width (0 + 100) ≤ width 1074 := width_mono (by decide)
  rw [width_one, width_add] at hle
  rw [le_div_iff₀ (by positivity)]
  exact hle

theorem exists_roundsAt_of_nonneg {x : ℚ} (hx : 0 ≤ x) :
    ∃ rank spacing m y, RoundsAt x rank spacing m y := by
  have hnum : (x.num.toNat : ℚ) / x.den = x := by
    have hcast : ((x.num.toNat : ℤ) : ℚ) = x.num := by
      rw [Int.toNat_of_nonneg (Rat.num_nonneg.2 hx)]
    rw [← Int.cast_natCast, hcast, Rat.num_div_den]
  obtain ⟨spacing, m, y, hrounds⟩ := exists_roundsAt x.num.toNat x.den_pos
  rw [hnum] at hrounds
  exact ⟨_, spacing, m, y, hrounds⟩

/-- With all 53 bits, a product with a power of two is rounded as the number itself is. -/
theorem RoundsAt.shift {x y : ℚ} {rank spacing m : ℕ} (h : RoundsAt x rank spacing m y)
    (hy : (Nat.pow 2 52 : ℕ) ≤ y) (k : ℕ) :
    RoundsAt (x * 2 ^ k) (rank + k * Nat.pow 2 52) (spacing + k) m y where
  quotient_eq := by rw [h.quotient_eq, width_add, mul_assoc]
  rank_eq := by
    rw [h.rank_eq, Nat.add_mul]
    omega
  nearest := h.nearest
  above := .inr hy
  below := h.below

namespace IsNearest

theorem magnitude_self (rank : ℕ) : IsNearest (magnitude rank) rank where
  near := by
    intro other
    rw [sub_self, abs_zero]
    exact abs_nonneg _
  even := by
    intro other hother heq
    rw [sub_self, abs_zero, abs_eq_zero, sub_eq_zero] at heq
    exact absurd (strictMono_magnitude.injective heq.symm) hother

theorem magnitude_le {x : ℚ} {rank : ℕ} (h : IsNearest x rank) (hx : 0 ≤ x) :
    magnitude rank ≤ 2 * x := by
  have hunits : units 0 = 0 := by decide
  have hzero : magnitude 0 = 0 := by rw [magnitude, hunits, Nat.cast_zero, zero_div]
  have hnear := h.near 0
  rw [hzero, sub_zero, abs_of_nonneg hx] at hnear
  linarith [(abs_le.1 hnear).1]

end IsNearest

theorem magnitude_nonneg (rank : ℕ) : 0 ≤ magnitude rank := by
  unfold magnitude
  positivity

/-! ## Hundredths -/

theorem nearestEven_scaledRank (rank : ℕ) :
    NearestEven (100 * magnitude rank) (scaledRank 2 rank) := by
  have hrounds := nearestEven_roundDiv (units rank * Nat.pow 10 2) unitsPerOne_pos
  rw [Nat.cast_mul, mul_comm, mul_div_assoc] at hrounds
  exact hrounds

theorem scaledRank_mono {rank rank' : ℕ} (h : rank ≤ rank') :
    scaledRank 2 rank ≤ scaledRank 2 rank' := by
  refine (nearestEven_scaledRank rank).mono (nearestEven_scaledRank rank') ?_
  linarith [strictMono_magnitude.monotone h]

/-- What is far below a hundredth is written as zero. -/
theorem IsNearest.scaledRank_eq_zero {x : ℚ} {rank : ℕ} (h : IsNearest x rank) (hx : 0 ≤ x)
    (hsmall : x ≤ 1 / 800) : scaledRank 2 rank = 0 := by
  refine (nearestEven_scaledRank rank).unique (.zero ?_ ?_)
  · linarith [magnitude_nonneg rank]
  · linarith [h.magnitude_le hx]

end Binary64

open Binary64

namespace StorageUnit

theorem megabytes_nonneg (unit : StorageUnit) : 0 ≤ unit.megabytes := by
  rw [megabytes_eq]
  positivity

/-- The rounded product of a rounded number with the factor of a unit is exact, and is what the
exact product is rounded to.  Only where bits are missing may this fail, and such products are
tiny. -/
theorem product_cases (unit : StorageUnit) {x : ℚ} (hx : 0 ≤ x) {rank product : ℕ}
    (hrank : IsNearest x rank) (hproduct : IsNearest (magnitude rank * unit.megabytes) product) :
    (magnitude product = magnitude rank * unit.megabytes ∧
      IsNearest (x * unit.megabytes) product) ∨ x * unit.megabytes ≤ 1 / 1600 := by
  obtain ⟨k, hk, hmegabytes⟩ : ∃ k, k ≤ 30 ∧ unit.megabytes = 2 ^ k / 2 ^ 10 :=
    ⟨_, by have := unit.exponent_le; omega, unit.megabytes_eq⟩
  have hscale : x / 2 ^ 10 * 2 ^ k = x * unit.megabytes := by
    rw [hmegabytes]
    ring
  -- the number and the product are both the base times a power of two
  have hnonneg : 0 ≤ x / 2 ^ 10 := div_nonneg hx (by positivity)
  obtain ⟨base, spacing, m, y, hbase⟩ := exists_roundsAt_of_nonneg hnonneg
  rw [← hscale]
  rcases le_or_gt ((Nat.pow 2 52 : ℕ) : ℚ) y with hy | hy
  · refine .inl ?_
    have hself := hbase.shift hy 10
    rw [div_mul_cancel₀ x (by positivity)] at hself
    have hshift := hbase.shift hy k
    obtain rfl := hrank.unique hself.isNearest
    have hexact : magnitude (base + k * Nat.pow 2 52) =
        magnitude (base + 10 * Nat.pow 2 52) * unit.megabytes := by
      rw [hself.magnitude_eq, hshift.magnitude_eq, width_add, width_add, hmegabytes]
      field_simp
    rw [← hexact] at hproduct ⊢
    obtain rfl := (IsNearest.magnitude_self _).unique hproduct
    exact ⟨rfl, hshift.isNearest⟩
  · refine .inr ?_
    obtain rfl := hbase.above.resolve_right (not_le.2 hy)
    have hbits : ((Nat.pow 2 52 : ℕ) : ℚ) = 2 ^ 52 := by norm_cast
    have hpow : (2 : ℚ) ^ k ≤ 2 ^ 30 := pow_le_pow_right₀ one_le_two hk
    calc x / 2 ^ 10 * 2 ^ k
        ≤ x / 2 ^ 10 * 2 ^ 30 := mul_le_mul_of_nonneg_left hpow hnonneg
      _ = y * width 0 * 2 ^ 30 := by rw [hbase.quotient_eq]
      _ ≤ 2 ^ 52 * width 0 * 2 ^ 30 := by
          refine mul_le_mul_of_nonneg_right ?_ (by positivity)
          exact mul_le_mul_of_nonneg_right (hbits ▸ hy.le) (width_pos 0).le
      _ ≤ 1 / 1600 := by linarith [width_zero_le]

end StorageUnit

/-- A count of hundredths in decimal, with two places behind the point. -/
def hundredths (n : ℕ) : String :=
  toString (n / 100) ++ "." ++ (if n % 100 < 10 then "0" else "") ++ toString (n % 100)

theorem ofList_fixedDigits (n : ℕ) : String.ofList (fixedDigits 2 n) = hundredths n := by
  have hzeros : List.replicate (2 - (Nat.toDigits 10 (n % 100)).length) '0' =
      (if n % 100 < 10 then "0" else "").toList := by
    have hpos : 0 < (Nat.toDigits 10 (n % 100)).length := Nat.length_toDigits_pos
    have hone := @Nat.length_toDigits_le_iff 10 (n % 100) 1 (by decide) (by decide)
    split
    · next hlt =>
      have hlength : (Nat.toDigits 10 (n % 100)).length = 1 := by omega
      rw [hlength]
      rfl
    · next hge =>
      have hlength : 2 - (Nat.toDigits 10 (n % 100)).length = 0 := by omega
      rw [hlength]
      rfl
  have hwhole : (toString (n / 100)).toList = Nat.toDigits 10 (n / 100) := String.toList_ofList
  have hpart : (toString (n % 100)).toList = Nat.toDigits 10 (n % 100) := String.toList_ofList
  have hpoint : ".".toList = ['.'] := by decide
  refine String.ext ?_
  simp only [hundredths, fixedDigits, hzeros, hwhole, hpart, hpoint,
    String.toList_append, String.toList_ofList, List.append_assoc, List.cons_append,
    List.nil_append]

theorem decimal_hundredths (n : ℕ) : Lexical.decimal (hundredths n).toList = n / 100 := by
  obtain ⟨whole, fraction, hdigits, hwhole, hfraction, hlength, hcount⟩ :=
    exists_fixedDigits_eq Nat.two_pos n
  rw [← ofList_fixedDigits, String.toList_ofList, hdigits,
    Lexical.decimal_point hwhole.2 hfraction.2, hlength, hcount]
  norm_num

namespace Quantity

theorem sql_eq {q : Quantity} {negative : Bool} {rank : Fin (2047 * Nat.pow 2 52)}
    (h : q.baseline = .finite negative rank) :
    q.sql = (if negative then "-" else "") ++ hundredths (scaledRank 2 rank) := by
  have hsign : (if negative then "-" else "") = String.ofList (if negative then ['-'] else []) := by
    cases negative <;> rfl
  rw [sql, h, hsign, ← ofList_fixedDigits, ← String.ofList_append]
  rfl

/-- What is read has a finite number of megabytes, and that is the rounded product. -/
theorem exists_baseline_of_ofText {text : String} {q : Quantity} (h : ofText text = .ok q) :
    ∃ negative rank product, q.value = .finite negative rank ∧
      q.baseline = .finite negative product ∧
      IsNearest (magnitude rank * q.unit.megabytes) product := by
  obtain ⟨d, rank, _, hvalue, _, hfinite⟩ := exists_value_of_ofText h
  have hrounds := roundsTo_baseline hvalue
  generalize q.baseline = baseline at hrounds hfinite
  cases hrounds with
  | infinite _ => cases hfinite
  | @finite product _ hnearest => exact ⟨_, rank, product, hvalue, rfl, hnearest⟩

/-- An amount is written as the exact product of its number and the factor of its unit, rounded once
to hundredths. -/
theorem sql_rounds_once {text : String} {q : Quantity} (h : ofText text = .ok q) :
    ∃ negative rank n, q.value = .finite negative rank ∧
      NearestEven (100 * (magnitude rank * q.unit.megabytes)) n ∧
      q.sql = (if negative then "-" else "") ++ hundredths n := by
  obtain ⟨negative, rank, product, hvalue, hbaseline, hproduct⟩ := exists_baseline_of_ofText h
  refine ⟨negative, rank, _, hvalue, ?_, sql_eq hbaseline⟩
  have hnonneg : 0 ≤ magnitude rank * q.unit.megabytes :=
    mul_nonneg (magnitude_nonneg rank) q.unit.megabytes_nonneg
  rcases q.unit.product_cases (magnitude_nonneg rank) (.magnitude_self rank) hproduct with
    ⟨hexact, _⟩ | htiny
  · rw [← hexact]
    exact nearestEven_scaledRank product
  · rw [hproduct.scaledRank_eq_zero hnonneg (by linarith)]
    exact .zero (by linarith) (by linarith)

/-- Half a hundredth goes to the even neighbour, here away from zero, and the sign stays. -/
theorem sql_rounds_once_tie :
    ∃ q, ofText "-384kb" = .ok q ∧ q.sql = "-0.38" ∧ ∃ negative rank n,
      q.value = .finite negative rank ∧
      NearestEven (100 * (magnitude rank * q.unit.megabytes)) n ∧
      q.sql = (if negative then "-" else "") ++ hundredths n := by
  have hread : ∃ q, (ofText "-384kb").toOption = some q ∧ q.sql = "-0.38" :=
    ⟨(ofText "-384kb").toOption.getD default, by decide +kernel⟩
  obtain ⟨q, hok, hsql⟩ := hread
  have hq := eq_ok_of_toOption_eq_some hok
  exact ⟨q, hq, hsql, sql_rounds_once hq⟩

namespace Spelling

/-- The exact number of megabytes that is spelled, without its sign. -/
def amount {text : List Char} (s : Spelling text) : ℚ := s.value * s.unit.megabytes

theorem value_nonneg {text : List Char} (s : Spelling text) : 0 ≤ s.value := by
  unfold value Lexical.decimal
  positivity

theorem amount_nonneg {text : List Char} (s : Spelling text) : 0 ≤ s.amount :=
  mul_nonneg s.value_nonneg s.unit.megabytes_nonneg

/-- However an amount is spelled, it is written like the number that is nearest to it. -/
theorem exists_sql_eq {text : String} {q : Quantity} (s : Spelling text.toList)
    (h : ofText text = .ok q) :
    ∃ rank, IsNearest s.amount rank ∧
      q.sql = (if s.negative then "-" else "") ++ hundredths (scaledRank 2 rank) := by
  obtain ⟨value, hrounds, hread⟩ := s.exists_ofText_eq
  obtain ⟨rfl, _⟩ := checkRange_eq_ok_iff.1 (hread.symm.trans h)
  obtain ⟨negative, rank, product, hvalue, hbaseline, hproduct⟩ := exists_baseline_of_ofText h
  obtain rfl : value = .finite negative rank := hvalue
  cases hrounds with
  | finite _ hnearest =>
    rcases s.unit.product_cases s.value_nonneg hnearest hproduct with ⟨_, hamount⟩ | htiny
    · exact ⟨product, hamount, sql_eq hbaseline⟩
    · obtain ⟨rank', _, _, _, hrank'⟩ := exists_roundsAt_of_nonneg s.amount_nonneg
      refine ⟨rank', hrank'.isNearest, ?_⟩
      have hmegabytes := s.unit.megabytes_nonneg
      have hle := mul_le_mul_of_nonneg_right (hnearest.magnitude_le s.value_nonneg) hmegabytes
      have hzero : scaledRank 2 product = 0 :=
        hproduct.scaledRank_eq_zero (mul_nonneg (magnitude_nonneg _) hmegabytes) (by linarith)
      have hzero' : scaledRank 2 rank' = 0 :=
        hrank'.isNearest.scaledRank_eq_zero s.amount_nonneg (htiny.trans (by norm_num))
      rw [sql_eq hbaseline, hzero, hzero']

end Spelling

/-! ## Scanned quantities -/

/-- A scanned quantity is spelled without a sign. -/
theorem Spelling.negative_of_mem_tokenize {input : String} {t : Token} (ht : t ∈ tokenize input)
    (hkind : t.kind = .quantity) (s : Spelling t.lexeme.toList) : s.negative = false := by
  obtain ⟨number, letters, htext, hnumber, _, _⟩ := exists_isNumeral_of_mem_tokenize ht hkind
  obtain ⟨c, ds, rfl, hdigit⟩ := hnumber.eq_cons
  have hhead := htext.symm.trans s.text_eq
  rcases s.isSign with hsign | hsign | hsign
  · rw [negative, hsign]
    rfl
  · rw [hsign] at hhead
    rw [(List.cons.inj hhead).1] at hdigit
    cases hdigit
  · rw [hsign] at hhead
    rw [(List.cons.inj hhead).1] at hdigit
    cases hdigit

end Quantity

/-- A scanned quantity, taken out of its filter, is a filter of its own. -/
theorem tokenize_quantity_lexeme {input : String} {t : Token} (ht : t ∈ tokenize input)
    (hkind : t.kind = .quantity) :
    tokenize t.lexeme = [⟨.quantity, ⟨0, t.lexeme.utf8ByteSize⟩, t.lexeme⟩,
      .finishAt t.lexeme.utf8ByteSize] := by
  obtain ⟨number, letters, hnumeral, hnumber, _, _⟩ := exists_isNumeral_of_mem_tokenize ht hkind
  obtain ⟨d, ds, rfl, hdigit⟩ := hnumber.eq_cons
  obtain ⟨before, c, after, l, rest, -, hfirst, rfl⟩ :=
    (tiles_tokenize input).exists_first t ht (by rw [hkind]; decide)
  rw [Lexeme.kind_tokenAt] at hkind
  have hsource := Lexeme.first_source c after
  have hsays := Lexeme.first_says c after
  rw [hfirst] at hsource hsays
  simp only [hkind] at hsource hsays
  have htext : l.text = l.source := hsays
  have hlexeme : (l.tokenAt (0 + Text.byteLength before)).lexeme.toList = l.source := by
    simp [Lexeme.tokenAt, htext]
  have hcons : l.source = d :: (ds ++ letters) := hlexeme.symm.trans hnumeral
  rw [hcons] at hsource
  obtain ⟨rfl, rfl⟩ := List.cons.inj hsource
  have hstands : l.Stands rest := ⟨_, _, hcons, isSeparator_eq_false hdigit (by decide), hfirst⟩
  have hbreaks : Lexeme.Breaks [] := fun c hc => absurd hc (by simp)
  obtain ⟨c', cs', hsource', hsep, hfirst'⟩ :=
    hstands.of_offersNoMore (hbreaks.offersNoMore rest) (fun _ => rfl)
  rw [List.append_nil] at hfirst'
  rw [tokenize_of_first (hlexeme.trans hsource') hsep hfirst', hkind]
  rfl

/-- A scanned quantity that is read is compiled to its number of megabytes. -/
theorem compile_quantity_lexeme [Pattern.Validator] {input : String} {t : Token}
    (ht : t ∈ tokenize input) (hkind : t.kind = .quantity) {q : Quantity}
    (h : Quantity.ofText t.lexeme = .ok q) (columns : ColumnMap) :
    compile t.lexeme columns = .ok q.sql := by
  have hparse : parse t.lexeme = .ok (.quantity q) := by
    rw [parse_eq_ok_iff, tokenize_quantity_lexeme ht hkind]
    exact .single (.single (.single (.leaf (.quantity rfl h))))
  rw [compile_eq, hparse]
  rfl

namespace Quantity

/-- Amounts keep their order across units, and equal amounts are compiled to the same text. -/
theorem sql_keeps_order [Pattern.Validator] {input input' : String} {t t' : Token}
    (ht : t ∈ tokenize input) (ht' : t' ∈ tokenize input') (hkind : t.kind = .quantity)
    (hkind' : t'.kind = .quantity)
    {q q' : Quantity} (hq : ofText t.lexeme = .ok q) (hq' : ofText t'.lexeme = .ok q')
    (s : Spelling t.lexeme.toList) (s' : Spelling t'.lexeme.toList) :
    (s.amount ≤ s'.amount → Lexical.decimal q.sql.toList ≤ Lexical.decimal q'.sql.toList) ∧
    (s.amount = s'.amount → ∀ columns,
      compile t.lexeme columns = .ok q.sql ∧ compile t'.lexeme columns = .ok q.sql) := by
  obtain ⟨rank, hrank, hsql⟩ := s.exists_sql_eq hq
  obtain ⟨rank', hrank', hsql'⟩ := s'.exists_sql_eq hq'
  rw [s.negative_of_mem_tokenize ht hkind] at hsql
  rw [s'.negative_of_mem_tokenize ht' hkind'] at hsql'
  have hshown : q.sql = hundredths (scaledRank 2 rank) := hsql.trans String.empty_append
  have hshown' : q'.sql = hundredths (scaledRank 2 rank') := hsql'.trans String.empty_append
  constructor
  · intro hle
    rw [hshown, hshown', decimal_hundredths, decimal_hundredths]
    have hscaled : scaledRank 2 rank ≤ scaledRank 2 rank' := scaledRank_mono (hrank.mono hrank' hle)
    exact div_le_div_of_nonneg_right (by exact_mod_cast hscaled) (by norm_num)
  · intro heq columns
    rw [heq] at hrank
    have hsame : q'.sql = q.sql := by rw [hshown, hshown', hrank.unique hrank']
    exact ⟨compile_quantity_lexeme ht hkind hq columns,
      hsame ▸ compile_quantity_lexeme ht' hkind' hq' columns⟩

open scoped Pattern.Standard in
/-- Neither 0.3 nor 307.2 is a number of the format, and both are rounded, but alike. -/
theorem sql_keeps_order_tenths :
    ∃ (s : Spelling "0.3gb".toList) (s' : Spelling "307.20MB".toList),
      s.amount = 1536 / 5 ∧ s'.amount = 1536 / 5 ∧
      compile "0.3gb" .empty = .ok "307.20" ∧ compile "307.20MB" .empty = .ok "307.20" := by
  have htoken : (⟨.quantity, ⟨6, 11⟩, "0.3gb"⟩ : Token) ∈ tokenize "disk >0.3gb" := by
    decide +kernel
  have htoken' : (⟨.quantity, ⟨0, 8⟩, "307.20MB"⟩ : Token) ∈ tokenize "307.20MB" := by
    decide +kernel
  obtain ⟨q, hread, hsql⟩ : ∃ q, (ofText "0.3gb").toOption = some q ∧ q.sql = "307.20" :=
    ⟨(ofText "0.3gb").toOption.getD default, by decide +kernel⟩
  obtain ⟨q', hread'⟩ : ∃ q, (ofText "307.20MB").toOption = some q :=
    ⟨(ofText "307.20MB").toOption.getD default, by decide +kernel⟩
  let s : Spelling "0.3gb".toList :=
    ⟨[], "0.3".toList, "gb".toList, .gigabyte, by decide, .inl rfl, by decide, rfl⟩
  let s' : Spelling "307.20MB".toList :=
    ⟨[], "307.20".toList, "MB".toList, .megabyte, by decide, .inl rfl, by decide, rfl⟩
  have hamount : s.amount = 1536 / 5 := by decide +kernel
  have hamount' : s'.amount = 1536 / 5 := by decide +kernel
  have hsame := (sql_keeps_order htoken htoken' rfl rfl (eq_ok_of_toOption_eq_some hread)
    (eq_ok_of_toOption_eq_some hread') s s').2 (hamount.trans hamount'.symm) .empty
  rw [hsql] at hsame
  exact ⟨s, s', hamount, hamount', hsame⟩

end Quantity

end InventoryFilter
