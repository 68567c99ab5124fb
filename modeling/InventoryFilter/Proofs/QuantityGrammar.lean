import InventoryFilter.Proofs.LetterCase
import InventoryFilter.Proofs.NearestNumber

set_option autoImplicit false

/-!
# The grammar of quantities

Which texts are quantities, said without a reader:

    quantity := ("+" | "-")? decimal ("kb" | "mb" | "gb" | "tb")?    units in any ASCII case
    decimal  := digits with at most one point among them, and at least one digit

A text that is not spelled so is malformed.  One that is stands for the number of the format that is
nearest to what it spells, and is out of range if that number, or its product with the factor of the
unit, lies beyond the limit of the format.
-/

namespace InventoryFilter

namespace Lexical

/-! ## Decimals -/

/-- Digits with at most one point among them, and at least one digit. -/
structure IsDecimal (cs : List Char) : Prop where
  isDigit_or_point : ∀ c ∈ cs, c.isDigit = true ∨ c = '.'
  count_point : cs.count '.' ≤ 1
  exists_digit : ∃ c ∈ cs, c.isDigit = true

instance (cs : List Char) : Decidable (IsDecimal cs) :=
  decidable_of_iff (cs.all (fun c => c.isDigit || c == '.') = true ∧ cs.count '.' ≤ 1 ∧
      cs.any Char.isDigit = true) <| by
    rw [List.all_eq_true, List.any_eq_true]
    simp only [Bool.or_eq_true, beq_iff_eq]
    exact ⟨fun ⟨hchar, hcount, hdigit⟩ => ⟨hchar, hcount, hdigit⟩,
      fun ⟨hchar, hcount, hdigit⟩ => ⟨hchar, hcount, hdigit⟩⟩

/-- The exact number that the digits of a text spell, some of them perhaps behind a point. -/
def decimal (cs : List Char) : ℚ :=
  Decimal.ofDigits (cs.filter Char.isDigit) /
    10 ^ ((cs.dropWhile (· != '.')).filter Char.isDigit).length

theorem point_notMem {cs : List Char} (h : ∀ c ∈ cs, c.isDigit = true) : '.' ∉ cs :=
  fun hmem => absurd (h '.' hmem) (by decide)

theorem dropWhile_point {cs : List Char} (h : '.' ∉ cs) (rest : List Char) :
    (cs ++ rest).dropWhile (· != '.') = rest.dropWhile (· != '.') := by
  refine List.dropWhile_append_of_pos fun c hc => ?_
  simp only [bne_iff_ne]
  rintro rfl
  exact h hc

theorem decimal_whole {whole : List Char} (h : ∀ c ∈ whole, c.isDigit = true) :
    decimal whole = Decimal.ofDigits whole := by
  have hdrop := dropWhile_point (point_notMem h) []
  rw [List.append_nil] at hdrop
  rw [decimal, hdrop, List.filter_eq_self.2 h]
  simp

theorem decimal_point {whole fraction : List Char} (hwhole : ∀ c ∈ whole, c.isDigit = true)
    (hfraction : ∀ c ∈ fraction, c.isDigit = true) :
    decimal (whole ++ '.' :: fraction) =
      Decimal.ofDigits (whole ++ fraction) / 10 ^ fraction.length := by
  have hdrop : (whole ++ '.' :: fraction).dropWhile (· != '.') = '.' :: fraction := by
    rw [dropWhile_point (point_notMem hwhole)]
    rfl
  have hpoint : ('.' :: fraction).filter Char.isDigit = fraction :=
    (List.filter_cons_of_neg (by decide)).trans (List.filter_eq_self.2 hfraction)
  rw [decimal, hdrop, List.filter_append, hpoint, List.filter_eq_self.2 hwhole]

/-- A decimal is a run of digits, or two runs around a point of which one may be empty. -/
theorem isDecimal_iff {cs : List Char} :
    IsDecimal cs ↔ IsDigits cs ∨ ∃ whole fraction, cs = whole ++ '.' :: fraction ∧
      (∀ c ∈ whole, c.isDigit = true) ∧ (∀ c ∈ fraction, c.isDigit = true) ∧
      (whole ≠ [] ∨ fraction ≠ []) := by
  constructor
  · rintro ⟨hchar, hcount, d, hd, hdigit⟩
    have hrun : ∀ run : List Char, (∀ c ∈ run, c ∈ cs) → '.' ∉ run →
        ∀ c ∈ run, c.isDigit = true := by
      intro run hmem hpoint c hc
      refine (hchar c (hmem c hc)).resolve_right ?_
      rintro rfl
      exact hpoint hc
    by_cases hpoint : '.' ∈ cs
    · obtain ⟨whole, fraction, rfl, hwhole⟩ := List.eq_append_cons_of_mem hpoint
      have hfraction : '.' ∉ fraction := by
        rw [List.count_append, List.count_cons_self] at hcount
        exact List.count_eq_zero.1 (by omega)
      refine .inr ⟨whole, fraction, rfl, hrun whole (by simp +contextual) hwhole,
        hrun fraction (by simp +contextual) hfraction, ?_⟩
      by_contra hempty
      obtain ⟨rfl, rfl⟩ : whole = [] ∧ fraction = [] := by simpa [not_or] using hempty
      rw [List.mem_singleton.1 hd] at hdigit
      cases hdigit
    · exact .inl ⟨List.ne_nil_of_mem hd, hrun cs (fun _ hc => hc) hpoint⟩
  · rintro (⟨hne, hdigits⟩ | ⟨whole, fraction, rfl, hwhole, hfraction, hne⟩)
    · obtain ⟨c, ds, rfl⟩ := List.exists_cons_of_ne_nil hne
      refine ⟨fun d hd => .inl (hdigits d hd), ?_, c, by simp, hdigits c (by simp)⟩
      rw [List.count_eq_zero.2 (point_notMem hdigits)]
      exact Nat.zero_le 1
    · refine ⟨fun c hc => ?_, ?_, ?_⟩
      · rcases List.mem_append.1 hc with hc | hc
        · exact .inl (hwhole c hc)
        · rcases List.mem_cons.1 hc with hpoint | hc
          · exact .inr hpoint
          · exact .inl (hfraction c hc)
      · rw [List.count_append, List.count_cons_self, List.count_eq_zero.2 (point_notMem hwhole),
          List.count_eq_zero.2 (point_notMem hfraction)]
      · rcases hne with hne | hne
        · obtain ⟨c, ds, rfl⟩ := List.exists_cons_of_ne_nil hne
          exact ⟨c, by simp, hwhole c (by simp)⟩
        · obtain ⟨c, ds, rfl⟩ := List.exists_cons_of_ne_nil hne
          exact ⟨c, by simp, hfraction c (by simp)⟩

end Lexical

namespace StorageUnit

/-! ## Units -/

/-- The exact number of megabytes in the unit. -/
def megabytes : StorageUnit → ℚ
  | none => 1
  | kilobyte => 1 / 1024
  | megabyte => 1
  | gigabyte => 1024
  | terabyte => 1048576

/-- Whether the letters name the unit, in any ASCII case. -/
def Names : StorageUnit → List Char → Prop
  | none, letters => letters = []
  | kilobyte, letters => Lexical.IsSpelling "kb" letters
  | megabyte, letters => Lexical.IsSpelling "mb" letters
  | gigabyte, letters => Lexical.IsSpelling "gb" letters
  | terabyte, letters => Lexical.IsSpelling "tb" letters

theorem names_iff {unit : StorageUnit} {letters : List Char} :
    unit.Names letters ↔ Text.asciiLower letters = Text.asciiLower unit.suffix.toList := by
  cases unit with
  | none => simp [Names, suffix, Text.asciiLower]
  | kilobyte => exact Iff.rfl
  | megabyte => exact Iff.rfl
  | gigabyte => exact Iff.rfl
  | terabyte => exact Iff.rfl

theorem Names.isLetters {unit : StorageUnit} {letters : List Char} (h : unit.Names letters) :
    Lexical.IsLetters letters := by
  intro c hc
  have hlower : c.toLower ∈ Text.asciiLower unit.suffix.toList := by
    rw [← names_iff.1 h]
    exact List.mem_map_of_mem hc
  obtain ⟨d, hd, hsame⟩ := List.mem_map.1 hlower
  rw [← Text.isAlpha_toLower, ← hsame, Text.isAlpha_toLower]
  exact unit.isAlpha_of_mem_suffix d hd

end StorageUnit

namespace Quantity

open Lexical

theorem readUnit?_eq_some_iff {letters : List Char} {unit : StorageUnit} :
    readUnit? letters = some unit ↔ unit.Names letters := by
  rw [StorageUnit.names_iff]
  by_cases hempty : letters = []
  · subst hempty
    constructor
    · intro h
      cases h
      rfl
    · intro h
      have hunit : StorageUnit.none = unit := StorageUnit.eq_of_asciiLower_suffix_eq h
      rw [← hunit]
      rfl
  · rw [readUnit?, if_neg (by simpa using hempty)]
    constructor
    · intro h
      have hsame := List.find?_some h
      exact ((Text.sameIgnoringCase_iff _ _).1 hsame).symm
    · intro h
      have hunit : unit ≠ .none := by
        rintro rfl
        exact hempty (Text.asciiLower_eq_nil_iff.1 h)
      rw [← StorageUnit.ofSuffix?_asciiLower, h, StorageUnit.ofSuffix?_asciiLower]
      exact StorageUnit.ofSuffix?_suffix unit hunit

/-! ## Numbers -/

/-- A decimal is read as the number that it spells. -/
theorem exists_readMagnitude? {cs : List Char} (h : IsDecimal cs) (negative : Bool) :
    ∃ d, readMagnitude? negative cs = some d ∧ d.negative = negative ∧
      (d.ratio.1 : ℚ) / d.ratio.2 = decimal cs := by
  rcases isDecimal_iff.1 h with ⟨hne, hdigits⟩ | ⟨whole, fraction, rfl, hwhole, hfraction, hne⟩
  · refine ⟨_, readMagnitude?_whole negative hdigits hne, rfl, ?_⟩
    rw [decimal_whole hdigits, Decimal.ratio_eq]
    simp [Decimal.ofParts]
  · refine ⟨_, readMagnitude?_point negative hwhole hfraction hne, rfl, ?_⟩
    rw [decimal_point hwhole hfraction, Decimal.ratio_eq]
    simp [Decimal.ofParts]

/-- Nothing but a decimal is read as a number without a sign. -/
theorem isDecimal_of_readMagnitude? {negative : Bool} {cs : List Char} {d : Decimal}
    (h : readMagnitude? negative cs = some d) : IsDecimal cs := by
  have hwhole : ∀ c ∈ cs.takeWhile Char.isDigit, c.isDigit = true :=
    List.all_eq_true.1 List.all_takeWhile
  have hsplit : cs.takeWhile Char.isDigit ++ cs.dropWhile Char.isDigit = cs :=
    List.takeWhile_append_dropWhile
  unfold readMagnitude? at h
  simp only at h
  rw [isDecimal_iff]
  split at h
  · next hrest =>
    rw [hrest, List.append_nil] at hsplit
    split at h
    · cases h
    · next hne =>
      rw [hsplit] at hwhole hne
      exact .inl ⟨by simpa using hne, hwhole⟩
  · next c fraction hrest =>
    split at h
    · next hform =>
      obtain ⟨rfl, hfraction, hne⟩ := hform
      rw [hrest] at hsplit
      refine .inr ⟨_, fraction, hsplit.symm, hwhole, List.all_eq_true.1 hfraction, ?_⟩
      rw [List.isEmpty_iff, List.isEmpty_iff] at hne
      exact Decidable.not_and_iff_or_not.1 hne
    · cases h

/-- The texts of a sign, or of none. -/
def IsSign (sign : List Char) : Prop := sign = [] ∨ sign = ['+'] ∨ sign = ['-']

theorem readNumber?_sign {sign body : List Char} (hsign : IsSign sign) (hbody : IsDecimal body) :
    readNumber? (sign ++ body) = readMagnitude? (sign == ['-']) body := by
  rcases hsign with rfl | rfl | rfl
  · refine readNumber?_of_head fun c hc => ?_
    rcases hbody.isDigit_or_point c (List.mem_of_mem_head? hc) with hdigit | rfl
    · constructor <;> rintro rfl <;> exact absurd hdigit (by decide)
    · decide
  · rfl
  · rfl

theorem exists_sign_of_readNumber? {cs : List Char} {d : Decimal} (h : readNumber? cs = some d) :
    ∃ sign body, cs = sign ++ body ∧ IsSign sign ∧ IsDecimal body := by
  unfold readNumber? at h
  split at h
  · next body => exact ⟨['+'], body, rfl, .inr (.inl rfl), isDecimal_of_readMagnitude? h⟩
  · next body => exact ⟨['-'], body, rfl, .inr (.inr rfl), isDecimal_of_readMagnitude? h⟩
  · exact ⟨[], _, rfl, .inl rfl, isDecimal_of_readMagnitude? h⟩

end Quantity

namespace Binary64

theorem magnitude_of_mul_eq {rank num den : ℕ} (hden : 0 < den)
    (h : units rank * den = num * unitsPerOne) : magnitude rank = num / den := by
  have hpos : (0 : ℚ) < den := by exact_mod_cast hden
  have hone : (0 : ℚ) < unitsPerOne := by exact_mod_cast unitsPerOne_pos
  rw [magnitude, div_eq_div_iff hone.ne' hpos.ne']
  exact_mod_cast h

end Binary64

open Binary64

namespace StorageUnit

theorem megabytes_eq (unit : StorageUnit) :
    unit.megabytes = 2 ^ (unit.exponent + 10).toNat / 2 ^ 10 := by
  cases unit <;> norm_num [megabytes, exponent, Int.toNat]

/-- The factor of a unit is the number of megabytes in it, without any rounding. -/
theorem exists_magnitude_eq (unit : StorageUnit) :
    ∃ rank, unit.factor = .finite false rank ∧ magnitude rank = unit.megabytes := by
  obtain ⟨rank, hfactor, hunits⟩ := unit.exists_factor_eq
  refine ⟨rank, hfactor, ?_⟩
  rw [magnitude_of_mul_eq (by decide) hunits, megabytes_eq]
  simp only [Nat.pow_eq, Nat.cast_pow, Nat.cast_ofNat]

end StorageUnit

namespace Quantity

/-- The number of megabytes is the rounded product of the number and the factor. -/
theorem roundsTo_baseline {q : Quantity} {negative : Bool} {rank : Fin (2047 * Nat.pow 2 52)}
    (hvalue : q.value = .finite negative rank) :
    RoundsTo negative (magnitude rank * q.unit.megabytes) q.baseline := by
  obtain ⟨f, hfactor, hmegabytes⟩ := q.unit.exists_magnitude_eq
  have hrounds := roundsTo_ofRatio negative (units rank * units f)
    (Nat.mul_pos unitsPerOne_pos unitsPerOne_pos)
  rw [Nat.cast_mul, Nat.cast_mul, ← div_mul_div_comm] at hrounds
  rw [baseline, hvalue, hfactor, mul_finite, Bool.bne_false, ← hmegabytes]
  exact hrounds

/-! ## Spellings -/

/-- How a text spells a quantity. -/
structure Spelling (text : List Char) where
  sign : List Char
  body : List Char
  letters : List Char
  unit : StorageUnit
  text_eq : text = sign ++ body ++ letters
  isSign : IsSign sign
  isDecimal : Lexical.IsDecimal body
  names : unit.Names letters

namespace Spelling

/-- Whether the quantity is spelled with a minus sign. -/
def negative {text : List Char} (s : Spelling text) : Bool := s.sign == ['-']

/-- The exact number that is spelled, without its sign. -/
def value {text : List Char} (s : Spelling text) : ℚ := Lexical.decimal s.body

/-- Whether the number is rounded to infinity, or its product with the factor of the unit is. -/
def TooLarge {text : List Char} (s : Spelling text) : Prop :=
  RoundsTo s.negative s.value (.infinite s.negative) ∨
    ∃ rank, RoundsTo s.negative s.value (.finite s.negative rank) ∧
      RoundsTo s.negative (magnitude rank * s.unit.megabytes) (.infinite s.negative)

theorem isAlpha_eq_false {text : List Char} (s : Spelling text) :
    ∀ c ∈ s.sign ++ s.body, c.isAlpha = false := by
  intro c hc
  rcases List.mem_append.1 hc with hc | hc
  · rcases s.isSign with hsign | hsign | hsign
    · rw [hsign] at hc
      cases hc
    · rw [hsign] at hc
      rw [List.mem_singleton.1 hc]
      rfl
    · rw [hsign] at hc
      rw [List.mem_singleton.1 hc]
      rfl
  · rcases s.isDecimal.isDigit_or_point c hc with hdigit | rfl
    · exact Text.isAlpha_eq_false_of_isDigit hdigit
    · rfl

/-- A text that spells a quantity is read as the number to which its value is rounded, up to the
check of its size. -/
theorem exists_ofText_eq {text : String} (s : Spelling text.toList) :
    ∃ value, RoundsTo s.negative s.value value ∧
      ofText text = checkRange text ⟨value, s.unit⟩ := by
  obtain ⟨htake, hdrop⟩ := Lexical.span_isAlpha s.isAlpha_eq_false s.names.isLetters
  rw [← s.text_eq] at htake hdrop
  obtain ⟨d, hread, hsign, hratio⟩ := exists_readMagnitude? s.isDecimal s.negative
  have hnumber : readNumber? (s.sign ++ s.body) = some d :=
    (readNumber?_sign s.isSign s.isDecimal).trans hread
  refine ⟨.ofDecimal d, ?_, ?_⟩
  · have hrounds := roundsTo_ofRatio d.negative d.ratio.1 d.ratio_snd_pos
    rw [hratio] at hrounds
    rw [← hsign]
    exact hrounds
  · rw [ofText_eq, htake, hdrop, readUnit?_eq_some_iff.2 s.names, hnumber]

/-- What is read without a complaint about its spelling is spelled as a quantity. -/
theorem nonempty_of_ofText_ne {text : String} (h : ofText text ≠ .error (.malformed text)) :
    Nonempty (Spelling text.toList) := by
  rw [ofText_eq] at h
  split at h
  · next unit number hunit hnumber =>
    obtain ⟨sign, body, hsplit, hsign, hbody⟩ := exists_sign_of_readNumber? hnumber
    refine ⟨⟨sign, body, _, unit, ?_, hsign, hbody, readUnit?_eq_some_iff.1 hunit⟩⟩
    rw [← hsplit]
    exact List.takeWhile_append_dropWhile.symm
  · exact absurd rfl h

/-- A quantity is too large exactly if its number or the number of megabytes is not finite. -/
theorem tooLarge_iff {text : List Char} {s : Spelling text} {value : Binary64}
    (h : RoundsTo s.negative s.value value) :
    s.TooLarge ↔
      ¬ (value.isFinite = true ∧ (Quantity.mk value s.unit).baseline.isFinite = true) := by
  cases id h with
  | infinite hlimit =>
    refine iff_of_true (.inl h) ?_
    rintro ⟨hfinite, _⟩
    cases hfinite
  | @finite rank hlimit hnearest =>
    have hproduct : RoundsTo s.negative (magnitude rank * s.unit.megabytes)
        (Quantity.mk (.finite s.negative rank) s.unit).baseline :=
      @roundsTo_baseline ⟨.finite s.negative rank, s.unit⟩ s.negative rank rfl
    constructor
    · rintro (hinfinite | ⟨rank', hrank, hinfinite⟩) ⟨_, hfinite⟩
      · cases h.unique hinfinite
      · cases h.unique hrank
        rw [hproduct.unique hinfinite] at hfinite
        cases hfinite
    · intro hnot
      refine .inr ⟨rank, h, ?_⟩
      cases hbaseline : (Quantity.mk (.finite s.negative rank) s.unit).baseline with
      | finite negative' rank' => exact absurd ⟨rfl, by rw [hbaseline]; rfl⟩ hnot
      | infinite negative' =>
        rw [hbaseline] at hproduct
        cases hproduct with
        | infinite hlarge => exact .infinite hlarge
      | nan =>
        rw [hbaseline] at hproduct
        cases hproduct

end Spelling

/-- A text is malformed exactly if it is not spelled as a quantity, and out of range exactly if it
is but is too large.  Any other is read as the number to which its value is rounded, in its
unit. -/
theorem ofText_follows_grammar (text : String) :
    (ofText text = .error (.malformed text) ↔ ¬ Nonempty (Spelling text.toList)) ∧
    (ofText text = .error (.outOfRange text) ↔ ∃ s : Spelling text.toList, s.TooLarge) ∧
    ∀ s : Spelling text.toList, ¬ s.TooLarge →
      ∃ value, RoundsTo s.negative s.value value ∧ ofText text = .ok ⟨value, s.unit⟩ := by
  refine ⟨⟨?_, ?_⟩, ⟨?_, ?_⟩, ?_⟩
  · rintro hmalformed ⟨s⟩
    obtain ⟨value, _, hread⟩ := s.exists_ofText_eq
    rcases checkRange_cases text ⟨value, s.unit⟩ with hok | hlarge
    · rw [hread, hok] at hmalformed
      cases hmalformed
    · rw [hread, hlarge] at hmalformed
      cases hmalformed
  · intro hnone
    by_contra hne
    exact hnone (Spelling.nonempty_of_ofText_ne hne)
  · intro hlarge
    obtain ⟨s⟩ : Nonempty (Spelling text.toList) := by
      refine Spelling.nonempty_of_ofText_ne ?_
      rw [hlarge]
      intro h
      cases h
    obtain ⟨value, hrounds, hread⟩ := s.exists_ofText_eq
    refine ⟨s, (Spelling.tooLarge_iff hrounds).2 fun hfinite => ?_⟩
    rw [hread, checkRange_eq_ok_iff.2 ⟨rfl, hfinite⟩] at hlarge
    cases hlarge
  · rintro ⟨s, hlarge⟩
    obtain ⟨value, hrounds, hread⟩ := s.exists_ofText_eq
    rw [hread]
    refine (checkRange_cases text ⟨value, s.unit⟩).resolve_left fun hok => ?_
    exact (Spelling.tooLarge_iff hrounds).1 hlarge (checkRange_eq_ok_iff.1 hok).2
  · intro s hsmall
    obtain ⟨value, hrounds, hread⟩ := s.exists_ofText_eq
    refine ⟨value, hrounds, hread.trans (checkRange_eq_ok_iff.2 ⟨rfl, ?_⟩)⟩
    exact not_not.1 (mt (Spelling.tooLarge_iff hrounds).2 hsmall)

/-- An exponent is no unit, and a point needs digits on one side only. -/
theorem ofText_follows_grammar_point :
    (ofText "+1e5" = .error (.malformed "+1e5") ∧ ¬ Nonempty (Spelling "+1e5".toList)) ∧
    ∃ s : Spelling "-.5kB".toList, ¬ s.TooLarge ∧
      ∃ value, RoundsTo true (1 / 2) value ∧ ofText "-.5kB" = .ok ⟨value, .kilobyte⟩ := by
  have hmalformed : ofText "+1e5" = .error (.malformed "+1e5") := by decide +kernel
  have hread : ofText "-.5kB" ≠ .error (.outOfRange "-.5kB") := by decide +kernel
  have hvalue : Lexical.decimal ['.', '5'] = 1 / 2 := by decide +kernel
  let s : Spelling "-.5kB".toList :=
    ⟨['-'], ['.', '5'], ['k', 'B'], .kilobyte, by decide, .inr (.inr rfl), by decide, rfl⟩
  have hsmall : ¬ s.TooLarge := by
    intro hlarge
    exact hread ((ofText_follows_grammar "-.5kB").2.1.2 ⟨s, hlarge⟩)
  obtain ⟨value, hrounds, hok⟩ := (ofText_follows_grammar "-.5kB").2.2 s hsmall
  exact ⟨⟨hmalformed, (ofText_follows_grammar "+1e5").1.1 hmalformed⟩, s, hsmall, value,
    hvalue ▸ hrounds, hok⟩

end Quantity

end InventoryFilter
