import InventoryFilter.Compile
import InventoryFilter.Pattern.Standard
import InventoryFilter.Proofs.AsciiLetters
import InventoryFilter.Proofs.RoundTrip
import InventoryFilter.Proofs.TokenGrammar
import Mathlib.Data.List.Basic

set_option autoImplicit false

/-!
# Quantities from scanning to SQL

A scanner takes a quantity from the front of a text: digits, perhaps a fraction, and the letters
that follow if they are a unit.  The reader of quantities splits the same text at its first letter.
The two agree on every token, so that a quantity is refused for its size alone, and one that is
accepted is written in SQL as a plain number with two decimal places.
-/

namespace InventoryFilter

open Lexical

/-! ## Units at the end of a text -/

/-- Whether the text ends in the unit: in its spelling, in any ASCII case, or in a digit if the unit
has no spelling. -/
def StorageUnit.Ends (unit : StorageUnit) (text : List Char) : Prop :=
  if unit = .none then ∃ c ∈ text.getLast?, c.isDigit = true
  else ∃ letters, letters <:+ text ∧ Text.sameIgnoringCase unit.suffix.toList letters = true

namespace StorageUnit

theorem suffix_eq_pair {unit : StorageUnit} (h : unit ≠ .none) :
    ∃ c, unit.suffix.toList = [c, 'b'] := by
  cases unit with
  | none => exact absurd rfl h
  | kilobyte => exact ⟨'K', by decide⟩
  | megabyte => exact ⟨'M', by decide⟩
  | gigabyte => exact ⟨'G', by decide⟩
  | terabyte => exact ⟨'T', by decide⟩

/-- Spelled in small letters, no two units are the same. -/
theorem eq_of_asciiLower_suffix_eq {unit other : StorageUnit}
    (h : Text.asciiLower unit.suffix.toList = Text.asciiLower other.suffix.toList) :
    unit = other := by
  have hall : ∀ u ∈ all, ∀ v ∈ all,
      Text.asciiLower u.suffix.toList = Text.asciiLower v.suffix.toList → u = v := by
    decide
  exact hall unit (by cases unit <;> decide) other (by cases other <;> decide) h

/-- The spelling of a unit ends in a letter. -/
theorem isDigit_getLast?_eq_false {unit : StorageUnit} {letters : List Char} (hunit : unit ≠ .none)
    (h : Text.sameIgnoringCase unit.suffix.toList letters = true) :
    ∀ c ∈ letters.getLast?, c.isDigit = false := by
  obtain ⟨first, hsuffix⟩ := suffix_eq_pair hunit
  rw [Text.sameIgnoringCase_iff, hsuffix] at h
  intro c hc
  have hlast : 'b' = c.toLower := by
    have hmap := congrArg List.getLast? h
    rw [Text.asciiLower, Text.asciiLower, List.getLast?_map, List.getLast?_map,
      Option.mem_def.1 hc] at hmap
    exact Option.some.inj hmap
  rw [Bool.eq_false_iff]
  intro hdigit
  have halpha := Text.isAlpha_eq_false_of_isDigit hdigit
  rw [← Text.isAlpha_toLower, ← hlast] at halpha
  cases halpha

/-- No text ends in two units. -/
theorem Ends.unique {unit other : StorageUnit} {text : List Char} (h : unit.Ends text)
    (h' : other.Ends text) : unit = other := by
  -- a text that ends in a digit does not end in a spelling
  have hnone : ∀ {u v : StorageUnit},
      u = .none → v ≠ .none → u.Ends text → v.Ends text → u = v := by
    intro u v hu hv hends hends'
    rw [Ends, if_pos hu] at hends
    rw [Ends, if_neg hv] at hends'
    obtain ⟨c, hc, hdigit⟩ := hends
    obtain ⟨letters, ⟨front, rfl⟩, hsame⟩ := hends'
    obtain ⟨first, hsuffix⟩ := suffix_eq_pair hv
    have hne : letters ≠ [] := by
      rintro rfl
      rw [Text.sameIgnoringCase_iff, hsuffix] at hsame
      cases hsame
    rw [List.getLast?_append_of_ne_nil _ hne] at hc
    rw [isDigit_getLast?_eq_false hv hsame c hc] at hdigit
    cases hdigit
  by_cases hunit : unit = .none
  · by_cases hother : other = .none
    · rw [hunit, hother]
    · exact hnone hunit hother h h'
  · by_cases hother : other = .none
    · exact (hnone hother hunit h' h).symm
    · rw [Ends, if_neg hunit] at h
      rw [Ends, if_neg hother] at h'
      obtain ⟨letters, ⟨front, rfl⟩, hsame⟩ := h
      obtain ⟨letters', ⟨front', hsplit⟩, hsame'⟩ := h'
      rw [Text.sameIgnoringCase_iff] at hsame hsame'
      -- both spellings have two letters, so they are the same two
      have hlength : letters.length = letters'.length := by
        obtain ⟨_, hsuffix⟩ := suffix_eq_pair hunit
        obtain ⟨_, hsuffix'⟩ := suffix_eq_pair hother
        rw [← Text.length_asciiLower letters, ← Text.length_asciiLower letters', ← hsame, ← hsame',
          hsuffix, hsuffix']
        rfl
      obtain ⟨-, rfl⟩ := List.append_inj' hsplit hlength.symm
      exact eq_of_asciiLower_suffix_eq (hsame.trans hsame'.symm)

end StorageUnit

/-! ## Reading what was scanned -/

namespace Lexical

theorem IsNumeral.eq_cons {cs : List Char} (h : IsNumeral cs) :
    ∃ c ds, cs = c :: ds ∧ c.isDigit = true := by
  have hdigits : ∀ {whole : List Char}, IsDigits whole → ∀ rest,
      ∃ c ds, whole ++ rest = c :: ds ∧ c.isDigit = true := by
    rintro whole ⟨hne, hall⟩ rest
    obtain ⟨c, ds, rfl⟩ := List.exists_cons_of_ne_nil hne
    exact ⟨c, ds ++ rest, rfl, hall c (by simp)⟩
  rcases h with hwhole | ⟨whole, fraction, hwhole, _, rfl⟩
  · simpa using hdigits hwhole []
  · exact hdigits hwhole _

theorem IsNumeral.getLast?_isDigit {cs : List Char} (h : IsNumeral cs) :
    ∃ c ∈ cs.getLast?, c.isDigit = true := by
  have hdigits : ∀ {run : List Char}, IsDigits run → ∀ front,
      ∃ c ∈ (front ++ run).getLast?, c.isDigit = true := by
    rintro run ⟨hne, hall⟩ front
    rw [List.getLast?_append_of_ne_nil _ hne, List.getLast?_eq_some_getLast hne]
    exact ⟨_, rfl, hall _ (List.getLast_mem hne)⟩
  rcases h with hwhole | ⟨whole, fraction, _, hfraction, rfl⟩
  · exact hdigits hwhole []
  · simpa using hdigits hfraction (whole ++ ['.'])

theorem IsNumeral.isAlpha_eq_false {cs : List Char} (h : IsNumeral cs) :
    ∀ c ∈ cs, c.isAlpha = false := by
  intro c hc
  rcases h with ⟨_, hwhole⟩ | ⟨whole, fraction, ⟨_, hwhole⟩, ⟨_, hfraction⟩, rfl⟩
  · exact Text.isAlpha_eq_false_of_isDigit (hwhole c hc)
  · rcases List.mem_append.1 hc with hc | hc
    · exact Text.isAlpha_eq_false_of_isDigit (hwhole c hc)
    · rcases List.mem_cons.1 hc with rfl | hc
      · rfl
      · exact Text.isAlpha_eq_false_of_isDigit (hfraction c hc)

/-- Letters behind characters that are none begin where the first letter stands. -/
theorem span_isAlpha {number letters : List Char} (hnumber : ∀ c ∈ number, c.isAlpha = false)
    (hletters : IsLetters letters) :
    (number ++ letters).takeWhile (!·.isAlpha) = number ∧
      (number ++ letters).dropWhile (!·.isAlpha) = letters := by
  refine span_run (fun c hc => ?_) fun c hc => ?_
  · rw [hnumber c hc]
    rfl
  · rw [hletters c (List.mem_of_mem_head? hc)]
    rfl

end Lexical

namespace Quantity

theorem readNumber?_of_head {cs : List Char} (h : ∀ c ∈ cs.head?, c ≠ '+' ∧ c ≠ '-') :
    readNumber? cs = readMagnitude? false cs := by
  unfold readNumber?
  split
  · exact absurd rfl (h '+' rfl).1
  · exact absurd rfl (h '-' rfl).2
  · rfl

/-- Digits around a point are a number, as long as there are any. -/
theorem readMagnitude?_point {whole fraction : List Char} (negative : Bool)
    (hwhole : ∀ c ∈ whole, c.isDigit = true) (hfraction : ∀ c ∈ fraction, c.isDigit = true)
    (hne : whole ≠ [] ∨ fraction ≠ []) :
    readMagnitude? negative (whole ++ '.' :: fraction) =
      some (.ofParts negative whole fraction) := by
  have hpoint : ∀ c ∈ ('.' :: fraction).head?, c.isDigit = false := by
    rintro c ⟨⟩
    rfl
  obtain ⟨htake, hdrop⟩ := span_run hwhole hpoint
  have hdigits : fraction.all Char.isDigit = true := List.all_eq_true.2 hfraction
  have hsome : ¬ (whole.isEmpty = true ∧ fraction.isEmpty = true) := by
    rw [List.isEmpty_iff, List.isEmpty_iff]
    exact Decidable.not_and_iff_or_not.2 hne
  simp only [readMagnitude?, htake, hdrop]
  exact if_pos ⟨trivial, hdigits, hsome⟩

theorem readMagnitude?_whole {whole : List Char} (negative : Bool)
    (hwhole : ∀ c ∈ whole, c.isDigit = true) (hne : whole ≠ []) :
    readMagnitude? negative whole = some (.ofParts negative whole []) := by
  have hend : ∀ c ∈ ([] : List Char).head?, c.isDigit = false := by simp
  obtain ⟨htake, hdrop⟩ := span_run hwhole hend
  rw [List.append_nil] at htake hdrop
  simp [readMagnitude?, htake, hdrop, hne]

/-- A numeral has no sign. -/
theorem readNumber?_of_isNumeral {cs : List Char} (h : IsNumeral cs) :
    readNumber? cs = readMagnitude? false cs := by
  obtain ⟨d, ds, rfl, hdigit⟩ := h.eq_cons
  refine readNumber?_of_head ?_
  rintro c ⟨⟩
  constructor <;> rintro rfl <;> exact absurd hdigit (by decide)

/-- A numeral is read as a number. -/
theorem exists_readNumber? {cs : List Char} (h : IsNumeral cs) : ∃ d, readNumber? cs = some d := by
  rw [readNumber?_of_isNumeral h]
  rcases h with ⟨hne, hall⟩ | ⟨whole, fraction, ⟨hne, hall⟩, ⟨_, hfraction⟩, rfl⟩
  · exact ⟨_, readMagnitude?_whole false hall hne⟩
  · exact ⟨_, readMagnitude?_point false hall hfraction (.inl hne)⟩

/-- Letters that are a unit, or no letters at all, are read as the unit that they spell. -/
theorem exists_readUnit? {letters : List Char} (h : letters = [] ∨ IsUnit letters) :
    ∃ unit, readUnit? letters = some unit ∧
      (letters = [] → unit = .none) ∧
      (letters ≠ [] → unit ≠ .none ∧
        Text.sameIgnoringCase unit.suffix.toList letters = true) := by
  rcases h with rfl | hunit
  · exact ⟨.none, rfl, fun _ => rfl, fun hne => absurd rfl hne⟩
  · obtain ⟨unit, hfound⟩ := Option.isSome_iff_exists.1 ((isUnit_iff letters).1 hunit)
    have hne : letters ≠ [] := by
      rintro rfl
      rw [StorageUnit.ofSuffix?_nil] at hfound
      cases hfound
    refine ⟨unit, ?_, fun hnil => absurd hnil hne, fun _ => ⟨?_, ?_⟩⟩
    · rw [readUnit?, if_neg (by simpa using hne), hfound]
    · have hmem := List.mem_of_find?_eq_some hfound
      have hnamed : ∀ u ∈ StorageUnit.named, u ≠ .none := by decide
      exact hnamed unit hmem
    · have hsame := List.find?_some hfound
      exact hsame

/-- A numeral with letters that are a unit, or with none, is read as a quantity in that unit, up to
the check of its size. -/
theorem ofText_of_isNumeral {text : String} {number letters : List Char}
    (htext : text.toList = number ++ letters) (hnumber : IsNumeral number)
    (hletters : IsLetters letters) (hunit : letters = [] ∨ IsUnit letters) :
    ∃ q : Quantity, ofText text = checkRange text q ∧ q.unit.Ends text.toList := by
  obtain ⟨htake, hdrop⟩ := span_isAlpha hnumber.isAlpha_eq_false hletters
  obtain ⟨d, hd⟩ := exists_readNumber? hnumber
  obtain ⟨unit, hread, hnone, hnamed⟩ := exists_readUnit? hunit
  refine ⟨⟨.ofDecimal d, unit⟩, ?_, ?_⟩
  · rw [ofText_eq, htext, hdrop, htake, hread, hd]
  · rw [htext, StorageUnit.Ends]
    by_cases hempty : letters = []
    · rw [if_pos (hnone hempty), hempty, List.append_nil]
      exact hnumber.getLast?_isDigit
    · rw [if_neg (hnamed hempty).1]
      exact ⟨letters, List.suffix_append _ _, (hnamed hempty).2⟩

theorem checkRange_cases (text : String) (q : Quantity) :
    checkRange text q = .ok q ∨ checkRange text q = .error (.outOfRange text) := by
  unfold checkRange
  split
  · exact .inl rfl
  · exact .inr rfl

end Quantity

/-- What a scanned quantity says is a numeral, with letters behind it that are a unit or with
none. -/
theorem exists_isNumeral_of_mem_tokenize {input : String} {t : Token} (ht : t ∈ tokenize input)
    (hkind : t.kind = .quantity) :
    ∃ number letters, t.lexeme.toList = number ++ letters ∧ IsNumeral number ∧
      IsLetters letters ∧ (letters = [] ∨ IsUnit letters) := by
  obtain ⟨before, c, after, l, rest, -, hfirst, rfl⟩ :=
    (tiles_tokenize input).exists_first t ht (by rw [hkind]; decide)
  have hgrammar := isFirst_first c after
  have hsays := Lexeme.first_says c after
  rw [hfirst] at hgrammar hsays
  rw [Lexeme.kind_tokenAt] at hkind
  simp only [hkind] at hgrammar hsays
  have htext : l.text = l.source := hsays
  obtain ⟨number, letters, hnumber, hletters, hunit, hother⟩ := hgrammar.takes .quantity rfl
  have hlexeme : (l.tokenAt (0 + Text.byteLength before)).lexeme.toList = l.source := by
    simp [Lexeme.tokenAt, htext]
  rw [hlexeme]
  by_cases hnamed : IsUnit letters
  · exact ⟨number, letters, hunit hnamed, hnumber.fits, hletters.fits, .inr hnamed⟩
  · refine ⟨number, [], ?_, hnumber.fits, ?_, .inl rfl⟩
    · rw [hother hnamed, List.append_nil]
    · intro d hd
      cases hd

/-! ## Quantities in SQL -/

namespace Expr

/-- Both operands stand in the text of an operator. -/
theorem infix_sqlBinary (left : String) (op : Operator) (right : String) :
    left.toList <:+: (sqlBinary left op right).toList ∧
      right.toList <:+: (sqlBinary left op right).toList := by
  obtain ⟨front, middle, back, hsql⟩ := exists_sqlBinary_eq op
  rw [hsql]
  constructor
  · exact ⟨front.toList, (middle ++ right ++ back).toList, by simp⟩
  · exact ⟨(front ++ left ++ middle).toList, back.toList, by simp⟩

variable [Pattern.Validator]

theorem Spellable.unsigned {e : Expr} (h : e.Spellable) : ∀ q ∈ e.quantities, q.Unsigned := by
  induction e with
  | binary l op r ihl ihr =>
    intro q hq
    rcases List.mem_append.1 hq with hq | hq
    · exact ihl h.1 q hq
    · exact ihr h.2 q hq
  | quantity value =>
    intro q hq
    rw [List.mem_singleton.1 hq]
    exact h
  | string s => simp [quantities]
  | identifier name => simp [quantities]
  | boolean b => simp [quantities]
  | pattern p => simp [quantities]

/-- Every quantity of an expression stands in its predicate. -/
theorem infix_sql (columns : ColumnMap) (e : Expr) :
    ∀ q ∈ e.quantities, q.sql.toList <:+: (e.sql columns).toList := by
  induction e with
  | binary l op r ihl ihr =>
    intro q hq
    obtain ⟨hleft, hright⟩ := infix_sqlBinary (l.sql columns) op (r.sql columns)
    rcases List.mem_append.1 hq with hq | hq
    · exact (ihl q hq).trans hleft
    · exact (ihr q hq).trans hright
  | quantity value =>
    intro q hq
    rw [List.mem_singleton.1 hq]
    exact List.infix_rfl
  | string s => simp [quantities]
  | identifier name => simp [quantities]
  | boolean b => simp [quantities]
  | pattern p => simp [quantities]

end Expr

/-- A quantity without a sign is written in SQL with digits, a point and two more digits. -/
theorem Quantity.Unsigned.sql_form {q : Quantity} (h : q.Unsigned) :
    Binary64.FixedForm 2 q.sql.toList := by
  obtain ⟨-, rank, hbaseline⟩ := h
  rw [sql, hbaseline]
  exact Binary64.fixed_form (by decide) rank

/-- Every scanned quantity is read in the unit in which it ends, unless it is too large, and every
quantity of a filter that is accepted stands in the SQL predicate as a plain number with two decimal
places. -/
theorem tokenize_quantity_reads [Pattern.Validator] (input : String) :
    (∀ t ∈ tokenize input, t.kind = .quantity →
      (∃ q, Quantity.ofText t.lexeme = .ok q ∧
        ∀ unit : StorageUnit, unit = q.unit ↔ unit.Ends t.lexeme.toList) ∨
      Quantity.ofText t.lexeme = .error (.outOfRange t.lexeme)) ∧
    ∀ columns sql, compile input columns = .ok sql →
      ∃ e, parse input = .ok e ∧ ∀ q ∈ e.quantities,
        q.sql.toList <:+: sql.toList ∧ Binary64.FixedForm 2 q.sql.toList := by
  constructor
  · intro t ht hkind
    obtain ⟨number, letters, htext, hnumber, hletters, hunit⟩ :=
      exists_isNumeral_of_mem_tokenize ht hkind
    obtain ⟨q, hread, hends⟩ := Quantity.ofText_of_isNumeral htext hnumber hletters hunit
    rw [hread]
    rcases Quantity.checkRange_cases t.lexeme q with hok | hlarge
    · refine .inl ⟨q, hok, fun unit => ⟨?_, fun h => h.unique hends⟩⟩
      rintro rfl
      exact hends
    · exact .inr hlarge
  · intro columns sql hcompile
    rw [compile_eq] at hcompile
    cases hparse : parse input with
    | error r =>
      rw [hparse] at hcompile
      cases hcompile
    | ok e =>
      rw [hparse] at hcompile
      cases hcompile
      refine ⟨e, rfl, fun q hq => ⟨e.infix_sql columns q hq, ?_⟩⟩
      exact ((spellable_of_parse hparse).unsigned q hq).sql_form

open scoped Pattern.Standard in
theorem tokenize_quantity_reads_gigabytes :
    let input := "disk >= 1.5gB"
    let number : Token := ⟨.quantity, ⟨8, 13⟩, "1.5gB"⟩
    number ∈ tokenize input ∧
      (∃ q, Quantity.ofText number.lexeme = .ok q ∧ q.unit = .gigabyte ∧
        ∀ unit : StorageUnit, unit = q.unit ↔ unit.Ends number.lexeme.toList) ∧
      compile input .empty = .ok "(\"disk\" >= 1536.00)" ∧
      ∃ e, parse input = .ok e ∧ ∀ q ∈ e.quantities,
        q.sql.toList <:+: "(\"disk\" >= 1536.00)".toList ∧
          Binary64.FixedForm 2 q.sql.toList := by
  intro input number
  obtain ⟨htokens, hquantities⟩ := tokenize_quantity_reads input
  have hmem : number ∈ tokenize input := by decide +kernel
  have hunit : (Quantity.ofText number.lexeme).toOption.map (·.unit) = some .gigabyte := by
    decide +kernel
  have hcompile : (compile input .empty).toOption = some "(\"disk\" >= 1536.00)" := by
    decide +kernel
  have hsql := eq_ok_of_toOption_eq_some hcompile
  refine ⟨hmem, ?_, hsql, hquantities _ _ hsql⟩
  rcases htokens number hmem rfl with ⟨q, hread, hends⟩ | hlarge
  · rw [hread] at hunit
    exact ⟨q, hread, Option.some.inj hunit, hends⟩
  · rw [hlarge] at hunit
    cases hunit

end InventoryFilter
