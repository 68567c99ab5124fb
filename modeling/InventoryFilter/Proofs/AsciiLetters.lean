import InventoryFilter.Columns.Basic
import InventoryFilter.Text.Alphabetic
import InventoryFilter.Text.AsciiCase
import InventoryFilter.Text.Measure

set_option autoImplicit false

/-!
# The case of ASCII letters

The capital ASCII letters and the small ones have the same properties: both are alphabetic and
cased, neither is ignored in the context of a sigma, and both take one byte.  What is decided by
such properties alone does not see the case of ASCII letters.

Main statement: the lowercase form of a text, and with it the column of an identifier, is that of
the text with its capital ASCII letters made small.
-/

namespace InventoryFilter.Text

/-! ## Letters -/

/-- The capital ASCII letters by their code points. -/
theorem capital_iff {c : Char} :
    c.val ≥ 'A'.val ∧ c.val ≤ 'Z'.val ↔ 65 ≤ c.toNat ∧ c.toNat ≤ 90 :=
  and_congr UInt32.le_iff_toNat_le UInt32.le_iff_toNat_le

/-- The ASCII letters by their code points. -/
theorem isAlpha_iff {c : Char} :
    c.isAlpha = true ↔ 65 ≤ c.toNat ∧ c.toNat ≤ 90 ∨ 97 ≤ c.toNat ∧ c.toNat ≤ 122 := by
  have hlower : c.isLower = true ↔ 97 ≤ c.toNat ∧ c.toNat ≤ 122 :=
    Bool.and_eq_true_iff.trans (and_congr (decide_eq_true_iff.trans UInt32.le_iff_toNat_le)
      (decide_eq_true_iff.trans UInt32.le_iff_toNat_le))
  exact Bool.or_eq_true_iff.trans (or_congr (decide_eq_true_iff.trans capital_iff) hlower)

/-- A capital letter stands 32 places before the small one. -/
theorem toNat_toLower (c : Char) :
    c.toLower.toNat = if 65 ≤ c.toNat ∧ c.toNat ≤ 90 then c.toNat + 32 else c.toNat := by
  unfold Char.toLower
  by_cases h : 65 ≤ c.toNat ∧ c.toNat ≤ 90
  · rw [dif_pos (capital_iff.2 h), if_pos h]
    change (c.val + 32).toNat = c.toNat + 32
    rw [UInt32.toNat_add]
    exact Nat.mod_eq_of_lt (Nat.lt_of_le_of_lt (Nat.add_le_add_right h.2 32) (by decide))
  · rw [dif_neg (mt capital_iff.1 h), if_neg h]

theorem isAlpha_toLower (c : Char) : c.toLower.isAlpha = c.isAlpha := by
  rw [Bool.eq_iff_iff, isAlpha_iff, isAlpha_iff, toNat_toLower]
  split <;> omega

theorem toLower_toLower (c : Char) : c.toLower.toLower = c.toLower := by
  apply Char.toNat_inj.1
  have h := toNat_toLower c
  rw [toNat_toLower c.toLower]
  split <;> grind

/-- Only letters are changed. -/
theorem toLower_of_isAlpha_eq_false {c : Char} (h : c.isAlpha = false) : c.toLower = c := by
  have hno : ¬ (65 ≤ c.toNat ∧ c.toNat ≤ 90) := by
    intro hupper
    rw [isAlpha_iff.2 (.inl hupper)] at h
    cases h
  apply Char.toNat_inj.1
  rw [toNat_toLower, if_neg hno]

/-- What is the same for all letters does not see the case of a letter. -/
theorem apply_toLower {β : Type} {f : Char → β} {b : β} (hf : ∀ c, c.isAlpha = true → f c = b)
    (c : Char) : f c.toLower = f c := by
  cases h : c.isAlpha with
  | true => rw [hf c h, hf c.toLower (by rw [isAlpha_toLower, h])]
  | false => rw [toLower_of_isAlpha_eq_false h]

theorem eq_of_toLower_eq {β : Type} {f : Char → β} (hf : ∀ c : Char, f c.toLower = f c)
    {c c' : Char} (h : c'.toLower = c.toLower) : f c' = f c := by
  rw [← hf c', h, hf c]

theorem inRanges_of_isAlpha {c : Char} (h : c.isAlpha = true) (ranges : List CodeRange) :
    inRanges ((0x41, 0x5A) :: (0x61, 0x7A) :: ranges) c.toNat = true := by
  have hcode := isAlpha_iff.1 h
  rw [inRanges_cons, inRanges_cons]
  grind

theorem isAlphabetic_of_isAlpha {c : Char} (h : c.isAlpha = true) : isAlphabetic c = true :=
  inRanges_of_isAlpha h _

theorem isCased_of_isAlpha {c : Char} (h : c.isAlpha = true) : isCased c = true :=
  inRanges_of_isAlpha h _

theorem isCaseIgnorable_of_isAlpha {c : Char} (h : c.isAlpha = true) :
    isCaseIgnorable c = false := by
  have hcode := isAlpha_iff.1 h
  unfold isCaseIgnorable caseIgnorableRanges
  -- no letter lies in the five ranges up to the accents, and the sixth begins above all letters
  rw [inRanges_cons, inRanges_cons, inRanges_cons, inRanges_cons, inRanges_cons, inRanges_cons]
  generalize inRanges _ c.toNat = further
  grind

theorem ne_of_isAlpha {c d : Char} (h : c.isAlpha = true) (hd : d.isAlpha = false) : c ≠ d := by
  rintro rfl
  rw [h] at hd
  cases hd

/-! ## Texts -/

@[simp] theorem asciiLower_cons (c : Char) (cs : List Char) :
    asciiLower (c :: cs) = c.toLower :: asciiLower cs :=
  rfl

@[simp] theorem asciiLower_append (cs ds : List Char) :
    asciiLower (cs ++ ds) = asciiLower cs ++ asciiLower ds :=
  List.map_append

@[simp] theorem asciiLower_eq_nil_iff {cs : List Char} : asciiLower cs = [] ↔ cs = [] :=
  List.map_eq_nil_iff

@[simp] theorem asciiLower_asciiLower (cs : List Char) :
    asciiLower (asciiLower cs) = asciiLower cs := by
  rw [asciiLower, asciiLower, List.map_map]
  exact List.map_congr_left fun c _ => toLower_toLower c

/-- Every spelling of a text is cut where the text is. -/
theorem exists_append_of_asciiLower_eq {cs ds text : List Char}
    (h : asciiLower text = asciiLower (cs ++ ds)) :
    ∃ cs' ds', text = cs' ++ ds' ∧ asciiLower cs' = asciiLower cs ∧
      asciiLower ds' = asciiLower ds := by
  rw [asciiLower_append] at h
  exact List.map_eq_append_iff.1 h

theorem length_eq_of_asciiLower_eq {cs cs' : List Char} (h : asciiLower cs' = asciiLower cs) :
    cs'.length = cs.length := by
  simpa using congrArg List.length h

/-- What does not see the case of letters holds of every spelling of a text. -/
theorem of_asciiLower_eq {P : List Char → Prop} (hP : ∀ cs, P (asciiLower cs) ↔ P cs)
    {cs cs' : List Char} (h : asciiLower cs' = asciiLower cs) (hcs : P cs) : P cs' :=
  (hP cs').1 (h ▸ (hP cs).2 hcs)

theorem takeWhile_asciiLower {p : Char → Bool} (hp : ∀ c : Char, p c.toLower = p c)
    (cs : List Char) : (asciiLower cs).takeWhile p = asciiLower (cs.takeWhile p) := by
  have hcomp : p ∘ Char.toLower = p := funext hp
  rw [asciiLower, List.takeWhile_map, hcomp, asciiLower]

theorem dropWhile_asciiLower {p : Char → Bool} (hp : ∀ c : Char, p c.toLower = p c)
    (cs : List Char) : (asciiLower cs).dropWhile p = asciiLower (cs.dropWhile p) := by
  have hcomp : p ∘ Char.toLower = p := funext hp
  rw [asciiLower, List.dropWhile_map, hcomp, asciiLower]

/-- Both cases of a letter take one byte. -/
@[simp] theorem byteLength_asciiLower (cs : List Char) :
    byteLength (asciiLower cs) = byteLength cs := by
  have hsize : ∀ c : Char, c.isAlpha = true → c.utf8Size = 1 := by
    intro c h
    have hcode := isAlpha_iff.1 h
    rw [Char.utf8Size_eq_one_iff, UInt32.le_iff_toNat_le]
    change c.toNat ≤ 127
    omega
  induction cs with
  | nil => rfl
  | cons c cs ih =>
    rw [byteLength_cons, ← ih, ← apply_toLower hsize]
    rfl

theorem byteLength_eq_of_asciiLower_eq {cs cs' : List Char} (h : asciiLower cs' = asciiLower cs) :
    byteLength cs' = byteLength cs := by
  rw [← byteLength_asciiLower, h, byteLength_asciiLower]

/-- A text without letters has no other spelling. -/
theorem eq_of_asciiLower_eq {cs ds : List Char} (hcs : ∀ c ∈ cs, c.isAlpha = false)
    (h : asciiLower ds = asciiLower cs) : ds = cs := by
  have hds : ∀ d ∈ ds, d.isAlpha = false := by
    intro d hd
    have hmem : d.toLower ∈ asciiLower cs := h ▸ List.mem_map_of_mem hd
    obtain ⟨c, hc, hcd⟩ := List.mem_map.1 hmem
    rw [← isAlpha_toLower, ← hcd, isAlpha_toLower, hcs c hc]
  have hsame : ∀ es : List Char, (∀ e ∈ es, e.isAlpha = false) → asciiLower es = es := by
    intro es hes
    exact (List.map_congr_left fun e he => toLower_of_isAlpha_eq_false (hes e he)).trans
      (List.map_id es)
  rw [← hsame ds hds, h, hsame cs hcs]

/-! ## Lowercase texts -/

/-- Among the runs of capital letters only the first one holds ASCII letters. -/
theorem lowerCode_of_isAlpha {c : Char} (h : c.isAlpha = true) {next : CaseRun}
    (hnext : 0x7A < next.first) (runs : List CaseRun) :
    lowerCode (⟨0x41, 0x5A, 1, 0x61⟩ :: next :: runs) c.toNat = c.toLower.toNat := by
  have hcode := isAlpha_iff.1 h
  rw [lowerCode, lowerCode, toNat_toLower]
  grind

theorem lowerChar_toLower (c : Char) : lowerChar c.toLower = lowerChar c := by
  have hletter : ∀ c : Char, c.isAlpha = true → lowerChar c = [c.toLower] := by
    intro c h
    rw [lowerChar, if_neg (ne_of_isAlpha h (by decide)), caseRuns,
      lowerCode_of_isAlpha h (by decide), Char.ofNat_toNat]
  cases h : c.isAlpha with
  | true => rw [hletter c h, hletter c.toLower (by rw [isAlpha_toLower, h]), toLower_toLower]
  | false => rw [toLower_of_isAlpha_eq_false h]

theorem casedAhead_asciiLower (cs : List Char) : casedAhead (asciiLower cs) = casedAhead cs := by
  unfold casedAhead
  rw [dropWhile_asciiLower (apply_toLower fun _ => isCaseIgnorable_of_isAlpha)]
  cases cs.dropWhile isCaseIgnorable with
  | nil => rfl
  | cons c _ => exact apply_toLower (fun _ => isCased_of_isAlpha) c

/-- The case of the letters around it makes no difference to a sigma. -/
theorem lowerFrom_asciiLower (before cs : List Char) :
    lowerFrom (asciiLower before) (asciiLower cs) = lowerFrom before cs := by
  induction cs generalizing before with
  | nil => rfl
  | cons c cs ih =>
    have hsigma : c.toLower = 'Σ' ↔ c = 'Σ' := by
      have := apply_toLower (f := (· == 'Σ'))
        (fun c hc => beq_eq_false_iff_ne.2 (ne_of_isAlpha hc (by decide))) c
      rwa [Bool.eq_iff_iff, beq_iff_eq, beq_iff_eq] at this
    have hform : lowerSigma (asciiLower before) (asciiLower cs) = lowerSigma before cs := by
      rw [lowerSigma, lowerSigma, casedAhead_asciiLower, casedAhead_asciiLower]
    change (if c.toLower = 'Σ' then [lowerSigma (asciiLower before) (asciiLower cs)]
      else lowerChar c.toLower) ++ lowerFrom (asciiLower (c :: before)) (asciiLower cs) = _
    rw [ih, hform, lowerChar_toLower]
    simp only [hsigma]
    rfl

theorem lowercase_eq_of_asciiLower_eq {s s' : String}
    (h : asciiLower s'.toList = asciiLower s.toList) : lowercase s' = lowercase s := by
  have hlower : ∀ t : String, lowerFrom [] (asciiLower t.toList) = lowerFrom [] t.toList :=
    fun t => lowerFrom_asciiLower [] t.toList
  rw [lowercase, lowercase, ← hlower s', h, hlower s]

end InventoryFilter.Text

/-- The column of an identifier does not depend on the case of its ASCII letters. -/
theorem InventoryFilter.ColumnMap.resolve?_eq_of_asciiLower_eq (m : ColumnMap) {name name' : String}
    (h : Text.asciiLower name'.toList = Text.asciiLower name.toList) :
    m.resolve? name' = m.resolve? name := by
  rw [resolve?, resolve?, Text.lowercase_eq_of_asciiLower_eq h]
