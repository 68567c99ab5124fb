import InventoryFilter.Pattern.Standard
import InventoryFilter.Proofs.Complaints

set_option autoImplicit false

/-!
# Where the caret stands

A rejection is shown as the filter with a caret on a line below it.  The rejection is at the
beginning of a token or at the end of the filter, so its place never lies inside a character, and
the caret is moved to the right by the characters before it.

These are the characters of all lines, and the caret stands below the last line.  So it stands below
the character at which the filter is rejected as long as the filter is one line, and only then.
-/

namespace InventoryFilter

/-! ## Characters before a place -/

theorem Text.charsBefore?_append (before after : List Char) :
    charsBefore? (byteLength before) (before ++ after) = some before.length := by
  induction before with
  | nil => rw [byteLength_nil, charsBefore?]; rfl
  | cons c before ih =>
    obtain ⟨offset, hoffset⟩ : ∃ n, byteLength (c :: before) = n + 1 :=
      Nat.exists_eq_add_one.2 (by have := c.utf8Size_pos; simp only [byteLength_cons]; omega)
    have hrest : offset + 1 - c.utf8Size = byteLength before := by
      rw [← hoffset, byteLength_cons, Nat.add_sub_cancel_left]
    have hfits : c.utf8Size ≤ offset + 1 := by
      rw [← hoffset, byteLength_cons]
      exact Nat.le_add_right _ _
    rw [hoffset, List.cons_append, charsBefore?, if_pos hfits, hrest, ih]
    rfl

/-- A token cuts the filter between two characters. -/
theorem exists_split_of_mem_tokenize {input : String} {t : Token} (h : t ∈ tokenize input) :
    ∃ before after : String, input = before ++ after ∧ before.utf8ByteSize = t.position := by
  by_cases hkind : t.kind = .finish
  · obtain ⟨tokens, htokens, hopen⟩ := (tiles_tokenize input).eq_append_finishAt
    rw [htokens] at h
    rcases List.mem_append.1 h with hopened | hlast
    · exact absurd hkind (hopen t hopened)
    · refine ⟨input, "", (String.append_empty).symm, ?_⟩
      rw [List.mem_singleton.1 hlast, Nat.zero_add, Text.byteLength_toList]
      rfl
  · obtain ⟨before, c, after, l, rest, hinput, hfirst, rfl⟩ :=
      (tiles_tokenize input).exists_first t h hkind
    refine ⟨.ofList before, .ofList (c :: after), ?_, ?_⟩
    · rw [← String.ofList_append, ← hinput, String.ofList_toList]
    · rw [← Text.byteLength_toList, String.toList_ofList]
      exact (Nat.zero_add _).symm

/-- Between two characters, the caret is moved to the right by those before it. -/
theorem Rejection.column_append {r : Rejection} {before : String}
    (h : before.utf8ByteSize = r.position) (after : String) :
    Text.charsBefore? r.position (before ++ after).toList = some before.length ∧
      r.column (before ++ after) = before.length := by
  have hchars : Text.charsBefore? r.position (before ++ after).toList = some before.length := by
    rw [← h, ← Text.byteLength_toList, String.toList_append, Text.charsBefore?_append,
      String.length_toList]
  exact ⟨hchars, by rw [column, hchars]; rfl⟩

section

variable [Pattern.Validator]

/-- A filter is rejected at one of its tokens, and so between two characters. -/
theorem exists_split_of_parse {input : String} {r : Rejection} (h : parse input = .error r) :
    ∃ t ∈ tokenize input, t.position = r.position ∧
      ∃ before after : String, input = before ++ after ∧ before.utf8ByteSize = r.position := by
  obtain ⟨t, ht, hblamed⟩ := exists_blamed_of_parse h
  refine ⟨t, ht, hblamed.position_eq.symm, ?_⟩
  rw [hblamed.position_eq]
  exact exists_split_of_mem_tokenize ht

/-- A filter is rejected at the beginning of one of its tokens, the end of the input among them, and
so between two characters.  The caret is moved to the right by the characters before that place. -/
theorem caretText_of_parse {input : String} {r : Rejection} (h : parse input = .error r) :
    r.position ≤ input.utf8ByteSize ∧
      ∃ t ∈ tokenize input, t.position = r.position ∧
        ∃ before after : String, input = before ++ after ∧ before.utf8ByteSize = t.position ∧
          Text.charsBefore? r.position input.toList = some before.length ∧
          r.caretText input =
            input ++ "\n" ++ .ofList (List.replicate before.length ' ') ++ "^ " ++ r.message := by
  obtain ⟨t, ht, hposition, before, after, rfl, hbefore⟩ := exists_split_of_parse h
  obtain ⟨hchars, hcolumn⟩ := Rejection.column_append hbefore after
  refine ⟨?_, t, ht, hposition, before, after, rfl, hbefore.trans hposition.symm, hchars, ?_⟩
  · rw [← hbefore, String.utf8ByteSize_append]
    exact Nat.le_add_right _ _
  · rw [Rejection.caretText, hcolumn]
    rfl

end

open scoped Pattern.Standard in
theorem caretText_of_parse_accent :
    ∃ r, parse "nom='é'@" = .error r ∧ r.position = 8 ∧
      r.caretText "nom='é'@" = "nom='é'@\n       ^ unsupported character '@'" ∧
      ∃ t ∈ tokenize "nom='é'@", t.position = r.position ∧
        ∃ before after : String, "nom='é'@" = before ++ after ∧
          before.utf8ByteSize = t.position ∧ before.length = 7 := by
  have hparse : parse "nom='é'@" = .error ⟨8, .illegal "@"⟩ :=
    eq_error_of_map_eq_error (f := fun _ => true) (by decide +kernel)
  obtain ⟨-, t, ht, hposition, before, after, hinput, hbefore, hchars, -⟩ :=
    caretText_of_parse hparse
  have hlength : some 7 = some before.length := by
    rw [← hchars]
    decide +kernel
  exact ⟨_, hparse, rfl, by decide +kernel, t, ht, hposition, before, after, hinput, hbefore,
    (Option.some.inj hlength).symm⟩

/-! ## Lines -/

/-- A place in a text of several lines: the number of its line, and how many characters stand before
it on that line. -/
structure Place where
  line : Nat
  column : Nat
  deriving DecidableEq, Repr

namespace Place

/-- The place behind a character.  A line feed begins the next line. -/
def next (p : Place) (c : Char) : Place :=
  if c = '\n' then ⟨p.line + 1, 0⟩ else ⟨p.line, p.column + 1⟩

/-- The place behind a text. -/
def after (p : Place) (cs : List Char) : Place := cs.foldl next p

/-- The beginning of a text. -/
def start : Place := ⟨0, 0⟩

/-- The place right below. -/
def below (p : Place) : Place := ⟨p.line + 1, p.column⟩

theorem after_cons (p : Place) (c : Char) (cs : List Char) :
    p.after (c :: cs) = (p.next c).after cs :=
  rfl

theorem after_append (p : Place) (cs ds : List Char) :
    p.after (cs ++ ds) = (p.after cs).after ds :=
  List.foldl_append

theorem line_after (p : Place) (cs : List Char) :
    (p.after cs).line = p.line + cs.count '\n' := by
  induction cs generalizing p with
  | nil => rfl
  | cons c cs ih =>
    rw [after_cons, ih, List.count_cons, next]
    by_cases hc : c = '\n'
    · simp only [hc, if_true, beq_self_eq_true]
      omega
    · simp [hc]

theorem column_after_le (p : Place) (cs : List Char) :
    (p.after cs).column ≤ p.column + cs.length := by
  induction cs generalizing p with
  | nil => exact Nat.le_refl _
  | cons c cs ih =>
    have hnext : (p.next c).column ≤ p.column + 1 := by
      unfold next
      split
      · exact Nat.zero_le _
      · exact Nat.le_refl _
    have hle := ih (p.next c)
    rw [after_cons, List.length_cons]
    omega

/-- All characters of a text count on its last line exactly if it has no other line. -/
theorem column_after_eq_iff (p : Place) (cs : List Char) :
    (p.after cs).column = p.column + cs.length ↔ '\n' ∉ cs := by
  induction cs generalizing p with
  | nil => simp [after]
  | cons c cs ih =>
    by_cases hc : c = '\n'
    · have hle := column_after_le (p.next c) cs
      have hnext : (p.next c).column = 0 := by rw [next, if_pos hc]
      have hlt : (p.after (c :: cs)).column ≠ p.column + (c :: cs).length := by
        rw [after_cons, List.length_cons]
        omega
      exact iff_of_false hlt (not_not_intro (hc ▸ List.mem_cons_self))
    · have hnext : (p.next c).column = p.column + 1 := by rw [next, if_neg hc]
      rw [after_cons, List.length_cons, Nat.add_comm cs.length 1, ← Nat.add_assoc, ← hnext, ih]
      simp [Ne.symm hc]

/-- Spaces are on one line. -/
theorem after_replicate (p : Place) (n : Nat) :
    p.after (List.replicate n ' ') = ⟨p.line, p.column + n⟩ := by
  induction n generalizing p with
  | zero => rfl
  | succ n ih =>
    rw [List.replicate_succ, after_cons, ih]
    simp only [next, if_neg (by decide : ¬ ' ' = '\n'), Nat.add_assoc, Nat.add_comm 1 n]

end Place

/-- A caret below a text, behind as many spaces as characters come before a place in the text: it is
on the line that follows the last line. -/
theorem Place.after_indent (before after : List Char) :
    start.after (before ++ after ++ '\n' :: List.replicate before.length ' ') =
      ⟨(start.after before).line + 1 + after.count '\n', before.length⟩ := by
  rw [after_append, after_cons, after_replicate, next, if_pos rfl, line_after, line_after,
    List.count_append]
  simp only [mk.injEq, Nat.zero_add, and_true]
  omega

/-- Such a caret stands right below the place exactly if the text is a single line. -/
theorem Place.after_indent_eq_below_iff (before after : List Char) :
    start.after (before ++ after ++ '\n' :: List.replicate before.length ' ') =
      (start.after before).below ↔ '\n' ∉ before ++ after := by
  have hcolumn : before.length = (start.after before).column ↔ '\n' ∉ before := by
    rw [← column_after_eq_iff start before, eq_comm]
    exact iff_of_eq (congrArg _ (Nat.zero_add _).symm)
  rw [after_indent, below, mk.injEq, hcolumn, Nat.add_eq_left, List.count_eq_zero, List.mem_append,
    not_or, and_comm]

/-- The caret stands right below the character at which a filter is rejected exactly if the filter
has no line feed.  Otherwise it is too low by the line feeds behind that character, and too far to
the right by the characters of the lines before its own. -/
theorem caret_below_iff [Pattern.Validator] {input : String} {r : Rejection}
    (h : parse input = .error r) :
    ∃ before after indent : String, input = before ++ after ∧
      before.utf8ByteSize = r.position ∧
      r.caretText input = input ++ "\n" ++ indent ++ "^ " ++ r.message ∧
      let failing := Place.start.after before.toList
      let caret := Place.start.after (input ++ "\n" ++ indent).toList
      (caret = failing.below ↔ '\n' ∉ input.toList) ∧
        caret.line = failing.line + 1 + after.toList.count '\n' ∧
        caret.column = before.length := by
  obtain ⟨-, -, -, before, after, rfl, hbefore⟩ := exists_split_of_parse h
  refine ⟨before, after, Text.spaces before.length, rfl, hbefore, ?_, ?_⟩
  · rw [Rejection.caretText, (Rejection.column_append hbefore after).2]
  have htext : (before ++ after ++ "\n" ++ Text.spaces before.length).toList =
      before.toList ++ after.toList ++ '\n' :: List.replicate before.toList.length ' ' := by
    simp [Text.spaces, String.length_toList]
  simp only [htext]
  refine ⟨?_, ?_⟩
  · rw [Place.after_indent_eq_below_iff, String.toList_append]
  · rw [Place.after_indent, String.length_toList]
    exact ⟨rfl, rfl⟩

open scoped Pattern.Standard in
/-- The caret of a rejection on a second line is moved to the right by the first line, too. -/
theorem caret_below_iff_second_line :
    ∃ r, parse "a\n@" = .error r ∧ r.position = 2 ∧
      r.caretText "a\n@" = "a\n@\n  ^ unsupported character '@'" ∧
      ∃ before after indent : String, "a\n@" = before ++ after ∧
        before.utf8ByteSize = r.position ∧
        r.caretText "a\n@" = "a\n@" ++ "\n" ++ indent ++ "^ " ++ r.message ∧
        Place.start.after ("a\n@" ++ "\n" ++ indent).toList ≠
          (Place.start.after before.toList).below := by
  have hparse : parse "a\n@" = .error ⟨2, .illegal "@"⟩ :=
    eq_error_of_map_eq_error (f := fun _ => true) (by decide +kernel)
  obtain ⟨before, after, indent, hinput, hbefore, htext, hbelow, -⟩ := caret_below_iff hparse
  exact ⟨_, hparse, rfl, by decide +kernel, before, after, indent, hinput, hbefore, htext,
    mt hbelow.1 (by decide)⟩

end InventoryFilter
