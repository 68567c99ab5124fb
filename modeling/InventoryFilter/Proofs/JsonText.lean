import InventoryFilter.Proofs.NumberText

set_option autoImplicit false

/-!
# Reading JSON back

Main statement: the text of a JSON value on one line is read as that value, with its numbers as they
are spelled.  Strings come back character by character, whatever characters they hold.
-/

namespace InventoryFilter.Json

/-! ## Strings -/

theorem hexDigit?_digitChar : ∀ n < 16, hexDigit? (Nat.digitChar n) = some n := by decide

/-- A control character is written with two hexadecimal digits after two zeros. -/
theorem controlEscape_ofNat : ∀ n < 32, controlEscape (Char.ofNat n) =
    ['\\', 'u', '0', '0', Nat.digitChar (n / 16), Nat.digitChar (n % 16)] := by decide

theorem readEscape?_control {n : Nat} (hn : n < 32) (rest : List Char) :
    readEscape? ('u' :: '0' :: '0' :: Nat.digitChar (n / 16) :: Nat.digitChar (n % 16) :: rest) =
      some (Char.ofNat n, rest) := by
  have hzero : hexDigit? '0' = some 0 := rfl
  have hhigh := hexDigit?_digitChar (n / 16) (by omega)
  have hlow := hexDigit?_digitChar (n % 16) (by omega)
  have hvalue : n / 16 * 16 + n % 16 = n := by omega
  have hhex : readHex? ('0' :: '0' :: Nat.digitChar (n / 16) :: Nat.digitChar (n % 16) :: rest) =
      some (n, rest) := by
    simp [readHex?, hzero, hhigh, hlow, hvalue]
  have hplain : ¬ 0xD800 ≤ n ∧ ¬ 0xDC00 ≤ n := by omega
  simp [readEscape?, readCodePoint?, hhex, hplain.1, hplain.2]

/-- A character is written as an escape that is read as that character, or it stands for itself. -/
theorem stringChar_cases (c : Char) :
    (∃ escape, stringChar c = '\\' :: escape ∧
      ∀ rest, readEscape? (escape ++ rest) = some (c, rest)) ∨
    (stringChar c = [c] ∧ c ≠ '"' ∧ c ≠ '\\' ∧ ¬ c.toNat < 32) := by
  by_cases hquote : c = '"'
  · subst hquote
    exact .inl ⟨['"'], rfl, fun _ => rfl⟩
  by_cases hback : c = '\\'
  · subst hback
    exact .inl ⟨['\\'], rfl, fun _ => rfl⟩
  by_cases hbackspace : c = '\x08'
  · subst hbackspace
    exact .inl ⟨['b'], rfl, fun _ => rfl⟩
  by_cases hfeed : c = '\x0c'
  · subst hfeed
    exact .inl ⟨['f'], rfl, fun _ => rfl⟩
  by_cases hline : c = '\n'
  · subst hline
    exact .inl ⟨['n'], rfl, fun _ => rfl⟩
  by_cases hreturn : c = '\r'
  · subst hreturn
    exact .inl ⟨['r'], rfl, fun _ => rfl⟩
  by_cases htab : c = '\t'
  · subst htab
    exact .inl ⟨['t'], rfl, fun _ => rfl⟩
  by_cases hcontrol : c.toNat < 32
  · have hescape : stringChar c = controlEscape (Char.ofNat c.toNat) := by
      simp [stringChar, *]
    rw [controlEscape_ofNat _ hcontrol] at hescape
    refine .inl ⟨_, hescape, fun rest => ?_⟩
    simpa using readEscape?_control hcontrol rest
  · exact .inr ⟨by simp [stringChar, *], hquote, hback, hcontrol⟩

theorem stringChar_ne_nil (c : Char) : stringChar c ≠ [] := by
  rcases stringChar_cases c with ⟨escape, htext, _⟩ | ⟨htext, _⟩ <;> simp [htext]

/-- What is written for a character is read as that character. -/
theorem readString?_stringChar (fuel : Nat) (c : Char) (rest : List Char) :
    readString? (fuel + 1) (stringChar c ++ rest) =
      (readString? fuel rest).map fun read => (c :: read.1, read.2) := by
  have hbind : ∀ read : Option (List Char × List Char),
      (read.bind fun r => some (c :: r.1, r.2)) = read.map fun r => (c :: r.1, r.2) :=
    fun read => by cases read <;> rfl
  rcases stringChar_cases c with ⟨escape, htext, hread⟩ | ⟨htext, hquote, hback, hcontrol⟩
  · simp [htext, readString?, hread, hbind]
  · simp [htext, readString?, hquote, hback, hcontrol, hbind]

theorem readString?_flatMap {fuel : Nat} {cs : List Char} (hfuel : cs.length < fuel)
    (after : List Char) :
    readString? fuel (cs.flatMap stringChar ++ '"' :: after) = some (cs, after) := by
  induction cs generalizing fuel with
  | nil =>
    cases fuel with
    | zero => cases hfuel
    | succ fuel => rfl
  | cons c cs ih =>
    cases fuel with
    | zero => cases hfuel
    | succ fuel =>
      rw [List.flatMap_cons, List.append_assoc, readString?_stringChar,
        ih (Nat.lt_of_succ_lt_succ hfuel)]
      rfl

theorem length_le_flatMap_stringChar (cs : List Char) :
    cs.length ≤ (cs.flatMap stringChar).length := by
  induction cs with
  | nil => exact Nat.le_refl 0
  | cons c cs ih =>
    have hpos := List.length_pos_iff.2 (stringChar_ne_nil c)
    rw [List.flatMap_cons, List.length_append, List.length_cons]
    omega

/-- A string is read back from its text, after the opening quote. -/
theorem readString?_stringBefore (s : String) (after : List Char) :
    ∃ rest, stringBefore s after = '"' :: rest ∧ after.length < rest.length ∧
      readString? (rest.length + 1) rest = some (s.toList, after) := by
  have hlength := length_le_flatMap_stringChar s.toList
  refine ⟨s.toList.flatMap stringChar ++ '"' :: after, rfl, ?_, readString?_flatMap ?_ after⟩ <;>
    simp only [List.length_append, List.length_cons] <;> omega

/-! ## Keys, words and numbers -/

/-- The field name of an object and its colon are read back. -/
theorem readKey?_stringBefore (key : String) (after : List Char) :
    readKey? (stringBefore key (':' :: after)) = some (key, after) := by
  obtain ⟨rest, htext, _, hread⟩ := readString?_stringBefore key (':' :: after)
  have hquote : isBlank '"' = false := rfl
  have hcolon : isBlank ':' = false := rfl
  simp [readKey?, htext, skipBlanks_cons hquote, hread, skipBlanks_cons hcolon]

/-- A number begins with a digit. -/
theorem head_of_readNumber? {negative : Bool} {cs : List Char} {read : Json × List Char}
    (h : readNumber? negative cs = some read) : ∃ c ds, cs = c :: ds ∧ c.isDigit = true := by
  cases cs with
  | nil => simp [readNumber?, readWhole?] at h
  | cons c ds =>
    cases hdigit : c.isDigit with
    | true => exact ⟨c, ds, rfl, hdigit⟩
    | false =>
      have hzero : c ≠ '0' := by
        rintro rfl
        cases hdigit
      have hwhole : readWhole? (c :: ds) = none := by
        simp [readWhole?, hdigit, hzero]
      simp [readNumber?, hwhole] at h

theorem ne_of_isDigit {c other : Char} (hc : c.isDigit = true) (hother : other.isDigit = false) :
    c ≠ other := by
  rintro rfl
  rw [hc] at hother
  cases hother

theorem readScalar?_of_isDigit {c : Char} (hdigit : c.isDigit = true) (cs : List Char) :
    readScalar? (c :: cs) = readNumber? false (c :: cs) := by
  unfold readScalar?
  split
  · next hcs => exact absurd (List.cons.inj hcs).1 (ne_of_isDigit hdigit rfl)
  · next hcs => exact absurd (List.cons.inj hcs).1 (ne_of_isDigit hdigit rfl)
  · next hcs => exact absurd (List.cons.inj hcs).1 (ne_of_isDigit hdigit rfl)
  · next hcs => exact absurd (List.cons.inj hcs).1 (ne_of_isDigit hdigit rfl)
  · rfl

/-! ## Values -/

mutual

/-- The value with its numbers as they are spelled. -/
def respelled : Json → Json
  | null => null
  | boolean b => boolean b
  | number d => number (d.respelled numberLayout)
  | string s => string s
  | array items => array (respelledItems items)
  | object fields => object (respelledFields fields)

/-- Items with their numbers as they are spelled. -/
def respelledItems : List Json → List Json
  | [] => []
  | item :: items => item.respelled :: respelledItems items

/-- Fields with their numbers as they are spelled. -/
def respelledFields : List (String × Json) → List (String × Json)
  | [] => []
  | (key, value) :: fields => (key, value.respelled) :: respelledFields fields

end

/-- The reader takes the beginning of the text, up to `after`, for the value.  Two units of fuel for
each character that it takes are enough. -/
structure Reads {α : Type} (read : Nat → List Char → Option (α × List Char))
    (text after : List Char) (value : α) : Prop where
  longer : after.length < text.length
  reads : ∀ fuel, 2 * text.length ≤ fuel + 2 * after.length → read fuel text = some (value, after)

/-- What takes a character has fuel to begin with. -/
theorem Reads.of_succ {α : Type} {read : Nat → List Char → Option (α × List Char)}
    {text after : List Char} {value : α} (hlonger : after.length < text.length)
    (hread : ∀ fuel, 2 * text.length ≤ fuel + 1 + 2 * after.length →
      read (fuel + 1) text = some (value, after)) : Reads read text after value := by
  refine ⟨hlonger, fun fuel hfuel => ?_⟩
  cases fuel with
  | zero => omega
  | succ fuel => exact hread fuel hfuel

/-- The value is read back, whatever text follows that does not go on with a number. -/
def ReadsBack (j : Json) : Prop :=
  ∀ after, EndsNumber after → Reads readValue? (j.compactBefore after) after j.respelled

/-- The items are read back with the bracket that closes them. -/
def ItemsReadBack (items : List Json) : Prop :=
  ∀ after, Reads readItems? (compactItems items (']' :: after)) after (respelledItems items)

/-- The fields are read back with the brace that closes them. -/
def FieldsReadBack (fields : List (String × Json)) : Prop :=
  ∀ after, Reads readFields? (compactFields fields ('\x7d' :: after)) after (respelledFields fields)

theorem endsNumber_nil : EndsNumber [] := by simp [EndsNumber]

theorem endsNumber_cons {c : Char} (hdigit : c.isDigit = false) (hpoint : c ≠ '.')
    (hsmall : c ≠ 'e') (hcapital : c ≠ 'E') (cs : List Char) : EndsNumber (c :: cs) := by
  rintro _ ⟨rfl⟩
  exact ⟨hdigit, hpoint, hsmall, hcapital⟩

/-- Words and numbers are told by their first character. -/
theorem readsBack_scalar {j : Json} (c : Char) (text : List Char) (hblank : isBlank c = false)
    (hquote : c ≠ '"') (hbracket : c ≠ '[') (hbrace : c ≠ '\x7b')
    (htext : ∀ after, j.compactBefore after = c :: (text ++ after))
    (hread : ∀ {after}, EndsNumber after →
      readScalar? (c :: (text ++ after)) = some (j.respelled, after)) : ReadsBack j := by
  intro after hafter
  rw [htext]
  refine .of_succ ?_ fun fuel _ => ?_
  · rw [List.length_cons, List.length_append]
    omega
  · rw [readValue?_scalar fuel hblank hquote hbracket hbrace]
    exact hread hafter

theorem readsBack_null : ReadsBack null :=
  readsBack_scalar 'n' ['u', 'l', 'l'] rfl (by decide) (by decide) (by decide)
    (fun _ => rfl) (fun _ => rfl)

theorem readsBack_boolean (b : Bool) : ReadsBack (boolean b) := by
  cases b with
  | true =>
    exact readsBack_scalar 't' ['r', 'u', 'e'] rfl (by decide) (by decide)
      (by decide) (fun _ => rfl) (fun _ => rfl)
  | false =>
    exact readsBack_scalar 'f' ['a', 'l', 's', 'e'] rfl (by decide) (by decide)
      (by decide) (fun _ => rfl) (fun _ => rfl)

theorem readsBack_number (d : Decimal) : ReadsBack (number d) := by
  have hread : ∀ {after}, EndsNumber after →
      readNumber? d.negative (d.magnitudeText numberLayout ++ after) =
        some ((number d).respelled, after) :=
    fun hafter => readNumber?_magnitudeText d hafter
  have htext := compactBefore_number d
  obtain ⟨c, cs, hcs, hdigit⟩ := head_of_readNumber? (hread endsNumber_nil)
  rw [List.append_nil] at hcs
  rw [hcs] at hread htext
  cases hnegative : d.negative with
  | true =>
    rw [hnegative] at hread htext
    exact readsBack_scalar '-' (c :: cs) rfl (by decide) (by decide) (by decide) htext hread
  | false =>
    rw [hnegative] at hread htext
    have hother : ∀ other : Char, other.isDigit = false → c ≠ other :=
      fun _ hother => ne_of_isDigit hdigit hother
    refine readsBack_scalar c cs ?_ (hother _ rfl) (hother _ rfl) (hother _ rfl) htext
      (fun hafter => ?_)
    · simp [isBlank, hother]
    · rw [readScalar?_of_isDigit hdigit]
      exact hread hafter

theorem readsBack_string (s : String) : ReadsBack (string s) := by
  intro after _
  obtain ⟨rest, htext, hlength, hread⟩ := readString?_stringBefore s after
  have hquote : isBlank '"' = false := rfl
  rw [compactBefore, htext]
  refine .of_succ ?_ fun fuel _ => ?_
  · rw [List.length_cons]
    omega
  · simp [readValue?, skipBlanks_cons hquote, hread, respelled]

/-! ### Items -/

theorem itemsReadBack_single {item : Json} (hitem : ReadsBack item) : ItemsReadBack [item] := by
  intro after
  have hclose : isBlank ']' = false := rfl
  obtain ⟨hlength, hread⟩ :=
    hitem (']' :: after) (endsNumber_cons rfl (by decide) (by decide) (by decide) _)
  rw [List.length_cons] at hlength hread
  rw [compactItems]
  refine .of_succ (by omega) fun fuel hfuel => ?_
  simp [readItems?, hread fuel (by omega), skipBlanks_cons hclose, respelledItems]

theorem ItemsReadBack.cons {item next : Json} {items : List Json} (hitem : ReadsBack item)
    (hitems : ItemsReadBack (next :: items)) : ItemsReadBack (item :: next :: items) := by
  intro after
  have hcomma : isBlank ',' = false := rfl
  obtain ⟨hmore, hrest⟩ := hitems after
  obtain ⟨hlength, hread⟩ :=
    hitem (',' :: compactItems (next :: items) (']' :: after))
      (endsNumber_cons rfl (by decide) (by decide) (by decide) _)
  rw [List.length_cons] at hlength hread
  rw [compactItems]
  · refine .of_succ (by omega) fun fuel hfuel => ?_
    simp [readItems?, hread fuel (by omega), skipBlanks_cons hcomma, hrest fuel (by omega),
      respelledItems]
  · simp

/-- What begins with a closing bracket has no items. -/
theorem readItems?_close {text rest : List Char} (h : skipBlanks text = ']' :: rest) (fuel : Nat) :
    readItems? fuel text = none := by
  have hvalue : ∀ fuel, readValue? fuel text = none := by
    intro fuel
    cases fuel with
    | zero => rfl
    | succ fuel => simp [readValue?, h, readScalar?, readNumber?, readWhole?]
  cases fuel with
  | zero => rfl
  | succ fuel => simp [readItems?, hvalue]

theorem ItemsReadBack.array {items : List Json} (hitems : ItemsReadBack items) :
    ReadsBack (array items) := by
  intro after _
  have hopen : isBlank '[' = false := rfl
  obtain ⟨hlength, hread⟩ := hitems after
  rw [compactBefore]
  refine .of_succ ?_ fun fuel hfuel => ?_
  · rw [List.length_cons]
    omega
  · rw [List.length_cons] at hfuel
    have hitems := hread fuel (by omega)
    rw [readValue?, skipBlanks_cons hopen]
    simp only
    split
    · next hclose =>
      rw [readItems?_close hclose] at hitems
      cases hitems
    · simp [hitems, respelled]

theorem readsBack_array_nil : ReadsBack (array []) := by
  intro after _
  have hopen : isBlank '[' = false := rfl
  have hclose : isBlank ']' = false := rfl
  rw [compactBefore, compactItems]
  refine .of_succ ?_ fun fuel _ => ?_
  · rw [List.length_cons, List.length_cons]
    omega
  · simp [readValue?, skipBlanks_cons hopen, skipBlanks_cons hclose, respelled, respelledItems]

/-! ### Fields -/

theorem length_lt_stringBefore (s : String) (after : List Char) :
    after.length < (stringBefore s after).length := by
  obtain ⟨rest, htext, hlength, _⟩ := readString?_stringBefore s after
  rw [htext, List.length_cons]
  omega

theorem fieldsReadBack_single (key : String) {value : Json} (hvalue : ReadsBack value) :
    FieldsReadBack [(key, value)] := by
  intro after
  have hclose : isBlank '\x7d' = false := rfl
  obtain ⟨hlength, hread⟩ :=
    hvalue ('\x7d' :: after) (endsNumber_cons rfl (by decide) (by decide) (by decide) _)
  have hkey := length_lt_stringBefore key (':' :: value.compactBefore ('\x7d' :: after))
  rw [List.length_cons] at hlength hread hkey
  rw [compactFields]
  refine .of_succ (by omega) fun fuel hfuel => ?_
  simp [readFields?, readKey?_stringBefore, hread fuel (by omega), skipBlanks_cons hclose,
    respelledFields]

theorem FieldsReadBack.cons (key : String) {value : Json} {next : String × Json}
    {fields : List (String × Json)} (hvalue : ReadsBack value)
    (hfields : FieldsReadBack (next :: fields)) :
    FieldsReadBack ((key, value) :: next :: fields) := by
  intro after
  have hcomma : isBlank ',' = false := rfl
  obtain ⟨hmore, hrest⟩ := hfields after
  obtain ⟨hlength, hread⟩ :=
    hvalue (',' :: compactFields (next :: fields) ('\x7d' :: after))
      (endsNumber_cons rfl (by decide) (by decide) (by decide) _)
  have hkey := length_lt_stringBefore key
    (':' :: value.compactBefore (',' :: compactFields (next :: fields) ('\x7d' :: after)))
  rw [List.length_cons] at hlength hread hkey
  rw [compactFields]
  · refine .of_succ (by omega) fun fuel hfuel => ?_
    simp [readFields?, readKey?_stringBefore, hread fuel (by omega), skipBlanks_cons hcomma,
      hrest fuel (by omega), respelledFields]
  · simp

/-- What begins with a closing brace has no fields. -/
theorem readFields?_close {text rest : List Char} (h : skipBlanks text = '\x7d' :: rest)
    (fuel : Nat) : readFields? fuel text = none := by
  cases fuel with
  | zero => rfl
  | succ fuel => simp [readFields?, readKey?, h]

theorem FieldsReadBack.object {fields : List (String × Json)} (hfields : FieldsReadBack fields) :
    ReadsBack (object fields) := by
  intro after _
  have hopen : isBlank '\x7b' = false := rfl
  obtain ⟨hlength, hread⟩ := hfields after
  rw [compactBefore]
  refine .of_succ ?_ fun fuel hfuel => ?_
  · rw [List.length_cons]
    omega
  · rw [List.length_cons] at hfuel
    have hfields := hread fuel (by omega)
    rw [readValue?, skipBlanks_cons hopen]
    simp only
    split
    · next hclose =>
      rw [readFields?_close hclose] at hfields
      cases hfields
    · simp [hfields, respelled]

theorem readsBack_object_nil : ReadsBack (object []) := by
  intro after _
  have hopen : isBlank '\x7b' = false := rfl
  have hclose : isBlank '\x7d' = false := rfl
  rw [compactBefore, compactFields]
  refine .of_succ ?_ fun fuel _ => ?_
  · rw [List.length_cons, List.length_cons]
    omega
  · simp [readValue?, skipBlanks_cons hopen, skipBlanks_cons hclose, respelled, respelledFields]

/-! ### All values -/

mutual

theorem readsBack : ∀ j : Json, ReadsBack j
  | null => readsBack_null
  | boolean b => readsBack_boolean b
  | number d => readsBack_number d
  | string s => readsBack_string s
  | array [] => readsBack_array_nil
  | array (item :: items) => (itemsReadBack (item :: items) (by simp)).array
  | object [] => readsBack_object_nil
  | object (field :: fields) => (fieldsReadBack (field :: fields) (by simp)).object

theorem itemsReadBack : ∀ items : List Json, items ≠ [] → ItemsReadBack items
  | [], h => absurd rfl h
  | [item], _ => itemsReadBack_single (readsBack item)
  | item :: next :: items, _ => .cons (readsBack item) (itemsReadBack (next :: items) (by simp))

theorem fieldsReadBack : ∀ fields : List (String × Json), fields ≠ [] → FieldsReadBack fields
  | [], h => absurd rfl h
  | [(key, value)], _ => fieldsReadBack_single key (readsBack value)
  | (key, value) :: next :: fields, _ =>
    .cons key (readsBack value) (fieldsReadBack (next :: fields) (by simp))

end

/-- The text of a value is read as that value, with its numbers as they are spelled. -/
theorem ofText?_compact (j : Json) : ofText? j.compact = some j.respelled := by
  have hvalue := (readsBack j [] endsNumber_nil).reads (2 * (j.compactBefore []).length + 2)
    (Nat.le_add_right _ 2)
  have htext : j.compact.toList = j.compactBefore [] := String.toList_ofList
  rw [ofText?, htext, hvalue]
  rfl

end InventoryFilter.Json
