import InventoryFilter.Proofs.AsciiLetters
import InventoryFilter.Proofs.TokenGrammar

set_option autoImplicit false

/-!
# Borders between tokens

Where a token ends depends on what follows it: a word ends before a character that is not in words,
and a number looks as far as the end of the letters behind it.  A lexeme is scanned again, however,
before every text that gives it no more to go on with than the text it was scanned before.  A
separator or a bracket gives nothing to go on with at all.

Main statement: a lexeme that stands before one text stands before every other text that offers it
no more to go on with.
-/

namespace InventoryFilter

open Text

/-- A run of characters with the property ends before the text. -/
def EndsRun (p : Char → Bool) (rest : List Char) : Prop := ∀ c ∈ rest.head?, p c = false

theorem EndsRun.append {p : Char → Bool} {rest rest' : List Char}
    (h : EndsRun p rest → EndsRun p rest') (cs : List Char) :
    EndsRun p (cs ++ rest) → EndsRun p (cs ++ rest') := by
  cases cs with
  | nil => exact h
  | cons c cs => exact id

theorem endsRun_dropWhile (p : Char → Bool) (cs : List Char) : EndsRun p (cs.dropWhile p) := by
  intro c hc
  have hhead := List.head?_dropWhile_not p cs
  rw [Option.mem_def.1 hc] at hhead
  simpa using hhead

namespace Lexeme

/-! ## What a token may go on with -/

/-- The classes of characters by which some token may go on. -/
def lookahead : List (Char → Bool) :=
  [isWordChar, Char.isDigit, Char.isAlpha, (· == '='), (· == '~')]

/-- `OffersNoMore rest' rest`: a token that ends before `rest` has nothing more to go on with before
`rest'`. -/
structure OffersNoMore (rest' rest : List Char) : Prop where
  head : ∀ p ∈ lookahead, EndsRun p rest → EndsRun p rest'
  point : (fraction rest).1 = [] → (fraction rest').1 = []
  unit : (unitLetters rest).1 = [] → (unitLetters rest').1 = []

/-- A text without a point in front has no fraction in front. -/
theorem fraction_eq_nil {rest : List Char} (h : '.' ∉ rest.head?) : fraction rest = ([], rest) := by
  unfold fraction
  split
  · exact absurd rfl h
  · rfl

theorem fraction_of_fst_eq_nil {rest : List Char} (h : (fraction rest).1 = []) :
    fraction rest = ([], rest) := by
  have happend := fraction_append rest
  rw [h, List.nil_append] at happend
  exact Prod.ext h happend

theorem fraction_point_fst (rest : List Char) :
    (fraction ('.' :: rest)).1 = [] ↔ EndsRun Char.isDigit rest := by
  cases rest with
  | nil => exact iff_of_true rfl fun c hc => by cases hc
  | cons c rest =>
    rw [fraction]
    by_cases hc : c.isDigit = true
    · rw [if_pos hc]
      exact iff_of_false (List.cons_ne_nil _ _) fun h => by simp [h c rfl] at hc
    · rw [if_neg hc]
      refine iff_of_true rfl ?_
      rintro d ⟨⟩
      simpa using hc

theorem unitLetters_of_fst_eq_nil {rest : List Char} (h : (unitLetters rest).1 = []) :
    unitLetters rest = ([], rest) := by
  have happend := unitLetters_append rest
  rw [h, List.nil_append] at happend
  exact Prod.ext h happend

/-- Only the letters in front decide whether they are a unit. -/
theorem unitLetters_fst (rest : List Char) :
    (unitLetters rest).1 =
      if (StorageUnit.ofSuffix? (rest.takeWhile Char.isAlpha)).isSome then
        rest.takeWhile Char.isAlpha
      else [] := by
  unfold unitLetters
  split <;> rfl

theorem unitLetters_fst_eq_nil {rest : List Char} (h : EndsRun Char.isAlpha rest) :
    (unitLetters rest).1 = [] := by
  have htake : rest.takeWhile Char.isAlpha = [] := by
    simpa using (span_append h []).1
  rw [unitLetters_fst, htake, StorageUnit.ofSuffix?_nil]
  rfl

/-- Whether the text is empty or begins with a separator or a bracket. -/
def Breaks (rest : List Char) : Prop :=
  ∀ c ∈ rest.head?, isSeparator c = true ∨ c = '(' ∨ c = ')'

/-- The characters of a text that breaks have no property that neither separators nor brackets
have. -/
theorem Breaks.endsRun {rest : List Char} (h : Breaks rest) {p : Char → Bool}
    (hp : [' ', '\t', '\r', '\n', '(', ')'].all (fun c => !p c) = true) : EndsRun p rest := by
  intro c hc
  have hmem : c ∈ [' ', '\t', '\r', '\n', '(', ')'] := by
    simpa [isSeparator, or_assoc] using h c hc
  simpa using List.all_eq_true.1 hp c hmem

theorem Breaks.separator {c : Char} (h : isSeparator c = true) (rest : List Char) :
    Breaks (c :: rest) := by
  intro d hd
  cases hd
  exact .inl h

/-- Before a separator or a bracket, no token goes on. -/
theorem Breaks.offersNoMore {rest' : List Char} (h : Breaks rest') (rest : List Char) :
    OffersNoMore rest' rest where
  head := by
    intro p hp _
    have hnone : ∀ p ∈ lookahead,
        [' ', '\t', '\r', '\n', '(', ')'].all (fun c => !p c) = true := by
      simp only [lookahead, List.forall_mem_cons]
      decide
    exact h.endsRun (hnone p hp)
  point := by
    intro _
    have hpoint : '.' ∉ rest'.head? := by
      intro hmem
      have := h.endsRun (p := (· == '.')) (by decide) '.' hmem
      simp at this
    rw [fraction_eq_nil hpoint]
  unit := fun _ => unitLetters_fst_eq_nil (h.endsRun (by decide))

theorem OffersNoMore.refl (rest : List Char) : OffersNoMore rest rest :=
  ⟨fun _ _ h => h, id, id⟩

/-- Separators in front leave nothing to go on with. -/
theorem OffersNoMore.separators {rest rest' gap : List Char} (h : OffersNoMore rest' rest)
    (hgap : ∀ c ∈ gap, isSeparator c = true) : OffersNoMore (gap ++ rest') (gap ++ rest) := by
  cases gap with
  | nil => exact h
  | cons c gap => exact (Breaks.separator (hgap c (by simp)) _).offersNoMore _

/-! ## Numbers -/

/-- Before `rest`, a number has these digits, this fraction and this unit. -/
structure NumberParts (whole point unit rest : List Char) : Prop where
  digits : ∀ c ∈ whole, c.isDigit = true
  ends : EndsRun Char.isDigit (point ++ (unit ++ rest))
  fraction_eq : fraction (point ++ (unit ++ rest)) = (point, unit ++ rest)
  unitLetters_eq : unitLetters (unit ++ rest) = (unit, rest)

theorem exists_numberParts {cs rest : List Char} {l : Lexeme} (h : number cs = (l, rest)) :
    ∃ whole point unit, l = verbatim .quantity (whole ++ point ++ unit) ∧
      cs = whole ++ point ++ unit ++ rest ∧ NumberParts whole point unit rest := by
  have hpoint := fraction_append (cs.dropWhile Char.isDigit)
  have hwhole : cs.takeWhile Char.isDigit ++ cs.dropWhile Char.isDigit = cs :=
    List.takeWhile_append_dropWhile
  have hends := endsRun_dropWhile Char.isDigit cs
  cases hfraction : fraction (cs.dropWhile Char.isDigit) with
  | mk point mid =>
    have hunit := unitLetters_append mid
    cases hletters : unitLetters mid with
    | mk unit rest' =>
      simp only [number, hfraction, hletters, Prod.mk.injEq] at h
      obtain ⟨rfl, rfl⟩ := h
      rw [hletters] at hunit
      rw [hfraction] at hpoint
      simp only at hunit hpoint
      subst hunit
      rw [← hpoint] at hwhole hfraction hends
      refine ⟨_, point, unit, rfl, by simpa using hwhole.symm, ?_⟩
      exact ⟨List.all_eq_true.1 List.all_takeWhile, hends, hfraction, hletters⟩

theorem NumberParts.number_eq {whole point unit rest : List Char}
    (h : NumberParts whole point unit rest) :
    number (whole ++ point ++ unit ++ rest) =
      (verbatim .quantity (whole ++ point ++ unit), rest) := by
  obtain ⟨htake, hdrop⟩ := span_run h.digits h.ends
  have hassoc : whole ++ point ++ unit ++ rest = whole ++ (point ++ (unit ++ rest)) := by simp
  rw [hassoc, number, htake, hdrop, h.fraction_eq]
  simp only [h.unitLetters_eq]

/-- Letters are taken as a unit exactly if all of them together name one. -/
theorem unitLetters_eq_iff {unit rest : List Char} (hne : unit ≠ []) :
    unitLetters (unit ++ rest) = (unit, rest) ↔
      (∀ c ∈ unit, c.isAlpha = true) ∧ (StorageUnit.ofSuffix? unit).isSome = true ∧
        EndsRun Char.isAlpha rest := by
  constructor
  · intro h
    unfold unitLetters at h
    split at h
    · next hunit =>
      obtain ⟨htake, hdrop⟩ := Prod.mk.inj h
      rw [htake] at hunit
      refine ⟨?_, hunit, hdrop ▸ endsRun_dropWhile _ _⟩
      rw [← htake]
      exact List.all_eq_true.1 List.all_takeWhile
    · exact absurd (congrArg Prod.fst h).symm hne
  · rintro ⟨hletters, hunit, hrest⟩
    obtain ⟨htake, hdrop⟩ := span_run hletters hrest
    rw [unitLetters, htake, hdrop, if_pos hunit]

theorem unitLetters_of_offersNoMore {unit rest rest' : List Char}
    (h : unitLetters (unit ++ rest) = (unit, rest)) (hmore : OffersNoMore rest' rest) :
    unitLetters (unit ++ rest') = (unit, rest') := by
  cases unit with
  | nil =>
    apply unitLetters_of_fst_eq_nil
    apply hmore.unit
    exact congrArg Prod.fst h
  | cons c unit =>
    rw [unitLetters_eq_iff (List.cons_ne_nil c unit)] at h ⊢
    obtain ⟨hletters, hunit, hrest⟩ := h
    exact ⟨hletters, hunit, hmore.head Char.isAlpha (by simp [lookahead]) hrest⟩

theorem fraction_of_ends {point rest rest' : List Char}
    (h : fraction (point ++ rest) = (point, rest))
    (hdigit : EndsRun Char.isDigit rest → EndsRun Char.isDigit rest')
    (hpoint : (fraction rest).1 = [] → (fraction rest').1 = []) :
    fraction (point ++ rest') = (point, rest') := by
  rcases Lexical.fraction_cases (point ++ rest) with ⟨c, ds, _, hc, hfraction⟩ | ⟨_, hfraction⟩
  · rw [h] at hfraction
    obtain ⟨hp, hr⟩ := Prod.mk.inj hfraction
    have hdigits : ∀ d ∈ (c :: ds).takeWhile Char.isDigit, d.isDigit = true :=
      List.all_eq_true.1 List.all_takeWhile
    have hrest : EndsRun Char.isDigit rest := hr ▸ endsRun_dropWhile _ _
    obtain ⟨htake, hdrop⟩ := span_run hdigits (hdigit hrest)
    rw [List.takeWhile_cons_of_pos hc] at hp htake hdrop
    rw [hp, List.cons_append, List.cons_append, fraction, if_pos hc, ← List.cons_append, htake,
      hdrop]
  · rw [h] at hfraction
    obtain ⟨rfl, _⟩ := Prod.mk.inj hfraction
    exact fraction_of_fst_eq_nil (hpoint (congrArg Prod.fst h))

/-- A number is the same before every text that offers no more. -/
theorem NumberParts.of_offersNoMore {whole point unit rest rest' : List Char}
    (h : NumberParts whole point unit rest) (hmore : OffersNoMore rest' rest) :
    NumberParts whole point unit rest' where
  digits := h.digits
  ends := by
    have hdigit := hmore.head Char.isDigit (by simp [lookahead])
    exact EndsRun.append (EndsRun.append hdigit unit) point h.ends
  fraction_eq := by
    refine fraction_of_ends h.fraction_eq
      (EndsRun.append (hmore.head Char.isDigit (by simp [lookahead])) unit) ?_
    cases unit with
    | nil => exact hmore.point
    | cons c unit =>
      intro _
      -- a unit begins with a letter
      have hletters := ((unitLetters_eq_iff (List.cons_ne_nil c unit)).1 h.unitLetters_eq).1
      have hletter : c.isAlpha = true := hletters c (by simp)
      have hne : '.' ∉ (c :: unit ++ rest').head? := by
        rintro ⟨⟩
        cases hletter
      rw [fraction_eq_nil hne]
  unitLetters_eq := unitLetters_of_offersNoMore h.unitLetters_eq hmore

/-! ## Lexemes before other texts -/

/-- The characters of the lexeme, before `rest`, are scanned as the lexeme. -/
def Stands (l : Lexeme) (rest : List Char) : Prop :=
  ∃ c cs, l.source = c :: cs ∧ isSeparator c = false ∧ first c (cs ++ rest) = (l, rest)

/-- Whether the text of an illegal token is that of a literal which the filter leaves open. -/
def Unclosed (kind : TokenKind) (text : List Char) : Prop :=
  kind = .illegal ∧ ∃ c cs, text = c :: cs ∧ (c = '/' ∨ isQuote c = true ∧ cs ≠ [c])

/-- Before anything but an equals sign, the signs of an order stand alone. -/
theorem first_of_endsRun_equals {c : Char} {kind : TokenKind}
    (hc : c = '<' ∧ kind = .less ∨ c = '>' ∧ kind = .greater) {rest : List Char}
    (h : EndsRun (· == '=') rest) : first c rest = (verbatim kind [c], rest) := by
  cases rest with
  | nil => rcases hc with ⟨rfl, rfl⟩ | ⟨rfl, rfl⟩ <;> rfl
  | cons d rest =>
    have hd : d ≠ '=' := by simpa using h d rfl
    rcases hc with ⟨rfl, rfl⟩ | ⟨rfl, rfl⟩ <;> simp [first, symbol?, hd]

theorem endsRun_beq {c : Char} {rest : List Char} (h : ∀ cs, rest = c :: cs → False) :
    EndsRun (· == c) rest := by
  intro d hd
  cases rest with
  | nil => cases hd
  | cons e rest =>
    cases hd
    rw [beq_eq_false_iff_ne]
    intro he
    exact h rest (by rw [he])

theorem first_of_symbol? {l : Lexeme} {c : Char} {cs rest rest' : List Char}
    (hsource : l.source = c :: cs) (h : symbol? c (cs ++ rest) = some (l, rest))
    (hequals : EndsRun (· == '=') rest → EndsRun (· == '=') rest') :
    first c (cs ++ rest') = (l, rest') := by
  generalize htext : cs ++ rest = text at h
  unfold symbol? at h
  -- the source of the lexeme tells how many characters it takes
  split at h <;> cases h <;> cases hsource
  · rfl
  · rfl
  · rfl
  · rfl
  · rfl
  · next hother =>
    exact first_of_endsRun_equals (.inl ⟨rfl, rfl⟩) (hequals (endsRun_beq hother))
  · rfl
  · next hother =>
    exact first_of_endsRun_equals (.inr ⟨rfl, rfl⟩) (hequals (endsRun_beq hother))
  · rfl
  · rfl

/-- A character that begins no symbol before `rest` begins none before `rest'`. -/
theorem symbol?_eq_none_of_endsRun {c : Char} {rest rest' : List Char} (h : symbol? c rest = none)
    (hequals : EndsRun (· == '=') rest → EndsRun (· == '=') rest')
    (htilde : EndsRun (· == '~') rest → EndsRun (· == '~') rest') : symbol? c rest' = none := by
  by_cases hmem : c ∈ ['(', ')', '=', '~', '<', '>', '!']
  · -- of these characters only the exclamation mark needs another one behind it
    have hmark : c = '!' := by
      simp only [List.mem_cons, List.not_mem_nil, or_false] at hmem
      rcases hmem with rfl | rfl | rfl | rfl | rfl | rfl | rfl
      · cases h
      · cases h
      · cases h
      · cases h
      · unfold symbol? at h
        split at h <;> simp_all
      · unfold symbol? at h
        split at h <;> simp_all
      · rfl
    subst hmark
    have hno : EndsRun (· == '=') rest' ∧ EndsRun (· == '~') rest' := by
      refine ⟨hequals (endsRun_beq ?_), htilde (endsRun_beq ?_)⟩
      · rintro cs rfl
        cases h
      · rintro cs rfl
        cases h
    cases rest' with
    | nil => rfl
    | cons d rest' =>
      have hequal : d ≠ '=' := by simpa using hno.1 d rfl
      have hlike : d ≠ '~' := by simpa using hno.2 d rfl
      simp [symbol?, hequal, hlike]
  · exact symbol?_eq_none hmem rest'

theorem first_of_quoted {l : Lexeme} {c : Char} {cs rest rest' : List Char}
    (hsource : l.source = c :: cs) (hquote : isQuote c = true)
    (h : quoted c (cs ++ rest) = (l, rest)) (hopen : Unclosed l.kind l.text → rest' = []) :
    first c (cs ++ rest') = (l, rest') := by
  rcases quoted_cases c (cs ++ rest) with ⟨hnot, hquoted⟩ | ⟨tail, htail, hquoted⟩ |
    ⟨content, tail, hne, hnot, htail, hquoted⟩
  · rw [h] at hquoted
    obtain ⟨rfl, rfl⟩ := Prod.mk.inj hquoted
    have hrest : rest' = [] := by
      refine hopen ⟨rfl, c, _, rfl, .inr ⟨hquote, ?_⟩⟩
      intro hcs
      exact hnot (by simp [hcs])
    rw [hrest, first_of_isQuote hquote, h]
  · rw [h] at hquoted
    obtain ⟨rfl, rfl⟩ := Prod.mk.inj hquoted
    cases hsource
    rw [first_of_isQuote hquote]
    simp [quoted, verbatim]
  · rw [h] at hquoted
    obtain ⟨rfl, rfl⟩ := Prod.mk.inj hquoted
    obtain ⟨-, rfl⟩ := List.cons.inj hsource
    have hclosed := first_quoted hquote hne hnot rest'
    simpa using hclosed

theorem first_of_slashed {l : Lexeme} {cs rest rest' : List Char}
    (hsource : l.source = '/' :: cs) (h : slashed (cs ++ rest) = (l, rest))
    (hopen : Unclosed l.kind l.text → rest' = []) : first '/' (cs ++ rest') = (l, rest') := by
  rcases slashed_cases (cs ++ rest) with ⟨_, hslashed⟩ | ⟨body, text, tail, hbody, _, hslashed⟩
  · rw [h] at hslashed
    obtain ⟨rfl, rfl⟩ := Prod.mk.inj hslashed
    have hrest : rest' = [] := hopen ⟨rfl, '/', _, rfl, .inl rfl⟩
    rw [hrest, first_slash, h]
  · rw [h] at hslashed
    obtain ⟨rfl, rfl⟩ := Prod.mk.inj hslashed
    obtain ⟨-, rfl⟩ := List.cons.inj hsource
    have hclosed := first_slashed hbody rest'
    simpa using hclosed

theorem word_eq_iff {cs rest : List Char} {l : Lexeme} :
    word cs = (l, rest) ↔ cs = l.source ++ rest ∧ l = verbatim (.ofWord l.source) l.source ∧
      (∀ c ∈ l.source, isWordChar c = true) ∧ EndsRun isWordChar rest := by
  constructor
  · intro h
    obtain ⟨rfl, rfl⟩ := Prod.mk.inj h
    exact ⟨List.takeWhile_append_dropWhile.symm, rfl, List.all_eq_true.1 List.all_takeWhile,
      endsRun_dropWhile _ _⟩
  · rintro ⟨rfl, hl, hrun, hrest⟩
    obtain ⟨htake, hdrop⟩ := span_run hrun hrest
    rw [word, htake, hdrop, ← hl]

/-- A lexeme stands before every text that offers it no more to go on with.  Only a literal that is
left open takes whatever follows. -/
theorem Stands.of_offersNoMore {l : Lexeme} {rest rest' : List Char} (h : l.Stands rest)
    (hmore : OffersNoMore rest' rest) (hopen : Unclosed l.kind l.text → rest' = []) :
    l.Stands rest' := by
  obtain ⟨c, cs, hsource, hsep, hfirst⟩ := h
  refine ⟨c, cs, hsource, hsep, ?_⟩
  have hequals := hmore.head (· == '=') (by simp [lookahead])
  have htilde := hmore.head (· == '~') (by simp [lookahead])
  rcases first_cases c (cs ++ rest) with hsymbol | ⟨hquote, hread⟩ | ⟨rfl, hread⟩ |
    ⟨hdigit, hread⟩ | ⟨hstart, hread⟩ | ⟨⟨hsymbol, hquote, hslash, hdigit, hstart⟩, hread⟩
  · exact first_of_symbol? hsource (hsymbol.trans (congrArg some hfirst)) hequals
  · exact first_of_quoted hsource hquote (hread.symm.trans hfirst) hopen
  · exact first_of_slashed hsource (hread.symm.trans hfirst) hopen
  · obtain ⟨whole, point, unit, rfl, htext, hparts⟩ := exists_numberParts (hread.symm.trans hfirst)
    have hnumber := (hparts.of_offersNoMore hmore).number_eq
    rw [first_of_isDigit hdigit, ← List.cons_append, ← hsource]
    exact hnumber
  · obtain ⟨_, hl, hrun, hrest⟩ := word_eq_iff.1 (hread.symm.trans hfirst)
    rw [first_of_isWordStart hstart, ← List.cons_append, ← hsource]
    exact word_eq_iff.2 ⟨rfl, hl, hrun, hmore.head isWordChar (by simp [lookahead]) hrest⟩
  · rw [hread] at hfirst
    obtain ⟨rfl, htext⟩ := Prod.mk.inj hfirst
    cases hsource
    have hnone : symbol? c rest' = none := symbol?_eq_none_of_endsRun hsymbol hequals htilde
    rw [List.nil_append, first, hnone]
    simp [hquote, hslash, hdigit, hstart]

/-- Nothing is left behind a literal that is left open. -/
theorem Stands.eq_nil_of_unclosed {l : Lexeme} {rest : List Char} (h : l.Stands rest)
    (hopen : Unclosed l.kind l.text) : rest = [] := by
  obtain ⟨c, cs, hsource, _, hfirst⟩ := h
  obtain ⟨hkind, d, ds, htext, hliteral⟩ := hopen
  have hpiece := (Lexical.isFirst_first c (cs ++ rest)).illegalPiece
  have hsaid := first_says c (cs ++ rest)
  rw [hfirst] at hpiece hsaid
  rw [hkind] at hsaid
  have htake : d :: ds = c :: cs := htext.symm.trans (hsaid.trans hsource)
  obtain ⟨rfl, rfl⟩ := List.cons.inj htake
  replace hpiece := hpiece hkind
  rw [hsource] at hpiece
  generalize hrest : ds ++ rest = tail at hpiece
  generalize htaken : d :: ds = taken at hpiece
  cases hpiece with
  | emptyText hquote =>
    cases htaken
    rcases hliteral with rfl | ⟨_, hne⟩
    · simp at hquote
    · exact absurd rfl hne
  | openText _ _ =>
    cases htaken
    simpa using hrest
  | openPattern =>
    cases htaken
    simpa using hrest
  | character hquote hslash =>
    rcases hliteral with rfl | ⟨hquote', _⟩
    · exact absurd rfl hslash
    · exact absurd (isQuote_iff.1 hquote') hquote

/-! ## Borders behind lexemes -/

/-- A word that stands before a text holds all letters with which they begin together. -/
theorem Stands.takeWhile_isAlpha {l : Lexeme} {c : Char} {cs rest : List Char} (h : l.Stands rest)
    (hsource : l.source = c :: cs) (hc : c.isAlpha = true) :
    (l.source ++ rest).takeWhile Char.isAlpha = l.source.takeWhile Char.isAlpha := by
  have hstart : isWordStart c = true := by simp [isWordStart, isAlphabetic_of_isAlpha hc]
  obtain ⟨d, ds, hsource', _, hfirst⟩ := h
  obtain ⟨rfl, rfl⟩ := List.cons.inj (hsource.symm.trans hsource')
  rw [first_of_isWordStart hstart] at hfirst
  obtain ⟨_, _, _, hrest⟩ := word_eq_iff.1 hfirst
  refine (span_append ?_ l.source).1
  intro d hd
  rw [Bool.eq_false_iff]
  intro halpha
  have hword : isWordChar d = true := by simp [isWordChar, isAlphabetic_of_isAlpha halpha]
  rw [hrest d hd] at hword
  cases hword

/-- A lexeme in front of two texts leaves no more to go on with than the texts do. -/
theorem OffersNoMore.lexeme {l : Lexeme} {rest rest' : List Char} (hmore : OffersNoMore rest' rest)
    (h : l.Stands rest) (h' : l.Stands rest') :
    OffersNoMore (l.source ++ rest') (l.source ++ rest) := by
  obtain ⟨c, cs, hsource, _, _⟩ := id h
  refine ⟨?_, ?_, ?_⟩
  · intro p hp
    exact EndsRun.append (hmore.head p hp) l.source
  · rw [hsource]
    by_cases hpoint : c = '.'
    · subst hpoint
      rw [List.cons_append, List.cons_append, fraction_point_fst, fraction_point_fst]
      exact EndsRun.append (hmore.head Char.isDigit (by simp [lookahead])) cs
    · intro _
      rw [fraction_eq_nil (by simpa using hpoint)]
  · by_cases halpha : c.isAlpha = true
    · rw [unitLetters_fst, unitLetters_fst, h.takeWhile_isAlpha hsource halpha,
        h'.takeWhile_isAlpha hsource halpha]
      exact id
    · intro _
      apply unitLetters_fst_eq_nil
      rw [hsource]
      rintro d ⟨⟩
      simpa using halpha

end Lexeme

end InventoryFilter
