import InventoryFilter.Token.Scanner

set_option autoImplicit false

/-!
# What scanning yields

What the texts of scanned tokens look like, kind by kind, and the tokens of a filter without their
places.  Kind and text are all that reading a filter looks at, unless it is rejected.
-/

namespace InventoryFilter

/-- What follows a text makes no difference to the run at its front, if the run cannot go on into
it. -/
theorem span_append {p : Char → Bool} {rest : List Char} (hrest : ∀ c ∈ rest.head?, p c = false)
    (cs : List Char) :
    (cs ++ rest).takeWhile p = cs.takeWhile p ∧
      (cs ++ rest).dropWhile p = cs.dropWhile p ++ rest := by
  induction cs with
  | nil =>
    cases rest with
    | nil => simp
    | cons c rest =>
      have hc : p c = false := hrest c rfl
      simp [hc]
  | cons c cs ih =>
    cases hc : p c with
    | true => simpa [hc] using ih
    | false => simp [hc]

/-- A run of characters that all have a property, before a character that lacks it, is exactly what
`takeWhile` takes and `dropWhile` drops. -/
theorem span_run {p : Char → Bool} {run rest : List Char} (hrun : ∀ c ∈ run, p c = true)
    (hrest : ∀ c ∈ rest.head?, p c = false) :
    (run ++ rest).takeWhile p = run ∧ (run ++ rest).dropWhile p = rest := by
  rw [List.takeWhile_append_of_pos hrun, List.dropWhile_append_of_pos hrun]
  simpa using span_append hrest []

/-- A property that no separator has tells a character from the separators. -/
theorem isSeparator_eq_false {p : Char → Bool} {c : Char} (hc : p c = true)
    (hp : [' ', '\t', '\r', '\n'].any p = false) : isSeparator c = false := by
  rw [Bool.eq_false_iff]
  intro hsep
  have hmem : c ∈ [' ', '\t', '\r', '\n'] := by simpa [isSeparator, or_assoc] using hsep
  exact List.any_eq_false.1 hp c hmem hc

namespace Lexeme

/-! ## Patterns between slashes -/

/-- `PatternBody source text`: between slashes, `source` spells the pattern `text`. -/
inductive PatternBody : List Char → List Char → Prop
  | nil : PatternBody [] []
  | plain {c : Char} {source text : List Char} (hslash : c ≠ '/') (hback : c ≠ '\\')
      (h : PatternBody source text) : PatternBody (c :: source) (c :: text)
  | slash {source text : List Char} (h : PatternBody source text) :
      PatternBody ('\\' :: '/' :: source) ('/' :: text)
  | escaped {c : Char} {source text : List Char} (hslash : c ≠ '/')
      (h : PatternBody source text) : PatternBody ('\\' :: c :: source) ('\\' :: c :: text)

theorem patternBody_of_eq_some {cs source text rest : List Char}
    (h : patternBody? cs = some (source, text, rest)) : PatternBody source text := by
  fun_induction patternBody? cs generalizing source text rest with
  | case1 => cases h
  | case2 => cases h
  | case3 c cs ih =>
    obtain ⟨⟨s, t, r⟩, hr, he⟩ := Option.map_eq_some_iff.1 h
    cases he
    by_cases hc : c = '/'
    · subst hc
      exact .slash (ih hr)
    · rw [if_neg hc]
      exact .escaped hc (ih hr)
  | case4 cs => cases h; exact .nil
  | case5 c cs hlone hpair hslash ih =>
    obtain ⟨⟨s, t, r⟩, hr, he⟩ := Option.map_eq_some_iff.1 h
    cases he
    have hback : c ≠ '\\' := by
      rintro rfl
      cases cs with
      | nil => exact hlone rfl rfl
      | cons d ds => exact hpair d ds rfl rfl
    exact .plain hslash hback (ih hr)

theorem PatternBody.patternBody?_eq {source text : List Char} (h : PatternBody source text)
    (rest : List Char) : patternBody? (source ++ '/' :: rest) = some (source, text, rest) := by
  induction h with
  | nil => simp [patternBody?]
  | plain hslash hback h ih =>
    rw [List.cons_append, patternBody?, if_neg hslash, ih]
    · rfl
    · intro hc
      exact absurd hc hback
    · intro d ds hc
      exact absurd hc hback
  | slash h ih =>
    simp [patternBody?, ih]
  | escaped hslash h ih =>
    simp [patternBody?, ih, hslash]

/-- A pattern has only one spelling, in which exactly its slashes are escaped. -/
theorem PatternBody.source_eq {source text : List Char} (h : PatternBody source text) :
    source = text.flatMap fun c => if c = '/' then ['\\', '/'] else [c] := by
  induction h with
  | nil => rfl
  | plain hslash _ _ ih => simp [hslash, ← ih]
  | slash _ ih => simp [← ih]
  | escaped hslash _ ih => simp [hslash, ← ih]

end Lexeme

/-! ## The texts of tokens -/

/-- Whether the text is a word other than a keyword. -/
def IsIdentifier (text : List Char) : Prop :=
  (∃ c cs, text = c :: cs ∧ Lexeme.isWordStart c = true) ∧
    (∀ c ∈ text, Lexeme.isWordChar c = true) ∧ TokenKind.ofWord text = .identifier

/-- What the text of a scanned token of the kind is like, as far as the kind says anything about
it. -/
def TokenKind.Spells (kind : TokenKind) (text : List Char) : Prop :=
  match kind with
  | .string => text ≠ [] ∧ ∃ quote, Lexeme.isQuote quote = true ∧ quote ∉ text
  | .pattern => ∃ source, Lexeme.PatternBody source text
  | .quantity => ∃ c cs, text = c :: cs ∧ c.isDigit = true
  | .identifier => IsIdentifier text
  | .finish => False
  | _ => True

/-- A word is a keyword or an identifier. -/
theorem TokenKind.ofWord_cases (word : List Char) :
    ofWord word = .and ∨ ofWord word = .or ∨ ofWord word = .boolean ∨
      ofWord word = .identifier := by
  unfold ofWord
  split
  · next kw kind h =>
    have hmem := List.mem_of_find?_eq_some h
    simp only [keywords, List.mem_cons, Prod.mk.injEq, List.not_mem_nil, or_false] at hmem
    rcases hmem with ⟨_, rfl⟩ | ⟨_, rfl⟩ | ⟨_, rfl⟩ | ⟨_, rfl⟩ <;> simp
  · simp

namespace Lexeme

theorem symbol?_spells {c : Char} {cs : List Char} {r : Lexeme × List Char}
    (h : symbol? c cs = some r) : r.1.kind.Spells r.1.text := by
  unfold symbol? at h
  split at h <;> first | cases h; exact True.intro | cases h

theorem quoted_spells {quote : Char} (hquote : isQuote quote = true) (cs : List Char) :
    (quoted quote cs).1.kind.Spells (quoted quote cs).1.text := by
  unfold quoted
  simp only
  split
  · exact True.intro
  · split
    · exact True.intro
    · next hcontent =>
      refine ⟨by simpa using hcontent, quote, hquote, ?_⟩
      intro hmem
      simpa using List.all_eq_true.1 List.all_takeWhile quote hmem

theorem slashed_spells (cs : List Char) : (slashed cs).1.kind.Spells (slashed cs).1.text := by
  unfold slashed
  split
  · exact True.intro
  · next source text rest h => exact ⟨source, patternBody_of_eq_some h⟩

theorem number_spells {c : Char} (hdigit : c.isDigit = true) (cs : List Char) :
    (number (c :: cs)).1.kind.Spells (number (c :: cs)).1.text := by
  simp only [number, verbatim, List.takeWhile_cons_of_pos hdigit, List.cons_append]
  exact ⟨c, _, rfl, hdigit⟩

theorem word_spells {c : Char} (hstart : isWordStart c = true) (cs : List Char) :
    (word (c :: cs)).1.kind.Spells (word (c :: cs)).1.text := by
  have hrun : (c :: cs).takeWhile isWordChar = c :: cs.takeWhile isWordChar :=
    List.takeWhile_cons_of_pos (isWordChar_of_isWordStart hstart)
  simp only [word, verbatim, hrun]
  rcases TokenKind.ofWord_cases (c :: cs.takeWhile isWordChar) with h | h | h | h
  · rw [h]; exact True.intro
  · rw [h]; exact True.intro
  · rw [h]; exact True.intro
  · rw [h]
    refine ⟨⟨c, _, rfl, hstart⟩, ?_, h⟩
    rw [← hrun]
    intro d hd
    exact List.all_eq_true.1 List.all_takeWhile d hd

/-- The first lexeme of any text is spelled as its kind asks. -/
theorem first_spells (c : Char) (cs : List Char) :
    (first c cs).1.kind.Spells (first c cs).1.text := by
  unfold first
  split
  · next h => exact symbol?_spells h
  · split
    · next hquote => exact quoted_spells hquote cs
    · split
      · exact slashed_spells cs
      · split
        · next hdigit => exact number_spells hdigit cs
        · split
          · next hstart => exact word_spells hstart cs
          · exact True.intro

end Lexeme

/-! ## Tokens without their places -/

/-- The kind and the text of a lexeme. -/
def Lexeme.content (l : Lexeme) : TokenKind × List Char := (l.kind, l.text)

/-- The kind and the text of a token. -/
def Token.content (t : Token) : TokenKind × List Char := (t.kind, t.lexeme.toList)

/-- The lexemes of a text, one after another. -/
def lexemes (cs : List Char) : List Lexeme :=
  match _h : cs.dropWhile isSeparator with
  | [] => []
  | c :: rest => (Lexeme.first c rest).1 :: lexemes (Lexeme.first c rest).2
termination_by cs.length
decreasing_by
  have hle : (cs.dropWhile isSeparator).length ≤ cs.length :=
    (List.dropWhile_sublist isSeparator).length_le
  rw [_h] at hle
  exact Nat.lt_of_lt_of_le (Lexeme.length_first_rest_lt c rest) hle

theorem lexemes_of_dropWhile_eq_nil {cs : List Char} (h : cs.dropWhile isSeparator = []) :
    lexemes cs = [] := by
  rw [lexemes]
  split
  · rfl
  · next h' => rw [h] at h'; cases h'

theorem lexemes_of_dropWhile_eq_cons {cs rest : List Char} {c : Char}
    (h : cs.dropWhile isSeparator = c :: rest) :
    lexemes cs = (Lexeme.first c rest).1 :: lexemes (Lexeme.first c rest).2 := by
  rw [lexemes]
  split
  · next h' => rw [h] at h'; cases h'
  · next h' => rw [h] at h'; cases h'; rfl

@[simp] theorem lexemes_nil : lexemes [] = [] := lexemes_of_dropWhile_eq_nil rfl

theorem lexemes_cons {c : Char} (h : isSeparator c = false) (cs : List Char) :
    lexemes (c :: cs) = (Lexeme.first c cs).1 :: lexemes (Lexeme.first c cs).2 :=
  lexemes_of_dropWhile_eq_cons (List.dropWhile_cons_of_neg (by simp [h]))

/-- A separator before the lexemes does not count. -/
theorem lexemes_separator {c : Char} (h : isSeparator c = true) (cs : List Char) :
    lexemes (c :: cs) = lexemes cs := by
  have hdrop : (c :: cs).dropWhile isSeparator = cs.dropWhile isSeparator :=
    List.dropWhile_cons_of_pos h
  cases hcs : cs.dropWhile isSeparator with
  | nil => rw [lexemes_of_dropWhile_eq_nil hcs, lexemes_of_dropWhile_eq_nil (hdrop.trans hcs)]
  | cons d ds =>
    rw [lexemes_of_dropWhile_eq_cons hcs, lexemes_of_dropWhile_eq_cons (hdrop.trans hcs)]

theorem lexemes_spell (cs : List Char) : ∀ l ∈ lexemes cs, l.kind.Spells l.text := by
  fun_induction lexemes cs with
  | case1 => simp
  | case2 cs c rest _ ih =>
    intro l hl
    rcases List.mem_cons.1 hl with rfl | hl
    · exact Lexeme.first_spells c rest
    · exact ih l hl

namespace Scanner

/-- What a step yields and leaves, when there is a character to begin a token with. -/
theorem step_of_dropWhile_eq_cons {s : Scanner} {c : Char} {cs : List Char}
    (h : s.rest.dropWhile isSeparator = c :: cs) :
    s.step.1.content = (Lexeme.first c cs).1.content ∧
      s.step.2.rest = (Lexeme.first c cs).2 ∧ s.step.2.finished = s.finished := by
  unfold step
  simp [h, Token.content, Lexeme.content]

/-- A step yields the end of the input exactly if only separators are left. -/
theorem isFinish_step_iff (s : Scanner) :
    s.step.1.isFinish = true ↔ s.rest.dropWhile isSeparator = [] := by
  constructor
  · intro h
    cases hrest : s.rest.dropWhile isSeparator with
    | nil => rfl
    | cons c cs =>
      have hcontent := (step_of_dropWhile_eq_cons hrest).1
      have hspells := Lexeme.first_spells c cs
      have hkind : (Lexeme.first c cs).1.kind = .finish := by
        have hsame : s.step.1.kind = (Lexeme.first c cs).1.kind := congrArg Prod.fst hcontent
        rw [← hsame]
        simpa [Token.isFinish] using h
      rw [hkind] at hspells
      exact hspells.elim
  · intro h
    unfold step
    simp [h, Token.isFinish, Token.finishAt]

/-- Before its end, the stream yields the lexemes of what is left. -/
theorem map_content_drain (s : Scanner) (hopen : s.finished = false) :
    (s.drain.1.takeWhile (!·.isFinish)).map Token.content =
      (lexemes s.rest).map Lexeme.content := by
  fun_induction drain s with
  | case1 s hfinished =>
    rw [hopen] at hfinished
    cases hfinished
  | case2 s _ hfinish =>
    rw [lexemes_of_dropWhile_eq_nil ((isFinish_step_iff s).1 hfinish)]
    simp [hfinish]
  | case3 s _ hfinish tokens last hdrain ih =>
    have hne : s.rest.dropWhile isSeparator ≠ [] := fun h =>
      hfinish ((isFinish_step_iff s).2 h)
    obtain ⟨c, cs, hrest⟩ := List.exists_cons_of_ne_nil hne
    obtain ⟨hcontent, hleft, hfin⟩ := step_of_dropWhile_eq_cons hrest
    rw [hdrain, hleft] at ih
    have htokens := ih (hfin.trans hopen)
    rw [lexemes_of_dropWhile_eq_cons hrest]
    simp [hfinish, hcontent, htokens]

end Scanner

/-- The tokens of a filter before the end of the input are its lexemes. -/
theorem map_content_tokenize (input : String) :
    ((tokenize input).takeWhile (!·.isFinish)).map Token.content =
      (lexemes input.toList).map Lexeme.content :=
  (Scanner.ofInput input).map_content_drain rfl

/-- The tokens of a filter are spelled as their kinds ask. -/
theorem tokenize_spells (input : String) :
    ∀ t ∈ (tokenize input).takeWhile (!·.isFinish), t.kind.Spells t.lexeme.toList := by
  intro t ht
  have hmem : t.content ∈ (lexemes input.toList).map Lexeme.content := by
    rw [← map_content_tokenize]
    exact List.mem_map_of_mem ht
  obtain ⟨l, hl, hcontent⟩ := List.mem_map.1 hmem
  have hspells := lexemes_spell input.toList l hl
  rw [Lexeme.content, Token.content, Prod.mk.injEq] at hcontent
  rw [← hcontent.1, ← hcontent.2]
  exact hspells

end InventoryFilter
