import InventoryFilter.Proofs.Scanning

set_option autoImplicit false

/-!
# What each reader takes

The first character of a text decides which reader takes its first lexeme.  Each reader either
takes a token of its kind, or finds that the token is not closed and takes an illegal piece.
-/

namespace InventoryFilter.Lexeme

/-! ## Which reader a character calls -/

/-- Operators and brackets begin with one of seven characters. -/
theorem mem_of_symbol?_eq_some {c : Char} {cs : List Char} {r : Lexeme × List Char}
    (h : symbol? c cs = some r) : c ∈ ['(', ')', '=', '~', '<', '>', '!'] := by
  unfold symbol? at h
  split at h <;> cases h <;> simp

theorem symbol?_eq_none {c : Char} (h : c ∉ ['(', ')', '=', '~', '<', '>', '!'])
    (cs : List Char) : symbol? c cs = none := by
  cases hsym : symbol? c cs with
  | none => rfl
  | some r => exact absurd (mem_of_symbol?_eq_some hsym) h

/-- A character below the first letter begins no word, unless it is an underscore. -/
theorem not_isWordStart {c : Char} (hlow : c.toNat < 0x41) : isWordStart c = false := by
  have halpha : Text.isAlphabetic c = false := by
    unfold Text.isAlphabetic Text.alphabeticRanges
    rw [Text.inRanges_cons, if_pos hlow]
  have hunder : (c == '_') = false := by
    rw [beq_eq_false_iff_ne]
    rintro rfl
    exact absurd hlow (by decide)
  rw [isWordStart, halpha, hunder]
  rfl

theorem isQuote_iff {c : Char} : isQuote c = true ↔ c = '\'' ∨ c = '"' := by
  simp [isQuote]

theorem first_of_isQuote {c : Char} (h : isQuote c = true) (cs : List Char) :
    first c cs = quoted c cs := by
  have hsym : symbol? c cs = none :=
    symbol?_eq_none (by rcases isQuote_iff.1 h with rfl | rfl <;> decide) cs
  rw [first, hsym]
  simp only [h, if_true]

theorem first_slash (cs : List Char) : first '/' cs = slashed cs := by
  rw [first, symbol?_eq_none (by decide) cs]
  rfl

theorem first_of_isDigit {c : Char} (h : c.isDigit = true) (cs : List Char) :
    first c cs = number (c :: cs) := by
  have hsym : symbol? c cs = none := by
    refine symbol?_eq_none ?_ cs
    intro hmem
    simp only [List.mem_cons, List.not_mem_nil, or_false] at hmem
    rcases hmem with rfl | rfl | rfl | rfl | rfl | rfl | rfl <;> exact absurd h (by decide)
  have hquote : isQuote c = false := by
    rw [Bool.eq_false_iff]
    intro hquote
    rcases isQuote_iff.1 hquote with rfl | rfl <;> exact absurd h (by decide)
  have hslash : c ≠ '/' := by
    rintro rfl
    exact absurd h (by decide)
  rw [first, hsym]
  simp [hquote, hslash, h]

theorem first_of_isWordStart {c : Char} (h : isWordStart c = true) (cs : List Char) :
    first c cs = word (c :: cs) := by
  -- every character that calls another reader lies below the letters, the tilde apart
  have hhigh : ¬ c.toNat < 0x41 := fun hlow => by
    rw [not_isWordStart hlow] at h
    cases h
  have hne : ∀ d : Char, d.toNat < 0x41 → c ≠ d := by
    rintro d hd rfl
    exact hhigh hd
  have htilde : c ≠ '~' := by
    rintro rfl
    exact absurd h (by decide)
  have hsym : symbol? c cs = none := by
    refine symbol?_eq_none ?_ cs
    simp [hne, htilde]
  have hquote : isQuote c = false := by simp [isQuote, hne]
  have hdigit : c.isDigit = false := by
    rw [Bool.eq_false_iff]
    intro hdigit
    have hle : c.toNat ≤ 57 := (Char.isDigit_iff_toNat.1 hdigit).2
    omega
  rw [first, hsym]
  simp [hquote, hne, hdigit, h]

/-- The readers, one after another, and which characters call them. -/
theorem first_cases (c : Char) (cs : List Char) :
    symbol? c cs = some (first c cs) ∨
      isQuote c = true ∧ first c cs = quoted c cs ∨
      c = '/' ∧ first c cs = slashed cs ∨
      c.isDigit = true ∧ first c cs = number (c :: cs) ∨
      isWordStart c = true ∧ first c cs = word (c :: cs) ∨
      (symbol? c cs = none ∧ isQuote c = false ∧ c ≠ '/' ∧ c.isDigit = false ∧
        isWordStart c = false) ∧ first c cs = (verbatim .illegal [c], cs) := by
  cases hsymbol : symbol? c cs with
  | some r => exact .inl (by rw [first, hsymbol])
  | none =>
    refine .inr ?_
    by_cases hquote : isQuote c = true
    · exact .inl ⟨hquote, first_of_isQuote hquote cs⟩
    refine .inr ?_
    by_cases hslash : c = '/'
    · exact .inl ⟨hslash, hslash ▸ first_slash cs⟩
    refine .inr ?_
    by_cases hdigit : c.isDigit = true
    · exact .inl ⟨hdigit, first_of_isDigit hdigit cs⟩
    refine .inr ?_
    by_cases hstart : isWordStart c = true
    · exact .inl ⟨hstart, first_of_isWordStart hstart cs⟩
    refine .inr ⟨⟨rfl, by simpa using hquote, hslash, by simpa using hdigit,
      by simpa using hstart⟩, ?_⟩
    rw [first, hsymbol]
    simp [hquote, hslash, hdigit, hstart]

/-! ## Closed and open literals -/

/-- A quoted text is not closed, or empty, or ends at the first quote of its kind. -/
theorem quoted_cases (quote : Char) (cs : List Char) :
    quote ∉ cs ∧ quoted quote cs = (verbatim .illegal (quote :: cs), []) ∨
      (∃ rest, cs = quote :: rest ∧
        quoted quote cs = (verbatim .illegal [quote, quote], rest)) ∨
      ∃ content rest, content ≠ [] ∧ quote ∉ content ∧ cs = content ++ quote :: rest ∧
        quoted quote cs = (⟨.string, quote :: content ++ [quote], content⟩, rest) := by
  have hsplit := List.takeWhile_append_dropWhile (p := (· != quote)) (l := cs)
  have hnot : quote ∉ cs.takeWhile (· != quote) := by
    intro hmem
    simpa using List.all_eq_true.1 List.all_takeWhile quote hmem
  unfold quoted
  cases hdrop : cs.dropWhile (· != quote) with
  | nil =>
    rw [hdrop, List.append_nil] at hsplit
    rw [hsplit] at hnot ⊢
    exact .inl ⟨hnot, rfl⟩
  | cons close rest =>
    have hclose : close = quote := by
      have hhead := List.head?_dropWhile_not (fun c => c != quote) cs
      rw [hdrop] at hhead
      simpa using hhead
    subst hclose
    rw [hdrop] at hsplit
    cases hcontent : cs.takeWhile (· != close) with
    | nil =>
      rw [hcontent] at hsplit
      exact .inr (.inl ⟨rest, hsplit.symm, rfl⟩)
    | cons d content =>
      rw [hcontent] at hsplit hnot
      exact .inr (.inr ⟨d :: content, rest, by simp, hnot, hsplit.symm, rfl⟩)

/-- A pattern is not closed, or ends at the first slash that is not escaped. -/
theorem slashed_cases (cs : List Char) :
    patternBody? cs = none ∧ slashed cs = (verbatim .illegal ('/' :: cs), []) ∨
      ∃ source text rest, PatternBody source text ∧ cs = source ++ '/' :: rest ∧
        slashed cs = (⟨.pattern, '/' :: source ++ ['/'], text⟩, rest) := by
  unfold slashed
  cases hbody : patternBody? cs with
  | none => exact .inl ⟨rfl, rfl⟩
  | some r =>
    obtain ⟨source, text, rest⟩ := r
    exact .inr ⟨source, text, rest, patternBody_of_eq_some hbody,
      (patternBody?_source hbody).symm, rfl⟩

theorem first_quoted {quote : Char} {content : List Char} (hquote : isQuote quote = true)
    (hne : content ≠ []) (hnot : quote ∉ content) (rest : List Char) :
    first quote (content ++ quote :: rest) =
      (⟨.string, quote :: content ++ [quote], content⟩, rest) := by
  have hrun : ∀ c ∈ content, (c != quote) = true := by
    intro c hc
    rw [bne_iff_ne]
    rintro rfl
    exact hnot hc
  have hstop : ∀ c ∈ (quote :: rest).head?, (c != quote) = false := by simp
  obtain ⟨htake, hdrop⟩ := span_run hrun hstop
  rw [first_of_isQuote hquote, quoted]
  simp [htake, hdrop, hne]

theorem first_slashed {source text : List Char} (h : PatternBody source text)
    (rest : List Char) :
    first '/' (source ++ '/' :: rest) = (⟨.pattern, '/' :: source ++ ['/'], text⟩, rest) := by
  rw [first_slash, slashed, h.patternBody?_eq]

end InventoryFilter.Lexeme
