import InventoryFilter.Proofs.Readers

set_option autoImplicit false

/-!
# Where tokens stand

The tokens of a filter tile it.  Each of them takes some whole characters, one after another and
from left to right, and nothing but separators is left between them.  What a token says is what it
takes, without the quotes of a text and without the slashes and escapes of a pattern.
-/

namespace InventoryFilter

open Text

theorem Text.byteLength_toList (s : String) : byteLength s.toList = s.utf8ByteSize := by
  have hofList : ∀ cs : List Char, byteLength cs = (String.ofList cs).utf8ByteSize := by
    intro cs
    induction cs with
    | nil => rfl
    | cons c cs ih =>
      rw [← List.singleton_append, String.ofList_append, String.utf8ByteSize_append,
        ← String.singleton_eq_ofList, String.utf8ByteSize_singleton, ← ih]
      rfl
  rw [hofList, String.ofList_toList]

/-- A character of two texts together is a character of the first or of the second. -/
theorem exists_of_append_eq {as bs before after : List Char} {c : Char}
    (h : as ++ bs = before ++ c :: after) :
    (∃ tail, as = before ++ c :: tail) ∨
      ∃ front, before = as ++ front ∧ bs = front ++ c :: after := by
  rcases List.append_eq_append_iff.1 h with ⟨front, hbefore, hbs⟩ | ⟨tail, has, htail⟩
  · exact .inr ⟨front, hbefore, hbs⟩
  · cases tail with
    | nil => exact .inr ⟨[], by simpa using has.symm, by simpa using htail.symm⟩
    | cons d tail =>
      obtain ⟨rfl, -⟩ := List.cons.inj htail
      exact .inl ⟨tail, has⟩

/-! ## Tokens and the gaps between them -/

/-- The token that the lexeme is at an offset. -/
def Lexeme.tokenAt (l : Lexeme) (offset : Nat) : Token :=
  ⟨l.kind, ⟨offset, offset + byteLength l.source⟩, .ofList l.text⟩

@[simp] theorem Lexeme.kind_tokenAt (l : Lexeme) (offset : Nat) :
    (l.tokenAt offset).kind = l.kind :=
  rfl

/-- No text begins with the end of the input. -/
theorem Lexeme.kind_ne_finish {c : Char} {cs rest : List Char} {l : Lexeme}
    (h : first c cs = (l, rest)) : l.kind ≠ .finish := by
  intro hkind
  have hspells := first_spells c cs
  rw [h, hkind] at hspells
  exact hspells

/-- `Tiles offset cs ts`: the text `cs`, which begins at the offset, consists of the lexemes of the
tokens `ts` and separators between them, up to the end of the input. -/
inductive Tiles : Nat → List Char → List Token → Prop
  | finish {offset : Nat} {gap : List Char} (hgap : ∀ c ∈ gap, isSeparator c = true) :
      Tiles offset gap [.finishAt (offset + byteLength gap)]
  | token {offset start : Nat} {gap cs rest : List Char} {c : Char} {l : Lexeme}
      {ts : List Token} (hgap : ∀ c ∈ gap, isSeparator c = true)
      (hfirst : Lexeme.first c cs = (l, rest)) (hstart : start = offset + byteLength gap)
      (hrest : Tiles (start + byteLength l.source) rest ts) :
      Tiles offset (gap ++ c :: cs) (l.tokenAt start :: ts)

namespace Scanner

/-- What a step does: it passes separators, and yields either the end of the input behind them or
the lexeme that begins behind them. -/
theorem step_cases (s : Scanner) :
    (∀ c ∈ s.rest, isSeparator c = true) ∧
        s.step = (.finishAt (s.position + byteLength s.rest),
          ⟨s.position + byteLength s.rest, s.position + byteLength s.rest, [], s.finished⟩) ∨
      ∃ gap c cs l rest, s.rest = gap ++ c :: cs ∧ (∀ d ∈ gap, isSeparator d = true) ∧
        Lexeme.first c cs = (l, rest) ∧
        s.step = (l.tokenAt (s.position + byteLength gap),
          ⟨s.position + byteLength gap, s.position + byteLength gap + byteLength l.source, rest,
            s.finished⟩) := by
  have hgap : ∀ c ∈ s.rest.takeWhile isSeparator, isSeparator c = true :=
    List.all_eq_true.1 List.all_takeWhile
  have hsplit : s.rest.takeWhile isSeparator ++ s.rest.dropWhile isSeparator = s.rest :=
    List.takeWhile_append_dropWhile
  cases hdrop : s.rest.dropWhile isSeparator with
  | nil =>
    rw [hdrop, List.append_nil] at hsplit
    rw [hsplit] at hgap
    refine .inl ⟨hgap, ?_⟩
    unfold step
    simp [hdrop, hsplit]
  | cons c cs =>
    rw [hdrop] at hsplit
    refine .inr ⟨_, c, cs, (Lexeme.first c cs).1, (Lexeme.first c cs).2, hsplit.symm, hgap, rfl, ?_⟩
    unfold step
    simp [hdrop, Lexeme.tokenAt]

/-- A scanner that has not finished tiles what is left. -/
theorem tiles_drain (s : Scanner) (hopen : s.finished = false) :
    Tiles s.position s.rest s.drain.1 := by
  fun_induction drain s with
  | case1 s hfinished =>
    rw [hopen] at hfinished
    cases hfinished
  | case2 s _ hfinish =>
    rcases s.step_cases with ⟨hgap, hstep⟩ | ⟨_, c, cs, l, _, _, _, hfirst, hstep⟩
    · rw [hstep]
      exact .finish hgap
    · have hkind : l.kind = .finish := by simpa [hstep, Token.isFinish] using hfinish
      exact absurd hkind (Lexeme.kind_ne_finish hfirst)
  | case3 s _ hfinish tokens last hdrain ih =>
    rcases s.step_cases with ⟨_, hstep⟩ | ⟨gap, c, cs, l, rest, hrest, hgap, hfirst, hstep⟩
    · exact absurd (by rw [hstep]; rfl) hfinish
    · rw [hdrain, hstep] at ih
      rw [hrest, hstep]
      exact .token hgap hfirst rfl (ih hopen)

end Scanner

theorem tiles_tokenize (input : String) : Tiles 0 input.toList (tokenize input) :=
  (Scanner.ofInput input).tiles_drain rfl

namespace Tiles

/-- The last token, and no other, is the end of the input. -/
theorem eq_append_finishAt {offset : Nat} {cs : List Char} {ts : List Token}
    (h : Tiles offset cs ts) :
    ∃ tokens, ts = tokens ++ [.finishAt (offset + byteLength cs)] ∧
      ∀ t ∈ tokens, t.kind ≠ .finish := by
  induction h with
  | finish _ => exact ⟨[], rfl, by simp⟩
  | @token offset start gap cs rest c l ts _ hfirst hstart _ ih =>
    obtain ⟨tokens, rfl, hkinds⟩ := ih
    have hsource := Lexeme.first_source c cs
    rw [hfirst] at hsource
    have hend : start + byteLength l.source + byteLength rest =
        offset + byteLength (gap ++ c :: cs) := by
      rw [hstart, ← hsource]
      simp only [byteLength_append]
      omega
    refine ⟨l.tokenAt start :: tokens, by rw [hend]; rfl, ?_⟩
    intro t ht
    rcases List.mem_cons.1 ht with rfl | ht
    · exact Lexeme.kind_ne_finish hfirst
    · exact hkinds t ht

/-- Every token but the last is the lexeme that begins at its place. -/
theorem exists_first {offset : Nat} {cs : List Char} {ts : List Token} (h : Tiles offset cs ts) :
    ∀ t ∈ ts, t.kind ≠ .finish → ∃ before c after l rest, cs = before ++ c :: after ∧
      Lexeme.first c after = (l, rest) ∧ t = l.tokenAt (offset + byteLength before) := by
  induction h with
  | finish _ =>
    intro t ht hkind
    rw [List.mem_singleton.1 ht] at hkind
    exact absurd rfl hkind
  | @token offset start gap cs rest c l ts _ hfirst hstart _ ih =>
    intro t ht hkind
    rcases List.mem_cons.1 ht with rfl | ht
    · exact ⟨gap, c, cs, l, rest, rfl, hfirst, by rw [hstart]⟩
    · obtain ⟨before, d, after, l', rest', hrest, hfirst', rfl⟩ := ih t ht hkind
      have hsource := Lexeme.first_source c cs
      rw [hfirst, hrest] at hsource
      refine ⟨gap ++ (l.source ++ before), d, after, l', rest', ?_, hfirst', ?_⟩
      · rw [← hsource]
        simp
      · rw [hstart]
        simp only [byteLength_append, Nat.add_assoc]

/-- The tokens stand one after another. -/
theorem pairwise {offset : Nat} {cs : List Char} {ts : List Token} (h : Tiles offset cs ts) :
    (∀ t ∈ ts, offset ≤ t.span.start) ∧ ts.Pairwise fun t u => t.span.stop ≤ u.span.start := by
  induction h with
  | @finish offset gap _ => simp [Token.finishAt, Span.at]
  | @token offset start gap cs rest c l ts _ _ hstart _ ih =>
    obtain ⟨hle, hpairs⟩ := ih
    refine ⟨?_, List.pairwise_cons.2 ⟨hle, hpairs⟩⟩
    intro t ht
    rcases List.mem_cons.1 ht with rfl | ht
    · simp only [Lexeme.tokenAt]
      omega
    · have := hle t ht
      omega

/-- A character with a byte in no token is a separator. -/
theorem isSeparator_of_uncovered {offset : Nat} {cs : List Char} {ts : List Token}
    (h : Tiles offset cs ts) {before after : List Char} {c : Char} {i : Nat}
    (hcs : cs = before ++ c :: after) (hlow : offset + byteLength before ≤ i)
    (hhigh : i < offset + byteLength before + c.utf8Size)
    (hfree : ∀ t ∈ ts, ¬ (t.span.start ≤ i ∧ i < t.span.stop)) : isSeparator c = true := by
  induction h generalizing before with
  | finish hgap => exact hgap c (by simp [hcs])
  | @token offset start gap cs rest d l ts hgap hfirst hstart _ ih =>
    have hsource := Lexeme.first_source d cs
    rw [hfirst] at hsource
    rw [← hsource] at hcs
    -- the character stands in the gap, in the token behind it, or behind that token
    rcases exists_of_append_eq hcs with ⟨tail, rfl⟩ | ⟨front, rfl, hfront⟩
    · exact hgap c (by simp)
    rcases exists_of_append_eq hfront with ⟨tail, htail⟩ | ⟨front, rfl, hrest⟩
    · have hlength : byteLength l.source =
          byteLength front + (c.utf8Size + byteLength tail) := by
        rw [htail, byteLength_append, byteLength_cons]
      rw [byteLength_append] at hlow hhigh
      refine absurd ?_ (hfree (l.tokenAt start) (by simp))
      simp only [Lexeme.tokenAt]
      omega
    · simp only [byteLength_append] at hlow hhigh
      exact ih hrest (by omega) (by omega) fun t ht => hfree t (by simp [ht])

end Tiles

/-! ## What tokens say -/

/-- What a pattern's characters spell when each escaped slash is replaced by a slash.  A backslash
and the character after it are one pair, so the second of two backslashes escapes nothing. -/
def Lexeme.unescapeSlashes : List Char → List Char
  | '\\' :: '/' :: cs => '/' :: unescapeSlashes cs
  | '\\' :: c :: cs => '\\' :: c :: unescapeSlashes cs
  | c :: cs => c :: unescapeSlashes cs
  | [] => []

/-- What a token of the kind says when it takes the characters `source`: a text what stands between
its quotes, a pattern what it spells between its slashes, and any other token what it takes. -/
def TokenKind.Says (kind : TokenKind) (source text : List Char) : Prop :=
  match kind with
  | .string =>
    text ≠ [] ∧ ∃ quote, Lexeme.isQuote quote = true ∧ quote ∉ text ∧
      source = quote :: text ++ [quote]
  | .pattern => ∃ body, source = '/' :: body ++ ['/'] ∧ text = Lexeme.unescapeSlashes body
  | _ => text = source

namespace Lexeme

theorem PatternBody.text_eq {source text : List Char} (h : PatternBody source text) :
    text = unescapeSlashes source := by
  induction h with
  | nil => rfl
  | plain _ hback _ ih => simp [unescapeSlashes, hback, ← ih]
  | slash _ ih => simp [unescapeSlashes, ← ih]
  | escaped _ _ ih => simp [unescapeSlashes, ← ih]

theorem word_says (cs : List Char) :
    (word cs).1.kind.Says (word cs).1.source (word cs).1.text := by
  simp only [word, verbatim]
  rcases TokenKind.ofWord_cases (cs.takeWhile isWordChar) with h | h | h | h <;> rw [h] <;> rfl

theorem symbol?_says {c : Char} {cs : List Char} {r : Lexeme × List Char}
    (h : symbol? c cs = some r) : r.1.kind.Says r.1.source r.1.text := by
  unfold symbol? at h
  split at h <;> cases h <;> rfl

/-- The first lexeme of any text says what its characters do. -/
theorem first_says (c : Char) (cs : List Char) :
    (first c cs).1.kind.Says (first c cs).1.source (first c cs).1.text := by
  rcases first_cases c cs with hsymbol | ⟨hquote, hfirst⟩ | ⟨_, hfirst⟩ | ⟨_, hfirst⟩ |
    ⟨_, hfirst⟩ | ⟨_, hfirst⟩
  · exact symbol?_says hsymbol
  · rcases quoted_cases c cs with ⟨_, hopen⟩ | ⟨_, _, hempty⟩ | ⟨content, _, hne, hnot, _, hclosed⟩
    · rw [hfirst, hopen]
      rfl
    · rw [hfirst, hempty]
      rfl
    · rw [hfirst, hclosed]
      exact ⟨hne, c, hquote, hnot, rfl⟩
  · rcases slashed_cases cs with ⟨_, hopen⟩ | ⟨source, _, _, hbody, _, hclosed⟩
    · rw [hfirst, hopen]
      rfl
    · rw [hfirst, hclosed]
      exact ⟨source, rfl, hbody.text_eq⟩
  · rw [hfirst]
    rfl
  · rw [hfirst]
    exact word_says (c :: cs)
  · rw [hfirst]
    rfl

end Lexeme

/-! ## Tilings -/

/-- The span takes the bytes of the text `source` in the input: it begins behind the characters of
`before` and ends before those of `after`. -/
def Span.Covers (span : Span) (input source : String) : Prop :=
  ∃ before after : String, input = before ++ source ++ after ∧
    span.start = before.utf8ByteSize ∧ span.stop = (before ++ source).utf8ByteSize

/-- The tokens before the end of the input take all of it but separators. -/
structure Tiling (input : String) (tokens : List Token) : Prop where
  /-- no token is the end of the input -/
  unfinished : ∀ t ∈ tokens, t.kind ≠ .finish
  /-- each token takes something -/
  nonempty : ∀ t ∈ tokens, t.span.start < t.span.stop
  /-- each token stands behind those before it -/
  ordered : tokens.Pairwise fun t u => t.span.stop ≤ u.span.start
  /-- each token takes whole characters of the input, and says what they do -/
  faithful : ∀ t ∈ tokens, ∃ source : String, t.span.Covers input source ∧
    t.kind.Says source.toList t.lexeme.toList
  /-- a byte that no token takes belongs to a separator -/
  lossless : ∀ (before after : String) (c : Char) (i : Nat),
    input = before ++ String.singleton c ++ after →
    before.utf8ByteSize ≤ i → i < (before ++ String.singleton c).utf8ByteSize →
    (∀ t ∈ tokens, ¬ (t.span.start ≤ i ∧ i < t.span.stop)) →
    c = ' ' ∨ c = '\t' ∨ c = '\r' ∨ c = '\n'

/-- A lexeme in a text, and its token behind what stands before it. -/
theorem Lexeme.tokenAt_split {input : String} {before rest : List Char} {l : Lexeme}
    (h : input.toList = before ++ (l.source ++ rest)) :
    input = .ofList before ++ .ofList l.source ++ .ofList rest ∧
      (l.tokenAt (byteLength before)).span.start = (String.ofList before).utf8ByteSize ∧
      (l.tokenAt (byteLength before)).span.stop =
        (String.ofList before ++ String.ofList l.source).utf8ByteSize := by
  refine ⟨?_, ?_, ?_⟩
  · rw [← String.ofList_append, ← String.ofList_append, List.append_assoc, ← h,
      String.ofList_toList]
  · rw [← byteLength_toList, String.toList_ofList]
    rfl
  · rw [← byteLength_toList, String.toList_append, String.toList_ofList, String.toList_ofList,
      byteLength_append]
    rfl

theorem Tiles.tiling {input : String} {tokens : List Token} {finish : Token}
    (h : Tiles 0 input.toList (tokens ++ [finish])) (hopen : ∀ t ∈ tokens, t.kind ≠ .finish)
    (hfinish : finish.span.stop ≤ finish.span.start) : Tiling input tokens where
  unfinished := hopen
  nonempty := by
    intro t ht
    obtain ⟨_, c, after, l, _, _, hfirst, rfl⟩ := h.exists_first t (by simp [ht]) (hopen t ht)
    have hne : l.source ≠ [] := by
      have hne' := Lexeme.first_source_ne_nil c after
      rwa [hfirst] at hne'
    have hlength := List.length_pos_iff.2 hne
    have hbytes := length_le_byteLength l.source
    simp only [Lexeme.tokenAt]
    omega
  ordered := (List.pairwise_append.1 h.pairwise.2).1
  faithful := by
    intro t ht
    obtain ⟨before, c, after, l, rest, hinput, hfirst, rfl⟩ :=
      h.exists_first t (by simp [ht]) (hopen t ht)
    have hsource := Lexeme.first_source c after
    have hsays := Lexeme.first_says c after
    rw [hfirst] at hsource hsays
    rw [← hsource] at hinput
    rw [Nat.zero_add]
    exact ⟨.ofList l.source, ⟨_, _, Lexeme.tokenAt_split hinput⟩,
      by simpa [Lexeme.tokenAt] using hsays⟩
  lossless := by
    intro before after c i hinput hlow hhigh hfree
    have hcs : input.toList = before.toList ++ c :: after.toList := by simp [hinput]
    rw [String.utf8ByteSize_append, String.utf8ByteSize_singleton] at hhigh
    rw [← byteLength_toList] at hlow hhigh
    have hsep : isSeparator c = true := by
      refine h.isSeparator_of_uncovered (i := i) hcs (by omega) (by omega) ?_
      intro t ht
      rcases List.mem_append.1 ht with ht | ht
      · exact hfree t ht
      · rw [List.mem_singleton.1 ht]
        omega
    simpa [isSeparator, or_assoc] using hsep

/-- The tokens of a filter are a tiling of it, and then the end of the input behind its last
byte. -/
theorem tokenize_eq_tiling (input : String) :
    ∃ tokens, tokenize input =
        tokens ++ [⟨.finish, ⟨input.utf8ByteSize, input.utf8ByteSize⟩, ""⟩] ∧
      Tiling input tokens := by
  have htiles := tiles_tokenize input
  obtain ⟨tokens, htokens, hopen⟩ := htiles.eq_append_finishAt
  rw [htokens] at htiles
  rw [Nat.zero_add, byteLength_toList] at htokens htiles
  exact ⟨tokens, htokens, htiles.tiling hopen (Nat.le_refl _)⟩

theorem tokenize_eq_tiling_escapes :
    ∃ tokens, tokenize " é!~/\\\\\\//\n'\"" =
        tokens ++ [⟨.finish, ⟨14, 14⟩, ""⟩] ∧
      tokens.map (fun t => (t.kind, t.span.start, t.span.stop, t.lexeme)) =
        [(.identifier, 1, 3, "é"), (.notLike, 3, 5, "!~"), (.pattern, 5, 11, "\\\\/"),
          (.illegal, 12, 14, "'\"")] ∧
      Tiling " é!~/\\\\\\//\n'\"" tokens := by
  obtain ⟨tokens, htokens, htiling⟩ := tokenize_eq_tiling " é!~/\\\\\\//\n'\""
  refine ⟨tokens, htokens, ?_, htiling⟩
  have hlast : tokens = (tokenize " é!~/\\\\\\//\n'\"").dropLast := by simp [htokens]
  rw [hlast]
  decide +kernel

end InventoryFilter
