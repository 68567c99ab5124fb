import InventoryFilter.Pattern.Standard
import InventoryFilter.Proofs.Cursor
import InventoryFilter.Proofs.TokenGrammar
import Mathlib.Data.List.Nodup

set_option autoImplicit false

/-!
# What is said about illegal pieces

A rejection is at a token of the filter, however deep in its recursion the parser meets it, and a
rejection at an illegal token holds what that token takes.  From this text alone the message is
made.  The reason why the scanner gave up is not kept, but it can be told from the text: a quoted
text is empty or open, a pattern is open, an exclamation mark begins no operator, and anything else
is one character that may not stand there.

Main statement: the message about an illegal token names the flaw that the filter has at its place.
-/

namespace InventoryFilter

/-! ## Which token is to blame -/

/-- The rejection is at the token, and holds what the token takes if that is illegal. -/
structure Token.Blamed (t : Token) (r : Rejection) : Prop where
  position_eq : r.position = t.position
  cause_eq : t.kind = .illegal → r.cause = .illegal t.lexeme

namespace Token

theorem Blamed.of_kind_ne {t : Token} (h : t.kind ≠ .illegal) (cause : Cause) :
    t.Blamed ⟨t.position, cause⟩ :=
  ⟨rfl, fun hillegal => absurd hillegal h⟩

theorem blamed_refuse (t : Token) (expected : String) : t.Blamed (t.refuse expected) := by
  unfold refuse
  split
  · exact ⟨rfl, fun _ => rfl⟩
  · next hlegal => exact .of_kind_ne hlegal _

end Token

namespace Parser

theorem blamed_refuseAfter (t : Token) : t.Blamed (refuseAfter t) := by
  unfold refuseAfter
  split
  · next hclose => exact .of_kind_ne (by rw [hclose]; decide) _
  · split <;> exact t.blamed_refuse _

variable [Pattern.Validator]

/-- What is left is an end of the tokens, and a rejection blames one of them or the one that ends
them. -/
def Blames (finish : Token) (ts : List Token) : Except Halt (Expr × List Token) → Prop
  | .ok (_, rest) => rest <:+ ts
  | .error halt => ∃ t ∈ finish :: ts, t.Blamed halt.rejection

theorem Blames.of_suffix {finish : Token} {ts us : List Token}
    {result : Except Halt (Expr × List Token)} (h : us <:+ ts) (hblames : Blames finish us result) :
    Blames finish ts result := by
  cases result with
  | ok r => exact List.IsSuffix.trans hblames h
  | error halt =>
    obtain ⟨t, ht, hblamed⟩ := hblames
    refine ⟨t, ?_, hblamed⟩
    rcases List.mem_cons.1 ht with rfl | ht
    · exact List.mem_cons_self
    · exact List.mem_cons_of_mem _ (h.subset ht)

section Recursion

variable {finish : Token} {fuel : Nat}

theorem blames_missing (hfinish : finish.kind ≠ .illegal) (ts rest : List Token) :
    Blames finish ts (.error ⟨⟨finish.position, .unexpectedFinish "expression"⟩, rest⟩) :=
  ⟨finish, List.mem_cons_self, .of_kind_ne hfinish _⟩

theorem operand_blames (hfinish : finish.kind ≠ .illegal)
    (hclimb : ∀ least ts, Blames finish ts (climb finish fuel least ts)) (ts : List Token) :
    Blames finish ts (operand finish (fuel + 1) ts) := by
  cases ts with
  | nil => exact blames_missing hfinish [] []
  | cons t ts =>
    have hfirst : t ∈ finish :: t :: ts := by simp
    have htail : ts <:+ t :: ts := List.suffix_cons t ts
    rw [operand]
    split
    · next hopen =>
      have hinner := (hclimb 0 ts).of_suffix htail
      split
      · next halt hread => rwa [hread] at hinner
      · exact ⟨t, hfirst, .of_kind_ne (by rw [hopen]; decide) _⟩
      · next inner u rest hread =>
        rw [hread] at hinner
        split
        · exact (List.suffix_cons u rest).trans hinner
        · exact ⟨u, List.mem_cons_of_mem _ (hinner.subset List.mem_cons_self), u.blamed_refuse _⟩
    · split
      · exact htail
      · next cause hleaf =>
        exact ⟨t, hfirst, .of_kind_ne (Cursor.kind_ne_illegal_of_leaf? hleaf) _⟩
      · exact ⟨t, hfirst, t.blamed_refuse _⟩

theorem climb_blames (hoperand : ∀ ts, Blames finish ts (operand finish fuel ts))
    (hoperators : ∀ least left ts, Blames finish ts (operators finish fuel least left ts))
    (least : Nat) (ts : List Token) : Blames finish ts (climb finish (fuel + 1) least ts) := by
  have hfirst := hoperand ts
  rw [climb]
  split
  · next halt hread => rwa [hread] at hfirst
  · next left rest hread =>
    rw [hread] at hfirst
    exact (hoperators least left rest).of_suffix hfirst

theorem operators_blame (hclimb : ∀ least ts, Blames finish ts (climb finish fuel least ts))
    (hoperators : ∀ least left ts, Blames finish ts (operators finish fuel least left ts))
    (least : Nat) (left : Expr) (ts : List Token) :
    Blames finish ts (operators finish (fuel + 1) least left ts) := by
  cases ts with
  | nil => exact List.suffix_rfl
  | cons t ts =>
    rw [operators]
    split
    · exact List.suffix_rfl
    · next op hop =>
      split
      · exact List.suffix_rfl
      · have hright := (hclimb op.rightPower ts).of_suffix (List.suffix_cons t ts)
        split
        · next halt hread => rwa [hread] at hright
        · next right rest hread =>
          rw [hread] at hright
          exact (hoperators least (.binary left op right) rest).of_suffix hright

theorem reads_blame (hfinish : finish.kind ≠ .illegal) (fuel : Nat) :
    (∀ ts, Blames finish ts (operand finish fuel ts)) ∧
      (∀ least ts, Blames finish ts (climb finish fuel least ts)) ∧
      ∀ least left ts, Blames finish ts (operators finish fuel least left ts) := by
  induction fuel with
  | zero =>
    refine ⟨?_, ?_, ?_⟩
    · intro ts
      rw [operand]
      exact blames_missing hfinish ts ts
    · intro least ts
      exact blames_missing hfinish ts ts
    · intro least left ts
      rw [operators]
      exact blames_missing hfinish ts ts
  | succ fuel ih =>
    obtain ⟨hoperand, hclimb, hoperators⟩ := ih
    exact ⟨operand_blames hfinish hclimb, climb_blames hoperand hoperators,
      operators_blame hclimb hoperators⟩

end Recursion

theorem exists_blamed {p : Parser} {r : Rejection} (hfinish : p.finish.kind ≠ .illegal)
    (h : p.expression.1 = .error r) : ∃ t ∈ p.finish :: p.pending, t.Blamed r := by
  have hblames := (reads_blame hfinish (fuelFor p.pending)).2.1 0 p.pending
  unfold expression binary at h
  split at h
  · next halt hread =>
    cases h
    rwa [hread] at hblames
  · cases h
  · next e t rest hread =>
    cases h
    rw [hread] at hblames
    exact ⟨t, List.mem_cons_of_mem _ (hblames.subset List.mem_cons_self), blamed_refuseAfter t⟩

end Parser

theorem Parser.ofTokens_append {tokens : List Token} (hopen : ∀ t ∈ tokens, t.kind ≠ .finish)
    {finish : Token} (hfinish : finish.kind = .finish) :
    ofTokens (tokens ++ [finish]) = ⟨tokens, finish⟩ := by
  have hpending : ∀ t ∈ tokens, (!t.isFinish) = true := by
    intro t ht
    simp [Token.isFinish, hopen t ht]
  unfold ofTokens
  rw [List.dropWhile_append_of_pos hpending, List.takeWhile_append_of_pos hpending]
  simp [Token.isFinish, hfinish]

/-- A rejected filter is rejected at one of its tokens. -/
theorem exists_blamed_of_parse [Pattern.Validator] {input : String} {r : Rejection}
    (h : parse input = .error r) : ∃ t ∈ tokenize input, t.Blamed r := by
  obtain ⟨tokens, htokens, hopen⟩ := (tiles_tokenize input).eq_append_finishAt
  rw [parse, htokens, Parser.ofTokens_append hopen rfl] at h
  obtain ⟨t, ht, hblamed⟩ := Parser.exists_blamed (by intro hkind; cases hkind) h
  refine ⟨t, ?_, hblamed⟩
  rw [htokens]
  exact List.mem_append.2 ((List.mem_cons.1 ht).symm.imp_right List.mem_singleton.2)

/-! ## Places of tokens -/

theorem Tiles.pairwise_position {offset : Nat} {cs : List Char} {ts : List Token}
    (h : Tiles offset cs ts) : ts.Pairwise fun t u => t.position < u.position := by
  induction h with
  | finish _ => exact List.pairwise_singleton _ _
  | @token offset start gap cs rest c l ts _ hfirst _ hrest ih =>
    refine List.pairwise_cons.2 ⟨fun u hu => ?_, ih⟩
    have hbehind : start + Text.byteLength l.source ≤ u.position := hrest.pairwise.1 u hu
    have hne : l.source ≠ [] := by
      have hsource := Lexeme.first_source_ne_nil c cs
      rwa [hfirst] at hsource
    have hlength := List.length_pos_iff.2 hne
    have hbytes := Text.length_le_byteLength l.source
    show start < u.position
    omega

/-- No two tokens of a filter begin at the same place. -/
theorem eq_of_position_eq {input : String} {t u : Token} (ht : t ∈ tokenize input)
    (hu : u ∈ tokenize input) (h : t.position = u.position) : t = u := by
  have hnodup : ((tokenize input).map Token.position).Nodup :=
    List.pairwise_map.2 ((tiles_tokenize input).pairwise_position.imp Nat.ne_of_lt)
  exact List.inj_on_of_nodup_map hnodup ht hu h

/-! ## Flaws -/

namespace Lexical

/-- Two equal quotes stand in front. -/
def EmptyText (text : List Char) : Prop :=
  ∃ quote rest, (quote = '\'' ∨ quote = '"') ∧ text = quote :: quote :: rest

/-- A quote stands in front, and no other of its kind follows. -/
def OpenText (text : List Char) : Prop :=
  ∃ quote rest, (quote = '\'' ∨ quote = '"') ∧ text = quote :: rest ∧ quote ∉ rest

/-- A slash stands in front, and every other that follows belongs to a pair that a backslash
begins. -/
def OpenPattern (text : List Char) : Prop :=
  ∃ rest, text = '/' :: rest ∧
    ¬ ∃ body spelled after, Lexeme.PatternBody body spelled ∧ rest = body ++ '/' :: after

/-- An exclamation mark stands in front that begins no operator. -/
def LoneExclamation (text : List Char) : Prop :=
  ∃ rest, text = '!' :: rest ∧ '=' ∉ rest.head? ∧ '~' ∉ rest.head?

end Lexical

open Lexical

/-- What can be wrong where a filter has an illegal piece. -/
inductive Flaw
  | emptyText
  | openText
  | openPattern
  | loneExclamation
  | unsupported (c : Char)
  deriving DecidableEq, Repr

namespace Flaw

/-- What is to be said about the flaw. -/
def message : Flaw → String
  | emptyText => "empty string literal"
  | openText => "unterminated string literal"
  | openPattern => "unterminated regex literal"
  | loneExclamation => "unexpected '!': expected '!=' or '!~'"
  | unsupported c => "unsupported character '" ++ String.singleton c ++ "'"

/-- Whether the text has the flaw in front.  A character is unsupported in every case that the
other flaws leave. -/
def At : Flaw → List Char → Prop
  | emptyText, text => EmptyText text
  | openText, text => OpenText text
  | openPattern, text => OpenPattern text
  | loneExclamation, text => LoneExclamation text
  | unsupported c, text => (∃ rest, text = c :: rest) ∧
    ¬ (EmptyText text ∨ OpenText text ∨ OpenPattern text ∨ LoneExclamation text)

theorem At.unique {flaw other : Flaw} {text : List Char} (h : flaw.At text) (h' : other.At text) :
    flaw = other := by
  cases flaw <;> cases other <;> grind [At, EmptyText, OpenText, OpenPattern, LoneExclamation]

theorem toList_message_unsupported (c : Char) :
    (unsupported c).message.toList = "unsupported character '".toList ++ [c, '\''] := by
  have hquoted : ∀ front : String,
      (front ++ String.singleton c ++ "'").toList = front.toList ++ [c, '\''] := by
    intro front
    rw [String.toList_append, String.toList_append, String.toList_singleton, List.append_assoc]
    rfl
  exact hquoted "unsupported character '"

/-- Flaws can be told apart by what is said about them. -/
theorem message_injective {flaw other : Flaw} (h : flaw.message = other.message) :
    flaw = other := by
  let named := [emptyText, openText, openPattern, loneExclamation]
  have hcases : ∀ flaw : Flaw, flaw ∈ named ∨ ∃ c, flaw = unsupported c := by
    intro flaw
    cases flaw <;> simp [named]
  have hnamed : ∀ flaw ∈ named, ∀ other ∈ named, flaw.message = other.message → flaw = other := by
    decide
  -- the fourth letter tells an unsupported character from every other flaw
  have hfourth : ∀ flaw ∈ named, flaw.message.toList.take 4 ≠ "unsu".toList := by decide
  have hunsupported : ∀ c, (unsupported c).message.toList.take 4 = "unsu".toList := by
    intro c
    rw [toList_message_unsupported, List.take_append_of_le_length (by decide)]
    decide
  rcases hcases flaw with hflaw | ⟨c, rfl⟩
  · rcases hcases other with hother | ⟨d, rfl⟩
    · exact hnamed flaw hflaw other hother h
    · exact absurd (h ▸ hunsupported d) (hfourth flaw hflaw)
  · rcases hcases other with hother | ⟨d, rfl⟩
    · exact absurd (h ▸ hunsupported c) (hfourth other hother)
    · have hletters := congrArg String.toList h
      rw [toList_message_unsupported, toList_message_unsupported] at hletters
      rw [(List.cons.inj (List.append_cancel_left hletters)).1]

end Flaw

theorem illegalMessage_ofList (c : Char) (rest : List Char) :
    Cause.illegalMessage (.ofList (c :: rest)) =
      if Lexeme.isQuote c then
        if rest = [c] then Flaw.emptyText.message else Flaw.openText.message
      else if c = '/' then Flaw.openPattern.message
      else if c = '!' then Flaw.loneExclamation.message
      else "unsupported character '" ++ String.ofList (c :: rest) ++ "'" := by
  unfold Cause.illegalMessage
  rw [String.toList_ofList]
  rfl

/-- A text that begins with no token has a flaw in front, and the message about the piece that is
taken from it names this flaw. -/
theorem exists_flaw {text source : List Char} (hpiece : IllegalPiece text source)
    (hnone : ∀ k : TokenClass, ¬ k.Opens text) :
    ∃ flaw : Flaw, flaw.At text ∧ Cause.illegalMessage (.ofList source) = flaw.message := by
  cases hpiece with
  | @emptyText quote rest hquote =>
    refine ⟨.emptyText, ⟨quote, rest, hquote, rfl⟩, ?_⟩
    rw [illegalMessage_ofList, if_pos (Lexeme.isQuote_iff.2 hquote), if_pos rfl]
  | @openText quote rest hquote hopen =>
    refine ⟨.openText, ⟨quote, rest, hquote, rfl, hopen⟩, ?_⟩
    have hne : rest ≠ [quote] := by
      rintro rfl
      exact hopen List.mem_cons_self
    rw [illegalMessage_ofList, if_pos (Lexeme.isQuote_iff.2 hquote), if_neg hne]
  | @openPattern rest =>
    refine ⟨.openPattern, ⟨rest, rfl, ?_⟩, ?_⟩
    · rintro ⟨body, spelled, after, hbody, rfl⟩
      exact hnone .pattern ⟨_, ⟨body, spelled, hbody, rfl⟩, after, by simp⟩
    · rw [illegalMessage_ofList, if_neg (by decide), if_pos rfl]
  | @character c rest hquote hslash =>
    have hnot : ¬ Lexeme.isQuote c = true := mt Lexeme.isQuote_iff.1 hquote
    by_cases hbang : c = '!'
    · subst hbang
      refine ⟨.loneExclamation, ⟨rest, rfl, ?_, ?_⟩, ?_⟩
      · intro hhead
        obtain ⟨after, rfl⟩ := List.head?_eq_some_iff.1 hhead
        exact hnone .symbol ⟨['!', '='], ⟨.notEqual, by decide⟩, after, rfl⟩
      · intro hhead
        obtain ⟨after, rfl⟩ := List.head?_eq_some_iff.1 hhead
        exact hnone .symbol ⟨['!', '~'], ⟨.notLike, by decide⟩, after, rfl⟩
      · rw [illegalMessage_ofList, if_neg hnot, if_neg hslash, if_pos rfl]
    · refine ⟨.unsupported c, ⟨⟨rest, rfl⟩, ?_⟩, ?_⟩
      · grind [EmptyText, OpenText, OpenPattern, LoneExclamation]
      · rw [illegalMessage_ofList, if_neg hnot, if_neg hslash, if_neg hbang]
        rfl

/-- The message about a rejection at an illegal token names the flaw that the filter has at the
place of the token, and no other. -/
theorem message_eq_iff_flaw [Pattern.Validator] {input : String} {r : Rejection} {t : Token}
    (h : parse input = .error r) (ht : t ∈ tokenize input) (hkind : t.kind = .illegal)
    (hposition : r.position = t.position) :
    ∃ before text : String, input = before ++ text ∧ before.utf8ByteSize = r.position ∧
      ∀ flaw : Flaw, r.message = flaw.message ↔ flaw.At text.toList := by
  obtain ⟨u, hu, hblamed⟩ := exists_blamed_of_parse h
  obtain rfl := eq_of_position_eq ht hu (hposition.symm.trans hblamed.position_eq)
  obtain ⟨before, c, after, l, rest, hinput, hfirst, rfl⟩ :=
    (tiles_tokenize input).exists_first t ht (by rw [hkind]; decide)
  have hgrammar := isFirst_first c after
  have hsays := Lexeme.first_says c after
  rw [hfirst] at hgrammar hsays
  rw [Lexeme.kind_tokenAt] at hkind
  simp only [hkind] at hgrammar hsays
  have htext : l.text = l.source := hsays
  obtain ⟨flaw, hflaw, hmessage⟩ :=
    exists_flaw (hgrammar.illegalPiece rfl) (hgrammar.illegal.1 rfl)
  have hcause : r.message = flaw.message := by
    rw [Rejection.message, hblamed.cause_eq hkind, ← hmessage, ← htext]
    rfl
  refine ⟨.ofList before, .ofList (c :: after), ?_, ?_, fun other => ?_⟩
  · rw [← String.ofList_append, ← hinput, String.ofList_toList]
  · rw [hposition, ← Text.byteLength_toList, String.toList_ofList]
    exact (Nat.zero_add _).symm
  · rw [hcause, String.toList_ofList]
    constructor
    · intro heq
      rwa [← Flaw.message_injective heq]
    · intro hother
      rw [hflaw.unique hother]

open scoped Pattern.Standard in
/-- What an open quote takes may be short and yet take many bytes. -/
theorem message_eq_iff_flaw_open :
    ∃ r, parse "é<'€" = .error r ∧ r.position = 3 ∧ r.message = "unterminated string literal" ∧
      ∃ before text : String, "é<'€" = before ++ text ∧ before.utf8ByteSize = r.position ∧
        ∀ flaw : Flaw, r.message = flaw.message ↔ flaw.At text.toList := by
  have htoken : (⟨.illegal, ⟨3, 7⟩, "'€"⟩ : Token) ∈ tokenize "é<'€" := by decide +kernel
  have hmessage : (Rejection.mk 3 (.illegal "'€")).message = "unterminated string literal" := by
    decide
  have hrejected : (parse "é<'€").map (fun _ => true) = .error ⟨3, .illegal "'€"⟩ := by
    decide +kernel
  cases hresult : parse "é<'€" with
  | ok e =>
    rw [hresult] at hrejected
    cases hrejected
  | error r =>
    rw [hresult] at hrejected
    cases hrejected
    exact ⟨_, rfl, rfl, hmessage, message_eq_iff_flaw hresult htoken rfl rfl⟩

end InventoryFilter
