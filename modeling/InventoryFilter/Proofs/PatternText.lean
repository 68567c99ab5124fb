import InventoryFilter.Pattern.Standard
import InventoryFilter.Proofs.Placement
import InventoryFilter.Proofs.RoundTrip

set_option autoImplicit false

/-!
# Patterns between slashes

A pattern is shown with a backslash before each of its slashes, and scanned in pairs of a backslash
and the character behind it.  The two agree as long as no slash stands behind a backslash that is
not itself the second of a pair: the backslash that is put before such a slash becomes part of the
pair, and the slash closes the pattern.  The closing slash is like any other in this.
-/

namespace InventoryFilter

open Text

/-- The number of backslashes that the text ends with. -/
def Text.endBackslashes (cs : List Char) : Nat := (cs.reverse.takeWhile (· == '\\')).length

theorem Text.endBackslashes_concat (cs : List Char) (c : Char) :
    endBackslashes (cs ++ [c]) = if c = '\\' then endBackslashes cs + 1 else 0 := by
  unfold endBackslashes
  rw [List.reverse_append, List.reverse_singleton, List.singleton_append, List.takeWhile_cons]
  by_cases h : c = '\\'
  · simp [h]
  · simp [h]

/-- Whether every slash in the text stands behind an even number of backslashes, or none. -/
def Text.SlashesBare (cs : List Char) : Prop :=
  ∀ before after, cs = before ++ '/' :: after → endBackslashes before % 2 = 0

theorem Text.slashesBare_concat {cs : List Char} :
    SlashesBare (cs ++ ['/']) ↔ SlashesBare cs ∧ endBackslashes cs % 2 = 0 := by
  constructor
  · intro h
    refine ⟨fun before after hcs => ?_, h cs [] rfl⟩
    exact h before (after ++ ['/']) (by rw [hcs, List.append_assoc, List.cons_append])
  · rintro ⟨hinner, hend⟩ before after hcs
    rcases exists_of_append_eq hcs with ⟨tail, htail⟩ | ⟨front, hbefore, hclose⟩
    · exact hinner before tail htail
    · cases front with
      | nil => rwa [hbefore, List.append_nil]
      | cons d front => simp at hclose

namespace Lexeme

/-! ## Which texts can stand between slashes -/

/-- Behind whole pairs, no slash of a pattern that can be spelled ends an open one. -/
theorem PatternBody.even_endBackslashes {source text before after : List Char}
    (h : PatternBody source text) (front : List Char) (hfront : endBackslashes front % 2 = 0)
    (hslash : text ++ ['/'] = before ++ '/' :: after) :
    endBackslashes (front ++ before) % 2 = 0 := by
  induction h generalizing front before with
  | nil =>
    cases before with
    | nil => rwa [List.append_nil]
    | cons d before => simp at hslash
  | @plain c source text hc hback _ ih =>
    cases before with
    | nil => exact absurd (List.cons.inj hslash).1 hc
    | cons d before =>
      obtain ⟨rfl, htail⟩ := List.cons.inj hslash
      rw [List.append_cons]
      exact ih (front ++ [c]) (by rw [endBackslashes_concat, if_neg hback]) htail
  | @slash source text _ ih =>
    cases before with
    | nil => rwa [List.append_nil]
    | cons d before =>
      obtain ⟨rfl, htail⟩ := List.cons.inj hslash
      rw [List.append_cons]
      exact ih (front ++ ['/']) (by rw [endBackslashes_concat, if_neg (by decide)]) htail
  | @escaped c source text hc _ ih =>
    rcases before with _ | ⟨d, _ | ⟨d', before⟩⟩
    · exact absurd (List.cons.inj hslash).1 (by decide)
    · exact absurd (List.cons.inj (List.cons.inj hslash).2).1 hc
    · obtain ⟨rfl, htail⟩ : c = d' ∧ text ++ ['/'] = before ++ '/' :: after := by
        simpa using (List.cons.inj hslash).2
      obtain rfl : '\\' = d := (List.cons.inj hslash).1
      rw [List.append_cons, List.append_cons]
      refine ih (front ++ ['\\'] ++ [c]) ?_ htail
      rw [endBackslashes_concat, endBackslashes_concat, if_pos rfl]
      split <;> omega

/-- Behind whole pairs, a text whose slashes end no open one can be spelled. -/
theorem exists_patternBody {text : List Char} (front : List Char)
    (hfront : endBackslashes front % 2 = 0)
    (hslash : ∀ before after, text ++ ['/'] = before ++ '/' :: after →
      endBackslashes (front ++ before) % 2 = 0) :
    ∃ source, PatternBody source text := by
  -- a backslash takes the character behind it along, so the induction is on the length
  induction hlength : text.length using Nat.strongRecOn generalizing text front with
  | ind n ih =>
    subst hlength
    cases text with
    | nil => exact ⟨[], .nil⟩
    | cons c text =>
      have hnext : ∀ skipped rest, c :: text = skipped ++ rest → skipped ≠ [] →
          endBackslashes (front ++ skipped) % 2 = 0 → ∃ source, PatternBody source rest := by
        intro skipped rest hsplit hne heven
        have hlength : (c :: text).length = skipped.length + rest.length := by
          rw [hsplit, List.length_append]
        have hpos : 0 < skipped.length := List.length_pos_iff.2 hne
        refine ih rest.length (by omega) _ heven (fun before after hrest => ?_) rfl
        rw [List.append_assoc]
        refine hslash (skipped ++ before) after ?_
        rw [hsplit, List.append_assoc, hrest, List.append_assoc]
      by_cases hback : c = '\\'
      · subst hback
        -- the backslash is the first of a pair, so neither slash nor end comes next
        have hopen : endBackslashes (front ++ ['\\']) % 2 = 1 := by
          rw [endBackslashes_concat, if_pos rfl]
          omega
        cases text with
        | nil => exact absurd (hslash ['\\'] [] rfl) (by omega)
        | cons d text =>
          have hd : d ≠ '/' := by
            rintro rfl
            exact absurd (hslash ['\\'] (text ++ ['/']) rfl) (by omega)
          have hpair : endBackslashes (front ++ ['\\', d]) % 2 = 0 := by
            rw [List.append_cons, endBackslashes_concat]
            split <;> omega
          obtain ⟨source, hbody⟩ := hnext ['\\', d] text rfl (by simp) hpair
          exact ⟨_, .escaped hd hbody⟩
      · have hsingle : endBackslashes (front ++ [c]) % 2 = 0 := by
          rw [endBackslashes_concat, if_neg hback]
        obtain ⟨source, hbody⟩ := hnext [c] text rfl (by simp) hsingle
        by_cases hc : c = '/'
        · subst hc
          exact ⟨_, .slash hbody⟩
        · exact ⟨_, .plain hc hback hbody⟩

/-- A text can be spelled between slashes exactly if each of its slashes and the closing one stand
behind an even number of backslashes. -/
theorem exists_patternBody_iff {text : List Char} :
    (∃ source, PatternBody source text) ↔
      SlashesBare text ∧ endBackslashes text % 2 = 0 := by
  rw [← slashesBare_concat]
  constructor
  · rintro ⟨source, hbody⟩ before after hslash
    exact hbody.even_endBackslashes [] rfl hslash
  · exact fun h => exists_patternBody [] rfl h

end Lexeme

/-! ## Shown patterns -/

namespace Tiles

/-- The first token is the lexeme that the text begins with. -/
theorem exists_of_first {offset : Nat} {c : Char} {cs rest : List Char} {l : Lexeme}
    {ts : List Token} (h : Tiles offset (c :: cs) ts) (hsep : isSeparator c = false)
    (hfirst : Lexeme.first c cs = (l, rest)) :
    ∃ us, ts = l.tokenAt offset :: us ∧ Tiles (offset + byteLength l.source) rest us := by
  generalize hall : c :: cs = all at h
  cases h with
  | finish hgap =>
    subst hall
    rw [hgap c (by simp)] at hsep
    cases hsep
  | @token _ start gap cs' rest' c' l' us hgap hfirst' hstart hrest =>
    cases gap with
    | cons d gap =>
      obtain ⟨rfl, _⟩ := List.cons.inj hall
      rw [hgap c (by simp)] at hsep
      cases hsep
    | nil =>
      obtain ⟨rfl, rfl⟩ := List.cons.inj hall
      obtain ⟨rfl, rfl⟩ := Prod.mk.inj (hfirst.symm.trans hfirst')
      obtain rfl : start = offset := hstart
      exact ⟨us, rfl, hrest⟩

theorem eq_finishAt {offset : Nat} {ts : List Token} (h : Tiles offset [] ts) :
    ts = [.finishAt offset] := by
  generalize hall : ([] : List Char) = all at h
  cases h with
  | finish hgap =>
    subst hall
    rfl
  | token => simp at hall

end Tiles

/-- A text that is one lexeme is scanned as its token. -/
theorem tokenize_of_first {input : String} {c : Char} {cs : List Char} {l : Lexeme}
    (hinput : input.toList = c :: cs) (hsep : isSeparator c = false)
    (hfirst : Lexeme.first c cs = (l, [])) :
    tokenize input =
      [⟨l.kind, ⟨0, input.utf8ByteSize⟩, .ofList l.text⟩, .finishAt input.utf8ByteSize] := by
  have htiles := tiles_tokenize input
  rw [hinput] at htiles
  obtain ⟨ts, htokens, hrest⟩ := htiles.exists_of_first hsep hfirst
  have hsource : l.source = input.toList := by
    have hsource' := Lexeme.first_source c cs
    rw [hfirst, List.append_nil] at hsource'
    rw [hsource', hinput]
  rw [htokens, hrest.eq_finishAt, Lexeme.tokenAt, hsource, byteLength_toList, Nat.zero_add]

section

variable [Pattern.Validator]

/-- A pattern is scanned from the text that shows it, as one token that says the pattern and then
the end of the input, exactly if each of its slashes and its end stand behind an even number of
backslashes.  The tokens of any other shown pattern do not even hold it. -/
theorem tokenize_display_pattern (p : Pattern) :
    (tokenize (Expr.pattern p).display =
        [⟨.pattern, ⟨0, (Expr.pattern p).display.utf8ByteSize⟩, p.text⟩,
          .finishAt (Expr.pattern p).display.utf8ByteSize] ↔
      SlashesBare p.text.toList ∧ endBackslashes p.text.toList % 2 = 0) ∧
    ((∃ t ∈ tokenize (Expr.pattern p).display, t.kind = .pattern ∧ t.lexeme = p.text) ↔
      SlashesBare p.text.toList ∧ endBackslashes p.text.toList % 2 = 0) := by
  have hshown : SlashesBare p.text.toList ∧ endBackslashes p.text.toList % 2 = 0 →
      tokenize (Expr.pattern p).display =
        [⟨.pattern, ⟨0, (Expr.pattern p).display.utf8ByteSize⟩, p.text⟩,
          .finishAt (Expr.pattern p).display.utf8ByteSize] := by
    intro hbare
    obtain ⟨source, hbody⟩ := Lexeme.exists_patternBody_iff.2 hbare
    have hdisplay : (Expr.pattern p).display.toList = '/' :: (source ++ '/' :: []) := by
      simp [Expr.display, Expr.slashPattern, hbody.source_eq]
    have htokens := tokenize_of_first hdisplay (by decide) (Lexeme.first_slashed hbody [])
    rwa [String.ofList_toList] at htokens
  have hheld : (∃ t ∈ tokenize (Expr.pattern p).display, t.kind = .pattern ∧ t.lexeme = p.text) →
      SlashesBare p.text.toList ∧ endBackslashes p.text.toList % 2 = 0 := by
    rintro ⟨t, ht, hkind, hlexeme⟩
    obtain ⟨_, c, after, l, _, _, hfirst, rfl⟩ :=
      (tiles_tokenize _).exists_first t ht (by simp [hkind])
    have hspells := Lexeme.first_spells c after
    have htext : l.text = p.text.toList := by simp [← hlexeme, Lexeme.tokenAt]
    rw [hfirst, ← Lexeme.kind_tokenAt, hkind, htext] at hspells
    exact Lexeme.exists_patternBody_iff.1 hspells
  refine ⟨⟨fun htokens => hheld ?_, hshown⟩, hheld, fun hbare => ?_⟩
  · exact ⟨_, by rw [htokens]; exact List.mem_cons_self, rfl, rfl⟩
  · exact ⟨_, by rw [hshown hbare]; exact List.mem_cons_self, rfl, rfl⟩

end

open scoped Pattern.Standard in
/-- A slash behind a backslash closes the shown pattern early. -/
theorem tokenize_display_pattern_escaped :
    ∃ p : Pattern, p.text = "\\/" ∧ (Expr.pattern p).display = "/\\\\//" ∧
      tokenize (Expr.pattern p).display =
        [⟨.pattern, ⟨0, 4⟩, "\\\\"⟩, ⟨.illegal, ⟨4, 5⟩, "/"⟩, .finishAt 5] ∧
      ¬ ∃ t ∈ tokenize (Expr.pattern p).display, t.kind = .pattern ∧ t.lexeme = p.text := by
  have hvalid : (Pattern.Validator.check "\\/").toOption = some () := by decide +kernel
  have hdisplay : Expr.slashPattern "\\/" = "/\\\\//" := by decide +kernel
  obtain ⟨p, hp⟩ : ∃ p : Pattern, p.text = "\\/" := ⟨⟨_, eq_ok_of_toOption_eq_some hvalid⟩, rfl⟩
  have hshown : (Expr.pattern p).display = "/\\\\//" := by rw [Expr.display, hp, hdisplay]
  refine ⟨p, hp, hshown, by rw [hshown]; decide +kernel, ?_⟩
  intro hheld
  have hbare := ((tokenize_display_pattern p).2.1 hheld).1
  rw [hp] at hbare
  exact absurd (hbare ['\\'] [] (by decide)) (by decide)

end InventoryFilter
