import InventoryFilter.Compile
import InventoryFilter.Pattern.Standard
import InventoryFilter.Proofs.Fronts
import InventoryFilter.Proofs.RoundTrip

set_option autoImplicit false

/-!
# Filters made of filters

A filter that is accepted can be put in brackets and joined to another one by any operator, with or
without separators around it.  The brackets keep its tokens apart from what stands around them, and
inside brackets it is read as it is read alone.
-/

namespace InventoryFilter

open Grammar

/-! ## Tokens in a longer text -/

/-- The kinds and texts of the lexemes of a text. -/
def contents (cs : List Char) : List (TokenKind × List Char) := (lexemes cs).map Lexeme.content

theorem contents_separators {gap : List Char} (hgap : ∀ c ∈ gap, isSeparator c = true)
    (cs : List Char) : contents (gap ++ cs) = contents cs := by
  induction gap with
  | nil => rfl
  | cons c gap ih =>
    have hc : isSeparator c = true := hgap c (by simp)
    rw [List.cons_append, contents, lexemes_separator hc]
    exact ih fun d hd => hgap d (by simp [hd])

theorem contents_lexeme {l : Lexeme} {rest : List Char} (h : l.Stands rest) :
    contents (l.source ++ rest) = l.content :: contents rest := by
  obtain ⟨c, cs, hsource, hsep, hfirst⟩ := h
  rw [hsource]
  exact Expr.map_content_lexemes hsep hfirst

theorem Yields.contents_eq {offset : Nat} {front rest : List Char} {ts : List Token}
    (h : Yields offset front rest ts) :
    contents (front ++ rest) = ts.map Token.content ++ contents rest := by
  induction h with
  | separators hgap => exact contents_separators hgap _
  | @lexeme offset gap front rest l ts hgap hl _ ih =>
    have htoken : (l.tokenAt (offset + Text.byteLength gap)).content = l.content := by
      simp [Token.content, Lexeme.content, Lexeme.tokenAt]
    rw [List.append_assoc, List.append_assoc, contents_separators hgap, contents_lexeme hl, ih,
      List.map_cons, htoken]
    rfl

theorem Lexeme.stands_openBracket (rest : List Char) :
    (verbatim .openBracket ['(']).Stands rest :=
  ⟨'(', [], rfl, rfl, rfl⟩

theorem Lexeme.stands_closeBracket (rest : List Char) :
    (verbatim .closeBracket [')']).Stands rest :=
  ⟨')', [], rfl, rfl, rfl⟩

/-- An operator stands before every separator and every bracket. -/
theorem Lexeme.stands_spelling (op : Operator) {rest : List Char} (h : Breaks rest) :
    (verbatim op.kind op.spelling.toList).Stands rest := by
  obtain ⟨c, cs, hspelling, hsep, hfirst⟩ := first_spelling op []
  have hspace : (verbatim op.kind op.spelling.toList).Stands [' '] :=
    ⟨c, cs, hspelling, hsep, hfirst⟩
  refine hspace.of_offersNoMore (h.offersNoMore _) ?_
  rintro ⟨hillegal, -⟩
  cases op <;> cases hillegal

section

variable [Pattern.Validator]

/-! ## Trees of tokens without their places -/

theorem Token.leaf?_eq_of_content {t u : Token} (h : u.content = t.content) :
    u.leaf? = t.leaf? := by
  obtain ⟨hkind, htext⟩ := Prod.mk.inj h
  have hlexeme : u.lexeme = t.lexeme := String.toList_inj.1 htext
  simp only [leaf?, hkind, hlexeme]

/-- Where tokens stand makes no difference to the tree that they derive. -/
theorem Grammar.Derives.of_content {layer : Nat} {ts us : List Token} {e : Expr}
    (h : Derives layer ts e) (hus : us.map Token.content = ts.map Token.content) :
    Derives layer us e := by
  have hkind : ∀ {t u : Token}, u.content = t.content → u.kind = t.kind :=
    fun h => congrArg Prod.fst h
  induction h generalizing us with
  | leaf hleaf =>
    obtain ⟨u, rfl, hu⟩ := List.map_eq_singleton_iff.1 hus
    rw [← Token.leaf?_eq_ok_iff, ← Token.leaf?_eq_of_content hu] at hleaf
    exact .leaf (Token.leaf?_eq_ok_iff.1 hleaf)
  | bracketed hopen hclose _ ih =>
    simp only [List.map_cons, List.map_append, List.map_nil, List.map_eq_cons_iff,
      List.map_eq_append_iff, List.map_eq_nil_iff] at hus
    obtain ⟨t', _, rfl, ht, us, _, rfl, hinner, u', _, rfl, hu, rfl⟩ := hus
    exact .bracketed ((hkind ht).trans hopen) ((hkind hu).trans hclose) (ih hinner)
  | single _ ih => exact .single (ih hus)
  | chained _ hop _ ihLeft ihRight =>
    simp only [List.map_append, List.map_cons, List.map_eq_append_iff, List.map_eq_cons_iff] at hus
    obtain ⟨vs, _, rfl, hleft, t', us, rfl, ht, hright⟩ := hus
    exact .chained (ihLeft hleft) ((hkind ht).trans hop) (ihRight hright)

/-- No token of a phrase is illegal. -/
theorem Grammar.Derives.kind_ne_illegal {layer : Nat} {ts : List Token} {e : Expr}
    (h : Derives layer ts e) : ∀ t ∈ ts, t.kind ≠ .illegal := by
  induction h with
  | leaf hleaf =>
    intro t ht
    rw [List.mem_singleton.1 ht]
    cases hleaf <;> simp [*]
  | bracketed hopen hclose _ ih =>
    simp only [List.mem_cons, List.mem_append, List.not_mem_nil, or_false]
    rintro t (rfl | ht | rfl)
    · simp [hopen]
    · exact ih t ht
    · simp [hclose]
  | single _ ih => exact ih
  | @chained t op _ _ _ _ _ hop _ ihLeft ihRight =>
    simp only [List.mem_append, List.mem_cons]
    rintro u (hu | rfl | hu)
    · exact ihLeft u hu
    · rw [hop]
      cases op <;> simp [Operator.kind]
    · exact ihRight u hu

/-! ## Filters in brackets -/

/-- Before a separator or a bracket, a filter that is accepted has the tokens that it has alone. -/
theorem contents_append_of_parse {s : String} {e : Expr} (h : parse s = .ok e) {rest : List Char}
    (hrest : Lexeme.Breaks rest) :
    contents (s.toList ++ rest) = contents s.toList ++ contents rest := by
  obtain ⟨ts, hts⟩ := exists_yields 0 s.toList
  have htake : (tokenize s).takeWhile (!·.isFinish) = ts := hts.takeWhile_tokensFrom
  have hclosed : ∀ t ∈ ts, ¬ Lexeme.Unclosed t.kind t.lexeme.toList := by
    intro t ht hopen
    rw [parse_eq_ok_iff, htake] at h
    exact h.kind_ne_illegal t ht hopen.1
  have halone := hts.contents_eq
  rw [List.append_nil] at halone
  rw [(hts.of_offersNoMore (hrest.offersNoMore []) hclosed).1.contents_eq, halone]
  simp [contents]

/-- The kinds and texts of the tokens of a filter in brackets. -/
def bracketed (s : String) : List (TokenKind × List Char) :=
  (.openBracket, ['(']) :: (contents s.toList ++ [(.closeBracket, [')'])])

/-- Before any text, a filter that is accepted has its own tokens between brackets. -/
theorem contents_bracketed {s : String} {e : Expr} (h : parse s = .ok e) (rest : List Char) :
    contents ('(' :: (s.toList ++ ')' :: rest)) = bracketed s ++ contents rest := by
  have hbreaks : Lexeme.Breaks (')' :: rest) := by
    intro c hc
    cases hc
    exact .inr (.inr rfl)
  calc contents ('(' :: (s.toList ++ ')' :: rest))
      = (.openBracket, ['(']) :: contents (s.toList ++ ')' :: rest) :=
        contents_lexeme (Lexeme.stands_openBracket _)
    _ = (.openBracket, ['(']) :: (contents s.toList ++ contents (')' :: rest)) := by
        rw [contents_append_of_parse h hbreaks]
    _ = (.openBracket, ['(']) :: (contents s.toList ++ (.closeBracket, [')']) :: contents rest) :=
        congrArg _ (congrArg _ (contents_lexeme (Lexeme.stands_closeBracket rest)))
    _ = bracketed s ++ contents rest := by simp [bracketed]

/-- In brackets, a filter is an operand with the tree that it has alone. -/
theorem derives_bracketed {s : String} {e : Expr} (h : parse s = .ok e) {ts : List Token}
    (hts : ts.map Token.content = bracketed s) : Derives 3 ts e := by
  simp only [bracketed, List.map_eq_cons_iff, List.map_eq_append_iff, List.map_eq_nil_iff] at hts
  obtain ⟨t, _, rfl, ht, us, _, rfl, hus, u, _, rfl, hu, rfl⟩ := hts
  have hinner : Derives 0 us e := by
    apply (parse_eq_ok_iff.1 h).of_content
    rw [hus, map_content_tokenize, contents]
  exact .bracketed (congrArg Prod.fst ht) (congrArg Prod.fst hu) hinner

theorem parse_bracketed {s : String} {e : Expr} (h : parse s = .ok e) :
    parse ("(" ++ s ++ ")") = .ok e := by
  have htokens := map_content_tokenize ("(" ++ s ++ ")")
  have hcontents := contents_bracketed h []
  have htext : ("(" ++ s ++ ")").toList = '(' :: (s.toList ++ [')']) := by simp
  rw [htext] at htokens
  rw [parse_eq_ok_iff]
  apply Derives.loosen (Nat.zero_le 3)
  apply derives_bracketed h
  rw [htokens, ← contents, hcontents]
  simp [contents]

/-! ## Filters joined by an operator -/

/-- An operator between two filters in brackets is a token of its own. -/
theorem contents_joined {s₁ s₂ : String} {e₁ e₂ : Expr} (h₁ : parse s₁ = .ok e₁)
    (h₂ : parse s₂ = .ok e₂) (op : Operator) {gap₁ gap₂ : List Char}
    (hgap₁ : ∀ c ∈ gap₁, isSeparator c = true) (hgap₂ : ∀ c ∈ gap₂, isSeparator c = true) :
    contents ('(' :: (s₁.toList ++ ')' :: (gap₁ ++ (op.spelling.toList ++
        (gap₂ ++ '(' :: (s₂.toList ++ [')'])))))) =
      bracketed s₁ ++ (op.kind, op.spelling.toList) :: bracketed s₂ := by
  have hbreaks : Lexeme.Breaks (gap₂ ++ '(' :: (s₂.toList ++ [')'])) := by
    intro c hc
    cases gap₂ with
    | nil =>
      cases hc
      exact .inr (.inl rfl)
    | cons d gap =>
      cases hc
      exact .inl (hgap₂ c (by simp))
  have hop := contents_lexeme (Lexeme.stands_spelling op hbreaks)
  have hlast := contents_bracketed h₂ []
  rw [contents_bracketed h₁, contents_separators hgap₁]
  refine congrArg (bracketed s₁ ++ ·) (hop.trans ?_)
  rw [contents_separators hgap₂, hlast]
  simp [contents, Lexeme.content, Lexeme.verbatim]

/-- Two filters in brackets are joined by an operator into the tree that joins their trees. -/
theorem parse_joined {s₁ s₂ gap₁ gap₂ : String} {e₁ e₂ : Expr} (h₁ : parse s₁ = .ok e₁)
    (h₂ : parse s₂ = .ok e₂) (op : Operator) (hgap₁ : ∀ c ∈ gap₁.toList, isSeparator c = true)
    (hgap₂ : ∀ c ∈ gap₂.toList, isSeparator c = true) :
    parse ("(" ++ s₁ ++ ")" ++ gap₁ ++ op.spelling ++ gap₂ ++ "(" ++ s₂ ++ ")") =
      .ok (.binary e₁ op e₂) := by
  have htext : ("(" ++ s₁ ++ ")" ++ gap₁ ++ op.spelling ++ gap₂ ++ "(" ++ s₂ ++ ")").toList =
      '(' :: (s₁.toList ++ ')' :: (gap₁.toList ++ (op.spelling.toList ++
        (gap₂.toList ++ '(' :: (s₂.toList ++ [')']))))) := by
    simp
  have htokens :=
    map_content_tokenize ("(" ++ s₁ ++ ")" ++ gap₁ ++ op.spelling ++ gap₂ ++ "(" ++ s₂ ++ ")")
  rw [htext, ← contents, contents_joined h₁ h₂ op hgap₁ hgap₂, List.map_eq_append_iff] at htokens
  obtain ⟨left, tail, hsplit, hleft, htail⟩ := htokens
  obtain ⟨t, right, rfl, ht, hright⟩ := List.map_eq_cons_iff.1 htail
  rw [parse_eq_ok_iff, hsplit]
  have hlayer := op.layer_le
  apply Derives.loosen (Nat.zero_le op.layer)
  apply Derives.chained
  · exact (derives_bracketed h₁ hleft).loosen (by omega)
  · exact congrArg Prod.fst ht
  · exact (derives_bracketed h₂ hright).loosen (by omega)

/-- Filters are composed as texts: in brackets a filter means what it means alone, and an operator
between two filters in brackets joins their trees, and so their SQL under every column map: between
brackets and around the SQL spelling of the operator, or in a call where the operator has none. -/
theorem compile_joined {s₁ s₂ gap₁ gap₂ : String} {e₁ e₂ : Expr} (h₁ : parse s₁ = .ok e₁)
    (h₂ : parse s₂ = .ok e₂) (op : Operator) (hgap₁ : ∀ c ∈ gap₁.toList, isSeparator c = true)
    (hgap₂ : ∀ c ∈ gap₂.toList, isSeparator c = true) :
    let joined := "(" ++ s₁ ++ ")" ++ gap₁ ++ op.spelling ++ gap₂ ++ "(" ++ s₂ ++ ")"
    parse ("(" ++ s₁ ++ ")") = .ok e₁ ∧ parse joined = .ok (.binary e₁ op e₂) ∧
      ∀ columns : ColumnMap, ∃ sql₁ sql₂, compile s₁ columns = .ok sql₁ ∧
        compile s₂ columns = .ok sql₂ ∧
        compile joined columns = .ok (Expr.sqlBinary sql₁ op sql₂) ∧
        (∀ sql, op.sql? = some sql →
          compile joined columns = .ok ("(" ++ sql₁ ++ " " ++ sql ++ " " ++ sql₂ ++ ")")) ∧
        (op = .like →
          compile joined columns = .ok ("regexp_matches(" ++ sql₁ ++ ", " ++ sql₂ ++ ")")) ∧
        (op = .notLike →
          compile joined columns = .ok ("NOT regexp_matches(" ++ sql₁ ++ ", " ++ sql₂ ++ ")")) := by
  intro joined
  have hjoined : parse joined = .ok (.binary e₁ op e₂) := parse_joined h₁ h₂ op hgap₁ hgap₂
  refine ⟨parse_bracketed h₁, hjoined, fun columns => ?_⟩
  have hcompile : compile joined columns =
      .ok (Expr.sqlBinary (e₁.sql columns) op (e₂.sql columns)) := by
    rw [compile_eq, hjoined]
    rfl
  refine ⟨e₁.sql columns, e₂.sql columns, ?_, ?_, hcompile, ?_, ?_, ?_⟩
  · rw [compile_eq, h₁]
    rfl
  · rw [compile_eq, h₂]
    rfl
  · intro sql hsql
    rw [hcompile, Expr.sqlBinary, hsql]
  · rintro rfl
    rw [hcompile]
    rfl
  · rintro rfl
    rw [hcompile]
    rfl

end

open scoped Pattern.Standard in
/-- Operators that bind less tightly stay inside the brackets. -/
theorem compile_joined_less :
    let e₁ : Expr :=
      .binary (.identifier "a") .or (.binary (.identifier "b") .equal (.boolean true))
    let e₂ : Expr := .binary (.string "c") .notLike (.identifier "d.e")
    parse "a or b=TRUE" = .ok e₁ ∧ parse "'c'!~d.e" = .ok e₂ ∧
      parse "(a or b=TRUE)" = .ok e₁ ∧
      parse "(a or b=TRUE)<\t('c'!~d.e)" = .ok (.binary e₁ .less e₂) ∧
      parse "(a or b=TRUE)!~('c'!~d.e)" = .ok (.binary e₁ .notLike e₂) ∧
      ∀ columns : ColumnMap, ∃ sql₁ sql₂, compile "a or b=TRUE" columns = .ok sql₁ ∧
        compile "'c'!~d.e" columns = .ok sql₂ ∧
        compile "(a or b=TRUE)<\t('c'!~d.e)" columns =
          .ok ("(" ++ sql₁ ++ " " ++ "<" ++ " " ++ sql₂ ++ ")") ∧
        compile "(a or b=TRUE)!~('c'!~d.e)" columns =
          .ok ("NOT regexp_matches(" ++ sql₁ ++ ", " ++ sql₂ ++ ")") := by
  intro e₁ e₂
  have h₁ : parse "a or b=TRUE" = .ok e₁ := eq_ok_of_toOption_eq_some (by decide +kernel)
  have h₂ : parse "'c'!~d.e" = .ok e₂ := eq_ok_of_toOption_eq_some (by decide +kernel)
  obtain ⟨hbracketed, hless, hcompile⟩ :=
    @compile_joined _ _ _ "" "\t" _ _ h₁ h₂ .less (by simp) (by simp [isSeparator])
  obtain ⟨-, hnotLike, hcompile'⟩ :=
    @compile_joined _ _ _ "" "" _ _ h₁ h₂ .notLike (by simp) (by simp)
  refine ⟨h₁, h₂, hbracketed, hless, hnotLike, fun columns => ?_⟩
  obtain ⟨sql₁, sql₂, hsql₁, hsql₂, -, hsql, -⟩ := hcompile columns
  obtain ⟨sql₁', sql₂', hsql₁', hsql₂', -, -, -, hcall⟩ := hcompile' columns
  cases hsql₁.symm.trans hsql₁'
  cases hsql₂.symm.trans hsql₂'
  exact ⟨sql₁, sql₂, hsql₁, hsql₂, hsql "<" rfl, hcall rfl⟩

end InventoryFilter
