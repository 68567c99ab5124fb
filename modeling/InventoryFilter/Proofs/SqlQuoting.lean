import InventoryFilter.Compile
import InventoryFilter.Pattern.Standard
import InventoryFilter.Proofs.Leaves
import InventoryFilter.Proofs.SqlScanning

set_option autoImplicit false

/-!
# Quoting in rendered predicates

A rendered filter is split into the tokens that its tree prescribes, so that nothing of a text, a
pattern or an identifier is read outside the constant or the name it is rendered as.  Columns are
rendered as they are given, and must be closed themselves.
-/

namespace InventoryFilter

/-- Whether the text does not end between quotes. -/
def Sql.Closed (text : String) : Prop := ∃ ts, scan text.toList = some ts

/-! ## The prescribed tokens -/

/-- The token of the operators that SQL has itself. -/
def Operator.sqlToken? : Operator → Option SqlToken
  | equal => some (.symbol ['='])
  | notEqual => some (.symbol ['!', '='])
  | less => some (.symbol ['<'])
  | lessEqual => some (.symbol ['<', '='])
  | greater => some (.symbol ['>'])
  | greaterEqual => some (.symbol ['>', '='])
  | and => some (.word "AND".toList)
  | or => some (.word "OR".toList)
  | like => none
  | notLike => none

/-- The tokens of an operator between operands with the given tokens: a comparison in brackets, or
a call. -/
def SqlToken.binary (left : List SqlToken) (op : Operator) (right : List SqlToken) :
    List SqlToken :=
  match op.sqlToken? with
  | some t =>
    [symbol ['(']] ++ left ++ [blank ' ', t, blank ' '] ++ right ++ [symbol [')']]
  | none =>
    (if op = .notLike then [word "NOT".toList, blank ' '] else []) ++
      [word "regexp_matches".toList, symbol ['(']] ++ left ++ [symbol [','], blank ' '] ++
        right ++ [symbol [')']]

/-- The name that an identifier without a column stands for. -/
def Expr.spaced (name : String) : List Char := name.toList.map fun c => if c = '_' then ' ' else c

/-- The tokens that the tree prescribes.  A column brings the tokens of its own text. -/
def Expr.sqlTokens [Pattern.Validator] (columns : ColumnMap) : Expr → List SqlToken
  | binary l op r => SqlToken.binary (l.sqlTokens columns) op (r.sqlTokens columns)
  | string s => [.constant s.toList]
  | identifier name =>
    match columns.resolve? name with
    | some column => (Sql.scan column.toList).getD []
    | none => [.name (spaced name)]
  | boolean b => [.word (if b then "TRUE".toList else "FALSE".toList)]
  | pattern p => [.constant p.text.toList]
  | quantity q => [.number q.sql.toList]

namespace Sql

/-! ## Leaves -/

/-- A text in which quotes are doubled ends at the quote after it. -/
theorem quotedBody_doubled {quote : Char} {rest : List Char} (hrest : quote ∉ rest.head?)
    (value : List Char) :
    quotedBody quote (doubled quote value ++ quote :: rest) = some (value, rest) := by
  induction value with
  | nil =>
    cases rest with
    | nil => simp [doubled, quotedBody]
    | cons d rest =>
      have hd : d ≠ quote := fun heq => hrest (by simp [heq])
      simp [doubled, quotedBody, hd]
  | cons c value ih =>
    by_cases hc : c = quote
    · subst hc
      simp [doubled_cons, quotedBody, ih]
    · -- What follows is more of the text or the closing quote, and never nothing.
      obtain ⟨d, ds, hds⟩ : ∃ d ds, doubled quote value ++ quote :: rest = d :: ds :=
        List.exists_cons_of_ne_nil (by simp)
      rw [hds] at ih
      rw [doubled_cons, if_neg hc, List.append_assoc, hds, List.singleton_append, quotedBody,
        if_neg hc, ih]
      rfl

theorem doubled_of_notMem {quote : Char} {value : List Char} (h : quote ∉ value) :
    doubled quote value = value := by
  induction value with
  | nil => rfl
  | cons c value ih =>
    rw [List.mem_cons, not_or] at h
    rw [doubled_cons, if_neg (Ne.symm h.1), ih h.2]
    rfl

theorem Scans.constant {rest : List Char} (hrest : Delimits rest) (s : String) :
    Scans ((Expr.sqlString s).toList ++ rest) [.constant s.toList] rest := by
  have hshown : (Expr.sqlString s).toList ++ rest =
      '\'' :: (doubled '\'' s.toList ++ '\'' :: rest) := by
    simp [Expr.sqlString, doubled]
  rw [hshown]
  refine Scans.of_first ?_
  rw [first, if_neg (by decide), if_pos rfl, quotedBody_doubled hrest.quote_notMem.1]
  rfl

/-- No character of an identifier is a quote. -/
theorem quote_notMem_spaced {name : String} (hname : IsIdentifier name.toList) :
    '"' ∉ Expr.spaced name := by
  intro hmem
  obtain ⟨c, hc, heq⟩ := List.mem_map.1 hmem
  have hword : Lexeme.isWordChar c = true := hname.2.1 c hc
  split at heq
  · exact absurd heq (by decide)
  · rw [heq] at hword
    exact absurd hword (by decide +kernel)

theorem Scans.name {rest : List Char} (hrest : Delimits rest) {name : String}
    (hname : IsIdentifier name.toList) :
    Scans ((Expr.sqlName name).toList ++ rest) [.name (Expr.spaced name)] rest := by
  have hshown : (Expr.sqlName name).toList ++ rest =
      '"' :: (doubled '"' (Expr.spaced name) ++ '"' :: rest) := by
    rw [doubled_of_notMem (quote_notMem_spaced hname)]
    simp [Expr.sqlName, Expr.spaced]
  rw [hshown]
  refine Scans.of_first ?_
  rw [first, if_neg (by decide), if_neg (by decide), if_pos rfl,
    quotedBody_doubled hrest.quote_notMem.2]
  rfl

/-- Digits, a point and more digits are one number. -/
theorem Scans.number {rest : List Char} (hrest : Delimits rest) {q : Quantity}
    (hq : q.Unsigned) : Scans (q.sql.toList ++ rest) [.number q.sql.toList] rest := by
  obtain ⟨_, rank, hbaseline⟩ := hq
  have hform : Binary64.FixedForm Quantity.places q.sql.toList := by
    rw [Quantity.sql, hbaseline]
    exact Binary64.fixed_form (by decide) rank
  obtain ⟨whole, point, htext, hne, hdigits, htake, hfraction⟩ :=
    Lexeme.span_fixedForm (by decide) hform (hrest.head_eq_false rfl rfl rfl rfl)
  obtain ⟨c, cs, rfl⟩ := List.exists_cons_of_ne_nil hne
  have hdigit : c.isDigit = true := hdigits c (by simp)
  have hsep : isSeparator c = false := isSeparator_eq_false hdigit rfl
  have hconstant : c ≠ '\'' := by rintro rfl; cases hdigit
  have hname : c ≠ '"' := by rintro rfl; cases hdigit
  rw [htext, List.cons_append, List.cons_append] at htake hfraction ⊢
  rw [List.takeWhile_cons_of_pos hdigit] at htake
  rw [List.dropWhile_cons_of_pos hdigit] at hfraction
  refine Scans.of_first ?_
  rw [first, if_neg (Bool.eq_false_iff.1 hsep), if_neg hconstant, if_neg hname, if_pos hdigit,
    Sql.number, hfraction, (List.cons.inj htake).2]
  rfl

/-! ## Trees -/

theorem Scans.blank (cs : List Char) : Scans (' ' :: cs) [.blank ' '] cs :=
  Scans.of_first rfl

/-- Brackets and commas are tokens of their own whatever follows them. -/
theorem Scans.symbol {c : Char} (hc : c = '(' ∨ c = ')' ∨ c = ',') (cs : List Char) :
    Scans (c :: cs) [.symbol [c]] cs := by
  have hsymbol : Sql.symbol c cs = (.symbol [c], cs) := by
    cases cs with
    | nil => rfl
    | cons d cs => rcases hc with rfl | rfl | rfl <;> simp [Sql.symbol, longSymbols]
  refine Scans.of_first ?_
  rw [← hsymbol]
  rcases hc with rfl | rfl | rfl <;> rfl

/-- Whether the text is split into the tokens in front of every delimiter. -/
def Splits (text : String) (ts : List SqlToken) : Prop :=
  ∀ rest, Delimits rest → Scans (text.toList ++ rest) ts rest

theorem Splits.of_scan {text : String} {ts : List SqlToken} (h : scan text.toList = some ts) :
    Splits text ts :=
  fun _ hrest => Scans.of_scan hrest h

theorem splits_sql {op : Operator} {sql : String} (h : op.sql? = some sql) :
    ∃ t, op.sqlToken? = some t ∧ Splits sql [t] := by
  cases op <;> cases h <;> exact ⟨_, rfl, Splits.of_scan (by decide +kernel)⟩

theorem sqlToken?_eq_none {op : Operator} (h : op.sql? = none) : op.sqlToken? = none := by
  cases op <;> first | rfl | cases h

/-- Brackets keep a comparison apart from what stands around it, and blanks keep its operator apart
from its operands. -/
theorem Splits.comparison {left sql right : String} {ts us : List SqlToken} {t : SqlToken}
    (hleft : Splits left ts) (hop : Splits sql [t]) (hright : Splits right us) :
    Splits ("(" ++ left ++ " " ++ sql ++ " " ++ right ++ ")")
      ([.symbol ['(']] ++ ts ++ [.blank ' ', t, .blank ' '] ++ us ++ [.symbol [')']]) := by
  intro rest _
  have hclose := Scans.symbol (.inr (.inl rfl)) rest
  have hend := (hright _ (Delimits.cons (by simp) rest)).trans hclose
  have hmiddle := (hop _ (Delimits.cons (by simp) _)).trans ((Scans.blank _).trans hend)
  have hstart := (hleft _ (Delimits.cons (by simp) _)).trans ((Scans.blank _).trans hmiddle)
  have hopen := (Scans.symbol (.inl rfl) _).trans hstart
  simpa using hopen

theorem Splits.call {left right : String} {ts us : List SqlToken} (hleft : Splits left ts)
    (hright : Splits right us) :
    Splits ("regexp_matches(" ++ left ++ ", " ++ right ++ ")")
      ([.word "regexp_matches".toList, .symbol ['(']] ++ ts ++ [.symbol [','], .blank ' '] ++
        us ++ [.symbol [')']]) := by
  intro rest _
  have hclose := Scans.symbol (.inr (.inl rfl)) rest
  have hend := (hright _ (Delimits.cons (by simp) rest)).trans hclose
  have hcomma := (Scans.symbol (.inr (.inr rfl)) _).trans ((Scans.blank _).trans hend)
  have hstart := (hleft _ (Delimits.cons (by simp) _)).trans hcomma
  have hopen := (Scans.symbol (.inl rfl) _).trans hstart
  have hword : Splits "regexp_matches" [.word "regexp_matches".toList] :=
    Splits.of_scan (by decide +kernel)
  simpa using (hword _ (Delimits.cons (by simp) _)).trans hopen

theorem Splits.negation {text : String} {ts : List SqlToken} (h : Splits text ts) :
    Splits ("NOT " ++ text) ([.word "NOT".toList, .blank ' '] ++ ts) := by
  intro rest hrest
  have hword : Splits "NOT" [.word "NOT".toList] := Splits.of_scan (by decide +kernel)
  have hblank := (Scans.blank _).trans (h rest hrest)
  simpa using (hword _ (Delimits.cons (by simp) _)).trans hblank

end Sql

namespace Expr

open Sql

theorem splits_sqlBinary {left right : String} {ts us : List SqlToken} (op : Operator)
    (hleft : Splits left ts) (hright : Splits right us) :
    Splits (sqlBinary left op right) (SqlToken.binary ts op us) := by
  unfold sqlBinary SqlToken.binary
  cases hop : op.sql? with
  | some sql =>
    obtain ⟨t, ht, hsql⟩ := splits_sql hop
    rw [ht]
    exact hleft.comparison hsql hright
  | none =>
    rw [sqlToken?_eq_none hop]
    by_cases hnot : op = .notLike
    · have hcall := (hleft.call hright).negation
      rw [if_pos hnot, if_pos hnot]
      simpa only [String.append_assoc, List.append_assoc] using hcall
    · have hcall := hleft.call hright
      rw [if_neg hnot, if_neg hnot]
      simpa only [String.empty_append, List.nil_append] using hcall

theorem mem_of_resolve?_eq_some {columns : ColumnMap} {name column : String}
    (h : columns.resolve? name = some column) :
    (Text.lowercase name, column) ∈ columns.entries := by
  obtain ⟨l₁, l₂, hentries, _⟩ := List.lookup_eq_some_iff.1 h
  rw [hentries]
  simp

variable [Pattern.Validator]

/-- In front of any delimiter, a rendered tree is split into the tokens that it prescribes. -/
theorem splits_sqlTokens {columns : ColumnMap}
    (hcolumns : ∀ entry ∈ columns.entries, Closed entry.2) {e : Expr} (h : e.Spellable) :
    Splits (e.sql columns) (e.sqlTokens columns) := by
  induction e with
  | binary l op r ihl ihr => exact splits_sqlBinary op (ihl h.1) (ihr h.2)
  | string s => exact fun rest hrest => Scans.constant hrest s
  | identifier name =>
    rw [sql, sqlTokens]
    cases hcolumn : columns.resolve? name with
    | none => exact fun rest hrest => Scans.name hrest h
    | some column =>
      obtain ⟨ts, hts⟩ := hcolumns _ (mem_of_resolve?_eq_some hcolumn)
      simp only [Option.getD_some, hts]
      exact Splits.of_scan hts
  | boolean b =>
    have htrue : Splits "TRUE" [.word "TRUE".toList] := Splits.of_scan (by decide +kernel)
    have hfalse : Splits "FALSE" [.word "FALSE".toList] := Splits.of_scan (by decide +kernel)
    cases b with
    | true => exact htrue
    | false => exact hfalse
  | pattern p => exact fun rest hrest => Scans.constant hrest p.text
  | quantity q => exact fun rest hrest => Scans.number hrest h

theorem scan_sql {columns : ColumnMap} (hcolumns : ∀ entry ∈ columns.entries, Closed entry.2)
    {e : Expr} (h : e.Spellable) : scan (e.sql columns).toList = some (e.sqlTokens columns) := by
  simpa [Scans] using splits_sqlTokens hcolumns h [] Delimits.nil

end Expr

section

variable [Pattern.Validator]

theorem compile_eq_ok_iff {input sql : String} {columns : ColumnMap} :
    compile input columns = .ok sql ↔ ∃ e, parse input = .ok e ∧ e.sql columns = sql := by
  rw [compile_eq]
  cases parse input with
  | error rejection => simp [Except.map]
  | ok e => simp [Except.map]

/-- A compiled filter is split into exactly the tokens that its tree prescribes, and these make up
the whole text. -/
theorem scan_of_compile {input sql : String} {columns : ColumnMap}
    (hcolumns : ∀ entry ∈ columns.entries, Sql.Closed entry.2)
    (h : compile input columns = .ok sql) :
    ∃ e, parse input = .ok e ∧ Sql.scan sql.toList = some (e.sqlTokens columns) ∧
      (e.sqlTokens columns).flatMap SqlToken.spelling = sql.toList := by
  obtain ⟨e, hparse, rfl⟩ := compile_eq_ok_iff.1 h
  have hscan := Expr.scan_sql hcolumns (spellable_of_parse hparse)
  exact ⟨e, hparse, hscan, Sql.flatMap_spelling_of_scan hscan⟩

end

open scoped Pattern.Standard in
theorem scan_of_compile_quotes :
    let input := "os_name = \"'; DROP\" or ram > 2gb and not_it !~ /\"'/"
    let columns := ColumnMap.ofList [("RAM", "v.\"mem '\"")]
    let sql := "((\"os name\" = '''; DROP') OR ((v.\"mem '\" > 2048.00) AND " ++
      "NOT regexp_matches(\"not it\", '\"''')))"
    (∀ entry ∈ columns.entries, Sql.Closed entry.2) ∧ compile input columns = .ok sql ∧
      ∃ e, parse input = .ok e ∧ Sql.scan sql.toList = some (e.sqlTokens columns) ∧
        (e.sqlTokens columns).flatMap SqlToken.spelling = sql.toList := by
  intro input columns sql
  have hclosed : ∀ entry ∈ columns.entries, (Sql.scan entry.2.toList).isSome = true := by
    decide +kernel
  have hcolumns : ∀ entry ∈ columns.entries, Sql.Closed entry.2 := fun entry hentry =>
    Option.isSome_iff_exists.1 (hclosed entry hentry)
  have hcompile : (compile input columns).toOption = some sql := by decide +kernel
  have hsql := eq_ok_of_toOption_eq_some hcompile
  exact ⟨hcolumns, hsql, scan_of_compile hcolumns hsql⟩

end InventoryFilter
