import InventoryFilter.Compile
import InventoryFilter.Pattern.Standard
import InventoryFilter.Proofs.Leaves
import InventoryFilter.Proofs.LetterCase
import InventoryFilter.Proofs.Likeness
import InventoryFilter.Proofs.Viability

set_option autoImplicit false

/-!
# Filters in another case

The case of ASCII letters matters only inside quoted texts and patterns.  Two filters that differ
only in the case of letters inside words and quantities are both rejected at the same position, or
both read, and then their expressions differ at most in the case of the names of columns.  Where
every name has a column, the SQL predicates are the same.
-/

namespace InventoryFilter

open Text
open List (Forall₂)

/-! ## Leaves in another case -/

theorem Quantity.readUnit?_asciiLower (suffix : List Char) :
    readUnit? (asciiLower suffix) = readUnit? suffix := by
  simp [readUnit?, StorageUnit.ofSuffix?_asciiLower, List.isEmpty_iff]

/-- A quantity is the same in every spelling of its unit. -/
theorem Quantity.ofText_eq_ok_of_asciiLower_eq {text text' : String} {q : Quantity}
    (h : asciiLower text'.toList = asciiLower text.toList) (hq : ofText text = .ok q) :
    ofText text' = .ok q := by
  have hcase : ∀ c : Char, (!c.toLower.isAlpha) = !c.isAlpha := by
    intro c
    rw [isAlpha_toLower]
  obtain ⟨number, hunit, hnumber, hrange⟩ := ofText_eq_ok_iff.1 hq
  refine ofText_eq_ok_iff.2 ⟨number, ?_, ?_, hrange⟩
  · rw [← readUnit?_asciiLower, ← dropWhile_asciiLower hcase, h, dropWhile_asciiLower hcase,
      readUnit?_asciiLower, hunit]
  · have hsame : text'.toList.takeWhile (!·.isAlpha) = text.toList.takeWhile (!·.isAlpha) := by
      apply eq_of_asciiLower_eq
      · intro c hc
        simpa using List.all_eq_true.1 List.all_takeWhile c hc
      · rw [← takeWhile_asciiLower hcase, ← takeWhile_asciiLower hcase, h]
    rw [hsame, hnumber]

theorem Quantity.ofText_alike {text text' : String}
    (h : asciiLower text'.toList = asciiLower text.toList) :
    AlikeResults (fun _ _ => True) Eq (ofText text) (ofText text') := by
  cases hq : ofText text with
  | ok q =>
    rw [ofText_eq_ok_of_asciiLower_eq h hq]
    exact .ok rfl
  | error fault =>
    cases hq' : ofText text' with
    | ok q =>
      rw [ofText_eq_ok_of_asciiLower_eq h.symm hq'] at hq
      cases hq
    | error fault' => exact .error True.intro

theorem ColumnMap.resolve?_asciiLower (columns : ColumnMap) (name : String) :
    columns.resolve? (.ofList (asciiLower name.toList)) = columns.resolve? name :=
  columns.resolve?_eq_of_asciiLower_eq (by simp)

section

variable [Pattern.Validator]

/-- The expression with the capital ASCII letters of its names made small. -/
def Expr.lowerNames : Expr → Expr
  | binary l op r => binary l.lowerNames op r.lowerNames
  | identifier name => identifier (.ofList (asciiLower name.toList))
  | e => e

theorem Token.Recased.leaf {t u : Token} {r r' : Except Cause Expr} (h : t.Recased u)
    (hr : t.leaf? = some r) (hr' : u.leaf? = some r') :
    AlikeResults (fun _ _ => u.position = t.position) (fun e e' => e'.lowerNames = e.lowerNames)
      r r' := by
  have hposition : u.position = t.position := congrArg Span.start h.span
  unfold leaf? at hr hr'
  rw [h.kind] at hr'
  cases hkind : t.kind with
  | string =>
    simp only [hkind, Option.some.injEq] at hr hr'
    subst hr hr'
    have hlexeme := h.literal (by rw [hkind]; decide)
    exact .ok (by rw [hlexeme])
  | identifier =>
    simp only [hkind, Option.some.injEq] at hr hr'
    subst hr hr'
    exact .ok (by rw [Expr.lowerNames, Expr.lowerNames, h.letters])
  | boolean =>
    simp only [hkind, Option.some.injEq] at hr hr'
    subst hr hr'
    exact .ok (by rw [sameIgnoringCase, sameIgnoringCase, h.letters])
  | quantity =>
    have hread := Quantity.ofText_alike h.letters
    simp only [hkind] at hr hr'
    generalize Quantity.ofText t.lexeme = q, Quantity.ofText u.lexeme = q' at hread hr hr'
    cases hread with
    | ok hq =>
      cases hr
      cases hr'
      exact .ok (by rw [hq])
    | error _ =>
      cases hr
      cases hr'
      exact .error hposition
  | pattern =>
    have hlexeme := h.literal (by rw [hkind]; decide)
    simp only [hkind, hlexeme] at hr hr'
    rw [hr] at hr'
    cases hr'
    cases r with
    | ok e => exact .ok rfl
    | error cause => exact .error hposition
  | _ => simp [hkind] at hr

/-- Tokens are alike if they differ at most in case. -/
def Likeness.recased : Likeness where
  token := Token.Recased
  expr e e' := e'.lowerNames = e.lowerNames
  rejection r r' := r'.position = r.position
  kind_eq h := h.kind.symm
  leaf := Token.Recased.leaf
  binary := by
    intro left left' right right' op hleft hright
    rw [Expr.lowerNames, Expr.lowerNames, hleft, hright]
  refuse := by
    intro t u expected h
    rw [Token.position_refuse, Token.position_refuse]
    exact congrArg Span.start h.span
  reject := fun _ h => congrArg Span.start h.span

/-! ## Names that have columns -/

/-- Whether every name in the expression has a column. -/
def Expr.Resolved (columns : ColumnMap) (e : Expr) : Prop :=
  ∀ name ∈ e.identifiers, (columns.resolve? name).isSome = true

theorem Expr.resolved_lowerNames_iff {columns : ColumnMap} (e : Expr) :
    e.lowerNames.Resolved columns ↔ e.Resolved columns := by
  unfold Resolved
  induction e with
  | binary l op r ihl ihr => simp only [lowerNames, identifiers, List.forall_mem_append, ihl, ihr]
  | identifier name => simp [lowerNames, identifiers, columns.resolve?_asciiLower]
  | _ => exact Iff.rfl

/-- Where every name has a column, the case of the names makes no difference. -/
theorem Expr.sql_lowerNames {columns : ColumnMap} {e : Expr} (h : e.Resolved columns) :
    e.lowerNames.sql columns = e.sql columns := by
  induction e with
  | binary l op r ihl ihr =>
    obtain ⟨hl, hr⟩ := List.forall_mem_append.1 h
    rw [lowerNames, sql, sql, ihl hl, ihr hr]
  | identifier name =>
    have hsome : (columns.resolve? name).isSome = true := h name (by simp [identifiers])
    obtain ⟨column, hcolumn⟩ := Option.isSome_iff_exists.1 hsome
    rw [lowerNames, sql, sql, columns.resolve?_asciiLower, hcolumn, Option.getD_some,
      Option.getD_some]
  | _ => rfl

theorem Expr.sql_eq_of_lowerNames_eq {columns : ColumnMap} {e e' : Expr}
    (h : e'.lowerNames = e.lowerNames) (hresolved : e.Resolved columns) :
    e'.sql columns = e.sql columns := by
  have hresolved' : e'.Resolved columns := by
    rw [← resolved_lowerNames_iff, h, resolved_lowerNames_iff]
    exact hresolved
  rw [← sql_lowerNames hresolved', h, sql_lowerNames hresolved]

/-- A filter whose identifiers have columns is read as an expression whose names have columns. -/
theorem resolved_of_parse {input : String} {e : Expr} {columns : ColumnMap}
    (h : parse input = .ok e)
    (hcolumns : ∀ t ∈ tokenize input, t.kind = .identifier →
      (columns.resolve? t.lexeme).isSome = true) : e.Resolved columns := by
  intro name hname
  rw [(parse_eq_ok_iff.1 h).identifiers_eq] at hname
  obtain ⟨t, ht, rfl⟩ := List.mem_map.1 hname
  obtain ⟨htake, hkind⟩ := List.mem_filter.1 ht
  exact hcolumns t ((List.takeWhile_sublist _).subset htake) (by simpa using hkind)

/-! ## Filters -/

/-- Two filters that differ only in the case of ASCII letters inside words and quantities have
tokens of the same kinds at the same places.  Both are read, as expressions that differ only in the
case of their names, or both are rejected at the same position.  If every identifier has a column,
they are compiled to the same predicate. -/
theorem compile_recased (s s' : String) (hletters : asciiLower s'.toList = asciiLower s.toList)
    (hinside : DifferInside 0 s.toList s'.toList (tokenize s)) :
    (tokenize s').map (fun t => (t.kind, t.span)) = (tokenize s).map (fun t => (t.kind, t.span)) ∧
      ((∃ e e', parse s = .ok e ∧ parse s' = .ok e' ∧ e'.lowerNames = e.lowerNames) ∨
        ∃ r r', parse s = .error r ∧ parse s' = .error r' ∧ r'.position = r.position) ∧
      ∀ columns : ColumnMap,
        (∀ t ∈ tokenize s, t.kind = .identifier → (columns.resolve? t.lexeme).isSome = true) →
        ∀ sql, compile s columns = .ok sql ↔ compile s' columns = .ok sql := by
  have htokens := tokenize_recased hletters hinside
  have hparse := Likeness.parse_alike (L := .recased) htokens
  refine ⟨?_, ?_, ?_⟩
  · rw [← List.forall₂_eq_eq_eq, List.forall₂_map_left_iff, List.forall₂_map_right_iff]
    exact htokens.flip.imp fun _ _ h => Prod.ext h.kind h.span
  · generalize parse s = r, parse s' = r' at hparse
    cases hparse with
    | ok h => exact .inl ⟨_, _, rfl, rfl, h⟩
    | error h => exact .inr ⟨_, _, rfl, rfl, h⟩
  · intro columns hcolumns sql
    have hresolved := fun e (he : parse s = .ok e) => resolved_of_parse he hcolumns
    rw [compile_eq, compile_eq]
    generalize parse s = r, parse s' = r' at hparse hresolved
    cases hparse with
    | @ok e e' h =>
      have hsql : e'.sql columns = e.sql columns :=
        Expr.sql_eq_of_lowerNames_eq h (hresolved e rfl)
      rw [Except.map, Except.map, hsql]
    | error h => exact iff_of_false (fun h => by cases h) (fun h => by cases h)

end

open scoped Pattern.Standard in
/-- The letter before a sigma may be small or capital. -/
theorem compile_recased_sigma :
    let s := "Disk>=1.5Gb And aΣ~/bC/"
    let s' := "dISK>=1.5gB aND AΣ~/bC/"
    let columns := ColumnMap.ofList [("DISK", "t.disk"), ("aς", "t.name")]
    let sql := "((t.disk >= 1536.00) AND regexp_matches(t.name, 'bC'))"
    asciiLower s'.toList = asciiLower s.toList ∧
      DifferInside 0 s.toList s'.toList (tokenize s) ∧
      (∀ t ∈ tokenize s, t.kind = .identifier → (columns.resolve? t.lexeme).isSome = true) ∧
      (tokenize s').map (fun t => (t.kind, t.span)) = (tokenize s).map (fun t => (t.kind, t.span)) ∧
      compile s columns = .ok sql ∧ compile s' columns = .ok sql := by
  intro s s' columns sql
  have hletters : asciiLower s'.toList = asciiLower s.toList := by decide +kernel
  have hinside : DifferInside 0 s.toList s'.toList (tokenize s) := by
    have hbelow : ∀ i < 23, s.toList[i]? ≠ s'.toList[i]? → ∃ t ∈ tokenize s,
        t.kind.IgnoresCase ∧ t.span.start ≤ 0 + byteLength (s.toList.take i) ∧
          0 + byteLength (s.toList.take i) < t.span.stop := by
      decide +kernel
    have hlength : s.toList.length = 23 ∧ s'.toList.length = 23 := by decide +kernel
    intro i hi
    refine hbelow i (Nat.lt_of_not_le fun hle => hi ?_) hi
    rw [List.getElem?_eq_none (hlength.1.trans_le hle),
      List.getElem?_eq_none (hlength.2.trans_le hle)]
  have hcolumns : ∀ t ∈ tokenize s, t.kind = .identifier →
      (columns.resolve? t.lexeme).isSome = true := by
    decide +kernel
  have hsql : compile s columns = .ok sql := eq_ok_of_toOption_eq_some (by decide +kernel)
  obtain ⟨hplaces, _, hcompile⟩ := compile_recased s s' hletters hinside
  exact ⟨hletters, hinside, hcolumns, hplaces, hsql, (hcompile columns hcolumns sql).1 hsql⟩

end InventoryFilter
