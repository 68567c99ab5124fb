import InventoryFilter.Compile
import InventoryFilter.Pattern.Standard
import Mathlib.Data.Finset.Card

set_option autoImplicit false

/-!
# What column maps hold

A column map is made by inserts, one after another.  It holds one column for each lowercase form
that was inserted, that of the last insert with this form, whatever was there before.

Main statement: what a map resolves and how many columns it has can be read off the list of inserts.
Where no two inserts have the same lowercase form, their order makes no difference to any filter.
-/

namespace InventoryFilter

namespace ColumnMap

/-- The key under which an insert is kept. -/
def keyOf (entry : String × String) : String := Text.lowercase entry.1

/-- `Inserts entries m`: the map arises from the empty one by these inserts, the first one first. -/
inductive Inserts : List (String × String) → ColumnMap → Prop
  | empty : Inserts [] .empty
  | insert {entries : List (String × String)} {m : ColumnMap} (h : Inserts entries m)
      (identifier column : String) :
      Inserts (entries ++ [(identifier, column)]) (m.insert identifier column)

/-- The column of the last of the inserts that are kept under the key. -/
def lastColumn? (entries : List (String × String)) (key : String) : Option String :=
  (entries.reverse.find? fun entry => keyOf entry == key).map Prod.snd

/-! ## A single insert -/

theorem lookup_filter_ne {key other : String} (h : key ≠ other) (l : List (String × String)) :
    (l.filter (·.1 != other)).lookup key = l.lookup key := by
  induction l with
  | nil => rfl
  | cons entry l ih =>
    by_cases hentry : entry.1 = other
    · have hne : (key == entry.1) = false := beq_false_of_ne (hentry ▸ h)
      rw [List.filter_cons_of_neg (by simp [hentry]), ih, List.lookup_cons, hne]
    · rw [List.filter_cons_of_pos (by simp [hentry]), List.lookup_cons, List.lookup_cons, ih]

/-- An insert changes the column of its own key only. -/
theorem lookup_insert (m : ColumnMap) (identifier column key : String) :
    (m.insert identifier column).entries.lookup key =
      if Text.lowercase identifier = key then some column else m.entries.lookup key := by
  rw [insert, List.lookup_cons]
  by_cases hkey : Text.lowercase identifier = key
  · simp [hkey]
  · rw [if_neg hkey, beq_false_of_ne (Ne.symm hkey)]
    exact lookup_filter_ne (Ne.symm hkey) m.entries

theorem lastColumn?_concat (entries : List (String × String)) (identifier column key : String) :
    lastColumn? (entries ++ [(identifier, column)]) key =
      if Text.lowercase identifier = key then some column else lastColumn? entries key := by
  rw [lastColumn?, List.reverse_concat]
  by_cases hkey : Text.lowercase identifier = key
  · rw [List.find?_cons_of_pos (by simpa [keyOf] using hkey), if_pos hkey]
    rfl
  · rw [List.find?_cons_of_neg (by simpa [keyOf] using hkey), if_neg hkey, lastColumn?]

/-- What a map holds after the inserts. -/
structure Holds (entries : List (String × String)) (m : ColumnMap) : Prop where
  /-- no key is listed twice -/
  nodup : (m.entries.map Prod.fst).Nodup
  /-- a key has the column of the last insert under it -/
  lookup_eq : ∀ key, m.entries.lookup key = lastColumn? entries key

theorem Holds.empty : Holds [] .empty := ⟨List.nodup_nil, fun _ => rfl⟩

theorem Holds.insert {entries : List (String × String)} {m : ColumnMap} (h : Holds entries m)
    (identifier column : String) :
    Holds (entries ++ [(identifier, column)]) (m.insert identifier column) where
  nodup := by
    have hkept : ((m.entries.filter (·.1 != Text.lowercase identifier)).map Prod.fst).Nodup :=
      h.nodup.sublist (List.filter_sublist.map Prod.fst)
    refine List.nodup_cons.2 ⟨?_, hkept⟩
    simp
  lookup_eq := by
    intro key
    rw [lookup_insert, lastColumn?_concat, h.lookup_eq]

/-! ## Any number of inserts -/

theorem Inserts.holds {entries : List (String × String)} {m : ColumnMap} (h : Inserts entries m) :
    Holds entries m := by
  induction h with
  | empty => exact .empty
  | insert _ identifier column ih => exact ih.insert identifier column

theorem ofList_concat (entries : List (String × String)) (entry : String × String) :
    ofList (entries ++ [entry]) = (ofList entries).insert entry.1 entry.2 := by
  rw [ofList, List.foldl_concat]
  rfl

theorem inserts_ofList (entries : List (String × String)) : Inserts entries (ofList entries) := by
  induction entries using List.reverseRecOn with
  | nil => exact .empty
  | append_singleton entries entry ih =>
    rw [ofList_concat]
    exact ih.insert entry.1 entry.2

/-- A list of entries is inserted one by one. -/
theorem inserts_iff {entries : List (String × String)} {m : ColumnMap} :
    Inserts entries m ↔ m = ofList entries := by
  constructor
  · intro h
    induction h with
    | empty => rfl
    | insert _ identifier column ih => rw [ofList_concat, ih]
  · rintro rfl
    exact inserts_ofList entries

theorem holds_ofList (entries : List (String × String)) : Holds entries (ofList entries) :=
  (inserts_ofList entries).holds

theorem lastColumn?_eq_some_iff {entries : List (String × String)} {key column : String} :
    lastColumn? entries key = some column ↔
      ∃ front identifier rest, entries = front ++ (identifier, column) :: rest ∧
        Text.lowercase identifier = key ∧ ∀ entry ∈ rest, Text.lowercase entry.1 ≠ key := by
  rw [lastColumn?, Option.map_eq_some_iff]
  constructor
  · rintro ⟨⟨identifier, column⟩, hfind, rfl⟩
    obtain ⟨hkey, rest, front, hentries, hrest⟩ := List.find?_eq_some_iff_append.1 hfind
    refine ⟨front.reverse, identifier, rest.reverse, ?_, by simpa [keyOf] using hkey, ?_⟩
    · rw [← List.reverse_reverse entries, hentries]
      simp
    · intro entry hentry
      simpa [keyOf] using hrest entry (List.mem_reverse.1 hentry)
  · rintro ⟨front, identifier, rest, rfl, hkey, hrest⟩
    refine ⟨(identifier, column), List.find?_eq_some_iff_append.2 ⟨by simpa [keyOf] using hkey,
      rest.reverse, front.reverse, by simp, ?_⟩, rfl⟩
    intro entry hentry
    simpa [keyOf] using hrest entry (List.mem_reverse.1 hentry)

theorem lastColumn?_eq_none_iff {entries : List (String × String)} {key : String} :
    lastColumn? entries key = none ↔ ∀ entry ∈ entries, Text.lowercase entry.1 ≠ key := by
  simp [lastColumn?, keyOf]

theorem Holds.mem_keys_iff {entries : List (String × String)} {m : ColumnMap}
    (h : Holds entries m) (key : String) :
    key ∈ m.entries.map Prod.fst ↔ key ∈ entries.map keyOf := by
  have habsent : ∀ (l : List (String × String)) (f : String × String → String),
      key ∉ l.map f ↔ ∀ entry ∈ l, f entry ≠ key := by
    intro l f
    simp only [List.mem_map, not_exists, not_and, ne_eq]
  have hnone : m.entries.lookup key = none ↔ lastColumn? entries key = none := by
    rw [h.lookup_eq]
  rw [List.lookup_eq_none_iff, lastColumn?_eq_none_iff] at hnone
  simp only [bne_iff_ne, ne_comm (a := key)] at hnone
  rw [← not_iff_not, habsent, habsent]
  exact hnone

/-- The number of columns is the number of lowercase forms that were inserted. -/
theorem Holds.size_eq {entries : List (String × String)} {m : ColumnMap} (h : Holds entries m) :
    m.size = (entries.map keyOf).toFinset.card := by
  have hkeys : (m.entries.map Prod.fst).toFinset = (entries.map keyOf).toFinset := by
    ext key
    rw [List.mem_toFinset, List.mem_toFinset, h.mem_keys_iff]
  rw [← hkeys, List.toFinset_card_of_nodup h.nodup, List.length_map]
  rfl

theorem isEmpty_iff (m : ColumnMap) : m.isEmpty = true ↔ m.size = 0 := by
  rw [isEmpty, List.isEmpty_iff, size, List.length_eq_zero_iff]

theorem resolve?_ofList (entries : List (String × String)) (identifier : String) :
    (ofList entries).resolve? identifier = lastColumn? entries (Text.lowercase identifier) :=
  (holds_ofList entries).lookup_eq _

/-! ## The order of inserts -/

/-- Whether the entries leave no choice for the column of an identifier: those with its lowercase
form all have the same column. -/
def Settles (entries : List (String × String)) (identifier : String) : Prop :=
  ∀ p ∈ entries, ∀ q ∈ entries, keyOf p = Text.lowercase identifier →
    keyOf q = Text.lowercase identifier → p.2 = q.2

theorem exists_mem_of_lastColumn? {entries : List (String × String)} {key column : String}
    (h : lastColumn? entries key = some column) :
    ∃ entry ∈ entries, keyOf entry = key ∧ entry.2 = column := by
  obtain ⟨front, identifier, rest, rfl, hkey, -⟩ := lastColumn?_eq_some_iff.1 h
  exact ⟨(identifier, column), by simp, hkey, rfl⟩

/-- Where there is no choice, the order makes no difference. -/
theorem Settles.resolve?_eq {entries l l' : List (String × String)} {identifier : String}
    (h : Settles entries identifier) (hl : l.Perm entries) (hl' : l'.Perm entries) :
    (ofList l).resolve? identifier = (ofList l').resolve? identifier := by
  rw [resolve?_ofList, resolve?_ofList]
  cases hcolumn : lastColumn? l (Text.lowercase identifier) with
  | none =>
    rw [lastColumn?_eq_none_iff] at hcolumn
    refine (lastColumn?_eq_none_iff.2 fun entry hentry => ?_).symm
    exact hcolumn entry (hl.mem_iff.2 (hl'.mem_iff.1 hentry))
  | some column =>
    obtain ⟨p, hp, hkey, rfl⟩ := exists_mem_of_lastColumn? hcolumn
    cases hcolumn' : lastColumn? l' (Text.lowercase identifier) with
    | none =>
      rw [lastColumn?_eq_none_iff] at hcolumn'
      exact absurd hkey (hcolumn' p (hl'.mem_iff.2 (hl.mem_iff.1 hp)))
    | some column' =>
      obtain ⟨q, hq, hkey', rfl⟩ := exists_mem_of_lastColumn? hcolumn'
      exact congrArg some (h p (hl.mem_iff.1 hp) q (hl'.mem_iff.1 hq) hkey hkey')

/-- The order of inserts under different keys makes no difference. -/
theorem resolve?_ofList_of_perm {entries entries' : List (String × String)}
    (h : (entries.map keyOf).Nodup) (hperm : entries'.Perm entries) (identifier : String) :
    (ofList entries').resolve? identifier = (ofList entries).resolve? identifier := by
  have hsettles : Settles entries identifier := by
    intro p hp q hq hkey hkey'
    rw [List.inj_on_of_nodup_map h hp hq (hkey.trans hkey'.symm)]
  exact hsettles.resolve?_eq hperm (.refl _)

end ColumnMap

section

variable [Pattern.Validator]

/-- Rendering looks at nothing but the columns of the identifiers. -/
theorem Expr.sql_congr {columns columns' : ColumnMap} {e : Expr}
    (h : ∀ name ∈ e.identifiers, columns'.resolve? name = columns.resolve? name) :
    e.sql columns' = e.sql columns := by
  induction e with
  | binary l op r ihl ihr =>
    have hleft := ihl fun name hname => h name (List.mem_append_left _ hname)
    have hright := ihr fun name hname => h name (List.mem_append_right _ hname)
    rw [sql, sql, hleft, hright]
  | identifier name => rw [sql, sql, h name (List.mem_singleton.2 rfl)]
  | string s => rfl
  | boolean b => rfl
  | pattern p => rfl
  | quantity q => rfl

open ColumnMap Text in
/-- After any inserts into the empty map, one by one or from a list, an identifier has the column of
the last insert with the same lowercase form, and the map has as many columns as there were
lowercase forms.  If these are all different, the inserts may be reordered: every identifier has the
same column, and every filter compiles to the same result. -/
theorem ColumnMap.ofList_last_insert_wins (entries : List (String × String)) :
    (∀ m, Inserts entries m ↔ m = ofList entries) ∧
    (∀ k column, (ofList entries).resolve? k = some column ↔
      ∃ front identifier rest, entries = front ++ (identifier, column) :: rest ∧
        lowercase identifier = lowercase k ∧
        ∀ entry ∈ rest, lowercase entry.1 ≠ lowercase k) ∧
    (∀ k, (ofList entries).resolve? k = none ↔
      ∀ entry ∈ entries, lowercase entry.1 ≠ lowercase k) ∧
    (ofList entries).size = (entries.map keyOf).toFinset.card ∧
    ((ofList entries).isEmpty = true ↔ (entries.map keyOf).toFinset.card = 0) ∧
    ((entries.map keyOf).Nodup → ∀ entries', entries'.Perm entries →
      (∀ k, (ofList entries').resolve? k = (ofList entries).resolve? k) ∧
        ∀ input, compile input (ofList entries') = compile input (ofList entries)) := by
  have hsize := (holds_ofList entries).size_eq
  refine ⟨fun m => inserts_iff, ?_, ?_, hsize, ?_, ?_⟩
  · intro k column
    rw [resolve?_ofList, lastColumn?_eq_some_iff]
  · intro k
    rw [resolve?_ofList, lastColumn?_eq_none_iff]
  · rw [isEmpty_iff, hsize]
  · intro hnodup entries' hperm
    have hresolve := resolve?_ofList_of_perm hnodup hperm
    refine ⟨hresolve, fun input => ?_⟩
    rw [compile_eq, compile_eq]
    cases parse input with
    | error r => rfl
    | ok e => exact congrArg Except.ok (Expr.sql_congr fun name _ => hresolve name)

end

open scoped Pattern.Standard in
open ColumnMap in
/-- A final sigma is a letter of its own, and a dotted capital I has two letters in lowercase. -/
theorem ColumnMap.ofList_last_insert_wins_sigma :
    let entries := [("ΟΔΟΣ", "a"), ("İD", "b"), ("οδοσ", "c")]
    (entries.map keyOf).Nodup ∧ (ofList entries).size = 3 ∧
      (∀ k, (ofList entries.reverse).resolve? k = (ofList entries).resolve? k) ∧
      (∀ input, compile input (ofList entries.reverse) = compile input (ofList entries)) ∧
      (ofList (entries ++ [("οδος", "d")])).size = 3 ∧
      (ofList (entries ++ [("οδος", "d")])).resolve? "ΟΔΟΣ" = some "d" := by
  intro entries
  obtain ⟨-, -, -, hsize, -, hreorder⟩ := ofList_last_insert_wins entries
  obtain ⟨-, hresolve, -, hsize', -, -⟩ := ofList_last_insert_wins (entries ++ [("οδος", "d")])
  have hnodup : (entries.map keyOf).Nodup := by decide +kernel
  obtain ⟨hsame, hcompile⟩ := hreorder hnodup entries.reverse entries.reverse_perm
  refine ⟨hnodup, ?_, hsame, hcompile, ?_, ?_⟩
  · rw [hsize]
    decide +kernel
  · rw [hsize']
    decide +kernel
  · refine (hresolve "ΟΔΟΣ" "d").2 ⟨entries, "οδος", [], rfl, ?_, by simp⟩
    decide +kernel

end InventoryFilter
