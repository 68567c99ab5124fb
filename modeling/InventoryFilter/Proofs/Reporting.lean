import InventoryFilter.Compile
import InventoryFilter.Pattern.Standard
import InventoryFilter.Proofs.Leaves
import InventoryFilter.Proofs.Placement
import Mathlib.Data.List.Nodup

set_option autoImplicit false

/-!
# What is reported about a filter

The reports about identifiers without a column come from rendering the tree of a filter, and the
tree is shaped by the strength of operators and by brackets.  They follow the text of the filter
all the same: one for each such identifier among its tokens, from left to right and as often as it
stands there.
-/

namespace InventoryFilter

/-- Whether the token is an identifier that has no column. -/
def Token.isUnmapped (columns : ColumnMap) (t : Token) : Bool :=
  t.kind == .identifier && (columns.resolve? t.lexeme).isNone

/-- No end of input is an identifier, so that the whole list of tokens may be searched. -/
theorem filter_isUnmapped_takeWhile (columns : ColumnMap) (input : String) :
    ((tokenize input).takeWhile (!·.isFinish)).filter (·.isUnmapped columns) =
      (tokenize input).filter (·.isUnmapped columns) := by
  obtain ⟨tokens, htokens, hopen⟩ := (tiles_tokenize input).eq_append_finishAt
  have hpass : ∀ t ∈ tokens, (!t.isFinish) = true := by
    intro t ht
    simp [Token.isFinish, hopen t ht]
  rw [htokens, List.takeWhile_append_of_pos hpass, List.filter_append, List.filter_append]
  rfl

section

variable [Pattern.Validator]

/-- What is to be seen of an event: its level, its message and its further fields. -/
def Event.shown (e : Event) : Level × String × List (String × String) :=
  (e.level, e.message, e.fields.map fun f => (f.name, f.value))

/-- The identifiers without a column in the tree of a phrase are those among its tokens. -/
theorem Grammar.Derives.unresolved_eq {layer : Nat} {ts : List Token} {e : Expr}
    (h : Derives layer ts e) (columns : ColumnMap) :
    e.unresolved columns = (ts.filter (·.isUnmapped columns)).map (·.lexeme) := by
  rw [Expr.unresolved, h.identifiers_eq, List.filter_map, List.filter_filter]
  congr 2
  funext t
  exact Bool.and_comm _ _

/-- The events of a filter that is accepted are that it is compiled, one trace of each identifier
without a column among its tokens, and the resulting predicate.  Those of a filter that is rejected
are that it is compiled, and the rejection. -/
theorem compileReporting_shown (input : String) (columns : ColumnMap) :
    (∀ e, parse input = .ok e →
      compile input columns = .ok (e.sql columns) ∧
      (compileReporting input columns).events.map Event.shown =
        (.debug, "compiling filter",
          [("filter", input), ("mapped_columns", toString columns.size)]) ::
        (((tokenize input).filter (·.isUnmapped columns)).map fun t =>
          (.trace, "identifier not in column map, using humanized name",
            [("identifier", t.lexeme)])) ++
        [(.debug, "filter compiled", [("sql", e.sql columns)])]) ∧
    ∀ r, parse input = .error r →
      compile input columns = .error r ∧
      (compileReporting input columns).events.map Event.shown =
        [(.debug, "compiling filter",
            [("filter", input), ("mapped_columns", toString columns.size)]),
          (.debug, "filter rejected",
            [("position", toString r.position), ("error", r.message)])] := by
  rw [compile_eq]
  unfold compileReporting
  constructor
  · intro e hparse
    have hnames : e.unresolved columns =
        ((tokenize input).filter (·.isUnmapped columns)).map (·.lexeme) := by
      rw [(parse_eq_ok_iff.1 hparse).unresolved_eq columns, filter_isUnmapped_takeWhile]
    simp only [hparse, e.render_eq columns, hnames, List.map_cons, List.map_append, List.map_map]
    exact ⟨rfl, rfl⟩
  · intro r hparse
    simp only [hparse]
    exact ⟨rfl, rfl⟩

end

open scoped Pattern.Standard in
/-- An identifier is reported as often as it stands in the filter and as it is spelled there, and a
filter that is rejected has none of its identifiers reported. -/
theorem compileReporting_shown_repeated :
    let columns := ColumnMap.ofList [("B", "t.b")]
    let e : Expr := .binary (.binary (.identifier "a") .equal (.identifier "b")) .or
      (.binary (.binary (.identifier "c_d") .less (.identifier "A")) .and (.identifier "a"))
    parse "a = b or (c_d < A and a)" = .ok e ∧
      compile "a = b or (c_d < A and a)" columns =
        .ok "((\"a\" = t.b) OR ((\"c d\" < \"A\") AND \"a\"))" ∧
      (compileReporting "a = b or (c_d < A and a)" columns).events.map Event.shown =
        [(.debug, "compiling filter",
            [("filter", "a = b or (c_d < A and a)"), ("mapped_columns", "1")]),
          (.trace, "identifier not in column map, using humanized name", [("identifier", "a")]),
          (.trace, "identifier not in column map, using humanized name", [("identifier", "c_d")]),
          (.trace, "identifier not in column map, using humanized name", [("identifier", "A")]),
          (.trace, "identifier not in column map, using humanized name", [("identifier", "a")]),
          (.debug, "filter compiled",
            [("sql", "((\"a\" = t.b) OR ((\"c d\" < \"A\") AND \"a\"))")])] ∧
      parse "a < @" = .error ⟨4, .illegal "@"⟩ ∧
      (compileReporting "a < @" columns).events.map Event.shown =
        [(.debug, "compiling filter", [("filter", "a < @"), ("mapped_columns", "1")]),
          (.debug, "filter rejected",
            [("position", "4"), ("error", "unsupported character '@'")])] := by
  intro columns e
  have hparse : parse "a = b or (c_d < A and a)" = .ok e :=
    eq_ok_of_toOption_eq_some (by decide +kernel)
  have herror : parse "a < @" = .error ⟨4, .illegal "@"⟩ :=
    eq_error_of_map_eq_error (f := fun _ => true) (by decide +kernel)
  have hsql : e.sql columns = "((\"a\" = t.b) OR ((\"c d\" < \"A\") AND \"a\"))" := by
    decide +kernel
  obtain ⟨hcompile, hevents⟩ := (compileReporting_shown _ columns).1 e hparse
  obtain ⟨-, hevents'⟩ := (compileReporting_shown _ columns).2 _ herror
  refine ⟨hparse, hcompile.trans (congrArg Except.ok hsql), hevents.trans ?_, herror,
    hevents'.trans ?_⟩
  · decide +kernel
  · decide +kernel

end InventoryFilter
