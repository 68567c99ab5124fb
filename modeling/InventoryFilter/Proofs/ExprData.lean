import InventoryFilter.Expr.Data
import InventoryFilter.Pattern.Standard
import InventoryFilter.Proofs.JsonText
import InventoryFilter.Proofs.RoundTrip

set_option autoImplicit false

/-!
# Expressions read back from their data

Main statement: the JSON text of an expression whose quantities are all finite is read as exactly
that expression, and is the text of no other such expression.  Texts, identifiers and patterns stay
apart even where they are spelled alike, and numbers come back with their sign and their rank.
-/

namespace InventoryFilter.Expr

/-- A finite number is written as a decimal that is read as that number, however it is spelled. -/
theorem exists_respelled_numberData {x : Binary64} (h : x.isFinite = true) :
    ∃ d, (numberData x).respelled = .number d ∧ Binary64.ofDecimal d = x := by
  obtain ⟨d, hshortest, hread⟩ := Binary64.exists_shortest? .toEven h
  refine ⟨d.respelled Json.numberLayout, ?_, ?_⟩
  · simp only [numberData, hshortest, Json.respelled]
  · rw [Decimal.ofDecimal_respelled, hread]

section

variable [Pattern.Validator]

/-- Spelling the numbers of its data does not change which expression is read from them. -/
theorem ofData?_respelled_toData {e : Expr}
    (hfinite : ∀ q ∈ e.quantities, q.value.isFinite = true) :
    ofData? e.toData.respelled = some e := by
  induction e with
  | binary l op r ihl ihr =>
    have hleft := ihl fun q hq => hfinite q (List.mem_append_left _ hq)
    have hright := ihr fun q hq => hfinite q (List.mem_append_right _ hq)
    simp [toData, Json.respelled, Json.respelledFields, ofData?, hleft, hright,
      Operator.ofName?_name]
  | string s => simp [toData, Json.respelled, Json.respelledFields, ofData?]
  | identifier name => simp [toData, Json.respelled, Json.respelledFields, ofData?]
  | boolean b => simp [toData, Json.respelled, Json.respelledFields, ofData?]
  | pattern p =>
    have hread : Pattern.ofText p.text = .ok p := Pattern.ofText_eq_ok_iff.2 rfl
    simp [toData, Json.respelled, Json.respelledFields, ofData?, hread, Except.toOption]
  | quantity q =>
    obtain ⟨d, hspelled, hvalue⟩ :=
      exists_respelled_numberData (hfinite q (List.mem_singleton_self q))
    simp [toData, Json.respelled, Json.respelledFields, ofData?, hspelled, hvalue,
      StorageUnit.ofName?_name]

/-- The text of an expression with finite quantities is read as that expression. -/
theorem ofText?_toData {e : Expr} (hfinite : ∀ q ∈ e.quantities, q.value.isFinite = true) :
    (Json.ofText? e.toData.compact).bind ofData? = some e := by
  rw [Json.ofText?_compact]
  exact ofData?_respelled_toData hfinite

/-- The text of an expression with finite quantities says which expression it is: it is read as that
expression, and it is the text of no other expression with finite quantities. -/
theorem toData_compact_faithful (e : Expr)
    (hfinite : ∀ q ∈ e.quantities, q.value.isFinite = true) :
    (Json.ofText? e.toData.compact).bind ofData? = some e ∧
      ∀ other : Expr, (∀ q ∈ other.quantities, q.value.isFinite = true) →
        (other.toData.compact = e.toData.compact ↔ other = e) := by
  have hread := ofText?_toData hfinite
  refine ⟨hread, fun other hother => ⟨fun htext => ?_, fun h => by rw [h]⟩⟩
  have hreadOther := ofText?_toData hother
  rw [htext, hread] at hreadOther
  exact (Option.some.inj hreadOther).symm

end

open scoped Pattern.Standard in
/-- Quotes, control characters and a negative zero come back, and a text is not taken for the
identifier that is spelled like it. -/
theorem toData_compact_faithful_quoted :
    let amount : Expr := quantity ⟨.finite true ⟨0, by decide⟩, .terabyte⟩
    let e : Expr := binary (identifier "\"\n\x00\\") .equal amount
    let other : Expr := binary (string "\"\n\x00\\") .equal amount
    (∀ q ∈ e.quantities, q.value.isFinite = true) ∧
      (∀ q ∈ other.quantities, q.value.isFinite = true) ∧
      (Json.ofText? e.toData.compact).bind ofData? = some e ∧
      other.toData.compact ≠ e.toData.compact := by
  intro amount e other
  have he : ∀ q ∈ e.quantities, q.value.isFinite = true := by
    rintro q (_ | ⟨_, ⟨⟩⟩)
    rfl
  have hother : ∀ q ∈ other.quantities, q.value.isFinite = true := by
    rintro q (_ | ⟨_, ⟨⟩⟩)
    rfl
  obtain ⟨hread, honly⟩ := toData_compact_faithful e he
  have hne : other ≠ e := by simp [e, other]
  exact ⟨he, hother, hread, fun htext => hne ((honly other hother).1 htext)⟩

end InventoryFilter.Expr
