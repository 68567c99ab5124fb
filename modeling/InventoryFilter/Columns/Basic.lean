import InventoryFilter.Text.Lowercase

set_option autoImplicit false

/-!
# Column maps

A column map says which SQL column an identifier stands for.  Identifiers are compared in lowercase,
and the last entry for an identifier counts.
-/

namespace InventoryFilter

/-- The columns of identifiers, each listed once and in lowercase. -/
structure ColumnMap where
  entries : List (String × String)
  deriving DecidableEq, Repr, Inhabited

namespace ColumnMap

/-- The map that gives no identifier a column. -/
def empty : ColumnMap := ⟨[]⟩

/-- The map with a column for one more identifier, in place of any column it had. -/
def insert (m : ColumnMap) (identifier column : String) : ColumnMap :=
  let key := Text.lowercase identifier
  ⟨(key, column) :: m.entries.filter (·.1 != key)⟩

/-- The map with the entries inserted one after another. -/
def ofList (entries : List (String × String)) : ColumnMap :=
  entries.foldl (fun m entry => m.insert entry.1 entry.2) empty

/-- The column of an identifier. -/
def resolve? (m : ColumnMap) (identifier : String) : Option String :=
  m.entries.lookup (Text.lowercase identifier)

/-- The number of identifiers with a column. -/
def size (m : ColumnMap) : Nat := m.entries.length

/-- Whether no identifier has a column. -/
def isEmpty (m : ColumnMap) : Bool := m.entries.isEmpty

end ColumnMap

end InventoryFilter
