import InventoryFilter.Columns.Basic
import InventoryFilter.Json.Reader

set_option autoImplicit false

/-!
# Reading column maps

A column map is stored as a JSON object that gives each identifier the text of its column.  Its
fields are gathered in a table, which keeps the last of those with exactly the same name, and the
table is inserted in an order of its own.  Which one is not fixed, so that it is left open here: it
shows where two names are the same in lowercase.
-/

namespace InventoryFilter.ColumnMap

/-- An order for the entries of a table, whatever they are. -/
structure Arrangement where
  arrange : List (String × String) → List (String × String)
  perm : ∀ entries, (arrange entries).Perm entries

/-- The order in which the entries are stored. -/
def Arrangement.stored : Arrangement := ⟨id, fun _ => .refl _⟩

/-- The entries of an object whose fields all hold texts. -/
def entriesOfFields? : List (String × Json) → Option (List (String × String))
  | [] => some []
  | (identifier, .string column) :: fields =>
    (entriesOfFields? fields).map ((identifier, column) :: ·)
  | _ :: _ => none

/-- The last of the entries for each identifier, capitals being different from small letters. -/
def lastEntries : List (String × String) → List (String × String)
  | [] => []
  | entry :: entries =>
    if entries.any (·.1 == entry.1) then lastEntries entries else entry :: lastEntries entries

/-- The table of entries that a JSON value stands for. -/
def entriesOfJson? : Json → Option (List (String × String))
  | .object fields => (entriesOfFields? fields).map lastEntries
  | _ => none

/-- The table of entries that a text stores. -/
def entriesOfText? (text : String) : Option (List (String × String)) :=
  (Json.ofText? text).bind entriesOfJson?

/-- The column map that a text stores, with its table inserted in the given order. -/
def ofText? (arrangement : Arrangement) (text : String) : Option ColumnMap :=
  (entriesOfText? text).map fun entries => ofList (arrangement.arrange entries)

end InventoryFilter.ColumnMap
