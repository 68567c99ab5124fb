import InventoryFilter.Pattern.Fault
import InventoryFilter.Pattern.PropertyNames
import InventoryFilter.Pattern.Tree

set_option autoImplicit false

/-!
# Properties by name

Names of properties and of their values are compared loosely: case, spaces, underscores and hyphens
do not count, nor does a leading `is`, nor any character beyond ASCII.
-/

namespace InventoryFilter.Pattern

/-- The name without a leading `is` in any case, and whether it had one. -/
def dropIs : List Char → List Char × Bool
  | a :: b :: rest =>
    if a.toLower = 'i' ∧ b.toLower = 's' then (rest, true) else (a :: b :: rest, false)
  | cs => (cs, false)

/-- The form in which names are compared.  The abbreviation `isc` keeps its first two letters, for
it is not the name `c` after an `is`. -/
def normalName (name : List Char) : String :=
  let (name, hadIs) := dropIs name
  let kept := name.filter fun c => c.toNat < 128 && c != ' ' && c != '_' && c != '-'
  let lower := kept.map Char.toLower
  if hadIs && lower == ['c'] then "isc" else String.ofList lower

/-- A value that must be one of the given names. -/
def requireValue (values : List String) (value : String) : Except Fault Unit :=
  if values.contains value then .ok () else .error .propertyValueUnknown

/-- The values of the properties that a pattern can ask for by value. -/
def propertyValues? (name : String) : Option (List String) :=
  if name = "gc" ∨ name = "generalcategory" then some generalCategories
  else if ["sc", "script", "scx", "scriptextensions"].contains name then some scripts
  else if name = "age" then some ages
  else if name = "gcb" ∨ name = "graphemeclusterbreak" then some graphemeBreaks
  else if name = "wb" ∨ name = "wordbreak" then some wordBreaks
  else if name = "sb" ∨ name = "sentencebreak" then some sentenceBreaks
  else none

/-- Whether the property asked for exists, and has the value asked for.  A name on its own is a
property without values, a general category or a script. -/
def PropertyQuery.resolve : PropertyQuery → Except Fault Unit
  | .named name =>
    let name := normalName name
    if (binaryProperties ++ generalCategories ++ scripts).contains name then .ok ()
    else if (emptyCategories ++ emptyScripts).contains name then .error .propertyValueUnknown
    else .error .propertyUnknown
  | .valued name value =>
    let name := normalName name
    match propertyValues? name with
    | some values => requireValue values (normalName value)
    | none =>
      if (binaryProperties ++ otherProperties).contains name then .error .propertyValueUnknown
      else .error .propertyUnknown

end InventoryFilter.Pattern
