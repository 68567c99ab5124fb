import InventoryFilter.Expr.Outline
import InventoryFilter.Rejection
import InventoryFilter.Text.Pad

set_option autoImplicit false

/-!
# What is reported along the way

An event has a level, a message, and further fields.  A log shows the events from a level on, one
line each.
-/

namespace InventoryFilter

/-- How much an event matters. -/
inductive Level
  | trace
  | debug
  | info
  deriving DecidableEq, Repr, Inhabited

namespace Level

/-- The name of the level. -/
def name : Level → String
  | trace => "TRACE"
  | debug => "DEBUG"
  | info => "INFO"

/-- The place of the level, the least important first. -/
def rank : Level → Nat
  | trace => 0
  | debug => 1
  | info => 2

end Level

variable [Pattern.Validator]

/-- Something that is reported. -/
inductive Event
  /-- a filter is about to be compiled -/
  | compiling (filter : String) (mappedColumns : Nat)
  /-- an identifier has no column -/
  | unmapped (identifier : String)
  /-- a filter has been compiled -/
  | compiled (sql : String)
  /-- a filter has been rejected -/
  | rejected (rejection : Rejection)
  /-- a filter has been read -/
  | parsed (expr : Expr)
  /-- a column map has been loaded -/
  | loaded (mappings : Nat) (file : String)
  /-- no column map has been given -/
  | noColumns
  deriving DecidableEq, Repr

/-- A named part of an event.  Some texts are shown quoted in logs. -/
structure Field where
  name : String
  value : String
  quoted : Bool
  deriving DecidableEq, Repr, Inhabited

namespace Event

/-- The level of an event. -/
def level : Event → Level
  | unmapped _ => .trace
  | loaded _ _ => .info
  | _ => .debug

/-- The message of an event. -/
def message : Event → String
  | compiling _ _ => "compiling filter"
  | unmapped _ => "identifier not in column map, using humanized name"
  | compiled _ => "filter compiled"
  | rejected _ => "filter rejected"
  | parsed e => "parsed " ++ e.outline
  | loaded mappings file =>
    "Loaded " ++ toString mappings ++ " column mappings from " ++ file
  | noColumns => "no column map given, using an empty one"

/-- The further fields of an event. -/
def fields : Event → List Field
  | compiling filter mappedColumns =>
    [⟨"filter", filter, true⟩, ⟨"mapped_columns", toString mappedColumns, false⟩]
  | unmapped identifier => [⟨"identifier", identifier, false⟩]
  | compiled sql => [⟨"sql", sql, false⟩]
  | rejected r => [⟨"position", toString r.position, false⟩, ⟨"error", r.message, false⟩]
  | _ => []

/-- A character of a message as it stands in a log.  Controls that steer a terminal are shown by
their number. -/
def messageChar (c : Char) : List Char :=
  if ['\x07', '\x08', '\x0c', '\x1b', '\x7f'].contains c then
    let digits := Nat.toDigits 16 c.toNat
    '\\' :: 'x' :: List.replicate (2 - digits.length) '0' ++ digits
  else if 0x80 ≤ c.toNat ∧ c.toNat < 0xA0 then Text.codePointEscape c
  else [c]

/-- A message as it stands in a log. -/
def messageText (message : String) : String :=
  String.ofList (message.toList.flatMap messageChar)

/-- A field as it stands in a log. -/
def fieldText (f : Field) : String :=
  " " ++ f.name ++ "=" ++ if f.quoted then Text.quoted f.value else f.value

/-- The line of an event in a log. -/
def logLine (e : Event) : String :=
  Text.pad .right 5 e.level.name ++ " " ++ messageText e.message ++
    String.join (e.fields.map fieldText) ++ "\n"

/-- The log of the events from a level on. -/
def log (least : Level) (events : List Event) : String :=
  String.join ((events.filter fun e => least.rank ≤ e.level.rank).map logLine)

end Event

end InventoryFilter
