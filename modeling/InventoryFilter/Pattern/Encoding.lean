import InventoryFilter.Pattern.Property

set_option autoImplicit false

/-!
# Characters and bytes

With the Unicode flag off, a pattern speaks of bytes.  It may then neither ask for properties of
characters nor match bytes that are only a part of a character.  With the flag on, the properties
that it asks for must exist.  The flag changes from left to right, and a group gives back the value
that it found.
-/

namespace InventoryFilter.Pattern

/-- Whether the character is encoded in one byte. -/
def isSingleByte (c : Char) : Bool := c.toNat < 128

/-- A fault unless the pattern speaks of characters. -/
def requireUnicode (unicode : Bool) (fault : Fault) : Except Fault Unit :=
  if unicode then .ok () else .error fault

/-- A complement in terms of bytes includes parts of characters. -/
def checkComplement (unicode negated : Bool) : Except Fault Unit :=
  if negated then requireUnicode unicode .invalidText else .ok ()

/-- A property needs characters to apply to, and must exist. -/
def checkProperty (unicode : Bool) (query : PropertyQuery) : Except Fault Unit := do
  requireUnicode unicode .unicodeNotAllowed
  query.resolve

/-- An atom on its own. -/
def Atom.check (unicode : Bool) : Atom → Except Fault Unit
  | .literal c byte =>
    if byte && !isSingleByte c then requireUnicode unicode .invalidText else .ok ()
  | .dot => requireUnicode unicode .invalidText
  | .assertion => .ok ()
  | .shorthand negated _ => checkComplement unicode negated
  | .property _ query => checkProperty unicode query

/-- A character in a class. -/
def checkMember (unicode : Bool) (c : Char) (byte : Bool) : Except Fault Unit :=
  if isSingleByte c then .ok ()
  else requireUnicode unicode (if byte then .invalidText else .unicodeNotAllowed)

mutual

/-- The contents of a class, from left to right. -/
def ClassNode.check (unicode : Bool) : ClassNode → Except Fault Unit
  | .empty => .ok ()
  | .literal c byte => checkMember unicode c byte
  | .range first firstByte last lastByte => do
    checkMember unicode first firstByte
    checkMember unicode last lastByte
  | .posix negated => checkComplement unicode negated
  | .shorthand negated _ => checkComplement unicode negated
  | .property _ query => checkProperty unicode query
  | .nested negated body => do
    body.check unicode
    checkComplement unicode negated
  | .union items => ClassNode.checkAll unicode items
  | .operation _ left right => do
    left.check unicode
    right.check unicode

/-- The items of a class, from left to right. -/
def ClassNode.checkAll (unicode : Bool) : List ClassNode → Except Fault Unit
  | [] => .ok ()
  | item :: items => do
    item.check unicode
    ClassNode.checkAll unicode items

end

mutual

/-- A node under the given value of the Unicode flag; the result is the value after it. -/
def Node.check (unicode : Bool) : Node → Except Fault Bool
  | .empty => .ok unicode
  | .atom a => do
    a.check unicode
    .ok unicode
  | .directive settings => .ok (settings.apply .unicode unicode)
  | .bracketed negated body => do
    body.check unicode
    checkComplement unicode negated
    .ok unicode
  | .repetition node _ _ => node.check unicode
  | .group _ settings node => do
    let _ ← node.check (settings.apply .unicode unicode)
    .ok unicode
  | .concatenation nodes => Node.checkAll unicode nodes
  | .alternation branches => Node.checkAll unicode branches

/-- The nodes from left to right. -/
def Node.checkAll (unicode : Bool) : List Node → Except Fault Bool
  | [] => .ok unicode
  | node :: nodes => do
    let unicode ← node.check unicode
    Node.checkAll unicode nodes

end

end InventoryFilter.Pattern
