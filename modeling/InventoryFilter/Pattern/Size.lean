import InventoryFilter.Pattern.Tree

set_option autoImplicit false

/-!
# How large a pattern is

The size of a pattern is that of the state machine that would match it, in bytes.  A counted
repetition takes as many copies of what it repeats as it counts, which is what makes patterns
large.  Something that matches only the empty text is not copied: repeating it changes nothing.  A
class of characters takes far more states than the same class of bytes, so the Unicode flag is
followed from left to right.
-/

namespace InventoryFilter.Pattern

/-- The size of one state. -/
def stateSize : Nat := 32

/-- The size of the states for a class of single bytes. -/
def byteClassSize : Nat := 2 * stateSize

/-- The size of the states for a class of one letter, or for its complement. -/
def Shorthand.size (unicode : Bool) (kind : Shorthand) : Nat :=
  if unicode then
    match kind with
    | .digit => 2200
    | .space => 800
    | .word => 46000
  else byteClassSize

/-- The size of the states for an average property. -/
def propertySize : Nat := 20000

/-- The size of the states for an arbitrary character. -/
def dotSize : Nat := 380

/-- The size of the states for an atom. -/
def Atom.size (unicode : Bool) : Atom → Nat
  | .literal c _ => stateSize * c.utf8Size
  | .dot => dotSize
  | .assertion => stateSize
  | .shorthand _ kind => kind.size unicode
  | .property _ _ => propertySize

mutual

/-- The size of the states for the contents of a class. -/
def ClassNode.size (unicode : Bool) : ClassNode → Nat
  | .empty => 0
  | .literal c _ => 8 * c.utf8Size
  | .range first _ last _ => 8 * (first.utf8Size + last.utf8Size)
  | .posix _ => stateSize
  | .shorthand _ kind => kind.size unicode
  | .property _ _ => propertySize
  | .nested negated body => body.size unicode + if negated then dotSize else 0
  | .union items => ClassNode.sizeOfAll unicode items
  | .operation _ left right => left.size unicode + right.size unicode

/-- The size of the states for all items. -/
def ClassNode.sizeOfAll (unicode : Bool) : List ClassNode → Nat
  | [] => 0
  | item :: items => item.size unicode + ClassNode.sizeOfAll unicode items

end

mutual

/-- Whether the node can match nothing but the empty text. -/
def Node.isWeightless : Node → Bool
  | .empty | .directive _ => true
  | .atom a => a == .assertion
  | .bracketed _ _ => false
  | .repetition node _ most => most == some 0 || node.isWeightless
  | .group _ _ node => node.isWeightless
  | .concatenation nodes => Node.allWeightless nodes
  | .alternation branches => Node.allWeightless branches

/-- Whether all nodes can match nothing but the empty text. -/
def Node.allWeightless : List Node → Bool
  | [] => true
  | node :: nodes => node.isWeightless && Node.allWeightless nodes

end

/-- The size of a repetition of something of the given size. -/
def repeatedSize (size least : Nat) : Option Nat → Nat
  | none => max least 1 * size + 2 * stateSize
  | some most => most * size + (most - least + 1) * stateSize

mutual

/-- The size of the states for a node under the given value of the Unicode flag, and the value
after it. -/
def Node.measure (unicode : Bool) : Node → Nat × Bool
  | .empty => (stateSize, unicode)
  | .atom a => (a.size unicode, unicode)
  | .directive settings => (stateSize, settings.apply .unicode unicode)
  | .bracketed negated body =>
    (body.size unicode + if negated then dotSize else stateSize, unicode)
  | .repetition node least most =>
    let (size, after) := node.measure unicode
    (if node.isWeightless then size + 2 * stateSize else repeatedSize size least most, after)
  | .group _ settings node =>
    ((node.measure (settings.apply .unicode unicode)).1 + 2 * stateSize, unicode)
  | .concatenation nodes => Node.measureAll unicode nodes
  | .alternation branches =>
    let (size, after) := Node.measureAll unicode branches
    (size + 2 * stateSize, after)

/-- The size of the states for all nodes from left to right, and the flag after them. -/
def Node.measureAll (unicode : Bool) : List Node → Nat × Bool
  | [] => (0, unicode)
  | node :: nodes =>
    let (size, next) := node.measure unicode
    let (more, after) := Node.measureAll next nodes
    (size + more, after)

end

/-- The size of the states for a whole pattern. -/
def Node.size (node : Node) : Nat := (node.measure true).1

end InventoryFilter.Pattern
