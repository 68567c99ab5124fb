set_option autoImplicit false

/-!
# The structure of a pattern

What a pattern says, as far as its validity depends on it: matching is not modelled, so the kinds
of assertions and the greed of repetitions leave no trace.
-/

namespace InventoryFilter.Pattern

/-- A switch inside a pattern. -/
inductive Flag
  | caseInsensitive
  | multiLine
  | dotMatchesLineEnd
  | swapGreed
  | unicode
  | crlf
  | freeSpacing
  deriving DecidableEq, Repr, Inhabited

/-- Flags with the value that each is given. -/
abbrev FlagSettings := List (Flag × Bool)

/-- The value that the settings give to a flag, or else its value so far. -/
def FlagSettings.apply (settings : FlagSettings) (flag : Flag) (current : Bool) : Bool :=
  (settings.lookup flag).getD current

/-- The classes with an escape of one letter. -/
inductive Shorthand
  | digit
  | space
  | word
  deriving DecidableEq, Repr, Inhabited

/-- A request for the characters with a property. -/
inductive PropertyQuery
  | named (name : List Char)
  | valued (name value : List Char)
  deriving DecidableEq, Repr, Inhabited

/-- What stands for a single character or position. -/
inductive Atom
  /-- a character; `byte` if it was given by two hexadecimal digits -/
  | literal (c : Char) (byte : Bool)
  | dot
  | assertion
  | shorthand (negated : Bool) (kind : Shorthand)
  | property (negated : Bool) (query : PropertyQuery)
  deriving DecidableEq, Repr, Inhabited

/-- The operators between the two sides of a character class. -/
inductive SetOperator
  | intersection
  | difference
  | symmetricDifference
  deriving DecidableEq, Repr, Inhabited

/-- The contents of a character class. -/
inductive ClassNode
  | empty
  | literal (c : Char) (byte : Bool)
  | range (first : Char) (firstByte : Bool) (last : Char) (lastByte : Bool)
  | posix (negated : Bool)
  | shorthand (negated : Bool) (kind : Shorthand)
  | property (negated : Bool) (query : PropertyQuery)
  | nested (negated : Bool) (body : ClassNode)
  | union (items : List ClassNode)
  | operation (op : SetOperator) (left right : ClassNode)
  deriving Repr, Inhabited

/-- A list of items as the contents of a class. -/
def ClassNode.ofItems : List ClassNode → ClassNode
  | [] => .empty
  | [item] => item
  | items => .union items

/-- A pattern or a part of one. -/
inductive Node
  | empty
  | atom (a : Atom)
  | directive (settings : FlagSettings)
  | bracketed (negated : Bool) (body : ClassNode)
  | repetition (node : Node) (least : Nat) (most : Option Nat)
  | group (capturing : Bool) (settings : FlagSettings) (node : Node)
  | concatenation (nodes : List Node)
  | alternation (branches : List Node)
  deriving Repr, Inhabited

/-- Nodes one after another. -/
def Node.ofSequence : List Node → Node
  | [] => .empty
  | [node] => node
  | nodes => .concatenation nodes

/-- Nodes as alternatives of each other. -/
def Node.ofBranches : List Node → Node
  | [] => .empty
  | [node] => node
  | nodes => .alternation nodes

end InventoryFilter.Pattern
