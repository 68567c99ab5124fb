import InventoryFilter.Pattern.Tree

set_option autoImplicit false

/-!
# How deep a pattern nests

Groups, classes, repetitions, alternatives and sequences each add a level, and so do, inside a
class, further classes, several items together, and operators.
-/

namespace InventoryFilter.Pattern

mutual

/-- The greatest number of levels inside the contents of a class. -/
def ClassNode.depth : ClassNode → Nat
  | .empty | .literal _ _ | .range _ _ _ _ | .posix _ | .shorthand _ _ | .property _ _ => 0
  | .nested _ body => body.depth + 1
  | .union items => ClassNode.depthOfAll items + 1
  | .operation _ left right => max left.depth right.depth + 1

/-- The greatest number of levels inside any of the items. -/
def ClassNode.depthOfAll : List ClassNode → Nat
  | [] => 0
  | item :: items => max item.depth (ClassNode.depthOfAll items)

end

mutual

/-- The greatest number of levels inside a node. -/
def Node.depth : Node → Nat
  | .empty | .atom _ | .directive _ => 0
  | .bracketed _ body => body.depth + 1
  | .repetition node _ _ => node.depth + 1
  | .group _ _ node => node.depth + 1
  | .concatenation nodes => Node.depthOfAll nodes + 1
  | .alternation branches => Node.depthOfAll branches + 1

/-- The greatest number of levels inside any of the nodes. -/
def Node.depthOfAll : List Node → Nat
  | [] => 0
  | node :: nodes => max node.depth (Node.depthOfAll nodes)

end

end InventoryFilter.Pattern
