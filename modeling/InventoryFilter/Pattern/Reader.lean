import InventoryFilter.Pattern.Bracketed
import InventoryFilter.Pattern.Group
import InventoryFilter.Pattern.Repetition

set_option autoImplicit false

/-!
# Reading a pattern

The reader builds the tree of a pattern from left to right and stops at the first fault in its
spelling.
-/

namespace InventoryFilter.Pattern

/-- What the reader knows at a place in the pattern. -/
structure Context where
  /-- whether blanks and comments do not count -/
  spaced : Bool
  /-- the names of the groups so far -/
  names : List (List Char)
  deriving DecidableEq, Repr, Inhabited

/-- The branches, the last one first, together with the branch that has just ended, whose nodes
are given the last one first. -/
def closeBranches (branches : List Node) (nodes : List Node) : Node :=
  .ofBranches (Node.ofSequence nodes.reverse :: branches).reverse

/-- A single character that begins neither a group nor a class nor a repetition, given apart from
the rest of the text. -/
def readAtom (spaced : Bool) (c : Char) (rest : List Char) : Except Fault (Atom × List Char) :=
  if c = '\\' then readEscape spaced rest
  else if c = '.' then .ok (.dot, rest)
  else if c = '^' || c = '$' then .ok (.assertion, rest)
  else .ok (.literal c false, rest)

/-- The rest of a group, or of the whole pattern, given its branches and the nodes of its last
branch so far, in both cases the last one first.  Each step takes at least one character, so fuel
beyond the length of the text is never used up. -/
def readBody (inGroup : Bool) :
    Nat → Context → List Node → List Node → List Char →
      Except Fault ((Node × List (List Char)) × List Char)
  | 0, _, _, _, _ => .error .groupUnclosed
  | fuel + 1, context, branches, nodes, cs =>
    match skipSpacing context.spaced cs with
    | [] =>
      if inGroup then .error .groupUnclosed
      else .ok ((closeBranches branches nodes, context.names), [])
    | '(' :: rest =>
      match readOpening context.spaced context.names rest with
      | .error fault => .error fault
      | .ok (.directive settings, rest) =>
        let context := { context with spaced := settings.apply .freeSpacing context.spaced }
        readBody inGroup fuel context branches (.directive settings :: nodes) rest
      | .ok (start, rest) =>
        let settings : FlagSettings := match start with | .plain settings => settings | _ => []
        let names := match start with | .named name => name :: context.names | _ => context.names
        let capturing := match start with | .plain _ => false | _ => true
        let inner : Context := ⟨settings.apply .freeSpacing context.spaced, names⟩
        match readBody true fuel inner [] [] rest with
        | .error fault => .error fault
        | .ok ((node, names), rest) =>
          readBody inGroup fuel { context with names } branches
            (.group capturing settings node :: nodes) rest
    | ')' :: rest =>
      if inGroup then .ok ((closeBranches branches nodes, context.names), rest)
      else .error .groupUnopened
    | '|' :: rest =>
      readBody inGroup fuel context (.ofSequence nodes.reverse :: branches) [] rest
    | '[' :: rest =>
      match readBracketed context.spaced rest with
      | .error fault => .error fault
      | .ok ((negated, inner), rest) =>
        readBody inGroup fuel context branches (.bracketed negated inner :: nodes) rest
    | '\x7b' :: rest =>
      match lastRepeatable nodes with
      | .error fault => .error fault
      | .ok (node, before) =>
        match readCounted context.spaced rest with
        | .error fault => .error fault
        | .ok (bounds, rest) =>
          readBody inGroup fuel context branches (node.repeated bounds :: before) rest
    | c :: rest =>
      match Bounds.ofChar? c with
      | some bounds =>
        match lastRepeatable nodes with
        | .error fault => .error fault
        | .ok (node, before) =>
          readBody inGroup fuel context branches (node.repeated bounds :: before) (dropLazy rest)
      | none =>
        match readAtom context.spaced c rest with
        | .error fault => .error fault
        | .ok (a, rest) => readBody inGroup fuel context branches (.atom a :: nodes) rest

/-- The tree of a pattern. -/
def Node.ofText (text : List Char) : Except Fault Node := do
  let ((node, _), _) ← readBody false (text.length + 1) ⟨false, []⟩ [] [] text
  .ok node

end InventoryFilter.Pattern
