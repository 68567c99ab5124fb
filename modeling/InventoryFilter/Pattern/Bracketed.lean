import InventoryFilter.Pattern.Escape

set_option autoImplicit false

/-!
# Character classes

A class stands between square brackets.  It holds characters, ranges, escapes, named classes and
further classes, and operators that combine all that stands before them with what follows up to the
next operator.
-/

namespace InventoryFilter.Pattern

/-- The names of classes that may stand between `[:` and `:]`. -/
def posixNames : List String :=
  ["alnum", "alpha", "ascii", "blank", "cntrl", "digit", "graph", "lower", "print", "punct",
   "space", "upper", "word", "xdigit"]

/-- A named class, after its opening bracket, if one stands there. -/
def posixClass? : List Char → Option (ClassNode × List Char)
  | ':' :: cs =>
    let (negated, cs) : Bool × List Char :=
      match cs with
      | '^' :: cs => (true, cs)
      | cs => (false, cs)
    match cs.span (· ≠ ':') with
    | (name, ':' :: ']' :: rest) =>
      if posixNames.contains (String.ofList name) then some (.posix negated, rest) else none
    | _ => none
  | _ => none

/-- The beginning of a class, after its opening bracket: whether it is a complement, the hyphens
that stand for themselves, and a closing bracket that does so because it comes first. -/
def readClassOpening (spaced : Bool) (cs : List Char) :
    Except Fault ((Bool × List ClassNode) × List Char) := do
  let (negated, cs) : Bool × List Char :=
    match skipSpacing spaced cs with
    | '^' :: cs => (true, skipSpacing spaced cs)
    | cs => (false, cs)
  match spanSpaced spaced (· = '-') false cs with
  | (_, []) => .error .classUnclosed
  | ([], ']' :: rest) =>
    match skipSpacing spaced rest with
    | [] => .error .classUnclosed
    | rest => .ok ((negated, [.literal ']' false]), rest)
  | (hyphens, rest) => .ok ((negated, hyphens.map (.literal · false)), rest)

/-- A character or an escape, whose first character is given apart. -/
def readClassAtom (spaced : Bool) (c : Char) (rest : List Char) : Except Fault (Atom × List Char) :=
  if c = '\\' then readEscape spaced rest else .ok (.literal c false, rest)

/-- An atom as an item of a class. -/
def Atom.toItem : Atom → Except Fault ClassNode
  | .literal c byte => .ok (.literal c byte)
  | .shorthand negated kind => .ok (.shorthand negated kind)
  | .property negated query => .ok (.property negated query)
  | .dot | .assertion => .error .classEscape

/-- Two atoms as the ends of a range. -/
def Atom.toRange : Atom → Atom → Except Fault ClassNode
  | .literal first firstByte, .literal last lastByte =>
    if first ≤ last then .ok (.range first firstByte last lastByte) else .error .rangeReversed
  | _, _ => .error .rangeBoundary

/-- A single item or a range, whose first character is given apart.  A hyphen makes a range unless
a closing bracket or another hyphen follows it. -/
def readClassRange (spaced : Bool) (c : Char) (rest : List Char) :
    Except Fault (ClassNode × List Char) := do
  let (first, rest) ← readClassAtom spaced c rest
  match skipSpacing spaced rest with
  | [] => .error .classUnclosed
  | '-' :: after =>
    if peekSpaced spaced after = some ']' ∨ peekSpaced spaced after = some '-' then do
      let item ← first.toItem
      .ok (item, '-' :: after)
    else
      match skipSpacing spaced after with
      | [] => .error .classUnclosed
      | d :: rest => do
        let (last, rest) ← readClassAtom spaced d rest
        let item ← first.toRange last
        .ok (item, rest)
  | rest => do
    let item ← first.toItem
    .ok (item, rest)

/-- The side of an operator that has just ended, joined with what stands before it. -/
def closeSide (pending : Option (SetOperator × ClassNode)) (items : List ClassNode) : ClassNode :=
  match pending with
  | none => .ofItems items.reverse
  | some (op, left) => .operation op left (.ofItems items.reverse)

/-- The operator at the beginning of the text, if there is one. -/
def setOperator? : List Char → Option (SetOperator × List Char)
  | '&' :: '&' :: rest => some (.intersection, rest)
  | '-' :: '-' :: rest => some (.difference, rest)
  | '~' :: '~' :: rest => some (.symmetricDifference, rest)
  | _ => none

/-- The rest of a class up to and with its closing bracket, given the operator that waits for its
right side and the items of that side so far, the last one first.  Each step takes at least one
character, so fuel beyond the length of the text is never used up. -/
def readClassBody (spaced : Bool) :
    Nat → Option (SetOperator × ClassNode) → List ClassNode → List Char →
      Except Fault (ClassNode × List Char)
  | 0, _, _, _ => .error .classUnclosed
  | fuel + 1, pending, items, cs =>
    match skipSpacing spaced cs with
    | [] => .error .classUnclosed
    | '[' :: rest =>
      match posixClass? rest with
      | some (item, rest) => readClassBody spaced fuel pending (item :: items) rest
      | none =>
        match readClassOpening spaced rest with
        | .error fault => .error fault
        | .ok ((negated, first), rest) =>
          match readClassBody spaced fuel none first.reverse rest with
          | .error fault => .error fault
          | .ok (body, rest) =>
            readClassBody spaced fuel pending (.nested negated body :: items) rest
    | ']' :: rest => .ok (closeSide pending items, rest)
    | c :: rest =>
      match setOperator? (c :: rest) with
      | some (op, rest) => readClassBody spaced fuel (some (op, closeSide pending items)) [] rest
      | none =>
        match readClassRange spaced c rest with
        | .error fault => .error fault
        | .ok (item, rest) => readClassBody spaced fuel pending (item :: items) rest

/-- A whole class, after its opening bracket. -/
def readBracketed (spaced : Bool) (cs : List Char) :
    Except Fault ((Bool × ClassNode) × List Char) := do
  let ((negated, first), rest) ← readClassOpening spaced cs
  let (body, rest) ← readClassBody spaced (rest.length + 1) none first.reverse rest
  .ok ((negated, body), rest)

end InventoryFilter.Pattern
