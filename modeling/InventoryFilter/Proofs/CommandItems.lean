import InventoryFilter.CommandLine.Arguments

set_option autoImplicit false

/-!
# What command lines say

The arguments of a command line say one thing after another: options, some with a value, and
arguments that stand for themselves.  One argument can say several things, and a value can stand in
an argument of its own.  A command line asks for what the things it says ask for, one by one.
-/

namespace InventoryFilter.CommandLine

/-! ## What a command line says -/

/-- One thing that a command line says. -/
inductive Item
  /-- the file of the column map -/
  | columns (file : String)
  /-- a request for more in the log -/
  | verbose
  /-- a request for data -/
  | json
  /-- a request for the usage -/
  | help
  /-- a request for the version, as it is spelled -/
  | version (spelling : String)
  /-- from here on, all arguments stand for themselves -/
  | endOfOptions
  /-- an argument that stands for itself -/
  | plain (argument : String)
  /-- something that is no option, or no complete one -/
  | fault (fault : UsageFault)
  deriving DecidableEq, Repr

namespace Item

/-- Whether the item names the file of the column map. -/
def isColumns : Item → Bool
  | columns _ => true
  | _ => false

/-- Whether the item is an argument that stands for itself. -/
def isPlain : Item → Bool
  | plain _ => true
  | _ => false

/-- The option without a value that has the long name. -/
def flag? (name : String) : Option Item :=
  if name = "verbose" then some verbose
  else if name = "json" then some json
  else if name = "help" then some help
  else if name = "version" then some (version "--version")
  else none

/-- What an option with a long name says, and whether the next argument is its value. -/
def ofLong (name : String) (value : Option String) : List Item × Bool :=
  if name = "columns" then value.elim ([], true) fun file => ([columns file], false)
  else
    let unknown := fault (.unknownOption ("--" ++ name))
    let unneeded := fault (.unneededValue ("--" ++ name))
    ([(flag? name).elim unknown fun flag => if value.isSome then unneeded else flag], false)

/-- What the letters after a hyphen say, and whether the next argument is a value for the last of
them. -/
def ofLetters : List Char → List Item × Bool
  | [] => ([], false)
  | c :: more =>
    if c = 'v' then (verbose :: (ofLetters more).1, (ofLetters more).2)
    else if c = 'c' then
      if more.isEmpty then ([], true)
      else ([columns (String.ofList (if more.head? = some '=' then more.tail else more))], false)
    else if c = 'h' then ([help], false)
    else if c = 'V' then ([version "-V"], false)
    else ([fault (.unknownOption (String.ofList ['-', c]))], false)

/-- What an argument says that goes on with these characters after a hyphen, and whether the next
argument is a value for it. -/
def ofOption (cs : List Char) : List Item × Bool :=
  if cs = ['-'] then ([endOfOptions], false)
  else if cs.head? = some '-' then
    ofLong (Reading.splitValue cs.tail).1 (Reading.splitValue cs.tail).2
  else ofLetters cs

/-- What an argument says, if it is a value that is awaited or if it is not, and whether the next
argument is a value for it.  A hyphen alone is no option. -/
def ofArgument (awaiting : Bool) (argument : String) : List Item × Bool :=
  if argument.toList.head? = some '-' ∧ argument.toList.tail ≠ [] then
    if awaiting then ([fault (.missingValue "--columns")], false)
    else ofOption argument.toList.tail
  else ([if awaiting then columns argument else plain argument], false)

/-- What arguments say, if the first of them is a value that is awaited or if it is not, and whether
a value is awaited after the last of them. -/
def ofArguments : Bool → List String → List Item × Bool
  | awaiting, [] => ([], awaiting)
  | awaiting, argument :: more =>
    let said := ofArgument awaiting argument
    if .endOfOptions ∈ said.1 then (said.1 ++ more.map plain, false)
    else (said.1 ++ (ofArguments said.2 more).1, (ofArguments said.2 more).2)

end Item

/-- What a command line says.  Where it ends before a value, it lacks one. -/
def items (arguments : List String) : List Item :=
  let said := Item.ofArguments false arguments
  if said.2 then said.1 ++ [.fault (.missingValue "--columns")] else said.1

namespace Reading

/-- One more item. -/
def take (r : Reading) : Item → Except Interrupt Reading
  | .columns file => r.setColumns file
  | .verbose => r.setVerbose
  | .json => r.setJson
  | .help => .error .help
  | .version spelling =>
    if r.verb.isNone then .error .version else .error (.fault (.unknownOption spelling))
  | .endOfOptions => .ok { r with literal := true }
  | .plain argument => r.positional argument
  | .fault fault => .error (.fault fault)

/-! ## What one item can do -/

theorem setColumns_eq_ok_iff {r r' : Reading} {file : String} :
    r.setColumns file = .ok r' ↔ file ≠ "" ∧ r.current.columns = none ∧
      r' = { r.withCurrent { r.current with columns := some file } with awaiting := false } := by
  unfold setColumns
  constructor
  · intro h
    split at h
    · cases h
    · next hempty =>
      split at h
      · cases h
      · next hgiven =>
        cases h
        exact ⟨by simpa using hempty, by simpa using hgiven, rfl⟩
  · rintro ⟨hempty, hgiven, rfl⟩
    rw [if_neg (by simpa using hempty), if_neg (by simp [hgiven])]

/-- Whether the place that has been reached has other options now, and no other column map. -/
def Adds (r r' : Reading) : Prop :=
  ∃ options : Options, options.columns = r.current.columns ∧ r' = r.withCurrent options

theorem adds_of_setVerbose {r r' : Reading} (h : r.setVerbose = .ok r') : r.Adds r' := by
  unfold setVerbose at h
  split at h
  · cases h
  · cases h
    exact ⟨{ r.current with verbose := true }, rfl, rfl⟩

theorem adds_of_setJson {r r' : Reading} (h : r.setJson = .ok r') : r.Adds r' := by
  unfold setJson at h
  split at h
  · cases h
  · split at h
    · cases h
    · cases h
      exact ⟨{ r.current with json := true }, rfl, rfl⟩

theorem positional_cases {r r' : Reading} {argument : String}
    (h : r.positional argument = .ok r') :
    (r.verb = none ∧ ∃ verb, r' = { r with verb := some verb }) ∨
      (r.verb ≠ none ∧ r' = { r with expression := some argument }) := by
  unfold positional at h
  split at h
  · next hverb =>
    split at h
    · cases h
    · split at h
      · cases h
      · split at h
        · cases h
          exact .inl ⟨hverb, _, rfl⟩
        · cases h
  · next hverb =>
    split at h
    · cases h
    · cases h
      exact .inr ⟨by simp [hverb], rfl⟩

/-- What an item that is accepted does to a reading. -/
theorem take_cases {r r' : Reading} {item : Item} (h : r.take item = .ok r') :
    (∃ file, item = .columns file ∧ file ≠ "" ∧ r.current.columns = none ∧
      r' = { r.withCurrent { r.current with columns := some file } with awaiting := false }) ∨
    ((item = .verbose ∨ item = .json) ∧ r.Adds r') ∨
    (item = .endOfOptions ∧ r' = { r with literal := true }) ∨
    (∃ argument, item = .plain argument ∧ r.verb = none ∧
      ∃ verb, r' = { r with verb := some verb }) ∨
    ∃ argument, item = .plain argument ∧ r.verb ≠ none ∧
      r' = { r with expression := some argument } := by
  cases item with
  | columns file => exact .inl ⟨file, rfl, setColumns_eq_ok_iff.1 h⟩
  | verbose => exact .inr (.inl ⟨.inl rfl, adds_of_setVerbose h⟩)
  | json => exact .inr (.inl ⟨.inr rfl, adds_of_setJson h⟩)
  | help => cases h
  | version spelling =>
    simp only [take] at h
    split at h <;> cases h
  | endOfOptions =>
    cases h
    exact .inr (.inr (.inl ⟨rfl, rfl⟩))
  | plain argument =>
    rcases positional_cases h with ⟨hverb, hr'⟩ | ⟨hverb, hr'⟩
    · exact .inr (.inr (.inr (.inl ⟨argument, rfl, hverb, hr'⟩)))
    · exact .inr (.inr (.inr (.inr ⟨argument, rfl, hverb, hr'⟩)))
  | fault f => cases h

theorem awaiting_withCurrent (r : Reading) (options : Options) :
    (r.withCurrent options).awaiting = r.awaiting := by
  unfold withCurrent
  split <;> rfl

theorem literal_withCurrent (r : Reading) (options : Options) :
    (r.withCurrent options).literal = r.literal := by
  unfold withCurrent
  split <;> rfl

/-- An item comes with its value, so no value is awaited after it. -/
theorem awaiting_take {r r' : Reading} {item : Item} (h : r.awaiting = false)
    (htake : r.take item = .ok r') : r'.awaiting = false := by
  rcases take_cases htake with ⟨file, _, _, _, rfl⟩ | ⟨_, options, _, rfl⟩ | ⟨_, rfl⟩ |
    ⟨_, _, _, verb, rfl⟩ | ⟨_, _, _, rfl⟩
  · rfl
  · exact (awaiting_withCurrent r options).trans h
  · exact h
  · exact h
  · exact h

/-- Only the end of the options ends them. -/
theorem literal_take {r r' : Reading} {item : Item} (hitem : item ≠ .endOfOptions)
    (htake : r.take item = .ok r') : r'.literal = r.literal := by
  rcases take_cases htake with ⟨file, _, _, _, rfl⟩ | ⟨_, options, _, rfl⟩ | ⟨hend, _⟩ |
    ⟨_, _, _, verb, rfl⟩ | ⟨_, _, _, rfl⟩
  · exact literal_withCurrent r _
  · exact literal_withCurrent r options
  · exact absurd hend hitem
  · rfl
  · rfl

/-- Whether the next argument can be an option. -/
structure Open (r : Reading) : Prop where
  awaiting : r.awaiting = false
  literal : r.literal = false

theorem Open.take {r r' : Reading} {item : Item} (h : r.Open) (hitem : item ≠ .endOfOptions)
    (htake : r.take item = .ok r') : r'.Open :=
  ⟨awaiting_take h.awaiting htake, (literal_take hitem htake).trans h.literal⟩

/-! ## Reading item by item -/

end Reading

end InventoryFilter.CommandLine
