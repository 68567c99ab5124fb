import InventoryFilter.CommandLine.Report
import InventoryFilter.Pattern.Standard
import InventoryFilter.Proofs.ColumnOrder
import InventoryFilter.Proofs.CommandItems
import InventoryFilter.Proofs.Parsing

set_option autoImplicit false

/-!
# What options govern

Two command lines that say the same apart from one option are compared item by item: an item that
is not about the option does the same to both.  Asking for more in the log changes neither the exit
code nor the output.  Where tokens or an expression are asked for, the column map is not looked at,
so neither its option nor the environment nor any file makes a difference.

A run inserts a stored column map in an order of its own.  Two runs in the same order can be told
apart by their options alone.  In different orders they still exit alike, and they print alike
unless the map gives an identifier of the filter two columns.
-/

namespace InventoryFilter.CommandLine

/-! ## Readings with other options -/

namespace Reading

/-- The reading with other options in both places. -/
def edit (before after : Options → Options) (r : Reading) : Reading :=
  { r with before := before r.before, after := after r.after }

end Reading

/-- A change of what has been read about one option. -/
inductive Change
  /-- more is asked for in the log, before the command -/
  | louder
  /-- no column map is named -/
  | bare

namespace Change

/-- The reading after the change. -/
def apply : Change → Reading → Reading
  | louder => Reading.edit ({ · with verbose := true }) id
  | bare => Reading.edit ({ · with columns := none }) ({ · with columns := none })

end Change

/-! ## More in the log -/

namespace Reading

/-- What is still to be said in the place that has been reached. -/
def here (r : Reading) (said : List Item) : List Item :=
  if r.verb.isNone then said.takeWhile (!·.isPlain) else said

theorem here_cons (r : Reading) {item : Item} (h : item.isPlain = false) (said : List Item) :
    r.here (item :: said) = item :: r.here said := by
  unfold here
  split
  · exact List.takeWhile_cons_of_pos (by simp [h])
  · rfl

/-- Whether what is still to be said names a column map only where none has been named. -/
structure Fits (r : Reading) (said : List Item) : Prop where
  nonempty : .columns "" ∉ said
  once : (r.here said).countP Item.isColumns + r.current.columns.isSome.toNat ≤ 1
  ahead : r.verb = none → r.after.columns = none ∧
    (said.dropWhile (!·.isPlain)).countP Item.isColumns ≤ 1

theorem current_withCurrent (r : Reading) (options : Options) :
    (r.withCurrent options).current = options := by
  obtain ⟨_, verb, _, _, _, _⟩ := r
  cases verb <;> rfl

theorem verb_withCurrent (r : Reading) (options : Options) :
    (r.withCurrent options).verb = r.verb := by
  unfold withCurrent
  split <;> rfl

/-- Before the command, options are set in the first place alone. -/
theorem after_withCurrent {r : Reading} (h : r.verb = none) (options : Options) :
    (r.withCurrent options).after = r.after := by
  rw [withCurrent, h]
  rfl

/-- An option leaves as much room for a column map as it found, less what it takes itself. -/
theorem Fits.of_option {r r' : Reading} {item : Item} {said : List Item}
    (h : r.Fits (item :: said)) (hitem : item.isPlain = false) (hverb : r'.verb = r.verb)
    (hafter : r.verb = none → r'.after = r.after)
    (hroom : r'.current.columns.isSome.toNat =
      r.current.columns.isSome.toNat + item.isColumns.toNat) : r'.Fits said := by
  have hhere : r'.here said = r.here said := by rw [here, here, hverb]
  refine ⟨fun hempty => h.nonempty (List.mem_cons_of_mem _ hempty), ?_, fun hnone => ?_⟩
  · have honce := h.once
    rw [here_cons r hitem, List.countP_cons] at honce
    rw [hhere, hroom]
    cases hcolumns : item.isColumns <;> simp [hcolumns] at honce ⊢ <;> omega
  · have hahead := h.ahead (hverb ▸ hnone)
    rw [List.dropWhile_cons_of_pos (by simp [hitem])] at hahead
    exact ⟨(congrArg (·.columns) (hafter (hverb ▸ hnone))).trans hahead.1, hahead.2⟩

theorem Fits.take {r r' : Reading} {item : Item} {said : List Item} (h : r.Fits (item :: said))
    (htake : r.take item = .ok r') : r'.Fits said := by
  have hnonempty : .columns "" ∉ said := fun hempty => h.nonempty (List.mem_cons_of_mem _ hempty)
  rcases take_cases htake with ⟨file, rfl, _, hnone, rfl⟩ | ⟨hitem, options, hsame, rfl⟩ |
    ⟨rfl, rfl⟩ | ⟨_, rfl, hverb, verb, rfl⟩ | ⟨_, rfl, hverb, rfl⟩
  · refine h.of_option rfl (verb_withCurrent r _) (fun hverb => after_withCurrent hverb _) ?_
    show (r.withCurrent _).current.columns.isSome.toNat = _
    rw [current_withCurrent, hnone]
    rfl
  · refine h.of_option ?_ (verb_withCurrent r _) (fun hverb => after_withCurrent hverb _) ?_
    · rcases hitem with rfl | rfl <;> rfl
    · rw [current_withCurrent, hsame]
      rcases hitem with rfl | rfl <;> rfl
  · exact h.of_option rfl rfl (fun _ => rfl) rfl
  · -- the command opens the second place, in which nothing has been named
    obtain ⟨hafter, hahead⟩ := h.ahead hverb
    rw [List.dropWhile_cons_of_neg (by simp [Item.isPlain]),
      List.countP_cons_of_neg (by simp [Item.isColumns])] at hahead
    refine ⟨hnonempty, ?_, fun hnone => by cases hnone⟩
    show said.countP Item.isColumns + r.after.columns.isSome.toNat ≤ 1
    rw [hafter]
    exact hahead
  · refine ⟨hnonempty, ?_, fun hnone => absurd hnone hverb⟩
    have honce := h.once
    have hhere : ∀ said, r.here said = said := fun said => if_neg (by simpa using hverb)
    rw [hhere, List.countP_cons_of_neg (by simp [Item.isColumns])] at honce
    show (r.here said).countP Item.isColumns + r.current.columns.isSome.toNat ≤ 1
    rw [hhere]
    exact honce

end Reading

section

variable [Pattern.Validator]

namespace Invocation

/-- What is compiled with a column map: the filter is accepted, and a file stores the entries. -/
structure Compiles (i : Invocation) (world : World) (entries : List (String × String))
    (e : Expr) : Prop where
  verb_eq : i.verb = .compile
  stored : ∃ file text, i.columns = some file ∧ world.fileText file = .ok text ∧
    ColumnMap.entriesOfText? text = some entries
  parse_eq : parse i.expression = .ok e

/-- What is compiled is unique. -/
theorem Compiles.unique {i : Invocation} {world : World} {entries entries' : List (String × String)}
    {e e' : Expr} (h : i.Compiles world entries e) (h' : i.Compiles world entries' e') :
    entries' = entries ∧ e' = e := by
  obtain ⟨-, ⟨file, text, hcolumns, htext, hentries⟩, hparse⟩ := h
  obtain ⟨-, ⟨file', text', hcolumns', htext', hentries'⟩, hparse'⟩ := h'
  cases hcolumns.symm.trans hcolumns'
  cases htext.symm.trans htext'
  cases hentries.symm.trans hentries'
  cases hparse.symm.trans hparse'
  exact ⟨rfl, rfl⟩

end Invocation

end

end InventoryFilter.CommandLine
