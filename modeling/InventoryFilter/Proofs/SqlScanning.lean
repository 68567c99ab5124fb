import InventoryFilter.Proofs.Scanning

set_option autoImplicit false

/-!
# Rendered predicates as SQL tokens

How SQL splits a text into tokens, and that a rendered filter is split as its tree prescribes.  Only
two rules of SQL matter for that: a quote opens a constant or a name that ends at the next quote of
the same kind which is not doubled, and no other character counts inside.
-/

namespace InventoryFilter

/-- A token of SQL, or a blank between tokens.  Constants and names are given by what they stand
for. -/
inductive SqlToken
  | constant (value : List Char)
  | name (value : List Char)
  | number (text : List Char)
  | word (text : List Char)
  | symbol (text : List Char)
  | blank (c : Char)
  deriving DecidableEq, Repr

namespace Sql

/-! ## Splitting a text -/

/-- A text with each quote in it doubled. -/
def doubled (quote : Char) (value : List Char) : List Char :=
  value.flatMap fun c => if c = quote then [quote, quote] else [c]

/-- A text between quotes: what it stands for up to the first quote that is not doubled, and the
rest. -/
def quotedBody (quote : Char) : List Char → Option (List Char × List Char)
  | [] => none
  | [c] => if c = quote then some ([], []) else none
  | c :: d :: cs =>
    if c = quote then
      if d = quote then (quotedBody quote cs).map fun r => (quote :: r.1, r.2)
      else some ([], d :: cs)
    else (quotedBody quote (d :: cs)).map fun r => (c :: r.1, r.2)

/-- Whether an unquoted word may begin with the character. -/
def isWordStart (c : Char) : Bool := c.isAlpha || c == '_' || 0x80 ≤ c.toNat

/-- Whether an unquoted word may go on with the character. -/
def isWordChar (c : Char) : Bool := isWordStart c || c.isDigit || c == '$'

/-- The symbols of two characters. -/
def longSymbols : List (Char × Char) :=
  [('<', '='), ('>', '='), ('!', '='), ('<', '>'), ('|', '|'), (':', ':')]

/-- The symbol that begins with the character, the longer one if there are two. -/
def symbol (c : Char) : List Char → SqlToken × List Char
  | d :: cs =>
    if longSymbols.contains (c, d) then (.symbol [c, d], cs) else (.symbol [c], d :: cs)
  | [] => (.symbol [c], [])

/-- The number that begins with the digit. -/
def number (c : Char) (cs : List Char) : SqlToken × List Char :=
  let (point, rest) := Lexeme.fraction (cs.dropWhile Char.isDigit)
  (.number (c :: cs.takeWhile Char.isDigit ++ point), rest)

/-- The token that the text `c :: cs` begins with, and the rest.  There is none if a quote is
opened and not closed. -/
def first (c : Char) (cs : List Char) : Option (SqlToken × List Char) :=
  if isSeparator c then some (.blank c, cs)
  else if c = '\'' then (quotedBody '\'' cs).map fun r => (.constant r.1, r.2)
  else if c = '"' then (quotedBody '"' cs).map fun r => (.name r.1, r.2)
  else if c.isDigit then some (number c cs)
  else if isWordStart c then some (.word (c :: cs.takeWhile isWordChar), cs.dropWhile isWordChar)
  else some (symbol c cs)

theorem doubled_cons (quote c : Char) (value : List Char) :
    doubled quote (c :: value) =
      (if c = quote then [quote, quote] else [c]) ++ doubled quote value :=
  rfl

theorem quotedBody_spelling {quote : Char} {cs value rest : List Char}
    (h : quotedBody quote cs = some (value, rest)) :
    doubled quote value ++ quote :: rest = cs := by
  fun_induction quotedBody quote cs generalizing value rest with
  | case1 => cases h
  | case2 => cases h; rfl
  | case3 => cases h
  | case4 cs ih =>
    obtain ⟨⟨v, r⟩, hr, he⟩ := Option.map_eq_some_iff.1 h
    cases he
    rw [doubled_cons, if_pos rfl, List.append_assoc, ih hr]
    rfl
  | case5 => cases h; rfl
  | case6 c d cs hc ih =>
    obtain ⟨⟨v, r⟩, hr, he⟩ := Option.map_eq_some_iff.1 h
    cases he
    rw [doubled_cons, if_neg hc, List.append_assoc, ih hr]
    rfl

end Sql

/-- The characters that a token takes. -/
def SqlToken.spelling : SqlToken → List Char
  | constant value => '\'' :: Sql.doubled '\'' value ++ ['\'']
  | name value => '"' :: Sql.doubled '"' value ++ ['"']
  | number text => text
  | word text => text
  | symbol text => text
  | blank c => [c]

namespace Sql

theorem symbol_spelling (c : Char) (cs : List Char) :
    ∃ tail, (symbol c cs).1.spelling = c :: tail ∧ tail ++ (symbol c cs).2 = cs := by
  unfold symbol
  split
  · split
    · exact ⟨[_], rfl, rfl⟩
    · exact ⟨[], rfl, rfl⟩
  · exact ⟨[], rfl, rfl⟩

theorem number_spelling (c : Char) (cs : List Char) :
    ∃ tail, (number c cs).1.spelling = c :: tail ∧ tail ++ (number c cs).2 = cs := by
  refine ⟨cs.takeWhile Char.isDigit ++ (Lexeme.fraction (cs.dropWhile Char.isDigit)).1, rfl, ?_⟩
  rw [List.append_assoc, number, Lexeme.fraction_append, List.takeWhile_append_dropWhile]

/-- A token takes the first character, and with the rest it makes up the text. -/
theorem first_spelling {c : Char} {cs rest : List Char} {t : SqlToken}
    (h : first c cs = some (t, rest)) : ∃ tail, t.spelling = c :: tail ∧ tail ++ rest = cs := by
  unfold first at h
  split at h
  · cases h
    exact ⟨[], rfl, rfl⟩
  split at h
  · next hquote =>
    obtain ⟨⟨value, rest⟩, hbody, heq⟩ := Option.map_eq_some_iff.1 h
    cases heq
    exact ⟨_, by rw [hquote]; rfl, by simp [quotedBody_spelling hbody]⟩
  split at h
  · next hquote =>
    obtain ⟨⟨value, rest⟩, hbody, heq⟩ := Option.map_eq_some_iff.1 h
    cases heq
    exact ⟨_, by rw [hquote]; rfl, by simp [quotedBody_spelling hbody]⟩
  split at h
  · have heq : number c cs = (t, rest) := Option.some.inj h
    simpa [heq] using number_spelling c cs
  split at h
  · cases h
    exact ⟨_, rfl, List.takeWhile_append_dropWhile⟩
  · have heq : symbol c cs = (t, rest) := Option.some.inj h
    simpa [heq] using symbol_spelling c cs

/-- The tokens of a text.  There are none if the text ends between quotes. -/
def scan : List Char → Option (List SqlToken)
  | [] => some []
  | c :: cs =>
    match _h : first c cs with
    | none => none
    | some (t, rest) => (scan rest).map (t :: ·)
termination_by cs => cs.length
decreasing_by
  obtain ⟨tail, _, hcs⟩ := first_spelling _h
  have hlength := congrArg List.length hcs
  simp only [List.length_append] at hlength
  simp only [List.length_cons]
  omega

@[simp] theorem scan_nil : scan [] = some [] := by
  rw [scan]

theorem scan_cons (c : Char) (cs : List Char) :
    scan (c :: cs) = (first c cs).bind fun r => (scan r.2).map (r.1 :: ·) := by
  rw [scan]
  split
  · next hfirst => rw [hfirst]; rfl
  · next hfirst => rw [hfirst]; rfl

/-- The tokens of a text make up the text: each character is in one of them. -/
theorem flatMap_spelling_of_scan {cs : List Char} {ts : List SqlToken} (h : scan cs = some ts) :
    ts.flatMap SqlToken.spelling = cs := by
  fun_induction scan cs generalizing ts with
  | case1 => cases h; rfl
  | case2 => cases h
  | case3 c cs t rest hfirst ih =>
    obtain ⟨us, hus, rfl⟩ := Option.map_eq_some_iff.1 h
    obtain ⟨tail, hspelling, hcs⟩ := first_spelling hfirst
    rw [List.flatMap_cons, ih hus, hspelling, List.cons_append, hcs]

/-! ## What follows a text -/

/-- Whether no token goes on into the text: it is empty or begins with a blank, a comma or a
bracket. -/
def Delimits (cs : List Char) : Prop :=
  ∀ c ∈ cs.head?, c = ' ' ∨ c = ',' ∨ c = '(' ∨ c = ')'

theorem Delimits.nil : Delimits [] := by
  rintro c ⟨⟩

theorem Delimits.cons {c : Char} (hc : c = ' ' ∨ c = ',' ∨ c = '(' ∨ c = ')') (cs : List Char) :
    Delimits (c :: cs) := by
  rintro d ⟨⟩
  exact hc

/-- What all delimiters lack, the head of a delimiting text lacks. -/
theorem Delimits.head_eq_false {cs : List Char} (h : Delimits cs) {p : Char → Bool}
    (hblank : p ' ' = false) (hcomma : p ',' = false) (hopen : p '(' = false)
    (hclose : p ')' = false) : ∀ c ∈ cs.head?, p c = false := by
  intro c hc
  rcases h c hc with rfl | rfl | rfl | rfl
  · exact hblank
  · exact hcomma
  · exact hopen
  · exact hclose

theorem Delimits.quote_notMem {rest : List Char} (hrest : Delimits rest) :
    '\'' ∉ rest.head? ∧ '"' ∉ rest.head? := by
  constructor
  · intro h
    simpa using hrest _ h
  · intro h
    simpa using hrest _ h

theorem quotedBody_append {quote : Char} {rest : List Char} (hrest : quote ∉ rest.head?)
    {cs value mid : List Char} (h : quotedBody quote cs = some (value, mid)) :
    quotedBody quote (cs ++ rest) = some (value, mid ++ rest) := by
  fun_induction quotedBody quote cs generalizing value mid with
  | case1 => cases h
  | case2 =>
    cases h
    cases rest with
    | nil => simp [quotedBody]
    | cons d rest =>
      have hd : d ≠ quote := fun heq => hrest (by simp [heq])
      simp [quotedBody, hd]
  | case3 => cases h
  | case4 cs ih =>
    obtain ⟨⟨v, m⟩, hbody, heq⟩ := Option.map_eq_some_iff.1 h
    cases heq
    simp [quotedBody, ih hbody]
  | case5 d cs hd =>
    cases h
    simp [quotedBody, hd]
  | case6 c d cs hc ih =>
    obtain ⟨⟨v, m⟩, hbody, heq⟩ := Option.map_eq_some_iff.1 h
    cases heq
    have hnext := ih hbody
    rw [List.cons_append] at hnext
    simp [quotedBody, hc, hnext]

theorem fraction_append_of_delimits {rest : List Char} (hrest : Delimits rest) (cs : List Char) :
    Lexeme.fraction (cs ++ rest) = ((Lexeme.fraction cs).1, (Lexeme.fraction cs).2 ++ rest) := by
  have hdigit : ∀ c ∈ rest.head?, c.isDigit = false := hrest.head_eq_false rfl rfl rfl rfl
  have hpoint : ∀ c ∈ rest.head?, (c == '.') = false := hrest.head_eq_false rfl rfl rfl rfl
  cases cs with
  | nil =>
    cases rest with
    | nil => rfl
    | cons d rest =>
      have hd : d ≠ '.' := by simpa using hpoint d rfl
      simp [Lexeme.fraction, hd]
  | cons c cs =>
    by_cases hc : c = '.'
    · subst hc
      cases cs with
      | nil =>
        cases rest with
        | nil => rfl
        | cons d rest =>
          have hd : d.isDigit = false := hdigit d rfl
          simp [Lexeme.fraction, hd]
      | cons d cs =>
        obtain ⟨htake, hdrop⟩ := span_append hdigit (d :: cs)
        rw [List.cons_append] at htake hdrop
        rw [List.cons_append, List.cons_append, Lexeme.fraction, Lexeme.fraction, htake, hdrop]
        split <;> rfl
    · simp [Lexeme.fraction, hc]

theorem number_append {rest : List Char} (hrest : Delimits rest) (c : Char) (cs : List Char) :
    number c (cs ++ rest) = ((number c cs).1, (number c cs).2 ++ rest) := by
  obtain ⟨htake, hdrop⟩ := span_append (p := Char.isDigit) (hrest.head_eq_false rfl rfl rfl rfl) cs
  rw [number, number, htake, hdrop, fraction_append_of_delimits hrest]

theorem symbol_append {rest : List Char} (hrest : Delimits rest) (c : Char) (cs : List Char) :
    symbol c (cs ++ rest) = ((symbol c cs).1, (symbol c cs).2 ++ rest) := by
  cases cs with
  | nil =>
    cases rest with
    | nil => rfl
    | cons d rest =>
      have hd : longSymbols.contains (c, d) = false := by
        rcases hrest d rfl with rfl | rfl | rfl | rfl <;> simp [longSymbols]
      rw [List.nil_append, symbol, symbol, hd]
      rfl
  | cons d cs =>
    rw [List.cons_append, symbol, symbol]
    split <;> rfl

/-- The first token of a text is the same whatever follows the text, if it delimits. -/
theorem first_append {rest : List Char} (hrest : Delimits rest) {c : Char} {cs mid : List Char}
    {t : SqlToken} (h : first c cs = some (t, mid)) :
    first c (cs ++ rest) = some (t, mid ++ rest) := by
  obtain ⟨hsingle, hdouble⟩ := hrest.quote_notMem
  unfold first at h ⊢
  split at h
  · next hc =>
    cases h
    rw [if_pos hc]
  next hblank =>
  rw [if_neg hblank]
  split at h
  · next hc =>
    obtain ⟨⟨value, mid⟩, hbody, heq⟩ := Option.map_eq_some_iff.1 h
    cases heq
    rw [if_pos hc, quotedBody_append hsingle hbody]
    rfl
  next hconstant =>
  rw [if_neg hconstant]
  split at h
  · next hc =>
    obtain ⟨⟨value, mid⟩, hbody, heq⟩ := Option.map_eq_some_iff.1 h
    cases heq
    rw [if_pos hc, quotedBody_append hdouble hbody]
    rfl
  next hname =>
  rw [if_neg hname]
  split at h
  · next hc =>
    have heq : number c cs = (t, mid) := Option.some.inj h
    rw [if_pos hc, number_append hrest, heq]
  next hdigit =>
  rw [if_neg hdigit]
  split at h
  · next hc =>
    cases h
    obtain ⟨htake, hdrop⟩ := span_append (p := isWordChar) (hrest.head_eq_false rfl rfl rfl rfl) cs
    rw [if_pos hc, htake, hdrop]
  · next hc =>
    have heq : symbol c cs = (t, mid) := Option.some.inj h
    rw [if_neg hc, symbol_append hrest, heq]

/-! ## Texts in front of others -/

/-- `Scans cs ts rest`: the text begins with the tokens, and the rest is then split on its own. -/
def Scans (cs : List Char) (ts : List SqlToken) (rest : List Char) : Prop :=
  scan cs = (scan rest).map (ts ++ ·)

theorem Scans.of_first {c : Char} {cs rest : List Char} {t : SqlToken}
    (h : first c cs = some (t, rest)) : Scans (c :: cs) [t] rest := by
  rw [Scans, scan_cons, h]
  rfl

theorem Scans.trans {cs mid rest : List Char} {ts us : List SqlToken} (h : Scans cs ts mid)
    (h' : Scans mid us rest) : Scans cs (ts ++ us) rest := by
  rw [Scans, h, h', Option.map_map]
  simp [Function.comp_def]

/-- A text that does not end between quotes is split into its tokens whatever follows it, if that
delimits. -/
theorem Scans.of_scan {rest : List Char} (hrest : Delimits rest) {cs : List Char}
    {ts : List SqlToken} (h : scan cs = some ts) : Scans (cs ++ rest) ts rest := by
  fun_induction scan cs generalizing ts with
  | case1 =>
    cases h
    simp [Scans]
  | case2 => cases h
  | case3 c cs t mid hfirst ih =>
    obtain ⟨us, hus, rfl⟩ := Option.map_eq_some_iff.1 h
    exact (Scans.of_first (first_append hrest hfirst)).trans (ih hus)

end Sql

end InventoryFilter
