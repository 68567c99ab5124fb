import InventoryFilter.Pattern.Standard
import InventoryFilter.Proofs.SqlGrammar
import InventoryFilter.Proofs.SqlQuoting

set_option autoImplicit false

/-!
# What rendered predicates mean

A rendered filter is read back as the tree that it was rendered from, except for one thing.  A
negated match is rendered without brackets, and negation binds looser than a comparison.  On the
left of a comparison the negation takes the whole comparison, and on the right it cannot be read at
all.
-/

namespace InventoryFilter

/-! ## Meanings -/

/-- The SQL operator of an operator. -/
def Operator.sqlOperator? : Operator → Option SqlOperator
  | equal => some .equal
  | notEqual => some .notEqual
  | less => some .less
  | lessEqual => some .lessEqual
  | greater => some .greater
  | greaterEqual => some .greaterEqual
  | and => some .and
  | or => some .or
  | like => none
  | notLike => none

theorem Operator.sqlToken?_eq (op : Operator) :
    op.sqlToken? = op.sqlOperator?.map SqlOperator.token := by
  cases op <;> rfl

/-- Whether the operator compares two values in SQL. -/
def Operator.isComparison (op : Operator) : Bool := op.sqlOperator?.any (·.layer == 4)

/-- A pattern match. -/
def SqlExpr.matching (left right : SqlExpr) : SqlExpr :=
  .call "regexp_matches".toList (.binary left .comma right)

/-- What an operator means between two expressions. -/
def SqlExpr.ofOperator (op : Operator) (left right : SqlExpr) : SqlExpr :=
  match op.sqlOperator? with
  | some sql => .binary left sql right
  | none => if op = .notLike then .not (matching left right) else matching left right

namespace Expr

variable [Pattern.Validator]

/-- The SQL expression that the tree stands for. -/
def meaning : Expr → SqlExpr
  | binary l op r => .ofOperator op l.meaning r.meaning
  | string s => .leaf (.constant s.toList)
  | identifier name => .leaf (.name (spaced name))
  | boolean b => .leaf (.word (if b then "TRUE".toList else "FALSE".toList))
  | pattern p => .leaf (.constant p.text.toList)
  | quantity q => .leaf (.number q.sql.toList)

/-- Whether the tree is a negated match. -/
def isNegatedMatch : Expr → Bool
  | binary _ op _ => op == .notLike
  | _ => false

/-- Whether no negated match is an operand of a comparison. -/
def negationsApart : Expr → Bool
  | binary l op r =>
    l.negationsApart && r.negationsApart &&
      !(op.isComparison && (l.isNegatedMatch || r.isNegatedMatch))
  | _ => true

end Expr

/-- Changes an expression below a negation around it. -/
def SqlExpr.underNegation (f : SqlExpr → SqlExpr) : SqlExpr → SqlExpr
  | not e => not (f e)
  | e => f e

/-- The SQL expression that the rendered tree is read as, if it can be read: a negated match on the
left of a comparison negates the comparison, and there must be none on the right. -/
def Expr.reading [Pattern.Validator] : Expr → Option SqlExpr
  | binary l op r =>
    match l.reading, r.reading with
    | some left, some right =>
      if op.isComparison && r.isNegatedMatch then none
      else if op.isComparison && l.isNegatedMatch then
        some (left.underNegation fun e => .ofOperator op e right)
      else some (.ofOperator op left right)
    | _, _ => none
  | e => some e.meaning

namespace SqlExpr

theorem ofOperator_inj {op : Operator} {left right left' right' : SqlExpr}
    (h : ofOperator op left right = ofOperator op left' right') :
    left = left' ∧ right = right' := by
  unfold ofOperator matching at h
  split at h
  · cases h
    exact ⟨rfl, rfl⟩
  · split at h
    · cases h
      exact ⟨rfl, rfl⟩
    · cases h
      exact ⟨rfl, rfl⟩

theorem ofOperator_of_eq_some {op : Operator} {sql : SqlOperator} (h : op.sqlOperator? = some sql)
    (left right : SqlExpr) : ofOperator op left right = .binary left sql right := by
  rw [ofOperator, h]

end SqlExpr

theorem Operator.sqlOperator?_cases (op : Operator) :
    (∃ sql, op.sqlOperator? = some sql) ∨ op = .like ∨ op = .notLike := by
  cases op <;> simp [sqlOperator?]

/-- What is no comparison is a conjunction or a disjunction. -/
theorem Operator.layer_of_sqlOperator? {op : Operator} {sql : SqlOperator}
    (h : op.sqlOperator? = some sql) (hlayer : sql.layer ≠ 4) : 1 ≤ sql.layer ∧ sql.layer ≤ 2 := by
  cases op <;> cases h <;> first | exact absurd rfl hlayer | decide

theorem Operator.isComparison_iff {op : Operator} :
    op.isComparison = true ↔ ∃ sql, op.sqlOperator? = some sql ∧ sql.layer = 4 := by
  simp [isComparison, Option.any_eq_true]

section

variable [Pattern.Validator]

namespace Expr

open Sql

theorem isNegatedMatch_iff {e : Expr} :
    e.isNegatedMatch = true ↔ ∃ l r, e = binary l .notLike r := by
  cases e <;> simp [isNegatedMatch]

/-- A negated match is read as a negation. -/
theorem reading_notLike {l r : Expr} {t : SqlExpr} (h : (binary l .notLike r).reading = some t) :
    ∃ left right, l.reading = some left ∧ r.reading = some right ∧
      t = .not (.matching left right) := by
  rw [reading] at h
  split at h
  · next left right hl hr =>
    cases h
    exact ⟨left, right, hl, hr, rfl⟩
  · cases h

/-- A tree is read as it is meant exactly if no negated match is an operand of a comparison. -/
theorem reading_eq_some_meaning_iff (e : Expr) :
    e.reading = some e.meaning ↔ e.negationsApart = true := by
  induction e with
  | binary l op r ihl ihr =>
    simp only [negationsApart, Bool.and_eq_true, Bool.not_eq_true', ← ihl, ← ihr]
    rw [Bool.and_or_distrib_left, Bool.or_eq_false_iff, reading, meaning]
    constructor
    · intro h
      split at h
      · next left right hl hr =>
        split at h
        · cases h
        next hright =>
        split at h
        · next hleft =>
          -- the negation is read outside the comparison, and meant inside
          obtain ⟨hcompares, hnegated⟩ := Bool.and_eq_true_iff.1 hleft
          obtain ⟨sql, hsql, _⟩ := Operator.isComparison_iff.1 hcompares
          obtain ⟨l₁, l₂, rfl⟩ := isNegatedMatch_iff.1 hnegated
          obtain ⟨_, _, _, _, rfl⟩ := reading_notLike hl
          rw [SqlExpr.ofOperator_of_eq_some hsql] at h
          cases h
        · next hleft =>
          obtain ⟨rfl, rfl⟩ := SqlExpr.ofOperator_inj (Option.some.inj h)
          exact ⟨⟨hl, hr⟩, Bool.eq_false_iff.2 hleft, Bool.eq_false_iff.2 hright⟩
      · cases h
    · rintro ⟨⟨hl, hr⟩, hleft, hright⟩
      rw [hl, hr]
      simp only [hleft, hright]
      rfl
  | _ => exact ⟨fun _ => rfl, fun _ => rfl⟩

/-! ## The tokens of a rendered tree -/

/-- The tokens of the rendered tree, without the blanks. -/
def sqlPhrase (e : Expr) : List SqlToken :=
  (e.sqlTokens .empty).filter fun t => !t.isBlank

theorem sqlPhrase_operator {op : Operator} {sql : SqlOperator} (h : op.sqlOperator? = some sql)
    (l r : Expr) :
    (binary l op r).sqlPhrase =
      SqlToken.openBracket ::
        ((l.sqlPhrase ++ sql.token :: r.sqlPhrase) ++ [SqlToken.closeBracket]) := by
  have htoken : op.sqlToken? = some sql.token := by rw [Operator.sqlToken?_eq, h]; rfl
  simp [sqlPhrase, sqlTokens, SqlToken.binary, htoken, SqlToken.openBracket,
    SqlToken.closeBracket]

theorem sqlPhrase_like (l r : Expr) :
    (binary l .like r).sqlPhrase =
      SqlToken.word "regexp_matches".toList :: SqlToken.openBracket ::
        ((l.sqlPhrase ++ SqlOperator.comma.token :: r.sqlPhrase) ++ [SqlToken.closeBracket]) := by
  simp [sqlPhrase, sqlTokens, SqlToken.binary, Operator.sqlToken?, SqlToken.openBracket,
    SqlToken.closeBracket, SqlOperator.token]

theorem sqlPhrase_notLike (l r : Expr) :
    (binary l .notLike r).sqlPhrase = SqlToken.negation :: (binary l .like r).sqlPhrase := by
  simp [sqlPhrase, sqlTokens, SqlToken.binary, Operator.sqlToken?, SqlToken.negation]

/-! ## What is read -/

/-- `ReadAs e t`: the tokens of the rendered tree `e` are an operand with the tree `t`, or the
negation of an operand if `e` is a negated match. -/
inductive ReadAs (e : Expr) : SqlExpr → Prop
  | plain {t : SqlExpr} (hplain : e.isNegatedMatch = false) (h : Derives 5 e.sqlPhrase t) :
      ReadAs e t
  | negated {ts : List SqlToken} {t : SqlExpr} (hnegated : e.isNegatedMatch = true)
      (hphrase : e.sqlPhrase = SqlToken.negation :: ts) (h : Derives 5 ts t) : ReadAs e (.not t)

/-- Whatever is read of a rendered tree may stand where negations may. -/
theorem ReadAs.derives {e : Expr} {t : SqlExpr} (h : ReadAs e t) : Derives 3 e.sqlPhrase t := by
  cases h with
  | plain _ h => exact h.loosen (by omega)
  | negated _ hphrase h =>
    rw [hphrase]
    exact .negated (h.loosen (by omega))

/-- Operators that bind looser than negation take whatever is read. -/
theorem derives_chained {sql : SqlOperator} (hlayer : sql.layer ≤ 2) {l r : Expr}
    {left right : SqlExpr} (hl : ReadAs l left) (hr : ReadAs r right) :
    Derives sql.layer (l.sqlPhrase ++ sql.token :: r.sqlPhrase) (.binary left sql right) :=
  .chained (hl.derives.loosen (by omega)) (hr.derives.loosen (by omega))

theorem derives_like {l r : Expr} {left right : SqlExpr} (hl : ReadAs l left)
    (hr : ReadAs r right) : Derives 5 (binary l .like r).sqlPhrase (.matching left right) := by
  have harguments := derives_chained (by decide : SqlOperator.comma.layer ≤ 2) hl hr
  rw [sqlPhrase_like]
  exact .call (by decide) harguments

theorem readAs_brackets {op : Operator} {sql : SqlOperator} (hop : op.sqlOperator? = some sql)
    {l r : Expr} {t : SqlExpr} (h : Derives 1 (l.sqlPhrase ++ sql.token :: r.sqlPhrase) t) :
    ReadAs (binary l op r) t := by
  refine .plain ?_ ?_
  · have hne : op ≠ .notLike := by rintro rfl; cases hop
    simpa [isNegatedMatch] using hne
  · rw [sqlPhrase_operator hop]
    exact .bracketed h

/-- A comparison whose right operand is an operand of the grammar.  What stands on its left may be a
negation, which then takes the comparison. -/
theorem readAs_comparison {op : Operator} {sql : SqlOperator} (hop : op.sqlOperator? = some sql)
    (hlayer : sql.layer = 4) {l r : Expr} {left right : SqlExpr} (hl : ReadAs l left)
    (hr : Derives 5 r.sqlPhrase right) :
    ReadAs (binary l op r)
      (if l.isNegatedMatch then left.underNegation fun e => .ofOperator op e right
      else .ofOperator op left right) := by
  have hchain : ∀ {ts : List SqlToken} {t : SqlExpr}, Derives 5 ts t →
      Derives 4 (ts ++ sql.token :: r.sqlPhrase) (.ofOperator op t right) := by
    intro ts t h
    have h' : Derives sql.layer ts t := h.loosen (by omega)
    have hr' : Derives (sql.layer + 1) r.sqlPhrase right := by rw [hlayer]; exact hr
    rw [SqlExpr.ofOperator_of_eq_some hop, ← hlayer]
    exact .chained h' hr'
  refine readAs_brackets hop ?_
  cases hl with
  | plain hplain h =>
    rw [if_neg (by simp [hplain])]
    exact (hchain h).loosen (by omega)
  | negated hnegated hphrase h =>
    rw [if_pos hnegated, hphrase]
    have hnot := Derives.negated ((hchain h).loosen (by omega))
    exact hnot.loosen (by omega)

/-- A rendered tree can be read as its reading says. -/
theorem readAs_of_reading {e : Expr} {t : SqlExpr} (h : e.reading = some t) : ReadAs e t := by
  induction e generalizing t with
  | binary l op r ihl ihr =>
    rw [reading] at h
    split at h
    · next left right hl hr =>
      have hleft := ihl hl
      have hright := ihr hr
      rcases op.sqlOperator?_cases with ⟨sql, hop⟩ | rfl | rfl
      · by_cases hlayer : sql.layer = 4
        · have hcompares : op.isComparison = true := Operator.isComparison_iff.2 ⟨sql, hop, hlayer⟩
          simp only [hcompares, Bool.true_and] at h
          cases hright with
          | negated hnegated => rw [if_pos hnegated] at h; cases h
          | plain hplain hright =>
            have hread := readAs_comparison hop hlayer hleft hright
            rw [if_neg (by simp [hplain])] at h
            split at h
            · next hnegated => cases h; rwa [if_pos hnegated] at hread
            · next hother => cases h; rwa [if_neg hother] at hread
        · have hcompares : op.isComparison = false := by
            rw [Bool.eq_false_iff, Ne, Operator.isComparison_iff]
            rintro ⟨sql', hop', hlayer'⟩
            rw [hop] at hop'
            cases hop'
            exact hlayer hlayer'
          simp only [hcompares, Bool.false_and] at h
          cases h
          obtain ⟨hloose, htight⟩ := Operator.layer_of_sqlOperator? hop hlayer
          rw [SqlExpr.ofOperator_of_eq_some hop]
          exact readAs_brackets hop ((derives_chained htight hleft hright).loosen hloose)
      · cases h
        exact .plain rfl (derives_like hleft hright)
      · cases h
        exact .negated rfl (sqlPhrase_notLike l r) (derives_like hleft hright)
    · cases h
  | identifier name =>
    cases h
    exact .plain rfl (.leaf rfl)
  | boolean b =>
    cases h
    refine .plain rfl (.leaf ?_)
    cases b <;> rfl
  | _ =>
    cases h
    exact .plain rfl (.leaf rfl)

theorem isChain_operands {l r : Expr} {op : Operator}
    (h : (binary l op r).sqlPhrase.IsChain MayPrecede) :
    l.sqlPhrase.IsChain MayPrecede ∧ r.sqlPhrase.IsChain MayPrecede ∧
      (op.isComparison = true → SqlToken.negation ∉ r.sqlPhrase.head?) := by
  -- in all three forms the operands stand around an operator, before a closing bracket
  have hinner : ∀ {sql : SqlOperator},
      ((l.sqlPhrase ++ sql.token :: r.sqlPhrase) ++ [SqlToken.closeBracket]).IsChain MayPrecede →
      l.sqlPhrase.IsChain MayPrecede ∧ r.sqlPhrase.IsChain MayPrecede ∧
        (sql.layer = 4 → SqlToken.negation ∉ r.sqlPhrase.head?) := by
    intro sql hchain
    obtain ⟨hl, hright, _⟩ := List.isChain_append.1 hchain.left_of_append
    obtain ⟨hnext, hr⟩ := List.isChain_cons.1 hright
    exact ⟨hl, hr, fun hlayer hhead => hnext _ hhead rfl sql rfl hlayer⟩
  rcases op.sqlOperator?_cases with ⟨sql, hop⟩ | rfl | rfl
  · rw [sqlPhrase_operator hop] at h
    obtain ⟨hl, hr, hnext⟩ := hinner h.tail
    refine ⟨hl, hr, fun hcompares => hnext ?_⟩
    obtain ⟨sql', hop', hlayer⟩ := Operator.isComparison_iff.1 hcompares
    rw [hop] at hop'
    cases hop'
    exact hlayer
  · rw [sqlPhrase_like] at h
    obtain ⟨hl, hr, _⟩ := hinner h.tail.tail
    exact ⟨hl, hr, nofun⟩
  · rw [sqlPhrase_notLike, sqlPhrase_like] at h
    obtain ⟨hl, hr, _⟩ := hinner h.tail.tail.tail
    exact ⟨hl, hr, nofun⟩

/-- If in a rendered tree no comparison is followed by a negation, then the tree has a reading. -/
theorem exists_reading_of_isChain {e : Expr} (h : e.sqlPhrase.IsChain MayPrecede) :
    ∃ t, e.reading = some t := by
  induction e with
  | binary l op r ihl ihr =>
    obtain ⟨hl, hr, hnext⟩ := isChain_operands h
    obtain ⟨left, hleft⟩ := ihl hl
    obtain ⟨right, hright⟩ := ihr hr
    have hapart : (op.isComparison && r.isNegatedMatch) = false := by
      rw [Bool.eq_false_iff, Ne, Bool.and_eq_true_iff]
      rintro ⟨hcompares, hnegated⟩
      obtain ⟨r₁, r₂, rfl⟩ := isNegatedMatch_iff.1 hnegated
      exact hnext hcompares (by rw [sqlPhrase_notLike]; rfl)
    rw [reading, hleft, hright]
    simp only [hapart]
    split
    · next hfalse => cases hfalse
    · split
      · exact ⟨_, rfl⟩
      · exact ⟨_, rfl⟩
  | _ => exact ⟨_, rfl⟩

/-- A rendered tree has exactly the readings that its reading says. -/
theorem derives_sqlPhrase_iff {e : Expr} {t : SqlExpr} :
    Derives 1 e.sqlPhrase t ↔ e.reading = some t := by
  constructor
  · intro h
    obtain ⟨t', ht'⟩ := exists_reading_of_isChain h.isChain
    have h' : Derives 1 e.sqlPhrase t' := (readAs_of_reading ht').derives.loosen (by omega)
    rw [ht', h.unique h']
  · intro h
    exact (readAs_of_reading h).derives.loosen (by omega)

end Expr

/-- A compiled filter without columns has the reading of its tree and no other, and is read as it is
meant exactly if no negated match is an operand of a comparison. -/
theorem reads_of_compile {input sql : String} (h : compile input .empty = .ok sql) :
    ∃ e, parse input = .ok e ∧ (∀ t, Sql.Reads sql t ↔ e.reading = some t) ∧
      ((∀ t, Sql.Reads sql t ↔ t = e.meaning) ↔ e.negationsApart = true) := by
  obtain ⟨e, hparse, rfl⟩ := compile_eq_ok_iff.1 h
  have hscan : Sql.scan (e.sql .empty).toList = some (e.sqlTokens .empty) :=
    Expr.scan_sql (by simp [ColumnMap.empty]) (spellable_of_parse hparse)
  have hreads : ∀ t, Sql.Reads (e.sql .empty) t ↔ e.reading = some t := by
    intro t
    rw [← Expr.derives_sqlPhrase_iff]
    constructor
    · rintro ⟨ts, hts, hderives⟩
      rw [hscan] at hts
      cases hts
      exact hderives
    · intro hderives
      exact ⟨_, hscan, hderives⟩
  refine ⟨e, hparse, hreads, ?_⟩
  rw [← Expr.reading_eq_some_meaning_iff]
  constructor
  · intro hmeant
    exact (hreads _).1 ((hmeant _).2 rfl)
  · intro hreading t
    rw [hreads, hreading, Option.some.injEq]
    exact eq_comm

end

open scoped Pattern.Standard in
/-- On the left of a comparison a negated match is read as the negation of the comparison, and under
a conjunction it is read as it is meant. -/
theorem reads_of_compile_negated :
    let a := SqlExpr.matching (.leaf (.name ['a'])) (.leaf (.constant ['b']))
    let c := SqlExpr.leaf (.name ['c'])
    let compared := "(NOT regexp_matches(\"a\", 'b') = \"c\")"
    let joined := "(NOT regexp_matches(\"a\", 'b') AND \"c\")"
    (compile "a !~ 'b' = c" .empty = .ok compared ∧
      ∃ e, parse "a !~ 'b' = c" = .ok e ∧ e.meaning = .binary (.not a) .equal c ∧
        Sql.Reads compared (.not (.binary a .equal c)) ∧ ¬ Sql.Reads compared e.meaning) ∧
    compile "a !~ 'b' and c" .empty = .ok joined ∧
      ∃ e, parse "a !~ 'b' and c" = .ok e ∧ e.meaning = .binary (.not a) .and c ∧
        ∀ t, Sql.Reads joined t ↔ t = e.meaning := by
  intro a c compared joined
  have hcompared : compile "a !~ 'b' = c" .empty = .ok compared :=
    eq_ok_of_toOption_eq_some (by decide +kernel)
  have hjoined : compile "a !~ 'b' and c" .empty = .ok joined :=
    eq_ok_of_toOption_eq_some (by decide +kernel)
  have htree : (parse "a !~ 'b' = c").toOption = some
      (.binary (.binary (.identifier "a") .notLike (.string "b")) .equal (.identifier "c")) := by
    decide +kernel
  have htree' : (parse "a !~ 'b' and c").toOption = some
      (.binary (.binary (.identifier "a") .notLike (.string "b")) .and (.identifier "c")) := by
    decide +kernel
  obtain ⟨e, hparse, hreads, _⟩ := reads_of_compile hcompared
  obtain ⟨e', hparse', _, hmeant⟩ := reads_of_compile hjoined
  rw [hparse] at htree
  rw [hparse'] at htree'
  cases htree
  cases htree'
  refine ⟨⟨hcompared, _, hparse, rfl, (hreads _).2 rfl, ?_⟩, hjoined, _, hparse', rfl, hmeant.2 rfl⟩
  intro hread
  cases (hreads _).1 hread

end InventoryFilter
