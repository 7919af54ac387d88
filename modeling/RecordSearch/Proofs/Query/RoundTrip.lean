import Mathlib.Data.List.TakeDrop
import RecordSearch.Proofs.Numeric.Numeral
import RecordSearch.Proofs.Query.Reader

/-!
# Query text reads back

The reader gives back the tree of every readable clause, whatever follows the clause's text, provided it
follows as one piece follows another: with a blank, with a closing bracket, or not at all. No literal can
pose as syntax, because an escaped literal ends exactly at the first reserved character without a
backslash.

## Main definitions

* `Closes` — what may follow a piece.
* `Reads` — a reader gives back a clause's tree wherever the clause stands.

## Main results

* `takeClause?_reads` — the reader reads every readable clause that its depth admits.
* `readQuery_compile` — the text of a compiled predicate, or of a compiled query, has the tree of the
  predicate, or of the query's filters together.
-/

namespace RecordSearch

/-! ## Literals -/

/-- What may follow an escaped literal. -/
def EndsLiteral (rest : List Char) : Prop :=
  ∀ c ∈ rest.head?, isReserved c = true ∧ c ≠ '\\'

/-- What may follow a piece of a query: a blank, a closing bracket, or nothing. -/
def Closes (rest : List Char) : Prop :=
  ∀ c ∈ rest.head?, c = ' ' ∨ c = ')' ∨ c = '}'

theorem closes_nil : Closes [] := by
  intro c hc
  contradiction

theorem closes_cons {c : Char} (h : c = ' ' ∨ c = ')' ∨ c = '}') (rest : List Char) :
    Closes (c :: rest) := by
  intro d hd
  cases hd
  exact h

theorem Closes.endsLiteral {rest : List Char} (h : Closes rest) : EndsLiteral rest := by
  intro c hc
  rcases h c hc with rfl | rfl | rfl <;> decide

theorem endsLiteral_star (rest : List Char) : EndsLiteral ('*' :: rest) := by
  intro c hc
  cases hc
  decide

/-- An escaped literal is read back up to what follows it. -/
theorem takeLiteral_escapeChars {rest : List Char} (hrest : EndsLiteral rest) (cs : List Char) :
    takeLiteral (escapeChars cs ++ rest) = (cs, rest) := by
  induction cs with
  | nil =>
    cases rest with
    | nil => rfl
    | cons c rest =>
      obtain ⟨hreserved, hslash⟩ := hrest c rfl
      exact (takeLiteral_cons_of_ne hslash rest).trans (if_pos hreserved)
  | cons c cs ih =>
    by_cases h : isReserved c = true
    · simp [escapeChars, h, takeLiteral_backslash, ih]
    · have hslash : c ≠ '\\' := fun e => h (e ▸ isReserved_backslash)
      simp [escapeChars, h, takeLiteral_cons_of_ne hslash, ih]

/-- No literal begins with syntax: its first character is a backslash or not reserved. -/
theorem exists_cons_escape {text : String} (h : text ≠ "") :
    ∃ c cs, (escape text).toList = c :: cs ∧ (c = '\\' ∨ isReserved c = false) := by
  rw [toList_escape]
  cases htext : text.toList with
  | nil => exact absurd (String.toList_eq_nil_iff.1 htext) h
  | cons c cs =>
    by_cases hc : isReserved c = true
    · exact ⟨'\\', c :: escapeChars cs, by simp [escapeChars, hc], .inl rfl⟩
    · exact ⟨c, escapeChars cs, by simp [escapeChars, hc], .inr (by simpa using hc)⟩

/-- What is reserved, other than the backslash, begins no literal. -/
theorem ne_of_begins {c d : Char} (hc : c = '\\' ∨ isReserved c = false) (hd : isReserved d = true)
    (hslash : d ≠ '\\') : c ≠ d := by
  rintro rfl
  rcases hc with rfl | hc
  · exact hslash rfl
  · rw [hd] at hc
    contradiction

/-! ## Patterns -/

theorem takeWildcard_of_ne {c : Char} (h : c ≠ '*') (rest : List Char) :
    takeWildcard (c :: rest) = (false, c :: rest) := by
  rw [takeWildcard, if_neg h]

theorem takeWildcard_of_closes {rest : List Char} (h : Closes rest) :
    takeWildcard rest = (false, rest) := by
  cases rest with
  | nil => rfl
  | cons c rest =>
    apply takeWildcard_of_ne
    rcases h c rfl with rfl | rfl | rfl <;> decide

theorem toList_render_pattern (p : Pattern) :
    p.render.toList =
      (wildcard p.leading).toList ++ escapeChars p.literal.toList ++ (wildcard p.trailing).toList := by
  rw [Pattern.render, String.toList_append, String.toList_append, toList_escape]

/-- A literal and the wildcard after it are read back. -/
theorem takeLiteral_wildcard (cs : List Char) (trailing : Bool) {rest : List Char}
    (hrest : Closes rest) :
    takeLiteral (escapeChars cs ++ ((wildcard trailing).toList ++ rest)) =
        (cs, (wildcard trailing).toList ++ rest) ∧
      takeWildcard ((wildcard trailing).toList ++ rest) = (trailing, rest) := by
  cases trailing with
  | true =>
    -- A star of the literal's own would stand behind a backslash, so this one ends it.
    refine ⟨takeLiteral_escapeChars (endsLiteral_star rest) cs, ?_⟩
    simp [wildcard, takeWildcard]
  | false => exact ⟨takeLiteral_escapeChars hrest.endsLiteral cs, takeWildcard_of_closes hrest⟩

/-- A pattern is read back. -/
theorem takePattern?_render {p : Pattern} (hp : p.literal ≠ "") {rest : List Char}
    (hrest : Closes rest) : takePattern? (p.render.toList ++ rest) = some (p, rest) := by
  obtain ⟨leading, literal, trailing⟩ := p
  obtain ⟨hliteral, htrailing⟩ := takeLiteral_wildcard literal.toList trailing hrest
  have hleading :
      takeWildcard ((wildcard leading).toList ++
          (escapeChars literal.toList ++ ((wildcard trailing).toList ++ rest))) =
        (leading, escapeChars literal.toList ++ ((wildcard trailing).toList ++ rest)) := by
    cases leading with
    | true => simp [wildcard, takeWildcard]
    | false =>
      obtain ⟨c, cs, hcs, hc⟩ := exists_cons_escape hp
      rw [toList_escape] at hcs
      rw [hcs]
      exact takeWildcard_of_ne (ne_of_begins hc (by decide) (by decide)) _
  rw [toList_render_pattern, List.append_assoc, List.append_assoc]
  have hne : literal.toList ≠ [] := fun h => hp (String.toList_eq_nil_iff.1 h)
  simp only [takePattern?, hleading, hliteral, htrailing, if_neg hne, String.ofList_toList]

/-- A pattern begins with a star, a backslash or a character that is not reserved. -/
theorem exists_cons_pattern {p : Pattern} (hp : p.literal ≠ "") :
    ∃ c cs, p.render.toList = c :: cs ∧ (c = '*' ∨ c = '\\' ∨ isReserved c = false) := by
  rw [toList_render_pattern, ← toList_escape]
  obtain ⟨c, cs, hcs, hc⟩ := exists_cons_escape hp
  cases p.leading with
  | true => exact ⟨'*', _, rfl, .inl rfl⟩
  | false => exact ⟨c, _, by rw [hcs]; rfl, .inr hc⟩

/-! ## Leaves -/

/-- What stands before a character is read back. -/
theorem takeUntil?_append {stop : Char} {cs : List Char} (h : stop ∉ cs) (rest : List Char) :
    takeUntil? stop (cs ++ stop :: rest) = some (cs, rest) := by
  induction cs with
  | nil => simp [takeUntil?]
  | cons c cs ih =>
    obtain ⟨hc, hcs⟩ := List.ne_and_not_mem_of_not_mem_cons h
    simp [takeUntil?, Ne.symm hc, ih hcs]

/-- No pattern begins with the bracket of a range or the brace of a tag. -/
theorem exists_cons_pattern_ne {p : Pattern} (hp : p.literal ≠ "") :
    ∃ c cs, p.render.toList = c :: cs ∧ c ≠ '[' ∧ c ≠ '{' := by
  obtain ⟨c, cs, hcs, hc⟩ := exists_cons_pattern hp
  have hne : ∀ d, isReserved d = true → d ≠ '\\' → d ≠ '*' → c ≠ d := by
    intro d hd hslash hstar
    rcases hc with rfl | hc
    · exact Ne.symm hstar
    · exact ne_of_begins hc hd hslash
  exact ⟨c, cs, hcs, hne '[' (by decide) (by decide) (by decide),
    hne '{' (by decide) (by decide) (by decide)⟩

theorem takeTest?_word {p : Pattern} (hp : p.literal ≠ "") {rest : List Char} (hrest : Closes rest) :
    takeTest? (p.render.toList ++ rest) = some (.word p, rest) := by
  have hpattern := takePattern?_render hp hrest
  obtain ⟨c, cs, hcs, hrange, htag⟩ := exists_cons_pattern_ne hp
  rw [hcs, List.cons_append] at hpattern ⊢
  rw [takeTest?, hpattern]
  · rfl
  · intro text htext
    exact hrange (List.cons.inj htext).1
  · intro text htext
    exact htag (List.cons.inj htext).1

/-- What a leaf demands is read back. -/
theorem takeTest?_render {demand : Demand} (hdemand : demand.IsReadable) {rest : List Char}
    (hrest : Closes rest) : takeTest? (demand.render.toList ++ rest) = some (demand.test, rest) := by
  cases demand with
  | within low high =>
    have hlow := takeUntil?_append (low.notMem_render (c := ' ') (by decide))
      (high.render.toList ++ ']' :: rest)
    have hhigh := takeUntil?_append (high.notMem_render (c := ']') (by decide)) rest
    simp [Demand.render, takeTest?, hlow, hhigh, Demand.test]
  | word pattern => exact takeTest?_word hdemand hrest
  | tag pattern =>
    have hpattern := takePattern?_render hdemand (closes_cons (.inr (.inr rfl)) rest)
    simp [Demand.render, takeTest?, hpattern, takeChar?, Demand.test]

/-- A leaf without its sign and marker is read back. -/
theorem takeField?_render (negated : Bool) {name : String} (hname : IsWord name) {demand : Demand}
    (hdemand : demand.IsReadable) {rest : List Char} (hrest : Closes rest) :
    takeField? negated (name.toList ++ ':' :: (demand.render.toList ++ rest)) =
      some (.field negated name demand.test, rest) := by
  obtain ⟨hne, hword⟩ := hname
  have hspan : (name.toList ++ ':' :: (demand.render.toList ++ rest)).span (!isReserved ·) =
      (name.toList, ':' :: (demand.render.toList ++ rest)) := by
    have hcolon : isReserved ':' = true := by decide
    rw [List.span_eq_takeWhile_dropWhile, List.takeWhile_append_of_pos, List.dropWhile_append_of_pos]
    · simp [hcolon]
    · simpa using hword
    · simpa using hword
  rw [takeField?, hspan]
  simp [hne, takeChar?, takeTest?_render hdemand hrest]

/-! ## The characters of clauses -/

namespace Clause

theorem toList_render_field (negated : Bool) (name : String) (demand : Demand) :
    (field negated name demand).render.toList =
      (if negated then ['-', '@'] else ['@']) ++ (name.toList ++ ':' :: demand.render.toList) := by
  cases negated <;> simp [render]

theorem toList_render_conj (left right : Clause) :
    (conj left right).render.toList =
      '(' :: (left.render.toList ++ ' ' :: (right.render.toList ++ [')'])) := by
  simp [render]

theorem toList_render_disj (left right : Clause) :
    (disj left right).render.toList =
      '(' :: (left.render.toList ++ ' ' :: '|' :: ' ' :: (right.render.toList ++ [')'])) := by
  simp [render]

theorem toList_render_neg (operand : Clause) :
    (neg operand).render.toList = '-' :: '(' :: (operand.render.toList ++ [')']) := by
  simp [render]

/-- No readable clause is empty, or begins with the sign of an alternative or with a star. -/
theorem exists_cons_render {c : Clause} (hc : c.IsReadable) :
    ∃ first cs, c.render.toList = first :: cs ∧ first ≠ '|' ∧ first ≠ '*' := by
  cases c with
  | field negated name demand =>
    rw [toList_render_field]
    cases negated with
    | true => exact ⟨'-', _, rfl, by decide⟩
    | false => exact ⟨'@', _, rfl, by decide⟩
  | literal text =>
    obtain ⟨first, cs, hcs, hfirst⟩ := exists_cons_escape hc
    exact ⟨first, cs, hcs, ne_of_begins hfirst (by decide) (by decide),
      ne_of_begins hfirst (by decide) (by decide)⟩
  | conj left right => exact ⟨'(', _, toList_render_conj left right, by decide⟩
  | disj left right => exact ⟨'(', _, toList_render_disj left right, by decide⟩
  | neg operand => exact ⟨'-', _, toList_render_neg operand, by decide⟩

end Clause

/-! ## Groups -/

/-- A reader gives back a clause's tree wherever the clause stands. -/
def Reads (take : List Char → Option (QueryTree × List Char)) (c : Clause) : Prop :=
  ∀ rest, Closes rest → take (c.render.toList ++ rest) = some (c.tree, rest)

/-- The texts of clauses, with a blank before each. -/
def spaced (clauses : List Clause) : List Char :=
  clauses.flatMap fun c => ' ' :: c.render.toList

theorem closes_spaced (clauses : List Clause) (rest : List Char) :
    Closes (spaced clauses ++ ')' :: rest) := by
  cases clauses with
  | nil => exact closes_cons (.inr (.inl rfl)) rest
  | cons c clauses => exact closes_cons (.inl rfl) _

variable {take : List Char → Option (QueryTree × List Char)}

/-- The parts of a group are read back one after another. -/
theorem takeParts?_spaced {clauses : List Clause} (hclauses : ∀ c ∈ clauses, Reads take c)
    {bound : Nat} (hbound : clauses.length < bound) (rest : List Char) :
    takeParts? take bound (spaced clauses ++ ')' :: rest) = some (clauses.map Clause.tree, rest) := by
  induction clauses generalizing bound with
  | nil =>
    cases bound with
    | zero => contradiction
    | succ bound => rfl
  | cons c clauses ih =>
    cases bound with
    | zero => contradiction
    | succ bound =>
      -- A part is followed by the blank before the next one, or by the closing parenthesis.
      have hfirst := hclauses c (by simp) _ (closes_spaced clauses rest)
      have hothers := ih (fun c hc => hclauses c (by simp [hc])) (Nat.lt_of_succ_lt_succ hbound)
      have htext : spaced (c :: clauses) ++ ')' :: rest =
          ' ' :: (c.render.toList ++ (spaced clauses ++ ')' :: rest)) := by
        simp [spaced]
      rw [htext, takeParts?, hfirst]
      simp [hothers]

theorem length_lt_length_spaced (clauses : List Clause) (rest : List Char) :
    clauses.length < (spaced clauses ++ ')' :: rest).length := by
  induction clauses with
  | nil => simp [spaced]
  | cons c clauses ih =>
    simp only [spaced, List.flatMap_cons, List.length_append, List.length_cons] at ih ⊢
    omega

/-- What follows the first part is no alternative, if the second part does not begin as one. -/
theorem takeGroup?_of_ne {text cs : List Char} {first : QueryTree} {c : Char}
    (hfirst : take text = some (first, ' ' :: c :: cs)) (hc : c ≠ '|') :
    takeGroup? take text =
      (takeParts? take (' ' :: c :: cs).length (' ' :: c :: cs)).map
        (Prod.map (fun parts => .all (first :: parts)) id) := by
  rw [takeGroup?, hfirst, Option.bind_eq_bind, Option.bind_some]
  split
  · next heq => exact absurd (List.cons.inj (List.cons.inj (Prod.mk.inj heq).2).2).1 hc
  · next heq =>
    obtain ⟨rfl, rfl⟩ := Prod.mk.inj heq
    cases takeParts? take _ (' ' :: c :: cs) <;> rfl

theorem length_render_le_spaced {clauses : List Clause} {c : Clause} (hc : c ∈ clauses) :
    c.render.length ≤ (spaced clauses).length := by
  induction clauses with
  | nil => contradiction
  | cons first clauses ih =>
    simp only [spaced, List.flatMap_cons, List.length_append, List.length_cons,
      String.length_toList] at ih ⊢
    rcases List.mem_cons.1 hc with rfl | hc
    · omega
    · have hle := ih hc
      omega

/-- Parts that all have to hold are read back. -/
theorem takeGroup?_all {first second : Clause} {others : List Clause} (hfirst : Reads take first)
    (hothers : ∀ c ∈ second :: others, Reads take c) (hsecond : second.IsReadable)
    (rest : List Char) :
    takeGroup? take (first.render.toList ++ (spaced (second :: others) ++ ')' :: rest)) =
      some (.all ((first :: second :: others).map Clause.tree), rest) := by
  have hparts := takeParts?_spaced hothers (length_lt_length_spaced (second :: others) rest) rest
  obtain ⟨c, cs, hcs, hc, -⟩ := second.exists_cons_render hsecond
  have htext : spaced (second :: others) ++ ')' :: rest =
      ' ' :: c :: (cs ++ (spaced others ++ ')' :: rest)) := by
    simp [spaced, hcs]
  have hgroup := hfirst _ (closes_spaced (second :: others) rest)
  -- The second part begins with no bar, so the group is no alternative.
  rw [htext] at hparts hgroup ⊢
  rw [takeGroup?_of_ne hgroup hc, hparts]
  rfl

/-- Two alternatives are read back. -/
theorem takeGroup?_either {left right : Clause} (hleft : Reads take left) (hright : Reads take right)
    (rest : List Char) :
    takeGroup? take
        (left.render.toList ++ ' ' :: '|' :: ' ' :: (right.render.toList ++ ')' :: rest)) =
      some (.either left.tree right.tree, rest) := by
  have hsecond := hright _ (closes_cons (.inr (.inl rfl)) rest)
  rw [takeGroup?, hleft _ (closes_cons (.inl rfl) _)]
  simp [hsecond, takeChar?]

/-! ## Clauses -/

section Cases

variable {depth : Nat}

theorem reads_field (negated : Bool) {name : String} (hname : IsWord name) {demand : Demand}
    (hdemand : demand.IsReadable) : Reads (takeClause? (depth + 1)) (.field negated name demand) := by
  intro rest hrest
  have hfield := takeField?_render negated hname hdemand hrest
  rw [Clause.toList_render_field]
  cases negated with
  | true => simpa [takeClause?, Clause.tree] using hfield
  | false => simpa [takeClause?, Clause.tree] using hfield

theorem reads_literal {text : String} (h : text ≠ "") :
    Reads (takeClause? (depth + 1)) (.literal text) := by
  intro rest hrest
  have hliteral := takeLiteral_escapeChars hrest.endsLiteral text.toList
  rw [← toList_escape] at hliteral
  obtain ⟨c, cs, hcs, hc⟩ := exists_cons_escape h
  have hparen := ne_of_begins (d := '(') hc (by decide) (by decide)
  have hminus := ne_of_begins (d := '-') hc (by decide) (by decide)
  have hat := ne_of_begins (d := '@') hc (by decide) (by decide)
  rw [Clause.render, Clause.tree]
  rw [hcs, List.cons_append] at hliteral ⊢
  rw [takeClause?, hliteral]
  · simp [h]
  all_goals simp [hparen, hminus, hat]

/-- A conjunction is a group of two parts. -/
theorem reads_conj {left right : Clause} (hright : right.IsReadable)
    (ihl : Reads (takeClause? depth) left) (ihr : Reads (takeClause? depth) right) :
    Reads (takeClause? (depth + 1)) (.conj left right) := by
  intro rest _
  have hothers : ∀ c ∈ [right], Reads (takeClause? depth) c := by
    intro c hc
    rw [List.mem_singleton.1 hc]
    exact ihr
  have hgroup := takeGroup?_all ihl hothers hright rest
  rw [Clause.toList_render_conj]
  simpa [spaced, takeClause?_group, Clause.tree] using hgroup

theorem reads_disj {left right : Clause} (ihl : Reads (takeClause? depth) left)
    (ihr : Reads (takeClause? depth) right) :
    Reads (takeClause? (depth + 1)) (.disj left right) := by
  intro rest _
  have hgroup := takeGroup?_either ihl ihr rest
  rw [Clause.toList_render_disj]
  simpa [takeClause?_group, Clause.tree] using hgroup

theorem reads_neg {operand : Clause} (ih : Reads (takeClause? depth) operand) :
    Reads (takeClause? (depth + 1)) (.neg operand) := by
  intro rest _
  have hoperand := ih _ (closes_cons (.inr (.inl rfl)) rest)
  rw [Clause.toList_render_neg]
  simp [takeClause?, hoperand, takeChar?, Clause.tree]

end Cases

theorem length_render_pos {c : Clause} (hc : c.IsReadable) : 0 < c.render.length := by
  obtain ⟨first, cs, hcs, -⟩ := c.exists_cons_render hc
  rw [← String.length_toList, hcs]
  exact Nat.succ_pos _

/-- The reader reads every readable clause that its depth admits. -/
theorem takeClause?_reads {c : Clause} (hc : c.IsReadable) {depth : Nat}
    (hdepth : c.render.length ≤ depth) : Reads (takeClause? depth) c := by
  induction depth generalizing c with
  | zero => exact absurd (length_render_pos hc) (by omega)
  | succ depth ih =>
    -- The operands are shorter than the clause by their parentheses.
    cases c with
    | field negated name demand => exact reads_field negated hc.1 hc.2
    | literal text => exact reads_literal hc
    | conj left right =>
      have hlength := congrArg List.length (Clause.toList_render_conj left right)
      simp only [String.length_toList, List.length_cons, List.length_append] at hlength
      exact reads_conj hc.2 (ih hc.1 (by omega)) (ih hc.2 (by omega))
    | disj left right =>
      have hlength := congrArg List.length (Clause.toList_render_disj left right)
      simp only [String.length_toList, List.length_cons, List.length_append] at hlength
      exact reads_disj (ih hc.1 (by omega)) (ih hc.2 (by omega))
    | neg operand =>
      have hlength := congrArg List.length (Clause.toList_render_neg operand)
      simp only [String.length_toList, List.length_cons, List.length_append] at hlength
      exact reads_neg (ih hc (by omega))

/-! ## Queries -/

theorem readQuery?_eq_some {text : String} {tree : QueryTree} (hstar : text ≠ "*")
    (htext : takeClause? text.length text.toList = some (tree, [])) :
    readQuery? text = some tree := by
  rw [readQuery?, if_neg hstar, htext]

/-- A readable clause on its own is read back. -/
theorem readQuery?_render {c : Clause} (hc : c.IsReadable) : readQuery? c.render = some c.tree := by
  apply readQuery?_eq_some
  · -- No readable clause begins with a star.
    intro hstar
    obtain ⟨first, cs, hcs, -, hfirst⟩ := c.exists_cons_render hc
    rw [hstar] at hcs
    exact hfirst (List.cons.inj hcs).1.symm
  · have htree := takeClause?_reads hc (Nat.le_refl _) [] closes_nil
    rwa [List.append_nil] at htree

theorem toList_intercalate_render (first : Clause) (others : List Clause) :
    (" ".intercalate ((first :: others).map Clause.render)).toList =
      first.render.toList ++ spaced others := by
  induction others generalizing first with
  | nil => simp [spaced]
  | cons second others ih =>
    rw [List.map_cons, List.map_cons, String.intercalate_cons_cons, ← List.map_cons,
      String.toList_append, String.toList_append, ih]
    simp [spaced]

/-- Several readable clauses between parentheses are read back. -/
theorem readQuery?_intercalate {first second : Clause} {others : List Clause}
    (hclauses : ∀ c ∈ first :: second :: others, c.IsReadable) :
    readQuery? ("(" ++ " ".intercalate ((first :: second :: others).map Clause.render) ++ ")") =
      some (.all ((first :: second :: others).map Clause.tree)) := by
  have htext : ("(" ++ " ".intercalate ((first :: second :: others).map Clause.render) ++
      ")").toList = '(' :: (first.render.toList ++ (spaced (second :: others) ++ [')'])) := by
    rw [String.toList_append, String.toList_append, toList_intercalate_render]
    simp
  apply readQuery?_eq_some
  · -- The text begins with a parenthesis.
    intro hstar
    rw [hstar] at htext
    have hparen := (List.cons.inj htext).1
    contradiction
  · -- Every clause is shorter than the whole text, so the depth is enough for each.
    rw [← String.length_toList, htext, List.length_cons, takeClause?]
    have hreads : ∀ c ∈ first :: second :: others,
        Reads (takeClause? (first.render.toList ++ (spaced (second :: others) ++ [')'])).length) c := by
      intro c hc
      apply takeClause?_reads (hclauses c hc)
      rw [List.length_append, List.length_append]
      rcases List.mem_cons.1 hc with rfl | hc
      · rw [String.length_toList]
        omega
      · have hlength := length_render_le_spaced hc
        omega
    exact takeGroup?_all (hreads first (by simp)) (fun c hc => hreads c (by simp [hc]))
      (hclauses second (by simp)) []

/-- The text of several conditions is read back as the conjunction of their trees. -/
theorem readQuery?_text {clauses : List Clause} (hclauses : ∀ c ∈ clauses, c.IsReadable)
    {q : CompiledQuery} (hq : q.conditions = clauses.map Clause.render) :
    readQuery? q.text = some (.conjunction (clauses.map Clause.tree)) := by
  unfold CompiledQuery.text
  match clauses with
  | [] =>
    rw [hq]
    rfl
  | [c] =>
    rw [hq]
    exact readQuery?_render (hclauses c (by simp))
  | first :: second :: others =>
    rw [hq]
    exact readQuery?_intercalate hclauses

/-- The filters of a compiled query have trees, and their clauses are readable. -/
theorem exists_clauses_of_compile {d : Descriptor} (hd : d.NamesAreWords) {filters : List (Predicate Value)}
    {texts : List String} (h : filters.mapM (·.compile d) = .ok texts) :
    ∃ clauses : List Clause, texts = clauses.map Clause.render ∧
      filters.mapM (·.tree? d) = some (clauses.map Clause.tree) ∧
        ∀ c ∈ clauses, c.IsReadable := by
  rw [mapM_eq_ok_iff] at h
  induction h with
  | nil => exact ⟨[], rfl, rfl, by simp⟩
  | cons hp _ ih =>
    obtain ⟨c, hc, rfl⟩ := compile_eq_ok_iff.1 hp
    obtain ⟨clauses, rfl, htrees, hclauses⟩ := ih
    refine ⟨c :: clauses, rfl, ?_, ?_⟩
    · simp [tree?_of_toClause hc, htrees]
    · intro e he
      rcases List.mem_cons.1 he with rfl | he
      · exact isReadable_of_toClause hd hc
      · exact hclauses e he

/-- The text of a compiled predicate has the predicate's tree, and the text of a compiled query has the
conjunction of the trees of its filters. -/
theorem readQuery_compile {d : Descriptor} (hd : d.NamesAreWords) :
    (∀ (p : Predicate Value) (text : String), p.compile d = .ok text →
      ∃ tree, p.tree? d = some tree ∧ readQuery? text = some tree) ∧
    ∀ (q : Query Value) (compiled : CompiledQuery), q.compile d = .ok compiled →
      ∃ trees, q.filters.mapM (·.tree? d) = some trees ∧
        readQuery? compiled.text = some (.conjunction trees) := by
  constructor
  · intro p text h
    obtain ⟨c, hc, rfl⟩ := compile_eq_ok_iff.1 h
    exact ⟨c.tree, tree?_of_toClause hc, readQuery?_render (isReadable_of_toClause hd hc)⟩
  · intro q compiled h
    obtain ⟨texts, htexts, -, -, rfl⟩ := Query.compile_eq_ok_iff.1 h
    obtain ⟨clauses, rfl, htrees, hclauses⟩ := exists_clauses_of_compile hd htexts
    exact ⟨clauses.map Clause.tree, htrees, readQuery?_text hclauses rfl⟩

/-- A tag that poses as syntax stays one literal. -/
theorem readQuery_compile_of_syntax :
    (⟨"notes", [⟨"tag_1", .tag, false, .text⟩], []⟩ : Descriptor).NamesAreWords ∧
    ((Predicate.compare "tag_1" .ne (.literal (.text "a\x7d | -(@b:[0 1] \\"))).disj
        (.neg (.constant (.text "*")))).compile ⟨"notes", [⟨"tag_1", .tag, false, .text⟩], []⟩ =
      .ok "(-@tag_1:\x7ba\\\x7d\\ \\|\\ \\-\\(\\@b\\:\\[0\\ 1\\]\\ \\\\\x7d | \\*)" ∧
    readQuery? "(-@tag_1:\x7ba\\\x7d\\ \\|\\ \\-\\(\\@b\\:\\[0\\ 1\\]\\ \\\\\x7d | \\*)" =
      some (.either (.field true "tag_1" (.tag ⟨false, "a\x7d | -(@b:[0 1] \\", false⟩))
        (.literal "*")) := by
  have hd : (⟨"notes", [⟨"tag_1", .tag, false, .text⟩], []⟩ : Descriptor).NamesAreWords := by
    intro f hf
    rw [List.mem_singleton.1 hf]
    have hchars : "tag_1".toList.all (fun c => c.isAlphanum || c == '_') = true := by decide
    refine isWord_of_isAlphanum (by decide) fun c hc => ?_
    simpa using List.all_eq_true.1 hchars c hc
  have hcompile : ((Predicate.compare "tag_1" .ne (.literal (.text "a\x7d | -(@b:[0 1] \\"))).disj
        (.neg (.constant (.text "*")))).compile ⟨"notes", [⟨"tag_1", .tag, false, .text⟩], []⟩ =
      .ok "(-@tag_1:\x7ba\\\x7d\\ \\|\\ \\-\\(\\@b\\:\\[0\\ 1\\]\\ \\\\\x7d | \\*)" := by decide +kernel
  obtain ⟨tree, htree, hread⟩ := (readQuery_compile hd).1 _ _ hcompile
  exact ⟨hd, hcompile, hread.trans (htree.symm.trans rfl)⟩

end RecordSearch
