import Mathlib.Algebra.Group.Nat.Even
import Mathlib.Data.List.DropRight
import RecordSearch.Proofs.Clause.Marker

/-!
# What decides a negation

A negation is written only around a clause whose text has an `@` that is not escaped. The scan for one goes
over the text pair by pair, so that it takes an `@` for escaped exactly if an odd number of backslashes stands
before it. Whatever the literals and the field names of a predicate are made of, such an `@` is there exactly
if some leaf asks a field.

## Main definitions

* `slashesBehind` — how many backslashes a piece of text ends with.
* `HasBareMarker` — an `@` that is not escaped, told by counting backslashes.
* `Predicate.AsksField` — some leaf is more than a constant.

## Main results

* `hasMarker_iff` — the scan finds what counting finds.
* `negates_iff_asksField` — the leaves decide whether a negation is written.
-/

namespace RecordSearch

/-! ## Scanning and counting -/

/-- How many backslashes stand at the end. -/
def slashesBehind (cs : List Char) : Nat :=
  (cs.rtakeWhile (· = '\\')).length

/-- Somewhere an `@` stands behind an even number of backslashes. -/
def HasBareMarker (cs : List Char) : Prop :=
  ∃ before after, cs = before ++ '@' :: after ∧ Even (slashesBehind before)

theorem slashesBehind_concat (cs : List Char) (c : Char) :
    slashesBehind (cs ++ [c]) = if c = '\\' then slashesBehind cs + 1 else 0 := by
  rw [slashesBehind, List.rtakeWhile_concat]
  by_cases h : c = '\\' <;> simp [slashesBehind, h]

/-- What stands before a text without backslash does not matter to the end of it. -/
theorem slashesBehind_cons {c : Char} (hc : c ≠ '\\') (cs : List Char) :
    slashesBehind (c :: cs) = slashesBehind cs := by
  induction cs using List.reverseRecOn with
  | nil => simp [slashesBehind, List.rtakeWhile, hc]
  | append_singleton cs d ih =>
    rw [← List.cons_append, slashesBehind_concat, slashesBehind_concat, ih]

/-- An escaped character and its backslash keep the number even or odd. -/
theorem even_slashesBehind_pair (c : Char) (cs : List Char) :
    Even (slashesBehind ('\\' :: c :: cs)) ↔ Even (slashesBehind cs) := by
  induction cs using List.reverseRecOn with
  | nil =>
    have hpair : slashesBehind ['\\', c] = if c = '\\' then 2 else 0 := slashesBehind_concat ['\\'] c
    rw [hpair]
    split <;> decide
  | append_singleton cs d ih =>
    rw [← List.cons_append, ← List.cons_append, slashesBehind_concat, slashesBehind_concat]
    split
    · rw [Nat.even_add_one, Nat.even_add_one, ih]
    · rfl

/-- A place in a text is its head, or one further on. -/
theorem exists_split_cons (Q : List Char → Char → List Char → Prop) (c : Char) (cs : List Char) :
    (∃ before d after, c :: cs = before ++ d :: after ∧ Q before d after) ↔
      Q [] c cs ∨ ∃ before d after, cs = before ++ d :: after ∧ Q (c :: before) d after := by
  constructor
  · rintro ⟨_ | ⟨e, before⟩, d, after, hsplit, hplace⟩
    · obtain ⟨rfl, rfl⟩ := List.cons.inj hsplit
      exact .inl hplace
    · obtain ⟨rfl, hrest⟩ := List.cons.inj hsplit
      exact .inr ⟨before, d, after, hrest, hplace⟩
  · rintro (hhead | ⟨before, d, after, rfl, hplace⟩)
    · exact ⟨[], c, cs, rfl, hhead⟩
    · exact ⟨c :: before, d, after, rfl, hplace⟩

/-- An `@` at the head, or one further on. -/
theorem exists_marker_cons {P : List Char → Prop} {c : Char} {cs : List Char} :
    (∃ before after, c :: cs = before ++ '@' :: after ∧ P before) ↔
      (c = '@' ∧ P []) ∨ ∃ before after, cs = before ++ '@' :: after ∧ P (c :: before) := by
  have hsplit := exists_split_cons (fun before d _ => d = '@' ∧ P before) c cs
  simpa only [and_left_comm (b := _ = '@'), exists_and_left, exists_eq_left] using hsplit

/-- The scan finds an `@` exactly if one stands behind an even number of backslashes. -/
theorem hasMarker_iff (cs : List Char) : hasMarker cs = true ↔ HasBareMarker cs := by
  -- The scan takes two characters at a backslash, and so does the count.
  fun_induction hasMarker cs with
  | case1 => simp [HasBareMarker]
  | case2 rest => exact iff_of_true rfl ⟨[], rest, rfl, by decide⟩
  | case3 =>
    rw [HasBareMarker, exists_marker_cons]
    simp
  | case4 c rest ih =>
    rw [ih, HasBareMarker, HasBareMarker, exists_marker_cons, exists_marker_cons]
    have hodd : ¬ Even (slashesBehind ['\\']) := by decide
    simp [even_slashesBehind_pair, hodd]
  | case5 c rest hat hlone hpair ih =>
    have hslash : c ≠ '\\' := by
      rintro rfl
      cases rest with
      | nil => exact hlone rfl rfl
      | cons d rest => exact hpair d rest rfl rfl
    rw [ih, HasBareMarker, HasBareMarker, exists_marker_cons]
    simp only [slashesBehind_cons hslash]
    exact ⟨.inr, fun h => h.resolve_left fun hmarker => hat hmarker.1⟩

/-! ## Negations -/

/-- Some leaf is a comparison, a text method or a bare field, and not a constant. -/
def Predicate.AsksField (p : Predicate Value) : Prop :=
  ∃ leaf ∈ p.leaves, ∀ v, leaf ≠ .constant v

theorem Predicate.mentionsField_iff (p : Predicate Value) : p.mentionsField = true ↔ p.AsksField := by
  induction p with
  | compare name op o | call name method o | member name | constant v =>
    simp [AsksField, leaves, mentionsField]
  | conj left right ihl ihr | disj left right ihl ihr =>
    simp only [mentionsField, Bool.or_eq_true, ihl, ihr, AsksField, leaves, List.mem_append, or_and_right,
      exists_or]
  | neg operand ih => exact ih

theorem negation_ne_self (text : String) : "-(" ++ text ++ ")" ≠ text := by
  intro h
  have hlength := congrArg (·.toList.length) h
  simp only [String.toList_append, List.length_append] at hlength
  change 2 + _ + 1 = _ at hlength
  omega

/-- The text of the negation of a predicate that compiles. -/
theorem compile_neg {d : Descriptor} {p : Predicate Value} {text : String} (h : p.compile d = .ok text) :
    (Predicate.neg p).compile d = .ok (if p.mentionsField then "-(" ++ text ++ ")" else text) := by
  obtain ⟨c, hc, rfl⟩ := compile_eq_ok_iff.1 h
  refine compile_eq_ok_iff.2 ⟨c.negated, toClause_neg_eq_ok_iff.2 ⟨c, hc, rfl⟩, ?_⟩
  rw [Clause.negated_eq, mentionsField_eq_of_toClause hc]
  split <;> rfl

/-- The text of a predicate that compiles has an `@` behind an even number of backslashes, and the scan finds
it, exactly if some leaf asks a field. Exactly then the negation is written around the text; otherwise it is
the text itself. -/
theorem negates_iff_asksField {d : Descriptor} {p : Predicate Value} {text : String}
    (h : p.compile d = .ok text) :
    (hasFieldMarker text = true ↔ p.AsksField) ∧
    (HasBareMarker text.toList ↔ p.AsksField) ∧
    ((Predicate.neg p).compile d = .ok ("-(" ++ text ++ ")") ↔ p.AsksField) ∧
    ((Predicate.neg p).compile d = .ok text ↔ ¬ p.AsksField) := by
  obtain ⟨c, hc, hrender⟩ := compile_eq_ok_iff.1 h
  have hscan : hasFieldMarker text = true ↔ p.AsksField := by
    rw [← hrender, hasFieldMarker_render, mentionsField_eq_of_toClause hc, p.mentionsField_iff]
  have hnegation := compile_neg h
  have hdiffer := negation_ne_self text
  refine ⟨hscan, (hasMarker_iff text.toList).symm.trans hscan, ?_⟩
  rw [hnegation, ← p.mentionsField_iff]
  cases p.mentionsField with
  | true => simp [hdiffer]
  | false => simp [hdiffer.symm]

/-- A literal with an `@` behind backslashes, which is no field, beside one that is. -/
theorem negates_of_literal_marker :
    let d : Descriptor := ⟨"notes", [⟨"a\\@b", .tag, false, .text⟩], []⟩
    let literal : Predicate Value := .constant (.text "\\\\@x")
    let both := literal.disj (.compare "a\\@b" .ne (.literal (.text "\\@")))
    (literal.compile d = .ok "\\\\\\\\\\@x" ∧ literal.neg.compile d = .ok "\\\\\\\\\\@x") ∧
    both.compile d = .ok "(\\\\\\\\\\@x | -@a\\@b:\x7b\\\\\\@\x7d)" ∧
    both.neg.compile d = .ok "-((\\\\\\\\\\@x | -@a\\@b:\x7b\\\\\\@\x7d))" := by
  intro d literal both
  have hliteral : literal.compile d = .ok "\\\\\\\\\\@x" := by decide +kernel
  have hboth : both.compile d = .ok "(\\\\\\\\\\@x | -@a\\@b:\x7b\\\\\\@\x7d)" := by decide +kernel
  have hnone : ¬ literal.AsksField := by
    rw [← Predicate.mentionsField_iff]
    decide
  have hsome : both.AsksField := by
    rw [← Predicate.mentionsField_iff]
    decide
  obtain ⟨-, -, -, hsame⟩ := negates_iff_asksField hliteral
  obtain ⟨-, -, hwrapped, -⟩ := negates_iff_asksField hboth
  exact ⟨⟨hliteral, hsame.2 hnone⟩, hboth, hwrapped.2 hsome⟩

end RecordSearch
