import RecordSearch.Proofs.Clause.Compile

/-!
# Where clauses mention fields

Negation asks the text of a clause whether it mentions a field. Literals are escaped, so the text gives
the answer that the tree gives, and the tree of a clause gives the answer of the predicate it stands for.

## Main results

* `hasMarker_render_append` — the text of a clause has a marker exactly if the clause mentions a field.
* `Clause.negated_eq` — negation by the tree.
* `mentionsField_eq_of_toClause` — compiling keeps whether a field is mentioned.
-/

namespace RecordSearch

/-- Whether some leaf asks a field. -/
def Clause.mentionsField : Clause → Bool
  | field .. => true
  | literal _ => false
  | conj left right => left.mentionsField || right.mentionsField
  | disj left right => left.mentionsField || right.mentionsField
  | neg operand => operand.mentionsField

theorem isReserved_at : isReserved '@' = true := by decide

theorem hasMarker_cons_of_ne {c : Char} (hat : c ≠ '@') (hslash : c ≠ '\\') (cs : List Char) :
    hasMarker (c :: cs) = hasMarker cs := by
  cases cs <;> simp [hasMarker, hslash]

/-- An escaped literal has no marker and ends where it seems to. -/
theorem hasMarker_escapeChars_append (cs rest : List Char) :
    hasMarker (escapeChars cs ++ rest) = hasMarker rest := by
  induction cs with
  | nil => rfl
  | cons c cs ih =>
    -- A reserved character stands behind a backslash, which skips it; no other one is a marker.
    by_cases h : isReserved c
    · simp [escapeChars, h, hasMarker, ih]
    · have hat : c ≠ '@' := fun e => h (e ▸ isReserved_at)
      have hslash : c ≠ '\\' := fun e => h (e ▸ isReserved_backslash)
      rw [escapeChars, if_neg h, List.cons_append, hasMarker_cons_of_ne hat hslash, ih]

theorem toList_escape (text : String) : (escape text).toList = escapeChars text.toList := by
  simp [escape]

/-- The text of a clause has a marker exactly if the clause mentions a field. -/
theorem hasMarker_render_append (c : Clause) (rest : List Char) :
    hasMarker (c.render.toList ++ rest) = (c.mentionsField || hasMarker rest) := by
  -- The text goes on behind every part, so the rest has to vary.
  induction c generalizing rest with
  | field negated name demand =>
    cases negated <;> simp [Clause.render, Clause.mentionsField, hasMarker]
  | literal text =>
    simp [Clause.render, Clause.mentionsField, toList_escape, hasMarker_escapeChars_append]
  | conj left right ihl ihr | disj left right ihl ihr =>
    simp [Clause.render, Clause.mentionsField, hasMarker_cons_of_ne, ihl, ihr, Bool.or_assoc]
  | neg operand ih =>
    simp [Clause.render, Clause.mentionsField, hasMarker_cons_of_ne, ih]

theorem hasFieldMarker_render (c : Clause) : hasFieldMarker c.render = c.mentionsField := by
  have h := hasMarker_render_append c []
  simpa [hasFieldMarker, hasMarker] using h

/-- Negation by the tree. -/
theorem Clause.negated_eq (c : Clause) :
    c.negated = if c.mentionsField then .neg c else c := by
  rw [negated, hasFieldMarker_render]

theorem Clause.mentionsField_negated (c : Clause) : c.negated.mentionsField = c.mentionsField := by
  rw [negated_eq]
  split <;> simp [mentionsField]

/-- Compiling keeps whether a field is mentioned. -/
theorem mentionsField_eq_of_toClause {d : Descriptor} {p : Predicate Value} {c : Clause}
    (h : p.toClause d = .ok c) : c.mentionsField = p.mentionsField := by
  induction p generalizing c with
  | compare name op o =>
    obtain ⟨f, -, s, -, hc⟩ := toClause_compare_eq_ok_iff.1 h
    obtain ⟨negated, demand, rfl⟩ := f.exists_field_of_compare hc
    rfl
  | call name method o =>
    obtain ⟨f, -, s, -, hc⟩ := toClause_call_eq_ok_iff.1 h
    obtain ⟨demand, rfl⟩ := f.exists_field_of_call hc
    rfl
  | member name =>
    obtain ⟨f, -, -, hc⟩ := toClause_member_eq_ok_iff.1 h
    obtain ⟨negated, demand, rfl⟩ := f.exists_field_of_compare hc
    rfl
  | constant v =>
    obtain ⟨s, -, -, rfl⟩ := toClause_constant_eq_ok_iff.1 h
    rfl
  | conj left right ihl ihr =>
    obtain ⟨l, hl, r, hr, rfl⟩ := toClause_conj_eq_ok_iff.1 h
    rw [Clause.mentionsField, Predicate.mentionsField, ihl hl, ihr hr]
  | disj left right ihl ihr =>
    obtain ⟨l, hl, r, hr, rfl⟩ := toClause_disj_eq_ok_iff.1 h
    rw [Clause.mentionsField, Predicate.mentionsField, ihl hl, ihr hr]
  | neg operand ih =>
    obtain ⟨inner, hinner, rfl⟩ := toClause_neg_eq_ok_iff.1 h
    rw [Clause.mentionsField_negated, Predicate.mentionsField, ih hinner]

end RecordSearch
