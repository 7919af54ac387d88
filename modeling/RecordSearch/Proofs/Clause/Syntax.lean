import RecordSearch.Proofs.Query.RoundTrip

/-!
# The syntax of each kind

A field is asked in one of three syntaxes, one for each kind: a range of numbers between brackets, a bare
pattern, or a pattern between braces. The first character behind the colon tells them apart, since no
pattern begins with a bracket or a brace. Whatever compiles to a leaf of a field is in the syntax of the
field's kind.

## Main definitions

* `FieldKind.Demands` — what stands behind the colon for a field of a kind.
* `FieldKind.Asks` — a clause that asks a field of a name in the syntax of a kind.
* `Predicate.asked?` — the field that a leaf is about.

## Main results

* `FieldKind.Asks.kind_eq` — a text is in one syntax at most.
* `asks_of_compile` — the clause of a leaf is in the syntax of its field's kind.
-/

namespace RecordSearch

/-- What a field of a kind is asked for, as it stands behind the colon. -/
inductive FieldKind.Demands : FieldKind → String → Prop
  | range {low high : String} (hlow : IsNumeral low) (hhigh : IsNumeral high) :
      Demands .numeric ("[" ++ low ++ " " ++ high ++ "]")
  | word {p : Pattern} (hp : p.literal ≠ "") : Demands .text p.render
  | tag {p : Pattern} (hp : p.literal ≠ "") : Demands .tag ("\x7b" ++ p.render ++ "\x7d")

/-- A text asks a field of a name, or asks for its opposite, in the syntax of a kind. -/
def FieldKind.Asks (kind : FieldKind) (name text : String) : Prop :=
  ∃ (negated : Bool) (demand : String), kind.Demands demand ∧
    text = (if negated then "-" else "") ++ "@" ++ name ++ ":" ++ demand

namespace FieldKind

variable {k l : FieldKind} {name text demand : String}

/-- The first character tells whether a demand is a range, and whether it is a tag. -/
theorem Demands.exists_cons (h : k.Demands demand) :
    ∃ c cs, demand.toList = c :: cs ∧ (c = '[' ↔ k = .numeric) ∧ (c = '{' ↔ k = .tag) := by
  cases h with
  | @range low high =>
    exact ⟨'[', low.toList ++ ' ' :: (high.toList ++ [']']), by simp, by decide, by decide⟩
  | @word p hp =>
    obtain ⟨c, cs, hcs, hrange, htag⟩ := exists_cons_pattern_ne hp
    exact ⟨c, cs, hcs, by simp [hrange], by simp [htag]⟩
  | @tag p => exact ⟨'{', p.render.toList ++ ['}'], by simp, by decide, by decide⟩

theorem Demands.kind_eq (hk : k.Demands demand) (hl : l.Demands demand) : k = l := by
  obtain ⟨c, cs, hcs, hrange, htag⟩ := hk.exists_cons
  obtain ⟨d, ds, hds, hrange', htag'⟩ := hl.exists_cons
  obtain ⟨rfl, -⟩ := List.cons.inj (hcs.symm.trans hds)
  rw [hrange] at hrange'
  rw [htag] at htag'
  cases k <;> cases l <;> simp_all

/-- A text asks a field in one syntax at most. -/
theorem Asks.kind_eq (hk : k.Asks name text) (hl : l.Asks name text) : k = l := by
  obtain ⟨negated, demand, hdemand, rfl⟩ := hk
  obtain ⟨negated', demand', hdemand', heq⟩ := hl
  -- The sign shows in the first character, and what stands behind the same name is the same.
  have hsame : demand = demand' := by
    rw [← String.toList_inj] at heq ⊢
    cases negated <;> cases negated'
    case true.false | false.true => simp at heq
    case true.true | false.false => simpa using heq
  exact hdemand.kind_eq (hsame ▸ hdemand')

theorem asks_field (negated : Bool) {demand : Demand} (h : k.Demands demand.render) :
    k.Asks name (Clause.field negated name demand).render :=
  ⟨negated, demand.render, h, rfl⟩

end FieldKind

/-- A range is written with numerals. -/
theorem demands_range (op : Comparison) (n : Number) :
    FieldKind.Demands .numeric (op.range n).render := by
  cases op <;> exact .range (Number.isNumeral_render _) (Number.isNumeral_render _)

namespace FieldDescriptor

variable {f : FieldDescriptor} {s : Scalar} {fragment : String} {c : Clause}

/-- The clause of a comparison is in the syntax of the field's kind. -/
theorem asks_of_compare {op : Comparison} (h : f.compare op s fragment = .ok c) :
    f.kind.Asks f.name c.render := by
  rw [compare_eq_ok_iff] at h
  cases hkind : f.kind <;> simp only [hkind] at h
  case numeric =>
    obtain ⟨n, -, -, rfl⟩ := h
    exact FieldKind.asks_field _ (demands_range op n)
  case text =>
    obtain ⟨-, hne, rfl⟩ := h
    exact FieldKind.asks_field _ (.word hne)
  case tag =>
    obtain ⟨-, hne, rfl⟩ := h
    exact FieldKind.asks_field _ (.tag hne)

theorem literal_pattern (method : TextMethod) (literal : String) :
    (method.pattern literal).literal = literal := by
  cases method <;> rfl

/-- The clause of a text method is in the syntax of the field's kind. -/
theorem asks_of_call {method : TextMethod} (h : f.call method s fragment = .ok c) :
    f.kind.Asks f.name c.render := by
  obtain ⟨-, hne, h⟩ := call_eq_ok_iff.1 h
  rw [← literal_pattern method s.token] at hne
  cases hkind : f.kind <;> simp only [hkind] at h
  case text =>
    subst h
    exact FieldKind.asks_field _ (.word hne)
  case tag =>
    subst h
    exact FieldKind.asks_field _ (.tag hne)

end FieldDescriptor

/-- The field that a leaf is about; a constant is about none. -/
def Predicate.asked? : Predicate Value → Option String
  | compare name _ _ => some name
  | call name _ _ => some name
  | member name => some name
  | _ => none

/-- The clause of a leaf is in the syntax of its field's kind. -/
theorem asks_of_compile {d : Descriptor} {p : Predicate Value} {name text : String}
    (hasked : p.asked? = some name) (h : p.compile d = .ok text) :
    ∃ f, d.field? name = some f ∧ f.kind.Asks name text := by
  obtain ⟨c, hc, rfl⟩ := compile_eq_ok_iff.1 h
  cases p with
  | compare field op o =>
    obtain rfl := Option.some.inj hasked
    obtain ⟨f, hf, s, -, hc⟩ := toClause_compare_eq_ok_iff.1 hc
    exact ⟨f, hf, name_of_field? hf ▸ FieldDescriptor.asks_of_compare hc⟩
  | call field method o =>
    obtain rfl := Option.some.inj hasked
    obtain ⟨f, hf, s, -, hc⟩ := toClause_call_eq_ok_iff.1 hc
    exact ⟨f, hf, name_of_field? hf ▸ FieldDescriptor.asks_of_call hc⟩
  | member field =>
    obtain rfl := Option.some.inj hasked
    obtain ⟨f, hf, -, hc⟩ := toClause_member_eq_ok_iff.1 hc
    exact ⟨f, hf, name_of_field? hf ▸ FieldDescriptor.asks_of_compare hc⟩
  | _ => simp [Predicate.asked?] at hasked

end RecordSearch
