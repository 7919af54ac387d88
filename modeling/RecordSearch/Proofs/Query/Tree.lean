import RecordSearch.Proofs.Clause.Marker

/-!
# Trees of queries

What a query means apart from its text: which fields it asks for what, and how the parts are joined. A
tree keeps the texts of bounds, since an integer and a float of one value are written alike, and joins
any number of parts at once, since filters of a query are joined like the sides of a conjunction.

A predicate determines its tree without a detour through text. Where it compiles, the tree of its clause
is the same.

## Main definitions

* `QueryTree` — the trees.
* `Predicate.tree?` — what a predicate asks of the fields of a descriptor.
* `Clause.tree` — the tree of a clause.
* `Clause.IsReadable` — names are words, and no literal is empty.

## Main results

* `tree?_of_toClause` — a predicate that compiles has the tree of its clause, which is readable.
-/

namespace RecordSearch

/-- What a leaf asks of its field: a number between two bounds, a word, or a tag. -/
inductive FieldTest where
  | within (low high : String)
  | word (pattern : Pattern)
  | tag (pattern : Pattern)
  deriving DecidableEq, Repr

/-- What a query asks. -/
inductive QueryTree where
  | field (negated : Bool) (name : String) (test : FieldTest)
  | literal (text : String)
  /-- Every part has to hold. -/
  | all (parts : List QueryTree)
  | either (left right : QueryTree)
  | neg (operand : QueryTree)
  deriving Repr

/-- The conjunction of some trees; a single one stands for itself. -/
def QueryTree.conjunction : List QueryTree → QueryTree
  | [single] => single
  | parts => .all parts

/-! ## The tree of a predicate -/

namespace FieldDescriptor

/-- What a leaf asks of a number: the range of the comparison, with its bounds as texts. -/
def rangeTree (f : FieldDescriptor) (op : Comparison) (n : Number) : QueryTree :=
  .field (op = .ne) f.name <|
    match op with
    | .eq | .ne => .within n.render n.render
    | .gt => .within (n.offset strictStep).render "+inf"
    | .ge => .within n.render "+inf"
    | .lt => .within "-inf" (n.offset (-strictStep)).render
    | .le => .within "-inf" n.render

/-- What a leaf asks of a text or a tag. -/
def patternTree? (f : FieldDescriptor) (negated : Bool) (pattern : Pattern) : Option QueryTree :=
  match f.kind with
  | .numeric => none
  | .text => some (.field negated f.name (.word pattern))
  | .tag => some (.field negated f.name (.tag pattern))

/-- What a comparison asks: the range of a number, or equality with the token. -/
def compareTree? (f : FieldDescriptor) (op : Comparison) (s : Scalar) : Option QueryTree :=
  match f.kind with
  | .numeric => s.number?.map (f.rangeTree op)
  | _ => f.patternTree? (op = .ne) ⟨false, s.token, false⟩

end FieldDescriptor

/-- What a predicate asks of the fields of a descriptor. A negation is kept where its operand mentions a
field. -/
def Predicate.tree? (d : Descriptor) : Predicate Value → Option QueryTree
  | compare name op operand => do
    let f ← d.field? name
    let s ← operand.scalar?
    f.compareTree? op s
  | call name method operand => do
    let f ← d.field? name
    let s ← operand.scalar?
    f.patternTree? false ⟨method != .startsWith, s.token, method != .endsWith⟩
  | member name => do
    let f ← d.field? name
    f.compareTree? .eq (.bool true)
  | constant v => do
    let s ← v.scalar?
    return .literal s.token
  | conj left right => return .all [← left.tree? d, ← right.tree? d]
  | disj left right => return .either (← left.tree? d) (← right.tree? d)
  | neg operand => do
    let t ← operand.tree? d
    return if operand.mentionsField then .neg t else t

/-! ## The tree of a clause -/

/-- The demand with its bounds as texts. -/
def Demand.test : Demand → FieldTest
  | within low high => .within low.render high.render
  | word pattern => .word pattern
  | tag pattern => .tag pattern

/-- The tree of a clause. -/
def Clause.tree : Clause → QueryTree
  | field negated name demand => .field negated name demand.test
  | literal text => .literal text
  | conj left right => .all [left.tree, right.tree]
  | disj left right => .either left.tree right.tree
  | neg operand => .neg operand.tree

/-- A name without reserved characters, such as a word of letters, digits and underscores. -/
def IsWord (name : String) : Prop :=
  name ≠ "" ∧ ∀ c ∈ name.toList, isReserved c = false

theorem isBlank_eq_false_of_isAlphanum {c : Char} (h : c.isAlphanum = true) : isBlank c = false := by
  have hcode : c.toNat = c.val.toNat := rfl
  unfold Char.isAlphanum Char.isAlpha Char.isUpper Char.isLower Char.isDigit at h
  simp only [Bool.or_eq_true, Bool.and_eq_true, decide_eq_true_eq, UInt32.le_iff_toNat_le] at h
  simp at h
  simp [isBlank]
  omega

theorem isReserved_eq_false_of_isAlphanum {c : Char} (h : c.isAlphanum = true) :
    isReserved c = false := by
  have hreserved : reservedChars.all (!·.isAlphanum) = true := by decide
  have hnot : c ∉ reservedChars := by
    intro hc
    have hother := List.all_eq_true.1 hreserved c hc
    rw [h] at hother
    contradiction
  rw [isReserved, isBlank_eq_false_of_isAlphanum h]
  simpa using hnot

/-- A word of letters, digits and underscores. -/
theorem isWord_of_isAlphanum {name : String} (hne : name ≠ "")
    (h : ∀ c ∈ name.toList, c.isAlphanum = true ∨ c = '_') : IsWord name := by
  refine ⟨hne, fun c hc => ?_⟩
  rcases h c hc with hc | rfl
  · exact isReserved_eq_false_of_isAlphanum hc
  · rfl

/-- The literal that a demand matches is not empty. -/
def Demand.IsReadable : Demand → Prop
  | within _ _ => True
  | word pattern => pattern.literal ≠ ""
  | tag pattern => pattern.literal ≠ ""

/-- Names are words, and no literal is empty. -/
def Clause.IsReadable : Clause → Prop
  | field _ name demand => IsWord name ∧ demand.IsReadable
  | literal text => text ≠ ""
  | conj left right => left.IsReadable ∧ right.IsReadable
  | disj left right => left.IsReadable ∧ right.IsReadable
  | neg operand => operand.IsReadable

/-- The names of all declared fields are words. -/
def Descriptor.NamesAreWords (d : Descriptor) : Prop :=
  ∀ f ∈ d.indexed ++ d.unindexed, IsWord f.name

theorem Descriptor.NamesAreWords.isWord {d : Descriptor} (hd : d.NamesAreWords) {name : String}
    {f : FieldDescriptor} (hf : d.field? name = some f) : IsWord f.name := by
  rw [field?, Option.or_eq_some_iff] at hf
  rcases hf with hf | ⟨-, hf⟩
  · exact hd f (List.mem_append_left _ (List.mem_of_find?_eq_some hf))
  · exact hd f (List.mem_append_right _ (List.mem_of_find?_eq_some hf))

/-! ## Compiling keeps the tree -/

namespace FieldDescriptor

theorem rangeTree_eq (f : FieldDescriptor) (op : Comparison) (n : Number) :
    f.rangeTree op n = (Clause.field (op = .ne) f.name (op.range n)).tree := by
  cases op <;> rfl

theorem compareTree?_of_compare {f : FieldDescriptor} {op : Comparison} {s : Scalar}
    {fragment : String} {c : Clause} (h : f.compare op s fragment = .ok c) :
    f.compareTree? op s = some c.tree := by
  rw [compare_eq_ok_iff] at h
  unfold compareTree? patternTree?
  cases hkind : f.kind <;> simp only [hkind] at h ⊢
  case numeric =>
    obtain ⟨n, hn, -, rfl⟩ := h
    rw [hn, Option.map_some, rangeTree_eq]
  case text | tag =>
    obtain ⟨-, -, rfl⟩ := h
    rfl

theorem isReadable_of_compare {f : FieldDescriptor} {op : Comparison} {s : Scalar}
    {fragment : String} {c : Clause} (hname : IsWord f.name)
    (h : f.compare op s fragment = .ok c) : c.IsReadable := by
  rw [compare_eq_ok_iff] at h
  cases hkind : f.kind <;> simp only [hkind] at h
  case numeric =>
    obtain ⟨n, -, -, rfl⟩ := h
    exact ⟨hname, by cases op <;> trivial⟩
  case text | tag =>
    obtain ⟨-, hne, rfl⟩ := h
    exact ⟨hname, hne⟩

theorem patternTree?_of_call {f : FieldDescriptor} {method : TextMethod} {s : Scalar}
    {fragment : String} {c : Clause} (h : f.call method s fragment = .ok c) :
    f.patternTree? false ⟨method != .startsWith, s.token, method != .endsWith⟩ = some c.tree := by
  obtain ⟨-, -, h⟩ := call_eq_ok_iff.1 h
  unfold patternTree?
  cases hkind : f.kind <;> simp only [hkind] at h ⊢
  case text | tag =>
    subst h
    cases method <;> rfl

theorem isReadable_of_call {f : FieldDescriptor} {method : TextMethod} {s : Scalar}
    {fragment : String} {c : Clause} (hname : IsWord f.name)
    (h : f.call method s fragment = .ok c) : c.IsReadable := by
  obtain ⟨-, hne, h⟩ := call_eq_ok_iff.1 h
  cases hkind : f.kind <;> simp only [hkind] at h
  case text | tag =>
    subst h
    refine ⟨hname, ?_⟩
    cases method <;> exact hne

end FieldDescriptor

/-- A predicate that compiles has the tree of its clause. -/
theorem tree?_of_toClause {d : Descriptor} {p : Predicate Value} {c : Clause}
    (h : p.toClause d = .ok c) : p.tree? d = some c.tree := by
  induction p generalizing c with
  | compare name op o =>
    obtain ⟨f, hf, s, hs, hc⟩ := toClause_compare_eq_ok_iff.1 h
    simp [Predicate.tree?, hf, hs, FieldDescriptor.compareTree?_of_compare hc]
  | call name method o =>
    obtain ⟨f, hf, s, hs, hc⟩ := toClause_call_eq_ok_iff.1 h
    simp [Predicate.tree?, hf, hs, FieldDescriptor.patternTree?_of_call hc]
  | member name =>
    obtain ⟨f, hf, -, hc⟩ := toClause_member_eq_ok_iff.1 h
    simp [Predicate.tree?, hf, FieldDescriptor.compareTree?_of_compare hc]
  | constant v =>
    obtain ⟨s, hs, -, rfl⟩ := toClause_constant_eq_ok_iff.1 h
    simp [Predicate.tree?, hs, Clause.tree]
  | conj left right ihl ihr =>
    obtain ⟨l, hl, r, hr, rfl⟩ := toClause_conj_eq_ok_iff.1 h
    simp [Predicate.tree?, ihl hl, ihr hr, Clause.tree]
  | disj left right ihl ihr =>
    obtain ⟨l, hl, r, hr, rfl⟩ := toClause_disj_eq_ok_iff.1 h
    simp [Predicate.tree?, ihl hl, ihr hr, Clause.tree]
  | neg operand ih =>
    obtain ⟨inner, hinner, rfl⟩ := toClause_neg_eq_ok_iff.1 h
    -- The clause's text and the predicate's tree agree on whether the negation stays.
    rw [Clause.negated_eq, mentionsField_eq_of_toClause hinner]
    simp only [Predicate.tree?, ih hinner, Option.bind_eq_bind, Option.bind_some]
    split <;> rfl

/-- The clause of a predicate is readable where the declared names are words. -/
theorem isReadable_of_toClause {d : Descriptor} (hd : d.NamesAreWords) {p : Predicate Value} {c : Clause}
    (h : p.toClause d = .ok c) : c.IsReadable := by
  induction p generalizing c with
  | compare name op o =>
    obtain ⟨f, hf, s, -, hc⟩ := toClause_compare_eq_ok_iff.1 h
    exact FieldDescriptor.isReadable_of_compare (hd.isWord hf) hc
  | call name method o =>
    obtain ⟨f, hf, s, -, hc⟩ := toClause_call_eq_ok_iff.1 h
    exact FieldDescriptor.isReadable_of_call (hd.isWord hf) hc
  | member name =>
    obtain ⟨f, hf, -, hc⟩ := toClause_member_eq_ok_iff.1 h
    exact FieldDescriptor.isReadable_of_compare (hd.isWord hf) hc
  | constant v =>
    obtain ⟨s, -, hne, rfl⟩ := toClause_constant_eq_ok_iff.1 h
    exact hne
  | conj left right ihl ihr =>
    obtain ⟨l, hl, r, hr, rfl⟩ := toClause_conj_eq_ok_iff.1 h
    exact ⟨ihl hl, ihr hr⟩
  | disj left right ihl ihr =>
    obtain ⟨l, hl, r, hr, rfl⟩ := toClause_disj_eq_ok_iff.1 h
    exact ⟨ihl hl, ihr hr⟩
  | neg operand ih =>
    obtain ⟨inner, hinner, rfl⟩ := toClause_neg_eq_ok_iff.1 h
    have hreadable := ih hinner
    rw [Clause.negated_eq]
    split <;> exact hreadable

end RecordSearch
