/-!
# Tables

A table maps text keys to values and keeps its entries in ascending key order, so two tables with the
same content are equal and listing one needs no sorting.

## Main definitions

* `Table` — entries in strictly ascending key order.
* `Table.get?`, `Table.insert`, `Table.erase` — the operations, each pinned by one lemma on `get?`.
* `Table.ofList` — later entries of the list replace earlier ones.
* `Table.ext` — equal lookups make equal tables.
-/

namespace RecordSearch

/-- A finite map from text keys, listed in ascending key order. -/
structure Table (α : Type) where
  entries : List (String × α)
  /-- Keys strictly ascend. -/
  ascending : entries.Pairwise (fun a b => a.1 < b.1) := by simp
  deriving DecidableEq, Repr

namespace Table

variable {α : Type}

/-- The table without entries. -/
def empty : Table α where
  entries := []

instance : Inhabited (Table α) := ⟨empty⟩

instance : EmptyCollection (Table α) := ⟨empty⟩

/-- Keys in ascending order. -/
def keys (t : Table α) : List String :=
  t.entries.map Prod.fst

/-- How many keys the table holds. -/
def size (t : Table α) : Nat :=
  t.entries.length

/-- Whether the table holds nothing. -/
def isEmpty (t : Table α) : Bool :=
  t.entries.isEmpty

/-- The first value listed under a key. -/
def lookup (key : String) : List (String × α) → Option α
  | [] => none
  | (k, v) :: rest => if k = key then some v else lookup key rest

/-- The value stored under a key. -/
def get? (t : Table α) (key : String) : Option α :=
  lookup key t.entries

/-- Whether a key is present. -/
def contains (t : Table α) (key : String) : Bool :=
  (t.get? key).isSome

/-- Put an entry at its place in an ascending list, replacing the one under the same key. -/
def place (key : String) (value : α) : List (String × α) → List (String × α)
  | [] => [(key, value)]
  | (k, v) :: rest =>
    if key < k then (key, value) :: (k, v) :: rest
    else if k = key then (key, value) :: rest
    else (k, v) :: place key value rest

theorem mem_place {key : String} {value : α} {e : String × α} {l : List (String × α)}
    (h : e ∈ place key value l) : e = (key, value) ∨ e ∈ l := by
  induction l with
  | nil => simpa [place] using h
  | cons head rest ih =>
    obtain ⟨k, v⟩ := head
    unfold place at h
    split at h
    · simpa using h
    · split at h
      · rcases List.mem_cons.1 h with h | h
        · exact .inl h
        · exact .inr (List.mem_cons_of_mem _ h)
      · rcases List.mem_cons.1 h with h | h
        · exact .inr (h ▸ List.mem_cons_self)
        · exact (ih h).imp_right (List.mem_cons_of_mem _)

theorem lt_of_not_lt_of_ne {a b : String} (h : ¬ a < b) (hne : b ≠ a) : b < a := by
  rcases Std.lt_trichotomy a b with h' | h' | h'
  · exact absurd h' h
  · exact absurd h'.symm hne
  · exact h'

theorem pairwise_place {key : String} {value : α} {l : List (String × α)}
    (h : l.Pairwise (fun a b => a.1 < b.1)) :
    (place key value l).Pairwise (fun a b => a.1 < b.1) := by
  induction l with
  | nil => simp [place]
  | cons head rest ih =>
    obtain ⟨k, v⟩ := head
    obtain ⟨hhead, hrest⟩ := List.pairwise_cons.1 h
    unfold place
    split
    case isTrue hlt =>
      refine List.pairwise_cons.2 ⟨fun e he => ?_, h⟩
      rcases List.mem_cons.1 he with rfl | he
      · exact hlt
      · exact String.lt_trans hlt (hhead e he)
    case isFalse hlt =>
      split
      case isTrue heq =>
        subst heq
        exact List.pairwise_cons.2 ⟨hhead, hrest⟩
      case isFalse hne =>
        refine List.pairwise_cons.2 ⟨fun e he => ?_, ih hrest⟩
        rcases mem_place he with rfl | he
        · exact lt_of_not_lt_of_ne hlt hne
        · exact hhead e he

/-- Store a value under a key, in place of any earlier one. -/
def insert (t : Table α) (key : String) (value : α) : Table α where
  entries := place key value t.entries
  ascending := pairwise_place t.ascending

/-- Forget a key. -/
def erase (t : Table α) (key : String) : Table α where
  entries := t.entries.filter (fun e => e.1 != key)
  ascending := t.ascending.filter _

/-- Store every pair in turn, so that a later pair wins over an earlier one of the same key. -/
def insertAll (t : Table α) (pairs : List (String × α)) : Table α :=
  pairs.foldl (fun t p => t.insert p.1 p.2) t

/-- The table of a list of pairs; the last pair of a key wins. -/
def ofList (pairs : List (String × α)) : Table α :=
  empty.insertAll pairs

/-! ## Lookup after each operation -/

@[simp] theorem get?_empty (key : String) : (empty : Table α).get? key = none := rfl

theorem lookup_place (key other : String) (value : α) (l : List (String × α)) :
    lookup other (place key value l) = if key = other then some value else lookup other l := by
  induction l with
  | nil => simp [place, lookup]
  | cons head rest ih =>
    obtain ⟨k, v⟩ := head
    unfold place
    split
    · simp [lookup]
    · split
      case isTrue heq => subst heq; by_cases h : k = other <;> simp [lookup, h]
      case isFalse hne =>
        by_cases h : k = other
        · subst h; simp [lookup, Ne.symm hne]
        · simp [lookup, h, ih]

theorem get?_insert (t : Table α) (key other : String) (value : α) :
    (t.insert key value).get? other = if key = other then some value else t.get? other :=
  lookup_place key other value t.entries

@[simp] theorem get?_insert_self (t : Table α) (key : String) (value : α) :
    (t.insert key value).get? key = some value := by
  simp [get?_insert]

theorem lookup_filter_ne (key other : String) (l : List (String × α)) :
    lookup other (l.filter (fun e => e.1 != key)) = if key = other then none else lookup other l := by
  induction l with
  | nil => simp [lookup]
  | cons head rest ih =>
    obtain ⟨k, v⟩ := head
    by_cases h : k = key
    · subst h
      rw [List.filter_cons_of_neg (by simp), ih]
      by_cases h' : k = other <;> simp [lookup, h']
    · rw [List.filter_cons_of_pos (by simpa using h)]
      by_cases h' : k = other
      · subst h'; simp [lookup, Ne.symm h]
      · simp [lookup, ih, h']

theorem get?_erase (t : Table α) (key other : String) :
    (t.erase key).get? other = if key = other then none else t.get? other :=
  lookup_filter_ne key other t.entries

/-! ## Equal lookups make equal tables -/

theorem lookup_eq_some_iff {key : String} {value : α} {l : List (String × α)}
    (h : l.Pairwise (fun a b => a.1 < b.1)) : lookup key l = some value ↔ (key, value) ∈ l := by
  induction l with
  | nil => simp [lookup]
  | cons head rest ih =>
    obtain ⟨k, v⟩ := head
    obtain ⟨hhead, hrest⟩ := List.pairwise_cons.1 h
    by_cases hk : k = key
    · subst hk
      refine ⟨fun hv => ?_, fun hv => ?_⟩
      · simp [lookup] at hv; simp [hv]
      · rcases List.mem_cons.1 hv with hv | hv
        · simp only [Prod.mk.injEq, true_and] at hv; simp [lookup, hv]
        · exact absurd (hhead _ hv) (String.lt_irrefl k)
    · simp [lookup, hk, ih hrest, Ne.symm hk]

theorem get?_eq_some_iff {t : Table α} {key : String} {value : α} :
    t.get? key = some value ↔ (key, value) ∈ t.entries :=
  lookup_eq_some_iff t.ascending

theorem entries_eq_of_mem_iff {l₁ l₂ : List (String × α)}
    (h₁ : l₁.Pairwise (fun a b => a.1 < b.1)) (h₂ : l₂.Pairwise (fun a b => a.1 < b.1))
    (h : ∀ e, e ∈ l₁ ↔ e ∈ l₂) : l₁ = l₂ := by
  induction l₁ generalizing l₂ with
  | nil =>
    cases l₂ with
    | nil => rfl
    | cons b _ => exact absurd ((h b).2 List.mem_cons_self) List.not_mem_nil
  | cons a r₁ ih =>
    cases l₂ with
    | nil => exact absurd ((h a).1 List.mem_cons_self) List.not_mem_nil
    | cons b r₂ =>
      obtain ⟨ha, hr₁⟩ := List.pairwise_cons.1 h₁
      obtain ⟨hb, hr₂⟩ := List.pairwise_cons.1 h₂
      have hab : a = b := by
        rcases List.mem_cons.1 ((h a).1 List.mem_cons_self) with hab | hab
        · exact hab
        · rcases List.mem_cons.1 ((h b).2 List.mem_cons_self) with hba | hba
          · exact hba.symm
          · exact absurd (String.lt_trans (hb a hab) (ha b hba)) (String.lt_irrefl _)
      subst hab
      refine congrArg (a :: ·) (ih hr₁ hr₂ fun e => ⟨fun he => ?_, fun he => ?_⟩)
      · rcases List.mem_cons.1 ((h e).1 (List.mem_cons_of_mem _ he)) with rfl | he'
        · exact absurd (ha e he) (String.lt_irrefl _)
        · exact he'
      · rcases List.mem_cons.1 ((h e).2 (List.mem_cons_of_mem _ he)) with rfl | he'
        · exact absurd (hb e he) (String.lt_irrefl _)
        · exact he'

/-- Tables that answer every lookup alike are equal. -/
theorem ext_get? {t₁ t₂ : Table α} (h : ∀ key, t₁.get? key = t₂.get? key) : t₁ = t₂ := by
  have hmem : ∀ e, e ∈ t₁.entries ↔ e ∈ t₂.entries := fun e => by
    rw [← get?_eq_some_iff, ← get?_eq_some_iff, h]
  obtain ⟨l₁, h₁⟩ := t₁
  obtain ⟨l₂, h₂⟩ := t₂
  obtain rfl := entries_eq_of_mem_iff h₁ h₂ hmem
  rfl

end Table

end RecordSearch
