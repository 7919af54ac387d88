import RecordSearch.Proofs.Storage.Matching

/-!
# The order of the matches

A search orders its matches by the values that they have in a field, as numbers or as texts, downwards if
it is asked to. The matches come by ascending key, and the sort that moves them about is stable; since it
is the comparison that is reversed and not the list, equal values keep the order of their keys in both
directions.

Comparing is reflexive and total on all values. Where it is transitive as well, there is one order that the
matches can stand in.

## Main definitions

* `IsTransitiveOn` — some values are compared transitively.
* `MemoryStore.value?`, `MemoryStore.valuesUnder` — the value of a record in a field, and those of all
  records under a prefix.
* `MemoryStore.Precedes`, `MemoryStore.Stands` — what an order says of a key and one behind it.
* `MemoryStore.Lists` — all keys under a prefix in an order.

## Main results

* `compareFieldValues_swap` — values that change places in a comparison.
* `pairwise_mergeSort_of_mem` — a sort ascends and is stable if the order is one among the members.
* `MemoryStore.eq_matchingKeys_iff` — the matches are the one list of all keys in the order asked for.
-/

namespace RecordSearch

/-! ## Comparing values -/

theorem BinaryFloat.compare?_swap (x y : BinaryFloat) :
    y.compare? x = (x.compare? y).map Ordering.swap := by
  cases x with
  | nan => cases y <;> rfl
  | infinite n =>
    cases y with
    | nan => cases n <;> rfl
    | infinite k => cases n <;> cases k <;> rfl
    | finite k m e => cases n <;> rfl
  | finite n m e =>
    cases y with
    | nan => rfl
    | infinite k => cases k <;> rfl
    | finite k m' e' =>
      rw [compare?, compare?, Option.map_some, Int.min_comm e' e]
      exact congrArg some Std.OrientedCmp.eq_swap

/-- Values that change places in a comparison. -/
theorem compareFieldValues_swap (a b : Option String) :
    compareFieldValues b a = (compareFieldValues a b).swap := by
  cases a with
  | none => cases b <;> rfl
  | some a =>
    cases b with
    | none => rfl
    | some b =>
      have htexts : compare b a = (compare a b).swap := Std.OrientedCmp.eq_swap
      unfold compareFieldValues
      dsimp only
      cases BinaryFormat.double.read? a with
      | none => cases BinaryFormat.double.read? b <;> exact htexts
      | some x =>
        cases BinaryFormat.double.read? b with
        | none => exact htexts
        | some y =>
          dsimp only
          rw [BinaryFloat.compare?_swap x y]
          cases x.compare? y <;> rfl

/-- No value is as great as a missing one. -/
theorem eq_none_of_compareFieldValues {a : Option String} (h : compareFieldValues none a ≠ .gt) :
    a = none := by
  cases a with
  | none => rfl
  | some a => exact absurd rfl h

/-- Some values are compared transitively. Since comparing is reflexive and total on all values, it is then
a total preorder on these. -/
def IsTransitiveOn (values : List String) : Prop :=
  ∀ a ∈ values, ∀ b ∈ values, ∀ c ∈ values,
    compareFieldValues (some a) (some b) ≠ .gt → compareFieldValues (some b) (some c) ≠ .gt →
      compareFieldValues (some a) (some c) ≠ .gt

instance (values : List String) : Decidable (IsTransitiveOn values) :=
  inferInstanceAs (Decidable (∀ a ∈ values, ∀ b ∈ values, ∀ c ∈ values, _))

/-- Missing values do not disturb the order of others. -/
theorem IsTransitiveOn.of_option {values : List String} (h : IsTransitiveOn values)
    {a b c : Option String} (ha : ∀ v ∈ a, v ∈ values) (hb : ∀ v ∈ b, v ∈ values)
    (hc : ∀ v ∈ c, v ∈ values) (hab : compareFieldValues a b ≠ .gt)
    (hbc : compareFieldValues b c ≠ .gt) : compareFieldValues a c ≠ .gt := by
  cases c with
  | none =>
    cases a with
    | none => decide
    | some a =>
      change Ordering.lt ≠ .gt
      decide
  | some c =>
    cases b with
    | none => exact absurd rfl hbc
    | some b =>
      cases a with
      | none => exact absurd rfl hab
      | some a => exact h a (ha a rfl) b (hb b rfl) c (hc c rfl) hab hbc

/-! ## Stable sorts -/

section Stable

variable {α : Type} {le : α → α → Bool} {r : α → α → Prop} {l : List α}

/-- A sort keeps the members that are tied with one of them as they were. -/
theorem filter_tied_mergeSort (htrans : ∀ a b c, le a b = true → le b c = true → le a c = true)
    (htotal : ∀ a b, (le a b || le b a) = true) (l : List α) (a : α) :
    (l.mergeSort le).filter (fun c => le a c && le c a) = l.filter fun c => le a c && le c a := by
  have hsorted : (l.filter fun c => le a c && le c a).Pairwise fun c d => le c d = true := by
    rw [List.pairwise_iff_forall_sublist]
    intro c d hcd
    have hc := List.of_mem_filter (hcd.subset List.mem_cons_self)
    have hd := List.of_mem_filter (hcd.subset (List.mem_cons_of_mem _ List.mem_cons_self))
    rw [Bool.and_eq_true] at hc hd
    exact htrans c a d hc.2 hd.1
  have hsublist := (List.sublist_mergeSort htrans htotal hsorted List.filter_sublist).filter
    fun c => le a c && le c a
  rw [List.filter_filter] at hsublist
  simp only [Bool.and_self] at hsublist
  exact (hsublist.eq_of_length ((List.mergeSort_perm l le).filter _).length_eq.symm).symm

/-- A sort ascends, and members that may stand either way round keep the order they had. -/
theorem pairwise_mergeSort_stable
    (htrans : ∀ a b c, le a b = true → le b c = true → le a c = true)
    (htotal : ∀ a b, (le a b || le b a) = true) (h : l.Pairwise r) :
    (l.mergeSort le).Pairwise fun a b => le a b = true ∧ (le b a = true → r a b) := by
  rw [List.pairwise_iff_forall_sublist]
  intro a b hab
  have hle := (List.pairwise_mergeSort htrans htotal l).forall_sublist hab
  refine ⟨hle, fun hba => ?_⟩
  have hself : le a a = true := htrans a b a hle hba
  have hpair : [a, b].filter (fun c => le a c && le c a) = [a, b] := by
    simp [hself, hle, hba]
  have htied := hab.filter fun c => le a c && le c a
  rw [filter_tied_mergeSort htrans htotal, hpair] at htied
  exact h.forall_sublist (htied.trans List.filter_sublist)

/-- The same if the order is one among the members only. -/
theorem pairwise_mergeSort_of_mem
    (htrans : ∀ a ∈ l, ∀ b ∈ l, ∀ c ∈ l, le a b = true → le b c = true → le a c = true)
    (htotal : ∀ a b, (le a b || le b a) = true) (h : l.Pairwise r) :
    (l.mergeSort le).Pairwise fun a b => le a b = true ∧ (le b a = true → r a b) := by
  -- The members are a type of their own, on which the order is one throughout.
  let leMember (a b : {a // a ∈ l}) : Bool := le a.1 b.1
  have hsort : l.mergeSort le = (l.attach.mergeSort leMember).map Subtype.val := by
    rw [List.map_mergeSort (s := le) fun _ _ _ _ => rfl, List.attach_map_subtype_val]
  have hmembers : l.attach.Pairwise fun a b => r a.1 b.1 := by
    rw [← List.pairwise_map (f := Subtype.val), List.attach_map_subtype_val]
    exact h
  rw [hsort, List.pairwise_map]
  exact pairwise_mergeSort_stable (fun a b c => htrans a a.2 b b.2 c c.2)
    (fun a b => htotal a b) hmembers

end Stable

namespace MemoryStore

/-! ## Records in an order -/

/-- The value of a stored record in a field. -/
def value? (m : MemoryStore) (field key : String) : Option String :=
  (m.hashes.get? key).bind (·.get? field)

/-- The values of the records under a prefix in a field. -/
def valuesUnder (m : MemoryStore) (start field : String) : List String :=
  (m.under start).filterMap fun e => e.2.get? field

theorem entryLe_iff {field : String} {descending : Bool} {a b : Entry} :
    entryLe field descending a b = true ↔
      compareFieldValues (a.2.get? field) (b.2.get? field) ≠ if descending then .lt else .gt := by
  cases descending <;> cases h : compareFieldValues (a.2.get? field) (b.2.get? field) <;>
    simp [entryLe, h]

theorem entryLe_total (field : String) (descending : Bool) (a b : Entry) :
    (entryLe field descending a b || entryLe field descending b a) = true := by
  rw [Bool.or_eq_true, entryLe_iff, entryLe_iff,
    compareFieldValues_swap (a.2.get? field) (b.2.get? field)]
  cases descending <;> cases compareFieldValues (a.2.get? field) (b.2.get? field) <;> decide

theorem entryLe_trans {values : List String} (h : IsTransitiveOn values) {field : String}
    {descending : Bool} {a b c : Entry} (ha : ∀ v ∈ a.2.get? field, v ∈ values)
    (hb : ∀ v ∈ b.2.get? field, v ∈ values) (hc : ∀ v ∈ c.2.get? field, v ∈ values)
    (hab : entryLe field descending a b = true) (hbc : entryLe field descending b c = true) :
    entryLe field descending a c = true := by
  rw [entryLe_iff] at hab hbc ⊢
  cases descending with
  | false => exact h.of_option ha hb hc hab hbc
  | true =>
    rw [if_pos rfl, compareFieldValues_swap, Ne, Ordering.swap_eq_lt] at hab hbc ⊢
    exact h.of_option hc hb ha hbc hab

/-- What an order by a field says of a key and one behind it. -/
structure Precedes (m : MemoryStore) (field : String) (descending : Bool) (before behind : String) :
    Prop where
  /-- Values ascend or descend. -/
  values : compareFieldValues (m.value? field before) (m.value? field behind) ≠
    if descending then .lt else .gt
  /-- Equal values stand by ascending key, in both directions. -/
  ties : compareFieldValues (m.value? field before) (m.value? field behind) = .eq → before < behind
  /-- Missing values come last where values ascend, and first where they descend. -/
  missing : if descending then m.value? field behind = none → m.value? field before = none
    else m.value? field before = none → m.value? field behind = none

instance (m : MemoryStore) (field : String) (descending : Bool) (before behind : String) :
    Decidable (m.Precedes field descending before behind) :=
  decidable_of_iff (_ ∧ _ ∧ _)
    ⟨fun ⟨values, ties, missing⟩ => ⟨values, ties, missing⟩, fun h => ⟨h.values, h.ties, h.missing⟩⟩

theorem value?_of_mem_under {m : MemoryStore} {start : String} {e : Entry} (h : e ∈ m.under start)
    (field : String) : m.value? field e.1 = e.2.get? field := by
  rw [value?, ((m.mem_matching start none).1 h).1]
  rfl

/-- The key of a record that the sort puts before another one precedes the other's. -/
theorem Precedes.of_entryLe {m : MemoryStore} {field : String} {descending : Bool} {a b : Entry}
    (ha : m.value? field a.1 = a.2.get? field) (hb : m.value? field b.1 = b.2.get? field)
    (hle : entryLe field descending a b = true)
    (hties : entryLe field descending b a = true → a.1 < b.1) :
    m.Precedes field descending a.1 b.1 := by
  rw [entryLe_iff, ← ha, ← hb] at hle
  rw [entryLe_iff, ← ha, ← hb, compareFieldValues_swap] at hties
  refine ⟨hle, fun heq => hties ?_, ?_⟩
  · rw [heq]
    cases descending <;> decide
  · cases descending with
    | false =>
      intro hmissing
      rw [hmissing] at hle
      exact eq_none_of_compareFieldValues hle
    | true =>
      intro hmissing
      rw [hmissing, if_pos rfl, compareFieldValues_swap, Ne, Ordering.swap_eq_lt] at hle
      exact eq_none_of_compareFieldValues hle

/-- What an order says of a key and one behind it; without one, keys ascend. -/
def Stands (m : MemoryStore) (sorting? : Option (String × Bool)) (before behind : String) : Prop :=
  match sorting? with
  | none => before < behind
  | some (field, descending) => m.Precedes field descending before behind

/-- No two keys stand both ways round. -/
theorem Stands.asymm {m : MemoryStore} {sorting? : Option (String × Bool)} {a b : String}
    (hab : m.Stands sorting? a b) (hba : m.Stands sorting? b a) : False := by
  cases sorting? with
  | none => exact String.lt_asymm hab hba
  | some order =>
    obtain ⟨field, descending⟩ := order
    have hvalues := hab.values
    have hreversed := hba.values
    rw [compareFieldValues_swap (m.value? field a)] at hreversed
    cases horder : compareFieldValues (m.value? field a) (m.value? field b) with
    | eq =>
      have hswapped : compareFieldValues (m.value? field b) (m.value? field a) = .eq := by
        rw [compareFieldValues_swap, horder]
        rfl
      exact String.lt_asymm (hab.ties horder) (hba.ties hswapped)
    | lt | gt =>
      rw [horder] at hvalues hreversed
      cases descending <;> contradiction

/-! ## All matches in an order -/

/-- All stored keys under a prefix, each once, in an order. -/
structure Lists (m : MemoryStore) (start : String) (sorting? : Option (String × Bool))
    (keys : List String) : Prop where
  nodup : keys.Nodup
  mem_iff : ∀ key, key ∈ keys ↔ m.hashes.contains key = true ∧ hasStart start key = true
  pairwise : keys.Pairwise (m.Stands sorting?)

theorem Lists.eq {m : MemoryStore} {start : String} {sorting? : Option (String × Bool)}
    {keys others : List String} (h : m.Lists start sorting? keys) (h' : m.Lists start sorting? others) :
    keys = others := by
  have hperm : keys.Perm others :=
    (List.perm_ext_iff_of_nodup h.nodup h'.nodup).2 fun key =>
      (h.mem_iff key).trans (h'.mem_iff key).symm
  exact hperm.eq_of_pairwise (fun _ _ _ _ hab hba => (hab.asymm hba).elim) h.pairwise h'.pairwise

theorem lists_matchingKeys (m : MemoryStore) (start : String) (sorting? : Option (String × Bool))
    (h : ∀ order ∈ sorting?, IsTransitiveOn (m.valuesUnder start order.1)) :
    m.Lists start sorting? (m.matchingKeys start sorting?) := by
  have hunder : (m.under start).Pairwise fun a b => a.1 < b.1 := m.hashes.ascending.filter _
  refine ⟨m.nodup_matchingKeys start sorting?, fun _ => m.mem_matchingKeys start sorting?, ?_⟩
  rw [matchingKeys, List.pairwise_map]
  cases sorting? with
  | none => exact hunder
  | some order =>
    obtain ⟨field, descending⟩ := order
    have hvalues {e : Entry} (he : e ∈ m.under start) :
        ∀ v ∈ e.2.get? field, v ∈ m.valuesUnder start field :=
      fun v hv => List.mem_filterMap.2 ⟨e, he, hv⟩
    have hsorted : ((m.under start).mergeSort (entryLe field descending)).Pairwise fun a b =>
        entryLe field descending a b = true ∧ (entryLe field descending b a = true → a.1 < b.1) :=
      pairwise_mergeSort_of_mem
        (fun a ha b hb c hc => entryLe_trans (h _ rfl) (hvalues ha) (hvalues hb) (hvalues hc))
        (entryLe_total field descending) hunder
    refine hsorted.imp_of_mem fun {a b} ha hb hab => ?_
    exact .of_entryLe (value?_of_mem_under (List.mem_mergeSort.1 ha) field)
      (value?_of_mem_under (List.mem_mergeSort.1 hb) field) hab.1 hab.2

/-- The matches are the one list of all keys under the prefix, each once, in the order asked for: by
ascending key without an order; else by the values of a field, downwards if asked to, equal values by
ascending key in both directions, and missing values as the greatest. -/
theorem eq_matchingKeys_iff (m : MemoryStore) (start : String) (sorting? : Option (String × Bool))
    (h : ∀ order ∈ sorting?, IsTransitiveOn (m.valuesUnder start order.1)) (keys : List String) :
    keys = m.matchingKeys start sorting? ↔ m.Lists start sorting? keys := by
  constructor
  · rintro rfl
    exact m.lists_matchingKeys start sorting? h
  · intro hkeys
    exact hkeys.eq (m.lists_matchingKeys start sorting? h)

/-- Notes two of which have equal ranks, a note without a rank, and something else. -/
def rankedNotes : MemoryStore where
  hashes := .ofList [("notes:1", .ofList [("rank", "2")]), ("notes:2", .empty),
    ("notes:3", .ofList [("rank", "2.0")]), ("notes:4", .ofList [("rank", "10")]),
    ("other:1", .ofList [("rank", "4")])]

/-- Downwards the note without a rank comes first, and of those with equal ranks still the lower key. -/
theorem eq_matchingKeys_of_rankedNotes :
    (∀ order ∈ some ("rank", true), IsTransitiveOn (rankedNotes.valuesUnder "notes:" order.1)) ∧
      ["notes:2", "notes:4", "notes:1", "notes:3"] =
        rankedNotes.matchingKeys "notes:" (some ("rank", true)) := by
  have htransitive : ∀ order ∈ some ("rank", true),
      IsTransitiveOn (rankedNotes.valuesUnder "notes:" order.1) := by
    intro order horder
    obtain rfl := Option.some.inj horder
    decide +kernel
  have hplain : rankedNotes.matchingKeys "notes:" none =
      ["notes:1", "notes:2", "notes:3", "notes:4"] := by
    decide +kernel
  have hperm : ["notes:2", "notes:4", "notes:1", "notes:3"].Perm
      ["notes:1", "notes:2", "notes:3", "notes:4"] := by
    decide
  refine ⟨htransitive, (eq_matchingKeys_iff _ _ _ htransitive _).2 ⟨by decide, fun key => ?_, ?_⟩⟩
  · rw [hperm.mem_iff, ← hplain]
    exact rankedNotes.mem_matchingKeys "notes:" none
  · change List.Pairwise (rankedNotes.Precedes "rank" true) _
    decide +kernel

end MemoryStore

end RecordSearch
