import Mathlib.Data.List.Induction
import RecordSearch.Metrics

/-!
# Counters and series count events

Events are told apart by their series, save that all numbers of results are samples of one. So what
exporters see of a counter is how often its event was noted, and a series has one sample for each time.

## Main definitions

* `Event.blank` — an event without its sample.
* `occurrences` — how often an event was noted, whatever its sample.
* `total`, `samples` — a counter and a series as exporters see them.

## Main results

* `total_summarize`, `length_samples_summarize` — both count occurrences.
-/

namespace RecordSearch

/-- The event without its sample. -/
def Event.blank : Event → Event
  | .resultsReturned _ => .resultsReturned 0
  | e => e

/-- How often an event was noted, whatever its sample. -/
def occurrences (e : Event) (events : List Event) : Nat :=
  events.countP fun x => x.blank = e.blank

/-- A counter, by an event that it counts. -/
def total (t : Table (List Nat)) (e : Event) : Nat :=
  ((t.get? e.series).getD []).foldl (· + ·) 0

/-- The samples of a series, by an event that adds one. -/
def samples (t : Table (List Nat)) (e : Event) : List Nat :=
  (t.get? e.series).getD []

/-- One event for each counter and series. -/
def Event.kinds : List Event :=
  [.searchTimed, .searchFinished true, .searchFinished false, .resultsReturned 0,
    .indexOperation .check true, .indexOperation .check false, .indexOperation .drop true,
    .indexOperation .drop false, .indexOperation .create true, .indexOperation .create false,
    .predicateRejected]

namespace Event

theorem series_blank (e : Event) : e.blank.series = e.series := by
  cases e <;> rfl

theorem blank_mem_kinds (e : Event) : e.blank ∈ kinds := by
  rcases e with _ | (_ | _) | _ | ⟨_ | _ | _, _ | _⟩ | _
  all_goals simp [blank, kinds]

theorem eq_of_series_eq : ∀ e ∈ kinds, ∀ f ∈ kinds, e.series = f.series → e = f := by
  decide +kernel

/-- The series tells events apart, save for their samples. -/
theorem series_eq_iff {e f : Event} : e.series = f.series ↔ e.blank = f.blank := by
  constructor
  · intro h
    rw [← series_blank, ← series_blank f] at h
    exact eq_of_series_eq _ e.blank_mem_kinds _ f.blank_mem_kinds h
  · intro h
    rw [← series_blank, h, series_blank]

theorem isSome_sample?_congr {e f : Event} (h : e.blank = f.blank) :
    e.sample?.isSome = f.sample?.isSome := by
  have hblank (x : Event) : x.blank.sample?.isSome = x.sample?.isSome := by
    cases x <;> rfl
  rw [← hblank, h, hblank]

end Event

theorem occurrences_append (e : Event) (events later : List Event) :
    occurrences e (events ++ later) = occurrences e events + occurrences e later :=
  List.countP_append

theorem occurrences_concat (e x : Event) (events : List Event) :
    occurrences e (events ++ [x]) = occurrences e events + if x.blank = e.blank then 1 else 0 := by
  rw [occurrences_append, occurrences, occurrences, List.countP_singleton]
  simp only [decide_eq_true_eq]

theorem summarize_concat (events : List Event) (x : Event) :
    summarize (events ++ [x]) = x.addTo (summarize events) := by
  rw [summarize, List.foldl_append]
  rfl

/-- An event adds to its own series only. -/
theorem samples_addTo (t : Table (List Nat)) (x e : Event) :
    samples (x.addTo t) e =
      if x.blank = e.blank then
        match x.sample? with
        | some n => samples t e ++ [n]
        | none => [(samples t e).foldl (· + ·) 0 + 1]
      else samples t e := by
  rw [samples, Event.addTo, Table.get?_insert]
  by_cases h : x.blank = e.blank
  · have hseries := Event.series_eq_iff.2 h
    rw [if_pos hseries, if_pos h, hseries]
    rfl
  · rw [if_neg (h ∘ Event.series_eq_iff.1), if_neg h]
    rfl

/-- A counter is how often its event was noted. -/
theorem total_summarize {e : Event} (h : e.sample? = none) (events : List Event) :
    total (summarize events) e = occurrences e events := by
  induction events using List.reverseRecOn with
  | nil => rfl
  | append_singleton events x ih =>
    change (samples _ e).foldl (· + ·) 0 = _
    rw [summarize_concat, samples_addTo, occurrences_concat, ← ih]
    split
    · next hx =>
      have hnone : x.sample? = none := by
        have hsame := Event.isSome_sample?_congr hx
        rw [h] at hsame
        exact Option.isSome_eq_false_iff.1 hsame |> Option.isNone_iff_eq_none.1
      rw [hnone]
      exact Nat.zero_add _
    · rfl

/-- A series has a sample for each time its event was noted. -/
theorem length_samples_summarize {e : Event} (h : e.sample?.isSome = true) (events : List Event) :
    (samples (summarize events) e).length = occurrences e events := by
  induction events using List.reverseRecOn with
  | nil => rfl
  | append_singleton events x ih =>
    rw [summarize_concat, samples_addTo, occurrences_concat, ← ih]
    split
    · next hx =>
      obtain ⟨n, hn⟩ := Option.isSome_iff_exists.1 ((Event.isSome_sample?_congr hx).trans h)
      rw [hn]
      exact List.length_append
    · rfl

end RecordSearch
