import RecordSearch.Proofs.Engine.Requests
import RecordSearch.Proofs.Except

/-!
# The failure policy decides what is reported

What a failed search comes to is decided when everything has been sent and noted. So engines that pass
failures over and engines that report them go through the same worlds, and answer alike but for the failures
themselves, in whose place there are answers drawn from the empty page.

## Main definitions

* `Config.withPolicy` — a configuration with a policy for failures.
* `soften` — an outcome with something else in place of a failed search.
* `Fleet.lenient` — engines that pass over the failures that others have reported.

## Main results

* `perform_lenient` — the policy makes no difference to a request but in its outcome.
* `queryFailed_of_perform` — a reported failure is that of the search that was sent last.
* `Fleet.run_lenient` — whole runs under both policies.
-/

namespace RecordSearch

/-! ## Policies -/

/-- The configuration with a policy for failures. -/
def Config.withPolicy (c : Config) (policy : FailurePolicy) : Config :=
  { c with onFailure := policy }

/-- The engine with a policy for failures. -/
def Engine.withPolicy (e : Engine) (policy : FailurePolicy) : Engine :=
  { e with config := e.config.withPolicy policy }

/-- The outcome with something else in place of a failed search. -/
def soften {α : Type} (fallback : α) : Except SearchError α → Except SearchError α
  | .error (.queryFailed ..) => .ok fallback
  | outcome => outcome

section Soften

variable {α β : Type}

theorem soften_map (fallback : α) (outcome : Except SearchError α) (f : α → β) :
    soften (f fallback) (outcome.map f) = (soften fallback outcome).map f := by
  rcases outcome with (_ | _) | _ <;> rfl

theorem soften_ne_queryFailed (fallback : α) (outcome : Except SearchError α) (index : String)
    (e : StorageError) : soften fallback outcome ≠ .error (.queryFailed index e) := by
  rcases outcome with (_ | _) | _ <;> simp [soften]

theorem soften_eq_compile_iff (fallback : α) (outcome : Except SearchError α) (e : CompileError) :
    soften fallback outcome = .error (.compile e) ↔ outcome = .error (.compile e) := by
  rcases outcome with (_ | _) | _ <;> simp [soften]

/-- A failed search is reported as that of its index, if at all. -/
theorem report_eq_queryFailed {policy : FailurePolicy} {index other : String}
    {fallback : α} {found : Except StorageError α} {e : StorageError}
    (h : policy.report index fallback found = .error (.queryFailed other e)) :
    other = index ∧ found = .error e := by
  cases found with
  | ok page => contradiction
  | error cause =>
    cases policy with
    | empty => contradiction
    | propagate =>
      injection h with h
      injection h with hindex hcause
      exact ⟨hindex.symm, congrArg _ hcause⟩

theorem report_empty (index : String) (fallback : α) (found : Except StorageError α) :
    FailurePolicy.empty.report index fallback found =
      soften fallback (FailurePolicy.propagate.report index fallback found) := by
  cases found <;> rfl

end Soften

/-! ## One request -/

section Requests

variable {σ : Type} [Storage σ]

/-- The policy makes no difference to a lookup but in its outcome. -/
theorem Lookup.find_lenient (l : Lookup) (c : Config) (s : Synchronizer) (w : World σ) :
    let strict := l.find (c.withPolicy .propagate) s w
    l.find (c.withPolicy .empty) s w = ((soften .empty strict.1.1, strict.1.2), strict.2) := by
  intro strict
  have hstrict : strict = l.find (c.withPolicy .propagate) s w := rfl
  -- Nothing that comes before the report reads the policy, so both go the same way.
  rcases l.find_cases (c.withPolicy .propagate) s w with ⟨e, hcompile, h⟩ |
    ⟨compiled, hcompile, hstate, h⟩ | ⟨compiled, hcompile, hstate, h⟩
  · rw [hstrict, h]
    exact find_of_error hcompile
  · rw [hstrict, h]
    exact find_of_notIndexed hcompile hstate
  · have hlenient : l.find (c.withPolicy .empty) s w = _ := find_of_indexed hcompile hstate
    rw [hstrict, h, hlenient, runSearch_apply]
    exact Prod.ext (Prod.ext (report_empty _ _ _) rfl) rfl

/-- The policy makes no difference to a request but in its outcome. -/
theorem perform_lenient (r : Request) (c : Config) (s : Synchronizer) (w : World σ) :
    let strict := r.perform (c.withPolicy .propagate) s w
    r.perform (c.withPolicy .empty) s w =
      ((soften (r.view .empty) strict.1.1, strict.1.2), strict.2) := by
  intro strict
  have hstrict : strict = r.perform (c.withPolicy .propagate) s w := rfl
  cases hlookup : r.lookup? c.pageSize with
  | some l =>
    have hboth (policy : FailurePolicy) : r.lookup? (c.withPolicy policy).pageSize = some l := hlookup
    rw [hstrict, r.perform_of_lookup (hboth .empty), r.perform_of_lookup (hboth .propagate),
      l.find_lenient, soften_map]
  | none =>
    cases r with
    | query m q t | filtered m filter? sorting? page pageSize | compiled m q page pageSize =>
      contradiction
    | ensure m | ensureAll r | reset | state m | definition m => rfl

/-- A failure that is reported is that of a search in the model's index, sent last: the store failed it, or
its reply could not be read. -/
theorem queryFailed_of_perform {r : Request} {c : Config} {s : Synchronizer} {w : World (Recorder σ)}
    {index : String} {e : StorageError} (h : (r.perform c s w).1.1 = .error (.queryFailed index e)) :
    ∃ l compiled outcome, r.lookup? c.pageSize = some l ∧
      l.compile (describe l.model w).1 = .ok compiled ∧
      index = physicalName (describe l.model w).1.indexName c.scope? ∧
      (r.perform c s w).2.store.calls.getLast? =
        some ⟨.search (searchArguments index compiled l.page l.pageSize c.dialect), outcome⟩ ∧
      pageIn (keyStart index) l.pageSize compiled.withContent outcome = .error e := by
  cases hlookup : r.lookup? c.pageSize with
  | none => cases r <;> contradiction
  | some l =>
    rw [r.perform_of_lookup hlookup] at h ⊢
    replace h := map_eq_error_iff.1 h
    rcases l.find_cases c s w with ⟨refusal, -, hfind⟩ | ⟨compiled, -, -, hfind⟩ |
      ⟨compiled, hcompile, -, hfind⟩
    · simp [hfind] at h
    · simp [hfind] at h
    · rw [hfind] at h
      obtain ⟨rfl, hfound⟩ := report_eq_queryFailed h
      rw [hfind]
      exact ⟨l, compiled, _, rfl, hcompile, rfl, List.getLast?_concat, hfound⟩

end Requests

/-! ## Runs -/

/-- The exchange with a failed search passed over. -/
def Exchange.soften (x : Exchange) : Exchange :=
  { x with answer := RecordSearch.soften (x.request.view .empty) x.answer }

namespace Fleet

variable {σ : Type}

/-- The fleet with engines that pass failures over, as if they had done so from the beginning. -/
def lenient (F : Fleet σ) : Fleet σ where
  engines who := (F.engines who).withPolicy .empty
  world := F.world
  exchanges := F.exchanges.map Exchange.soften

/-- All engines report failures. -/
def IsStrict (F : Fleet σ) : Prop :=
  ∀ who, (F.engines who).config.onFailure = .propagate

variable [Storage σ] {F : Fleet σ}

theorem IsStrict.step (h : F.IsStrict) (s : FleetStep σ) : (F.step s).IsStrict := by
  intro n
  cases s with
  | ask who r =>
    change ((Function.update F.engines who _) n).config.onFailure = _
    by_cases hn : n = who
    · rw [hn, Function.update_self]
      exact h who
    · rw [Function.update_of_ne hn]
      exact h n
  | others act | setClock now | forget => exact h n

theorem lenient_ask (h : F.IsStrict) (who : Nat) (r : Request) :
    (F.ask who r).lenient = F.lenient.ask who r := by
  have hconfig : (F.engines who).config = (F.engines who).config.withPolicy .propagate := by
    rw [Config.withPolicy, ← h who]
  have hperform := perform_lenient r (F.engines who).config (F.engines who).synchronizer F.world
  rw [← hconfig] at hperform
  have hengine : F.lenient.engines who = (F.engines who).withPolicy .empty := rfl
  rw [ask_eq, ask_eq, hengine]
  dsimp only [Engine.withPolicy, lenient]
  rw [hperform, List.map_append]
  congr 1
  exact Function.comp_update (·.withPolicy .empty) F.engines who _

/-- A step is the same whether failures are passed over before or after it. -/
theorem lenient_step (h : F.IsStrict) (s : FleetStep σ) :
    (F.step s).lenient = F.lenient.step s := by
  cases s with
  | ask who r => exact lenient_ask h who r
  | others act | setClock now | forget => rfl

theorem lenient_run (h : F.IsStrict) (steps : List (FleetStep σ)) :
    (F.run steps).lenient = F.lenient.run steps := by
  induction steps generalizing F with
  | nil => rfl
  | cons s steps ih =>
    change ((F.step s).run steps).lenient = (F.lenient.step s).run steps
    rw [ih (h.step s), lenient_step h]

/-- Engines that report failures and engines that pass them over go through the same worlds and the same
states, and answer alike, but for the failures: in place of each there is an answer drawn from the empty
page. A failure that is reported names the model's index and is that of the search sent last. -/
theorem run_policies (engines : Nat → Engine) (store : σ) (now : Instant)
    (steps : List (FleetStep σ)) :
    let under (policy : FailurePolicy) :=
      (start (fun who => (engines who).withPolicy policy) store now).run steps
    let strict := under .propagate
    let lenient := under .empty
    lenient.world = strict.world ∧
    (∀ who, (lenient.engines who).synchronizer = (strict.engines who).synchronizer) ∧
    lenient.exchanges = strict.exchanges.map Exchange.soften ∧
    (∀ x ∈ lenient.exchanges, ∀ index e, x.answer ≠ .error (.queryFailed index e)) ∧
    (∀ x ∈ strict.exchanges, ∀ e,
      x.soften.answer = .error (.compile e) ↔ x.answer = .error (.compile e)) ∧
    ∀ who r index e, strict.answer who r = .error (.queryFailed index e) →
      let c := (strict.engines who).config
      ∃ l compiled outcome, r.lookup? c.pageSize = some l ∧
        l.compile (describe l.model strict.world).1 = .ok compiled ∧
        index = physicalName (describe l.model strict.world).1.indexName c.scope? ∧
        (strict.ask who r).world.store.calls.getLast? =
          some ⟨.search (searchArguments index compiled l.page l.pageSize c.dialect), outcome⟩ ∧
        pageIn (keyStart index) l.pageSize compiled.withContent outcome = .error e := by
  intro under strict lenient
  have hstrict : (start (fun who => (engines who).withPolicy .propagate) store now).IsStrict :=
    fun _ => rfl
  have hlenient : lenient = strict.lenient := (lenient_run hstrict steps).symm
  rw [hlenient]
  refine ⟨rfl, fun _ => rfl, rfl, ?_, ?_, ?_⟩
  · intro x hx index e
    obtain ⟨y, -, rfl⟩ := List.mem_map.1 hx
    exact soften_ne_queryFailed _ _ _ _
  · intro x _ e
    exact soften_eq_compile_iff _ _ _
  · intro who r index e h
    exact queryFailed_of_perform h

end Fleet

end RecordSearch
