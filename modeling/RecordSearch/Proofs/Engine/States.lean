import RecordSearch.Engine.Basic
import RecordSearch.Proofs.Engine.Synchronizer
import RecordSearch.Storage.Memory
import RecordSearch.Storage.Probe

/-!
# States between calls

While an index is brought in step its state passes through others, under the name of its definition and
under the name that the model's descriptor gives. The two names are the same, so what is seen between two
calls is how the last one ended, and that stays until all states are forgotten: whoever asks again is told
the same and nothing is sent. The store is any store, behind a probe that records what it is sent; between
two calls others may do anything to it.

## Main definitions

* `Process`, `Process.ensure` — a synchronizer and the world it shares, and its use.
* `ProcessStep`, `Process.run` — what can happen, and runs.
* `Process.IsSettled` — no index is seen on its way.

## Main results

* `Process.ensure_spec` — how a call ends, and the states after it.
* `Process.IsSettled.run` — no run leaves an index on its way.
* `Process.state_run_of_isTerminal` — a final state stays until the states are forgotten.
* `Process.states_between_calls` — the three together, with what follows once they are forgotten.
-/

namespace RecordSearch

/-- The name of a model's index on the server. -/
def Config.indexOf (c : Config) (d : Descriptor) : String :=
  physicalName d.indexName c.scope?

/-- A process: a synchronizer, new unless said otherwise, and the world that it shares with others. -/
structure Process (σ : Type) where
  synchronizer : Synchronizer := {}
  world : World σ

/-- What can happen to a process. -/
inductive ProcessStep (σ : Type) where
  | ensure (d : Descriptor)
  | reset
  /-- Others act on what is shared: they write to the store, make commands fail, or time passes. -/
  | others (act : World σ → World σ)

namespace Process

variable {σ : Type}

/-- The state of the index of a name. -/
def state (p : Process σ) (index : String) : IndexState :=
  p.synchronizer.state index

/-- How it ends when the index of a descriptor is brought in step, and the process after it. -/
def ensure [Storage σ] (p : Process σ) (config : Config) (d : Descriptor) :
    IndexState × Process σ :=
  let ((state, synchronizer), world) := ensureIndex config d p.synchronizer p.world
  (state, ⟨synchronizer, world⟩)

/-- What a step does. -/
def step [Storage σ] (config : Config) (p : Process σ) : ProcessStep σ → Process σ
  | .ensure d => (p.ensure config d).2
  | .reset =>
    let ((_, synchronizer), world) := resetIndexStates p.synchronizer p.world
    ⟨synchronizer, world⟩
  | .others act => { p with world := act p.world }

/-- What several steps do. -/
def run [Storage σ] (config : Config) (p : Process σ) (steps : List (ProcessStep σ)) : Process σ :=
  steps.foldl (step config) p

/-- No index is seen on its way: each is unknown, or it is known how that ended. -/
def IsSettled (p : Process σ) : Prop :=
  ∀ index, p.state index = .unknown ∨ (p.state index).isTerminal = true

end Process

/-! ## One call -/

section Calls

variable {σ : Type} [Storage σ] {config : Config} {d : Descriptor} {p : Process σ}

theorem isTerminal_synchronise (config : Config) (index : IndexDefinition) (w : World σ) :
    ((synchronise config index w).1).isTerminal = true := by
  obtain ⟨-, ⟨-, h, -⟩ | ⟨-, -, h, -⟩ | ⟨-, -, h, -⟩⟩ := synchronise_cases config index w
  all_goals
    rw [h]
    rfl

namespace Process

/-- Nothing is sent about an index whose state is final, and nothing changes. -/
theorem ensure_of_isTerminal (h : (p.state (config.indexOf d)).isTerminal = true) :
    p.ensure config d = (p.state (config.indexOf d), p) := by
  rw [ensure, ensureIndex_of_isTerminal h]
  rfl

theorem ensure_of_none (h : (p.state (config.indexOf d)).isTerminal = false)
    (hd : IndexDefinition.ofDescriptor? d config.scope? = none) :
    p.ensure config d =
      (.notIndexed, ⟨p.synchronizer.remembering (config.indexOf d) .notIndexed, p.world⟩) := by
  rw [ensure, ensureIndex_of_none h hd]
  rfl

theorem ensure_of_some {index : IndexDefinition}
    (h : (p.state (config.indexOf d)).isTerminal = false)
    (hd : IndexDefinition.ofDescriptor? d config.scope? = some index) :
    p.ensure config d =
      ((synchronise config index p.world).1,
        ⟨p.synchronizer.settle index (synchronise config index p.world).1,
          (synchronise config index p.world).2⟩) := by
  rw [ensure, ensureIndex_of_some h hd]

/-- A call ends in a final state, which is that of its index afterwards; all others stay. -/
theorem ensure_spec (config : Config) (p : Process σ) (d : Descriptor) :
    (p.ensure config d).1.isTerminal = true ∧
      ∀ other, (p.ensure config d).2.state other =
        if config.indexOf d = other then (p.ensure config d).1 else p.state other := by
  cases hstate : (p.state (config.indexOf d)).isTerminal with
  | true =>
    rw [ensure_of_isTerminal hstate]
    refine ⟨hstate, fun other => ?_⟩
    split
    · next h => rw [h]
    · rfl
  | false =>
    cases hd : IndexDefinition.ofDescriptor? d config.scope? with
    | none =>
      rw [ensure_of_none hstate hd]
      exact ⟨rfl, fun other => p.synchronizer.state_remembering _ other _⟩
    | some index =>
      rw [ensure_of_some hstate hd]
      refine ⟨isTerminal_synchronise config index p.world, fun other => ?_⟩
      have hname : config.indexOf d = index.name := (name_of_ofDescriptor? hd).symm
      rw [hname]
      exact p.synchronizer.state_settle index other _

end Process

end Calls

/-! ## Runs -/

namespace Process

variable {σ : Type} [Storage σ] {config : Config} {p : Process σ} {index : String}

theorem state_reset (config : Config) (p : Process σ) (index : String) :
    (p.step config .reset).state index = .unknown := rfl

omit [Storage σ] in
theorem isSettled_new (w : World σ) : (Process.mk {} w).IsSettled := by
  intro index
  exact .inl rfl

theorem IsSettled.step (h : p.IsSettled) (s : ProcessStep σ) : (p.step config s).IsSettled := by
  intro index
  cases s with
  | ensure d =>
    obtain ⟨hterminal, hstates⟩ := ensure_spec config p d
    rw [Process.step, hstates index]
    split
    · exact .inr hterminal
    · exact h index
  | reset => exact .inl rfl
  | others act => exact h index

/-- No run leaves an index on its way. -/
theorem IsSettled.run (h : p.IsSettled) (steps : List (ProcessStep σ)) :
    (p.run config steps).IsSettled := by
  induction steps generalizing p with
  | nil => exact h
  | cons s steps ih => exact ih (h.step s)

/-- A final state stays in each step but one that forgets all. -/
theorem state_step_of_isTerminal (h : (p.state index).isTerminal = true) {s : ProcessStep σ}
    (hs : s ≠ .reset) : (p.step config s).state index = p.state index := by
  cases s with
  | ensure d =>
    rw [step, (ensure_spec config p d).2 index]
    split
    · next hname =>
      subst hname
      rw [ensure_of_isTerminal h]
    · rfl
  | reset => contradiction
  | others act => rfl

theorem state_run_of_isTerminal (h : (p.state index).isTerminal = true)
    {steps : List (ProcessStep σ)} (hs : ∀ s ∈ steps, s ≠ .reset) :
    (p.run config steps).state index = p.state index := by
  induction steps generalizing p with
  | nil => rfl
  | cons s steps ih =>
    obtain ⟨hfirst, hothers⟩ := List.forall_mem_cons.1 hs
    have hkept : (p.step config s).state index = p.state index :=
      state_step_of_isTerminal h hfirst
    rw [← hkept]
    apply ih _ hothers
    rw [hkept]
    exact h

/-- The state of an index changes only where the index is brought in step, or all is forgotten. -/
theorem state_step_of_unknown (h : p.state index = .unknown) {s : ProcessStep σ}
    (hs : ∀ d, s = .ensure d → config.indexOf d ≠ index) :
    (p.step config s).state index = .unknown := by
  cases s with
  | ensure d =>
    rw [step, (ensure_spec config p d).2 index, if_neg (hs d rfl)]
    exact h
  | reset => rfl
  | others act => exact h

theorem state_run_of_unknown (h : p.state index = .unknown) {steps : List (ProcessStep σ)}
    (hs : ∀ s ∈ steps, ∀ d, s = .ensure d → config.indexOf d ≠ index) :
    (p.run config steps).state index = .unknown := by
  induction steps generalizing p with
  | nil => exact h
  | cons s steps ih =>
    obtain ⟨hfirst, hothers⟩ := List.forall_mem_cons.1 hs
    exact ih (state_step_of_unknown h hfirst) hothers

end Process

/-! ## What is sent -/

section Log

variable {σ : Type} [Storage σ]

/-- A probe records every command, whatever comes of it. -/
theorem Probe.log_respond (c : Command) (p : Probe σ) :
    (Storage.respond c p).2.log = p.log ++ [c] := by
  simp only [Storage.respond]
  split
  · rfl
  · cases c with
    | search arguments =>
      rcases p with ⟨store, log, faults, _ | ⟨reply, script⟩⟩ <;> rfl
    | createIndex arguments | dropIndex index | readHash key | writeHash key fields => rfl

/-- Bringing an index in step reads its record before anything else. -/
theorem exists_log_synchronise (config : Config) (index : IndexDefinition) (w : World (Probe σ)) :
    ∃ rest, (synchronise config index w).2.store.log =
      w.store.log ++ .readHash (config.metadataKey index.name) :: rest := by
  obtain ⟨-, ⟨-, -, h⟩ | ⟨-, -, -, h⟩ | ⟨-, -, -, h⟩⟩ := synchronise_cases config index w
  · refine ⟨[], ?_⟩
    rw [h, Probe.log_respond]
  · refine ⟨[.dropIndex index.name, .createIndex index.createArguments], ?_⟩
    rw [h, Probe.log_respond, Probe.log_respond, Probe.log_respond]
    simp
  · refine ⟨[.dropIndex index.name, .createIndex index.createArguments,
      .writeHash (config.metadataKey index.name) (IndexMetadata.renewed
        (metadataIn? (Storage.respond (.readHash (config.metadataKey index.name)) w.store).1)
        index.fingerprint w.now).toFields], ?_⟩
    rw [h, Probe.log_respond, Probe.log_respond, Probe.log_respond, Probe.log_respond]
    simp

end Log

theorem IndexState.isTerminal_iff {s : IndexState} :
    s.isTerminal = true ↔ s = .upToDate ∨ s = .notIndexed ∨ s = .failed := by
  cases s <;> simp [isTerminal]

namespace Process

variable {σ : Type} [Storage σ]

/-- Wherever a run of a process stands: no index is seen on its way. A call ends in one of three states,
which is then that of its index, while all other states stay; and as long as the states are not forgotten,
a call for the same index ends in the same state, and neither sends anything nor changes anything. Once
they are forgotten all indexes are unknown, and the next call for any of them looks at it anew. -/
theorem states_between_calls (config : Config) (w : World (Probe σ))
    (steps : List (ProcessStep (Probe σ))) :
    let p := Process.run config ⟨{}, w⟩ steps
    (∀ index, p.state index ≠ .checked ∧ p.state index ≠ .rebuilding) ∧
    (∀ d, let ended := p.ensure config d
      (ended.1 = .upToDate ∨ ended.1 = .notIndexed ∨ ended.1 = .failed) ∧
      ended.2.state (config.indexOf d) = ended.1 ∧
      (∀ other, other ≠ config.indexOf d → ended.2.state other = p.state other) ∧
      ∀ later, (∀ s ∈ later, s ≠ .reset) → ∀ e, config.indexOf e = config.indexOf d →
        (ended.2.run config later).ensure config e = (ended.1, ended.2.run config later)) ∧
    (∀ index, (p.step config .reset).state index = .unknown) ∧
    ∀ later d, (∀ s ∈ later, ∀ e, s = .ensure e → config.indexOf e ≠ config.indexOf d) →
      let q := (p.step config .reset).run config later
      match IndexDefinition.ofDescriptor? d config.scope? with
      | none => (q.ensure config d).1 = .notIndexed
      | some index => ∃ rest, (q.ensure config d).2.world.store.log =
          q.world.store.log ++ .readHash (config.metadataKey index.name) :: rest := by
  intro p
  have hsettled : p.IsSettled := (isSettled_new w).run steps
  refine ⟨?_, ?_, state_reset config p, ?_⟩
  · intro index
    rcases hsettled index with h | h
    · rw [h]
      decide
    · rcases IndexState.isTerminal_iff.1 h with h | h | h <;>
      · rw [h]
        decide
  · intro d ended
    obtain ⟨hterminal, hstates⟩ := ensure_spec config p d
    have hself := hstates (config.indexOf d)
    rw [if_pos rfl] at hself
    refine ⟨IndexState.isTerminal_iff.1 hterminal, hself, ?_, ?_⟩
    · intro other hother
      exact (hstates other).trans (if_neg hother.symm)
    · intro later hlater e he
      have hfinal : (ended.2.state (config.indexOf e)).isTerminal = true := by
        rw [he, hself]
        exact hterminal
      have hend : (ended.2.run config later).state (config.indexOf e) = ended.1 := by
        rw [state_run_of_isTerminal hfinal hlater, he, hself]
      rw [ensure_of_isTerminal, hend]
      rw [hend]
      exact hterminal
  · intro later d hlater q
    have hunknown : q.state (config.indexOf d) = .unknown :=
      state_run_of_unknown (state_reset config p _) hlater
    have hopen : (q.state (config.indexOf d)).isTerminal = false := by
      rw [hunknown]
      rfl
    cases hd : IndexDefinition.ofDescriptor? d config.scope? with
    | none => rw [ensure_of_none hopen hd]
    | some index =>
      rw [ensure_of_some hopen hd]
      exact exists_log_synchronise config index q.world

/-- A model with one tag. -/
def heroes : Descriptor := ⟨"heroes", [⟨"name", .tag, false, .text⟩], []⟩

/-- The model without anything indexed. -/
def plainHeroes : Descriptor := ⟨"heroes", [], [⟨"name", .text, false, .text⟩]⟩

/-- A store that refuses to create indexes. -/
def refusing : World (Probe MemoryStore) where
  store := { store := { failCreates := true } }
  now := ⟨0, 0⟩

/-- The store refuses no more. -/
def relent : ProcessStep (Probe MemoryStore) :=
  .others fun w =>
    { w with store := { w.store with store := { w.store.store with failCreates := false } } }

/-- Creating fails, and that is all that any model of the name is told even when it would succeed, until the
states are forgotten and the index is looked at again. -/
theorem states_between_calls_of_refusing :
    let ended := (Process.mk {} refusing).ensure {} heroes
    let later := ended.2.run {} [relent]
    let again := ((Process.mk {} refusing).step {} .reset).run {} [relent, .ensure ⟨"", [], []⟩]
    ended.1 = .failed ∧ later.ensure {} plainHeroes = (.failed, later) ∧
      again.state "heroes" = .unknown ∧
      ∃ rest, (again.ensure {} heroes).2.world.store.log =
        again.world.store.log ++ .readHash "index:heroes" :: rest := by
  intro ended later again
  obtain ⟨-, hends, -, hforgotten⟩ := states_between_calls {} refusing []
  have hfailed : ended.1 = .failed := by decide +kernel
  obtain ⟨-, -, -, hstays⟩ := hends heroes
  have hsame := hstays [relent] (by simp [relent]) plainHeroes rfl
  refine ⟨hfailed, hsame.trans (Prod.ext hfailed rfl), by decide +kernel, ?_⟩
  refine hforgotten [relent, .ensure ⟨"", [], []⟩] heroes ?_
  intro s hs e he
  subst he
  obtain rfl : e = ⟨"", [], []⟩ := by simpa [relent] using hs
  decide

end Process

end RecordSearch
