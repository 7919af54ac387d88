import RecordSearch.Proofs.Engine.Convergence
import RecordSearch.Proofs.Engine.Execution
import RecordSearch.Proofs.Engine.Upkeep

/-!
# Indexes brought in step in any order

About each index there are four things to know: the state and the definition that a synchronizer remembers,
and the two places in the store. Bringing an index in step reads its own four things and changes no
others, whether commands fail or not. So two indexes can be brought in step in either order, and so can
those of all registered models.

## Main definitions

* `Standing`, `Turn`, `Standing.turn` — the four things, and what becomes of them.
* `SyncState`, `SyncState.ensure`, `SyncState.ensureAll` — a synchronizer with its store, and what becomes
  of the two.
* `ModelRegistry.IsKeyed` — no two models have one name.

## Main results

* `Process.ensure_syncState`, `initializeIndexes_syncState` — a process acts on the two alike.
* `SyncState.ensure_comm` — two indexes change places.
* `SyncState.ensureAll_perm` — all of them do.
* `Process.ensure_order_irrelevant` — the same of processes and registries.
-/

namespace RecordSearch

/-- All there is about one index: what a synchronizer remembers of it, and what the store holds. -/
structure Standing where
  state? : Option IndexState
  definition? : Option IndexDefinition
  holding : Holding
  deriving DecidableEq, Repr

/-- What a synchronizer remembers of an index once it was brought in step, and how that went. -/
structure Turn where
  state? : Option IndexState
  definition? : Option IndexDefinition
  upkeep : Upkeep
  deriving DecidableEq, Repr

/-- What becomes of an index that is to be brought in step with a descriptor. -/
def Standing.turn (s : Standing) (config : Config) (f : Failures) (now : Instant) (d : Descriptor) :
    Turn :=
  let current := s.state?.getD .unknown
  if current.isTerminal then ⟨s.state?, s.definition?, ⟨current, s.holding, 0, 0⟩⟩
  else
    match IndexDefinition.ofDescriptor? d config.scope? with
    | none => ⟨some .notIndexed, s.definition?, ⟨.notIndexed, s.holding, 0, 0⟩⟩
    | some index =>
      let u := s.holding.upkeep f now index
      ⟨some u.state, some index, u⟩

/-- A synchronizer and the store in memory that it acts on. -/
structure SyncState where
  synchronizer : Synchronizer
  store : MemoryStore
  deriving DecidableEq, Repr

namespace SyncState

/-- What there is about the index of a name. -/
def standing (s : SyncState) (config : Config) (name : String) : Standing where
  state? := s.synchronizer.states.get? name
  definition? := s.synchronizer.definitions.get? name
  holding := s.store.holding config name

/-- What there is after the index of a name was brought in step. -/
def put (s : SyncState) (config : Config) (name : String) (t : Turn) : SyncState where
  synchronizer :=
    { states := s.synchronizer.states.set name t.state?
      definitions := s.synchronizer.definitions.set name t.definition? }
  store := s.store.kept config name t.upkeep

/-- How it ends when the index of a descriptor is brought in step, and what there is then. -/
def ensure (config : Config) (f : Failures) (now : Instant) (s : SyncState) (d : Descriptor) :
    IndexState × SyncState :=
  let name := config.indexOf d
  let t := (s.standing config name).turn config f now d
  (t.upkeep.state, s.put config name t)

/-- The same for several descriptors in turn, each under a name. -/
def ensureAll (config : Config) (f : Failures) (now : Instant) :
    List (String × Descriptor) → SyncState → List (String × IndexState) × SyncState
  | [], s => ([], s)
  | (name, d) :: rest, s =>
    let first := s.ensure config f now d
    let others := ensureAll config f now rest first.2
    ((name, first.1) :: others.1, others.2)

variable {config : Config} {f : Failures} {now : Instant} {a b : String} {d e : Descriptor}

/-! ## Two indexes -/

theorem standing_put_of_ne (s : SyncState) (h : a ≠ b) (t : Turn) :
    (s.put config a t).standing config b = s.standing config b := by
  simp only [standing, put, Table.get?_set, MemoryStore.holding_kept, if_neg h]

theorem put_comm (s : SyncState) (h : a ≠ b) (t u : Turn) :
    (s.put config a t).put config b u = (s.put config b u).put config a t := by
  simp only [put, Table.set_comm _ h, MemoryStore.kept_comm _ config h]

/-- How bringing an index in step ends does not depend on whether another one was before. -/
theorem ensure_fst_of_ne (s : SyncState) (h : config.indexOf d ≠ config.indexOf e) :
    ((s.ensure config f now d).2.ensure config f now e).1 = (s.ensure config f now e).1 := by
  simp only [ensure, standing_put_of_ne s h]

/-- Two indexes can be brought in step in either order. -/
theorem ensure_comm (s : SyncState) (h : config.indexOf d ≠ config.indexOf e) :
    ((s.ensure config f now d).2.ensure config f now e).2 =
      ((s.ensure config f now e).2.ensure config f now d).2 := by
  simp only [ensure, standing_put_of_ne s h, standing_put_of_ne s h.symm]
  exact s.put_comm h _ _

/-! ## Several indexes -/

/-- Descriptors of different indexes can be taken in any order. -/
theorem ensureAll_perm (config : Config) (f : Failures) (now : Instant)
    {l l' : List (String × Descriptor)} (hperm : l'.Perm l)
    (hl : l.Pairwise fun x y => config.indexOf x.2 ≠ config.indexOf y.2) (s : SyncState) :
    (ensureAll config f now l' s).1.Perm (ensureAll config f now l s).1 ∧
      (ensureAll config f now l' s).2 = (ensureAll config f now l s).2 := by
  -- A permutation is made of exchanges of neighbours, and these are all that needs different indexes.
  induction hperm generalizing s with
  | nil => exact ⟨.refl _, rfl⟩
  | cons x _ ih =>
    obtain ⟨hstates, hends⟩ := ih hl.of_cons (s.ensure config f now x.2).2
    exact ⟨hstates.cons _, hends⟩
  | swap x y l =>
    have hne : config.indexOf x.2 ≠ config.indexOf y.2 :=
      List.rel_of_pairwise_cons hl List.mem_cons_self
    simp only [ensureAll, s.ensure_fst_of_ne hne, s.ensure_fst_of_ne hne.symm, s.ensure_comm hne]
    exact ⟨.swap _ _ _, trivial⟩
  | trans _ hsecond ih₁ ih₂ =>
    have hmiddle := (hsecond.pairwise_iff fun h => Ne.symm h).2 hl
    obtain ⟨hstates₁, hends₁⟩ := ih₁ hmiddle s
    obtain ⟨hstates₂, hends₂⟩ := ih₂ hl s
    exact ⟨hstates₁.trans hstates₂, hends₁.trans hends₂⟩

end SyncState

/-! ## Processes -/

namespace SyncState

variable {config : Config} {f : Failures} {now : Instant} {d : Descriptor} {s : SyncState}

/-- Nothing changes about an index whose state is final. -/
theorem ensure_of_isTerminal (h : (s.synchronizer.state (config.indexOf d)).isTerminal = true) :
    s.ensure config f now d = (s.synchronizer.state (config.indexOf d), s) := by
  have hturn : (s.standing config (config.indexOf d)).turn config f now d = _ := if_pos h
  simp only [ensure, hturn]
  simp only [put, standing, Table.set_get?, MemoryStore.kept_of_holding]
  rfl

/-- A model without indexed fields is remembered as such. -/
theorem ensure_of_none (h : (s.synchronizer.state (config.indexOf d)).isTerminal = false)
    (hd : IndexDefinition.ofDescriptor? d config.scope? = none) :
    s.ensure config f now d =
      (.notIndexed, { s with
        synchronizer := s.synchronizer.remembering (config.indexOf d) .notIndexed }) := by
  have hturn : (s.standing config (config.indexOf d)).turn config f now d = _ :=
    if_neg (Bool.not_eq_true _ ▸ h)
  rw [hd] at hturn
  simp only [ensure, hturn]
  simp only [put, standing, Table.set_get?, MemoryStore.kept_of_holding]
  rfl

/-- Otherwise what becomes of the index is put in its places. -/
theorem ensure_of_some {index : IndexDefinition}
    (h : (s.synchronizer.state (config.indexOf d)).isTerminal = false)
    (hd : IndexDefinition.ofDescriptor? d config.scope? = some index) :
    let u := (s.store.holding config index.name).upkeep f now index
    s.ensure config f now d =
      (u.state, ⟨s.synchronizer.settle index u.state, s.store.kept config index.name u⟩) := by
  intro u
  have hname : index.name = config.indexOf d := name_of_ofDescriptor? hd
  have hturn : (s.standing config (config.indexOf d)).turn config f now d = _ :=
    if_neg (Bool.not_eq_true _ ▸ h)
  rw [hd, ← hname] at hturn
  simp only [ensure, ← hname, hturn, put]
  rfl

end SyncState

namespace Process

/-- The synchronizer of a process and its store. -/
def syncState (p : Process (Probe MemoryStore)) : SyncState :=
  ⟨p.synchronizer, p.world.store.store⟩

/-- What a process comes to is what its synchronizer and its store come to, and it leaves everything else
that matters to the next call alone. -/
theorem ensure_syncState (config : Config) (p : Process (Probe MemoryStore)) (d : Descriptor) :
    let ended := p.syncState.ensure config p.world.store.failures p.world.now d
    (p.ensure config d).1 = ended.1 ∧ (p.ensure config d).2.syncState = ended.2 ∧
      (p.ensure config d).2.world.store.failures = p.world.store.failures ∧
      (p.ensure config d).2.world.now = p.world.now ∧
      (p.ensure config d).2.world.descriptors = p.world.descriptors := by
  intro ended
  cases hstate : (p.state (config.indexOf d)).isTerminal with
  | true =>
    have hended : ended = _ := SyncState.ensure_of_isTerminal hstate
    rw [ensure_of_isTerminal hstate, hended]
    exact ⟨rfl, rfl, rfl, rfl, rfl⟩
  | false =>
    cases hd : IndexDefinition.ofDescriptor? d config.scope? with
    | none =>
      have hended : ended = _ := SyncState.ensure_of_none hstate hd
      rw [ensure_of_none hstate hd, hended]
      exact ⟨rfl, rfl, rfl, rfl, rfl⟩
    | some index =>
      have hended : ended = _ := SyncState.ensure_of_some hstate hd
      obtain ⟨hresult, hstore⟩ := synchronise_upkeep config index p.world
      rw [ensure_of_some hstate hd, hended]
      refine ⟨hresult, ?_, failures_synchronise config index p.world,
        now_synchronise config index p.world, (synchronise_cases config index p.world).1⟩
      simp only [syncState, hresult, hstore]

end Process

/-! ## Registries -/

/-- No two models of a registry have one name. -/
def ModelRegistry.IsKeyed (r : ModelRegistry) : Prop :=
  (r.models.map (·.name)).Nodup

/-- Registering keeps names apart. -/
theorem ModelRegistry.IsKeyed.register {r : ModelRegistry} (h : r.IsKeyed) (m : Model) :
    (r.register m).IsKeyed := by
  unfold ModelRegistry.register
  split
  · exact h
  · next hnew =>
    simp only [List.any_eq_true, decide_eq_true_eq, not_exists, not_and] at hnew
    simp only [IsKeyed, List.map_append, List.map_cons, List.map_nil]
    rw [List.nodup_append]
    refine ⟨h, List.pairwise_singleton _ _, ?_⟩
    rintro name hname other hother rfl
    obtain ⟨taken, htaken, rfl⟩ := List.mem_map.1 hname
    exact hnew taken htaken (List.mem_singleton.1 hother)

/-- Indexes of different names have different names on the server. -/
theorem indexOf_injective (config : Config) {d e : Descriptor}
    (h : config.indexOf d = config.indexOf e) : d.indexName = e.indexName := by
  have hchars := congrArg String.toList h
  simp only [Config.indexOf, physicalName, String.toList_append, List.append_cancel_left_eq] at hchars
  exact String.toList_injective hchars

/-- Models that are registered under the names of their indexes have indexes of different names. -/
theorem ModelRegistry.IsKeyed.pairwise_indexOf {σ : Type} {r : ModelRegistry} (h : r.IsKeyed)
    {w : World σ} (hnamed : ∀ m ∈ r.models, (describe m w).1.indexName = m.name) (config : Config) :
    r.models.Pairwise fun m n =>
      config.indexOf (describe m w).1 ≠ config.indexOf (describe n w).1 := by
  refine (List.pairwise_map.1 h).imp_of_mem ?_
  intro m n hm hn hne hsame
  have hindex := indexOf_injective config hsame
  rw [hnamed m hm, hnamed n hn] at hindex
  exact hne hindex

/-- How a model is described depends on the descriptors that are remembered, and on those of its name
only. -/
theorem describe_fst_of_get? {σ : Type} {n : Model} {w w' : World σ}
    (h : w'.descriptors.get? n.name = w.descriptors.get? n.name) :
    (describe n w').1 = (describe n w).1 := by
  unfold describe
  rw [h]
  split <;> rfl

theorem get?_descriptors_describe {σ : Type} {m : Model} {name : String} (h : m.name ≠ name)
    (w : World σ) : (describe m w).2.descriptors.get? name = w.descriptors.get? name := by
  unfold describe
  split
  · rfl
  · exact (Table.get?_insert _ _ _ _).trans (if_neg h)

theorem now_describe {σ : Type} (m : Model) (w : World σ) : (describe m w).2.now = w.now := by
  unfold describe
  split <;> rfl

/-- Bringing the indexes of all registered models in step is bringing those of their descriptors in step,
one after another. -/
theorem initializeIndexes_syncState (config : Config) {models : List Model}
    (hkeyed : (models.map (·.name)).Nodup) (s : Synchronizer) (w : World (Probe MemoryStore)) :
    let outcome := initializeIndexes ⟨models⟩ config s w
    let expected := SyncState.ensureAll config w.store.failures w.now
      (models.map fun m => (m.name, (describe m w).1)) ⟨s, w.store.store⟩
    outcome.1.1 = expected.1 ∧ SyncState.mk outcome.1.2 outcome.2.store.store = expected.2 := by
  induction models generalizing s w with
  | nil => exact ⟨rfl, rfl⟩
  | cons m models ih =>
    intro outcome expected
    have houtcome : outcome = _ := initializeIndexes_cons m models config s w
    obtain ⟨hname, hnames⟩ := List.nodup_cons.1 hkeyed
    let ended := (Process.mk s (describe m w).2).ensure config (describe m w).1
    obtain ⟨hstate, hsync, hfailures, hnow, hdescriptors⟩ :=
      Process.ensure_syncState config ⟨s, (describe m w).2⟩ (describe m w).1
    simp only [Process.syncState, describe_store, now_describe] at hstate hsync hfailures hnow
    have hsame : (models.map fun n => (n.name, (describe n ended.2.world).1)) =
        models.map fun n => (n.name, (describe n w).1) := by
      apply List.map_congr_left
      intro n hn
      have hne : m.name ≠ n.name := fun h => hname (List.mem_map.2 ⟨n, hn, h.symm⟩)
      rw [describe_fst_of_get? (w := w)]
      rw [hdescriptors]
      exact get?_descriptors_describe hne w
    obtain ⟨hstates, hends⟩ := ih hnames ended.2.synchronizer ended.2.world
    rw [hsame, hfailures, hnow, hsync] at hstates hends
    rw [houtcome]
    refine ⟨?_, hends⟩
    change (m.name, ended.1) :: _ = _
    rw [hstate]
    exact congrArg _ hstates

namespace Process

/-- Two indexes of different names can be brought in step in either order, whatever the store in memory
holds and whichever commands fail: each ends the same way, and in the end the store is the same, and so are
the states and the definitions that are remembered. So can the indexes of all models of a registry. -/
theorem ensure_order_irrelevant (config : Config) (p : Process (Probe MemoryStore)) :
    (∀ d e, config.indexOf d ≠ config.indexOf e →
      let one := p.ensure config d
      let other := p.ensure config e
      let oneFirst := one.2.ensure config e
      let otherFirst := other.2.ensure config d
      otherFirst.1 = one.1 ∧ oneFirst.1 = other.1 ∧
      oneFirst.2.world.store.store = otherFirst.2.world.store.store ∧
      oneFirst.2.synchronizer = otherFirst.2.synchronizer) ∧
    (∀ r r' : ModelRegistry, r.IsKeyed → r'.models.Perm r.models →
      (r.models.Pairwise fun m n =>
        config.indexOf (describe m p.world).1 ≠ config.indexOf (describe n p.world).1) →
      let ended := initializeIndexes r config p.synchronizer p.world
      let ended' := initializeIndexes r' config p.synchronizer p.world
      ended'.1.1.Perm ended.1.1 ∧
      ended'.2.store.store = ended.2.store.store ∧
      ended'.1.2 = ended.1.2) := by
  constructor
  · intro d e hne one other oneFirst otherFirst
    -- Each of the four calls acts on the synchronizer and the store alone, under the same failures.
    obtain ⟨hone, honeSync, honeFailures, honeNow, -⟩ := ensure_syncState config p d
    obtain ⟨hother, hotherSync, hotherFailures, hotherNow, -⟩ := ensure_syncState config p e
    obtain ⟨honeFirst, honeFirstSync, -⟩ := ensure_syncState config one.2 e
    obtain ⟨hotherFirst, hotherFirstSync, -⟩ := ensure_syncState config other.2 d
    rw [honeSync, honeFailures, honeNow] at honeFirst honeFirstSync
    rw [hotherSync, hotherFailures, hotherNow] at hotherFirst hotherFirstSync
    rw [SyncState.ensure_fst_of_ne _ hne, ← hother] at honeFirst
    rw [SyncState.ensure_fst_of_ne _ hne.symm, ← hone] at hotherFirst
    have hsame : oneFirst.2.syncState = otherFirst.2.syncState := by
      rw [honeFirstSync, hotherFirstSync, SyncState.ensure_comm _ hne]
    exact ⟨hotherFirst, honeFirst, congrArg SyncState.store hsame,
      congrArg SyncState.synchronizer hsame⟩
  · intro r r' hkeyed hperm happart ended ended'
    have hkeyed' : r'.IsKeyed := (hperm.map _).nodup_iff.2 hkeyed
    obtain ⟨hstates, hends⟩ :=
      initializeIndexes_syncState config hkeyed p.synchronizer p.world
    obtain ⟨hstates', hends'⟩ :=
      initializeIndexes_syncState config hkeyed' p.synchronizer p.world
    obtain ⟨hsame, hsync⟩ :=
      SyncState.ensureAll_perm config p.world.store.failures p.world.now
        (hperm.map fun m => (m.name, (describe m p.world).1)) (List.pairwise_map.2 happart)
        p.syncState
    have hend : SyncState.mk ended'.1.2 ended'.2.store.store = ⟨ended.1.2, ended.2.store.store⟩ :=
      (hends'.trans hsync).trans hends.symm
    refine ⟨?_, congrArg SyncState.store hend, congrArg SyncState.synchronizer hend⟩
    exact hstates' ▸ hstates ▸ hsame

/-- Another model with one tag. -/
def squads : Descriptor := ⟨"squads", [⟨"name", .tag, false, .text⟩], []⟩

/-- Nothing can be dropped, and there is an index in the way of the heroes'. -/
def blocked : Process (Probe MemoryStore) where
  world := { store := { store := orphaned, faults := [(.dropIndex, .backend "busy")] }, now := ⟨0, 0⟩ }

/-- The two models. -/
def bothTeams : ModelRegistry := ⟨[⟨"heroes", heroes⟩, ⟨"squads", squads⟩]⟩

/-- The index that is in the way stays there and the other one is created, whichever comes first. -/
theorem order_irrelevant_of_blocked :
    (blocked.ensure {} heroes).1 = .failed ∧ (blocked.ensure {} squads).1 = .upToDate ∧
    ((blocked.ensure {} squads).2.ensure {} heroes).1 = .failed ∧
    ((blocked.ensure {} heroes).2.ensure {} squads).1 = .upToDate ∧
    (initializeIndexes ⟨bothTeams.models.reverse⟩ {} blocked.synchronizer
        blocked.world).2.store.store =
      (initializeIndexes bothTeams {} blocked.synchronizer blocked.world).2.store.store := by
  obtain ⟨htwo, hall⟩ := ensure_order_irrelevant {} blocked
  have hheroes : (blocked.ensure {} heroes).1 = .failed := by decide +kernel
  have hsquads : (blocked.ensure {} squads).1 = .upToDate := by decide +kernel
  obtain ⟨hheroes', hsquads', -⟩ := htwo heroes squads (by decide)
  have hkeyed : bothTeams.IsKeyed := by
    unfold ModelRegistry.IsKeyed
    decide
  have happart := hkeyed.pairwise_indexOf (w := blocked.world) (by decide +kernel) {}
  obtain ⟨-, hstore, -⟩ :=
    hall bothTeams ⟨bothTeams.models.reverse⟩ hkeyed (List.reverse_perm _) happart
  exact ⟨hheroes, hsquads, hheroes'.trans hheroes, hsquads'.trans hsquads, hstore⟩

end Process

end RecordSearch
