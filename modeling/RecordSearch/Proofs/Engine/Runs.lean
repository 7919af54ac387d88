import RecordSearch.Engine.Basic
import RecordSearch.Proofs.Engine.IndexView
import RecordSearch.Proofs.Index.Shape

/-!
# Runs of several synchronizers

Synchronizers that share a store trust its records. A record that agrees with a definition is taken for
an index of that definition, so a record must not outlive its index. Dropping, creating and recording are
three commands, though, and each can fail alone: an index that is dropped under a record and then neither
created anew nor recorded leaves a record that lies. Such an end is the only way to get one, and whoever
believes it reports an index up to date that is not.

## Main definitions

* `Cluster`, `SyncStep`, `Cluster.run` — synchronizers above one store, what can happen, and runs.
* `IndexView.Trusted` — the invariant: a record comes with the live index of a definition that it fits.
* `IndexView.tears`, `Cluster.Untorn` — ends that leave a record without its index, and runs without
  one.
* `Cluster.IsTruthful`, `Cluster.StaysTruthful` — an index reported up to date is the one declared.

## Main results

* `trusted_rebuild`, `exists_lie_of_tears` — one step keeps the invariant unless it tears, and only
  then.
* `staysTruthful_iff_untorn` — a run stays truthful exactly if nothing in it tears.
-/

namespace RecordSearch

/-- Definitions that create the same index have the same fingerprint. -/
theorem fingerprint_eq_of_createArguments_eq {i j : IndexDefinition}
    (h : i.createArguments = j.createArguments) : i.fingerprint = j.fingerprint := by
  have hschema : i.schemaArguments = j.schemaArguments := (List.append_inj h rfl).2
  rw [IndexDefinition.fingerprint, IndexDefinition.fingerprint,
    IndexDefinition.shape_eq_of_schemaArguments_eq hschema]

/-! ## One index -/

namespace IndexView

/-- A record comes with the live index of a definition in use that it fits. -/
def Trusted (used : IndexDefinition → Prop) (name : String) (v : IndexView) : Prop :=
  ∀ fingerprint, v.stored? = some fingerprint →
    ∃ i, used i ∧ i.name = name ∧ i.fingerprint = fingerprint ∧ v.live? = some i.createArguments

/-- Whether bringing an index in step takes it away under its record: there is a record that is not
believed, the index is dropped, and then it is not created, or created otherwise than on record. -/
def tears (v : IndexView) (f : Failures) (i : IndexDefinition) : Bool :=
  v.seen? f != some i.fingerprint && !f.drop &&
    match v.stored? with
    | none => false
    | some fingerprint => f.create || (f.write && fingerprint != i.fingerprint)

variable {used : IndexDefinition → Prop} {name : String} {v : IndexView} {f : Failures}
  {i : IndexDefinition}

theorem Trusted.of_stored_eq_none (h : v.stored? = none) : v.Trusted used name := by
  intro fingerprint hstored
  rw [h] at hstored
  contradiction

theorem tears_eq_true_iff :
    v.tears f i = true ↔ v.seen? f ≠ some i.fingerprint ∧ f.drop = false ∧
      ∃ fingerprint, v.stored? = some fingerprint ∧
        (f.create = true ∨ f.write = true ∧ fingerprint ≠ i.fingerprint) := by
  unfold tears
  cases v.stored? <;> simp [and_assoc]

theorem stored?_dropped : (v.dropped f).stored? = v.stored? := by
  unfold dropped
  split <;> rfl

/-- A live index is trusted under any record that its definition fits. -/
theorem trusted_live (hi : used i) (hname : i.name = name) {stored? : Option String}
    (h : ∀ fingerprint, stored? = some fingerprint → fingerprint = i.fingerprint) :
    Trusted used name ⟨some i.createArguments, stored?⟩ :=
  fun fingerprint hstored => ⟨i, hi, hname, (h fingerprint hstored).symm, rfl⟩

/-- A trusted view stays so if nothing tears. -/
theorem trusted_rebuild (hv : v.Trusted used name) (hi : used i) (hname : i.name = name)
    (h : v.tears f i = false) : (v.rebuild f i).2.Trusted used name := by
  by_cases hseen : v.seen? f = some i.fingerprint
  · rw [rebuild_of_seen hseen]
    exact hv
  cases hblocked : f.create || (v.dropped f).live?.isSome with
  | true =>
    rw [rebuild_of_blocked hseen hblocked]
    intro fingerprint hstored
    rw [stored?_dropped] at hstored
    obtain ⟨j, hj, hjname, hfingerprint, hlive⟩ := hv fingerprint hstored
    refine ⟨j, hj, hjname, hfingerprint, ?_⟩
    -- Had the index been dropped, creating would have failed and the record would lie.
    have hdrop : f.drop = true := by
      by_contra hdrop
      rw [Bool.not_eq_true] at hdrop
      have hcreate : f.create = true := by simpa [dropped, hdrop] using hblocked
      rw [tears_eq_true_iff.2 ⟨hseen, hdrop, fingerprint, hstored, .inl hcreate⟩] at h
      contradiction
    rw [dropped, if_pos hdrop, hlive]
  | false =>
    rw [rebuild_of_free hseen hblocked]
    apply trusted_live hi hname
    intro fingerprint hstored
    rw [stored?_dropped] at hstored
    cases hwrite : f.write with
    | false => simpa [hwrite, eq_comm] using hstored
    | true =>
      rw [hwrite, if_pos rfl] at hstored
      obtain ⟨j, -, -, -, hlive⟩ := hv fingerprint hstored
      have hdrop : f.drop = false := by
        by_contra hdrop
        rw [Bool.not_eq_false] at hdrop
        simp [dropped, hdrop, hlive] at hblocked
      by_contra hne
      rw [tears_eq_true_iff.2 ⟨hseen, hdrop, fingerprint, hstored, .inr ⟨hwrite, hne⟩⟩] at h
      contradiction

/-- An index reported up to date from a trusted view is the one declared. -/
theorem live?_of_trusted (hv : v.Trusted used name) (hname : i.name = name)
    (hused : ∀ j, used j → j.name = i.name → j.fingerprint = i.fingerprint →
      j.createArguments = i.createArguments)
    (h : (v.rebuild f i).1 = .upToDate) : (v.rebuild f i).2.live? = some i.createArguments := by
  by_cases hseen : v.seen? f = some i.fingerprint
  · -- Only a record that is read can be believed, and a trusted record has its index.
    have hstored : v.stored? = some i.fingerprint := by
      unfold seen? at hseen
      split at hseen
      · contradiction
      · exact hseen
    obtain ⟨j, hj, hjname, hfingerprint, hlive⟩ := hv _ hstored
    rw [rebuild_of_seen hseen, hlive, hused j hj (hjname.trans hname.symm) hfingerprint]
  · cases hblocked : f.create || (v.dropped f).live?.isSome with
    | true =>
      rw [rebuild_of_blocked hseen hblocked] at h
      contradiction
    | false => rw [rebuild_of_free hseen hblocked]

/-- Where something tears, a record is left that some definition in use fits and the index does not. -/
theorem exists_lie_of_tears (hv : v.Trusted used name) (h : v.tears f i = true) :
    ∃ j, used j ∧ j.name = name ∧ (v.rebuild f i).2.stored? = some j.fingerprint ∧
      (v.rebuild f i).2.live? ≠ some j.createArguments := by
  obtain ⟨hseen, hdrop, fingerprint, hstored, hlost⟩ := tears_eq_true_iff.1 h
  obtain ⟨j, hj, hjname, rfl, -⟩ := hv fingerprint hstored
  refine ⟨j, hj, hjname, ?_⟩
  have hgone : (v.dropped f).live? = none := by rw [dropped, if_neg (by simp [hdrop])]
  cases hcreate : f.create with
  | true =>
    rw [rebuild_of_blocked hseen (by simp [hcreate]), stored?_dropped, hgone]
    exact ⟨hstored, nofun⟩
  | false =>
    obtain ⟨hwrite, hne⟩ : f.write = true ∧ j.fingerprint ≠ i.fingerprint := by
      simpa [hcreate] using hlost
    rw [rebuild_of_free hseen (by simp [hcreate, hgone]), if_pos hwrite, stored?_dropped]
    refine ⟨hstored, fun hsame => hne ?_⟩
    exact fingerprint_eq_of_createArguments_eq (Option.some.inj hsame).symm

end IndexView

theorem Probe.read_setFault_none (p : Probe MemoryStore) :
    (p.setFault .readHash none).failures.read = false := by
  have hlookup : (p.faults.filter fun f => f.1 != Command.Kind.readHash).lookup .readHash = none := by
    rw [List.lookup_eq_none_iff]
    intro f hf
    have hne := (List.mem_filter.1 hf).2
    rw [bne_iff_ne] at hne
    exact bne_iff_ne.2 hne.symm
  simp only [failures, fault?, setFault, hlookup, Option.isSome_none]

/-! ## Several synchronizers above one store -/

/-- Synchronizers that share a world. There are as many as anyone asks for; one that has done nothing yet
is like that of a process just started. -/
structure Cluster where
  world : World (Probe MemoryStore)
  synchronizers : Nat → Synchronizer := fun _ => {}

/-- What can happen. -/
inductive SyncStep where
  | ensure (who : Nat) (d : Descriptor)
  | reset (who : Nat)
  /-- From now on commands of a kind fail, or do not. -/
  | setFault (kind : Command.Kind) (fault? : Option StorageError)
  /-- From now on the store itself refuses to create indexes, or does not. -/
  | refuseCreates (refused : Bool)
  | setClock (now : Instant)
  deriving DecidableEq, Repr

/-- The descriptor whose index the step brings in step. A step without one only makes something fail,
lets it succeed again, forgets states or moves the clock. -/
def SyncStep.descriptor? : SyncStep → Option Descriptor
  | ensure _ d => some d
  | _ => none

namespace Cluster

/-- Nothing stored and nothing known. -/
def start (now : Instant) : Cluster where
  world := { store := { store := {} }, now := now }

/-- What the store holds about an index. -/
def view (c : Cluster) (config : Config) (name : String) : IndexView :=
  c.world.store.store.view config name

/-- One synchronizer acts; the others and their states stay as they are. -/
def act {α : Type} (c : Cluster) (who : Nat) (work : SyncM (Probe MemoryStore) α) : Cluster :=
  let ((_, s), w) := work (c.synchronizers who) c.world
  ⟨w, fun n => if n = who then s else c.synchronizers n⟩

/-- What a step does. -/
def step (config : Config) (c : Cluster) : SyncStep → Cluster
  | .ensure who d => c.act who (ensureIndex config d)
  | .reset who => c.act who resetIndexStates
  | .setFault kind fault? =>
    { c with world := { c.world with store := c.world.store.setFault kind fault? } }
  | .refuseCreates refused =>
    let store := { c.world.store.store with failCreates := refused }
    { c with world := { c.world with store := { c.world.store with store := store } } }
  | .setClock now => { c with world := { c.world with now := now } }

/-- What several steps do. -/
def run (config : Config) (c : Cluster) (steps : List SyncStep) : Cluster :=
  steps.foldl (step config) c

/-- How it ends when one synchronizer brings an index in step, and the world after it. -/
def ensure (config : Config) (c : Cluster) (who : Nat) (d : Descriptor) :
    IndexState × World (Probe MemoryStore) :=
  let ((state, _), w) := ensureIndex config d (c.synchronizers who) c.world
  (state, w)

/-- If bringing an index in step asks the store anything and is reported to have gone well, then the
index is live, with the arguments that its definition declares. -/
def IsTruthful (config : Config) (c : Cluster) (who : Nat) (d : Descriptor) : Prop :=
  (c.ensure config who d).1 = .upToDate → (c.ensure config who d).2.store.log ≠ c.world.store.log →
    ∃ index, IndexDefinition.ofDescriptor? d config.scope? = some index ∧
      (c.ensure config who d).2.store.store.indexes.get? (physicalName d.indexName config.scope?) =
        some index.createArguments

/-- Whether bringing an index in step takes it away under its record. -/
def tears (config : Config) (c : Cluster) (who : Nat) (d : Descriptor) : Bool :=
  match IndexDefinition.ofDescriptor? d config.scope? with
  | none => false
  | some index =>
    !((c.synchronizers who).state (physicalName d.indexName config.scope?)).isTerminal &&
      (c.view config index.name).tears c.world.store.failures index

/-- No step of a run tears. -/
def Untorn (config : Config) (c : Cluster) : List SyncStep → Prop
  | [] => True
  | .ensure who d :: rest =>
    c.tears config who d = false ∧ Untorn config (c.step config (.ensure who d)) rest
  | s :: rest => Untorn config (c.step config s) rest

/-- Wherever a run stands, whatever is made to fail or to succeed from then on, and whoever is to bring
an index of some descriptors in step: what is reported is true. -/
def StaysTruthful (config : Config) (c : Cluster) (ds : List Descriptor) (steps : List SyncStep) :
    Prop :=
  ∀ done, done <+: steps → ∀ switches : List SyncStep, (∀ s ∈ switches, s.descriptor? = none) →
    ∀ who, ∀ d ∈ ds, ((c.run config done).run config switches).IsTruthful config who d

/-- Every record that the store holds is trusted. -/
def Trusted (config : Config) (used : IndexDefinition → Prop) (c : Cluster) : Prop :=
  ∀ name, (c.view config name).Trusted used name

end Cluster

/-- The descriptors whose indexes a run brings in step. -/
def ensured (steps : List SyncStep) : List Descriptor :=
  steps.filterMap SyncStep.descriptor?

/-- The definitions that some descriptors give. -/
def Defines (config : Config) (ds : List Descriptor) (i : IndexDefinition) : Prop :=
  ∃ d ∈ ds, IndexDefinition.ofDescriptor? d config.scope? = some i

/-- Among the definitions of some descriptors, the fingerprint tells one index of a name from another. -/
def FingerprintsTell (config : Config) (ds : List Descriptor) : Prop :=
  ∀ i j, Defines config ds i → Defines config ds j → i.name = j.name →
    i.fingerprint = j.fingerprint → i.createArguments = j.createArguments

/-! ## One step -/

namespace Cluster

variable {config : Config} {used : IndexDefinition → Prop} {c : Cluster} {who : Nat} {d : Descriptor}
  {ds : List Descriptor}

theorem ensure_of_some {index : IndexDefinition}
    (hindex : IndexDefinition.ofDescriptor? d config.scope? = some index)
    (hstate :
      ((c.synchronizers who).state (physicalName d.indexName config.scope?)).isTerminal = false) :
    c.ensure config who d = synchronise config index c.world := by
  rw [ensure, ensureIndex_of_some hstate hindex]
  rfl

/-- Bringing an index in step leaves the world alone, or does what the definition asks for. -/
theorem ensure_cases (config : Config) (c : Cluster) (who : Nat) (d : Descriptor) :
    (c.ensure config who d).2 = c.world ∨
      ∃ index, IndexDefinition.ofDescriptor? d config.scope? = some index ∧
        ((c.synchronizers who).state (physicalName d.indexName config.scope?)).isTerminal = false ∧
        c.ensure config who d = synchronise config index c.world := by
  cases hstate : ((c.synchronizers who).state (physicalName d.indexName config.scope?)).isTerminal with
  | true => exact .inl (by rw [ensure, ensureIndex_of_isTerminal hstate])
  | false =>
    cases hindex : IndexDefinition.ofDescriptor? d config.scope? with
    | none => exact .inl (by rw [ensure, ensureIndex_of_none hstate hindex])
    | some index => exact .inr ⟨index, rfl, rfl, ensure_of_some hindex hstate⟩

theorem trusted_start (now : Instant) : (start now).Trusted config used := by
  intro name
  exact IndexView.Trusted.of_stored_eq_none rfl

/-- A step that brings nothing in step changes nothing that the store holds about an index. -/
theorem view_step_of_none {s : SyncStep} (hs : s.descriptor? = none) (name : String) :
    (c.step config s).view config name = c.view config name := by
  cases s with
  | ensure who d => contradiction
  | reset who | setFault kind fault? | refuseCreates refused | setClock now => rfl

theorem trusted_switches {switches : List SyncStep} (hs : ∀ s ∈ switches, s.descriptor? = none)
    (hc : c.Trusted config used) : (c.run config switches).Trusted config used := by
  induction switches generalizing c with
  | nil => exact hc
  | cons s switches ih =>
    obtain ⟨hfirst, hothers⟩ := List.forall_mem_cons.1 hs
    apply ih hothers
    intro name
    rw [view_step_of_none hfirst]
    exact hc name

/-- Bringing an index in step keeps every record trusted if nothing tears. -/
theorem trusted_step_ensure (hc : c.Trusted config used)
    (hd : ∀ i, IndexDefinition.ofDescriptor? d config.scope? = some i → used i)
    (h : c.tears config who d = false) :
    (c.step config (.ensure who d)).Trusted config used := by
  have hworld : (c.step config (.ensure who d)).world = (c.ensure config who d).2 := rfl
  rcases c.ensure_cases config who d with hsame | ⟨index, hindex, hstate, hrun⟩
  · intro name
    rw [view, hworld, hsame]
    exact hc name
  · intro name
    rw [view, hworld, hrun, (synchronise_view config index c.world).2 name]
    split
    · next hname =>
      subst hname
      apply IndexView.trusted_rebuild (hc index.name) (hd index hindex) rfl
      simpa [tears, hindex, hstate] using h
    · exact hc name

/-- From trusted records only true things are reported. -/
theorem isTruthful_of_trusted (hc : c.Trusted config used)
    (hd : ∀ i, IndexDefinition.ofDescriptor? d config.scope? = some i → ∀ j, used j →
      j.name = i.name → j.fingerprint = i.fingerprint → j.createArguments = i.createArguments) :
    c.IsTruthful config who d := by
  intro hupToDate hlog
  rcases c.ensure_cases config who d with hsame | ⟨index, hindex, hstate, hrun⟩
  · -- Nothing was asked.
    rw [hsame] at hlog
    contradiction
  · obtain ⟨hresult, hview⟩ := synchronise_view config index c.world
    rw [hrun, hresult] at hupToDate
    have hlive := IndexView.live?_of_trusted (hc index.name) rfl (hd index hindex) hupToDate
    have hself := hview index.name
    rw [if_pos rfl] at hself
    refine ⟨index, hindex, ?_⟩
    rw [hrun, ← name_of_ofDescriptor? hindex, ← hlive]
    exact congrArg IndexView.live? hself

/-- Whoever reads a record that fits, where the index does not, reports what is not true. -/
theorem not_isTruthful_of_seen {index : IndexDefinition}
    (hindex : IndexDefinition.ofDescriptor? d config.scope? = some index)
    (hstate :
      ((c.synchronizers who).state (physicalName d.indexName config.scope?)).isTerminal = false)
    (hseen : (c.view config index.name).seen? c.world.store.failures = some index.fingerprint)
    (hlive : (c.view config index.name).live? ≠ some index.createArguments) :
    ¬ c.IsTruthful config who d := by
  intro htruthful
  obtain ⟨hresult, hview⟩ := synchronise_view config index c.world
  have hrebuild := IndexView.rebuild_of_seen hseen
  have hself := hview index.name
  unfold view at hrebuild
  rw [if_pos rfl, hrebuild] at hself
  rw [hrebuild] at hresult
  unfold IsTruthful at htruthful
  rw [ensure_of_some hindex hstate, hresult] at htruthful
  -- The record is read, which is a call, and believed; so the index would have to be live.
  have hlog : (synchronise config index c.world).2.store.log ≠ c.world.store.log := by
    intro hsame
    have hlonger := log_synchronise config index c.world
    rw [hsame] at hlonger
    exact Nat.lt_irrefl _ hlonger
  obtain ⟨declared, hdeclared, hstored⟩ := htruthful rfl hlog
  obtain rfl : index = declared := Option.some.inj (hindex.symm.trans hdeclared)
  rw [← name_of_ofDescriptor? hindex] at hstored
  exact hlive ((congrArg IndexView.live? hself).symm.trans hstored)

theorem isTerminal_of_states_eq_empty {s : Synchronizer} (h : s.states = .empty) (index : String) :
    (s.state index).isTerminal = false := by
  rw [Synchronizer.state, h]
  rfl

/-- Where something tears, a process started afterwards that can read the record reports what is not
true. -/
theorem exists_lie_of_tears (hc : c.Trusted config (Defines config ds))
    (h : c.tears config who d = true) {fresh : Nat}
    (hfresh : ((c.step config (.ensure who d)).synchronizers fresh).states = .empty) :
    ∃ e ∈ ds, ¬ ((c.step config (.ensure who d)).step config (.setFault .readHash none)).IsTruthful
      config fresh e := by
  unfold tears at h
  cases hindex : IndexDefinition.ofDescriptor? d config.scope? with
  | none => simp [hindex] at h
  | some index =>
    obtain ⟨hstate, htears⟩ : _ ∧ _ := by simpa [hindex] using h
    obtain ⟨j, ⟨e, he, hj⟩, hname, hstored, hlive⟩ :=
      IndexView.exists_lie_of_tears (hc index.name) htears
    have hview : ((c.step config (.ensure who d)).step config (.setFault .readHash none)).view config
        j.name = ((c.view config index.name).rebuild c.world.store.failures index).2 := by
      have hworld : (c.step config (.ensure who d)).world = (c.ensure config who d).2 := rfl
      rw [view_step_of_none rfl, view, hworld, ensure_of_some hindex hstate,
        (synchronise_view config index c.world).2, if_pos hname.symm]
      rfl
    refine ⟨e, he, not_isTruthful_of_seen hj (isTerminal_of_states_eq_empty hfresh _) ?_ ?_⟩
    · have hread : ((c.step config (.ensure who d)).step config
          (.setFault .readHash none)).world.store.failures.read = false :=
        (c.step config (.ensure who d)).world.store.read_setFault_none
      rw [IndexView.seen?, hread, hview]
      exact hstored
    · rw [hview]
      exact hlive

/-! ## Whole runs -/

theorem run_cons (c : Cluster) (s : SyncStep) (steps : List SyncStep) :
    c.run config (s :: steps) = (c.step config s).run config steps := rfl

/-- In all but finitely many processes nothing is known. -/
def HasFresh (c : Cluster) : Prop :=
  ∃ bound, ∀ n, bound ≤ n → (c.synchronizers n).states = .empty

theorem HasFresh.act {α : Type} (hc : c.HasFresh) (who : Nat) (work : SyncM (Probe MemoryStore) α) :
    (c.act who work).HasFresh := by
  obtain ⟨bound, hbound⟩ := hc
  refine ⟨max bound (who + 1), fun n hn => ?_⟩
  have hne : n ≠ who := by omega
  have hsame : (c.act who work).synchronizers n = c.synchronizers n := if_neg hne
  rw [hsame]
  exact hbound n (by omega)

theorem HasFresh.step (hc : c.HasFresh) (s : SyncStep) : (c.step config s).HasFresh := by
  cases s with
  | ensure who d => exact hc.act who (ensureIndex config d)
  | reset who => exact hc.act who resetIndexStates
  | setFault kind fault? | refuseCreates refused | setClock now => exact hc

theorem untorn_cons {s : SyncStep} {steps : List SyncStep} :
    c.Untorn config (s :: steps) ↔
      (∀ who d, s = .ensure who d → c.tears config who d = false) ∧
        (c.step config s).Untorn config steps := by
  cases s <;> simp [Untorn]

theorem mem_ensured_cons {s : SyncStep} {steps : List SyncStep} :
    d ∈ ensured (s :: steps) ↔ s.descriptor? = some d ∨ d ∈ ensured steps := by
  simp [ensured]

/-- A step keeps every record trusted if it does not tear. -/
theorem trusted_step {s : SyncStep} (hc : c.Trusted config (Defines config ds))
    (hused : ∀ e, s.descriptor? = some e → e ∈ ds)
    (h : ∀ who d, s = .ensure who d → c.tears config who d = false) :
    (c.step config s).Trusted config (Defines config ds) := by
  cases hdescriptor : s.descriptor? with
  | none =>
    intro name
    rw [view_step_of_none hdescriptor]
    exact hc name
  | some d =>
    cases s with
    | ensure who e =>
      have hmem := hused e rfl
      exact trusted_step_ensure hc (fun i hi => ⟨e, hmem, hi⟩) (h who e rfl)
    | reset who | setFault kind fault? | refuseCreates refused | setClock now => contradiction

/-- An untorn run keeps every record trusted, wherever it stands. -/
theorem trusted_run {steps done : List SyncStep} (hdone : done <+: steps)
    (hused : ∀ e ∈ ensured steps, e ∈ ds) (hc : c.Trusted config (Defines config ds))
    (h : c.Untorn config steps) : (c.run config done).Trusted config (Defines config ds) := by
  -- The step that comes first is trusted by the step lemma, and the rest of a prefix is one of the rest.
  induction steps generalizing c done with
  | nil =>
    rw [List.prefix_nil.1 hdone]
    exact hc
  | cons s steps ih =>
    obtain ⟨hfirst, hothers⟩ := untorn_cons.1 h
    have htrusted := trusted_step hc (fun e he => hused e (mem_ensured_cons.2 (.inl he))) hfirst
    cases done with
    | nil => exact hc
    | cons t done =>
      obtain ⟨rfl, hrest⟩ := List.cons_prefix_cons.1 hdone
      rw [run_cons]
      exact ih hrest (fun e he => hused e (mem_ensured_cons.2 (.inr he))) htrusted hothers

/-- A run that stays truthful tears nothing. -/
theorem untorn_of_staysTruthful {steps : List SyncStep} (hused : ∀ e ∈ ensured steps, e ∈ ds)
    (hc : c.Trusted config (Defines config ds)) (hfresh : c.HasFresh)
    (h : c.StaysTruthful config ds steps) : c.Untorn config steps := by
  induction steps generalizing c with
  | nil => trivial
  | cons s steps ih =>
    have hwhole : ∀ who d, s = .ensure who d → c.tears config who d = false := by
      rintro who d rfl
      by_contra htears
      rw [Bool.not_eq_false] at htears
      -- A process that starts right after the step, with nothing failing to be read, lies.
      obtain ⟨bound, hbound⟩ : (c.step config (.ensure who d)).HasFresh := hfresh.step _
      obtain ⟨e, he, hlie⟩ := exists_lie_of_tears hc htears (hbound bound (Nat.le_refl _))
      have hdone : [SyncStep.ensure who d] <+: .ensure who d :: steps :=
        List.cons_prefix_cons.2 ⟨rfl, List.nil_prefix⟩
      exact hlie (h _ hdone [.setFault .readHash none] (by simp [SyncStep.descriptor?]) bound e he)
    refine untorn_cons.2 ⟨hwhole, ih ?_ ?_ (hfresh.step s) ?_⟩
    · exact fun e he => hused e (mem_ensured_cons.2 (.inr he))
    · exact trusted_step hc (fun e he => hused e (mem_ensured_cons.2 (.inl he))) hwhole
    · intro done hdone
      exact h (s :: done) (List.cons_prefix_cons.2 ⟨rfl, hdone⟩)

/-- A run of synchronizers above an empty store stays truthful exactly if nothing in it tears. -/
theorem staysTruthful_iff_untorn {config : Config} {steps : List SyncStep} (now : Instant)
    (htell : FingerprintsTell config (ensured steps)) :
    (start now).StaysTruthful config (ensured steps) steps ↔ (start now).Untorn config steps := by
  constructor
  · apply untorn_of_staysTruthful (fun _ he => he) (trusted_start now)
    exact ⟨0, fun _ _ => rfl⟩
  · intro h done hdone switches hswitches who d hd
    have htrusted := trusted_run hdone (fun _ he => he) (trusted_start now) h
    apply isTruthful_of_trusted (trusted_switches hswitches htrusted)
    intro i hi j hj hname hfingerprint
    exact htell j i hj ⟨d, hd, hi⟩ hname hfingerprint

/-- A model with one tag. -/
def oneTag : Descriptor := ⟨"notes", [⟨"a", .tag, false, .text⟩], []⟩

/-- The next version of the model, with two tags. -/
def twoTags : Descriptor :=
  ⟨"notes", [⟨"a", .tag, false, .text⟩, ⟨"b", .tag, false, .text⟩], []⟩

theorem fingerprintsTell_tags {ds : List Descriptor} (h : ∀ d ∈ ds, d = oneTag ∨ d = twoTags) :
    FingerprintsTell {} ds := by
  have hdiffer : hexDigest "a:Tag;" ≠ hexDigest "a:Tag;b:Tag;" := by decide +kernel
  rintro i j ⟨d, hd, hi⟩ ⟨e, he, hj⟩ - hfingerprint
  rcases h d hd with rfl | rfl <;> rcases h e he with rfl | rfl
  · rw [hi] at hj
    rw [Option.some.inj hj]
  · obtain rfl := Option.some.inj hi
    obtain rfl := Option.some.inj hj
    exact absurd hfingerprint hdiffer
  · obtain rfl := Option.some.inj hi
    obtain rfl := Option.some.inj hj
    exact absurd hfingerprint.symm hdiffer
  · rw [hi] at hj
    rw [Option.some.inj hj]

/-- Dropping fails, so the new version cannot be created and the old one stays what its record says. -/
theorem staysTruthful_of_failed_drop :
    FingerprintsTell {} [oneTag, twoTags, oneTag] ∧
    (start ⟨0, 0⟩).StaysTruthful {} [oneTag, twoTags, oneTag]
      [.ensure 0 oneTag, .setFault .dropIndex (some (.backend "down")), .ensure 1 twoTags,
        .setFault .dropIndex none, .ensure 2 oneTag] := by
  have htell : FingerprintsTell {} [oneTag, twoTags, oneTag] := fingerprintsTell_tags (by simp)
  refine ⟨htell, (staysTruthful_iff_untorn ⟨0, 0⟩ htell).2 ?_⟩
  refine ⟨?_, ?_, ?_, trivial⟩
  all_goals decide +kernel

/-- Creating the new version fails after the old index was dropped; once the new version is rolled back,
the old one is reported up to date, and there is no index. -/
theorem rollback_not_isTruthful :
    FingerprintsTell {} [oneTag, twoTags, oneTag] ∧
    ¬ ((start ⟨0, 0⟩).run {} [.ensure 0 oneTag, .setFault .createIndex (some (.backend "down")),
        .ensure 1 twoTags, .setFault .createIndex none]).IsTruthful {} 2 oneTag := by
  refine ⟨fingerprintsTell_tags (by simp), ?_⟩
  have hindex : IndexDefinition.ofDescriptor? oneTag none =
      some ⟨"notes", "notes:", [⟨"a", .tag, false⟩]⟩ := rfl
  apply not_isTruthful_of_seen hindex
  · decide +kernel
  · decide +kernel
  · decide +kernel

end Cluster

end RecordSearch
