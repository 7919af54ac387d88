import RecordSearch.Proofs.Calendar.Instant
import RecordSearch.Proofs.Engine.Runs
import RecordSearch.Proofs.Engine.Upkeep

/-!
# The time of first creation

The record of an index says when the index was first created. An index that is created anew gets a new
record, into which that time is copied: it is read, written as text and stored again. The copy is another
time if the old record could not be read, since then the index is taken for a new one; and it cannot be
read again if the year is not written in four digits. In every other case the time stays what it was.

## Main definitions

* `Holding.creation?`, `Cluster.creation?` — the time of first creation on record.
* `Holding.redates`, `Cluster.redates`, `Cluster.NeverRedated` — whether a holding, a step or a run puts
  another time there, or none that can be read.

## Main results

* `Holding.creation?_upkeep_iff`, `Cluster.creation?_step_iff` — what bringing an index in step does to the
  time.
* `Cluster.creation_kept_iff` — the time stays in a run exactly if no step redates the index.
-/

namespace RecordSearch

/-! ## One index -/

namespace Holding

/-- When the index was first created, if its record says so. -/
def creation? (h : Holding) : Option Instant :=
  h.metadata?.bind (·.createdAt?)

/-- Whether an index that was first created at some time gets a record that says otherwise when it is
brought in step: it is created anew and put on record, and the old record could not be read, or the time
cannot be read as it is written. -/
def redates (h : Holding) (f : Failures) (now : Instant) (i : IndexDefinition) (t : Instant) : Bool :=
  h.view.seen? f != some i.fingerprint &&
    !(f.create || (h.view.dropped f).live?.isSome) && !f.write &&
      (f.read && now != t || !decide t.HasPlainYear)

variable {h : Holding} {f : Failures} {now t : Instant} {i : IndexDefinition}

theorem isProper_of_creation? (ht : h.creation? = some t) : t.IsProper := by
  obtain ⟨metadata, hmetadata, hcreated⟩ := Option.bind_eq_some_iff.1 ht
  unfold metadata? IndexMetadata.ofFields? at hmetadata
  split at hmetadata
  · contradiction
  split at hmetadata
  · contradiction
  · obtain rfl := Option.some.inj hmetadata
    obtain ⟨text, -, hread⟩ := Option.bind_eq_some_iff.1 hcreated
    exact Instant.isProper_of_ofRfc3339? hread

/-- What is not put on record leaves the time alone. -/
theorem creation?_of_record? {h' : Holding} (hrecord : h'.record? = h.record?) :
    h'.creation? = h.creation? := by
  rw [creation?, metadata?, hrecord]
  rfl

/-- What is put on record is the time that was read, or else the time of the clock. -/
theorem creation?_created (hwrite : f.write = false) :
    (h.created f now i).creation? =
      Instant.ofRfc3339? (((h.readMetadata? f).bind (·.createdAt?)).getD now).rfc3339 := by
  have hrecord : (h.created f now i).record? = some ((h.record?.getD .empty).insertAll
      (IndexMetadata.renewed (h.readMetadata? f) i.fingerprint now).toFields) := by
    simp only [created, hwrite, Bool.false_eq_true, if_false]
  rw [creation?, metadata?, hrecord, Option.getD_some]
  exact IndexMetadata.createdAt?_of_toFields i.fingerprint_ne_empty rfl _

/-- Bringing an index in step leaves the time of its first creation unless it redates the index. -/
theorem creation?_upkeep_iff (ht : h.creation? = some t) (hnow : now.IsProper) :
    (h.upkeep f now i).holding.creation? = some t ↔ h.redates f now i t = false := by
  by_cases hseen : h.view.seen? f = some i.fingerprint
  · rw [upkeep_of_seen hseen]
    simp [redates, hseen, ht]
  cases hblocked : f.create || (h.view.dropped f).live?.isSome with
  | true =>
    rw [upkeep_of_blocked hseen hblocked, creation?_of_record? record?_dropped]
    simp [redates, hblocked, ht]
  | false =>
    rw [upkeep_of_free hseen hblocked]
    cases hwrite : f.write with
    | true =>
      have hrecord : (h.created f now i).record? = h.record? := by simp only [created, hwrite, if_true]
      rw [creation?_of_record? hrecord]
      simp [redates, hwrite, ht]
    | false =>
      rw [creation?_created hwrite]
      have hproper := isProper_of_creation? ht
      cases hread : f.read with
      | false =>
        have hsame : ((h.readMetadata? f).bind (·.createdAt?)).getD now = t := by
          rw [readMetadata?, hread]
          exact congrArg (·.getD now) ht
        rw [hsame, Instant.ofRfc3339?_rfc3339 hproper]
        simp [redates, hseen, hblocked, hwrite, hread]
      | true =>
        have hnew : ((h.readMetadata? f).bind (·.createdAt?)).getD now = now := by
          rw [readMetadata?, hread]
          rfl
        rw [hnew, Instant.ofRfc3339?_rfc3339 hnow]
        by_cases hsame : now = t
        · simp [redates, hseen, hblocked, hwrite, hread, hsame]
        · simp [redates, hseen, hblocked, hwrite, hread, hsame]

end Holding

/-! ## Several synchronizers above one store -/

namespace Cluster

/-- When the index of a name was first created, if the store says so. -/
def creation? (c : Cluster) (config : Config) (name : String) : Option Instant :=
  (c.world.store.store.holding config name).creation?

/-- Whether bringing an index in step redates the index of a name. -/
def redates (config : Config) (name : String) (t : Instant) (c : Cluster) (who : Nat)
    (d : Descriptor) : Bool :=
  match IndexDefinition.ofDescriptor? d config.scope? with
  | none => false
  | some index =>
    !((c.synchronizers who).state (physicalName d.indexName config.scope?)).isTerminal &&
      index.name == name &&
        (c.world.store.store.holding config name).redates c.world.store.failures c.world.now index t

/-- No step of a run redates the index. -/
def NeverRedated (config : Config) (name : String) (t : Instant) (c : Cluster) :
    List SyncStep → Prop
  | [] => True
  | .ensure who d :: rest =>
    c.redates config name t who d = false ∧
      NeverRedated config name t (c.step config (.ensure who d)) rest
  | s :: rest => NeverRedated config name t (c.step config s) rest

variable {config : Config} {name : String} {t : Instant} {c : Cluster} {who : Nat} {d : Descriptor}

/-- Bringing an index in step leaves every time of first creation unless it redates that index. -/
theorem creation?_step_ensure_iff (ht : c.creation? config name = some t)
    (hnow : c.world.now.IsProper) :
    (c.step config (.ensure who d)).creation? config name = some t ↔
      c.redates config name t who d = false := by
  have hworld : (c.step config (.ensure who d)).world = (c.ensure config who d).2 := rfl
  unfold redates
  rw [creation?, hworld]
  cases hstate : ((c.synchronizers who).state (physicalName d.indexName config.scope?)).isTerminal with
  | true =>
    rw [ensure, ensureIndex_of_isTerminal hstate]
    cases IndexDefinition.ofDescriptor? d config.scope? with
    | none => exact iff_of_true ht rfl
    | some index => exact iff_of_true ht rfl
  | false =>
    cases hindex : IndexDefinition.ofDescriptor? d config.scope? with
    | none =>
      rw [ensure, ensureIndex_of_none hstate hindex]
      exact iff_of_true ht rfl
    | some index =>
      rw [ensure_of_some hindex hstate, (synchronise_upkeep config index c.world).2,
        MemoryStore.holding_kept]
      by_cases hname : index.name = name
      · subst hname
        simp only [if_true, Bool.not_false, BEq.rfl, Bool.true_and]
        exact Holding.creation?_upkeep_iff ht hnow
      · rw [if_neg hname]
        refine iff_of_true ht ?_
        simp [hname]

theorem creation?_step_iff {s : SyncStep} (ht : c.creation? config name = some t)
    (hnow : c.world.now.IsProper) :
    (c.step config s).creation? config name = some t ↔
      ∀ who d, s = .ensure who d → c.redates config name t who d = false := by
  cases s with
  | ensure who d => simpa using creation?_step_ensure_iff ht hnow
  | reset who | setFault kind fault? | refuseCreates refused | setClock now =>
    exact iff_of_true ht nofun

/-- Only setting the clock changes it. -/
theorem now_step {s : SyncStep} (hnow : c.world.now.IsProper)
    (hclock : ∀ now, s = .setClock now → now.IsProper) : (c.step config s).world.now.IsProper := by
  cases s with
  | ensure who d =>
    have hworld : (c.step config (.ensure who d)).world = (c.ensure config who d).2 := rfl
    rw [hworld]
    rcases c.ensure_cases config who d with hsame | ⟨index, -, -, hrun⟩
    · rwa [hsame]
    · rwa [hrun, now_synchronise]
  | setClock now => exact hclock now rfl
  | reset who | setFault kind fault? | refuseCreates refused => exact hnow

theorem neverRedated_cons {s : SyncStep} {steps : List SyncStep} :
    c.NeverRedated config name t (s :: steps) ↔
      (∀ who d, s = .ensure who d → c.redates config name t who d = false) ∧
        (c.step config s).NeverRedated config name t steps := by
  cases s <;> simp [NeverRedated]

/-- Wherever a run stands, the time of first creation is the one it started with, exactly if no step of the
run redates the index. -/
theorem creation_kept_iff {steps : List SyncStep} (ht : c.creation? config name = some t)
    (hnow : c.world.now.IsProper) (hclock : ∀ now, .setClock now ∈ steps → now.IsProper) :
    (∀ done, done <+: steps → (c.run config done).creation? config name = some t) ↔
      c.NeverRedated config name t steps := by
  -- The first step decides where the rest of the run starts, and the step lemma where the time is lost.
  induction steps generalizing c with
  | nil =>
    refine iff_of_true (fun done hdone => ?_) trivial
    rw [List.prefix_nil.1 hdone]
    exact ht
  | cons s steps ih =>
    have hnow' : (c.step config s).world.now.IsProper :=
      now_step hnow fun now hs => hclock now (hs ▸ List.mem_cons_self)
    have hclock' : ∀ now, .setClock now ∈ steps → now.IsProper := fun now hmem =>
      hclock now (List.mem_cons_of_mem _ hmem)
    rw [neverRedated_cons, ← creation?_step_iff ht hnow]
    constructor
    · intro h
      have hstep := h [s] (List.cons_prefix_cons.2 ⟨rfl, List.nil_prefix⟩)
      refine ⟨hstep, (ih hstep hnow' hclock').1 fun done hdone => ?_⟩
      exact h (s :: done) (List.cons_prefix_cons.2 ⟨rfl, hdone⟩)
    · rintro ⟨hstep, hrest⟩ done hdone
      cases done with
      | nil => exact ht
      | cons first done =>
        obtain ⟨rfl, hothers⟩ := List.cons_prefix_cons.1 hdone
        exact (ih hstep hnow' hclock').2 hrest done hothers

/-- The record of an index that was first created as 2020 began. -/
def agedNotes : MemoryStore where
  hashes := .ofList [("index:notes",
    .ofList [("fingerprint", "stale"), ("created_at", "2020-01-01T01:00:00+01:00")])]

/-- Synchronizers above that record, on the last day of 2024. -/
def agedCluster : Cluster where
  world := { store := { store := agedNotes }, now := ⟨1735603200, 0⟩ }

/-- The index is created anew twice, once without being put on record. -/
theorem creation_kept_of_failing_write :
    let steps : List SyncStep := [.setFault .writeHash (some (.backend "down")), .ensure 0 oneTag,
      .setFault .writeHash none, .setClock ⟨1735689600, 0⟩, .ensure 1 twoTags]
    agedCluster.creation? {} "notes" = some ⟨1577836800, 0⟩ ∧
    agedCluster.world.now.IsProper ∧ (∀ now, .setClock now ∈ steps → now.IsProper) ∧
    ∀ done, done <+: steps →
      (agedCluster.run {} done).creation? {} "notes" = some ⟨1577836800, 0⟩ := by
  intro steps
  have ht : agedCluster.creation? {} "notes" = some ⟨1577836800, 0⟩ := by decide +kernel
  have hnow : agedCluster.world.now.IsProper := .inl (by decide)
  have hclock : ∀ now, .setClock now ∈ steps → now.IsProper := by
    intro now hmem
    obtain rfl : now = ⟨1735689600, 0⟩ := by simpa [steps] using hmem
    exact .inl (by decide)
  refine ⟨ht, hnow, hclock, (creation_kept_iff ht hnow hclock).2 ?_⟩
  refine ⟨?_, ?_, trivial⟩
  all_goals decide +kernel

/-- The record cannot be read, and is written over as if the index were new. -/
theorem creation_lost_by_failing_read :
    agedCluster.creation? {} "notes" = some ⟨1577836800, 0⟩ ∧
    (agedCluster.run {} [.setFault .readHash (some (.backend "timed out")),
      .ensure 0 oneTag]).creation? {} "notes" = some ⟨1735603200, 0⟩ := by
  decide +kernel

end Cluster

end RecordSearch
