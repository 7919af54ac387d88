import RecordSearch.Proofs.Clause.Namespace
import RecordSearch.Proofs.Engine.Requests

/-!
# A namespace is a renaming

A namespace is put before the name of every index, and whatever is named after an index is named after the
longer name. So engines with a namespace do to the store what engines without one do for models that carry
the longer names themselves. The names without the namespace are only seen by those who ask: in errors, and
in the list of models that are brought in step together.

## Main definitions

* `Request.inNamespace` — a request for models of longer names.
* `Request.rename` — its outcome, with the longer names in the few places where names are seen.
* `World.Mirrors` — worlds that differ only in the names that descriptors are remembered under.
* `Fleet.Mirrors` — engines with a namespace, and engines without one, after the same requests.

## Main results

* `ensureIndex_inNamespace`, `executeCompiled_inNamespace` — work on one index is the same.
* `perform_inNamespace` — each request is answered alike, in worlds that differ in those names only.
* `Fleet.run_inNamespace` — whole runs, and runs in the empty namespace.
-/

namespace RecordSearch

/-! ## Longer names -/

/-- The configuration with a namespace, or with none. -/
def Config.inNamespace (c : Config) (ns? : Option String) : Config :=
  { c with nameSpace? := ns? }

/-- The engine with a namespace, or with none. -/
def Engine.inNamespace (e : Engine) (ns? : Option String) : Engine :=
  { e with config := e.config.inNamespace ns? }

/-- The model under a name behind a namespace. -/
def Model.inNamespace (ns : String) (m : Model) : Model where
  name := ns ++ m.name
  descriptor := m.descriptor.inNamespace ns

/-- The error with the name of the index behind a namespace. -/
def SearchError.inNamespace (ns : String) : SearchError → SearchError
  | .compile e => .compile (e.inNamespace ns)
  | e => e

namespace Request

/-- The request for models under names behind a namespace. -/
def inNamespace (ns : String) : Request → Request
  | .query m q t => .query (m.inNamespace ns) q t
  | .filtered m filter? sorting? page pageSize =>
    .filtered (m.inNamespace ns) filter? sorting? page pageSize
  | .compiled m q page pageSize => .compiled (m.inNamespace ns) q page pageSize
  | .ensure m => .ensure (m.inNamespace ns)
  | .ensureAll r => .ensureAll ⟨r.models.map (Model.inNamespace ns)⟩
  | .reset => .reset
  | .state m => .state (m.inNamespace ns)
  | .definition m => .definition (m.inNamespace ns)

/-- The outcome of the request for models of longer names: a query that is refused is told the longer name
of the index, and models brought in step together are listed under the longer names. All other answers are
the same. -/
def rename (ns : String) : Request → Except SearchError Answer → Except SearchError Answer
  | .query .., outcome => outcome.mapError (·.inNamespace ns)
  | .filtered .., outcome => outcome.mapError (·.inNamespace ns)
  | .ensureAll _, .ok (.states states) => .ok (.states (states.map fun x => (ns ++ x.1, x.2)))
  | _, outcome => outcome

end Request

/-! ## One index -/

section Names

variable (c : Config) (ns : String)

theorem physicalName_inNamespace (name : String) :
    physicalName name (c.inNamespace (some ns)).scope? =
      physicalName (ns ++ name) (c.inNamespace none).scope? := by
  by_cases h : ns = ""
  · rw [h, String.empty_append]
    rfl
  · have hscope : (c.inNamespace (some ns)).scope? = some ns := by
      simp [Config.scope?, Config.inNamespace, h]
    have hnone : (c.inNamespace none).scope? = none := rfl
    rw [hscope, hnone]
    exact (String.empty_append).symm

theorem ofDescriptor?_inNamespace (d : Descriptor) :
    IndexDefinition.ofDescriptor? d (c.inNamespace (some ns)).scope? =
      IndexDefinition.ofDescriptor? (d.inNamespace ns) (c.inNamespace none).scope? := by
  unfold IndexDefinition.ofDescriptor?
  rw [physicalName_inNamespace]
  rfl

variable {σ : Type} [Storage σ]

/-- Bringing an index in step is the same. -/
theorem ensureIndex_inNamespace (d : Descriptor) :
    (ensureIndex (c.inNamespace (some ns)) d : SyncM σ IndexState) =
      ensureIndex (c.inNamespace none) (d.inNamespace ns) := by
  unfold ensureIndex
  rw [physicalName_inNamespace, ofDescriptor?_inNamespace]
  rfl

/-- So is a compiled query. -/
theorem executeCompiled_inNamespace (d : Descriptor) (q : CompiledQuery) (page pageSize : UInt64) :
    (executeCompiled d q page pageSize (c.inNamespace (some ns)) : QueryM σ Page) =
      executeCompiled (d.inNamespace ns) q page pageSize (c.inNamespace none) := by
  have hsearch (index start : String) :
      (runSearch (c.inNamespace (some ns)) index start q page pageSize :
        StateM (World σ) (Except SearchError Page)) =
      runSearch (c.inNamespace none) index start q page pageSize := by
    funext w
    rw [runSearch_apply, runSearch_apply]
    rfl
  unfold executeCompiled
  simp only [physicalName_inNamespace, ensureIndex_inNamespace, hsearch]
  rfl

end Names

/-! ## Descriptors remembered -/

/-- The world with other descriptors remembered. -/
def World.withDescriptors {σ : Type} (w : World σ) (descriptors : Table Descriptor) : World σ :=
  { w with descriptors := descriptors }

/-- Worlds that differ only in the names that descriptors are remembered under: what is remembered under a
name in one is remembered under the longer name in the other. -/
def World.Mirrors {σ : Type} (ns : String) (w w' : World σ) : Prop :=
  ∃ descriptors, w' = w.withDescriptors descriptors ∧
    ∀ name, descriptors.get? (ns ++ name) = (w.descriptors.get? name).map (·.inNamespace ns)

namespace World.Mirrors

variable {σ α : Type} {ns : String} {w w' : World σ}

/-- Local work keeps the mirror. -/
theorem of_isLocal {x : Synchronizer → World σ → (α × Synchronizer) × World σ} (hx : IsLocal x)
    (h : w.Mirrors ns w') (s : Synchronizer) :
    (x s w').1 = (x s w).1 ∧ (x s w).2.Mirrors ns (x s w').2 := by
  obtain ⟨descriptors, rfl, hdescriptors⟩ := h
  obtain ⟨outcome, store, events, hwork⟩ := hx s w.store w.now
  have hnamed : x s w = _ := hwork w.descriptors w.events
  have hplain : x s (w.withDescriptors descriptors) = _ := hwork descriptors w.events
  rw [hnamed, hplain]
  exact ⟨rfl, descriptors, rfl, hdescriptors⟩

/-- So does noting an event. -/
theorem note (h : w.Mirrors ns w') (e : Event) :
    World.Mirrors ns { w with events := w.events ++ [e] } { w' with events := w'.events ++ [e] } := by
  obtain ⟨descriptors, rfl, hdescriptors⟩ := h
  exact ⟨descriptors, rfl, hdescriptors⟩

/-- So does describing a model, under its name and under the longer one. -/
theorem describe (h : w.Mirrors ns w') (m : Model) :
    (RecordSearch.describe (m.inNamespace ns) w').1 =
        (RecordSearch.describe m w).1.inNamespace ns ∧
      (RecordSearch.describe m w).2.Mirrors ns (RecordSearch.describe (m.inNamespace ns) w').2 := by
  obtain ⟨descriptors, rfl, hdescriptors⟩ := h
  have hname := hdescriptors m.name
  unfold RecordSearch.describe
  cases hknown : w.descriptors.get? m.name with
  | some d =>
    have hother : (w.withDescriptors descriptors).descriptors.get? (m.inNamespace ns).name =
        some (d.inNamespace ns) := by
      rw [hknown] at hname
      exact hname
    rw [hother]
    exact ⟨rfl, descriptors, rfl, hdescriptors⟩
  | none =>
    have hother : (w.withDescriptors descriptors).descriptors.get? (m.inNamespace ns).name =
        none := by
      rw [hknown] at hname
      exact hname
    rw [hother]
    refine ⟨rfl, _, rfl, fun name => ?_⟩
    have hiff : ns ++ m.name = ns ++ name ↔ m.name = name := String.append_right_inj ns
    rw [Model.inNamespace, Table.get?_insert, Table.get?_insert]
    dsimp only [World.withDescriptors]
    rw [hdescriptors name]
    simp only [hiff]
    split <;> rfl

end World.Mirrors

/-! ## One request -/

section Requests

variable {σ : Type} [Storage σ] {c : Config} {ns : String} {s : Synchronizer} {w w' : World σ}

/-- The lookup in the model of the longer name. -/
def Lookup.inNamespace (ns : String) (l : Lookup) : Lookup :=
  { l with model := l.model.inNamespace ns }

theorem lookup?_inNamespace (ns : String) (r : Request) (defaultSize : UInt64) :
    (r.inNamespace ns).lookup? defaultSize =
      (r.lookup? defaultSize).map (Lookup.inNamespace ns) := by
  rcases r with ⟨m, q, _ | _ | _ | _ | _ | _ | _⟩ | _ | _ | _ | _ | _ | _ | _ <;> rfl

theorem view_inNamespace (ns : String) (r : Request) : (r.inNamespace ns).view = r.view := by
  cases r <;> rfl

/-- What is looked up does not depend on the index's name, but for what a refusal says. -/
theorem compile_of_lookup? {r : Request} {defaultSize : UInt64} {l : Lookup}
    (h : r.lookup? defaultSize = some l) (ns : String) (d : Descriptor) :
    l.compile (d.inNamespace ns) = (l.compile d).mapError (·.inNamespace ns) := by
  cases r with
  | query m q t =>
    obtain rfl := Option.some.inj h
    cases t <;> exact Query.compile_inNamespace ns d _
  | filtered m filter? sorting? page pageSize =>
    obtain rfl := Option.some.inj h
    exact Query.compile_inNamespace ns d _
  | compiled m q page pageSize =>
    obtain rfl := Option.some.inj h
    rfl
  | ensure m | ensureAll r | reset | state m | definition m => contradiction

theorem mapError_report {α : Type} (policy : FailurePolicy) (index : String) (fallback : α)
    (found : Except StorageError α) (ns : String) :
    (policy.report index fallback found).mapError (·.inNamespace ns) =
      policy.report index fallback found := by
  cases found with
  | ok page => rfl
  | error e => cases policy <;> rfl

theorem mapError_executeCompiled (d : Descriptor) (q : CompiledQuery) (page pageSize : UInt64)
    (config : Config) (ns : String) (s : Synchronizer) (w : World σ) :
    (executeCompiled d q page pageSize config s w).1.1.mapError (·.inNamespace ns) =
      (executeCompiled d q page pageSize config s w).1.1 := by
  rw [executeCompiled_apply]
  split
  · rfl
  · rw [runSearch_apply]
    exact mapError_report _ _ _ _ _

/-- A lookup finds the same page, or is refused with the longer name. -/
theorem find_inNamespace {l : Lookup}
    (hcompile : ∀ d, l.compile (d.inNamespace ns) = (l.compile d).mapError (·.inNamespace ns))
    (h : w.Mirrors ns w') (s : Synchronizer) :
    let named := l.find (c.inNamespace (some ns)) s w
    let plain := (l.inNamespace ns).find (c.inNamespace none) s w'
    plain.1 = (named.1.1.mapError (·.inNamespace ns), named.1.2) ∧ named.2.Mirrors ns plain.2 := by
  intro named plain
  obtain ⟨hdescriptor, hdescribed⟩ := h.describe l.model
  have hcompiled := hcompile (describe l.model w).1
  rw [← hdescriptor] at hcompiled
  cases hresult : l.compile (describe l.model w).1 with
  | error e =>
    rw [hresult] at hcompiled
    have hnamed : named = _ := Lookup.find_of_error hresult
    have hplain : plain = _ := Lookup.find_of_error hcompiled
    rw [hnamed, hplain]
    exact ⟨rfl, hdescribed.note .predicateRejected⟩
  | ok compiled =>
    rw [hresult] at hcompiled
    have hnamed : named = _ := Lookup.find_of_ok hresult
    have hplain : plain = executeCompiled (describe (l.model.inNamespace ns) w').1 compiled l.page
        l.pageSize (c.inNamespace none) s (describe (l.model.inNamespace ns) w').2 :=
      Lookup.find_of_ok hcompiled
    rw [hnamed, hplain, mapError_executeCompiled, executeCompiled_inNamespace, hdescriptor]
    exact hdescribed.of_isLocal (isLocal_executeCompiled _ _ _ _ _) s

omit [Storage σ] in
/-- The name of a model's index is the same in the end. -/
theorem name_inNamespace (c : Config) (h : w.Mirrors ns w') (m : Model) :
    physicalName (describe (m.inNamespace ns) w').1.indexName (c.inNamespace none).scope? =
        physicalName (describe m w).1.indexName (c.inNamespace (some ns)).scope? ∧
      (describe m w).2.Mirrors ns (describe (m.inNamespace ns) w').2 := by
  obtain ⟨hdescriptor, hdescribed⟩ := h.describe m
  rw [hdescriptor, physicalName_inNamespace]
  exact ⟨rfl, hdescribed⟩

/-- So it is with bringing a model's index in step, -/
theorem ensureModel_inNamespace (c : Config) (h : w.Mirrors ns w') (m : Model) (s : Synchronizer) :
    let named := ensureModel m (c.inNamespace (some ns)) s w
    let plain := ensureModel (m.inNamespace ns) (c.inNamespace none) s w'
    plain.1 = named.1 ∧ named.2.Mirrors ns plain.2 := by
  intro named plain
  obtain ⟨hdescriptor, hdescribed⟩ := h.describe m
  have hnamed : named = ensureIndex (c.inNamespace (some ns)) (describe m w).1 s (describe m w).2 :=
    rfl
  have hplain : plain = ensureIndex (c.inNamespace none) (describe (m.inNamespace ns) w').1 s
      (describe (m.inNamespace ns) w').2 := rfl
  rw [hnamed, hplain, ensureIndex_inNamespace, hdescriptor]
  exact hdescribed.of_isLocal (isLocal_ensureIndex _ _) s

/-- or those of several models. -/
theorem initializeIndexes_inNamespace (c : Config) (h : w.Mirrors ns w') (models : List Model)
    (s : Synchronizer) :
    let named := initializeIndexes ⟨models⟩ (c.inNamespace (some ns)) s w
    let plain :=
      initializeIndexes ⟨models.map (Model.inNamespace ns)⟩ (c.inNamespace none) s w'
    plain.1 = (named.1.1.map fun x => (ns ++ x.1, x.2), named.1.2) ∧
      named.2.Mirrors ns plain.2 := by
  induction models generalizing s w w' with
  | nil => exact ⟨rfl, h⟩
  | cons m models ih =>
    obtain ⟨hfirst, hmirror⟩ := ensureModel_inNamespace c h m s
    obtain ⟨hrest, hmirror'⟩ := ih hmirror (ensureModel m (c.inNamespace (some ns)) s w).1.2
    intro named plain
    have hnamed : named = _ := initializeIndexes_cons m models (c.inNamespace (some ns)) s w
    have hplain : plain = _ := initializeIndexes_cons (m.inNamespace ns)
      (models.map (Model.inNamespace ns)) (c.inNamespace none) s w'
    rw [hnamed, hplain, hfirst]
    refine ⟨?_, hmirror'⟩
    rw [hrest]
    rfl

/-- Each request is answered alike, in worlds that differ only in the names that descriptors are
remembered under. -/
theorem perform_inNamespace (h : w.Mirrors ns w') (r : Request) (s : Synchronizer) :
    let named := r.perform (c.inNamespace (some ns)) s w
    let plain := (r.inNamespace ns).perform (c.inNamespace none) s w'
    plain.1 = (r.rename ns named.1.1, named.1.2) ∧ named.2.Mirrors ns plain.2 := by
  intro named plain
  cases hlookup : r.lookup? c.pageSize with
  | some l =>
    have hlonger : (r.inNamespace ns).lookup? (c.inNamespace none).pageSize =
        some (l.inNamespace ns) := by
      rw [lookup?_inNamespace]
      exact congrArg _ hlookup
    have hboth : r.lookup? (c.inNamespace (some ns)).pageSize = some l := hlookup
    obtain ⟨houtcome, hmirror⟩ := find_inNamespace (compile_of_lookup? hlookup ns) h s
    have hnamed : named = _ := r.perform_of_lookup hboth s w
    have hplain : plain = _ := (r.inNamespace ns).perform_of_lookup hlonger s w'
    rw [hnamed, hplain, houtcome, view_inNamespace]
    refine ⟨?_, hmirror⟩
    cases r with
    | query m q t | filtered m filter? sorting? page pageSize =>
      exact Prod.ext (mapError_map _ _ _).symm rfl
    | compiled m q page pageSize =>
      obtain rfl := Option.some.inj hlookup
      rw [Lookup.find_of_ok rfl, mapError_executeCompiled]
      rfl
    | ensure m | ensureAll r | reset | state m | definition m => contradiction
  | none =>
    cases r with
    | query m q t | filtered m filter? sorting? page pageSize | compiled m q page pageSize =>
      contradiction
    | ensure m =>
      obtain ⟨houtcome, hmirror⟩ := ensureModel_inNamespace c h m s
      refine ⟨?_, hmirror⟩
      exact congrArg (fun x => ((.ok (.state x.1) : Except SearchError Answer), x.2)) houtcome
    | ensureAll r =>
      obtain ⟨houtcome, hmirror⟩ := initializeIndexes_inNamespace c h r.models s
      refine ⟨?_, hmirror⟩
      exact congrArg (fun x => ((.ok (.states x.1) : Except SearchError Answer), x.2)) houtcome
    | reset => exact ⟨rfl, h⟩
    | state m =>
      obtain ⟨hname, hmirror⟩ := name_inNamespace c h m
      refine ⟨?_, hmirror⟩
      exact congrArg (fun name => ((.ok (.state (s.state name)) : Except SearchError Answer), s)) hname
    | definition m =>
      obtain ⟨hname, hmirror⟩ := name_inNamespace c h m
      refine ⟨?_, hmirror⟩
      exact congrArg
        (fun name => ((.ok (.definition (s.definition? name)) : Except SearchError Answer), s)) hname

end Requests

/-! ## The empty namespace -/

theorem Descriptor.inNamespace_empty (d : Descriptor) : d.inNamespace "" = d := by
  rw [inNamespace, String.empty_append]

theorem Model.inNamespace_empty (m : Model) : m.inNamespace "" = m := by
  rw [inNamespace, String.empty_append, Descriptor.inNamespace_empty]

theorem SearchError.inNamespace_empty (e : SearchError) : e.inNamespace "" = e := by
  rcases e with (_ | _ | _ | _ | _ | _ | _) | _
  all_goals simp [inNamespace, CompileError.inNamespace]

namespace Request

theorem inNamespace_empty (r : Request) : r.inNamespace "" = r := by
  have hmodels (models : List Model) : models.map (Model.inNamespace "") = models :=
    List.map_id'' Model.inNamespace_empty models
  cases r with
  | ensureAll r => rw [inNamespace, hmodels]
  | reset => rfl
  | _ => rw [inNamespace, Model.inNamespace_empty]

theorem rename_empty (r : Request) (outcome : Except SearchError Answer) :
    r.rename "" outcome = outcome := by
  have herror : outcome.mapError (·.inNamespace "") = outcome := by
    cases outcome <;> simp [Except.mapError, SearchError.inNamespace_empty]
  cases r with
  | query m q t | filtered m filter? sorting? page pageSize => exact herror
  | ensureAll r =>
    unfold rename
    split <;> simp_all
  | _ => rfl

end Request

/-! ## Runs -/

/-- The exchange, for models under names behind a namespace. -/
def Exchange.inNamespace (ns : String) (x : Exchange) : Exchange where
  who := x.who
  request := x.request.inNamespace ns
  answer := x.request.rename ns x.answer

/-- The step, for models under names behind a namespace. -/
def FleetStep.inNamespace {σ : Type} (ns : String) : FleetStep σ → FleetStep σ
  | .ask who r => .ask who (r.inNamespace ns)
  | s => s

/-- Engines with a namespace, and the same ones without it, after requests for models of longer names. -/
structure Fleet.Mirrors {σ : Type} (ns : String) (F F' : Fleet σ) : Prop where
  named : ∀ who, (F.engines who).inNamespace (some ns) = F.engines who
  plain : ∀ who, F'.engines who = (F.engines who).inNamespace none
  world : F.world.Mirrors ns F'.world
  exchanges : F'.exchanges = F.exchanges.map (Exchange.inNamespace ns)

namespace Fleet

variable {σ : Type} {ns : String} {F F' : Fleet σ}

theorem mirrors_start (engines : Nat → Engine) (store : σ) (now : Instant) (ns : String) :
    (start (fun who => (engines who).inNamespace (some ns)) store now).Mirrors ns
      (start (fun who => (engines who).inNamespace none) store now) where
  named _ := rfl
  plain _ := rfl
  world := ⟨.empty, rfl, fun _ => rfl⟩
  exchanges := rfl

variable [Storage σ]

theorem Mirrors.ask (h : F.Mirrors ns F') (who : Nat) (r : Request) :
    (F.ask who r).Mirrors ns (F'.ask who (r.inNamespace ns)) := by
  obtain ⟨houtcome, hworld⟩ :=
    perform_inNamespace (c := (F.engines who).config) h.world r (F.engines who).synchronizer
  have hconfig : (F.engines who).config.inNamespace (some ns) = (F.engines who).config :=
    congrArg (·.config) (h.named who)
  rw [hconfig] at houtcome hworld
  rw [ask_eq, ask_eq, h.plain who]
  refine ⟨fun n => ?_, fun n => ?_, hworld, ?_⟩
  · dsimp only
    by_cases hn : n = who
    · rw [hn, Function.update_self]
      exact congrArg (Engine.mk · _) hconfig
    · rw [Function.update_of_ne hn]
      exact h.named n
  · -- The synchronizers come out the same.
    have hsynchronizer := congrArg Prod.snd houtcome
    dsimp only at hsynchronizer ⊢
    by_cases hn : n = who
    · rw [hn, Function.update_self, Function.update_self]
      exact congrArg (Engine.mk _) hsynchronizer
    · rw [Function.update_of_ne hn, Function.update_of_ne hn]
      exact h.plain n
  · have hanswer := congrArg Prod.fst houtcome
    dsimp only at hanswer ⊢
    rw [h.exchanges, List.map_append]
    exact congrArg (fun answer => _ ++ [Exchange.mk who (r.inNamespace ns) answer]) hanswer

theorem Mirrors.step (h : F.Mirrors ns F') (s : FleetStep σ) :
    (F.step s).Mirrors ns (F'.step (s.inNamespace ns)) := by
  cases s with
  | ask who r => exact h.ask who r
  | others act | setClock now =>
    obtain ⟨hnamed, hplain, ⟨descriptors, hworld, hdescriptors⟩, hexchanges⟩ := h
    obtain ⟨engines, world, exchanges⟩ := F'
    obtain rfl : world = _ := hworld
    exact ⟨hnamed, hplain, ⟨descriptors, rfl, hdescriptors⟩, hexchanges⟩
  | forget =>
    obtain ⟨hnamed, hplain, ⟨descriptors, hworld, -⟩, hexchanges⟩ := h
    obtain ⟨engines, world, exchanges⟩ := F'
    obtain rfl : world = _ := hworld
    exact ⟨hnamed, hplain, ⟨.empty, rfl, fun _ => rfl⟩, hexchanges⟩

theorem Mirrors.run (h : F.Mirrors ns F') (steps : List (FleetStep σ)) :
    (F.run steps).Mirrors ns (F'.run (steps.map (FleetStep.inNamespace ns))) := by
  induction steps generalizing F F' with
  | nil => exact h
  | cons s steps ih => exact ih (h.step s)

/-- Engines in a namespace put to the store, note, remember and answer what engines without one do for
models that carry the longer names themselves; and the empty namespace is none. -/
theorem run_inNamespace (engines : Nat → Engine) (store : σ) (now : Instant) (ns : String)
    (steps : List (FleetStep σ)) :
    let run (ns? : Option String) :=
      (start (fun who => (engines who).inNamespace ns?) store now).run
    (let named := run (some ns) steps
      let plain := run none (steps.map (FleetStep.inNamespace ns))
      plain.world.store = named.world.store ∧ plain.world.events = named.world.events ∧
        (∀ who, (plain.engines who).synchronizer = (named.engines who).synchronizer) ∧
        plain.exchanges = named.exchanges.map (Exchange.inNamespace ns)) ∧
    (run (some "") steps).world = (run none steps).world ∧
      (∀ who, ((run (some "") steps).engines who).synchronizer =
        ((run none steps).engines who).synchronizer) ∧
      (run (some "") steps).exchanges = (run none steps).exchanges := by
  intro run
  refine ⟨?_, ?_⟩
  · intro named plain
    have h : named.Mirrors ns plain := (mirrors_start engines store now ns).run steps
    obtain ⟨descriptors, hworld, -⟩ := h.world
    rw [hworld]
    exact ⟨rfl, rfl, fun who => by rw [h.plain who]; rfl, h.exchanges⟩
  · have hsteps : steps.map (FleetStep.inNamespace "") = steps := by
      refine List.map_id'' (fun s => ?_) steps
      cases s with
      | ask who r => rw [FleetStep.inNamespace, r.inNamespace_empty]
      | others act | setClock now | forget => rfl
    have h : (run (some "") steps).Mirrors "" (run none steps) := by
      have hmirrors := (mirrors_start engines store now "").run steps
      rw [hsteps] at hmirrors
      exact hmirrors
    obtain ⟨descriptors, hworld, hdescriptors⟩ := h.world
    refine ⟨?_, fun who => by rw [h.plain who]; rfl, ?_⟩
    · -- What is remembered under a name is remembered under the same name.
      have hsame : descriptors = (run (some "") steps).world.descriptors := by
        apply Table.ext_get?
        intro name
        have hname := hdescriptors name
        rw [String.empty_append] at hname
        rw [hname]
        cases (run (some "") steps).world.descriptors.get? name with
        | none => rfl
        | some d => exact congrArg some d.inNamespace_empty
      rw [hworld, hsame]
      rfl
    · rw [h.exchanges]
      refine (List.map_id'' (fun x => ?_) _).symm
      rw [Exchange.inNamespace, x.request.inNamespace_empty, x.request.rename_empty]

end Fleet

end RecordSearch
