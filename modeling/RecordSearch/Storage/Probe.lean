import RecordSearch.Storage.Command

/-!
# Probed stores

A probe stands in front of a store. It records every command, fails those of a kind for which a fault is
set, and answers searches from a script while the script lasts.

## Main definitions

* `Probe` — a store with its record, faults and script, and its `Storage` instance.
-/

namespace RecordSearch

/-- A store behind a probe. -/
structure Probe (σ : Type) where
  store : σ
  /-- Every command so far, oldest first. -/
  log : List Command := []
  /-- The failure that each kind of command meets. -/
  faults : List (Command.Kind × StorageError) := []
  /-- The replies that searches are answered with before the store is asked. -/
  script : List Reply := []

namespace Probe

variable {σ : Type}

/-- The failure set for a kind of command. -/
def fault? (p : Probe σ) (kind : Command.Kind) : Option StorageError :=
  p.faults.lookup kind

/-- The probe with the fault of a kind set or cleared. -/
def setFault (p : Probe σ) (kind : Command.Kind) (e? : Option StorageError) : Probe σ :=
  let others := p.faults.filter fun f => f.1 != kind
  { p with faults := match e? with
      | some e => (kind, e) :: others
      | none => others }

/-- Ask the store itself. -/
def pass [Storage σ] (c : Command) : StateM (Probe σ) (Outcome c) := fun p =>
  let (outcome, store) := Storage.respond c p.store
  (outcome, { p with store := store })

/-- Answer a search from the script, or else ask the store. -/
def answer [Storage σ] : (c : Command) → StateM (Probe σ) (Outcome c)
  | .search arguments => fun p =>
    match p.script with
    | reply :: rest => (.ok reply, { p with script := rest })
    | [] => pass (.search arguments) p
  | c => pass c

instance [Storage σ] : Storage (Probe σ) where
  respond c := fun p =>
    let logged := { p with log := p.log ++ [c] }
    match logged.fault? c.kind with
    | some e => (.error e, logged)
    | none => answer c logged

end Probe

end RecordSearch
