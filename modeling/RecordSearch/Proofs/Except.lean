import Mathlib.Data.List.Forall2

/-!
# Computations that may fail

What a computation that may fail did if it came to a result, and why it failed if it did not, one lemma
for each way of composing. Of several steps in a row the first failure counts.

## Main definitions

* `failure?` — the error of a computation that fails.
-/

namespace RecordSearch

variable {ε α β : Type}

theorem bind_eq_ok_iff {x : Except ε α} {f : α → Except ε β} {b : β} :
    x >>= f = .ok b ↔ ∃ a, x = .ok a ∧ f a = .ok b := by
  cases x <;> simp [bind, Except.bind]

theorem map_eq_ok_iff {x : Except ε α} {f : α → β} {b : β} :
    x.map f = .ok b ↔ ∃ a, x = .ok a ∧ f a = b := by
  cases x <;> simp [Except.map]

theorem map_map {γ : Type} (x : Except ε α) (f : α → β) (g : β → γ) :
    (x.map f).map g = x.map (g ∘ f) := by
  cases x <;> rfl

theorem pure_eq_ok_iff {a b : α} : (pure a : Except ε α) = .ok b ↔ a = b := by
  simp [pure, Except.pure]

/-- A check that succeeds has nothing to hand on. -/
theorem check_bind_eq_ok_iff {x : Except ε Unit} {f : Unit → Except ε β} {b : β} :
    x >>= f = .ok b ↔ x = .ok () ∧ f () = .ok b := by
  cases x <;> simp [bind, Except.bind]

/-- All checks succeed exactly if each one does. -/
theorem forM_eq_ok_iff {f : α → Except ε Unit} {xs : List α} :
    xs.forM f = .ok () ↔ ∀ x ∈ xs, f x = .ok () := by
  induction xs with
  | nil => simp [List.forM, pure_eq_ok_iff]
  | cons x xs ih => rw [List.forM, check_bind_eq_ok_iff, ih, List.forall_mem_cons]

/-- A list is worked off without failure exactly if every member is. -/
theorem mapM_eq_ok_iff {f : α → Except ε β} {xs : List α} {ys : List β} :
    xs.mapM f = .ok ys ↔ List.Forall₂ (fun x y => f x = .ok y) xs ys := by
  induction xs generalizing ys with
  | nil => cases ys <;> simp [pure_eq_ok_iff]
  | cons x xs ih =>
    simp only [List.mapM_cons, bind_eq_ok_iff, pure_eq_ok_iff, ih]
    constructor
    · rintro ⟨y, hy, ys', hys, rfl⟩
      exact .cons hy hys
    · rintro (_ | ⟨hy, hys⟩)
      exact ⟨_, hy, _, hys, rfl⟩

/-! ## Failures -/

/-- The error of a computation, if it fails. -/
def failure? : Except ε α → Option ε
  | .error e => some e
  | .ok _ => none

@[simp] theorem failure?_error (e : ε) : failure? (.error e : Except ε α) = some e := rfl

@[simp] theorem failure?_ok (a : α) : failure? (.ok a : Except ε α) = none := rfl

theorem failure?_eq_some_iff {x : Except ε α} {e : ε} : failure? x = some e ↔ x = .error e := by
  cases x <;> simp

theorem failure?_eq_none_iff {x : Except ε α} : failure? x = none ↔ ∃ a, x = .ok a := by
  cases x <;> simp

theorem failure?_map (x : Except ε α) (f : α → β) : failure? (x.map f) = failure? x := by
  cases x <;> rfl

/-- A step fails first, or what follows it fails, if it fails alike whatever the step came to. -/
theorem failure?_bind {x : Except ε α} {f : α → Except ε β} {e? : Option ε}
    (h : ∀ a, x = .ok a → failure? (f a) = e?) : failure? (x >>= f) = (failure? x).or e? := by
  cases x with
  | error e => rfl
  | ok a => exact h a rfl

theorem failure?_bind_pure (x : Except ε α) (g : α → β) :
    failure? (x >>= fun a => pure (g a)) = failure? x := by
  cases x <;> rfl

theorem failure?_mapM (f : α → Except ε β) (xs : List α) :
    failure? (xs.mapM f) = xs.findSome? fun x => failure? (f x) := by
  induction xs with
  | nil => rfl
  | cons x xs ih =>
    have hrest (y : β) : failure? (xs.mapM f >>= fun ys => pure (y :: ys)) = failure? (xs.mapM f) :=
      failure?_bind_pure _ _
    rw [List.mapM_cons, List.findSome?_cons, failure?_bind fun y _ => hrest y, ih]
    cases failure? (f x) <;> rfl

theorem failure?_forM (f : α → Except ε Unit) (xs : List α) :
    failure? (xs.forM f) = xs.findSome? fun x => failure? (f x) := by
  induction xs with
  | nil => rfl
  | cons x xs ih =>
    rw [List.forM, List.findSome?_cons, failure?_bind fun _ _ => rfl, ih]
    cases failure? (f x) <;> rfl

/-! ## Errors in other words -/

theorem map_eq_error_iff {x : Except ε α} {f : α → β} {e : ε} :
    x.map f = .error e ↔ x = .error e := by
  cases x <;> simp [Except.map]

theorem mapError_map {ε' : Type} (x : Except ε α) (f : α → β) (g : ε → ε') :
    (x.map f).mapError g = (x.mapError g).map f := by
  cases x <;> rfl

theorem mapError_bind {ε' : Type} (x : Except ε α) (f : α → Except ε β) (g : ε → ε') :
    (x >>= f).mapError g = x.mapError g >>= fun a => (f a).mapError g := by
  cases x <;> rfl

theorem mapError_mapM {ε' : Type} {f : α → Except ε β} {f' : α → Except ε' β} {g : ε → ε'}
    (h : ∀ a, f' a = (f a).mapError g) (xs : List α) : xs.mapM f' = (xs.mapM f).mapError g := by
  induction xs with
  | nil => rfl
  | cons x xs ih =>
    rw [List.mapM_cons, List.mapM_cons, mapError_bind, h, ih]
    congr 1
    funext y
    rw [mapError_bind]
    rfl

theorem mapError_forM {ε' : Type} {f : α → Except ε Unit} {f' : α → Except ε' Unit} {g : ε → ε'}
    (h : ∀ a, f' a = (f a).mapError g) (xs : List α) : xs.forM f' = (xs.forM f).mapError g := by
  induction xs with
  | nil => rfl
  | cons x xs ih => rw [List.forM, List.forM, mapError_bind, h, ih]

end RecordSearch
