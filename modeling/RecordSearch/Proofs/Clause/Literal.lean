import Mathlib.Logic.Function.Basic
import RecordSearch.Proofs.Clause.Negation

/-!
# Canonical literals

A literal in a query is canonical if no backslash is missing in it and none is there for nothing: it is made of
characters that need no backslash, and of backslashes with a reserved character behind each. Such texts are
those that are written, and those that stay the same when they are read and written again. Any other text has
a bare character somewhere: one that should have a backslash and has none, or a backslash that escapes nothing.

## Main definitions

* `IsCanonical` — what a written literal is made of.
* `HasBareReserved` — a reserved character without purpose or backslash, told by counting backslashes.

## Main results

* `isCanonical_iff_eq` — reading and writing again keeps exactly the canonical texts.
* `hasBareReserved_iff` — counting backslashes finds what is not canonical.
* `unescape_inverts_escape` — writing is a one-to-one correspondence between all texts and the canonical ones.
-/

namespace RecordSearch

/-- A row of characters that need no backslash, and of backslashes with a reserved character behind each. -/
inductive IsCanonical : List Char → Prop
  | nil : IsCanonical []
  | plain {c : Char} {cs : List Char} (hc : isReserved c = false) (hcs : IsCanonical cs) :
      IsCanonical (c :: cs)
  | escaped {c : Char} {cs : List Char} (hc : isReserved c = true) (hcs : IsCanonical cs) :
      IsCanonical ('\\' :: c :: cs)

/-- Somewhere a reserved character stands behind an even number of backslashes, and is no backslash with a
reserved character behind it either. -/
def HasBareReserved (cs : List Char) : Prop :=
  ∃ before c after, cs = before ++ c :: after ∧ isReserved c = true ∧ Even (slashesBehind before) ∧
    ¬ (c = '\\' ∧ ∃ d ∈ after.head?, isReserved d = true)

/-! ## Reading and writing -/

theorem ne_backslash_of_not_isReserved {c : Char} (h : isReserved c = false) : c ≠ '\\' := by
  rintro rfl
  rw [isReserved_backslash] at h
  contradiction

theorem unescapeChars_cons_of_ne {c : Char} (hc : c ≠ '\\') (cs : List Char) :
    unescapeChars (c :: cs) = c :: unescapeChars cs := by
  cases cs <;> simp [unescapeChars, hc]

theorem isCanonical_escapeChars (cs : List Char) : IsCanonical (escapeChars cs) := by
  induction cs with
  | nil => exact .nil
  | cons c cs ih =>
    rw [escapeChars]
    split
    · next hc => exact .escaped hc ih
    · next hc => exact .plain (Bool.not_eq_true _ ▸ hc) ih

theorem IsCanonical.escapeChars_unescapeChars {cs : List Char} (h : IsCanonical cs) :
    escapeChars (unescapeChars cs) = cs := by
  induction h with
  | nil => rfl
  | plain hc _ ih =>
    rw [unescapeChars_cons_of_ne (ne_backslash_of_not_isReserved hc), escapeChars, ih, hc]
    rfl
  | escaped hc _ ih =>
    rw [unescapeChars, escapeChars, if_pos hc, ih]

/-- Reading and writing again keeps exactly the canonical texts. -/
theorem isCanonical_iff_eq (cs : List Char) :
    IsCanonical cs ↔ escapeChars (unescapeChars cs) = cs := by
  constructor
  · exact IsCanonical.escapeChars_unescapeChars
  · intro h
    rw [← h]
    exact isCanonical_escapeChars _

/-! ## Bare characters -/

theorem isCanonical_cons_iff {c : Char} (hc : c ≠ '\\') (cs : List Char) :
    IsCanonical (c :: cs) ↔ isReserved c = false ∧ IsCanonical cs := by
  constructor
  · intro h
    cases h with
    | plain hplain hcs => exact ⟨hplain, hcs⟩
    | escaped => exact absurd rfl hc
  · rintro ⟨hplain, hcs⟩
    exact .plain hplain hcs

theorem isCanonical_pair_iff (c : Char) (cs : List Char) :
    IsCanonical ('\\' :: c :: cs) ↔ isReserved c = true ∧ IsCanonical cs := by
  constructor
  · intro h
    cases h with
    | plain hplain => exact absurd rfl (ne_backslash_of_not_isReserved hplain)
    | escaped hc hcs => exact ⟨hc, hcs⟩
  · rintro ⟨hc, hcs⟩
    exact .escaped hc hcs

theorem hasBareReserved_cons_iff {c : Char} (hc : c ≠ '\\') (cs : List Char) :
    HasBareReserved (c :: cs) ↔ isReserved c = true ∨ HasBareReserved cs := by
  have heven : Even (slashesBehind []) := by decide
  rw [HasBareReserved, exists_split_cons, HasBareReserved]
  simp [slashesBehind_cons hc, heven, hc]

theorem hasBareReserved_pair_iff (c : Char) (cs : List Char) :
    HasBareReserved ('\\' :: c :: cs) ↔ isReserved c = false ∨ HasBareReserved cs := by
  have heven : Even (slashesBehind []) := by decide
  have hodd : ¬ Even (slashesBehind ['\\']) := by decide
  rw [HasBareReserved, exists_split_cons, exists_split_cons, HasBareReserved]
  simp [even_slashesBehind_pair, heven, hodd, isReserved_backslash]

/-- Counting backslashes finds what is not canonical. -/
theorem hasBareReserved_iff (cs : List Char) : HasBareReserved cs ↔ ¬ IsCanonical cs := by
  -- Reading takes two characters at a backslash, and so does the count.
  fun_induction unescapeChars cs with
  | case1 =>
    have hnone : ¬ HasBareReserved [] := by simp [HasBareReserved]
    exact iff_of_false hnone (not_not.2 .nil)
  | case2 =>
    have hbare : HasBareReserved ['\\'] := ⟨[], '\\', [], rfl, by decide, by decide, by simp⟩
    refine iff_of_true hbare fun h => ?_
    rw [isCanonical_iff_eq] at h
    exact absurd h (by decide)
  | case3 c cs ih => rw [hasBareReserved_pair_iff, isCanonical_pair_iff, ih, not_and_or, Bool.not_eq_true]
  | case4 c cs hlone hpair ih =>
    have hc : c ≠ '\\' := by
      rintro rfl
      cases cs with
      | nil => exact hlone rfl rfl
      | cons d cs => exact hpair d cs rfl rfl
    rw [hasBareReserved_cons_iff hc, isCanonical_cons_iff hc, ih, not_and_or, Bool.not_eq_false]

/-! ## Texts -/

theorem isCanonical_escape (s : String) : IsCanonical (escape s).toList := by
  rw [toList_escape]
  exact isCanonical_escapeChars _

theorem escape_unescape_eq_iff (t : String) : escape (unescape t) = t ↔ IsCanonical t.toList := by
  rw [isCanonical_iff_eq, ← String.toList_inj, toList_escape, unescape, String.toList_ofList]

/-- The texts that are written are the canonical ones. -/
theorem exists_escape_eq_iff (t : String) : (∃ s, escape s = t) ↔ IsCanonical t.toList := by
  constructor
  · rintro ⟨s, rfl⟩
    exact isCanonical_escape s
  · intro h
    exact ⟨unescape t, (escape_unescape_eq_iff t).2 h⟩

/-- Writing is a one-to-one correspondence between all texts and the canonical ones, which reading undoes. The
texts that are written are those where every reserved character has a backslash of its own. -/
theorem unescape_inverts_escape :
    (∀ s, unescape (escape s) = s) ∧
    (∀ t, escape (unescape t) = t ↔ IsCanonical t.toList) ∧
    (∀ t, IsCanonical t.toList ↔ ∃ s, escape s = t) ∧
    Function.Injective escape ∧
    ∀ t, (∃ s, escape s = t) ↔ ¬ HasBareReserved t.toList := by
  refine ⟨unescape_escape, escape_unescape_eq_iff, fun t => (exists_escape_eq_iff t).symm, ?_, fun t => ?_⟩
  · exact Function.LeftInverse.injective unescape_escape
  · rw [exists_escape_eq_iff, hasBareReserved_iff, not_not]

end RecordSearch
