import Mathlib.Data.Nat.Digits.Defs
import RecordSearch.Calendar.Instant
import RecordSearch.Proofs.Calendar.Date
import RecordSearch.Proofs.Numeric.ExactDecimal

/-!
# Instants are read back

The text of an instant is a row of numbers of fixed width with marks between them, so it is read back from
left to right. Only a year of more or fewer than four digits is not: its text starts with a sign, where a
reader wants a digit.

## Main definitions

* `Instant.IsProper` — no more nanoseconds than a second has, or a leap second.
* `Instant.date`, `Instant.HasPlainYear` — the date of an instant, and whether its year has four digits.

## Main results

* `Instant.ofRfc3339?_rfc3339` — an instant is read back exactly if its year has four digits.
* `Instant.isProper_of_ofRfc3339?` — what is read is proper.
-/

namespace RecordSearch

/-! ## Numbers of fixed width -/

section Padded

variable (width n : ℕ)

theorem toList_padded :
    (padded width n).toList =
      List.replicate (width - (Nat.toDigits 10 n).length) '0' ++ Nat.toDigits 10 n :=
  String.toList_ofList

theorem isDigit_of_mem_padded : ∀ c ∈ (padded width n).toList, c.isDigit = true := by
  rw [toList_padded]
  exact List.forall_mem_append.2 ⟨isDigit_of_mem_zeros, fun c hc =>
    Nat.isDigit_of_mem_toDigits (by decide) (by decide) hc⟩

theorem ofDigits_padded : ofDigits (padded width n).toList = n := by
  rw [toList_padded, ofDigits_zeros_append, ofDigits_toDigits]

variable {width n} in
theorem length_padded (hwidth : 0 < width) (h : n < 10 ^ width) :
    (padded width n).toList.length = width := by
  have hlength : (Nat.toDigits 10 n).length ≤ width := Nat.toDigits_length 10 n width hwidth h
  rw [toList_padded, List.length_append, List.length_replicate]
  omega

end Padded

namespace Instant

theorem takeNumber?_padded (width n : ℕ) (hwidth : 0 < width) (h : n < 10 ^ width)
    (rest : List Char) :
    takeNumber? width ((padded width n).toList ++ rest) = some (n, rest) := by
  have hlength := length_padded hwidth h
  have htake : ((padded width n).toList ++ rest).take width = (padded width n).toList :=
    List.take_left' hlength
  have hdrop : ((padded width n).toList ++ rest).drop width = rest := List.drop_left' hlength
  rw [takeNumber?, htake, hdrop, ofDigits_padded]
  exact if_pos ⟨hlength, List.all_eq_true.2 (isDigit_of_mem_padded width n)⟩

theorem takeOneOf?_cons {allowed : List Char} {c : Char} (h : allowed.contains c = true)
    (rest : List Char) : takeOneOf? allowed (c :: rest) = some rest :=
  if_pos h

/-- Digits behind a point are read as nanoseconds, up to the sign of the offset. -/
theorem takeFraction?_point {digits : List Char} (hdigits : ∀ c ∈ digits, c.isDigit = true)
    (hne : digits ≠ []) (hlength : digits.length ≤ 9) (rest : List Char) :
    takeFraction? ('.' :: (digits ++ '+' :: rest)) =
      some (ofDigits digits * 10 ^ (9 - digits.length), '+' :: rest) := by
  have htake : (digits ++ '+' :: rest).takeWhile Char.isDigit = digits := by
    rw [List.takeWhile_append_of_pos hdigits, List.takeWhile_cons_of_neg (by decide), List.append_nil]
  have hdrop : (digits ++ '+' :: rest).dropWhile Char.isDigit = '+' :: rest := by
    rw [List.dropWhile_append_of_pos hdigits, List.dropWhile_cons_of_neg (by decide)]
  have hnine : (digits ++ List.replicate 9 '0').take 9 =
      digits ++ List.replicate (9 - digits.length) '0' := by
    rw [List.take_append, List.take_of_length_le hlength, List.take_replicate]
    congr 2
    omega
  rw [takeFraction?, htake, hdrop, hnine, ofDigits_append_zeros]
  simp [hne]

theorem takeFraction?_padded {width n : ℕ} (hwidth : 0 < width ∧ width ≤ 9) (h : n < 10 ^ width)
    (rest : List Char) :
    takeFraction? (("." ++ padded width n).toList ++ '+' :: rest) =
      some (n * 10 ^ (9 - width), '+' :: rest) := by
  have hlength := length_padded hwidth.1 h
  have hpoint := takeFraction?_point (isDigit_of_mem_padded width n)
    (List.ne_nil_of_length_pos (by omega)) (by omega) rest
  rw [ofDigits_padded, hlength] at hpoint
  have hmark : ".".toList = ['.'] := rfl
  rw [String.toList_append, hmark, List.append_assoc, List.singleton_append]
  exact hpoint

/-- A fraction of a second is read back. -/
theorem takeFraction?_fractionText {nanos : ℕ} (h : nanos < nanosPerSecond) (rest : List Char) :
    takeFraction? ((fractionText nanos).toList ++ '+' :: rest) = some (nanos, '+' :: rest) := by
  have hlt : nanos < 10 ^ 9 := h
  unfold fractionText
  split
  · next h0 =>
    rw [h0]
    rfl
  split
  · next h6 =>
    have hwhole : nanos / 1000000 * 10 ^ (9 - 3) = nanos :=
      Nat.div_mul_cancel (Nat.dvd_of_mod_eq_zero h6)
    rw [takeFraction?_padded (by decide) (by omega), hwhole]
  split
  · next h3 =>
    have hwhole : nanos / 1000 * 10 ^ (9 - 6) = nanos :=
      Nat.div_mul_cancel (Nat.dvd_of_mod_eq_zero h3)
    rw [takeFraction?_padded (by decide) (by omega), hwhole]
  · rw [takeFraction?_padded (by decide) hlt, Nat.sub_self, pow_zero, mul_one]

/-! ## Instants that are written -/

/-- What stands in the text of an instant behind its year. -/
def textAfterYear (month day hour minute second nanos : ℕ) : List Char :=
  '-' :: ((padded 2 month).toList ++ '-' :: ((padded 2 day).toList ++ 'T' ::
    ((padded 2 hour).toList ++ ':' :: ((padded 2 minute).toList ++ ':' ::
      ((padded 2 second).toList ++
        ((fractionText nanos).toList ++ ['+', '0', '0', ':', '0', '0']))))))

/-- Mark by mark a text is read as it was written, and then has to make sense. -/
theorem ofRfc3339?_of_toList {text : String} {date : Date} {hour minute second nanos : ℕ}
    (htext : text.toList = (padded 4 date.year.toNat).toList ++
      textAfterYear date.month date.day hour minute second nanos)
    (hyear : 0 ≤ date.year ∧ date.year < 10 ^ 4) (hdate : date.isValid = true)
    (hhour : hour < 24) (hminute : minute < 60) (hsecond : second ≤ 60)
    (hnanos : nanos < nanosPerSecond) :
    ofRfc3339? text =
      some ⟨date.toDays * 86400 + hour * 3600 + minute * 60 + min second 59,
        if second = 60 then nanos + nanosPerSecond else nanos⟩ := by
  obtain ⟨-, hmonth, -, hday⟩ := Date.isValid_iff.1 hdate
  have hlength := Date.daysInMonth_le date.year date.month
  have hsame : Date.mk date.year.toNat date.month date.day = date := by
    rw [Int.toNat_of_nonneg hyear.1]
  have hexists : date.isValid = true ∧ hour < 24 ∧ minute < 60 ∧ second ≤ 60 :=
    ⟨hdate, hhour, hminute, hsecond⟩
  unfold ofRfc3339?
  rw [htext]
  refine Option.bind_eq_some_iff.2 ⟨_, takeNumber?_padded 4 _ (by decide) (by omega) _, ?_⟩
  refine Option.bind_eq_some_iff.2 ⟨_, takeOneOf?_cons (by decide) _, ?_⟩
  refine Option.bind_eq_some_iff.2 ⟨_, takeNumber?_padded 2 _ (by decide) (by omega) _, ?_⟩
  refine Option.bind_eq_some_iff.2 ⟨_, takeOneOf?_cons (by decide) _, ?_⟩
  refine Option.bind_eq_some_iff.2 ⟨_, takeNumber?_padded 2 _ (by decide) (by omega) _, ?_⟩
  refine Option.bind_eq_some_iff.2 ⟨_, takeOneOf?_cons (by decide) _, ?_⟩
  refine Option.bind_eq_some_iff.2 ⟨_, takeNumber?_padded 2 _ (by decide) (by omega) _, ?_⟩
  refine Option.bind_eq_some_iff.2 ⟨_, takeOneOf?_cons (by decide) _, ?_⟩
  refine Option.bind_eq_some_iff.2 ⟨_, takeNumber?_padded 2 _ (by decide) (by omega) _, ?_⟩
  refine Option.bind_eq_some_iff.2 ⟨_, takeOneOf?_cons (by decide) _, ?_⟩
  refine Option.bind_eq_some_iff.2 ⟨_, takeNumber?_padded 2 _ (by decide) (by omega) _, ?_⟩
  refine Option.bind_eq_some_iff.2 ⟨_, takeFraction?_fractionText hnanos _, ?_⟩
  refine Option.bind_eq_some_iff.2 ⟨0, rfl, ?_⟩
  dsimp only
  rw [hsame, guard, if_pos hexists, Int.sub_zero]
  rfl

/-- No more nanoseconds than a second has, or those of a leap second, which ends a minute. -/
def IsProper (t : Instant) : Prop :=
  t.nanos < nanosPerSecond ∨ t.nanos < 2 * nanosPerSecond ∧ t.seconds % 60 = 59

/-- The date of an instant, by universal time. -/
def date (t : Instant) : Date :=
  Date.ofDays (t.seconds / 86400)

/-- The year is written in four digits, without a sign. -/
def HasPlainYear (t : Instant) : Prop :=
  0 ≤ t.date.year ∧ t.date.year ≤ 9999

instance (t : Instant) : Decidable t.HasPlainYear :=
  inferInstanceAs (Decidable (_ ∧ _))

theorem yearText_of_hasPlainYear {t : Instant} (h : t.HasPlainYear) :
    yearText t.date.year = padded 4 t.date.year.toNat :=
  if_pos h

theorem yearText_of_not_hasPlainYear {t : Instant} (h : ¬ t.HasPlainYear) :
    yearText t.date.year =
      (if t.date.year < 0 then "-" else "+") ++ padded 4 t.date.year.natAbs :=
  if_neg h

theorem toList_rfc3339 (t : Instant) :
    let second := (t.seconds % 86400).toNat
    t.rfc3339.toList = (yearText t.date.year).toList ++ textAfterYear t.date.month t.date.day
      (second / 3600) (second / 60 % 60) (second % 60 + t.nanos / nanosPerSecond)
      (t.nanos % nanosPerSecond) := by
  simp [rfc3339, dateTimeText, textAfterYear, date]

/-- The second of the day, and of the nanoseconds those of a leap second apart. -/
theorem IsProper.exists_second {t : Instant} (ht : t.IsProper) : ∃ second : ℕ,
    t.seconds % 86400 = second ∧ second < 86400 ∧
      (t.nanos / nanosPerSecond = 0 ∧ t.nanos % nanosPerSecond = t.nanos ∨
        t.nanos / nanosPerSecond = 1 ∧ t.nanos % nanosPerSecond + nanosPerSecond = t.nanos ∧
          second % 60 = 59) := by
  obtain ⟨second, hsecond⟩ := Int.eq_ofNat_of_zero_le (Int.emod_nonneg t.seconds (b := 86400) (by decide))
  refine ⟨second, hsecond, by omega, ?_⟩
  unfold IsProper nanosPerSecond at *
  omega

theorem ofRfc3339?_of_hasPlainYear {t : Instant} (ht : t.IsProper) (h : t.HasPlainYear) :
    ofRfc3339? t.rfc3339 = some t := by
  have htext := toList_rfc3339 t
  obtain ⟨second, hs, hsecond, hleap⟩ := ht.exists_second
  rw [yearText_of_hasPlainYear h, hs, Int.toNat_natCast] at htext
  have hread := ofRfc3339?_of_toList htext ⟨h.1, Int.lt_add_one_of_le h.2⟩ (Date.isValid_ofDays _) (by omega)
    (by omega) (by omega) (Nat.mod_lt _ (by decide))
  rw [hread, date, Date.toDays_ofDays]
  obtain ⟨seconds, nanos⟩ := t
  simp only [Option.some.injEq, mk.injEq] at *
  rcases hleap with ⟨hq, hr⟩ | ⟨hq, hr, h59⟩
  · rw [hq, hr]
    refine ⟨by omega, if_neg (by omega)⟩
  · rw [hq, hr]
    refine ⟨by omega, if_pos (by omega)⟩

/-- A text that starts with no digit denotes nothing. -/
theorem ofRfc3339?_of_sign {text : String} {c : Char} {rest : List Char}
    (h : text.toList = c :: rest) (hc : c.isDigit = false) : ofRfc3339? text = none := by
  have hyear : takeNumber? 4 (c :: rest) = none := by
    simp [takeNumber?, hc]
  unfold ofRfc3339?
  rw [h, hyear]
  rfl

/-- An instant is read back exactly if its year has four digits. -/
theorem ofRfc3339?_rfc3339 {t : Instant} (ht : t.IsProper) :
    ofRfc3339? t.rfc3339 = if t.HasPlainYear then some t else none := by
  split
  · next h => exact ofRfc3339?_of_hasPlainYear ht h
  · next h =>
    have htext := toList_rfc3339 t
    dsimp only at htext
    rw [yearText_of_not_hasPlainYear h, String.toList_append, List.append_assoc] at htext
    split at htext
    · exact ofRfc3339?_of_sign htext (by decide)
    · exact ofRfc3339?_of_sign htext (by decide)

/-! ## Instants that are read -/

theorem ofDigits_lt {cs : List Char} (h : ∀ c ∈ cs, c.isDigit = true) :
    ofDigits cs < 10 ^ cs.length := by
  induction cs using List.reverseRecOn with
  | nil => decide
  | append_singleton cs c ih =>
    have hfirst := ih fun d hd => h d (List.mem_append_left _ hd)
    have hlast := Char.isDigit_iff_toNat.1 (h c (List.mem_append_right _ (List.mem_singleton_self c)))
    have hnine : '9'.toNat = '0'.toNat + 9 := rfl
    have hvalue : ofDigits (cs ++ [c]) = 10 * ofDigits cs + (c.toNat - '0'.toNat) := by
      rw [ofDigits, List.foldl_append]
      rfl
    rw [hvalue, List.length_append, List.length_singleton, pow_succ]
    omega

/-- No fraction is a whole second. -/
theorem lt_of_takeFraction? {cs rest : List Char} {nanos : ℕ}
    (h : takeFraction? cs = some (nanos, rest)) : nanos < nanosPerSecond := by
  unfold takeFraction? at h
  split at h
  · next digits =>
    dsimp only at h
    split at h
    · contradiction
    · next hne =>
      obtain ⟨rfl, -⟩ : _ = nanos ∧ _ := by simpa using h
      change _ < 10 ^ 9
      refine Nat.lt_of_lt_of_le (ofDigits_lt ?_) (Nat.pow_le_pow_right (by decide) ?_)
      · intro c hc
        rcases List.mem_append.1 (List.mem_of_mem_take hc) with hc | hc
        · exact List.mem_takeWhile_imp hc
        · exact isDigit_of_mem_zeros (k := 9) c hc
      · exact List.length_take_le _ _
  · obtain ⟨rfl, -⟩ : 0 = nanos ∧ _ := by simpa using h
    decide

/-- Offsets are whole minutes. -/
theorem emod_of_readOffset? {cs : List Char} {offset : ℤ} (h : readOffset? cs = some offset) :
    offset % 60 = 0 := by
  unfold readOffset? at h
  split at h
  · obtain rfl := Option.some.inj h
    rfl
  · obtain rfl := Option.some.inj h
    rfl
  · obtain ⟨-, -, h⟩ := Option.bind_eq_some_iff.1 h
    obtain ⟨⟨hours, rest⟩, -, h⟩ := Option.bind_eq_some_iff.1 h
    obtain ⟨rest, -, h⟩ := Option.bind_eq_some_iff.1 h
    obtain ⟨⟨minutes, rest⟩, -, h⟩ := Option.bind_eq_some_iff.1 h
    obtain ⟨-, -, h⟩ := Option.bind_eq_some_iff.1 h
    have hoffset := Option.some.inj h
    split at hoffset <;> omega
  · contradiction

/-- What is read is proper: a leap second ends a minute, whatever the offset. -/
theorem isProper_of_ofRfc3339? {text : String} {t : Instant} (h : ofRfc3339? text = some t) :
    t.IsProper := by
  unfold ofRfc3339? at h
  obtain ⟨⟨year, cs⟩, -, h⟩ := Option.bind_eq_some_iff.1 h
  obtain ⟨cs, -, h⟩ := Option.bind_eq_some_iff.1 h
  obtain ⟨⟨month, cs⟩, -, h⟩ := Option.bind_eq_some_iff.1 h
  obtain ⟨cs, -, h⟩ := Option.bind_eq_some_iff.1 h
  obtain ⟨⟨day, cs⟩, -, h⟩ := Option.bind_eq_some_iff.1 h
  obtain ⟨cs, -, h⟩ := Option.bind_eq_some_iff.1 h
  obtain ⟨⟨hour, cs⟩, -, h⟩ := Option.bind_eq_some_iff.1 h
  obtain ⟨cs, -, h⟩ := Option.bind_eq_some_iff.1 h
  obtain ⟨⟨minute, cs⟩, -, h⟩ := Option.bind_eq_some_iff.1 h
  obtain ⟨cs, -, h⟩ := Option.bind_eq_some_iff.1 h
  obtain ⟨⟨second, cs⟩, -, h⟩ := Option.bind_eq_some_iff.1 h
  obtain ⟨⟨nanos, cs⟩, hnanos, h⟩ := Option.bind_eq_some_iff.1 h
  obtain ⟨offset, hoffset, h⟩ := Option.bind_eq_some_iff.1 h
  obtain ⟨-, -, h⟩ := Option.bind_eq_some_iff.1 h
  obtain rfl := Option.some.inj h
  have hlt := lt_of_takeFraction? hnanos
  have hminutes := emod_of_readOffset? hoffset
  unfold IsProper
  dsimp only
  split
  · next h60 =>
    subst h60
    exact .inr ⟨by omega, by omega⟩
  · exact .inl hlt

end Instant

end RecordSearch
