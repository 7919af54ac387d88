import Mathlib.Data.List.Infix
import Mathlib.Data.List.TakeWhile
import RecordSearch.Proofs.Engine.Synchronizer
import RecordSearch.Storage.Server

/-!
# Missing indexes in the words of a server

Dropping an index that does not exist is no failure, and a server tells so only by a phrase in the text of its
error line. What is searched for the phrase is not the line itself: a colon is put behind its first word, and
words of another kind in front of it. No phrase holds a colon, so nothing is found that the line does not say;
but a phrase that the line starts with is torn apart, and then the missing index is taken for a failure.

## Main definitions

* `TellsBehind`, `Tells` — a text says, behind some beginning or anywhere, that an index does not exist.
* `TellsLate` — it says so behind a blank.
* `IsTakenAtItsWord` — a missing index is what comes of an error line exactly if the line says so.

## Main results

* `tells_append_colon_iff` — texts joined by a colon say what one of them says.
* `tells_report_iff` — the report of an error line says what the line says behind its first word.
* `drop_isTakenAtItsWord_iff` — which error lines are taken at their word when an index is dropped.
-/

namespace RecordSearch

/-- The phrases that say of an index that it does not exist, in small letters. -/
def missingPhrases : List String :=
  ["unknown index name", "no such index"]

/-- Behind some beginning the text says, in any ASCII case, that an index does not exist. -/
def TellsBehind (beginning text : List Char) : Prop :=
  ∃ said rest, text = beginning ++ (said ++ rest) ∧
    String.ofList (said.map Char.toLower) ∈ missingPhrases

/-- Somewhere the text says that an index does not exist. -/
def Tells (text : List Char) : Prop :=
  ∃ beginning, TellsBehind beginning text

/-- The text says so behind a blank. -/
def TellsLate (text : List Char) : Prop :=
  ∃ beginning, ' ' ∈ beginning ∧ TellsBehind beginning text

theorem TellsLate.tells {text : List Char} : TellsLate text → Tells text :=
  fun ⟨beginning, _, hsaid⟩ => ⟨beginning, hsaid⟩

/-- What came of an error line on dropping an index: the index is missing if the line says so, and else the
server has failed. -/
def IsTakenAtItsWord (index line : String) (outcome : Except StorageError Unit) : Prop :=
  (Tells line.toList → outcome = .error (.unknownIndex index)) ∧
    (¬ Tells line.toList → ∃ report, outcome = .error (.backend report))

/-! ## Searching for a phrase -/

theorem occursIn_iff {pattern text : List Char} : occursIn pattern text = true ↔ pattern <:+: text := by
  induction text with
  | nil => simp [occursIn]
  | cons c rest ih =>
    rw [occursIn, Bool.or_eq_true, ih, List.isPrefixOf_iff_prefix, List.infix_cons_iff]

theorem tells_iff {text : List Char} :
    Tells text ↔ ∃ phrase ∈ missingPhrases, phrase.toList <:+: text.map Char.toLower := by
  constructor
  · rintro ⟨beginning, said, rest, rfl, hsaid⟩
    refine ⟨_, hsaid, ?_⟩
    rw [String.toList_ofList]
    exact List.IsInfix.map _ (List.infix_append' _ _ _)
  · rintro ⟨phrase, hphrase, hfound⟩
    obtain ⟨said, ⟨beginning, rest, rfl⟩, hsaid⟩ := List.infix_map_iff.1 hfound
    refine ⟨beginning, said, rest, List.append_assoc _ _ _, ?_⟩
    rwa [← hsaid, String.ofList_toList]

theorem reportsUnknownIndex_iff {report : String} :
    reportsUnknownIndex report = true ↔ Tells report.toList := by
  rw [tells_iff, reportsUnknownIndex, Bool.or_eq_true, occursIn_iff, occursIn_iff]
  simp [missingPhrases]

/-- A list without a mark stands in another one only on one side of the mark. -/
theorem infix_append_cons_iff {α : Type} {c : α} {l a b : List α} (hc : c ∉ l) :
    l <:+: a ++ c :: b ↔ l <:+: a ∨ l <:+: b := by
  have hnil {t : List α} (ht : ∀ x ∈ t, x ∈ l) (h : t <+: c :: b) : t = [] := by
    rcases List.prefix_cons_iff.1 h with rfl | ⟨t', rfl, -⟩
    · rfl
    · exact absurd (ht c List.mem_cons_self) hc
  constructor
  · intro h
    rcases List.infix_append_iff.1 h with h | h | ⟨l₁, l₂, rfl, h₁, h₂⟩
    · exact .inl h
    · rcases List.infix_cons_iff.1 h with h | h
      · rw [hnil (fun _ hx => hx) h]
        exact .inl (List.nil_infix)
      · exact .inr h
    · rw [hnil (fun _ hx => List.mem_append_right _ hx) h₂, List.append_nil]
      exact .inl h₁.isInfix
  · rintro (h | h)
    · exact h.trans (List.prefix_append _ _).isInfix
    · exact h.trans ((List.suffix_cons _ _).trans (List.suffix_append _ _)).isInfix

/-- Texts joined by a colon say what one of them says. -/
theorem tells_append_colon_iff {a b : List Char} : Tells (a ++ ':' :: b) ↔ Tells a ∨ Tells b := by
  have hcolon : ∀ phrase ∈ missingPhrases, ':' ∉ phrase.toList := by decide
  simp only [tells_iff, List.map_append, List.map_cons]
  rw [← exists_or]
  refine exists_congr fun phrase => ?_
  rw [← and_or_left]
  exact and_congr_right fun hphrase => infix_append_cons_iff (hcolon phrase hphrase)

/-- No phrase starts with a blank. -/
theorem tells_blank_cons_iff {text : List Char} : Tells (' ' :: text) ↔ Tells text := by
  have hblank : ∀ phrase ∈ missingPhrases, ¬ phrase.toList <+: ' ' :: text.map Char.toLower := by
    simp [missingPhrases, List.prefix_cons_iff]
  rw [tells_iff, tells_iff]
  refine exists_congr fun phrase => and_congr_right fun hphrase => ?_
  exact List.infix_cons_iff.trans (or_iff_right (hblank phrase hphrase))

/-- Only a blank is a blank in small letters. -/
theorem toLower_eq_blank {c : Char} (h : c.toLower = ' ') : c = ' ' := by
  unfold Char.toLower at h
  split at h
  case isTrue hcapital =>
    have hval : c.val + ('a'.val - 'A'.val) = ' '.val := congrArg Char.val h
    grind
  case isFalse => exact h

/-- Every phrase holds a blank. -/
theorem mem_of_tells {text : List Char} (h : Tells text) : ' ' ∈ text := by
  have hblank : ∀ phrase ∈ missingPhrases, ' ' ∈ phrase.toList := by decide
  obtain ⟨phrase, hphrase, hfound⟩ := tells_iff.1 h
  obtain ⟨c, hc, hlower⟩ := List.mem_map.1 (hfound.subset (hblank phrase hphrase))
  exact toLower_eq_blank hlower ▸ hc

theorem not_tells_nil : ¬ Tells [] :=
  fun h => absurd (mem_of_tells h) List.not_mem_nil

/-! ## What a report says -/

theorem eq_blank_of_dropWhile {text detail : List Char} {c : Char}
    (h : text.dropWhile (· ≠ ' ') = c :: detail) : c = ' ' := by
  have hhead := List.head?_dropWhile_not (· ≠ ' ') text
  rw [h] at hhead
  simpa using hhead

/-- What a line says from its first blank on, it says late. -/
theorem tellsLate_iff {text : List Char} : TellsLate text ↔ Tells (text.dropWhile (· ≠ ' ')) := by
  constructor
  · rintro ⟨beginning, hblank, said, rest, rfl, hsaid⟩
    have hne : (beginning.dropWhile (· ≠ ' ')).isEmpty = false := by
      rw [List.isEmpty_eq_false_iff, Ne, List.dropWhile_eq_nil_iff]
      exact fun hall => by simpa using hall _ hblank
    rw [List.dropWhile_append, hne, if_neg (by decide)]
    exact ⟨_, said, rest, rfl, hsaid⟩
  · intro h
    have hwhole := List.takeWhile_append_dropWhile (p := (· ≠ ' ')) (l := text)
    cases hlate : text.dropWhile (· ≠ ' ') with
    | nil => exact absurd (hlate ▸ h) not_tells_nil
    | cons c detail =>
      obtain rfl := eq_blank_of_dropWhile hlate
      rw [hlate] at h hwhole
      obtain ⟨beginning, said, rest, rfl, hsaid⟩ := tells_blank_cons_iff.1 h
      refine ⟨text.takeWhile (· ≠ ' ') ++ ' ' :: beginning, by simp, said, rest, ?_, hsaid⟩
      rw [List.append_assoc, List.cons_append, hwhole]

/-- The first word of a line says nothing. -/
theorem not_tells_takeWhile (text : List Char) : ¬ Tells (text.takeWhile (· ≠ ' ')) := by
  intro h
  simpa using List.mem_takeWhile_imp (mem_of_tells h)

/-- A detail behind words that say nothing is all that is said. -/
theorem tells_detail_iff {words detail : String} (h : ¬ Tells words.toList) :
    Tells (words ++ ": " ++ detail).toList ↔ Tells detail.toList := by
  have hlist : (words ++ ": " ++ detail).toList = words.toList ++ ':' :: ' ' :: detail.toList := by
    simp
  rw [hlist, tells_append_colon_iff, tells_blank_cons_iff, or_iff_right h]

theorem not_tells_of_not_reportsUnknownIndex {report : String} (h : reportsUnknownIndex report = false) :
    ¬ Tells report.toList := by
  rw [← reportsUnknownIndex_iff, h]
  decide

/-- The words for a signalled kind of failure say nothing. -/
theorem not_tells_signalled {code kind : String} (h : ServerError.signalled? code = some kind) :
    ¬ Tells ("An error was signalled by the server- " ++ kind).toList ∧
      ¬ Tells ("An error was signalled by the server - " ++ kind).toList := by
  have hkind : kind = "ResponseError" ∨ kind = "BusyLoadingError" ∨ kind = "ReadOnly" := by
    unfold ServerError.signalled? at h
    grind
  rcases hkind with rfl | rfl | rfl <;>
    exact ⟨not_tells_of_not_reportsUnknownIndex (by decide +kernel),
      not_tells_of_not_reportsUnknownIndex (by decide +kernel)⟩

/-- The report of an error line says what the line says behind its first word. -/
theorem tells_report_iff {line : String} :
    Tells (ErrorLine.report line).toList ↔ TellsLate line.toList := by
  have hword : ¬ Tells (String.ofList (line.toList.takeWhile (· ≠ ' '))).toList := by
    rw [String.toList_ofList]
    exact not_tells_takeWhile _
  rw [tellsLate_iff]
  unfold ErrorLine.report ServerError.report ServerError.ofLine
  dsimp only
  -- A line of one word has no detail; of any other the detail is all that its report can say.
  cases hlate : line.toList.dropWhile (· ≠ ' ') with
  | nil =>
    refine iff_of_false ?_ not_tells_nil
    cases hcode : ServerError.signalled? (String.ofList (line.toList.takeWhile (· ≠ ' '))) with
    | some kind => exact (not_tells_signalled hcode).1
    | none =>
      have hdetail : ": Unknown extension error encountered" =
          ": " ++ "Unknown extension error encountered" := rfl
      dsimp only
      rw [hdetail, ← String.append_assoc, tells_detail_iff hword]
      exact not_tells_of_not_reportsUnknownIndex (by decide)
  | cons c detail =>
    obtain rfl := eq_blank_of_dropWhile hlate
    rw [tells_blank_cons_iff]
    cases hcode : ServerError.signalled? (String.ofList (line.toList.takeWhile (· ≠ ' '))) with
    | some kind =>
      dsimp only
      rw [tells_detail_iff (not_tells_signalled hcode).2, String.toList_ofList]
    | none =>
      dsimp only
      rw [tells_detail_iff hword, String.toList_ofList]

/-! ## Dropping an index -/

theorem failure_dropIndex (index report : String) :
    (Command.dropIndex index).failure report = .backend ("FT.DROPINDEX failed: " ++ report) := by
  have htitle : "FT.DROPINDEX" ++ " failed: " = "FT.DROPINDEX failed: " := by decide
  rw [Command.failure, Command.title, htitle]

theorem isUnknownIndex_failure_iff {index line : String} :
    ((Command.dropIndex index).failure (ErrorLine.report line)).isUnknownIndex = true ↔
      TellsLate line.toList := by
  have htitle : "FT.DROPINDEX failed: " = "FT.DROPINDEX failed" ++ ": " := by decide
  rw [failure_dropIndex, StorageError.isUnknownIndex, reportsUnknownIndex_iff, htitle,
    tells_detail_iff (not_tells_of_not_reportsUnknownIndex (by decide)), tells_report_iff]

/-- That an index cannot be dropped means that there is none, and is passed over, if the server's line says so
late; otherwise it is a failure of the server, and noted. -/
theorem dropFailure_cases (index line : String) :
    (TellsLate line.toList ∧ dropFailure index (ErrorLine.report line) = .unknownIndex index ∧
        dropEvents (.error (dropFailure index (ErrorLine.report line))) = []) ∨
      (¬ TellsLate line.toList ∧
        dropFailure index (ErrorLine.report line) =
          .backend ("FT.DROPINDEX failed: " ++ ErrorLine.report line) ∧
        dropEvents (.error (dropFailure index (ErrorLine.report line))) =
          [.indexOperation .drop false]) := by
  by_cases hlate : TellsLate line.toList
  · have he : dropFailure index (ErrorLine.report line) = .unknownIndex index := by
      rw [dropFailure, if_pos (isUnknownIndex_failure_iff.2 hlate)]
    exact .inl ⟨hlate, he, by rw [he]; rfl⟩
  · have hother : ¬ ((Command.dropIndex index).failure (ErrorLine.report line)).isUnknownIndex = true :=
      mt isUnknownIndex_failure_iff.1 hlate
    have he : dropFailure index (ErrorLine.report line) =
        (Command.dropIndex index).failure (ErrorLine.report line) := by
      rw [dropFailure, if_neg hother]
    refine .inr ⟨hlate, by rw [he, failure_dropIndex], ?_⟩
    rw [he, dropEvents, if_neg hother]

/-- A server answers that an index cannot be dropped. If its error line says behind a blank that the index
does not exist, the index is missing, and bringing it in step passes over that; otherwise the server has
failed, and that is noted. So the line is taken at its word unless all that it says of a missing index starts
in its first word. -/
theorem drop_isTakenAtItsWord_iff (index line : String) (answers : List ServerAnswer)
    (requests : List (List String)) :
    let server : ServerScript := ⟨.error line :: answers, requests⟩
    let outcome := (Storage.respond (.dropIndex index) server).1
    (IsTakenAtItsWord index line outcome ↔ (Tells line.toList → TellsLate line.toList)) ∧
    (outcome = .error (.unknownIndex index) ↔ TellsLate line.toList) ∧
    (outcome = .error (.backend ("FT.DROPINDEX failed: " ++ ErrorLine.report line)) ↔
      ¬ TellsLate line.toList) ∧
    ∀ w : World ServerScript,
      (dropQuietly index { w with store := server }).2.events = w.events ↔ TellsLate line.toList := by
  intro server outcome
  have hnoted (w : World ServerScript) : (dropQuietly index { w with store := server }).2.events =
      w.events ++ dropEvents outcome := by
    rw [dropQuietly_apply]
  rcases dropFailure_cases index line with ⟨hlate, hmissing, hevents⟩ | ⟨hlate, hfailed, hevents⟩
  · have houtcome : outcome = .error (.unknownIndex index) := congrArg Except.error hmissing
    have htells : Tells line.toList := hlate.tells
    refine ⟨iff_of_true ⟨fun _ => houtcome, fun hsilent => absurd htells hsilent⟩ fun _ => hlate,
      iff_of_true houtcome hlate, iff_of_false ?_ (not_not_intro hlate), fun w => iff_of_true ?_ hlate⟩
    · rw [houtcome]
      nofun
    · rw [hnoted]
      exact (congrArg (w.events ++ ·) hevents).trans (List.append_nil _)
  · have houtcome : outcome = .error (.backend ("FT.DROPINDEX failed: " ++ ErrorLine.report line)) :=
      congrArg Except.error hfailed
    have hother : outcome ≠ .error (.unknownIndex index) := by
      rw [houtcome]
      nofun
    refine ⟨⟨fun h htells => absurd (h.1 htells) hother, fun h => ⟨?_, fun _ => ⟨_, houtcome⟩⟩⟩,
      iff_of_false hother hlate, iff_of_true houtcome hlate, fun w => iff_of_false ?_ hlate⟩
    · exact fun htells => absurd (h htells) hlate
    · rw [hnoted, List.append_right_eq_self]
      exact fun hnone => absurd (hevents.symm.trans hnone) (List.cons_ne_nil _ _)

/-- The phrase is the whole line, and is torn apart. -/
theorem drop_of_leading_phrase :
    let server : ServerScript := ⟨[.error "Unknown Index name"], []⟩
    let outcome := (Storage.respond (.dropIndex "players") server).1
    Tells "Unknown Index name".toList ∧
    outcome = .error (.backend "FT.DROPINDEX failed: Unknown: Index name") ∧
    ¬ IsTakenAtItsWord "players" "Unknown Index name" outcome := by
  intro server outcome
  have htells : Tells "Unknown Index name".toList := reportsUnknownIndex_iff.1 (by decide)
  have houtcome : outcome = .error (.backend "FT.DROPINDEX failed: Unknown: Index name") := by decide
  refine ⟨htells, houtcome, fun h => ?_⟩
  rw [houtcome] at h
  exact absurd (h.1 htells) nofun

end RecordSearch
