import RecordSearch.Proofs.Except
import RecordSearch.Proofs.Query.Options
import RecordSearch.Query.Page
import RecordSearch.Storage.Memory

/-!
# Pages from replies

A store in memory answers a search with the number of all matches and the records of one window. The page
that is read from the answer holds the ids of exactly those records, in their order, and the windows of
all pages together are the matches.

## Main definitions

* `MemoryStore.window`, `MemoryStore.pageOf` — the records that one answer shows, and their page.
* `Page.hitOf` — the result that is read from what a search shows of a record.

## Main results

* `ofReply_searchReply` — the page read from an answer.
* `toNat_pageCount` — the number of pages is the number of matches divided, rounded up.
* `flatMap_drop_take` — windows of one size, one after another.
-/

namespace RecordSearch

/-! ## Reading one record -/

namespace Page

theorem readItem_ofText (start key : String) (withContent : Bool) (hits : List Hit) :
    readItem start withContent hits (.ofText key) =
      .ok (⟨stripStart start key, .empty⟩ :: hits) := by
  have htext := Reply.text?_ofText key
  unfold Reply.ofText at htext ⊢
  simp only [readItem, htext]

theorem readItem_array (start : String) (latest : Hit) (hits : List Hit)
    {items : List Reply} {fields : Table String} (h : readFields items = .ok fields) :
    readItem start true (latest :: hits) (.array items) = .ok (⟨latest.id, fields⟩ :: hits) := by
  simp only [readItem, h]
  rfl

theorem readPairs_flatPairs (pairs : List (String × String)) :
    readPairs (MemoryStore.flatPairs pairs) = .ok pairs := by
  induction pairs with
  | nil => rfl
  | cons p pairs ih =>
    change readPairs (.ofText p.1 :: .ofText p.2 :: MemoryStore.flatPairs pairs) = _
    rw [readPairs, Reply.text?_ofText, Reply.text?_ofText, ih]
    rfl

theorem length_flatPairs (pairs : List (String × String)) :
    (MemoryStore.flatPairs pairs).length = 2 * pairs.length := by
  induction pairs with
  | nil => rfl
  | cons p pairs ih =>
    simp only [MemoryStore.flatPairs, List.flatMap_cons, List.length_append, List.length_cons,
      List.length_nil] at ih ⊢
    omega

theorem readFields_flatPairs (pairs : List (String × String)) :
    readFields (MemoryStore.flatPairs pairs) = .ok (.ofList pairs) := by
  rw [readFields, length_flatPairs, if_pos (by omega), readPairs_flatPairs]
  rfl

/-- The result that is read from what a search shows of a record. -/
def hitOf (start : String) (o : SearchOptions) (e : MemoryStore.Entry) : Hit where
  id := stripStart start e.1
  fields := if o.noContent then .empty else .ofList (MemoryStore.wantedFields e.2 o.returned?)

theorem foldlM_hitItems (start : String) (o : SearchOptions) (hits : List Hit)
    (e : MemoryStore.Entry) :
    (MemoryStore.hitItems o e).foldlM (readItem start !o.noContent) hits =
      .ok (hitOf start o e :: hits) := by
  unfold MemoryStore.hitItems hitOf
  cases o.noContent with
  | true =>
    rw [if_pos rfl, List.foldlM_cons, readItem_ofText]
    rfl
  | false =>
    rw [if_neg (by decide), List.foldlM_cons, readItem_ofText]
    change (readItem start true (⟨stripStart start e.1, .empty⟩ :: hits) (.array _) >>= _) = _
    rw [readItem_array start _ hits (readFields_flatPairs _)]
    rfl

/-- Each record shown becomes one result, the latest first. -/
theorem foldlM_window (start : String) (o : SearchOptions) (hits : List Hit)
    (window : List MemoryStore.Entry) :
    (window.flatMap (MemoryStore.hitItems o)).foldlM (readItem start !o.noContent) hits =
      .ok ((window.map (hitOf start o)).reverse ++ hits) := by
  induction window generalizing hits with
  | nil => rfl
  | cons e window ih =>
    rw [List.flatMap_cons, List.foldlM_append, foldlM_hitItems]
    change List.foldlM _ (hitOf start o e :: hits) _ = _
    rw [ih]
    simp

theorem readTotal_ofNat {n : Nat} (h : n < 2 ^ 63) :
    readTotal (.int (Int64.ofNat n)) = .ok (UInt64.ofNat n) := by
  have htext : (Reply.int (Int64.ofNat n)).text? = some (toString n) := by
    rw [Reply.text?, Int64.toInt_ofNat_of_lt h]
    rfl
  rw [readTotal, htext, Option.bind_some, readWord?_toString (by omega)]

end Page

/-- The records that one answer shows. -/
def MemoryStore.window (m : MemoryStore) (start : String) (o : SearchOptions) : List Entry :=
  ((m.matching start o.sorting?).drop o.offset.toNat).take o.count.toNat

/-- The page for one window of the matches. -/
def MemoryStore.pageOf (m : MemoryStore) (start : String) (o : SearchOptions) (pageSize : UInt64) :
    Page :=
  let total := UInt64.ofNat (m.matching start o.sorting?).length
  { ids := (m.window start o).map fun e => stripStart start e.1
    totalCount := total
    totalPages := pageCount total pageSize
    documents :=
      if o.noContent then []
      else (m.window start o).map fun e => .ofList (wantedFields e.2 o.returned?) }

/-- The page read from an answer, whatever the keys are expected to start with: the records shown, and the
number of matches if it can be read. -/
theorem ofReply_searchReply_eq (m : MemoryStore) (covered start : String) (o : SearchOptions)
    (pageSize : UInt64) :
    Page.ofReply (m.searchReply covered o) start pageSize (!o.noContent) =
      (Page.readTotal (.int (Int64.ofNat (m.matching covered o.sorting?).length))).map fun total =>
        { ids := (m.window covered o).map fun e => stripStart start e.1
          totalCount := total
          totalPages := pageCount total pageSize
          documents :=
            if o.noContent then []
            else (m.window covered o).map fun e =>
              .ofList (MemoryStore.wantedFields e.2 o.returned?) } := by
  have hhits := Page.foldlM_window start o [] (m.window covered o)
  unfold MemoryStore.window at hhits ⊢
  unfold MemoryStore.searchReply
  rw [Page.ofReply]
  cases Page.readTotal (.int (Int64.ofNat (m.matching covered o.sorting?).length)) with
  | error e => rfl
  | ok total =>
    refine bind_eq_ok_iff.2 ⟨total, rfl, bind_eq_ok_iff.2 ⟨_, hhits, ?_⟩⟩
    rw [pure_eq_ok_iff]
    cases hcontent : o.noContent <;> simp [Page.hitOf, hcontent, Function.comp_def]

/-- The page read from an answer is that of the window shown. -/
theorem ofReply_searchReply (m : MemoryStore) (start : String) (o : SearchOptions) (pageSize : UInt64)
    (h : (m.matching start o.sorting?).length < 2 ^ 63) :
    Page.ofReply (m.searchReply start o) start pageSize (!o.noContent) =
      .ok (m.pageOf start o pageSize) := by
  rw [ofReply_searchReply_eq, Page.readTotal_ofNat h]
  rfl

/-! ## Windows -/

theorem div_rounded_up {size : Nat} (hsize : 0 < size) (n : Nat) :
    (n + size - 1) / size = if n % size = 0 then n / size else n / size + 1 := by
  have hdivided := Nat.div_add_mod n size
  have hremainder := Nat.mod_lt n hsize
  have hcomm := Nat.mul_comm size (n / size)
  split
  · rw [Nat.div_eq_iff hsize]
    omega
  · rw [Nat.div_eq_iff hsize, Nat.succ_mul]
    omega

theorem toNat_pos_of_ne_zero {n : UInt64} (h : n ≠ 0) : 0 < n.toNat := by
  rw [Nat.pos_iff_ne_zero]
  exact fun hzero => h (UInt64.toNat_inj.1 hzero)

/-- The number of pages is the number of matches divided by the size of a page, rounded up. -/
theorem toNat_pageCount (total : UInt64) {pageSize : UInt64} (h : pageSize ≠ 0) :
    (pageCount total pageSize).toNat = (total.toNat + pageSize.toNat - 1) / pageSize.toNat := by
  have hsize := toNat_pos_of_ne_zero h
  have hwhole : total % pageSize = 0 ↔ total.toNat % pageSize.toNat = 0 := by
    rw [← UInt64.toNat_inj, UInt64.toNat_mod]
    rfl
  rw [pageCount, if_neg h, div_rounded_up hsize]
  simp only [hwhole]
  split
  · exact UInt64.toNat_div total pageSize
  · next hremainder =>
    -- Where there is a remainder, the total is not zero and the size not one, so one page more still
    -- fits a word.
    have hmany : 1 < pageSize.toNat := by
      by_contra hone
      have hsingle : pageSize.toNat = 1 := by omega
      rw [hsingle, Nat.mod_one] at hremainder
      contradiction
    have hpos : 0 < total.toNat := by
      by_contra hzero
      rw [Nat.eq_zero_of_not_pos hzero, Nat.zero_mod] at hremainder
      contradiction
    have hquotient := Nat.div_lt_self hpos hmany
    have hword := total.toNat_lt
    rw [UInt64.toNat_add, UInt64.toNat_div]
    apply Nat.mod_eq_of_lt
    change total.toNat / pageSize.toNat + 1 < 2 ^ 64
    omega

/-- Windows of one size, one after another. -/
theorem flatMap_drop_take {α : Type} (xs : List α) (size count : Nat) :
    ((List.range count).flatMap fun p => (xs.drop (p * size)).take size) = xs.take (count * size) := by
  induction count with
  | zero => simp
  | succ count ih =>
    rw [List.range_succ, List.flatMap_append, ih, Nat.succ_mul, List.take_add]
    simp

/-- A window is empty exactly if it lies behind the last page. -/
theorem drop_take_eq_nil_iff {α : Type} {xs : List α} {size : Nat} (hsize : 0 < size) (p : Nat) :
    (xs.drop (p * size)).take size = [] ↔ (xs.length + size - 1) / size ≤ p := by
  rw [List.take_eq_nil_iff, List.drop_eq_nil_iff, Nat.div_le_iff_le_mul_add_pred hsize,
    Nat.mul_comm size p]
  omega

/-- A start held at the greatest word makes no difference to a list that is shorter. -/
theorem drop_pageOffset {α : Type} {xs : List α} (h : xs.length ≤ maxWord) (page pageSize : UInt64) :
    xs.drop (pageOffset page pageSize) = xs.drop (page.toNat * pageSize.toNat) := by
  unfold pageOffset
  rcases Nat.le_total (page.toNat * pageSize.toNat) maxWord with hle | hle
  · rw [Nat.min_eq_left hle]
  · rw [Nat.min_eq_right hle, List.drop_eq_nil_of_le h, List.drop_eq_nil_of_le (Nat.le_trans h hle)]

end RecordSearch
