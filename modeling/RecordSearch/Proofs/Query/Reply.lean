import RecordSearch.Proofs.Query.Page

/-!
# What a reply says

A reply to a search is one flat list, and it is read from left to right with the fields of the latest key
still open. What it says can be told without reading it so: a total; keys, which are the items with a text;
and for each key the last list of fields in front of the next one. Lists count for nothing unless content
is wanted.

A reply is either read as just that, or something is wrong with it that can be pointed at.

## Main definitions

* `Reply.Counts`, `Reply.spans`, `Reply.lastFields?` — the number of matches, the keys with what lies
  behind each, and the fields there.
* `Reply.Offends`, `Reply.IsUnreadable` — what can be wrong with items, and with a reply.
* `Page.IsReadFrom` — a page holds what a reply says.

## Main results

* `Page.foldlM_readItem` — items read onto results, in any state of the loop.
* `Page.ofReply_exact` — every reply is malformed, or is read as the page that holds what it says.
-/

namespace RecordSearch

namespace Reply

/-! ## Items -/

/-- The item gives the number of matches: it is that number, or a text that writes it. -/
inductive Counts : Reply → UInt64 → Prop
  | number {k : Int64} {n : UInt64} (h : k.toInt = n.toNat) : Counts (.int k) n
  | text {item : Reply} {text : String} {n : UInt64} (htext : item.text? = some text)
      (hword : readWord? text = some n) : Counts item n

/-- The items of a list. -/
def list? : Reply → Option (List Reply)
  | array items => some items
  | _ => none

/-- Neither a key nor a list nor nothing. -/
structure IsStray (item : Reply) : Prop where
  noKey : item.text? = none
  noList : item.list? = none
  notNil : item ≠ .nil

theorem list?_eq_some_iff {item : Reply} {list : List Reply} :
    item.list? = some list ↔ item = .array list := by
  constructor
  · intro h
    unfold list? at h
    split at h
    · next items => rw [Option.some.inj h]
    · contradiction
  · rintro rfl
    rfl

theorem item_cases (item : Reply) :
    item = .nil ∨ (∃ list, item = .array list) ∨ (∃ key, item.text? = some key) ∨ item.IsStray := by
  cases htext : item.text? with
  | some key => exact .inr (.inr (.inl ⟨key, rfl⟩))
  | none =>
    cases hlist : item.list? with
    | some list => exact .inr (.inl ⟨list, list?_eq_some_iff.1 hlist⟩)
    | none =>
      by_cases hnil : item = .nil
      · exact .inl hnil
      · exact .inr (.inr (.inr ⟨htext, hlist, hnil⟩))

/-! ## Lists of fields -/

/-- Names and values in turn, each name with a text. -/
structure IsFieldList (list : List Reply) : Prop where
  even : list.length % 2 = 0
  names : ∀ i name, list[2 * i]? = some name → name.text? ≠ none

/-- The texts of names and values in turn; a value without one counts as empty. -/
def fieldPairs : List Reply → List (String × String)
  | name :: value :: rest => (name.text?.getD "", value.text?.getD "") :: fieldPairs rest
  | _ => []

/-- The fields in the last list among some items. -/
def lastFields? (items : List Reply) : Option (Table String) :=
  (items.filterMap list?).getLast?.map fun list => .ofList (fieldPairs list)

theorem isFieldList_cons {name value : Reply} {rest : List Reply} :
    IsFieldList (name :: value :: rest) ↔ name.text? ≠ none ∧ IsFieldList rest := by
  constructor
  · intro h
    have heven := h.even
    simp only [List.length_cons] at heven
    exact ⟨h.names 0 name rfl, by omega, fun i => h.names (i + 1)⟩
  · rintro ⟨hname, heven, hnames⟩
    refine ⟨by simp only [List.length_cons]; omega, fun i => ?_⟩
    cases i with
    | zero =>
      intro first hfirst
      obtain rfl := Option.some.inj hfirst
      exact hname
    | succ i => exact hnames i

/-! ## Keys and what lies behind them -/

/-- The items in front of the first key. -/
def untilKey (items : List Reply) : List Reply :=
  items.takeWhile (·.text?.isNone)

/-- Each key among some items, and the items between it and the next key. -/
def spans : List Reply → List (String × List Reply)
  | [] => []
  | item :: rest =>
    match item.text? with
    | some key => (key, untilKey rest) :: spans rest
    | none => spans rest

theorem map_fst_spans (items : List Reply) : (spans items).map Prod.fst = items.filterMap text? := by
  induction items with
  | nil => rfl
  | cons item rest ih =>
    rw [spans, List.filterMap_cons]
    cases item.text? with
    | none => exact ih
    | some key => rw [List.map_cons, ih]

theorem spans_cons_of_text {item : Reply} {key : String} (h : item.text? = some key)
    (rest : List Reply) : spans (item :: rest) = (key, untilKey rest) :: spans rest := by
  rw [spans, h]

theorem untilKey_cons_of_text {item : Reply} {key : String} (h : item.text? = some key)
    (rest : List Reply) : untilKey (item :: rest) = [] := by
  rw [untilKey, List.takeWhile_cons, h]
  rfl

/-! ## What can be wrong -/

/-- Something is wrong with items behind a total; `started` tells whether a key stands before them. -/
inductive Offends (withContent started : Bool) (items : List Reply) : Prop
  /-- An item is neither a key nor a list nor nothing. -/
  | stray (item : Reply) (hmem : item ∈ items) (h : item.IsStray)
  /-- A list stands before the first key. -/
  | early (hcontent : withContent = true) (hstarted : started = false) (before after : List Reply)
      (list : List Reply) (hitems : items = before ++ .array list :: after)
      (hbefore : ∀ item ∈ before, item.text? = none)
  /-- A list is no list of fields. -/
  | fields (hcontent : withContent = true) (list : List Reply) (hmem : .array list ∈ items)
      (h : ¬ IsFieldList list)

/-- Why a reply to a search cannot be read. -/
inductive IsUnreadable (withContent : Bool) : Reply → Prop
  /-- It is no list. -/
  | noList {reply : Reply} (h : reply.list? = none) : IsUnreadable withContent reply
  /-- It is an empty list. -/
  | empty : IsUnreadable withContent (.array [])
  /-- Its first item gives no number of matches. -/
  | noTotal {first : Reply} {items : List Reply} (h : ∀ n, ¬ first.Counts n) :
    IsUnreadable withContent (.array (first :: items))
  /-- Something is wrong with the items behind the first. -/
  | items {first : Reply} {items : List Reply} (h : Offends withContent false items) :
    IsUnreadable withContent (.array (first :: items))

section Offends

variable {withContent started : Bool} {item : Reply} {rest : List Reply}

theorem not_offends_nil : ¬ Offends withContent started [] := by
  rintro (⟨_, hmem, -⟩ | ⟨-, -, before, after, list, hitems, -⟩ | ⟨-, _, hmem, -⟩)
  · contradiction
  · exact absurd hitems (by simp)
  · contradiction

theorem offends_cons :
    Offends withContent started (item :: rest) ↔
      item.IsStray ∨
      (withContent = true ∧ ∃ list, item = .array list ∧ (started = false ∨ ¬ IsFieldList list)) ∨
      Offends withContent (started || item.text?.isSome) rest := by
  constructor
  · rintro (⟨other, hmem, h⟩ | ⟨hcontent, hstarted, before, after, list, hitems, hbefore⟩ |
      ⟨hcontent, list, hmem, h⟩)
    · rcases List.mem_cons.1 hmem with rfl | hmem
      · exact .inl h
      · exact .inr (.inr (.stray other hmem h))
    · cases before with
      | nil =>
        obtain ⟨rfl, rfl⟩ := List.cons.inj hitems
        exact .inr (.inl ⟨hcontent, list, rfl, .inl hstarted⟩)
      | cons head before =>
        obtain ⟨rfl, rfl⟩ := List.cons.inj hitems
        refine .inr (.inr (.early hcontent ?_ before after list rfl fun i hi => hbefore i (.tail _ hi)))
        rw [hstarted, hbefore item List.mem_cons_self]
        rfl
    · rcases List.mem_cons.1 hmem with rfl | hmem
      · exact .inr (.inl ⟨hcontent, list, rfl, .inr h⟩)
      · exact .inr (.inr (.fields hcontent list hmem h))
  · rintro (h | ⟨hcontent, list, rfl, hstarted | h⟩ | h)
    · exact .stray item List.mem_cons_self h
    · exact .early hcontent hstarted [] rest list rfl nofun
    · exact .fields hcontent list List.mem_cons_self h
    · rcases h with ⟨other, hmem, h⟩ |
        ⟨hcontent, hstarted, before, after, list, hitems, hbefore⟩ | ⟨hcontent, list, hmem, h⟩
      · exact .stray other (.tail _ hmem) h
      · rw [Bool.or_eq_false_iff, Option.isSome_eq_false_iff, Option.isNone_iff_eq_none] at hstarted
        refine .early hcontent hstarted.1 (item :: before) after list (by rw [hitems]; rfl) ?_
        exact List.forall_mem_cons.2 ⟨hstarted.2, hbefore⟩
      · exact .fields hcontent list (.tail _ hmem) h

theorem offends_cons_of_text {key : String} (h : item.text? = some key) :
    Offends withContent started (item :: rest) ↔ Offends withContent true rest := by
  rw [offends_cons, h, Option.isSome_some, Bool.or_true]
  constructor
  · rintro (hstray | ⟨-, list, rfl, -⟩ | hrest)
    · exact absurd (hstray.noKey.symm.trans h) nofun
    · contradiction
    · exact hrest
  · exact fun hrest => .inr (.inr hrest)

theorem offends_cons_nil :
    Offends withContent started (.nil :: rest) ↔ Offends withContent started rest := by
  have hnone : Reply.nil.text? = none := rfl
  rw [offends_cons, hnone, Option.isSome_none, Bool.or_false]
  constructor
  · rintro (hstray | ⟨-, list, hlist, -⟩ | hrest)
    · exact absurd rfl hstray.notNil
    · contradiction
    · exact hrest
  · exact fun hrest => .inr (.inr hrest)

theorem offends_cons_array {list : List Reply} :
    Offends withContent started (.array list :: rest) ↔
      (withContent = true ∧ (started = false ∨ ¬ IsFieldList list)) ∨
        Offends withContent started rest := by
  have hnone : (Reply.array list).text? = none := rfl
  rw [offends_cons, hnone, Option.isSome_none, Bool.or_false]
  constructor
  · rintro (hstray | ⟨hcontent, other, hlist, h⟩ | hrest)
    · exact absurd hstray.noList nofun
    · obtain rfl := Reply.array.inj hlist
      exact .inl ⟨hcontent, h⟩
    · exact .inr hrest
  · rintro (⟨hcontent, h⟩ | hrest)
    · exact .inr (.inl ⟨hcontent, list, rfl, h⟩)
    · exact .inr (.inr hrest)

end Offends

end Reply

namespace Page

open Reply

/-- The page holds what a total and the items behind it say. -/
structure IsReadFrom (found : Page) (first : Reply) (items : List Reply) (keyStart : String)
    (pageSize : UInt64) (withContent : Bool) : Prop where
  totalCount : first.Counts found.totalCount
  /-- As many pages as the matches fill, the last one perhaps in part; none of size zero. -/
  totalPages : found.totalPages.toNat =
    if pageSize = 0 then 0 else (found.totalCount.toNat + pageSize.toNat - 1) / pageSize.toNat
  /-- The keys in order, each without the prefix if it has it. -/
  ids : found.ids = (items.filterMap Reply.text?).map (stripStart keyStart)
  /-- With content, the fields in the last list between each key and the next one. -/
  documents : found.documents =
    if withContent then (spans items).map fun span => (lastFields? span.2).getD .empty else []
  /-- With content there are fields for each id. -/
  aligned : withContent = true → found.documents.length = found.ids.length

/-! ## Reading one item -/

theorem readTotal_eq_ok_iff {item : Reply} {n : UInt64} : readTotal item = .ok n ↔ item.Counts n := by
  unfold readTotal
  constructor
  · intro h
    split at h
    · next n' hn =>
      obtain rfl := Except.ok.inj h
      obtain ⟨text, htext, hword⟩ := Option.bind_eq_some_iff.1 hn
      exact .text htext hword
    · contradiction
  · rintro (h | ⟨htext, hword⟩)
    · -- The number is written in digits and read back.
      have htext : (Reply.int _).text? = some (toString n.toNat) := congrArg (some ∘ toString) h
      rw [htext, Option.bind_some, readWord?_toString n.toNat_lt, UInt64.ofNat_toNat]
    · rw [htext, Option.bind_some, hword]

theorem readTotal_cases (item : Reply) :
    ((∀ n, ¬ item.Counts n) ∧ ∃ reason, readTotal item = .error (malformed reason)) ∨
      ∃ n, item.Counts n ∧ readTotal item = .ok n := by
  cases hread : readTotal item with
  | ok n => exact .inr ⟨n, readTotal_eq_ok_iff.1 hread, rfl⟩
  | error e =>
    refine .inl ⟨fun n hn => ?_, ?_⟩
    · rw [readTotal_eq_ok_iff.2 hn] at hread
      contradiction
    · unfold readTotal at hread
      split at hread
      · contradiction
      · exact ⟨_, hread.symm⟩

theorem readPairs_cases (list : List Reply) (heven : list.length % 2 = 0) :
    (IsFieldList list ∧ readPairs list = .ok (fieldPairs list)) ∨
      (¬ IsFieldList list ∧ ∃ reason, readPairs list = .error (malformed reason)) := by
  induction list using fieldPairs.induct with
  | case1 name value rest ih =>
    have hrest := ih (by simp only [List.length_cons] at heven; omega)
    rw [isFieldList_cons, readPairs]
    cases hname : name.text? with
    | none => exact .inr ⟨by simp, _, rfl⟩
    | some field =>
      dsimp only
      rcases hrest with ⟨hrest, hread⟩ | ⟨hrest, reason, hread⟩
      · refine .inl ⟨⟨Option.some_ne_none field, hrest⟩, ?_⟩
        rw [fieldPairs, hname, hread]
        rfl
      · exact .inr ⟨fun h => hrest h.2, reason, by rw [hread]; rfl⟩
  | case2 list hshort =>
    cases list with
    | nil => exact .inl ⟨⟨rfl, by simp⟩, rfl⟩
    | cons name rest =>
      cases rest with
      | nil => contradiction
      | cons value rest => exact (hshort name value rest rfl).elim

theorem readFields_cases (list : List Reply) :
    (IsFieldList list ∧ readFields list = .ok (.ofList (fieldPairs list))) ∨
      (¬ IsFieldList list ∧ ∃ reason, readFields list = .error (malformed reason)) := by
  unfold readFields
  by_cases heven : list.length % 2 = 0
  · rw [if_pos heven]
    rcases readPairs_cases list heven with ⟨hlist, hread⟩ | ⟨hlist, reason, hread⟩
    · exact .inl ⟨hlist, by rw [hread]; rfl⟩
    · exact .inr ⟨hlist, reason, by rw [hread]; rfl⟩
  · rw [if_neg heven]
    exact .inr ⟨fun h => heven h.even, _, rfl⟩

theorem readItem_of_text {item : Reply} {key : String} (h : item.text? = some key) (start : String)
    (withContent : Bool) (hits : List Hit) :
    readItem start withContent hits item = .ok (⟨stripStart start key, .empty⟩ :: hits) := by
  unfold readItem
  split
  · contradiction
  · contradiction
  · rw [h]

theorem readItem_of_isStray {item : Reply} (h : item.IsStray) (start : String) (withContent : Bool)
    (hits : List Hit) :
    ∃ reason, readItem start withContent hits item = .error (malformed reason) := by
  unfold readItem
  split
  · exact absurd h.noList (Option.some_ne_none _)
  · exact absurd rfl h.notNil
  · rw [h.noKey]
    exact ⟨_, rfl⟩

/-! ## Reading all items -/

/-- A result after some more items: with content the last list among them gives its fields. -/
def Hit.after (withContent : Bool) (hit : Hit) (items : List Reply) : Hit :=
  ⟨hit.id, if withContent then (lastFields? items).getD hit.fields else hit.fields⟩

theorem Hit.after_nil (withContent : Bool) (hit : Hit) : hit.after withContent [] = hit := by
  cases withContent <;> rfl

theorem Hit.after_array (hit : Hit) (list items : List Reply) :
    hit.after true (.array list :: items) =
      Hit.after true ⟨hit.id, .ofList (fieldPairs list)⟩ items := by
  have hlists : (Reply.array list :: items).filterMap list? = list :: items.filterMap list? := rfl
  unfold Hit.after lastFields?
  rw [hlists, List.getLast?_cons]
  cases (items.filterMap list?).getLast? <;> rfl

theorem modifyHead_after_nil (withContent : Bool) (hits : List Hit) :
    hits.modifyHead (·.after withContent []) = hits := by
  cases hits with
  | nil => rfl
  | cons latest earlier => rw [List.modifyHead_cons, Hit.after_nil]

/-- The result that a key and the items behind it give. -/
def spanHit (start : String) (withContent : Bool) (span : String × List Reply) : Hit :=
  Hit.after withContent ⟨stripStart start span.1, .empty⟩ span.2

/-- Items are read onto earlier results unless something is wrong with one. The latest of the earlier
results gets the items in front of the first key, and each key makes a result with the items behind it. -/
theorem foldlM_readItem (start : String) (withContent : Bool) (items : List Reply) (hits : List Hit) :
    (Offends withContent (!hits.isEmpty) items ∧
      ∃ reason, items.foldlM (readItem start withContent) hits = .error (malformed reason)) ∨
    (¬ Offends withContent (!hits.isEmpty) items ∧
      items.foldlM (readItem start withContent) hits =
        .ok (((spans items).map (spanHit start withContent)).reverse ++
          hits.modifyHead (·.after withContent (untilKey items)))) := by
  induction items generalizing hits with
  | nil =>
    refine .inr ⟨not_offends_nil, ?_⟩
    change _ = Except.ok (hits.modifyHead (·.after withContent []))
    rw [modifyHead_after_nil]
    rfl
  | cons item rest ih =>
    rw [List.foldlM_cons]
    rcases item.item_cases with rfl | ⟨list, rfl⟩ | ⟨key, hkey⟩ | hstray
    · rw [offends_cons_nil]
      exact ih hits
    · cases withContent with
      | false =>
        have hignored : Offends false (!hits.isEmpty) (.array list :: rest) ↔
            Offends false (!hits.isEmpty) rest :=
          offends_cons_array.trans (or_iff_right (by simp))
        rw [hignored]
        exact ih hits
      | true =>
        cases hits with
        | nil => exact .inl ⟨offends_cons_array.2 (.inl ⟨rfl, .inl rfl⟩), _, rfl⟩
        | cons latest earlier =>
          rcases readFields_cases list with ⟨hlist, hread⟩ | ⟨hlist, reason, hread⟩
          · have hsound : Offends true (!(latest :: earlier).isEmpty) (.array list :: rest) ↔
                Offends true true rest :=
              offends_cons_array.trans (or_iff_right (by simp [hlist]))
            have hnext := ih (⟨latest.id, .ofList (fieldPairs list)⟩ :: earlier)
            rw [List.modifyHead_cons, ← Hit.after_array] at hnext
            have hitem := readItem_array start latest earlier hread
            rw [hsound, hitem]
            exact hnext
          · refine .inl ⟨offends_cons_array.2 (.inl ⟨rfl, .inr hlist⟩), reason, ?_⟩
            simp only [readItem, hread]
            rfl
    · rw [offends_cons_of_text hkey, readItem_of_text hkey, spans_cons_of_text hkey,
        untilKey_cons_of_text hkey, modifyHead_after_nil]
      have hnext := ih (⟨stripStart start key, .empty⟩ :: hits)
      rw [List.modifyHead_cons] at hnext
      rw [List.map_cons, List.reverse_cons, List.append_assoc]
      exact hnext
    · obtain ⟨reason, hread⟩ := readItem_of_isStray hstray start withContent hits
      exact .inl ⟨offends_cons.2 (.inl hstray), reason, by rw [hread]; rfl⟩

/-! ## Reading a reply -/

theorem toNat_pageCount_eq (total pageSize : UInt64) :
    (pageCount total pageSize).toNat =
      if pageSize = 0 then 0 else (total.toNat + pageSize.toNat - 1) / pageSize.toNat := by
  by_cases hsize : pageSize = 0
  · rw [pageCount, if_pos hsize, if_pos hsize]
    rfl
  · rw [if_neg hsize, toNat_pageCount total hsize]

/-- The results that keys give make up the page. -/
theorem isReadFrom_of_spans {first : Reply} {total : UInt64} (h : first.Counts total)
    (items : List Reply) (keyStart : String) (pageSize : UInt64) (withContent : Bool) :
    let hits := (spans items).map (spanHit keyStart withContent)
    IsReadFrom ⟨hits.map (·.id), total, pageCount total pageSize,
      if withContent then hits.map (·.fields) else []⟩ first items keyStart pageSize withContent := by
  intro hits
  have hids : hits.map (·.id) = (items.filterMap Reply.text?).map (stripStart keyStart) := by
    rw [← map_fst_spans, List.map_map, List.map_map]
    rfl
  refine ⟨h, toNat_pageCount_eq total pageSize, hids, ?_, ?_⟩
  · cases withContent with
    | false => rfl
    | true => exact List.map_map
  · rintro rfl
    exact (List.length_map _).trans (List.length_map _).symm

theorem ofReply_of_noList {reply : Reply} (h : reply.list? = none) (keyStart : String)
    (pageSize : UInt64) (withContent : Bool) :
    ∃ reason, ofReply reply keyStart pageSize withContent = .error (malformed reason) := by
  unfold ofReply
  split
  · contradiction
  · contradiction
  · exact ⟨_, rfl⟩

/-- A reply either cannot be read, and is reported as malformed, or it is read as the page that holds what
it says. -/
theorem ofReply_exact (reply : Reply) (keyStart : String) (pageSize : UInt64) (withContent : Bool) :
    (IsUnreadable withContent reply ∧
      ∃ reason, ofReply reply keyStart pageSize withContent = .error (malformed reason)) ∨
    (¬ IsUnreadable withContent reply ∧
      ∃ first items found, reply = .array (first :: items) ∧
        ofReply reply keyStart pageSize withContent = .ok found ∧
        found.IsReadFrom first items keyStart pageSize withContent) := by
  cases hlist : reply.list? with
  | none => exact .inl ⟨.noList hlist, ofReply_of_noList hlist keyStart pageSize withContent⟩
  | some list =>
    obtain rfl := list?_eq_some_iff.1 hlist
    cases list with
    | nil => exact .inl ⟨.empty, _, rfl⟩
    | cons first items =>
      rw [ofReply]
      rcases readTotal_cases first with ⟨hnone, reason, hread⟩ | ⟨total, hcounts, hread⟩
      · exact .inl ⟨.noTotal hnone, reason, by rw [hread]; rfl⟩
      · rcases foldlM_readItem keyStart withContent items [] with
          ⟨hoffends, reason, hitems⟩ | ⟨hsound, hitems⟩
        · refine .inl ⟨.items hoffends, reason, ?_⟩
          rw [hread]
          change (items.foldlM (readItem keyStart withContent) [] >>= _) = _
          rw [hitems]
          rfl
        · refine .inr ⟨?_, first, items, _, rfl, ?_, isReadFrom_of_spans hcounts items _ _ _⟩
          · rintro (h | _ | h | h)
            · contradiction
            · exact h total hcounts
            · exact hsound h
          · rw [List.modifyHead_nil, List.append_nil] at hitems
            refine bind_eq_ok_iff.2 ⟨total, hread, bind_eq_ok_iff.2 ⟨_, hitems, ?_⟩⟩
            rw [List.reverse_reverse]
            rfl

/-- Of two lists behind one key the last counts, and a key without a list has no fields. -/
example :
    ofReply
      (.array [.int 3, .ofText "p:a", .array [.ofText "x", .int 1], .nil,
        .array [.simple "y", .bool true], .okay])
      "p:" 2 true =
      .ok ⟨["a", "OK"], 3, 2, [.ofList [("y", "")], .empty]⟩ := by
  decide +kernel

end Page

end RecordSearch
