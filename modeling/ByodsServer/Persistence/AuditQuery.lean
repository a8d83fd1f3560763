/-
# What an audit query returns

The sort key of an audit item begins with the text of a UTC time, so keys are in
the order of the times and a descending query answers the newest events first.
The lower bound of a query is compared as a text too, with its own offset in it:
a bound that is not in UTC is compared by its wall clock reading.
-/

import ByodsServer.Persistence.AuditRepository
import Mathlib.Data.List.Pairwise
import Mathlib.Data.List.Sort

namespace ByodsServer

open Effects Python

/-! ## Sort keys -/

theorem firstDifference_auditKey {a b : UtcDateTime} (h : a.instant < b.instant)
    (orgId other eventId otherId : String) :
    FirstDifference AsciiLt (auditKey orgId a.toDateTime eventId).sk.toList
      (auditKey other b.toDateTime otherId).sk.toList := by
  simp only [auditKey, String.toList_append, List.append_assoc]
  exact ((UtcDateTime.firstDifference_isoformat h).append _ _).prepend _

/-- In one partition the sort keys decide. -/
theorem order_of_sk_lt (pk : String) {sk other : String} (h : sk < other) :
    Key.order ⟨pk, sk⟩ ⟨pk, other⟩ = .lt := by
  have hpk : compare pk pk = .eq := Std.ReflCmp.compare_self
  have hsk : compare sk other = .lt := if_pos h
  simp only [Key.order, compareLex, compareOn, hpk, hsk, Ordering.then]

/-- Events of one organization have keys in the order of their times. -/
theorem order_auditKey {a b : UtcDateTime} (h : a.instant < b.instant)
    (orgId eventId otherId : String) :
    Key.order (auditKey orgId a.toDateTime eventId) (auditKey orgId b.toDateTime otherId) = .lt :=
  order_of_sk_lt (orgPk orgId)
    (firstDifference_auditKey h orgId orgId eventId otherId).lt_string

theorem Key.order_self (key : Key) : Key.order key key = .eq := Std.ReflCmp.compare_self

/-- The items of a table are in the order of their keys. -/
theorem Table.items_sorted (table : Table) :
    table.items.Pairwise fun first second => Key.order first.key second.key = .lt := by
  rw [Table.items, List.pairwise_map]
  exact Std.ExtTreeMap.ordered_keys_toList

/-- A descending query answers its items from the greatest key down. -/
theorem Table.select_descending (table : Table) (pk skPrefix : String) (limit : Option ℕ) :
    (table.select ⟨pk, skPrefix, false, limit⟩).Pairwise fun first second =>
      Key.order second.key first.key = .lt := by
  have hfound : (table.items.filter fun item =>
      item.key.pk = pk && startsWith item.key.sk skPrefix).reverse.Pairwise
        fun first second => Key.order second.key first.key = .lt := by
    rw [List.pairwise_reverse]
    exact table.items_sorted.filter _
  cases limit with
  | none => exact hfound
  | some limit => exact hfound.take

/-- The sort keys of audit items are in the order of the recorded times, as bytes, and
a descending query answers the events of an organization from the newest on. -/
theorem auditKey_orders_by_time :
    (∀ (orgId : String) (a b : UtcDateTime) (x y : String), a.instant < b.instant →
      utf8 (auditKey orgId a.toDateTime x).sk < utf8 (auditKey orgId b.toDateTime y).sk) ∧
    ∀ (table : Table) (orgId : String) (limit : Option ℕ),
      (table.select ⟨orgPk orgId, "AUDIT#", false, limit⟩).Pairwise fun newer older =>
        ∀ (a b : UtcDateTime) (x y : String), newer.key = auditKey orgId a.toDateTime x →
          older.key = auditKey orgId b.toDateTime y → b.instant ≤ a.instant := by
  constructor
  · intro orgId a b x y h
    exact (firstDifference_auditKey h orgId orgId x y).utf8_lt
  · intro table orgId limit
    apply (table.select_descending (orgPk orgId) "AUDIT#" limit).imp
    intro newer older horder a b x y hnewer holder
    by_contra hlater
    have hreverse := order_auditKey (not_le.mp hlater) orgId x y
    rw [hnewer, holder] at horder
    rw [@Std.OrientedCmp.eq_swap _ Key.order, horder] at hreverse
    cases hreverse

/-- A second after noon. -/
def fullSecond : UtcDateTime := ⟨⟨2026, 6, 13, 12, 0, 1, 0, some 0⟩, by decide, rfl⟩

/-- Half a second later. -/
def halfSecond : UtcDateTime := ⟨⟨2026, 6, 13, 12, 0, 1, 500000, some 0⟩, by decide, rfl⟩

/-- The sign of the offset comes before the fraction point. -/
theorem auditKey_orders_by_time_at_full_second :
    utf8 (auditKey "org" fullSecond.toDateTime "ffffffff").sk <
      utf8 (auditKey "org" halfSecond.toDateTime "00000000").sk :=
  auditKey_orders_by_time.1 "org" fullSecond halfSecond "ffffffff" "00000000" (by decide)

/-! ## Recorded events -/

/-- An event that `record_event` recorded, with the expiry it was given. -/
structure RecordedEvent (ttlDays : Int) where
  now : UtcDateTime
  eventId : String
  event : AuditEvent
  expires : Int
  expiresAt_eq : expiresAt now.toDateTime ttlDays = .ok expires

namespace RecordedEvent

variable {ttlDays : Int}

/-- The item of an event. -/
def item (recorded : RecordedEvent ttlDays) : Item :=
  ⟨auditKey recorded.event.orgId recorded.now.toDateTime recorded.eventId,
    auditAttrs recorded.now.toDateTime recorded.expires recorded.event⟩

/-- What an event is listed as. -/
def listed (recorded : RecordedEvent ttlDays) : ListedEvent where
  orgId := recorded.event.orgId
  eventType := recorded.event.eventType.text
  outcome := recorded.event.outcome.text
  timestamp := recorded.now.isoformat
  requestId := optionalText recorded.event.requestId
  detail := optionalText (sanitizeDetail recorded.event.detail)

theorem listedEvent_item (recorded : RecordedEvent ttlDays) (orgId : String) :
    listedEvent orgId recorded.item = recorded.listed := rfl

theorem timestamp_item (recorded : RecordedEvent ttlDays) :
    attrText recorded.item "timestamp" "" = recorded.now.isoformat := rfl

end RecordedEvent

/-- The events are recorded one after the other. -/
def recordAll {ttlDays : Int} (events : List (RecordedEvent ttlDays)) : TableProgram Unit :=
  Program.forEach events fun recorded =>
    recordEvent ttlDays recorded.now.toDateTime recorded.eventId recorded.event

/-- The events of an organization. -/
def eventsOf {ttlDays : Int} (orgId : String) (events : List (RecordedEvent ttlDays)) :
    List (RecordedEvent ttlDays) :=
  events.filter fun recorded => recorded.event.orgId = orgId

/-- Nothing is recorded of an organization yet. -/
def NothingRecorded (table : Table) (orgId : String) : Prop :=
  ∀ item ∈ table.items, item.key.pk = orgPk orgId → startsWith item.key.sk "AUDIT#" = false

/-- No two events happened at the same time. -/
def DistinctTimes {ttlDays : Int} (events : List (RecordedEvent ttlDays)) : Prop :=
  events.Pairwise fun first second => first.now.instant ≠ second.now.instant

section Recorded

variable {ttlDays : Int} {events : List (RecordedEvent ttlDays)} {orgId : String}

theorem exec_recordAll (events : List (RecordedEvent ttlDays)) (table : Table) :
    (recordAll events).exec dynamo table =
      (.ok (), table.insertAll (events.map RecordedEvent.item)) := by
  rw [Table.insertAll, List.foldl_map]
  refine Program.exec_forEach dynamo
    (fun (recorded : RecordedEvent ttlDays) table =>
      table.insert recorded.item.key recorded.item.attrs) ?_ events table
  intro recorded table
  rw [recordEvent, recorded.expiresAt_eq]
  rfl

theorem mem_eventsOf {recorded : RecordedEvent ttlDays} :
    recorded ∈ eventsOf orgId events ↔ recorded ∈ events ∧ recorded.event.orgId = orgId := by
  simp [eventsOf]

/-- The items of an organization are in the order of the times. -/
theorem order_item {first second : RecordedEvent ttlDays}
    (horg : first.event.orgId = second.event.orgId)
    (h : first.now.instant < second.now.instant) :
    Key.order first.item.key second.item.key = .lt := by
  rw [RecordedEvent.item, RecordedEvent.item, horg]
  exact order_auditKey h second.event.orgId first.eventId second.eventId

theorem key_ne_of_instant_ne {first second : RecordedEvent ttlDays}
    (horg : first.event.orgId = second.event.orgId)
    (hne : first.now.instant ≠ second.now.instant) : first.item.key ≠ second.item.key := by
  intro hkey
  rcases lt_or_gt_of_ne hne with hlt | hgt
  · have horder := order_item horg hlt
    rw [hkey, Key.order_self] at horder
    cases horder
  · have horder := order_item horg.symm hgt
    rw [hkey, Key.order_self] at horder
    cases horder

/-- One key, one event. -/
theorem eq_of_key_eq (hdistinct : DistinctTimes (eventsOf orgId events))
    {first second : RecordedEvent ttlDays} (hfirst : first ∈ eventsOf orgId events)
    (hsecond : second ∈ eventsOf orgId events) (hkey : first.item.key = second.item.key) :
    first = second := by
  by_contra hne
  have hsymm : Std.Symm fun first second : RecordedEvent ttlDays =>
      first.now.instant ≠ second.now.instant := ⟨fun _ _ h => h.symm⟩
  have htimes := hdistinct.forall hfirst hsecond hne
  have horg := (mem_eventsOf.mp hfirst).2.trans (mem_eventsOf.mp hsecond).2.symm
  exact key_ne_of_instant_ne horg htimes hkey

/-- An event whose item is in the partition of an organization is one of its events. -/
theorem mem_eventsOf_of_pk {recorded : RecordedEvent ttlDays} (hmem : recorded ∈ events)
    (hpk : recorded.item.key.pk = orgPk orgId) : recorded ∈ eventsOf orgId events :=
  mem_eventsOf.mpr ⟨hmem, orgPk_injective hpk⟩

/-- Each event of the organization is found under its key. -/
theorem getElem?_recorded (table : Table) (hdistinct : DistinctTimes (eventsOf orgId events))
    {recorded : RecordedEvent ttlDays} (hmem : recorded ∈ eventsOf orgId events) :
    (table.insertAll (events.map RecordedEvent.item))[recorded.item.key]? =
      some recorded.item.attrs := by
  obtain ⟨hevent, horg⟩ := mem_eventsOf.mp hmem
  apply Table.getElem?_insertAll_of_mem table (List.mem_map_of_mem hevent)
  intro other hother hkey
  obtain ⟨event, hevent, rfl⟩ := List.mem_map.mp hother
  have hpk : event.item.key.pk = orgPk orgId := by
    rw [hkey, ← horg]
    rfl
  rw [eq_of_key_eq hdistinct (mem_eventsOf_of_pk hevent hpk) hmem hkey]

/-- The audit items of an organization are those of its events. -/
theorem mem_recorded_iff {table : Table} (hstart : NothingRecorded table orgId)
    (hdistinct : DistinctTimes (eventsOf orgId events)) (item : Item) :
    (item ∈ (table.insertAll (events.map RecordedEvent.item)).items ∧
        item.key.pk = orgPk orgId ∧ startsWith item.key.sk "AUDIT#" = true) ↔
      item ∈ (eventsOf orgId events).map RecordedEvent.item := by
  constructor
  · rintro ⟨hmem, hpk, hsk⟩
    rw [Table.mem_items] at hmem
    by_cases hevent : ∃ recorded ∈ events, recorded.item.key = item.key
    · obtain ⟨recorded, hrecorded, hkey⟩ := hevent
      have hof := mem_eventsOf_of_pk hrecorded (hkey ▸ hpk)
      rw [← hkey, getElem?_recorded table hdistinct hof] at hmem
      have hattrs : recorded.item.attrs = item.attrs := Option.some.inj hmem
      have hitem : recorded.item = item := by
        cases item
        exact congrArg₂ Item.mk hkey hattrs
      exact hitem ▸ List.mem_map_of_mem hof
    · have hother : ∀ other ∈ events.map RecordedEvent.item, other.key ≠ item.key := by
        intro other hother hkey
        obtain ⟨recorded, hrecorded, rfl⟩ := List.mem_map.mp hother
        exact hevent ⟨recorded, hrecorded, hkey⟩
      rw [Table.getElem?_insertAll_of_not_mem table hother, ← Table.mem_items] at hmem
      rw [hstart item hmem hpk] at hsk
      cases hsk
  · intro hmem
    obtain ⟨recorded, hrecorded, rfl⟩ := List.mem_map.mp hmem
    refine ⟨Table.mem_items.mpr (getElem?_recorded table hdistinct hrecorded), ?_, ?_⟩
    · exact congrArg orgPk (mem_eventsOf.mp hrecorded).2
    · show startsWith ("AUDIT#" ++ recorded.now.isoformat ++ "#" ++ recorded.eventId) "AUDIT#" =
        true
      rw [String.append_assoc, String.append_assoc]
      exact startsWith_append _ _

end Recorded

/-! ## Cutting and filtering -/

/-- What is kept comes first, so it may as well be cut before it is filtered. -/
theorem take_filter_of_closed {α : Type} {p : α → Bool} {xs : List α}
    (h : xs.Pairwise fun first second => p second = true → p first = true) (length : ℕ) :
    (xs.filter p).take length = (xs.take length).filter p := by
  induction xs generalizing length with
  | nil => simp
  | cons x xs ih =>
      obtain ⟨hx, hxs⟩ := List.pairwise_cons.mp h
      cases length with
      | zero => rfl
      | succ length =>
          by_cases hp : p x = true
          · rw [List.filter_cons_of_pos hp, List.take_succ_cons, List.take_succ_cons,
              List.filter_cons_of_pos hp, ih hxs]
          · have hnone : ∀ y ∈ xs, ¬ p y = true := fun y hy hpy => hp (hx y hy hpy)
            rw [List.filter_cons_of_neg hp, List.take_succ_cons, List.filter_cons_of_neg hp,
              ← ih hxs, List.filter_eq_nil_iff.mpr hnone, List.take_nil, List.take_nil]

/-- Two filters of which one keeps what the other keeps agree when they keep equally many. -/
theorem filter_agree_of_length {α : Type} {p q : α → Bool} (hle : ∀ x, p x = true → q x = true)
    {xs : List α} (h : (xs.filter p).length = (xs.filter q).length) :
    ∀ x ∈ xs, (p x = true ↔ q x = true) := by
  have hsame : xs.filter p = xs.filter q := (List.monotone_filter_right xs hle).eq_of_length h
  intro x hx
  have hmem : x ∈ xs.filter p ↔ x ∈ xs.filter q := by rw [hsame]
  simpa [hx] using hmem

/-! ## The newest events -/

/-- The events from the newest on. -/
def newestFirst {ttlDays : Int} (events : List (RecordedEvent ttlDays)) :
    List (RecordedEvent ttlDays) :=
  events.insertionSort fun newer older => older.now.instant ≤ newer.now.instant

/-- What an audit query is for: of the events at or after `since`, the newest ones. -/
def newestSince {ttlDays : Int} (limit : ℕ) (since : Option AwareDateTime)
    (events : List (RecordedEvent ttlDays)) : List (RecordedEvent ttlDays) :=
  ((newestFirst events).filter fun recorded =>
    since.all fun since => since.instant ≤ recorded.now.instant).take limit

section Newest

variable {ttlDays : Int} {events : List (RecordedEvent ttlDays)} {orgId : String}

theorem mem_newestFirst {recorded : RecordedEvent ttlDays} :
    recorded ∈ newestFirst events ↔ recorded ∈ events :=
  List.mem_insertionSort _

theorem newestFirst_sorted (events : List (RecordedEvent ttlDays)) :
    (newestFirst events).Pairwise fun newer older => older.now.instant ≤ newer.now.instant := by
  have htotal : Std.Total fun newer older : RecordedEvent ttlDays =>
      older.now.instant ≤ newer.now.instant := ⟨fun _ _ => le_total _ _⟩
  have htrans : IsTrans (RecordedEvent ttlDays) fun newer older =>
      older.now.instant ≤ newer.now.instant := ⟨fun _ _ _ hab hbc => hbc.trans hab⟩
  exact List.pairwise_insertionSort _ events

/-- At distinct times the order is strict. -/
theorem newestFirst_strict (hdistinct : DistinctTimes events) :
    (newestFirst events).Pairwise fun newer older => older.now.instant < newer.now.instant := by
  have hsymm : Std.Symm fun first second : RecordedEvent ttlDays =>
      first.now.instant ≠ second.now.instant := ⟨fun _ _ h => h.symm⟩
  have hne : (newestFirst events).Pairwise fun first second =>
      first.now.instant ≠ second.now.instant :=
    (List.perm_insertionSort _ events).symm.pairwise hdistinct Ne.symm
  exact (newestFirst_sorted events).imp₂ (fun _ _ hle hne => lt_of_le_of_ne hle hne.symm) hne

/-- What the descending query asks for, before it is cut. -/
theorem select_recorded {table : Table} (hstart : NothingRecorded table orgId)
    (hdistinct : DistinctTimes (eventsOf orgId events)) (limit : ℕ) :
    (table.insertAll (events.map RecordedEvent.item)).select
        ⟨orgPk orgId, "AUDIT#", false, some limit⟩ =
      ((newestFirst (eventsOf orgId events)).map RecordedEvent.item).take limit := by
  apply congrArg (List.take limit)
  have hirrefl : Std.Irrefl fun first second : Item => Key.order second.key first.key = .lt := by
    constructor
    intro item h
    rw [Key.order_self] at h
    cases h
  have hasymm : Std.Antisymm fun first second : Item => Key.order second.key first.key = .lt := by
    constructor
    intro first second hfirst hsecond
    rw [@Std.OrientedCmp.eq_swap _ Key.order, hsecond] at hfirst
    cases hfirst
  have hnewest : ((newestFirst (eventsOf orgId events)).map RecordedEvent.item).Pairwise
      fun first second => Key.order second.key first.key = .lt := by
    rw [List.pairwise_map]
    apply (newestFirst_strict hdistinct).imp_of_mem
    intro newer older hnewer holder hlt
    have horg {recorded : RecordedEvent ttlDays}
        (hmem : recorded ∈ newestFirst (eventsOf orgId events)) : recorded.event.orgId = orgId :=
      (mem_eventsOf.mp (mem_newestFirst.mp hmem)).2
    exact order_item ((horg holder).trans (horg hnewer).symm) hlt
  refine (Table.select_descending _ (orgPk orgId) "AUDIT#" none).eq_of_mem_iff hnewest ?_
  intro item
  have hmem := mem_recorded_iff hstart hdistinct item
  simp only [List.mem_map, mem_newestFirst] at hmem ⊢
  rw [← hmem, Table.select]
  simp

end Newest

/-! ## The lower bound -/

section Since

variable {ttlDays : Int} {events : List (RecordedEvent ttlDays)} {orgId : String}

/-- Is the event kept by the code? -/
def keptBy (since : AwareDateTime) (recorded : RecordedEvent ttlDays) : Bool :=
  since.isoformat ≤ recorded.now.isoformat

/-- What `list_events` returns of recorded events. -/
theorem exec_listEvents {table : Table} (hstart : NothingRecorded table orgId)
    (hdistinct : DistinctTimes (eventsOf orgId events)) (limit : ℕ)
    (since : Option AwareDateTime) :
    ((recordAll events >>= fun _ => listEvents orgId limit since).exec dynamo table).1 =
      .ok ((((newestFirst (eventsOf orgId events)).take limit).filter fun recorded =>
        since.all fun since => keptBy since recorded).map RecordedEvent.listed) := by
  rw [Program.exec_bind, exec_recordAll]
  show ((listEvents orgId limit since).exec dynamo _).1 = _
  rw [listEvents, Program.exec_bind, exec_query_dynamo, select_recorded hstart hdistinct,
    ← List.map_take]
  have hlisted : listedEvent orgId ∘ RecordedEvent.item =
      (RecordedEvent.listed : RecordedEvent ttlDays → ListedEvent) := by
    funext recorded
    exact recorded.listedEvent_item orgId
  cases since with
  | none =>
      have hall : ((newestFirst (eventsOf orgId events)).take limit).filter (fun _ => true) =
          (newestFirst (eventsOf orgId events)).take limit := List.filter_true _
      simp only [Option.all_none, hall]
      apply congrArg Except.ok
      rw [List.map_map, hlisted]
  | some since =>
      have hkept : (fun item => decide (since.isoformat ≤ attrText item "timestamp" "")) ∘
          RecordedEvent.item = (keptBy since : RecordedEvent ttlDays → Bool) := by
        funext recorded
        simp only [Function.comp_apply, recorded.timestamp_item]
        rfl
      apply congrArg Except.ok
      simp only [List.filter_map, List.map_map, hlisted, hkept, Option.all_some]

/-- `newestSince` may cut first and filter then. -/
theorem newestSince_eq (limit : ℕ) (since : Option AwareDateTime)
    (events : List (RecordedEvent ttlDays)) :
    newestSince limit since events =
      ((newestFirst events).take limit).filter fun recorded =>
        since.all fun since => since.instant ≤ recorded.now.instant := by
  apply take_filter_of_closed
  apply (newestFirst_sorted events).imp
  intro newer older hle
  cases since with
  | none => exact id
  | some since => simpa using fun h => le_trans h hle

/-- `list_events` returns the newest events at or after `since` exactly when none of the
newest `limit` events lies between `since` and its wall clock reading taken as UTC. -/
theorem listEvents_eq_newestSince_iff (table : Table) (events : List (RecordedEvent ttlDays))
    (orgId : String) (limit : ℕ) (since : Option AwareDateTime)
    (hstart : NothingRecorded table orgId)
    (hdistinct : DistinctTimes (eventsOf orgId events)) :
    ((recordAll events >>= fun _ => listEvents orgId limit since).exec dynamo table).1 =
        .ok ((newestSince limit since (eventsOf orgId events)).map RecordedEvent.listed) ↔
      ∀ bound ∈ since, ∀ recorded ∈ (newestFirst (eventsOf orgId events)).take limit,
        ¬ bound.BetweenReadings recorded.now.instant := by
  rw [exec_listEvents hstart hdistinct, newestSince_eq]
  cases since with
  | none => simp
  | some since =>
      have hkept (recorded : RecordedEvent ttlDays) :
          keptBy since recorded = true ↔ since.isoformat ≤ recorded.now.isoformat :=
        decide_eq_true_iff
      have hlate (recorded : RecordedEvent ttlDays) :
          decide (since.instant ≤ recorded.now.instant) = true ↔
            since.instant ≤ recorded.now.instant :=
        decide_eq_true_iff
      simp only [Option.all_some, Option.mem_some_iff, forall_eq', Except.ok.injEq]
      constructor
      · intro hsame recorded hmem
        have hlength := congrArg List.length hsame
        rw [List.length_map, List.length_map] at hlength
        have hagree : keptBy since recorded = true ↔
            decide (since.instant ≤ recorded.now.instant) = true := by
          rcases le_or_gt 0 since.offset with heast | hwest
          · apply filter_agree_of_length _ hlength recorded hmem
            intro other hother
            exact (hlate other).mpr (AwareDateTime.instant_le_of_isoformat_le heast
              ((hkept other).mp hother))
          · symm
            apply filter_agree_of_length _ hlength.symm recorded hmem
            intro other hother
            exact (hkept other).mpr (AwareDateTime.isoformat_le_of_instant_le hwest
              ((hlate other).mp hother))
        rw [← since.isoformat_le_iff_instant_le_iff, ← hkept, hagree, hlate]
      · intro h
        apply congrArg
        apply List.filter_congr
        intro recorded hmem
        rw [Bool.eq_iff_iff, hkept, hlate, since.isoformat_le_iff_instant_le_iff]
        exact h recorded hmem

end Since

/-- An event of the organization at a second after noon, in UTC. -/
def recordedAtNoon : RecordedEvent 90 where
  now := fullSecond
  eventId := "0a1b2c3d"
  event := ⟨"org", .authorized, .success, none, none⟩
  expires := 1789128001
  expiresAt_eq := by decide

/-- One o'clock, two hours east of Greenwich: an hour before the event. -/
def sinceEast : AwareDateTime :=
  ⟨⟨2026, 6, 13, 13, 0, 0, 0, none⟩, 7200 * 1000000, by decide, by decide⟩

theorem nothingRecorded_empty (orgId : String) : NothingRecorded ∅ orgId := by
  intro item hmem
  cases Table.mem_items.mp hmem

/-- Asked since noon in UTC, the query answers the event. -/
theorem listEvents_eq_newestSince_utc :
    ((recordAll [recordedAtNoon] >>= fun _ => listEvents "org" 20
        (some ⟨⟨2026, 6, 13, 12, 0, 0, 0, none⟩, 0, by decide, by decide⟩)).exec dynamo ∅).1 =
      .ok ((newestSince 20 (some ⟨⟨2026, 6, 13, 12, 0, 0, 0, none⟩, 0, by decide, by decide⟩)
        (eventsOf "org" [recordedAtNoon])).map RecordedEvent.listed) :=
  (listEvents_eq_newestSince_iff ∅ [recordedAtNoon] "org" 20 _ (nothingRecorded_empty "org")
    (List.pairwise_singleton _ _)).mpr (by decide)

/-- An event an hour after the bound is left out, because the bound reads later. -/
theorem listEvents_leaves_out_since_east :
    NothingRecorded ∅ "org" ∧ DistinctTimes (eventsOf "org" [recordedAtNoon]) ∧
      ((recordAll [recordedAtNoon] >>= fun _ => listEvents "org" 20 (some sinceEast)).exec
        dynamo ∅).1 = .ok [] ∧
      (newestSince 20 (some sinceEast) (eventsOf "org" [recordedAtNoon])).map
        RecordedEvent.listed = [recordedAtNoon.listed] := by
  refine ⟨nothingRecorded_empty "org", List.pairwise_singleton _ _, ?_, ?_⟩
  · decide
  · decide

end ByodsServer
