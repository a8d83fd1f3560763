/-
# One data source per URL

The data sources of the orgs as the service keeps them, and the server's
operations on them, one call at a time. Creating looks for the URL first, unless
the URL is empty; updating does not look at all. `KeepsUrlsDistinct` is what is
left for the caller to check.

What a listed item carries beyond its id is left open: a URL that is out of date
there can only make the server refuse.
-/

import ByodsServer.Byods.Service
import ByodsServer.Effects.Runs
import Mathlib.Algebra.GroupWithZero.Nat
import Mathlib.Algebra.Order.BigOperators.Group.List
import Mathlib.Algebra.Order.Group.Nat
import Mathlib.Data.List.Nodup

namespace ByodsServer

open Effects Python

/-! ## The service -/

/-- The data sources of one org. -/
structure OrgDataSources where
  records : List DataSource
  ids_nodup : (records.map DataSource.id).Nodup
  ids_ne_empty : ∀ record ∈ records, record.id ≠ ""

namespace OrgDataSources

variable (sources : OrgDataSources)

/-- The record with an id. -/
def get? (id : String) : Option DataSource :=
  sources.records.find? fun record => record.id = id

/-- The org's URLs are pairwise distinct. -/
def UrlsDistinct : Prop := (sources.records.map DataSource.url).Nodup

/-- A new record at the end. -/
def add (record : DataSource) (hfresh : record.id ∉ sources.records.map DataSource.id)
    (hid : record.id ≠ "") : OrgDataSources where
  records := sources.records ++ [record]
  ids_nodup := by
    rw [List.map_append, List.map_singleton, ← List.concat_eq_append]
    exact sources.ids_nodup.concat hfresh
  ids_ne_empty other hother := by
    rcases List.mem_append.mp hother with hother | hother
    · exact sources.ids_ne_empty other hother
    · rwa [List.mem_singleton.mp hother]

/-- The record with an id gets another URL. -/
def setUrl (id url : String) : OrgDataSources where
  records := sources.records.map fun record =>
    if record.id = id then { record with url := url } else record
  ids_nodup := by
    rw [List.map_map]
    convert sources.ids_nodup using 2
    funext record
    dsimp only [Function.comp]
    split <;> rfl
  ids_ne_empty other hother := by
    obtain ⟨record, hrecord, rfl⟩ := List.mem_map.mp hother
    have hid := sources.ids_ne_empty record hrecord
    split
    · exact hid
    · exact hid

/-- The record with an id is gone. -/
def remove (id : String) : OrgDataSources where
  records := sources.records.filter fun record => record.id ≠ id
  ids_nodup := sources.ids_nodup.sublist (List.filter_sublist.map _)
  ids_ne_empty record hrecord :=
    sources.ids_ne_empty record (List.mem_filter.mp hrecord).1

end OrgDataSources

/-- The data sources of every org. -/
abbrev DataSourceRegistry := String → OrgDataSources

/-- In no org do two data sources share their URL. -/
def DataSourceRegistry.UrlsDistinct (registry : DataSourceRegistry) : Prop :=
  ∀ orgId, (registry orgId).UrlsDistinct

/-- What the service decides by itself: how it lists a data source, which carries
its id, and the id of a new one. -/
structure DataSourceService where
  listItem : DataSource → DataSourceListItem
  listItem_id : ∀ record,
    Json.get? ((listItem record).extra.getD []) "id" = some (.str record.id)
  newId : OrgDataSources → DataSourceCreate → String
  newId_fresh : ∀ sources payload, newId sources payload ∉ sources.records.map DataSource.id
  newId_ne_empty : ∀ sources payload, newId sources payload ≠ ""

namespace DataSourceService

variable (service : DataSourceService)

/-- The org's data sources after a creation. -/
def created (sources : OrgDataSources) (payload : DataSourceCreate) : OrgDataSources :=
  sources.add ⟨service.newId sources payload, payload.url⟩ (service.newId_fresh sources payload)
    (service.newId_ne_empty sources payload)

/-- What the service does. An unknown id changes nothing. -/
def handler : Handler byodsCalls PyException DataSourceRegistry
  | .agetClientForOrg _, registry => (.ok (), registry)
  | .alist orgId, registry => (.ok ((registry orgId).records.map service.listItem), registry)
  | .aget orgId id, registry =>
      match (registry orgId).get? id with
      | some record => (.ok record, registry)
      | none => (.error (.notFoundError id), registry)
  | .acreate orgId payload, registry =>
      (.ok ⟨service.newId (registry orgId) payload, payload.url⟩,
        Function.update registry orgId (service.created (registry orgId) payload))
  | .aupdate orgId id payload, registry =>
      match (registry orgId).get? id, payload.url with
      | none, _ => (.error (.notFoundError id), registry)
      | some record, none => (.ok record, registry)
      | some record, some url =>
          (.ok { record with url := url },
            Function.update registry orgId ((registry orgId).setUrl id url))
  | .adelete orgId id, registry =>
      match (registry orgId).get? id with
      | some _ => (.ok (), Function.update registry orgId ((registry orgId).remove id))
      | none => (.error (.notFoundError id), registry)

end DataSourceService

/-! ## The operations -/

/-- The operations that write, each with what it is called with. -/
inductive DataSourceOperation
  | create (orgId : String) (payload : DataSourceCreate)
  | autoRegister (settings : Settings) (uuid orgId : String)
  | update (orgId dataSourceId : String) (payload : DataSourceUpdate)
  | delete (orgId dataSourceId : String)

section Run

variable (repr : Json → String) (lib : UrlLib) (service : DataSourceService)

/-- The registry after one operation, whatever the operation returns or raises. -/
def DataSourceRegistry.step (registry : DataSourceRegistry) :
    DataSourceOperation → DataSourceRegistry
  | .create orgId payload =>
      ((createDataSource repr orgId payload).exec service.handler registry).2
  | .autoRegister settings uuid orgId =>
      ((autoRegisterForOrg repr lib settings uuid orgId).exec service.handler registry).2
  | .update orgId dataSourceId payload =>
      ((updateDataSource orgId dataSourceId payload).exec service.handler registry).2
  | .delete orgId dataSourceId =>
      ((deleteDataSource orgId dataSourceId).exec service.handler registry).2

/-- The registry after a sequence of operations. -/
def DataSourceRegistry.run (registry : DataSourceRegistry)
    (operations : List DataSourceOperation) : DataSourceRegistry :=
  runEvents (DataSourceRegistry.step repr lib service) registry operations

end Run

/-- What the server leaves to its caller: an empty URL is created only where none
is, and an update gives a data source no URL that another one of its org has. -/
def DataSourceOperation.KeepsUrlsDistinct (registry : DataSourceRegistry) :
    DataSourceOperation → Prop
  | .create orgId payload =>
      payload.url = "" → ∀ record ∈ (registry orgId).records, record.url ≠ ""
  | .autoRegister _ _ _ => True
  | .update orgId dataSourceId payload =>
      ∀ url, payload.url = some url →
        ∀ record ∈ (registry orgId).records, record.id = dataSourceId →
        ∀ other ∈ (registry orgId).records, other.id ≠ dataSourceId → other.url ≠ url
  | .delete _ _ => True

/-! ## Records and their URLs -/

namespace OrgDataSources

section Records

variable (sources : OrgDataSources)

theorem nodup : sources.records.Nodup := List.Nodup.of_map _ sources.ids_nodup

/-- Records with the same id are the same. -/
theorem eq_of_id_eq {record other : DataSource} (hrecord : record ∈ sources.records)
    (hother : other ∈ sources.records) (hid : record.id = other.id) : record = other :=
  List.inj_on_of_nodup_map sources.ids_nodup hrecord hother hid

end Records

variable {sources : OrgDataSources}

theorem mem_of_get? {id : String} {record : DataSource} (h : sources.get? id = some record) :
    record ∈ sources.records ∧ record.id = id :=
  ⟨List.mem_of_find?_eq_some h, by simpa using List.find?_some h⟩

theorem get?_of_mem {record : DataSource} (hrecord : record ∈ sources.records) :
    sources.get? record.id = some record := by
  cases h : sources.get? record.id with
  | none => simpa using List.find?_eq_none.mp h record hrecord
  | some found =>
      have hfound := mem_of_get? h
      rw [sources.eq_of_id_eq hfound.1 hrecord hfound.2]

theorem id_ne_of_get?_none {id : String} (h : sources.get? id = none) {record : DataSource}
    (hrecord : record ∈ sources.records) : record.id ≠ id := by
  rintro rfl
  rw [get?_of_mem hrecord] at h
  cases h

theorem urlsDistinct_add_iff (h : sources.UrlsDistinct) {record : DataSource}
    (hfresh : record.id ∉ sources.records.map DataSource.id) (hid : record.id ≠ "") :
    (sources.add record hfresh hid).UrlsDistinct ↔
      ∀ other ∈ sources.records, other.url ≠ record.url := by
  calc (sources.add record hfresh hid).UrlsDistinct
    _ ↔ record.url ∉ sources.records.map DataSource.url ∧ sources.UrlsDistinct := by
        rw [UrlsDistinct, add, List.map_append, List.map_singleton, ← List.concat_eq_append,
          List.nodup_concat, UrlsDistinct]
    _ ↔ record.url ∉ sources.records.map DataSource.url := and_iff_left h
    _ ↔ ∀ other ∈ sources.records, other.url ≠ record.url := by simp

theorem setUrl_urls (id url : String) :
    (sources.setUrl id url).records.map DataSource.url =
      sources.records.map fun record => if record.id = id then url else record.url := by
  rw [setUrl, List.map_map]
  apply List.map_congr_left
  intro record hrecord
  dsimp only [Function.comp]
  split <;> rfl

/-- Two records that end up with one URL are the same, as long as the new URL is
no other record's. -/
theorem urlsDistinct_setUrl_of_unused (h : sources.UrlsDistinct) {id url : String}
    (hunused : ∀ other ∈ sources.records, other.id ≠ id → other.url ≠ url) :
    (sources.setUrl id url).UrlsDistinct := by
  rw [UrlsDistinct, setUrl_urls, List.nodup_map_iff_inj_on sources.nodup]
  intro first hfirst second hsecond hurl
  by_cases hfirstId : first.id = id
  · by_cases hsecondId : second.id = id
    · exact sources.eq_of_id_eq hfirst hsecond (hfirstId.trans hsecondId.symm)
    · rw [if_pos hfirstId, if_neg hsecondId] at hurl
      exact (hunused second hsecond hsecondId hurl.symm).elim
  · by_cases hsecondId : second.id = id
    · rw [if_neg hfirstId, if_pos hsecondId] at hurl
      exact (hunused first hfirst hfirstId hurl).elim
    · rw [if_neg hfirstId, if_neg hsecondId] at hurl
      exact List.inj_on_of_nodup_map h hfirst hsecond hurl

/-- The record with the id now shares its URL with whoever has it. -/
theorem unused_of_urlsDistinct_setUrl {record : DataSource} (hrecord : record ∈ sources.records)
    {url : String} (h : (sources.setUrl record.id url).UrlsDistinct) {other : DataSource}
    (hother : other ∈ sources.records) (hid : other.id ≠ record.id) : other.url ≠ url := by
  intro hurl
  rw [UrlsDistinct, setUrl_urls] at h
  have hsame : record = other :=
    List.inj_on_of_nodup_map h hrecord hother (by rw [if_pos rfl, if_neg hid, hurl])
  exact hid (congrArg DataSource.id hsame.symm)

theorem urlsDistinct_remove (h : sources.UrlsDistinct) (id : String) :
    (sources.remove id).UrlsDistinct :=
  h.sublist (List.filter_sublist.map _)

end OrgDataSources

/-- Only one org is written. -/
theorem DataSourceRegistry.urlsDistinct_update {registry : DataSourceRegistry}
    (h : registry.UrlsDistinct) (orgId : String) (sources : OrgDataSources) :
    DataSourceRegistry.UrlsDistinct (Function.update registry orgId sources) ↔
      sources.UrlsDistinct := by
  rw [DataSourceRegistry.UrlsDistinct,
    Function.forall_update_iff registry fun _ sources => OrgDataSources.UrlsDistinct sources]
  exact and_iff_left fun other _ => h other

/-! ## What each operation does -/

section Operations

variable {repr : Json → String} {lib : UrlLib} {service : DataSourceService}

theorem fetchId?_listItem (record : DataSource) (hid : record.id ≠ "") :
    (service.listItem record).fetchId? repr = some record.id := by
  rw [DataSourceListItem.fetchId?, service.listItem_id]
  simp [Json.truthy, Json.toText, hid]

/-- The fetch of a record that is there. -/
theorem exec_aget {registry : DataSourceRegistry} {orgId : String} {record : DataSource}
    (hrecord : record ∈ (registry orgId).records) :
    (callByods (.aget orgId record.id)).exec service.handler registry = (.ok record, registry) := by
  rw [exec_callByods, DataSourceService.handler, OrgDataSources.get?_of_mem hrecord]
  rfl

/-- The loop changes nothing; when it finds nothing, no listed record has the URL. -/
theorem exec_urlExistsAmong (registry : DataSourceRegistry) (orgId url : String)
    {records : List DataSource} (hrecords : records ⊆ (registry orgId).records) :
    ∃ found, (urlExistsAmong repr orgId url (records.map service.listItem)).exec service.handler
        registry = (.ok found, registry) ∧
      (found = false → ∀ record ∈ records, record.url ≠ url) := by
  induction records with
  | nil => exact ⟨false, rfl, by simp⟩
  | cons record records ih =>
      rw [List.cons_subset] at hrecords
      rw [List.map_cons, urlExistsAmong]
      by_cases hlisted : (service.listItem record).hasUrl url = true
      · rw [if_pos hlisted]
        exact ⟨true, rfl, by simp⟩
      · rw [if_neg hlisted,
          fetchId?_listItem record ((registry orgId).ids_ne_empty record hrecords.1)]
        dsimp only
        rw [Program.exec_bind_of_ok (exec_aget hrecords.1)]
        by_cases hurl : record.url = url
        · rw [if_pos hurl]
          exact ⟨true, rfl, by simp⟩
        · rw [if_neg hurl]
          obtain ⟨found, hexec, hfound⟩ := ih hrecords.2
          exact ⟨found, hexec, fun hnone => List.forall_mem_cons.mpr ⟨hurl, hfound hnone⟩⟩

variable (repr service) in
theorem exec_urlExists (registry : DataSourceRegistry) (orgId url : String) :
    ∃ found, (urlExists repr orgId url).exec service.handler registry = (.ok found, registry) ∧
      (found = false → ∀ record ∈ (registry orgId).records, record.url ≠ url) := by
  rw [urlExists, Program.exec_bind]
  exact exec_urlExistsAmong registry orgId url (List.Subset.refl _)

/-- Creating without a check writes the record, and keeps the URLs distinct exactly
when its URL is new. -/
theorem urlsDistinct_acreate_iff {registry : DataSourceRegistry} (h : registry.UrlsDistinct)
    (orgId : String) (payload : DataSourceCreate) :
    DataSourceRegistry.UrlsDistinct
        ((callByods (.acreate orgId payload)).exec service.handler registry).2 ↔
      ∀ record ∈ (registry orgId).records, record.url ≠ payload.url := by
  rw [exec_callByods, DataSourceService.handler, DataSourceRegistry.urlsDistinct_update h]
  exact OrgDataSources.urlsDistinct_add_iff (h orgId) _ _

theorem exec_agetClientForOrg (registry : DataSourceRegistry) (orgId : String) :
    (callByods (.agetClientForOrg orgId)).exec service.handler registry = (.ok (), registry) :=
  rfl

/-- Without the check, or without a URL, creating is one write. -/
theorem exec_createDataSource_of_unchecked (registry : DataSourceRegistry) (orgId : String)
    {payload : DataSourceCreate} {skipDuplicateCheck : Bool}
    (hcheck : ¬ (!skipDuplicateCheck ∧ payload.url ≠ "")) :
    (createDataSource repr orgId payload skipDuplicateCheck).exec service.handler registry =
      (callByods (.acreate orgId payload)).exec service.handler registry := by
  rw [createDataSource, Program.exec_bind_of_ok (exec_agetClientForOrg registry orgId),
    if_neg hcheck]

/-- With the check, the write follows when the URL is not found. -/
theorem exec_createDataSource_of_checked (registry : DataSourceRegistry) (orgId : String)
    {payload : DataSourceCreate} (hurl : payload.url ≠ "") :
    (createDataSource repr orgId payload).exec service.handler registry =
      (urlExists repr orgId payload.url >>= fun found =>
        if found then
          throw (.duplicateDataSourceURLError
            ("URL already registered for org " ++ orgId ++ ": " ++ payload.url))
        else callByods (.acreate orgId payload)).exec service.handler registry := by
  rw [createDataSource, Program.exec_bind_of_ok (exec_agetClientForOrg registry orgId),
    if_pos ⟨rfl, hurl⟩]

/-- What is written only when its URL is not found keeps the URLs distinct. -/
theorem urlsDistinct_checked {α : Type} {registry : DataSourceRegistry}
    (h : registry.UrlsDistinct) (orgId url : String) {refuse write : ByodsProgram α}
    (hrefuse : (refuse.exec service.handler registry).2 = registry)
    (hwrite : (∀ record ∈ (registry orgId).records, record.url ≠ url) →
      DataSourceRegistry.UrlsDistinct (write.exec service.handler registry).2) :
    DataSourceRegistry.UrlsDistinct
      ((urlExists repr orgId url >>= fun found =>
        if found then refuse else write).exec service.handler registry).2 := by
  obtain ⟨found, hexec, hfound⟩ := exec_urlExists repr service registry orgId url
  rw [Program.exec_bind_of_ok hexec]
  cases found with
  | true =>
      rw [if_pos rfl, hrefuse]
      exact h
  | false =>
      rw [if_neg Bool.false_ne_true]
      exact hwrite (hfound rfl)

theorem urlsDistinct_create_iff {registry : DataSourceRegistry} (h : registry.UrlsDistinct)
    (orgId : String) (payload : DataSourceCreate) :
    DataSourceRegistry.UrlsDistinct
        ((createDataSource repr orgId payload).exec service.handler registry).2 ↔
      (payload.url = "" → ∀ record ∈ (registry orgId).records, record.url ≠ "") := by
  by_cases hempty : payload.url = ""
  · rw [exec_createDataSource_of_unchecked registry orgId fun hcheck => hcheck.2 hempty,
      urlsDistinct_acreate_iff h, hempty]
    exact ⟨fun hnone _ => hnone, fun hnone => hnone rfl⟩
  · rw [exec_createDataSource_of_checked registry orgId hempty]
    refine iff_of_true ?_ fun hurl => (hempty hurl).elim
    apply urlsDistinct_checked h orgId payload.url rfl
    exact (urlsDistinct_acreate_iff h orgId payload).mpr

/-- The registration writes only a URL that it has not found. -/
theorem urlsDistinct_autoRegister {registry : DataSourceRegistry} (h : registry.UrlsDistinct)
    (settings : Settings) (uuid orgId : String) :
    DataSourceRegistry.UrlsDistinct
      ((autoRegisterForOrg repr lib settings uuid orgId).exec service.handler registry).2 := by
  rw [autoRegisterForOrg]
  cases hauto : settings.autoRegisterDatasource with
  | false => exact h
  | true =>
      cases hurl : settings.buildDatasourceUrl lib with
      | error e => exact h
      | ok datasourceUrl =>
          simp only [Bool.not_true, Bool.false_eq_true, if_false, Program.ofExcept_eq,
            Program.finish_bind]
          by_cases hempty : textOrEmpty datasourceUrl = ""
          · rw [if_pos hempty]
            exact h
          · rw [if_neg hempty, Program.exec_bind_of_ok (exec_agetClientForOrg registry orgId)]
            apply urlsDistinct_checked h orgId (textOrEmpty datasourceUrl) rfl
            intro hunused
            rw [Program.exec_bind_pure_state,
              exec_createDataSource_of_unchecked registry orgId fun hcheck => by simp at hcheck,
              urlsDistinct_acreate_iff h]
            exact hunused

theorem urlsDistinct_update_iff {registry : DataSourceRegistry} (h : registry.UrlsDistinct)
    (orgId dataSourceId : String) (payload : DataSourceUpdate) :
    DataSourceRegistry.UrlsDistinct
        ((updateDataSource orgId dataSourceId payload).exec service.handler registry).2 ↔
      ∀ url, payload.url = some url →
        ∀ record ∈ (registry orgId).records, record.id = dataSourceId →
        ∀ other ∈ (registry orgId).records, other.id ≠ dataSourceId → other.url ≠ url := by
  rw [updateDataSource, Program.exec_bind_of_ok (exec_agetClientForOrg registry orgId),
    exec_callByods, DataSourceService.handler]
  cases hget : (registry orgId).get? dataSourceId with
  | none =>
      refine iff_of_true h fun url _ record hrecord hid => ?_
      exact (OrgDataSources.id_ne_of_get?_none hget hrecord hid).elim
  | some found =>
      obtain ⟨hfound, rfl⟩ := OrgDataSources.mem_of_get? hget
      cases hurl : payload.url with
      | none => exact iff_of_true h (by simp)
      | some url =>
          simp only [DataSourceRegistry.urlsDistinct_update h]
          constructor
          · rintro hset _ ⟨⟩ record - - other hother hid
            exact OrgDataSources.unused_of_urlsDistinct_setUrl hfound hset hother hid
          · intro hunused
            exact OrgDataSources.urlsDistinct_setUrl_of_unused (h orgId)
              (hunused url rfl found hfound rfl)

theorem urlsDistinct_delete {registry : DataSourceRegistry} (h : registry.UrlsDistinct)
    (orgId dataSourceId : String) :
    DataSourceRegistry.UrlsDistinct
      ((deleteDataSource orgId dataSourceId).exec service.handler registry).2 := by
  rw [deleteDataSource, Program.exec_bind_of_ok (exec_agetClientForOrg registry orgId),
    exec_callByods, DataSourceService.handler]
  cases (registry orgId).get? dataSourceId with
  | none => exact h
  | some found =>
      simp only [DataSourceRegistry.urlsDistinct_update h]
      exact OrgDataSources.urlsDistinct_remove (h orgId) dataSourceId

/-- One operation keeps the URLs distinct exactly when the caller's part is done. -/
theorem urlsDistinct_step_iff (registry : DataSourceRegistry) (operation : DataSourceOperation)
    (h : registry.UrlsDistinct) :
    DataSourceRegistry.UrlsDistinct (registry.step repr lib service operation) ↔
      operation.KeepsUrlsDistinct registry := by
  cases operation with
  | create orgId payload => exact urlsDistinct_create_iff h orgId payload
  | autoRegister settings uuid orgId =>
      exact iff_of_true (urlsDistinct_autoRegister h settings uuid orgId) trivial
  | update orgId dataSourceId payload => exact urlsDistinct_update_iff h orgId dataSourceId payload
  | delete orgId dataSourceId =>
      exact iff_of_true (urlsDistinct_delete h orgId dataSourceId) trivial

end Operations

/-! ## Every sequence of operations -/

/-- From distinct URLs, the URLs stay distinct after every operation of a sequence
exactly when, at each of them, the caller's part is done. -/
theorem urls_stay_distinct_iff (repr : Json → String) (lib : UrlLib) (service : DataSourceService)
    (start : DataSourceRegistry) (operations : List DataSourceOperation)
    (hstart : start.UrlsDistinct) :
    (∀ before after, operations = before ++ after →
      DataSourceRegistry.UrlsDistinct (start.run repr lib service before)) ↔
    ∀ before operation after, operations = before ++ operation :: after →
      operation.KeepsUrlsDistinct (start.run repr lib service before) :=
  holds_iff_safe (fun registry operation h => urlsDistinct_step_iff registry operation h)
    hstart operations

/-! ## An update onto another data source's URL -/

/-- An id longer than every id in use. -/
def longerId (sources : OrgDataSources) : String :=
  String.ofList (List.replicate ((sources.records.map fun record => record.id.length).sum + 1) '0')

theorem longerId_length (sources : OrgDataSources) :
    (longerId sources).length = (sources.records.map fun record => record.id.length).sum + 1 := by
  simp [longerId]

theorem longerId_fresh (sources : OrgDataSources) :
    longerId sources ∉ sources.records.map DataSource.id := by
  intro hmem
  obtain ⟨record, hrecord, hid⟩ := List.mem_map.mp hmem
  have hle : record.id.length ≤ (sources.records.map fun record => record.id.length).sum :=
    List.le_sum_of_mem (List.mem_map_of_mem hrecord)
  rw [hid, longerId_length] at hle
  omega

/-- A service that lists ids and URLs. -/
def listingService : DataSourceService where
  listItem record := ⟨some [("id", .str record.id), ("url", .str record.url)]⟩
  listItem_id _ := rfl
  newId sources _ := longerId sources
  newId_fresh sources _ := longerId_fresh sources
  newId_ne_empty sources _ hempty := by
    have hlength := longerId_length sources
    rw [hempty] at hlength
    simp at hlength

/-- Two data sources in every org. -/
def twoDataSources : DataSourceRegistry := fun _ =>
  { records := [⟨"ds-1", "https://a.example.com/grpc"⟩, ⟨"ds-2", "https://b.example.com/grpc"⟩]
    ids_nodup := by decide
    ids_ne_empty := by decide }

/-- An update of the second data source's URL. -/
def moveSecond (url : String) : DataSourceOperation :=
  .update "org-1" "ds-2" ⟨none, some url, none, none, none⟩

/-- A library that refuses every address. -/
def plainUrlLib : UrlLib where
  nfkc text := text
  ipVersion _ := .error "not an address"

theorem twoDataSources_urlsDistinct : twoDataSources.UrlsDistinct := by
  intro orgId
  show ["https://a.example.com/grpc", "https://b.example.com/grpc"].Nodup
  decide

theorem urls_stay_distinct_iff_third :
    (∀ before after, [moveSecond "https://c.example.com/grpc"] = before ++ after →
      DataSourceRegistry.UrlsDistinct
        (twoDataSources.run (fun _ => "") plainUrlLib listingService before)) ↔
    ∀ before operation after,
      [moveSecond "https://c.example.com/grpc"] = before ++ operation :: after →
      operation.KeepsUrlsDistinct
        (twoDataSources.run (fun _ => "") plainUrlLib listingService before) :=
  urls_stay_distinct_iff (fun _ => "") plainUrlLib listingService twoDataSources
    [moveSecond "https://c.example.com/grpc"] twoDataSources_urlsDistinct

/-- The update goes through although the first data source has that URL. -/
theorem update_onto_used_url :
    twoDataSources.UrlsDistinct ∧
      ¬ DataSourceRegistry.UrlsDistinct
        (twoDataSources.run (fun _ => "") plainUrlLib listingService
          [moveSecond "https://a.example.com/grpc"]) := by
  refine ⟨twoDataSources_urlsDistinct, fun hdistinct => ?_⟩
  have hurls : ["https://a.example.com/grpc", "https://a.example.com/grpc"].Nodup :=
    hdistinct "org-1"
  exact absurd hurls (by decide)

end ByodsServer
