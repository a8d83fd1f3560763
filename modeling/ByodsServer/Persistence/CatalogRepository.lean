/-
# The catalog in the shared table

`DynamoDBCatalogRepository` call by call: a listing is one query, a write deletes
the listed items one by one, puts the new ones one by one and finally puts META.
The timestamp of a write is an argument.

`Stores` and `StoresWithin` say which entries the AGENT# items of a table stand
for, whenever they were written; every later statement about a listing goes
through them.
-/

import ByodsServer.Byova.Catalog
import ByodsServer.Persistence.Client
import ByodsServer.Python.DateTime

namespace ByodsServer

open Effects Python

/-- `CATALOG_PK`. -/
def catalogPk : String := "CATALOG"

/-- The key of the item of an agent. -/
def agentKey (virtualAgentId : String) : Key := ⟨catalogPk, "AGENT#" ++ virtualAgentId⟩

/-- The key of the META item. -/
def metaKey : Key := ⟨catalogPk, "META"⟩

/-- The query for all agents. -/
def agentQuery : QueryArgs where
  pk := catalogPk
  skPrefix := "AGENT#"

/-- The attributes of the item of an agent. -/
def agentAttrs (now : DateTime) (entry : VirtualAgentCatalogEntry) : Attrs :=
  [("virtual_agent_id", .str entry.virtualAgentId),
   ("virtual_agent_name", .str entry.virtualAgentName),
   ("is_default", .bool entry.isDefault),
   ("updated_at", .str now.isoformat)]

/-- The item of an agent. -/
def agentItem (now : DateTime) (entry : VirtualAgentCatalogEntry) : Item :=
  ⟨agentKey entry.virtualAgentId, agentAttrs now entry⟩

/-- The META item. -/
def metaItem (now : DateTime) (entryCount : ℕ) (seededFromFile : Bool) : Item :=
  ⟨metaKey,
   [("entry_count", .int entryCount),
    ("updated_at", .str now.isoformat),
    ("seeded_from_file", .bool seededFromFile)]⟩

/-- Read an entry back from an item. -/
def entryOfItem (item : Item) : Except PyException VirtualAgentCatalogEntry := do
  let virtualAgentId ← item.get "virtual_agent_id"
  let virtualAgentName ← item.get "virtual_agent_name"
  return ⟨virtualAgentId.toText, virtualAgentName.toText,
    ((item.get? "is_default").getD (.bool false)).truthy⟩

/-! ## The repository's methods -/

/-- What `_list_from_table` makes of the items of a query. -/
def entriesOfItems (items : List Item) : Except PyException (List VirtualAgentCatalogEntry) := do
  let entries ← items.mapM entryOfItem
  if entries.isEmpty then
    .error (.catalogLoadError "Catalog is empty in DynamoDB")
  else do
    validateCatalogEntries entries
    return entries

/-- `_list_from_table`. -/
def listFromTable : TableProgram (List VirtualAgentCatalogEntry) := do
  let response ← query agentQuery
  Program.ofExcept (entriesOfItems response.items)

/-- `list_agents`. -/
def listAgents : TableProgram (List VirtualAgentCatalogEntry) := listFromTable

/-- `_write_entries` after the validation. -/
def overwriteEntries (now : DateTime) (entries : List VirtualAgentCatalogEntry)
    (seededFromFile : Bool) : TableProgram Unit := do
  let existing ← query agentQuery
  Program.forEach existing.items fun item => deleteItem item.key
  Program.forEach entries fun entry => putItem (agentItem now entry)
  putItem (metaItem now entries.length seededFromFile)

/-- `_write_entries`. -/
def writeEntries (now : DateTime) (entries : List VirtualAgentCatalogEntry)
    (seededFromFile : Bool := false) : TableProgram Unit := do
  Program.ofExcept (validateCatalogEntries entries)
  overwriteEntries now entries seededFromFile

/-- `ensure_seeded`. -/
def ensureSeeded (json : JsonLib) (seed : SeedFile) (now : DateTime) : TableProgram Unit := do
  let stored ← getItem metaKey
  match stored with
  | some _ => pure ()
  | none =>
      match loadCatalog json seed with
      | .error (.catalogLoadError _) => pure ()
      | .error e => throw e
      | .ok entries => writeEntries now entries true

/-- The entries without those of an id. -/
def withoutAgent (virtualAgentId : String) (entries : List VirtualAgentCatalogEntry) :
    List VirtualAgentCatalogEntry :=
  entries.filter fun entry => entry.virtualAgentId ≠ virtualAgentId

/-- Leaving out an id changes nothing exactly when no entry has it. -/
theorem length_withoutAgent_eq_iff {virtualAgentId : String}
    {entries : List VirtualAgentCatalogEntry} :
    (withoutAgent virtualAgentId entries).length = entries.length ↔
      virtualAgentId ∉ entries.map VirtualAgentCatalogEntry.virtualAgentId := by
  rw [withoutAgent, List.length_filter_eq_length_iff]
  simp

/-- `save_agent`. -/
def saveAgent (now : DateTime) (entry : VirtualAgentCatalogEntry) : TableProgram Unit := do
  let entries ← listFromTable
  writeEntries now (withoutAgent entry.virtualAgentId entries ++ [entry])

/-- `remove_agent`. -/
def removeAgent (now : DateTime) (virtualAgentId : String) : TableProgram Unit := do
  let entries ← listFromTable
  let updated := withoutAgent virtualAgentId entries
  if updated.length = entries.length then
    throw (.catalogRepositoryError ("Agent not found: " ++ virtualAgentId))
  else
    writeEntries now updated

/-- `replace_all`. -/
def replaceAll (now : DateTime) (entries : List VirtualAgentCatalogEntry) :
    TableProgram Unit :=
  writeEntries now entries

theorem listFromTable_reads :
    listFromTable.Uses fun request => TableCall.isWrite request = false :=
  (query_reads agentQuery).bind fun _ => trivial

/-- Seeding keeps what its write keeps. -/
theorem maintains_ensureSeeded {paging : Paging} {P : Table → Prop} {now : DateTime}
    (hwrite : ∀ entries, (writeEntries now entries true).Maintains (perform paging) P)
    (json : JsonLib) (seed : SeedFile) :
    (ensureSeeded json seed now).Maintains (perform paging) P := by
  refine (maintains_of_reads (getItem_reads metaKey)).bind fun stored => ?_
  cases stored with
  | some item => exact Program.maintains_finish _
  | none =>
      dsimp only
      split
      · exact Program.maintains_finish _
      · exact Program.maintains_finish _
      · exact hwrite _

/-! ## What the agent items stand for -/

/-- The keys the agent query selects. -/
def isAgentKey (key : Key) : Bool :=
  key.pk = agentQuery.pk && startsWith key.sk agentQuery.skPrefix

/-- The items the agent query selects. -/
def Table.agentItems (table : Table) : List Item := table.select agentQuery

/-- The agent items are exactly the given entries, whenever each was written. -/
structure Stores (table : Table) (entries : List VirtualAgentCatalogEntry) : Prop where
  present : ∀ entry ∈ entries, ∃ now,
    table[agentKey entry.virtualAgentId]? = some (agentAttrs now entry)
  absent : ∀ key, isAgentKey key = true →
    (∀ entry ∈ entries, key ≠ agentKey entry.virtualAgentId) → table[key]? = none

/-- Every agent item is one of the given entries, whenever it was written. -/
def StoresWithin (table : Table) (entries : List VirtualAgentCatalogEntry) : Prop :=
  ∀ key attrs, isAgentKey key = true → table[key]? = some attrs →
    ∃ entry ∈ entries, ∃ now, key = agentKey entry.virtualAgentId ∧ attrs = agentAttrs now entry

theorem agentKey_injective : Function.Injective agentKey := by
  intro first second h
  have hsk : "AGENT#" ++ first = "AGENT#" ++ second := congrArg Key.sk h
  rw [← String.toList_inj] at hsk ⊢
  simpa using hsk

@[simp]
theorem isAgentKey_agentKey (virtualAgentId : String) :
    isAgentKey (agentKey virtualAgentId) = true := by
  simp [isAgentKey, agentKey, agentQuery]

@[simp]
theorem isAgentKey_metaKey : isAgentKey metaKey = false := by decide

@[simp]
theorem agentItem_key (now : DateTime) (entry : VirtualAgentCatalogEntry) :
    (agentItem now entry).key = agentKey entry.virtualAgentId := rfl

@[simp]
theorem agentItem_attrs (now : DateTime) (entry : VirtualAgentCatalogEntry) :
    (agentItem now entry).attrs = agentAttrs now entry := rfl

@[simp]
theorem metaItem_key (now : DateTime) (entryCount : ℕ) (seededFromFile : Bool) :
    (metaItem now entryCount seededFromFile).key = metaKey := rfl

/-- An item is read back as the entry it was written for. -/
@[simp]
theorem entryOfItem_agentItem (now : DateTime) (entry : VirtualAgentCatalogEntry) :
    entryOfItem (agentItem now entry) = .ok entry := rfl

/-- The attributes written for an entry determine it. -/
theorem agentAttrs_inj {now now' : DateTime} {entry entry' : VirtualAgentCatalogEntry}
    (h : agentAttrs now entry = agentAttrs now' entry') : entry = entry' := by
  cases entry
  cases entry'
  simp_all [agentAttrs]

theorem Table.mem_agentItems {table : Table} {item : Item} :
    item ∈ table.agentItems ↔
      isAgentKey item.key = true ∧ table[item.key]? = some item.attrs := by
  simp only [agentItems, select, agentQuery, if_true, List.mem_filter, mem_items, isAgentKey]
  exact And.comm

theorem Table.agentItems_pairwise_key (table : Table) :
    table.agentItems.Pairwise fun first second => first.key ≠ second.key := by
  simpa only [agentItems, select, agentQuery, if_true] using table.items_pairwise_key.filter _

theorem Table.agentItems_eq_nil {table : Table}
    (h : ∀ key, isAgentKey key = true → table[key]? = none) : table.agentItems = [] := by
  rw [List.eq_nil_iff_forall_not_mem]
  intro item hitem
  obtain ⟨hkey, hstored⟩ := mem_agentItems.mp hitem
  rw [h _ hkey] at hstored
  cases hstored

theorem Stores.storesWithin {table : Table} {entries : List VirtualAgentCatalogEntry}
    (h : Stores table entries) : StoresWithin table entries := by
  intro key attrs hkey hstored
  by_contra hnone
  have habsent : ∀ entry ∈ entries, key ≠ agentKey entry.virtualAgentId := by
    rintro entry hentry rfl
    obtain ⟨now, hnow⟩ := h.present entry hentry
    exact hnone ⟨entry, hentry, now, rfl, Option.some.inj (hstored.symm.trans hnow)⟩
  rw [h.absent key hkey habsent] at hstored
  cases hstored

/-- Items of known entries are all read back, as those entries. -/
theorem StoresWithin.mapM_entryOfItem {table : Table}
    {entries : List VirtualAgentCatalogEntry} (h : StoresWithin table entries) :
    ∃ listed, table.agentItems.mapM entryOfItem = .ok listed ∧
      (listed.map VirtualAgentCatalogEntry.virtualAgentId).Nodup ∧
      ∀ entry, entry ∈ listed ↔ entry ∈ entries ∧
        ∃ now, table[agentKey entry.virtualAgentId]? = some (agentAttrs now entry) := by
  have hread (items : List Item) (hpairwise : items.Pairwise fun first second =>
        first.key ≠ second.key)
      (hitems : ∀ item ∈ items, ∃ entry ∈ entries, ∃ now, item = agentItem now entry) :
      ∃ listed, items.mapM entryOfItem = .ok listed ∧
        (listed.map VirtualAgentCatalogEntry.virtualAgentId).Nodup ∧
        ∀ entry, entry ∈ listed ↔ entry ∈ entries ∧ ∃ now, agentItem now entry ∈ items := by
    induction items with
    | nil => exact ⟨[], rfl, List.nodup_nil, by simp⟩
    | cons item items ih =>
        obtain ⟨entry, hentry, now, rfl⟩ := hitems item List.mem_cons_self
        rw [List.pairwise_cons] at hpairwise
        obtain ⟨listed, hlisted, hnodup, hmem⟩ := ih hpairwise.2
          fun other hother => hitems other (List.mem_cons_of_mem _ hother)
        refine ⟨entry :: listed, ?_, ?_, fun other => ?_⟩
        · rw [List.mapM_cons, entryOfItem_agentItem, hlisted]
          rfl
        · rw [List.map_cons, List.nodup_cons]
          refine ⟨fun hin => ?_, hnodup⟩
          obtain ⟨other, hother, hid⟩ := List.mem_map.mp hin
          obtain ⟨-, now', hitem⟩ := (hmem other).mp hother
          exact hpairwise.1 _ hitem (by simp [hid])
        · rw [List.mem_cons, hmem]
          constructor
          · rintro (rfl | ⟨hin, now', hitem⟩)
            · exact ⟨hentry, now, List.mem_cons_self⟩
            · exact ⟨hin, now', List.mem_cons_of_mem _ hitem⟩
          · rintro ⟨hin, now', hitem⟩
            rcases List.mem_cons.mp hitem with heq | hitem
            · exact Or.inl (agentAttrs_inj (congrArg Item.attrs heq))
            · exact Or.inr ⟨hin, now', hitem⟩
  obtain ⟨listed, hlisted, hnodup, hmem⟩ := hread table.agentItems
    table.agentItems_pairwise_key fun item hitem => by
      obtain ⟨hkey, hstored⟩ := Table.mem_agentItems.mp hitem
      obtain ⟨entry, hentry, now, hid, hattrs⟩ := h item.key item.attrs hkey hstored
      exact ⟨entry, hentry, now, by cases item; simp_all [agentItem]⟩
  exact ⟨listed, hlisted, hnodup, fun entry => by simp [hmem, Table.mem_agentItems]⟩

/-! ## What a listing returns -/

theorem exec_listAgents (table : Table) :
    listAgents.exec dynamo table = (entriesOfItems table.agentItems, table) := rfl

@[simp]
theorem entriesOfItems_nil :
    entriesOfItems [] = .error (.catalogLoadError "Catalog is empty in DynamoDB") := rfl

/-- Once some agent is stored and all stored agents come from one valid catalog,
listing succeeds. -/
theorem StoresWithin.entriesOfItems_eq_ok {table : Table} {catalog : Catalog}
    (h : StoresWithin table catalog.entries) (hsome : table.agentItems ≠ []) :
    ∃ listed, entriesOfItems table.agentItems = .ok listed ∧ ValidCatalog listed ∧
      ∀ entry, entry ∈ listed ↔ entry ∈ catalog.entries ∧
        ∃ now, table[agentKey entry.virtualAgentId]? = some (agentAttrs now entry) := by
  obtain ⟨listed, hread, hnodup, hmem⟩ := h.mapM_entryOfItem
  have hne : listed ≠ [] := by
    obtain ⟨item, hitem⟩ := List.exists_mem_of_ne_nil _ hsome
    obtain ⟨hkey, hstored⟩ := Table.mem_agentItems.mp hitem
    obtain ⟨entry, hentry, now, hid, hattrs⟩ := h item.key item.attrs hkey hstored
    exact List.ne_nil_of_mem ((hmem entry).mpr ⟨hentry, now, by rw [← hid, hstored, hattrs]⟩)
  have hvalid := catalog.valid.of_subset hne hnodup fun entry hentry =>
    ((hmem entry).mp hentry).1
  refine ⟨listed, ?_, hvalid, hmem⟩
  simp [entriesOfItems, hread, hne, (validateCatalogEntries_eq_ok_iff listed).mpr hvalid,
    bind, Except.bind, pure, Except.pure]

/-- A stored catalog is listed, in some order. -/
theorem Stores.listAgents_perm {table : Table} {catalog : Catalog}
    (h : Stores table catalog.entries) :
    ∃ listed, (listAgents.exec dynamo table).1 = .ok listed ∧ listed.Perm catalog.entries := by
  have hsome : table.agentItems ≠ [] := by
    obtain ⟨entry, hentry⟩ := List.exists_mem_of_ne_nil _ catalog.valid.nonempty
    obtain ⟨now, hnow⟩ := h.present entry hentry
    have hitem : agentItem now entry ∈ table.agentItems :=
      Table.mem_agentItems.mpr ⟨isAgentKey_agentKey _, hnow⟩
    exact List.ne_nil_of_mem hitem
  obtain ⟨listed, hlisted, hvalid, hmem⟩ := h.storesWithin.entriesOfItems_eq_ok hsome
  refine ⟨listed, by rw [exec_listAgents]; exact hlisted, ?_⟩
  rw [List.perm_ext_iff_of_nodup (hvalid.ids_nodup.of_map _) (catalog.valid.ids_nodup.of_map _)]
  exact fun entry => (hmem entry).trans ⟨And.left, fun hentry => ⟨hentry, h.present entry hentry⟩⟩

/-- The keys of the agent items are those of the stored entries. -/
theorem Stores.agentKeys_perm {table : Table} {catalog : Catalog}
    (h : Stores table catalog.entries) :
    (table.agentItems.map Item.key).Perm
      (catalog.entries.map fun entry => agentKey entry.virtualAgentId) := by
  have hnodup : (table.agentItems.map Item.key).Nodup :=
    List.pairwise_map.mpr table.agentItems_pairwise_key
  have hnodup' : (catalog.entries.map fun entry => agentKey entry.virtualAgentId).Nodup := by
    rw [← Function.comp_def agentKey, ← List.map_map]
    exact catalog.valid.ids_nodup.map agentKey_injective
  rw [List.perm_ext_iff_of_nodup hnodup hnodup']
  intro key
  simp only [List.mem_map]
  constructor
  · intro hitem
    obtain ⟨item, hitem, rfl⟩ := hitem
    obtain ⟨hkey, hstored⟩ := Table.mem_agentItems.mp hitem
    obtain ⟨entry, hentry, now, hid, -⟩ := h.storesWithin item.key item.attrs hkey hstored
    exact ⟨entry, hentry, hid.symm⟩
  · intro hentry
    obtain ⟨entry, hentry, rfl⟩ := hentry
    obtain ⟨now, hnow⟩ := h.present entry hentry
    exact ⟨agentItem now entry, Table.mem_agentItems.mpr ⟨isAgentKey_agentKey _, hnow⟩, rfl⟩

/-- A stored catalog has one item for each entry. -/
theorem Stores.length_agentItems {table : Table} {catalog : Catalog}
    (h : Stores table catalog.entries) : table.agentItems.length = catalog.entries.length := by
  simpa using h.agentKeys_perm.length_eq

/-- What is stored does not depend on the order of the entries. -/
theorem Stores.of_mem_iff {table : Table} {entries others : List VirtualAgentCatalogEntry}
    (h : Stores table entries) (hsame : ∀ entry, entry ∈ others ↔ entry ∈ entries) :
    Stores table others where
  present entry hentry := h.present entry ((hsame entry).mp hentry)
  absent key hkey hnone := h.absent key hkey fun entry hentry =>
    hnone entry ((hsame entry).mpr hentry)

/-- The META item counts that many entries. -/
def CountedAs (table : Table) (entryCount : ℕ) : Prop :=
  ∃ attrs, table[metaKey]? = some attrs ∧ attrs.lookup "entry_count" = some (.int entryCount)

/-- The agent items are exactly the given entries, and META counts them. -/
structure StoresCounted (table : Table) (entries : List VirtualAgentCatalogEntry) : Prop
    extends Stores table entries where
  counted : CountedAs table entries.length

theorem StoresCounted.of_perm {table : Table} {entries others : List VirtualAgentCatalogEntry}
    (h : StoresCounted table entries) (hperm : entries.Perm others) :
    StoresCounted table others where
  toStores := h.toStores.of_mem_iff fun _ => hperm.symm.mem_iff
  counted := hperm.length_eq ▸ h.counted

/-! ## What a write leaves -/

/-- The table after putting the items of some entries one by one. -/
def Table.putEntries (table : Table) (now : DateTime)
    (entries : List VirtualAgentCatalogEntry) : Table :=
  table.insertAll (entries.map (agentItem now))

/-- The table after deleting some listed items and putting some entries and META. -/
def Table.rewrite (table : Table) (listed : List Item) (now : DateTime)
    (entries : List VirtualAgentCatalogEntry) (seededFromFile : Bool) : Table :=
  ((table.eraseAll listed).putEntries now entries).insert metaKey
    (metaItem now entries.length seededFromFile).attrs

/-- The table after a complete write. -/
def Table.overwrite (table : Table) (now : DateTime) (entries : List VirtualAgentCatalogEntry)
    (seededFromFile : Bool) : Table :=
  ((table.eraseAll table.agentItems).putEntries now entries).insert metaKey
    (metaItem now entries.length seededFromFile).attrs

@[simp]
theorem metaKey_ne_agentKey (virtualAgentId : String) : metaKey ≠ agentKey virtualAgentId := by
  intro heq
  simpa [← heq] using isAgentKey_agentKey virtualAgentId

theorem Table.getElem?_putEntries_of_mem (table : Table) (now : DateTime)
    {entries : List VirtualAgentCatalogEntry} {entry : VirtualAgentCatalogEntry}
    (hnodup : (entries.map VirtualAgentCatalogEntry.virtualAgentId).Nodup)
    (hentry : entry ∈ entries) :
    (table.putEntries now entries)[agentKey entry.virtualAgentId]? =
      some (agentAttrs now entry) := by
  have hitem : agentItem now entry ∈ entries.map (agentItem now) := List.mem_map_of_mem hentry
  refine getElem?_insertAll_of_mem _ hitem ?_
  intro other hother hkey
  obtain ⟨entry', hentry', rfl⟩ := List.mem_map.mp hother
  rw [List.inj_on_of_nodup_map hnodup hentry' hentry (agentKey_injective hkey)]

theorem Table.getElem?_putEntries_of_not_mem (table : Table) (now : DateTime)
    {entries : List VirtualAgentCatalogEntry} {key : Key}
    (h : ∀ entry ∈ entries, key ≠ agentKey entry.virtualAgentId) :
    (table.putEntries now entries)[key]? = table[key]? := by
  refine getElem?_insertAll_of_not_mem _ ?_
  intro item hitem hkey
  obtain ⟨entry, hentry, rfl⟩ := List.mem_map.mp hitem
  exact h entry hentry hkey.symm

/-- The agent items on the first page of the query for them. -/
def Paging.firstAgents (paging : Paging) (table : Table) : List Item :=
  (pageAt (paging.queryPages agentQuery table.agentItems) 0).items

theorem exec_overwriteEntries_paging (paging : Paging) (now : DateTime)
    (entries : List VirtualAgentCatalogEntry) (seededFromFile : Bool) (table : Table) :
    (overwriteEntries now entries seededFromFile).exec (perform paging) table =
      (.ok (), table.rewrite (paging.firstAgents table) now entries seededFromFile) := by
  simp only [overwriteEntries, Program.exec_bind, exec_query, Program.andThen_ok]
  rw [exec_forEach_deleteItem, Program.andThen_ok, Program.exec_bind, exec_forEach_putItem]
  rfl

theorem exec_writeEntries_paging (paging : Paging) (now : DateTime) (catalog : Catalog)
    (seededFromFile : Bool) (table : Table) :
    (writeEntries now catalog.entries seededFromFile).exec (perform paging) table =
      (.ok (), table.rewrite (paging.firstAgents table) now catalog.entries seededFromFile) := by
  rw [writeEntries, catalog.validate, Program.ofExcept_eq, Program.finish_bind,
    exec_overwriteEntries_paging]

theorem exec_writeEntries (now : DateTime) (catalog : Catalog) (seededFromFile : Bool)
    (table : Table) :
    (writeEntries now catalog.entries seededFromFile).exec dynamo table =
      (.ok (), table.overwrite now catalog.entries seededFromFile) :=
  exec_writeEntries_paging Paging.single now catalog seededFromFile table

/-- A list that does not pass the validation is not written. -/
theorem exec_writeEntries_of_invalid {entries : List VirtualAgentCatalogEntry}
    (h : ¬ ValidCatalog entries) (now : DateTime) (seededFromFile : Bool) (table : Table) :
    ∃ message, (writeEntries now entries seededFromFile).exec dynamo table =
      (.error (.catalogLoadError message), table) := by
  cases hchecked : validateCatalogEntries entries with
  | ok _ => exact (h ((validateCatalogEntries_eq_ok_iff entries).mp hchecked)).elim
  | error e =>
      obtain ⟨message, rfl⟩ := validateCatalogEntries_error hchecked
      refine ⟨message, ?_⟩
      rw [writeEntries, hchecked]
      rfl

/-- Once META is there, seeding does nothing. -/
theorem exec_ensureSeeded_of_meta (paging : Paging) {table : Table}
    (hmeta : table[metaKey]? ≠ none) (json : JsonLib) (seed : SeedFile) (now : DateTime) :
    (ensureSeeded json seed now).exec (perform paging) table = (.ok (), table) := by
  obtain ⟨attrs, hattrs⟩ := Option.ne_none_iff_exists'.mp hmeta
  rw [ensureSeeded, Program.exec_bind, exec_getItem, Program.andThen_ok, Table.item?, hattrs]
  rfl

/-- Without META, seeding writes what the seed file holds. -/
theorem exec_ensureSeeded_of_loaded {table : Table} (hmeta : table[metaKey]? = none)
    {json : JsonLib} {seed : SeedFile} {entries : List VirtualAgentCatalogEntry}
    (hload : loadCatalog json seed = .ok entries) (now : DateTime) :
    (ensureSeeded json seed now).exec dynamo table =
      (.ok (), table.overwrite now entries true) := by
  rw [ensureSeeded, Program.exec_bind, dynamo, exec_getItem, Program.andThen_ok, Table.item?,
    hmeta, Option.map_none]
  dsimp only
  rw [hload]
  exact exec_writeEntries now ⟨entries, loadCatalog_valid hload⟩ true table

section Overwrite

variable (table : Table) (listed : List Item) (now : DateTime) (seededFromFile : Bool)

theorem Table.rewrite_meta (entries : List VirtualAgentCatalogEntry) :
    (table.rewrite listed now entries seededFromFile)[metaKey]? =
      some (metaItem now entries.length seededFromFile).attrs := by
  rw [rewrite, getElem?_insert, if_pos rfl]

theorem Table.rewrite_agent (catalog : Catalog) {entry : VirtualAgentCatalogEntry}
    (hentry : entry ∈ catalog.entries) :
    (table.rewrite listed now catalog.entries seededFromFile)[agentKey entry.virtualAgentId]? =
      some (agentAttrs now entry) := by
  rw [rewrite, getElem?_insert, if_neg (metaKey_ne_agentKey _)]
  exact getElem?_putEntries_of_mem _ _ catalog.valid.ids_nodup hentry

/-- Under the key of any other agent there is what there was, unless it was
listed. -/
theorem Table.rewrite_other {entries : List VirtualAgentCatalogEntry} {key : Key}
    (hagent : isAgentKey key = true)
    (hother : ∀ entry ∈ entries, key ≠ agentKey entry.virtualAgentId) :
    (table.rewrite listed now entries seededFromFile)[key]? =
      if key ∈ listed.map Item.key then none else table[key]? := by
  have hmeta : metaKey ≠ key := fun heq => by simp [← heq] at hagent
  rw [rewrite, getElem?_insert, if_neg hmeta, getElem?_putEntries_of_not_mem _ _ hother,
    getElem?_eraseAll]

theorem Table.getElem?_eraseAll_agentItems (key : Key) :
    (table.eraseAll table.agentItems)[key]? = if isAgentKey key then none else table[key]? := by
  rw [getElem?_eraseAll]
  by_cases hkey : isAgentKey key = true
  · rw [if_pos hkey]
    split_ifs with hmem
    · rfl
    · -- A key that was not listed holds nothing.
      cases hstored : table[key]? with
      | none => rfl
      | some attrs =>
          exact (hmem (List.mem_map.mpr
            ⟨⟨key, attrs⟩, mem_agentItems.mpr ⟨hkey, hstored⟩, rfl⟩)).elim
  · rw [if_neg hkey, if_neg]
    rintro hmem
    obtain ⟨item, hitem, rfl⟩ := List.mem_map.mp hmem
    exact hkey (mem_agentItems.mp hitem).1

theorem Table.overwrite_of_not_agent {entries : List VirtualAgentCatalogEntry} {key : Key}
    (hagent : isAgentKey key = false) (hmeta : key ≠ metaKey) :
    (table.overwrite now entries seededFromFile)[key]? = table[key]? := by
  rw [overwrite, getElem?_insert, if_neg hmeta.symm, getElem?_putEntries_of_not_mem,
    getElem?_eraseAll_agentItems, if_neg (by simp [hagent])]
  intro entry _ hkey
  simp [hkey] at hagent

theorem Table.overwrite_stores (catalog : Catalog) :
    Stores (table.overwrite now catalog.entries seededFromFile) catalog.entries where
  present _ hentry := ⟨now, table.rewrite_agent table.agentItems now seededFromFile catalog hentry⟩
  absent key hkey hnone := by
    refine (table.rewrite_other table.agentItems now seededFromFile hkey hnone).trans ?_
    rw [← getElem?_eraseAll, getElem?_eraseAll_agentItems, if_pos hkey]

/-- A complete write of a catalog stores and counts it. -/
theorem Table.overwrite_storesCounted (catalog : Catalog) :
    StoresCounted (table.overwrite now catalog.entries seededFromFile) catalog.entries where
  toStores := table.overwrite_stores now seededFromFile catalog
  counted := ⟨_, table.rewrite_meta table.agentItems now seededFromFile catalog.entries, rfl⟩

end Overwrite

end ByodsServer
