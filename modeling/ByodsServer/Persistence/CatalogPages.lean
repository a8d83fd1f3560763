/-
# The catalog and the pages of a query

The repository reads the first page of the agent query and goes by it: a listing
returns the agents on it, and a write deletes those. What a write leaves on a
later page stays, unless one of its own puts replaces it. The catalog is read
and rewritten completely exactly when nothing is left to a later page.
-/

import ByodsServer.Effects.Raising
import ByodsServer.Persistence.CatalogSeeding

namespace ByodsServer

open Effects Python

/-! ## The first page -/

/-- The agent items on its later pages. -/
def Paging.laterAgents (paging : Paging) (table : Table) : List Item :=
  (paging.queryPages agentQuery table.agentItems).tail.flatten

variable {paging : Paging} {table : Table}

theorem firstAgents_append_laterAgents (paging : Paging) (table : Table) :
    paging.firstAgents table ++ paging.laterAgents table = table.agentItems := by
  have hflatten := paging.query_flatten agentQuery table.agentItems
  unfold Paging.firstAgents Paging.laterAgents
  cases hpages : paging.queryPages agentQuery table.agentItems with
  | nil =>
      rw [hpages] at hflatten
      exact hflatten
  | cons page pages =>
      rw [hpages] at hflatten
      exact hflatten

theorem mem_agentItems_of_later {item : Item} (h : item ∈ paging.laterAgents table) :
    item ∈ table.agentItems := by
  rw [← firstAgents_append_laterAgents paging table]
  exact List.mem_append_right _ h

/-- No key is on the first page and on a later one. -/
theorem key_ne_of_first_of_later {first later : Item} (hfirst : first ∈ paging.firstAgents table)
    (hlater : later ∈ paging.laterAgents table) : first.key ≠ later.key := by
  have hpairwise := table.agentItems_pairwise_key
  rw [← firstAgents_append_laterAgents paging table, List.pairwise_append] at hpairwise
  exact hpairwise.2.2 first hfirst later hlater

/-- Nothing is left to a later page exactly when the first one has everything. -/
theorem laterAgents_eq_nil_iff :
    paging.laterAgents table = [] ↔ paging.firstAgents table = table.agentItems := by
  rw [← firstAgents_append_laterAgents paging table, List.self_eq_append_right]

theorem exec_listFromTable (paging : Paging) (table : Table) :
    listFromTable.exec (perform paging) table =
      (entriesOfItems (paging.firstAgents table), table) := rfl

/-! ## A write that has listed the first page -/

/-- A write leaves exactly its entries when it replaces all that is on later
pages. -/
theorem Table.rewrite_stores_iff (now : DateTime) (seededFromFile : Bool) (paging : Paging)
    (table : Table) (catalog : Catalog) :
    Stores (table.rewrite (paging.firstAgents table) now catalog.entries seededFromFile)
        catalog.entries ↔
      ∀ item ∈ paging.laterAgents table, ∃ entry ∈ catalog.entries,
        item.key = agentKey entry.virtualAgentId := by
  constructor
  · intro h item hitem
    by_contra hnone
    push Not at hnone
    obtain ⟨hagent, hstored⟩ := mem_agentItems.mp (mem_agentItems_of_later hitem)
    have hunlisted : item.key ∉ (paging.firstAgents table).map Item.key := by
      intro hmem
      obtain ⟨first, hfirst, hkey⟩ := List.mem_map.mp hmem
      exact key_ne_of_first_of_later hfirst hitem hkey
    have hkept := table.rewrite_other (paging.firstAgents table) now seededFromFile hagent hnone
    rw [if_neg hunlisted, hstored, h.absent item.key hagent hnone] at hkept
    cases hkept
  · intro hlater
    refine ⟨fun entry hentry => ⟨now, rewrite_agent _ _ _ _ catalog hentry⟩,
      fun key hagent hnone => ?_⟩
    rw [rewrite_other _ _ _ _ hagent hnone]
    split_ifs with hlisted
    · rfl
    · cases hstored : table[key]? with
      | none => rfl
      | some attrs =>
          -- It would be on a later page, so some entry would replace it.
          have hitem : (⟨key, attrs⟩ : Item) ∈ table.agentItems :=
            mem_agentItems.mpr ⟨hagent, hstored⟩
          rw [← firstAgents_append_laterAgents paging table, List.mem_append] at hitem
          rcases hitem with hfirst | hitem
          · exact absurd (List.mem_map_of_mem hfirst) hlisted
          · obtain ⟨entry, hentry, hkey⟩ := hlater _ hitem
            exact absurd hkey (hnone entry hentry)

/-! ## Complete reads and rewrites -/

/-- Reading items one by one keeps their number. -/
theorem length_of_entriesOfItems {items : List Item} {entries : List VirtualAgentCatalogEntry}
    (h : entriesOfItems items = .ok entries) : entries.length = items.length := by
  unfold entriesOfItems at h
  obtain ⟨read, hread, hchecked⟩ := (bind_eq_ok_iff _ _ _).mp h
  have hsame : read = entries := by
    split_ifs at hchecked
    obtain ⟨-, -, hreturned⟩ := (bind_eq_ok_iff _ _ _).mp hchecked
    exact Except.ok.inj hreturned
  rw [← hsame]
  exact (mapM_eq_ok_iff.mp hread).length_eq.symm

/-- The catalog is read and rewritten completely: a listing returns every agent
once, and a mutation that returns leaves exactly its new list, which it does
whenever that list is valid. -/
structure CompleteCatalog (paging : Paging) (table : Table)
    (entries : List VirtualAgentCatalogEntry) : Prop where
  listed : ∃ listed, listAgents.exec (perform paging) table = (.ok listed, table) ∧
    listed.Perm entries
  left : ∀ now (mutation : Mutation) final,
    (mutation.program now).exec (perform paging) table = (.ok (), final) →
      ∃ new, mutation.newEntries entries = .ok new ∧ Stores final new
  accepted : ∀ now (mutation : Mutation) new, mutation.newEntries entries = .ok new →
    ValidCatalog new → ∃ final,
      (mutation.program now).exec (perform paging) table = (.ok (), final)

/-- A write that returns has passed the validation. -/
theorem valid_of_exec_writeEntries {now : DateTime} {entries : List VirtualAgentCatalogEntry}
    {seededFromFile : Bool} {final : Table}
    (h : (writeEntries now entries seededFromFile).exec (perform paging) table = (.ok (), final)) :
    ValidCatalog entries := by
  cases hchecked : validateCatalogEntries entries with
  | ok _ => exact (validateCatalogEntries_eq_ok_iff entries).mp hchecked
  | error e =>
      rw [writeEntries, hchecked] at h
      cases h

/-- With everything on the first page, a mutation of a stored catalog does what
its new list says. -/
theorem exec_mutation_of_one_page {catalog : Catalog} (h : Stores table catalog.entries)
    (hpage : paging.firstAgents table = table.agentItems) (now : DateTime) (mutation : Mutation) :
    (∃ new others, mutation.newEntries catalog.entries = .ok new ∧ others.Perm new ∧
      (mutation.program now).exec (perform paging) table =
        (writeEntries now others).exec (perform paging) table) ∨
    ∃ e, mutation.newEntries catalog.entries = .error e ∧
      (mutation.program now).exec (perform paging) table = (.error e, table) := by
  obtain ⟨listed, hlisted, hperm⟩ := h.listAgents_perm
  rw [exec_listAgents, ← hpage] at hlisted
  have hlist : listFromTable.exec (perform paging) table = (.ok listed, table) :=
    (exec_listFromTable paging table).trans (Prod.ext hlisted rfl)
  rw [Mutation.exec_program_of_listFromTable hlist now mutation]
  rcases mutation.newEntries_perm hperm with
    ⟨others, new, hothers, hnew, hsame⟩ | ⟨message, hlistedError, herror⟩
  · rw [Mutation.afterListing_eq hothers]
    exact Or.inl ⟨new, others, hnew, hsame, rfl⟩
  · rw [Mutation.afterListing, hlistedError]
    exact Or.inr ⟨_, herror, rfl⟩

/-- A stored catalog is read and rewritten completely exactly when nothing of it
is left to a later page. -/
theorem completeCatalog_iff {catalog : Catalog} (h : Stores table catalog.entries) :
    CompleteCatalog paging table catalog.entries ↔ paging.laterAgents table = [] := by
  constructor
  · intro hcomplete
    obtain ⟨listed, hlisted, hperm⟩ := hcomplete.listed
    have hlength : listed.length = (paging.firstAgents table).length :=
      length_of_entriesOfItems (congrArg Prod.fst hlisted)
    rw [hperm.length_eq, ← h.length_agentItems, ← firstAgents_append_laterAgents paging table,
      List.length_append] at hlength
    exact List.length_eq_zero_iff.mp (by omega)
  · intro hlater
    have hpage := laterAgents_eq_nil_iff.mp hlater
    have hnothing (entries : List VirtualAgentCatalogEntry) :
        ∀ item ∈ paging.laterAgents table, ∃ entry ∈ entries,
          item.key = agentKey entry.virtualAgentId := by
      rw [hlater]
      exact fun _ hitem => (nomatch hitem)
    obtain ⟨listed, hlisted, hperm⟩ := h.listAgents_perm
    rw [exec_listAgents, ← hpage] at hlisted
    refine ⟨⟨listed, Prod.ext hlisted rfl, hperm⟩, fun now mutation final hfinal => ?_,
      fun now mutation new hnew hvalid => ?_⟩
    · rcases exec_mutation_of_one_page h hpage now mutation with
        ⟨new, others, hnew, hsame, hexec⟩ | ⟨e, -, hexec⟩
      · rw [hexec] at hfinal
        have hvalid := valid_of_exec_writeEntries hfinal
        have hstores := (table.rewrite_stores_iff now false paging ⟨others, hvalid⟩).mpr
          (hnothing others)
        rw [exec_writeEntries_paging paging now ⟨others, hvalid⟩] at hfinal
        obtain rfl := congrArg Prod.snd hfinal
        exact ⟨new, hnew, hstores.of_mem_iff fun _ => hsame.symm.mem_iff⟩
      · rw [hexec] at hfinal
        cases hfinal
    · rcases exec_mutation_of_one_page h hpage now mutation with
        ⟨new', others, hnew', hsame, hexec⟩ | ⟨e, herror, -⟩
      · rw [hnew] at hnew'
        obtain rfl := Except.ok.inj hnew'
        exact ⟨_, hexec.trans
          (exec_writeEntries_paging paging now ⟨others, hvalid.perm hsame.symm⟩ false table)⟩
      · rw [hnew] at herror
        cases herror

/-! ## A second page -/

/-- The two agents of the leftover table. -/
def leftoverCatalog : Catalog :=
  ⟨[⟨"alpha", "Alpha", false⟩, ⟨"omega", "Omega", false⟩], by decide⟩

theorem leftoverTable_stores : Stores leftoverTable leftoverCatalog.entries where
  present entry hentry :=
    ⟨noon, Table.getElem?_putEntries_of_mem ∅ noon leftoverCatalog.valid.ids_nodup hentry⟩
  absent key _ hnone := by
    have hempty : (∅ : Table)[key]? = none := Std.ExtTreeMap.getElem?_empty
    rw [← hempty]
    exact Table.getElem?_putEntries_of_not_mem ∅ noon hnone

theorem completeCatalog_leftover :
    CompleteCatalog Paging.single leftoverTable leftoverCatalog.entries :=
  (completeCatalog_iff leftoverTable_stores).mpr rfl

/-- With one item a page, a listing returns the first agent only, and a
replacement keeps the second one. -/
theorem second_page_overlooked :
    Stores leftoverTable leftoverCatalog.entries ∧
      (listAgents.exec (perform oneItemPages) leftoverTable).1 =
        .ok [⟨"alpha", "Alpha", false⟩] ∧
      ((replaceAll noon [greeter]).exec (perform oneItemPages) leftoverTable).1 = .ok () ∧
      (((replaceAll noon [greeter]).exec (perform oneItemPages)
        leftoverTable).2[agentKey "omega"]?).isSome = true ∧
      ¬ CompleteCatalog oneItemPages leftoverTable leftoverCatalog.entries := by
  have hlisted : (listAgents.exec (perform oneItemPages) leftoverTable).1 =
      .ok [⟨"alpha", "Alpha", false⟩] := by decide
  refine ⟨leftoverTable_stores, hlisted, by decide, by decide, fun hcomplete => ?_⟩
  obtain ⟨listed, hall, hperm⟩ := hcomplete.listed
  rw [hall] at hlisted
  obtain rfl := Except.ok.inj hlisted
  exact absurd hperm.length_eq (by decide)

end ByodsServer
