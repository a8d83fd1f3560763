/-
# Two concurrent catalog writers

Two mutations that have both computed their new list write it call by call, in
any order. When the two lists carry the same ids and differ in at most one agent,
every interleaving leaves one of them; otherwise some interleaving mixes them.

The positive half is a set of obligations, one for each key: an id that both
lists carry is put again after every delete of it, a stale id is deleted by
whoever still sees it, and META is put last. The negative half builds the bad
interleavings out of whole stretches of one writer.
-/

import ByodsServer.Persistence.CatalogWrites

namespace ByodsServer

open Effects Python

/-! ## One writer's calls -/

/-- A writer that has computed and validated its new list. -/
structure CatalogWriter where
  now : DateTime
  catalog : Catalog

namespace CatalogWriter

variable (writer : CatalogWriter)

/-- What the writer has still to do. -/
def program : TableProgram Unit := writeEntries writer.now writer.catalog.entries

/-- The part of the write after the deletes. -/
def fill : TableProgram Unit := do
  Program.forEach writer.catalog.entries fun entry => putItem (agentItem writer.now entry)
  putItem (metaItem writer.now writer.catalog.entries.length false)

/-- The part of the write after the query. -/
def clearAndFill (existing : Page) : TableProgram Unit := do
  Program.forEach existing.items fun item => deleteItem item.key
  writer.fill

theorem program_eq : writer.program = (query agentQuery >>= writer.clearAndFill) :=
  writeEntries_eq writer.now writer.catalog false

/-- What the puts are bound to do, the writer is bound to do. -/
theorem program_ensures {wanted : TableCall → Prop} (h : writer.fill.Ensures wanted) :
    writer.program.Ensures wanted :=
  writeEntries_ensures writer.now writer.catalog false h

end CatalogWriter

/-- Two writers about to write to the same table. -/
def concurrentWrites (table : Table) (first second : CatalogWriter) :
    Pool tableCalls PyException Unit Bool Table :=
  Pool.duo false table first.program second.program

/-! ## What two writers should leave -/

/-- The table lists exactly one of the two new lists, and META counts it. -/
structure LastWriteWins (first second : List VirtualAgentCatalogEntry) (table : Table) :
    Prop where
  entries : Stores table first ∨ Stores table second
  entryCount : Holds metaKey
    (fun attrs => attrs.lookup "entry_count" = some (.int table.agentItems.length)) table
  listed : ∃ listed, (listAgents.exec dynamo table).1 = .ok listed

/-- The two lists carry the same ids and at most one of their agents differs. -/
structure DifferInAtMostOne (first second : List VirtualAgentCatalogEntry) : Prop where
  same_ids : ∀ virtualAgentId,
    virtualAgentId ∈ first.map VirtualAgentCatalogEntry.virtualAgentId ↔
      virtualAgentId ∈ second.map VirtualAgentCatalogEntry.virtualAgentId
  differ_once : ∀ entry ∈ first, ∀ other ∈ first, entry ∉ second → other ∉ second → entry = other

/-- Lists with the same ids are equally long. -/
theorem length_eq_of_same_ids {first second : Catalog}
    (h : ∀ virtualAgentId,
      virtualAgentId ∈ first.entries.map VirtualAgentCatalogEntry.virtualAgentId ↔
        virtualAgentId ∈ second.entries.map VirtualAgentCatalogEntry.virtualAgentId) :
    first.entries.length = second.entries.length := by
  have hperm := (List.perm_ext_iff_of_nodup first.valid.ids_nodup second.valid.ids_nodup).mpr h
  simpa using hperm.length_eq

/-! ## Interleavings that end well -/

section Settled

variable (table : Table) (first second : CatalogWriter)

/-- What either writer puts for an id. -/
def WrittenFor (virtualAgentId : String) (attrs : Attrs) : Prop :=
  ∃ now entry, (entry ∈ first.catalog.entries ∨ entry ∈ second.catalog.entries) ∧
    entry.virtualAgentId = virtualAgentId ∧ attrs = agentAttrs now entry

/-- An id in both lists ends up with what one of the writers put for it. -/
theorem holds_of_common_id {virtualAgentId : String}
    (hfirst : virtualAgentId ∈ first.catalog.entries.map VirtualAgentCatalogEntry.virtualAgentId)
    (hsecond : virtualAgentId ∈ second.catalog.entries.map VirtualAgentCatalogEntry.virtualAgentId)
    (schedule : List Bool)
    (hsettled : ((concurrentWrites table first second).runSchedule dynamo schedule).Settled) :
    Holds (agentKey virtualAgentId) (WrittenFor first second virtualAgentId)
      ((concurrentWrites table first second).runSchedule dynamo schedule).state := by
  have hwriter (writer : CatalogWriter)
      (hmem : virtualAgentId ∈
        writer.catalog.entries.map VirtualAgentCatalogEntry.virtualAgentId)
      (hsub : ∀ entry ∈ writer.catalog.entries,
        entry ∈ first.catalog.entries ∨ entry ∈ second.catalog.entries) :
      writer.fill.Ensures (Puts (agentKey virtualAgentId)
          (WrittenFor first second virtualAgentId)) ∧
        writer.program.Restores
          (Spoils (agentKey virtualAgentId) (WrittenFor first second virtualAgentId))
          (Puts (agentKey virtualAgentId) (WrittenFor first second virtualAgentId)) := by
    obtain ⟨entry, hentry, rfl⟩ := List.mem_map.mp hmem
    have haccepted : WrittenFor first second entry.virtualAgentId (agentAttrs writer.now entry) :=
      ⟨writer.now, entry, hsub entry hentry, rfl, rfl⟩
    exact ⟨fillEntries_ensures_entry hentry haccepted,
      writeEntries_restores_entry _ _ _ hentry haccepted⟩
  have hleft := hwriter first hfirst fun _ => Or.inl
  have hright := hwriter second hsecond fun _ => Or.inr
  apply (puts_obligation Paging.single _ _).settled_of_owed _ schedule hsettled
  refine ⟨Pool.duo_forall false table hleft.2 hright.2, Or.inr ⟨false, ?_⟩⟩
  exact first.program_ensures hleft.1

/-- When both lists are equally long, META ends up counting them. -/
theorem holds_meta
    (hlength : first.catalog.entries.length = second.catalog.entries.length)
    (schedule : List Bool)
    (hsettled : ((concurrentWrites table first second).runSchedule dynamo schedule).Settled) :
    Holds metaKey (Counts first.catalog.entries.length)
      ((concurrentWrites table first second).runSchedule dynamo schedule).state := by
  have haccepted (writer : CatalogWriter)
      (hcount : writer.catalog.entries.length = first.catalog.entries.length) :
      Counts first.catalog.entries.length
        (metaItem writer.now writer.catalog.entries.length false).attrs := by
    rw [hcount]
    rfl
  apply (puts_obligation Paging.single _ _).settled_of_owed _ schedule hsettled
  refine ⟨Pool.duo_forall false table (writeEntries_restores_meta _ _ _ (haccepted first rfl))
    (writeEntries_restores_meta _ _ _ (haccepted second hlength.symm)), Or.inr ⟨false, ?_⟩⟩
  exact first.program_ensures (fillEntries_ensures_meta (haccepted first rfl))

/-- An agent key in neither list ends up empty. -/
theorem absent_of_stale_key {key : Key} (hkey : isAgentKey key = true)
    (hfirst : ∀ entry ∈ first.catalog.entries, key ≠ agentKey entry.virtualAgentId)
    (hsecond : ∀ entry ∈ second.catalog.entries, key ≠ agentKey entry.virtualAgentId)
    (schedule : List Bool)
    (hsettled : ((concurrentWrites table first second).runSchedule dynamo schedule).Settled) :
    ((concurrentWrites table first second).runSchedule dynamo schedule).state[key]? = none := by
  apply (deletesListed_obligation key agentQuery
    (exists_mem_select_agentQuery hkey)).settled_of_owed _ schedule hsettled
  refine ⟨Pool.duo_forall false table (writeEntries_not_puts _ _ _ hkey hfirst)
    (writeEntries_not_puts _ _ _ hkey hsecond), Or.inr ⟨false, Or.inl ?_⟩⟩
  exact writeEntries_deletesListed _ _ _ key

/-- A key of no agent in a list is of none in a list with no other ids. -/
theorem not_agentKey_of_ids_subset {one two : List VirtualAgentCatalogEntry} {key : Key}
    (hids : ∀ virtualAgentId, virtualAgentId ∈ one.map VirtualAgentCatalogEntry.virtualAgentId →
      virtualAgentId ∈ two.map VirtualAgentCatalogEntry.virtualAgentId)
    (hnone : ∀ entry ∈ two, key ≠ agentKey entry.virtualAgentId) :
    ∀ entry ∈ one, key ≠ agentKey entry.virtualAgentId := by
  intro entry hentry hkey
  obtain ⟨other, hother, hid⟩ := List.mem_map.mp (hids _ (List.mem_map_of_mem hentry))
  exact hnone other hother (hid ▸ hkey)

variable {first second} in
/-- A table with what one of the writers put under every id, and with no other agents,
stores one of the lists when they differ in at most one agent. -/
theorem stores_of_written
    (h : DifferInAtMostOne first.catalog.entries second.catalog.entries) {final : Table}
    (hwritten : ∀ entry ∈ first.catalog.entries, Holds (agentKey entry.virtualAgentId)
      (WrittenFor first second entry.virtualAgentId) final)
    (hstale : ∀ key, isAgentKey key = true →
      (∀ entry ∈ first.catalog.entries, key ≠ agentKey entry.virtualAgentId) →
      (∀ entry ∈ second.catalog.entries, key ≠ agentKey entry.virtualAgentId) →
        final[key]? = none) :
    Stores final first.catalog.entries ∨ Stores final second.catalog.entries := by
  have hshared (entry : VirtualAgentCatalogEntry) (hfirst : entry ∈ first.catalog.entries)
      (hsecond : entry ∈ second.catalog.entries) :
      ∃ now, final[agentKey entry.virtualAgentId]? = some (agentAttrs now entry) := by
    obtain ⟨attrs, ⟨now, written, hwritten, hid, rfl⟩, hstored⟩ := hwritten entry hfirst
    have heq : written = entry := by
      rcases hwritten with hwritten | hwritten
      · exact first.catalog.eq_of_id_eq hwritten hfirst hid
      · exact second.catalog.eq_of_id_eq hwritten hsecond hid
    exact ⟨now, heq ▸ hstored⟩
  have hleft (key : Key) (hkey : isAgentKey key = true)
      (hnone : ∀ entry ∈ first.catalog.entries, key ≠ agentKey entry.virtualAgentId) :
      final[key]? = none :=
    hstale key hkey hnone (not_agentKey_of_ids_subset (fun id => (h.same_ids id).mpr) hnone)
  have hright (key : Key) (hkey : isAgentKey key = true)
      (hnone : ∀ entry ∈ second.catalog.entries, key ≠ agentKey entry.virtualAgentId) :
      final[key]? = none :=
    hstale key hkey (not_agentKey_of_ids_subset (fun id => (h.same_ids id).mp) hnone) hnone
  by_cases hall : ∀ entry ∈ first.catalog.entries, entry ∈ second.catalog.entries
  · exact Or.inl ⟨fun entry hentry => hshared entry hentry (hall entry hentry), hleft⟩
  -- One agent differs; whoever put it last decides which list is stored.
  push Not at hall
  obtain ⟨changed, hchanged, hnew⟩ := hall
  obtain ⟨attrs, ⟨now, written, hwritten, hid, rfl⟩, hstored⟩ := hwritten changed hchanged
  rw [← hid] at hstored
  rcases hwritten with hwritten | hwritten
  · left
    have heq := first.catalog.eq_of_id_eq hwritten hchanged hid
    subst heq
    refine ⟨fun entry hentry => ?_, hleft⟩
    by_cases hin : entry ∈ second.catalog.entries
    · exact hshared entry hentry hin
    · rw [h.differ_once entry hentry written hchanged hin hnew]
      exact ⟨now, hstored⟩
  · right
    refine ⟨fun entry hentry => ?_, hright⟩
    obtain ⟨old, hold, holdId⟩ :=
      List.mem_map.mp ((h.same_ids _).mpr (List.mem_map_of_mem hentry))
    by_cases hin : old ∈ second.catalog.entries
    · rw [← second.catalog.eq_of_id_eq hin hentry holdId]
      exact hshared old hold hin
    · have hold := h.differ_once old hold changed hchanged hin hnew
      have heq := second.catalog.eq_of_id_eq hwritten hentry (hid.trans (hold ▸ holdId))
      exact ⟨now, heq ▸ hstored⟩

/-- Lists that differ in at most one agent: whatever the interleaving, the last
write wins. -/
theorem lastWriteWins_of_differInAtMostOne
    (h : DifferInAtMostOne first.catalog.entries second.catalog.entries) (schedule : List Bool)
    (hsettled : ((concurrentWrites table first second).runSchedule dynamo schedule).Settled) :
    LastWriteWins first.catalog.entries second.catalog.entries
      ((concurrentWrites table first second).runSchedule dynamo schedule).state := by
  have hlength := length_eq_of_same_ids h.same_ids
  have hmeta := holds_meta table first second hlength schedule hsettled
  have hstores := stores_of_written h
    (fun entry hentry => holds_of_common_id table first second (List.mem_map_of_mem hentry)
      ((h.same_ids _).mp (List.mem_map_of_mem hentry)) schedule hsettled)
    fun key hkey hfirst hsecond =>
      absent_of_stale_key table first second hkey hfirst hsecond schedule hsettled
  refine ⟨hstores, ?_, ?_⟩
  · rcases hstores with hstores | hstores
    · rwa [hstores.length_agentItems]
    · rwa [hstores.length_agentItems, ← hlength]
  · rcases hstores with hstores | hstores
    · exact hstores.listAgents_perm.imp fun _ => And.left
    · exact hstores.listAgents_perm.imp fun _ => And.left

end Settled

/-! ## Interleavings that mix the lists -/

/-- The table after the puts of a writer. -/
def CatalogWriter.filled (writer : CatalogWriter) (table : Table) : Table :=
  (table.putEntries writer.now writer.catalog.entries).insert metaKey
    (metaItem writer.now writer.catalog.entries.length false).attrs

theorem CatalogWriter.exec_fill (writer : CatalogWriter) (table : Table) :
    writer.fill.exec dynamo table = (.ok (), writer.filled table) := by
  rw [fill, Program.exec_bind, dynamo, exec_forEach_putItem]
  rfl

theorem CatalogWriter.getElem?_filled_of_mem (writer : CatalogWriter) (table : Table)
    {entry : VirtualAgentCatalogEntry} (hentry : entry ∈ writer.catalog.entries) :
    (writer.filled table)[agentKey entry.virtualAgentId]? =
      some (agentAttrs writer.now entry) := by
  rw [filled, Table.getElem?_insert, if_neg (metaKey_ne_agentKey _)]
  exact table.getElem?_putEntries_of_mem _ writer.catalog.valid.ids_nodup hentry

theorem CatalogWriter.getElem?_filled_of_not_mem (writer : CatalogWriter) (table : Table)
    {virtualAgentId : String}
    (hid : virtualAgentId ∉
      writer.catalog.entries.map VirtualAgentCatalogEntry.virtualAgentId) :
    (writer.filled table)[agentKey virtualAgentId]? = table[agentKey virtualAgentId]? := by
  rw [filled, Table.getElem?_insert, if_neg (metaKey_ne_agentKey _)]
  apply table.getElem?_putEntries_of_not_mem
  intro entry hentry hkey
  exact hid (agentKey_injective hkey ▸ List.mem_map_of_mem hentry)

section Mixed

variable (who : Bool) (table : Table) (own other : CatalogWriter)

/-- Both writers list the same agents and delete them before either puts. -/
theorem reaches_cleared :
    ∃ cleared : Table, (Pool.duo who table own.program other.program).Reaches dynamo
      (Pool.duo who cleared own.fill other.fill) := by
  refine ⟨(table.eraseAll table.agentItems).eraseAll table.agentItems, ?_⟩
  rw [own.program_eq, other.program_eq]
  apply (Pool.duo_reaches_own dynamo who table (query agentQuery) _ _).trans
  apply (Pool.duo_reaches_other dynamo who _ (query agentQuery) _ _).trans
  apply (Pool.duo_reaches_own dynamo who _
    (Program.forEach table.agentItems fun item => deleteItem item.key)
    (Program.andThen fun _ => own.fill) _).trans
  rw [dynamo, exec_forEach_deleteItem]
  apply (Pool.duo_reaches_other (perform Paging.single) who _
    (Program.forEach table.agentItems fun item => deleteItem item.key)
    (Program.andThen fun _ => other.fill) _).trans
  rw [exec_forEach_deleteItem]
  exact Pool.Reaches.refl _

/-- One list written out after the other, when only the first carries some id:
the id survives, and META counts the second list. -/
theorem not_lastWriteWins_of_extra_id {virtualAgentId : String}
    (hown : virtualAgentId ∈ own.catalog.entries.map VirtualAgentCatalogEntry.virtualAgentId)
    (hother : virtualAgentId ∉
      other.catalog.entries.map VirtualAgentCatalogEntry.virtualAgentId) :
    ¬ LastWriteWins own.catalog.entries other.catalog.entries
      (other.filled (own.filled table)) := by
  intro hwins
  have hcount : other.catalog.entries.length =
      (other.filled (own.filled table)).agentItems.length := by
    have hmeta : (other.filled (own.filled table))[metaKey]? =
        some (metaItem other.now other.catalog.entries.length false).attrs :=
      (Table.getElem?_insert _ _ _ _).trans (if_pos rfl)
    obtain ⟨attrs, hcount, hattrs⟩ := hwins.entryCount
    rw [← Option.some.inj (hmeta.symm.trans hattrs)] at hcount
    have hcast : (other.catalog.entries.length : Int) =
        (other.filled (own.filled table)).agentItems.length := by
      simpa [metaItem] using hcount
    exact Int.ofNat.inj hcast
  obtain ⟨extra, hextra, rfl⟩ := List.mem_map.mp hown
  rcases hwins.entries with hstores | hstores
  · -- The first list holds the extra id and every id of the second: it is longer.
    rw [hstores.length_agentItems] at hcount
    have hsubset : extra.virtualAgentId ::
        other.catalog.entries.map VirtualAgentCatalogEntry.virtualAgentId ⊆
          own.catalog.entries.map VirtualAgentCatalogEntry.virtualAgentId := by
      apply List.cons_subset.mpr
      refine ⟨List.mem_map_of_mem hextra, ?_⟩
      intro id hid
      obtain ⟨entry, hentry, rfl⟩ := List.mem_map.mp hid
      obtain ⟨entry', hentry', _, hkey, -⟩ := hstores.storesWithin _ _ (isAgentKey_agentKey _)
        (other.getElem?_filled_of_mem (own.filled table) hentry)
      exact agentKey_injective hkey ▸ List.mem_map_of_mem hentry'
    have hle := (List.subperm_of_subset
      (List.nodup_cons.mpr ⟨hother, other.catalog.valid.ids_nodup⟩) hsubset).length_le
    simp only [List.length_cons, List.length_map] at hle
    omega
  · have hkept : (other.filled (own.filled table))[agentKey extra.virtualAgentId]? =
        some (agentAttrs own.now extra) := by
      rw [other.getElem?_filled_of_not_mem _ hother, own.getElem?_filled_of_mem _ hextra]
    obtain ⟨entry, hentry, _, hkey, -⟩ :=
      hstores.storesWithin _ _ (isAgentKey_agentKey _) hkept
    exact hother (agentKey_injective hkey ▸ List.mem_map_of_mem hentry)

/-- An id that only the first writer to finish carries survives the second. -/
theorem exists_interleaving_of_extra_id {virtualAgentId : String}
    (hown : virtualAgentId ∈ own.catalog.entries.map VirtualAgentCatalogEntry.virtualAgentId)
    (hother : virtualAgentId ∉
      other.catalog.entries.map VirtualAgentCatalogEntry.virtualAgentId) :
    ∃ schedule,
      ((Pool.duo who table own.program other.program).runSchedule dynamo schedule).Settled ∧
      ¬ LastWriteWins own.catalog.entries other.catalog.entries
        ((Pool.duo who table own.program other.program).runSchedule dynamo schedule).state := by
  obtain ⟨cleared, hcleared⟩ := reaches_cleared who table own other
  have hreaches := (hcleared.trans (Pool.duo_finishes_own dynamo who cleared other.fill
    own.fill)).trans (Pool.duo_finishes_other dynamo who _ _ other.fill)
  obtain ⟨schedule, hschedule⟩ := hreaches
  refine ⟨schedule, ?_⟩
  rw [hschedule, own.exec_fill, other.exec_fill]
  exact ⟨Pool.duo_settled _ _ _ _, not_lastWriteWins_of_extra_id cleared own other hown hother⟩

/-- The table when a writer has put some of its entries, another writes out its
list, and the first then puts the rest and META. -/
def interrupted (before after : List VirtualAgentCatalogEntry) : Table :=
  ((other.filled (table.putEntries own.now before)).putEntries own.now after).insert metaKey
    (metaItem own.now own.catalog.entries.length false).attrs

/-- Of two changed agents, one put before and one after the interruption, each
comes from another list. -/
theorem not_lastWriteWins_of_two_changes
    (hsame : ∀ virtualAgentId,
      virtualAgentId ∈ own.catalog.entries.map VirtualAgentCatalogEntry.virtualAgentId ↔
        virtualAgentId ∈ other.catalog.entries.map VirtualAgentCatalogEntry.virtualAgentId)
    {early late : VirtualAgentCatalogEntry} {before after : List VirtualAgentCatalogEntry}
    (hsplit : own.catalog.entries = before ++ after) (hbefore : early ∈ before)
    (hafter : late ∈ after) (hearly : early ∉ other.catalog.entries)
    (hlate : late ∉ other.catalog.entries) :
    ¬ LastWriteWins own.catalog.entries other.catalog.entries
      (interrupted table own other before after) := by
  intro hwins
  have hnodup := own.catalog.valid.ids_nodup
  rw [hsplit, List.map_append, List.nodup_append] at hnodup
  have hmem : early ∈ own.catalog.entries := hsplit ▸ List.mem_append_left after hbefore
  obtain ⟨changed, hchanged, hid⟩ :=
    List.mem_map.mp ((hsame _).mp (List.mem_map_of_mem hmem))
  have hfirst : (interrupted table own other before after)[agentKey early.virtualAgentId]? =
      some (agentAttrs other.now changed) := by
    rw [interrupted, Table.getElem?_insert, if_neg (metaKey_ne_agentKey _),
      Table.getElem?_putEntries_of_not_mem, ← hid, other.getElem?_filled_of_mem _ hchanged]
    intro entry hentry hkey
    exact hnodup.2.2 _ (List.mem_map_of_mem hbefore) _ (List.mem_map_of_mem hentry)
      (agentKey_injective hkey)
  have hlast : (interrupted table own other before after)[agentKey late.virtualAgentId]? =
      some (agentAttrs own.now late) := by
    rw [interrupted, Table.getElem?_insert, if_neg (metaKey_ne_agentKey _),
      Table.getElem?_putEntries_of_mem _ _ hnodup.2.1 hafter]
  rcases hwins.entries with hstores | hstores
  · obtain ⟨entry, hentry, _, hkey, hattrs⟩ :=
      hstores.storesWithin _ _ (isAgentKey_agentKey _) hfirst
    have heq : early = changed := by
      rw [agentAttrs_inj hattrs]
      exact own.catalog.eq_of_id_eq hmem hentry (agentKey_injective hkey)
    exact hearly (heq ▸ hchanged)
  · obtain ⟨entry, hentry, _, -, hattrs⟩ :=
      hstores.storesWithin _ _ (isAgentKey_agentKey _) hlast
    exact hlate (agentAttrs_inj hattrs ▸ hentry)

/-- Two agents that differ end up from different lists when one writer stops
between them while the other finishes. -/
theorem exists_interleaving_of_two_changes
    (hsame : ∀ virtualAgentId,
      virtualAgentId ∈ own.catalog.entries.map VirtualAgentCatalogEntry.virtualAgentId ↔
        virtualAgentId ∈ other.catalog.entries.map VirtualAgentCatalogEntry.virtualAgentId)
    {early late : VirtualAgentCatalogEntry} {before after : List VirtualAgentCatalogEntry}
    (hsplit : own.catalog.entries = before ++ after) (hbefore : early ∈ before)
    (hafter : late ∈ after) (hearly : early ∉ other.catalog.entries)
    (hlate : late ∉ other.catalog.entries) :
    ∃ schedule,
      ((Pool.duo who table own.program other.program).runSchedule dynamo schedule).Settled ∧
      ¬ LastWriteWins own.catalog.entries other.catalog.entries
        ((Pool.duo who table own.program other.program).runSchedule dynamo schedule).state := by
  obtain ⟨cleared, hcleared⟩ := reaches_cleared who table own other
  have hfill : own.fill =
      (Program.forEach before fun entry => putItem (agentItem own.now entry)).resume
        (Program.andThen fun _ => (Program.forEach after fun entry =>
          putItem (agentItem own.now entry)) >>= fun _ =>
            putItem (metaItem own.now own.catalog.entries.length false)) := by
    rw [CatalogWriter.fill, hsplit, Program.forEach_append, Program.bind_bind]
    rfl
  rw [hfill] at hcleared
  have hreaches := ((hcleared.trans (Pool.duo_reaches_own dynamo who _ _ _ _)).trans
    (Pool.duo_finishes_other dynamo who _ _ other.fill)).trans
      (Pool.duo_finishes_own dynamo who _ _ _)
  obtain ⟨schedule, hschedule⟩ := hreaches
  refine ⟨schedule, ?_⟩
  rw [hschedule, other.exec_fill, dynamo, exec_forEach_putItem, Program.andThen_ok,
    Program.exec_bind, exec_forEach_putItem]
  exact ⟨Pool.duo_settled _ _ _ _, not_lastWriteWins_of_two_changes cleared own other hsame
    hsplit hbefore hafter hearly hlate⟩

end Mixed

theorem LastWriteWins.symm {first second : List VirtualAgentCatalogEntry} {table : Table}
    (h : LastWriteWins first second table) : LastWriteWins second first table :=
  ⟨h.entries.symm, h.entryCount, h.listed⟩

/-- If every interleaving is well, the lists differ in at most one agent. -/
theorem differInAtMostOne_of_lastWriteWins (table : Table) (first second : CatalogWriter)
    (h : ∀ schedule, ((concurrentWrites table first second).runSchedule dynamo schedule).Settled →
      LastWriteWins first.catalog.entries second.catalog.entries
        ((concurrentWrites table first second).runSchedule dynamo schedule).state) :
    DifferInAtMostOne first.catalog.entries second.catalog.entries := by
  have hsame (virtualAgentId : String) :
      virtualAgentId ∈ first.catalog.entries.map VirtualAgentCatalogEntry.virtualAgentId ↔
        virtualAgentId ∈ second.catalog.entries.map VirtualAgentCatalogEntry.virtualAgentId := by
    constructor
    · intro hfirst
      by_contra hsecond
      obtain ⟨schedule, hsettled, hmixed⟩ :=
        exists_interleaving_of_extra_id false table first second hfirst hsecond
      exact hmixed (h schedule hsettled)
    · intro hsecond
      by_contra hfirst
      obtain ⟨schedule, hsettled, hmixed⟩ :=
        exists_interleaving_of_extra_id true table second first hsecond hfirst
      rw [Pool.duo_swap] at hsettled hmixed
      exact hmixed (h schedule hsettled).symm
  refine ⟨hsame, ?_⟩
  intro entry hentry changed hchanged hin hnew
  by_contra hne
  obtain ⟨before, after, hsplit⟩ := List.append_of_mem hentry
  -- Whichever of the two comes first is put before the interruption.
  have hcases : changed ∈ before ∨ changed ∈ after := by
    rw [hsplit] at hchanged
    rcases List.mem_append.mp hchanged with hbefore | hcons
    · exact Or.inl hbefore
    · exact Or.inr ((List.mem_cons.mp hcons).resolve_left fun heq => hne heq.symm)
  rcases hcases with hbefore | hafter
  · obtain ⟨schedule, hsettled, hmixed⟩ := exists_interleaving_of_two_changes false table first
      second hsame hsplit hbefore List.mem_cons_self hnew hin
    exact hmixed (h schedule hsettled)
  · have hsplit' : first.catalog.entries = (before ++ [entry]) ++ after := by
      rw [hsplit, List.append_assoc, List.singleton_append]
    obtain ⟨schedule, hsettled, hmixed⟩ := exists_interleaving_of_two_changes false table first
      second hsame hsplit' (List.mem_append_right before List.mem_cons_self) hafter hin hnew
    exact hmixed (h schedule hsettled)

/-! ## Two mutations -/

/-- Two mutations that have listed the stored entries and computed their lists. -/
def mutationsInFlight (table : Table) (stored : List VirtualAgentCatalogEntry)
    (first second : Mutation) (firstNow secondNow : DateTime) :
    Pool tableCalls PyException Unit Bool Table :=
  Pool.duo false table (first.afterListing firstNow stored) (second.afterListing secondNow stored)

/-- The last write of two mutations wins under every interleaving exactly when
their new lists carry the same ids and differ in at most one agent. -/
theorem mutationsInFlight_lastWriteWins_iff (table : Table)
    (stored : List VirtualAgentCatalogEntry) (first second : Mutation)
    (firstNow secondNow : DateTime) (firstNew secondNew : Catalog)
    (hfirst : first.newEntries stored = .ok firstNew.entries)
    (hsecond : second.newEntries stored = .ok secondNew.entries) :
    (∀ schedule,
      ((mutationsInFlight table stored first second firstNow secondNow).runSchedule dynamo
        schedule).Settled →
      LastWriteWins firstNew.entries secondNew.entries
        ((mutationsInFlight table stored first second firstNow secondNow).runSchedule dynamo
          schedule).state) ↔
      DifferInAtMostOne firstNew.entries secondNew.entries := by
  have hpool : mutationsInFlight table stored first second firstNow secondNow =
      concurrentWrites table ⟨firstNow, firstNew⟩ ⟨secondNow, secondNew⟩ := by
    rw [mutationsInFlight, Mutation.afterListing_eq hfirst, Mutation.afterListing_eq hsecond]
    rfl
  rw [hpool]
  constructor
  · exact differInAtMostOne_of_lastWriteWins table ⟨firstNow, firstNew⟩ ⟨secondNow, secondNew⟩
  · exact lastWriteWins_of_differInAtMostOne table ⟨firstNow, firstNew⟩ ⟨secondNow, secondNew⟩

/-! ## Two agents saved at once -/

/-- An agent that is not the default. -/
def lobby : VirtualAgentCatalogEntry := ⟨"lobby", "Lobby", false⟩

/-- A new default agent. -/
def billing : VirtualAgentCatalogEntry := ⟨"billing", "Billing", true⟩

/-- Another new default agent. -/
def claims : VirtualAgentCatalogEntry := ⟨"claims", "Claims", true⟩

/-- A table that was seeded with one agent that is not the default. -/
def lobbyTable : Table := ((writeEntries noon [lobby] true).exec dynamo ∅).2

theorem mutationsInFlight_lastWriteWins_iff_lobby :
    (∀ schedule,
      ((mutationsInFlight lobbyTable [lobby] (.saveAgent billing) (.saveAgent claims) noon
        noon).runSchedule dynamo schedule).Settled →
      LastWriteWins [lobby, billing] [lobby, claims]
        ((mutationsInFlight lobbyTable [lobby] (.saveAgent billing) (.saveAgent claims) noon
          noon).runSchedule dynamo schedule).state) ↔
      DifferInAtMostOne [lobby, billing] [lobby, claims] :=
  mutationsInFlight_lastWriteWins_iff lobbyTable [lobby] (.saveAgent billing) (.saveAgent claims)
    noon noon ⟨[lobby, billing], by decide⟩ ⟨[lobby, claims], by decide⟩ (by decide) (by decide)

/-- Both writers query, both delete, then one writes out after the other: three
agents are left, two of them defaults, and the listing raises. -/
theorem saving_two_defaults_leaves_both :
    (listAgents.exec dynamo lobbyTable).1 = .ok [lobby] ∧
      (Mutation.saveAgent billing).newEntries [lobby] = .ok [lobby, billing] ∧
      (Mutation.saveAgent claims).newEntries [lobby] = .ok [lobby, claims] ∧
      ValidCatalog [lobby, billing] ∧ ValidCatalog [lobby, claims] ∧
      ∃ schedule,
        ((mutationsInFlight lobbyTable [lobby] (.saveAgent billing) (.saveAgent claims) noon
          noon).runSchedule dynamo schedule).Settled ∧
        ¬ LastWriteWins [lobby, billing] [lobby, claims]
          ((mutationsInFlight lobbyTable [lobby] (.saveAgent billing) (.saveAgent claims) noon
            noon).runSchedule dynamo schedule).state := by
  refine ⟨by decide, by decide, by decide, by decide, by decide,
    [false, true, false, true, false, false, false, true, true, true], ?_, ?_⟩
  · intro who
    cases who with
    | false => exact ⟨.ok (), rfl⟩
    | true => exact ⟨.ok (), rfl⟩
  · intro hwins
    obtain ⟨listed, hlisted⟩ := hwins.listed
    have hraises : (listAgents.exec dynamo
        ((mutationsInFlight lobbyTable [lobby] (.saveAgent billing) (.saveAgent claims) noon
          noon).runSchedule dynamo
            [false, true, false, true, false, false, false, true, true, true]).state).1 =
        .error (.catalogLoadError ("Catalog marks more than one agent as is_default=true. " ++
          "At most one default agent is allowed.")) := by
      decide
    rw [hraises] at hlisted
    cases hlisted

end ByodsServer
