/-
# What a catalog write is bound to do

One call at a time, a write lists the agents, deletes what it listed, puts its
entries and ends with META. Whoever else writes in between, it is bound to put
each of its entries, and META, after every delete of its own; it deletes every
stale agent it has listed, and never puts one.
-/

import ByodsServer.Persistence.CatalogAtomicity
import ByodsServer.Persistence.Settling

namespace ByodsServer

open Effects Python

section Write

variable (now : DateTime) (catalog : Catalog) (seededFromFile : Bool)

/-- The part of a write after the deletes. -/
def fillEntries : TableProgram Unit := do
  Program.forEach catalog.entries fun entry => putItem (agentItem now entry)
  putItem (metaItem now catalog.entries.length seededFromFile)

/-- The part of a write after the query. -/
def clearAndFillEntries (existing : Page) : TableProgram Unit := do
  Program.forEach existing.items fun item => deleteItem item.key
  fillEntries now catalog seededFromFile

theorem writeEntries_eq :
    writeEntries now catalog.entries seededFromFile =
      (query agentQuery >>= clearAndFillEntries now catalog seededFromFile) := by
  rw [writeEntries, catalog.validate]
  rfl

theorem reliable_deletes (items : List Item) :
    (Program.forEach items fun item => deleteItem item.key).Reliable :=
  Program.reliable_forEach (fun _ => Program.reliable_await _) items

variable {now catalog seededFromFile}

theorem fillEntries_uses {allowed : TableCall → Prop}
    (hentry : ∀ entry ∈ catalog.entries, allowed (.putItem (agentItem now entry)))
    (hmeta : allowed (.putItem (metaItem now catalog.entries.length seededFromFile))) :
    (fillEntries now catalog seededFromFile).Uses allowed :=
  (Program.uses_forEach fun entry hmem => Program.uses_await (hentry entry hmem)).bind
    fun _ => Program.uses_await hmeta

variable (now catalog seededFromFile) in
/-- What the puts are bound to do, the write is bound to do. -/
theorem writeEntries_ensures {wanted : TableCall → Prop}
    (h : (fillEntries now catalog seededFromFile).Ensures wanted) :
    (writeEntries now catalog.entries seededFromFile).Ensures wanted := by
  rw [writeEntries_eq]
  apply Program.Ensures.bind_right (Program.reliable_await _)
  intro existing
  exact Program.Ensures.bind_right (reliable_deletes _) fun _ => h

/-- Whatever the deletes spoil, the puts make up for. -/
theorem writeEntries_restores {spoils wanted : TableCall → Prop}
    (hquery : ¬ spoils (.query agentQuery))
    (hensures : (fillEntries now catalog seededFromFile).Ensures wanted)
    (huses : (fillEntries now catalog seededFromFile).Uses fun request => ¬ spoils request) :
    (writeEntries now catalog.entries seededFromFile).Restores spoils wanted := by
  rw [writeEntries_eq]
  apply Program.Restores.bind (Program.Uses.restores (Program.uses_await hquery))
  intro existing
  exact Program.Reliable.restores_bind (reliable_deletes _) (fun _ => hensures)
    fun _ => huses.restores

/-! ## An agent of the list -/

theorem not_spoils_of_key_ne {key : Key} {accepted : Attrs → Prop} {item : Item}
    (hne : item.key ≠ key) : ¬ Spoils key accepted (.putItem item) :=
  fun hspoils => not_touches_putItem hne hspoils.1

theorem fillEntries_ensures_entry {accepted : Attrs → Prop} {entry : VirtualAgentCatalogEntry}
    (hentry : entry ∈ catalog.entries) (haccepted : accepted (agentAttrs now entry)) :
    (fillEntries now catalog seededFromFile).Ensures
      (Puts (agentKey entry.virtualAgentId) accepted) :=
  (Program.ensures_forEach (fun _ => Program.reliable_await _) hentry
    (Program.ensures_await ⟨_, haccepted, rfl⟩)).bind_left

variable (now catalog seededFromFile) in
/-- The puts leave accepted attributes under the key of an agent. -/
theorem writeEntries_restores_entry {accepted : Attrs → Prop} {entry : VirtualAgentCatalogEntry}
    (hentry : entry ∈ catalog.entries) (haccepted : accepted (agentAttrs now entry)) :
    (writeEntries now catalog.entries seededFromFile).Restores
      (Spoils (agentKey entry.virtualAgentId) accepted)
      (Puts (agentKey entry.virtualAgentId) accepted) := by
  refine writeEntries_restores (fun hspoils => not_touches_query _ _ hspoils.1)
    (fillEntries_ensures_entry hentry haccepted) (fillEntries_uses ?_ ?_)
  · intro other hother hspoils
    by_cases hid : other.virtualAgentId = entry.virtualAgentId
    · obtain rfl := catalog.eq_of_id_eq hother hentry hid
      exact hspoils.2 ⟨_, haccepted, rfl⟩
    · exact not_touches_putItem (fun hkey => hid (agentKey_injective hkey)) hspoils.1
  · exact not_spoils_of_key_ne (metaKey_ne_agentKey _)

/-! ## META -/

/-- META attributes that count so many entries. -/
def Counts (entryCount : ℕ) (attrs : Attrs) : Prop :=
  attrs.lookup "entry_count" = some (.int entryCount)

theorem fillEntries_ensures_meta {accepted : Attrs → Prop}
    (haccepted : accepted (metaItem now catalog.entries.length seededFromFile).attrs) :
    (fillEntries now catalog seededFromFile).Ensures (Puts metaKey accepted) :=
  Program.Ensures.bind_right (Program.reliable_forEach (fun _ => Program.reliable_await _) _)
    fun _ => Program.ensures_await ⟨_, haccepted, rfl⟩

variable (now catalog seededFromFile) in
theorem writeEntries_restores_meta {accepted : Attrs → Prop}
    (haccepted : accepted (metaItem now catalog.entries.length seededFromFile).attrs) :
    (writeEntries now catalog.entries seededFromFile).Restores (Spoils metaKey accepted)
      (Puts metaKey accepted) := by
  refine writeEntries_restores (fun hspoils => not_touches_query _ _ hspoils.1)
    (fillEntries_ensures_meta haccepted) (fillEntries_uses ?_ ?_)
  · intro entry _
    exact not_spoils_of_key_ne (metaKey_ne_agentKey _).symm
  · exact fun hspoils => hspoils.2 ⟨_, haccepted, rfl⟩

/-! ## A stale agent -/

theorem not_puts_of_key_ne {key : Key} {item : Item} (hne : item.key ≠ key) :
    ¬ Puts key (fun _ => True) (.putItem item) := by
  intro hputs
  obtain ⟨attrs, -, hput⟩ := hputs
  cases hput
  exact hne rfl

variable (now catalog seededFromFile) in
/-- A write puts nothing under the keys of other agents. -/
theorem writeEntries_not_puts {key : Key} (hkey : isAgentKey key = true)
    (hstale : ∀ entry ∈ catalog.entries, key ≠ agentKey entry.virtualAgentId) :
    (writeEntries now catalog.entries seededFromFile).Uses
      fun request => ¬ Puts key (fun _ => True) request := by
  have hmeta : metaKey ≠ key := fun heq => by simp [← heq] at hkey
  rw [writeEntries_eq]
  apply (Program.uses_await _).bind
  · intro existing
    apply (Program.uses_forEach _).bind
    · intro _
      exact fillEntries_uses (fun entry hentry => not_puts_of_key_ne (hstale entry hentry).symm)
        (not_puts_of_key_ne hmeta)
    · intro item _
      apply Program.uses_await
      intro hputs
      obtain ⟨attrs, -, hput⟩ := hputs
      cases hput
  · intro hputs
    obtain ⟨attrs, -, hput⟩ := hputs
    cases hput

variable (now catalog seededFromFile) in
theorem writeEntries_deletesListed (key : Key) :
    DeletesListed key agentQuery (writeEntries now catalog.entries seededFromFile) := by
  refine ⟨clearAndFillEntries now catalog seededFromFile, writeEntries_eq now catalog _, ?_⟩
  intro page hlisted
  obtain ⟨item, hitem, rfl⟩ := hlisted
  have hdelete : Deletes item.key (.deleteItem item.key) := rfl
  exact (Program.ensures_forEach (fun _ => Program.reliable_await _) hitem
    (Program.ensures_await hdelete)).bind_left

end Write

/-- An agent that is stored is listed. -/
theorem exists_mem_select_agentQuery {key : Key} (hkey : isAgentKey key = true) (table : Table)
    (hstored : table[key]? ≠ none) : ∃ item ∈ table.select agentQuery, item.key = key := by
  obtain ⟨attrs, hattrs⟩ := Option.ne_none_iff_exists'.mp hstored
  exact ⟨⟨key, attrs⟩, Table.mem_agentItems.mpr ⟨hkey, hattrs⟩, rfl⟩

/-! ## META is never deleted -/

theorem not_deletes_meta_of_agent {item : Item} (hkey : isAgentKey item.key = true) :
    ¬ Deletes metaKey (.deleteItem item.key) := by
  intro hdelete
  have heq : item.key = metaKey := TableCall.deleteItem.inj hdelete
  simp [heq] at hkey

/-- A write deletes only what the service lists as agents. -/
theorem usesOn_writeEntries (now : DateTime) (entries : List VirtualAgentCatalogEntry)
    (seededFromFile : Bool) :
    (writeEntries now entries seededFromFile).UsesOn dynamo
      fun request => ¬ Deletes metaKey request := by
  by_cases hvalid : ValidCatalog entries
  · rw [writeEntries_eq now ⟨entries, hvalid⟩ seededFromFile]
    refine ⟨(fun hdelete => nomatch hdelete), fun table => ?_⟩
    apply (Program.Uses.usesOn _ dynamo : Program.UsesOn dynamo _ _)
    apply (Program.uses_forEach fun item hitem => ?_).bind
    · intro _
      apply fillEntries_uses
      · exact fun _ _ hdelete => nomatch hdelete
      · exact fun hdelete => nomatch hdelete
    · exact Program.uses_await (not_deletes_meta_of_agent (Table.mem_agentItems.mp hitem).1)
  · cases hchecked : validateCatalogEntries entries with
    | ok _ => exact (hvalid ((validateCatalogEntries_eq_ok_iff entries).mp hchecked)).elim
    | error e =>
        rw [writeEntries, hchecked]
        trivial

end ByodsServer
