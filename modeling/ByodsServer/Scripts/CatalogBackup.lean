/-
# The listing of a catalog as its backup

`list` prints the stored agents as JSON. Saved to a file, what it prints is a seed file:
it loads as the stored agents exactly when their texts are trimmed, and an empty table
seeded from it is then listed like the table it was taken from.
-/

import ByodsServer.Persistence.CatalogRepair
import ByodsServer.Python.JsonRoundTrip
import ByodsServer.Scripts.CanonicalText

namespace ByodsServer

open Effects Python

/-! ## The command -/

/-- The object printed for an entry. -/
def entryFields (entry : VirtualAgentCatalogEntry) : List (String × Json) :=
  [("virtual_agent_id", .str entry.virtualAgentId),
   ("virtual_agent_name", .str entry.virtualAgentName),
   ("is_default", .bool entry.isDefault)]

/-- The value printed for some entries. -/
def entriesJson (entries : List VirtualAgentCatalogEntry) : Json :=
  .arr ((entries.map entryFields).map .obj)

/-- What `_print_entries` writes to stdout. -/
def printedEntries (entries : List VirtualAgentCatalogEntry) : String :=
  Json.dumps (entriesJson entries) (some 2) ++ "\n"

/-- `cmd_list`: how it ends, and what it writes to stdout. -/
def cmdList : TableProgram (CommandResult × String) :=
  tryCatch
    (do
      let entries ← listAgents
      return (⟨exitOk, []⟩, printedEntries entries))
    fun
    | .catalogLoadError message => pure (⟨exitError, [message]⟩, "")
    | e => throw e

/-- A file with a text. -/
def fileWith (path text : String) : SeedFile := ⟨path, true, .ok text⟩

theorem exec_cmdList_of_listed {table : Table} {listed : List VirtualAgentCatalogEntry}
    (h : listAgents.exec dynamo table = (.ok listed, table)) :
    cmdList.exec dynamo table = (.ok (⟨exitOk, []⟩, printedEntries listed), table) := by
  rw [cmdList, Program.exec_tryCatch, Program.exec_bind, h]
  rfl

theorem exec_cmdList_of_loadError {table : Table} {message : String}
    (h : listAgents.exec dynamo table = (.error (.catalogLoadError message), table)) :
    cmdList.exec dynamo table = (.ok (⟨exitError, [message]⟩, ""), table) := by
  rw [cmdList, Program.exec_tryCatch, Program.exec_bind, h]
  rfl

/-! ## What is printed -/

theorem loadable_entriesJson (floatRepr : Json.FloatRepr)
    (entries : List VirtualAgentCatalogEntry) : Json.Loadable floatRepr (entriesJson entries) := by
  refine .arr fun item hitem => ?_
  obtain ⟨fields, hfields, rfl⟩ := List.mem_map.mp hitem
  obtain ⟨entry, -, rfl⟩ := List.mem_map.mp hfields
  refine .obj (by decide : (["virtual_agent_id", "virtual_agent_name", "is_default"]).Nodup) ?_
  simp only [entryFields, List.forall_mem_cons]
  exact ⟨.str _, .str _, .bool _, List.forall_mem_nil _⟩

theorem nestsWithin_entriesJson (entries : List VirtualAgentCatalogEntry) :
    Json.NestsWithin 2 (entriesJson entries) := by
  refine .arr fun item hitem => ?_
  obtain ⟨fields, hfields, rfl⟩ := List.mem_map.mp hitem
  obtain ⟨entry, -, rfl⟩ := List.mem_map.mp hfields
  refine .obj ?_
  simp only [entryFields, List.forall_mem_cons]
  exact ⟨.str _, .str _, .bool _, List.forall_mem_nil _⟩

theorem entriesJson_injective : Function.Injective entriesJson := by
  intro entries others h
  have hfields : Function.Injective fun entry => Json.obj (entryFields entry) := by
    intro first second hsame
    simp only [entryFields, Json.obj.injEq, List.cons.injEq, Prod.mk.injEq, Json.str.injEq,
      Json.bool.injEq, true_and, and_true] at hsame
    obtain ⟨hid, hname, hdefault⟩ := hsame
    cases first
    cases second
    simp_all
  have hitems := Json.arr.inj h
  rw [List.map_map, List.map_map] at hitems
  exact (List.map_injective_iff.mpr hfields) hitems

/-- Different entries are printed differently. -/
theorem printedEntries_injective : Function.Injective printedEntries := by
  intro entries others h
  have hdumps : Json.dumps (entriesJson entries) (some 2) =
      Json.dumps (entriesJson others) (some 2) := by
    simpa [printedEntries, String.append_left_inj] using h
  exact entriesJson_injective (Json.dumps_injective_on id (some 2)
    (loadable_entriesJson id entries) (loadable_entriesJson id others) hdumps)

/-- An entry with its texts trimmed. -/
def trimmed (entry : VirtualAgentCatalogEntry) : VirtualAgentCatalogEntry :=
  ⟨strip entry.virtualAgentId, strip entry.virtualAgentName, entry.isDefault⟩

theorem documentedObject_entryFields (entry : VirtualAgentCatalogEntry) :
    DocumentedObject (entryFields entry) :=
  ⟨⟨_, rfl, trivial⟩, ⟨_, rfl⟩, fun _ hvalue => ⟨_, (Option.some.inj hvalue).symm⟩⟩

section Loading

variable {floatRepr : Json.FloatRepr} {json : JsonLib}

/-- A printed catalog loads as its trimmed entries, if these are a catalog. -/
theorem loadCatalog_printed (hloads : Json.LoadsLike 2 floatRepr json.loads) (path : String)
    (entries loaded : List VirtualAgentCatalogEntry) :
    loadCatalog json (fileWith path (printedEntries entries)) = .ok loaded ↔
      validateCatalogEntries (entries.map trimmed) = .ok () ∧ loaded = entries.map trimmed := by
  have hvalue : fileValue json (fileWith path (printedEntries entries)) =
      .ok (.arr ((entries.map entryFields).map .obj)) :=
    hloads.load_dumps_append (some 2) (loadable_entriesJson floatRepr entries)
      (nestsWithin_entriesJson entries)
      (List.forall_mem_singleton.mpr (show Json.isBlank '\n' = true from rfl))
  have hdocumented : ∀ fields ∈ entries.map entryFields, DocumentedObject fields := by
    intro fields hfields
    obtain ⟨entry, -, rfl⟩ := List.mem_map.mp hfields
    exact documentedObject_entryFields entry
  have hentries : (entries.map entryFields).map documentedEntry = entries.map trimmed := by
    rw [List.map_map]
    rfl
  rw [loadCatalog_documented rfl hvalue hdocumented, hentries]

/-- Of a catalog, what is printed loads as what was listed exactly when all texts are
trimmed. -/
theorem loadCatalog_printed_eq_iff (hloads : Json.LoadsLike 2 floatRepr json.loads) (path : String)
    {entries : List VirtualAgentCatalogEntry} (hvalid : ValidCatalog entries) :
    loadCatalog json (fileWith path (printedEntries entries)) = .ok entries ↔
      CanonicalTexts entries := by
  have htrimmed : entries = entries.map trimmed ↔ CanonicalTexts entries := by
    rw [hvalid.canonicalTexts_iff]
    nth_rewrite 1 [← List.map_id entries]
    rw [List.map_inj_left]
    refine forall_congr' fun entry => imp_congr_right fun _ => ?_
    cases entry
    simp [trimmed, eq_comm]
  rw [loadCatalog_printed hloads, htrimmed]
  refine and_iff_right_of_imp fun hcanonical => ?_
  rw [← htrimmed.mpr hcanonical]
  exact (validateCatalogEntries_eq_ok_iff entries).mpr hvalid

end Loading

/-! ## The order of a listing -/

theorem Table.agentItems_sorted (table : Table) :
    table.agentItems.Pairwise fun first second => Key.order first.key second.key = .lt := by
  have hitems : table.items.Pairwise fun first second =>
      Key.order first.key second.key = .lt := by
    rw [Table.items, List.pairwise_map]
    exact Std.ExtTreeMap.ordered_keys_toList
  simpa only [agentItems, select, agentQuery, if_true] using hitems.filter _

/-- Items of entries are read back in their order. -/
theorem map_agentKey_of_mapM {items : List Item} {listed : List VirtualAgentCatalogEntry}
    (hitems : ∀ item ∈ items, ∃ now entry, item = agentItem now entry)
    (h : items.mapM entryOfItem = .ok listed) :
    (listed.map fun entry => agentKey entry.virtualAgentId) = items.map Item.key := by
  induction items generalizing listed with
  | nil =>
      obtain rfl := Except.ok.inj h
      rfl
  | cons item items ih =>
      rw [List.forall_mem_cons] at hitems
      obtain ⟨⟨now, entry, rfl⟩, hitems⟩ := hitems
      rw [List.mapM_cons, entryOfItem_agentItem] at h
      cases hrest : items.mapM entryOfItem with
      | error e =>
          rw [hrest] at h
          cases h
      | ok rest =>
          rw [hrest] at h
          obtain rfl := Except.ok.inj h
          rw [List.map_cons, List.map_cons, ih hitems hrest, agentItem_key]

theorem mapM_of_entriesOfItems {items : List Item} {listed : List VirtualAgentCatalogEntry}
    (h : entriesOfItems items = .ok listed) : items.mapM entryOfItem = .ok listed := by
  unfold entriesOfItems at h
  cases hread : items.mapM entryOfItem with
  | error e =>
      rw [hread] at h
      cases h
  | ok entries =>
      rw [hread] at h
      simp only [bind, Except.bind] at h
      split_ifs at h
      cases hchecked : validateCatalogEntries entries with
      | error e =>
          rw [hchecked] at h
          cases h
      | ok checked =>
          rw [hchecked] at h
          exact h

/-- What is listed comes in the order of its keys. -/
theorem Stores.listed_sorted {table : Table} {entries listed : List VirtualAgentCatalogEntry}
    (h : Stores table entries) (hlisted : listAgents.exec dynamo table = (.ok listed, table)) :
    listed.Pairwise fun first second =>
      Key.order (agentKey first.virtualAgentId) (agentKey second.virtualAgentId) = .lt := by
  have hitems : ∀ item ∈ table.agentItems, ∃ now entry, item = agentItem now entry := by
    intro item hitem
    obtain ⟨hkey, hstored⟩ := Table.mem_agentItems.mp hitem
    obtain ⟨entry, -, now, hid, hattrs⟩ := h.storesWithin item.key item.attrs hkey hstored
    exact ⟨now, entry, by cases item; simp_all [agentItem]⟩
  have hread := mapM_of_entriesOfItems (congrArg Prod.fst hlisted)
  have hsorted := table.agentItems_sorted
  rw [← List.pairwise_map (f := Item.key) (R := (Key.order · · = .lt)),
    ← map_agentKey_of_mapM hitems hread, List.pairwise_map] at hsorted
  exact hsorted

/-- Tables that store the same entries are listed alike. -/
theorem Refines.listed_eq {entries others : List VirtualAgentCatalogEntry} {table other : Table}
    (h : Refines entries table) (hother : Refines others other) (hperm : entries.Perm others) :
    storedAgents table = storedAgents other := by
  obtain ⟨-, hstores, -, -, listed, hlisted, hlistedPerm⟩ := h.represents
  obtain ⟨-, hstores', -, -, listed', hlisted', hlistedPerm'⟩ := hother.represents
  rw [storedAgents, storedAgents, hlisted, hlisted']
  refine List.Perm.eq_of_pairwise (fun first second _ _ hlt hgt => ?_)
    (hstores.listed_sorted hlisted) (hstores'.listed_sorted hlisted')
    ((hlistedPerm.trans hperm).trans hlistedPerm'.symm)
  exact absurd (hgt.symm.trans (Std.OrientedCmp.gt_of_lt hlt)) (by decide)

/-! ## Restoring -/

/-- Entries that are a rearrangement of their trimmed versions are trimmed. -/
theorem map_trimmed_of_perm {entries : List VirtualAgentCatalogEntry}
    (h : entries.Perm (entries.map trimmed)) : entries.map trimmed = entries := by
  refine (List.map_congr_left fun entry hentry => ?_).trans (List.map_id entries)
  obtain ⟨other, -, rfl⟩ := List.mem_map.mp (h.mem_iff.mp hentry)
  simp only [trimmed, strip_strip, id]

/-- What `list` prints of a catalog is a backup of it: in any table without META, seeding from
it gives a catalog that `list` prints in the same way, exactly when all texts of the catalog
are trimmed. -/
theorem list_restores_iff {floatRepr : Json.FloatRepr} {json : JsonLib}
    (hloads : Json.LoadsLike 2 floatRepr json.loads) {entries : List VirtualAgentCatalogEntry}
    {table : Table} (h : Refines entries table) (path : String) :
    ∃ output, cmdList.exec dynamo table = (.ok (⟨exitOk, []⟩, output), table) ∧
      ((∀ (other : Table) (now : DateTime), other[metaKey]? = none →
        (cmdList.exec dynamo
          ((ensureSeeded json (fileWith path output) now).exec dynamo other).2).1 =
            .ok (⟨exitOk, []⟩, output)) ↔ CanonicalTexts (storedAgents table)) := by
  obtain ⟨-, -, -, -, listed, hlisted, hperm⟩ := h.represents
  have hstored : storedAgents table = listed := by
    rw [storedAgents, hlisted]
  refine ⟨printedEntries listed, exec_cmdList_of_listed hlisted, ?_⟩
  rw [hstored]
  have hvalid : ValidCatalog listed := h.1.perm hperm.symm
  rw [← loadCatalog_printed_eq_iff hloads path hvalid]
  constructor
  · intro hrestores
    have hempty : (∅ : Table)[metaKey]? = none := rfl
    have hprinted := hrestores ∅ noon hempty
    by_cases hseedable : ∃ loaded, loadCatalog json (fileWith path (printedEntries listed)) =
        .ok loaded
    · obtain ⟨loaded, hload⟩ := hseedable
      have hrefines := refines_of_seeded hload hempty noon
      obtain ⟨-, -, -, -, relisted, hrelisted, hrelistedPerm⟩ := hrefines.represents
      rw [exec_cmdList_of_listed hrelisted] at hprinted
      obtain rfl : relisted = listed := by
        have houtput := congrArg Prod.snd (Except.ok.inj hprinted)
        exact printedEntries_injective houtput
      rw [hload, Except.ok.injEq]
      obtain ⟨-, rfl⟩ := (loadCatalog_printed hloads path _ _).mp hload
      exact map_trimmed_of_perm hrelistedPerm
    · rw [exec_ensureSeeded_of_not_seedable noon fun hfile => hseedable hfile.2,
        exec_cmdList_of_loadError (exec_listAgents_of_no_agents rfl)] at hprinted
      cases hprinted
  · intro hload other now hmeta
    have hrefines := refines_of_seeded hload hmeta now
    obtain ⟨-, -, -, -, relisted, hrelisted, -⟩ := hrefines.represents
    have hsame : storedAgents ((ensureSeeded json (fileWith path (printedEntries listed)) now).exec
        dynamo other).2 = storedAgents table := hrefines.listed_eq h hperm
    rw [hstored, storedAgents, hrelisted] at hsame
    obtain rfl : relisted = listed := hsame
    rw [exec_cmdList_of_listed hrelisted]

/-- The scanner as the library of JSON; any of its errors is one of decoding. -/
def scannerJson : JsonLib where
  loads text :=
    match Json.loads id text with
    | .ok value => .ok value
    | .error _ => .error (.jsonDecodeError text)
  repr _ := ""

theorem scannerJson_loadsLike : Json.LoadsLike 2 id scannerJson.loads := by
  intro indent value trailing _ _ _ loaded h
  simp only [scannerJson, h]

/-- The catalog with one agent is restored from its listing. -/
theorem list_restores_iff_greeter :
    ∃ output, cmdList.exec dynamo greeterTable = (.ok (⟨exitOk, []⟩, output), greeterTable) ∧
      ∀ (other : Table) (now : DateTime), other[metaKey]? = none →
        (cmdList.exec dynamo ((ensureSeeded scannerJson (fileWith "backup.json" output) now).exec
          dynamo other).2).1 = .ok (⟨exitOk, []⟩, output) := by
  have hvalid : ValidCatalog [greeter] := by decide
  have hrefines : Refines [greeter] greeterTable :=
    ⟨hvalid, Table.overwrite_storesCounted ∅ noon true ⟨[greeter], hvalid⟩⟩
  obtain ⟨output, hlist, hrestores⟩ :=
    list_restores_iff scannerJson_loadsLike hrefines "backup.json"
  refine ⟨output, hlist, hrestores.mpr ?_⟩
  have hgreeter : CanonicalTexts [greeter] := by
    rw [hvalid.canonicalTexts_iff]
    decide
  exact hgreeter.of_perm hrefines.storedAgents_perm.symm

end ByodsServer
