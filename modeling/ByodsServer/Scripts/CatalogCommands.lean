/-
# The catalog commands as operations on a list

What the commands are for, without the table: a command is rejected, or has one
effect on the list of entries. Run against a table that stores a catalog, each
command does exactly that; a rejected one writes nothing. The stored order is
that of the sort keys, so the table and the list are compared entry by entry.
-/

import ByodsServer.Effects.Runs
import ByodsServer.Scripts.ManageVirtualAgents

namespace ByodsServer

open Effects Python

/-- The ids of some entries. -/
def agentIds (entries : List VirtualAgentCatalogEntry) : List String :=
  entries.map VirtualAgentCatalogEntry.virtualAgentId

namespace Command

/-- Why a command is refused: a duplicate id, an absent one, a blank id or name,
or the last agent. -/
def Rejected (entries : List VirtualAgentCatalogEntry) : Command → Prop
  | add agentId name _ => agentId ∈ agentIds entries ∨ strip agentId = "" ∨ strip name = ""
  | update agentId name _ => agentId ∉ agentIds entries ∨ ∃ new ∈ name, strip new = ""
  | remove agentId => agentId ∉ agentIds entries ∨ entries.length = 1
  | setDefault agentId => agentId ∉ agentIds entries

/-- The entries after a command that is not refused. -/
def effect (entries : List VirtualAgentCatalogEntry) :
    Command → List VirtualAgentCatalogEntry
  | add agentId name isDefault =>
      (if isDefault then entries.map fun entry => { entry with isDefault := false }
        else entries) ++ [⟨agentId, name, isDefault⟩]
  | update agentId name isDefault =>
      entries.map fun entry =>
        if entry.virtualAgentId = agentId then
          { entry with
            virtualAgentName := name.getD entry.virtualAgentName
            isDefault := isDefault || entry.isDefault }
        else if isDefault then { entry with isDefault := false }
        else entry
  | remove agentId => entries.filter fun entry => entry.virtualAgentId ≠ agentId
  | setDefault agentId =>
      entries.map fun entry => { entry with isDefault := entry.virtualAgentId = agentId }

instance (entries : List VirtualAgentCatalogEntry) :
    (command : Command) → Decidable (command.Rejected entries)
  | add _ _ _ => inferInstanceAs (Decidable (_ ∨ _ ∨ _))
  | update agentId none _ => decidable_of_iff (agentId ∉ agentIds entries) (by simp [Rejected])
  | update agentId (some new) _ =>
      decidable_of_iff (agentId ∉ agentIds entries ∨ strip new = "") (by simp [Rejected])
  | remove _ => inferInstanceAs (Decidable (_ ∨ _))
  | setDefault _ => inferInstanceAs (Decidable (_ ∉ _))

/-- A command on the list: its exit code, and the entries after it. -/
def step (entries : List VirtualAgentCatalogEntry) (command : Command) :
    ℕ × List VirtualAgentCatalogEntry :=
  if command.Rejected entries then (exitError, entries) else (exitOk, command.effect entries)

theorem exitCode_step_eq_error_iff (entries : List VirtualAgentCatalogEntry) (command : Command) :
    (command.step entries).1 = exitError ↔ command.Rejected entries := by
  rw [step]
  split
  · simp [*]
  · simp [*, exitOk, exitError]

theorem exitCode_step_eq_ok_iff (entries : List VirtualAgentCatalogEntry) (command : Command) :
    (command.step entries).1 = exitOk ↔ ¬ command.Rejected entries := by
  rw [step]
  split
  · simp [*, exitOk, exitError]
  · simp [*]

/-! ## The effects keep a catalog valid -/

/-- Setting the default is an update of nothing else. -/
theorem effect_setDefault (entries : List VirtualAgentCatalogEntry) (agentId : String) :
    (setDefault agentId).effect entries = (update agentId none true).effect entries := by
  simp only [effect]
  apply List.map_congr_left
  intro entry _
  by_cases hid : entry.virtualAgentId = agentId
  · simp [hid]
  · simp [hid]

/-- Entries whose ids are each there once have at most one of them. -/
theorem countP_id_le_one {entries : List VirtualAgentCatalogEntry}
    (hnodup : (agentIds entries).Nodup) (agentId : String) :
    entries.countP (fun entry => entry.virtualAgentId = agentId) ≤ 1 := by
  have hcount : (agentIds entries).count agentId =
      entries.countP fun entry => entry.virtualAgentId = agentId := by
    rw [agentIds, List.count, List.countP_map]
    rfl
  rw [← hcount]
  exact List.nodup_iff_count_le_one.mp hnodup agentId

/-- Adding a new agent is valid when its id and name are not blank. -/
theorem valid_effect_add_iff {entries : List VirtualAgentCatalogEntry}
    (hvalid : ValidCatalog entries) {agentId : String} (hnew : agentId ∉ agentIds entries)
    (name : String) (isDefault : Bool) :
    ValidCatalog ((add agentId name isDefault).effect entries) ↔
      strip agentId ≠ "" ∧ strip name ≠ "" := by
  constructor
  · intro h
    have hlast : (⟨agentId, name, isDefault⟩ : VirtualAgentCatalogEntry) ∈
        (add agentId name isDefault).effect entries :=
      List.mem_append_right _ (List.mem_singleton_self _)
    have hid := h.id_not_blank _ hlast
    have hname := h.name_not_blank _ hlast
    exact ⟨hid, hname⟩
  · rintro ⟨hid, hname⟩
    cases isDefault with
    | false => exact hvalid.concat hid hname hnew fun h => nomatch h
    | true =>
        have hcleared : ValidCatalog
            (entries.map fun entry => { entry with isDefault := false }) :=
          hvalid.map (fun _ _ => rfl) hvalid.name_not_blank (by simp)
        refine hcleared.concat hid hname ?_ fun _ => by simp [List.countP_map, Function.comp_def]
        rw [List.map_map]
        exact hnew

/-- An update of a stored agent is valid when its new name, if any, is not blank. -/
theorem valid_effect_update_iff {entries : List VirtualAgentCatalogEntry}
    (hvalid : ValidCatalog entries) {agentId : String} (hstored : agentId ∈ agentIds entries)
    (name : Option String) (isDefault : Bool) :
    ValidCatalog ((update agentId name isDefault).effect entries) ↔
      ∀ new ∈ name, strip new ≠ "" := by
  obtain ⟨stored, hmem, rfl⟩ := List.mem_map.mp hstored
  constructor
  · rintro h new rfl
    have hchanged := List.mem_map_of_mem (f := fun entry : VirtualAgentCatalogEntry =>
      if entry.virtualAgentId = stored.virtualAgentId then
        { entry with
          virtualAgentName := (some new).getD entry.virtualAgentName
          isDefault := isDefault || entry.isDefault }
      else if isDefault then { entry with isDefault := false }
      else entry) hmem
    have hname := h.name_not_blank _ hchanged
    simpa only [if_true, Option.getD_some] using hname
  · intro hname
    refine hvalid.map (fun entry _ => ?_) (fun entry hentry => ?_) ?_
    · split
      · rfl
      · split <;> rfl
    · split
      · cases name with
        | none => exact hvalid.name_not_blank entry hentry
        | some new => exact hname new rfl
      · split
        · exact hvalid.name_not_blank entry hentry
        · exact hvalid.name_not_blank entry hentry
    · cases isDefault with
      | false =>
          refine le_trans (List.countP_mono_left fun entry _ hdefault => ?_)
            hvalid.at_most_one_default
          split at hdefault
          · simpa using hdefault
          · simpa using hdefault
      | true =>
          refine le_trans (List.countP_mono_left fun entry _ hdefault => ?_)
            (countP_id_le_one hvalid.ids_nodup stored.virtualAgentId)
          split at hdefault
          · next hid => simpa using hid
          · simp at hdefault

/-- Removing a stored agent is valid when another one is left. -/
theorem valid_effect_remove_iff {entries : List VirtualAgentCatalogEntry}
    (hvalid : ValidCatalog entries) {agentId : String} (hstored : agentId ∈ agentIds entries) :
    ValidCatalog ((remove agentId).effect entries) ↔ entries.length ≠ 1 := by
  obtain ⟨stored, hmem, rfl⟩ := List.mem_map.mp hstored
  have hsub : (remove stored.virtualAgentId).effect entries ⊆ entries :=
      List.filter_subset_self entries
  constructor
  · intro h hone
    obtain ⟨only, honly⟩ := List.length_eq_one_iff.mp hone
    subst honly
    obtain rfl := List.mem_singleton.mp hmem
    exact h.nonempty (by simp [effect])
  · intro hmany
    refine hvalid.of_subset (fun hnone => hmany ?_) ?_ hsub
    · -- Every entry has the id, and there is only one such.
      have hall : ∀ entry ∈ entries, entry = stored := by
        intro entry hentry
        have hid := List.filter_eq_nil_iff.mp hnone entry hentry
        exact List.inj_on_of_nodup_map hvalid.ids_nodup hentry hmem (by simpa using hid)
      have hrepeat := List.eq_replicate_of_mem hall
      have hnodup := hvalid.ids_nodup.of_map
      rw [hrepeat, List.nodup_replicate] at hnodup
      have hpos := List.length_pos_of_mem hmem
      omega
    · exact hvalid.ids_nodup.sublist (List.filter_sublist.map _)

/-- A command that is not refused leaves a valid catalog. -/
theorem valid_effect {entries : List VirtualAgentCatalogEntry} (hvalid : ValidCatalog entries)
    {command : Command} (h : ¬ command.Rejected entries) :
    ValidCatalog (command.effect entries) := by
  cases command with
  | add agentId name isDefault =>
      simp only [Rejected, not_or] at h
      exact (valid_effect_add_iff hvalid h.1 name isDefault).mpr h.2
  | update agentId name isDefault =>
      simp only [Rejected, not_or, not_not, not_exists, not_and] at h
      exact (valid_effect_update_iff hvalid h.1 name isDefault).mpr h.2
  | remove agentId =>
      simp only [Rejected, not_or, not_not] at h
      exact (valid_effect_remove_iff hvalid h.1).mpr h.2
  | setDefault agentId =>
      rw [effect_setDefault, valid_effect_update_iff hvalid (not_not.mp h)]
      exact fun new hnew => nomatch hnew

/-! ## The order of the entries -/

theorem rejected_iff_of_perm {entries others : List VirtualAgentCatalogEntry}
    (hperm : entries.Perm others) (command : Command) :
    command.Rejected entries ↔ command.Rejected others := by
  have hids (agentId : String) : agentId ∈ agentIds entries ↔ agentId ∈ agentIds others :=
    (hperm.map _).mem_iff
  cases command with
  | add agentId name isDefault => simp only [Rejected, hids]
  | update agentId name isDefault => simp only [Rejected, hids]
  | remove agentId => simp only [Rejected, hids, hperm.length_eq]
  | setDefault agentId => simp only [Rejected, hids]

theorem effect_perm {entries others : List VirtualAgentCatalogEntry} (hperm : entries.Perm others)
    (command : Command) : (command.effect entries).Perm (command.effect others) := by
  cases command with
  | add agentId name isDefault =>
      refine List.Perm.append_right _ ?_
      cases isDefault with
      | false => exact hperm
      | true => exact hperm.map _
  | update agentId name isDefault => exact hperm.map _
  | remove agentId => exact hperm.filter _
  | setDefault agentId => exact hperm.map _

end Command

/-! ## What the commands do to a table -/

/-- The end of `cmd_add` and `cmd_update`: check the new entries, replace all. -/
def checkedReplace (now : DateTime) (updated : List VirtualAgentCatalogEntry) :
    TableProgram CommandResult := do
  Program.ofExcept (validateCatalogEntries updated)
  replaceAll now updated
  return ⟨exitOk, []⟩

section Exec

variable {now : DateTime} {table : Table} {listed updated : List VirtualAgentCatalogEntry}

theorem exec_checkedReplace_of_valid (h : ValidCatalog updated) :
    (checkedReplace now updated).exec dynamo table =
      (.ok ⟨exitOk, []⟩, table.overwrite now updated false) := by
  have hwrite : (replaceAll now updated).exec dynamo table =
      (.ok (), table.overwrite now updated false) := exec_writeEntries now ⟨updated, h⟩ false table
  rw [checkedReplace, (validateCatalogEntries_eq_ok_iff updated).mpr h, Program.ofExcept_eq,
    Program.finish_bind, Program.exec_bind_of_ok hwrite]
  rfl

variable (now table) in
theorem exec_checkedReplace_of_invalid (h : ¬ ValidCatalog updated) :
    ∃ message, (checkedReplace now updated).exec dynamo table =
      (.error (.catalogLoadError message), table) := by
  cases hchecked : validateCatalogEntries updated with
  | ok _ => exact (h ((validateCatalogEntries_eq_ok_iff updated).mp hchecked)).elim
  | error e =>
      obtain ⟨message, rfl⟩ := validateCatalogEntries_error hchecked
      refine ⟨message, ?_⟩
      rw [checkedReplace, hchecked]
      rfl

/-- A command that lists the entries goes on with what is stored. -/
theorem exec_run_of_listed (run : TableProgram CommandResult)
    {afterListing : List VirtualAgentCatalogEntry → TableProgram CommandResult}
    {report : PyException → TableProgram CommandResult}
    (hrun : run = tryCatch (listAgents >>= afterListing) report)
    (hlisted : listAgents.exec dynamo table = (.ok listed, table)) :
    run.exec dynamo table = (tryCatch (afterListing listed) report).exec dynamo table := by
  rw [hrun, Program.exec_tryCatch, Program.exec_bind_of_ok hlisted, ← Program.exec_tryCatch]

/-- A refused command reports and leaves the table; any other carries out its
effect on the listed entries. -/
def Command.Performs (now : DateTime) (table : Table) (listed : List VirtualAgentCatalogEntry)
    (command : Command) : Prop :=
  (command.Rejected listed ∧
    ∃ lines, (command.run now).exec dynamo table = (.ok ⟨exitError, lines⟩, table)) ∨
  (¬ command.Rejected listed ∧ (command.run now).exec dynamo table =
    (.ok ⟨exitOk, []⟩, table.overwrite now (command.effect listed) false))

theorem Command.performs_of_checkedReplace {command : Command}
    (hrun : (command.run now).exec dynamo table =
      (tryCatch (checkedReplace now (command.effect listed)) reportCatalogError).exec dynamo table)
    (hvalid : ValidCatalog (command.effect listed) ↔ ¬ command.Rejected listed) :
    command.Performs now table listed := by
  rw [Performs, hrun, Program.exec_tryCatch]
  by_cases hrejected : command.Rejected listed
  · obtain ⟨message, hexec⟩ := exec_checkedReplace_of_invalid now table
      (mt hvalid.mp (not_not.mpr hrejected))
    rw [hexec]
    exact Or.inl ⟨hrejected, [message], rfl⟩
  · rw [exec_checkedReplace_of_valid (hvalid.mpr hrejected)]
    exact Or.inr ⟨hrejected, rfl⟩

theorem any_id_iff {agentId : String} :
    (listed.any fun entry => entry.virtualAgentId = agentId) = true ↔
      agentId ∈ agentIds listed := by
  simp [agentIds]

theorem performs_add (hlisted : listAgents.exec dynamo table = (.ok listed, table))
    (hvalid : ValidCatalog listed) (agentId name : String) (isDefault : Bool) :
    (Command.add agentId name isDefault).Performs now table listed := by
  have hrun := exec_run_of_listed ((Command.add agentId name isDefault).run now) rfl hlisted
  by_cases hstored : agentId ∈ agentIds listed
  · rw [if_pos (any_id_iff.mpr hstored)] at hrun
    exact Or.inl ⟨Or.inl hstored, _, hrun⟩
  · rw [if_neg (mt any_id_iff.mp hstored)] at hrun
    apply Command.performs_of_checkedReplace hrun
    rw [Command.valid_effect_add_iff hvalid hstored]
    simp [Command.Rejected, hstored]

/-- What `cmd_update` writes is the effect of the update. -/
theorem updateEntries_eq_effect (agentId : String) (name : Option String) (isDefault : Bool) :
    (if (if isDefault then some true else none) = some true then
      (updateEntries agentId name (if isDefault then some true else none) listed).map
        fun entry => { entry with isDefault := entry.virtualAgentId = agentId }
    else updateEntries agentId name (if isDefault then some true else none) listed) =
      (Command.update agentId name isDefault).effect listed := by
  cases isDefault with
  | false =>
      simp only [Bool.false_eq_true, if_false, reduceCtorEq, updateEntries, Command.effect]
      apply List.map_congr_left
      intro entry _
      by_cases hid : entry.virtualAgentId = agentId
      · simp [hid]
      · simp [hid]
  | true =>
      simp only [if_true, updateEntries, Command.effect, List.map_map]
      apply List.map_congr_left
      intro entry _
      by_cases hid : entry.virtualAgentId = agentId
      · simp [hid]
      · simp [hid]

variable (now) in
theorem performs_update (hlisted : listAgents.exec dynamo table = (.ok listed, table))
    (hvalid : ValidCatalog listed) (agentId : String) (name : Option String) (isDefault : Bool) :
    (Command.update agentId name isDefault).Performs now table listed := by
  have hrun := exec_run_of_listed ((Command.update agentId name isDefault).run now) rfl hlisted
  by_cases hstored : agentId ∈ agentIds listed
  · rw [if_neg (by simp [any_id_iff.mpr hstored]), updateEntries_eq_effect] at hrun
    apply Command.performs_of_checkedReplace hrun
    rw [Command.valid_effect_update_iff hvalid hstored]
    simp [Command.Rejected, hstored]
  · rw [if_pos (by simpa using mt any_id_iff.mp hstored)] at hrun
    exact Or.inl ⟨Or.inl hstored, _, hrun⟩

theorem performs_setDefault (hlisted : listAgents.exec dynamo table = (.ok listed, table))
    (hvalid : ValidCatalog listed) (agentId : String) :
    (Command.setDefault agentId).Performs now table listed := by
  have hupdate := performs_update now hlisted hvalid agentId none true
  have hrejected : (Command.update agentId none true).Rejected listed ↔
      (Command.setDefault agentId).Rejected listed := by simp [Command.Rejected]
  rw [Command.Performs, hrejected, ← Command.effect_setDefault] at hupdate
  exact hupdate

theorem performs_remove (hlisted : listAgents.exec dynamo table = (.ok listed, table))
    (hvalid : ValidCatalog listed) (agentId : String) :
    (Command.remove agentId).Performs now table listed := by
  have hprogram : (removeAgent now agentId).exec dynamo table =
      ((Mutation.removeAgent agentId).afterListing now listed).exec dynamo table :=
    Mutation.exec_program_of_listed (congrArg Prod.fst hlisted) now (.removeAgent agentId)
  have hrun : ((Command.remove agentId).run now).exec dynamo table =
      (tryCatch (removeAgent now agentId >>= fun _ => return ⟨exitOk, []⟩)
        reportRemoveError).exec dynamo table := rfl
  rw [Command.Performs, hrun, Program.exec_tryCatch]
  by_cases hstored : agentId ∈ agentIds listed
  · have hnew : (Mutation.removeAgent agentId).newEntries listed =
        .ok ((Command.remove agentId).effect listed) :=
      if_neg (mt length_withoutAgent_eq_iff.mp (not_not.mpr hstored))
    rw [Mutation.afterListing_eq hnew] at hprogram
    have hvalid_iff := Command.valid_effect_remove_iff hvalid hstored
    by_cases hone : listed.length = 1
    · obtain ⟨message, hwrite⟩ := exec_writeEntries_of_invalid
        (mt hvalid_iff.mp (not_not.mpr hone)) now false table
      rw [Program.exec_bind_of_error (hprogram.trans hwrite), Program.recover_error]
      exact Or.inl ⟨Or.inr hone, [message], rfl⟩
    · have hwrite := exec_writeEntries now ⟨_, hvalid_iff.mpr hone⟩ false table
      rw [Program.exec_bind_of_ok (hprogram.trans hwrite)]
      refine Or.inr ⟨?_, rfl⟩
      simp [Command.Rejected, hstored, hone]
  · have hnew : (Mutation.removeAgent agentId).newEntries listed =
        .error (.catalogRepositoryError ("Agent not found: " ++ agentId)) :=
      if_pos (length_withoutAgent_eq_iff.mpr hstored)
    have herror : ((Mutation.removeAgent agentId).afterListing now listed).exec dynamo table =
        (.error (.catalogRepositoryError ("Agent not found: " ++ agentId)), table) := by
      rw [Mutation.afterListing, hnew]
      rfl
    obtain ⟨lines, hreport⟩ :=
      reportRemoveError_repositoryError ("Agent not found: " ++ agentId)
    rw [Program.exec_bind_of_error (hprogram.trans herror), Program.recover_error, hreport]
    exact Or.inl ⟨Or.inl hstored, lines, rfl⟩

variable (now) in
/-- Run against a table that lists a valid catalog, a command performs. -/
theorem Command.performs (hlisted : listAgents.exec dynamo table = (.ok listed, table))
    (hvalid : ValidCatalog listed) (command : Command) : command.Performs now table listed := by
  cases command with
  | add agentId name isDefault => exact performs_add hlisted hvalid agentId name isDefault
  | update agentId name isDefault => exact performs_update _ hlisted hvalid agentId name isDefault
  | remove agentId => exact performs_remove hlisted hvalid agentId
  | setDefault agentId => exact performs_setDefault hlisted hvalid agentId

end Exec

/-! ## Runs of commands -/

/-- The table after some commands, one at a time. -/
def runCommands (table : Table) (commands : List (DateTime × Command)) : Table :=
  runEvents (fun table timed => ((timed.2.run timed.1).exec dynamo table).2) table commands

/-- The entries after some commands on a list. -/
def runOnEntries (entries : List VirtualAgentCatalogEntry)
    (commands : List (DateTime × Command)) : List VirtualAgentCatalogEntry :=
  runEvents (fun entries timed => (timed.2.step entries).2) entries commands

/-- A table that stores and counts a valid list of entries. -/
def Refines (entries : List VirtualAgentCatalogEntry) (table : Table) : Prop :=
  ValidCatalog entries ∧ StoresCounted table entries

/-- One command: the exit code and the stored entries are those of the list, and
nothing else is written. -/
theorem Refines.command {entries : List VirtualAgentCatalogEntry} {table : Table}
    (h : Refines entries table) (now : DateTime) (command : Command) :
    ∃ result final, (command.run now).exec dynamo table = (.ok result, final) ∧
      result.exitCode = (command.step entries).1 ∧
      Refines (command.step entries).2 final ∧
      (result.exitCode = exitError → final = table) ∧
      ∀ key, isAgentKey key = false → key ≠ metaKey → final[key]? = table[key]? := by
  obtain ⟨hvalid, hstores⟩ := h
  have hcatalog : Stores table (Catalog.mk entries hvalid).entries := hstores.toStores
  obtain ⟨listed, hlisted, hperm⟩ := hcatalog.listAgents_perm
  have hlistedValid := hvalid.perm hperm.symm
  have hrejected := Command.rejected_iff_of_perm hperm command
  rcases Command.performs now (Prod.ext hlisted rfl) hlistedValid command with
    ⟨hrefused, lines, hexec⟩ | ⟨hdone, hexec⟩
  · rw [Command.step, if_pos (hrejected.mp hrefused)]
    exact ⟨_, _, hexec, rfl, ⟨hvalid, hstores⟩, fun _ => rfl, fun _ _ _ => rfl⟩
  · rw [Command.step, if_neg (mt hrejected.mpr hdone)]
    have hwritten := Table.overwrite_storesCounted table now false
      ⟨_, Command.valid_effect hlistedValid hdone⟩
    refine ⟨_, _, hexec, rfl, ⟨?_, ?_⟩, fun hcode => absurd hcode (by decide),
    fun key hagent hmeta => ?_⟩
    · exact Command.valid_effect hvalid (mt hrejected.mpr hdone)
    · exact hwritten.of_perm (Command.effect_perm hperm command)
    · exact table.overwrite_of_not_agent now false hagent hmeta

/-- Commands on the table refine commands on the list. -/
theorem Refines.run {entries : List VirtualAgentCatalogEntry} {table : Table}
    (h : Refines entries table) (commands : List (DateTime × Command)) :
    Refines (runOnEntries entries commands) (runCommands table commands) := by
  apply runEvents_related (R := Refines) _ commands h
  intro entries table timed h
  obtain ⟨result, final, hexec, -, hrefines, -⟩ := h.command timed.1 timed.2
  rw [hexec]
  exact hrefines

/-- What is stored is a valid catalog: its items are there under its keys and no
others, META counts them, and a listing returns them. -/
theorem Refines.represents {entries : List VirtualAgentCatalogEntry} {table : Table}
    (h : Refines entries table) :
    ValidCatalog entries ∧ Stores table entries ∧
      (table.agentItems.map Item.key).Perm
        (entries.map fun entry => agentKey entry.virtualAgentId) ∧
      CountedAs table table.agentItems.length ∧
      ∃ listed, listAgents.exec dynamo table = (.ok listed, table) ∧ listed.Perm entries := by
  obtain ⟨hvalid, hstores⟩ := h
  have hcatalog : Stores table (Catalog.mk entries hvalid).entries := hstores.toStores
  obtain ⟨listed, hlisted, hperm⟩ := hcatalog.listAgents_perm
  refine ⟨hvalid, hstores.toStores, hcatalog.agentKeys_perm, ?_,
    listed, Prod.ext hlisted rfl, hperm⟩
  rw [hcatalog.length_agentItems]
  exact hstores.counted

/-- Over any sequence of commands on a table that holds a catalog, the next
command fails exactly when it has to be refused, and then it leaves the table as
it is; otherwise what is stored afterwards is its effect. After every command the
agent items, their keys and their number in META are those of the catalog. -/
theorem commands_refine_entries {table : Table} {catalog : Catalog}
    (h : StoresCounted table catalog.entries) (commands : List (DateTime × Command)) :
    let entries := runOnEntries catalog.entries commands
    let stored := runCommands table commands
    (ValidCatalog entries ∧ Stores stored entries ∧
      (stored.agentItems.map Item.key).Perm
        (entries.map fun entry => agentKey entry.virtualAgentId) ∧
      CountedAs stored stored.agentItems.length ∧
      ∃ listed, listAgents.exec dynamo stored = (.ok listed, stored) ∧ listed.Perm entries) ∧
    ∀ (now : DateTime) (command : Command), ∃ result final,
      (command.run now).exec dynamo stored = (.ok result, final) ∧
      (result.exitCode = exitError ↔ command.Rejected entries) ∧
      (result.exitCode = exitOk ↔ ¬ command.Rejected entries) ∧
      (result.exitCode = exitError → final = stored) ∧
      (result.exitCode = exitOk → Stores final (command.effect entries) ∧
        ∀ key, isAgentKey key = false → key ≠ metaKey → final[key]? = stored[key]?) := by
  intro entries stored
  have hrun : Refines entries stored := Refines.run ⟨catalog.valid, h⟩ commands
  refine ⟨hrun.represents, fun now command => ?_⟩
  obtain ⟨result, final, hexec, hcode, hrefines, herror, hother⟩ := hrun.command now command
  refine ⟨result, final, hexec, ?_, ?_, herror, fun hok => ⟨?_, hother⟩⟩
  · rw [hcode, Command.exitCode_step_eq_error_iff]
  · rw [hcode, Command.exitCode_step_eq_ok_iff]
  · have hdone : ¬ command.Rejected entries := by
      rwa [hcode, Command.exitCode_step_eq_ok_iff] at hok
    rw [Command.step, if_neg hdone] at hrefines
    exact hrefines.2.toStores

/-- An agent is added to a catalog of one and becomes its default; adding it once
more is refused. -/
theorem commands_refine_entries_greeter :
    let add := Command.add "closer" "Closer" true
    let added := runCommands greeterTable [(noon, add)]
    Stores added [{ greeter with isDefault := false }, ⟨"closer", "Closer", true⟩] ∧
      ∃ lines, (add.run noon).exec dynamo added = (.ok ⟨exitError, lines⟩, added) := by
  intro add added
  have hstored : StoresCounted greeterTable (Catalog.mk [greeter] (by decide)).entries :=
    Table.overwrite_storesCounted ∅ noon true ⟨[greeter], by decide⟩
  have h := commands_refine_entries hstored [(noon, add)]
  obtain ⟨⟨-, hadded, -⟩, hnext⟩ := h
  refine ⟨hadded, ?_⟩
  obtain ⟨⟨code, lines⟩, final, hexec, hrejected, -, hsame, -⟩ := hnext noon add
  have hcode : code = exitError := hrejected.mpr (by decide)
  subst hcode
  obtain rfl := hsame rfl
  exact ⟨lines, hexec⟩

end ByodsServer
