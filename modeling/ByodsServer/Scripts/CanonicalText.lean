/-
# Trimmed ids and names

The loader of the seed file trims ids and names; the commands store what they
are given. A command that is not refused keeps all stored texts trimmed exactly
when its own are, and so does a run of commands.
-/

import ByodsServer.Byova.CatalogFile
import ByodsServer.Scripts.CatalogCommands

namespace ByodsServer

open Effects Python

/-- Every id and every name is trimmed, and no two ids are equal once trimmed. -/
structure CanonicalTexts (entries : List VirtualAgentCatalogEntry) : Prop where
  id_trimmed : ∀ entry ∈ entries, strip entry.virtualAgentId = entry.virtualAgentId
  name_trimmed : ∀ entry ∈ entries, strip entry.virtualAgentName = entry.virtualAgentName
  trimmed_ids_nodup : ((agentIds entries).map strip).Nodup

/-- Of a valid catalog it is enough that the texts are trimmed. -/
theorem ValidCatalog.canonicalTexts_iff {entries : List VirtualAgentCatalogEntry}
    (hvalid : ValidCatalog entries) :
    CanonicalTexts entries ↔ ∀ entry ∈ entries, strip entry.virtualAgentId = entry.virtualAgentId ∧
      strip entry.virtualAgentName = entry.virtualAgentName := by
  constructor
  · intro h entry hentry
    exact ⟨h.id_trimmed entry hentry, h.name_trimmed entry hentry⟩
  · intro h
    refine ⟨fun entry hentry => (h entry hentry).1, fun entry hentry => (h entry hentry).2, ?_⟩
    have hids : (agentIds entries).map strip = agentIds entries := by
      rw [agentIds, List.map_map]
      exact List.map_congr_left fun entry hentry => (h entry hentry).1
    rw [hids]
    exact hvalid.ids_nodup

theorem CanonicalTexts.of_perm {entries others : List VirtualAgentCatalogEntry}
    (h : CanonicalTexts entries) (hperm : entries.Perm others) : CanonicalTexts others where
  id_trimmed entry hentry := h.id_trimmed entry (hperm.mem_iff.mpr hentry)
  name_trimmed entry hentry := h.name_trimmed entry (hperm.mem_iff.mpr hentry)
  trimmed_ids_nodup := ((hperm.map _).map _).nodup h.trimmed_ids_nodup

/-- What the loader returns is trimmed. -/
theorem loadCatalog_canonicalTexts {json : JsonLib} {file : SeedFile}
    {entries : List VirtualAgentCatalogEntry} (h : loadCatalog json file = .ok entries) :
    CanonicalTexts entries := by
  obtain ⟨-, -, hreadable, hentries, hvalid⟩ := loadCatalog_eq_ok_iff.mp h
  rw [hvalid.canonicalTexts_iff, hentries]
  intro entry hentry
  obtain ⟨fields, hfields, rfl⟩ := List.mem_map.mp hentry
  obtain ⟨name, hname⟩ := (hreadable fields hfields).name_string
  refine ⟨strip_strip _, ?_⟩
  unfold readEntry
  rw [hname]
  exact strip_strip name

namespace Command

/-- The id and the name that the command would store are trimmed. -/
def CanonicalArguments : Command → Prop
  | add agentId name _ => strip agentId = agentId ∧ strip name = name
  | update _ name _ => ∀ new ∈ name, strip new = new
  | remove _ => True
  | setDefault _ => True

/-- A command that is not refused keeps the texts trimmed exactly when its own
are. -/
theorem canonicalTexts_effect_iff {entries : List VirtualAgentCatalogEntry}
    (hvalid : ValidCatalog entries) (hcanonical : CanonicalTexts entries) {command : Command}
    (h : ¬ command.Rejected entries) :
    CanonicalTexts (command.effect entries) ↔ command.CanonicalArguments := by
  rw [(valid_effect hvalid h).canonicalTexts_iff]
  rw [hvalid.canonicalTexts_iff] at hcanonical
  cases command with
  | add agentId name isDefault =>
      have hkept : ∀ entry ∈ (if isDefault then
            entries.map fun entry => { entry with isDefault := false } else entries),
          strip entry.virtualAgentId = entry.virtualAgentId ∧
            strip entry.virtualAgentName = entry.virtualAgentName := by
        cases isDefault with
        | false => exact hcanonical
        | true =>
            intro entry hentry
            obtain ⟨stored, hstored, rfl⟩ := List.mem_map.mp hentry
            exact hcanonical stored hstored
      rw [effect, List.forall_mem_append, and_iff_right hkept, List.forall_mem_singleton]
      rfl
  | update agentId name isDefault =>
      simp only [Rejected, not_or, not_not] at h
      obtain ⟨stored, hstored, hid⟩ := List.mem_map.mp h.1
      rw [effect, List.forall_mem_map]
      constructor
      · rintro hall new rfl
        have hnew := (hall stored hstored).2
        simpa only [if_pos hid, Option.getD_some] using hnew
      · intro hnew entry hentry
        have htrimmed := hcanonical entry hentry
        split
        · refine ⟨htrimmed.1, ?_⟩
          cases name with
          | none => exact htrimmed.2
          | some new => exact hnew new rfl
        · split
          · exact htrimmed
          · exact htrimmed
  | remove agentId =>
      refine iff_of_true (fun entry hentry => ?_) trivial
      exact hcanonical entry (List.mem_of_mem_filter hentry)
  | setDefault agentId =>
      refine iff_of_true (fun entry hentry => ?_) trivial
      obtain ⟨stored, hstored, rfl⟩ := List.mem_map.mp hentry
      exact hcanonical stored hstored

end Command

/-- The agents a table stores, as they are listed. -/
def storedAgents (table : Table) : List VirtualAgentCatalogEntry :=
  match (listAgents.exec dynamo table).1 with
  | .ok listed => listed
  | .error _ => []

theorem Refines.storedAgents_perm {entries : List VirtualAgentCatalogEntry} {table : Table}
    (h : Refines entries table) : (storedAgents table).Perm entries := by
  obtain ⟨-, -, -, -, listed, hlisted, hperm⟩ := h.represents
  rw [storedAgents, hlisted]
  exact hperm

/-- The same for a table: a command keeps its texts trimmed exactly when it is
refused or its own texts are trimmed. -/
theorem Refines.canonicalTexts_command_iff {entries : List VirtualAgentCatalogEntry}
    {table : Table} (h : Refines entries table) (hcanonical : CanonicalTexts (storedAgents table))
    (now : DateTime) (command : Command) :
    CanonicalTexts (storedAgents ((command.run now).exec dynamo table).2) ↔
      command.Rejected (storedAgents table) ∨ command.CanonicalArguments := by
  obtain ⟨result, final, hexec, -, hfinal, -⟩ := h.command now command
  have hperm := h.storedAgents_perm
  have hentries : CanonicalTexts entries := hcanonical.of_perm hperm
  have hstored : CanonicalTexts (storedAgents final) ↔
      CanonicalTexts (command.step entries).2 :=
    ⟨fun hcanonical => hcanonical.of_perm hfinal.storedAgents_perm,
      fun hcanonical => hcanonical.of_perm hfinal.storedAgents_perm.symm⟩
  rw [hexec, hstored, Command.rejected_iff_of_perm hperm, Command.step]
  by_cases hrejected : command.Rejected entries
  · rw [if_pos hrejected]
    exact iff_of_true hentries (Or.inl hrejected)
  · rw [if_neg hrejected, Command.canonicalTexts_effect_iff h.1 hentries hrejected,
      or_iff_right hrejected]

/-- A table without META that is seeded from a file stores the entries of the
file. -/
theorem refines_of_seeded {json : JsonLib} {seed : SeedFile}
    {entries : List VirtualAgentCatalogEntry} (hload : loadCatalog json seed = .ok entries)
    {table : Table} (hmeta : table[metaKey]? = none) (now : DateTime) :
    Refines entries ((ensureSeeded json seed now).exec dynamo table).2 := by
  have hvalid := loadCatalog_valid hload
  rw [exec_ensureSeeded_of_loaded hmeta hload now]
  exact ⟨hvalid, Table.overwrite_storesCounted table now true ⟨entries, hvalid⟩⟩

/-- In a table seeded from a file that loads, all texts stay trimmed along a run
of commands exactly when each command was refused or its own texts were
trimmed. -/
theorem runCommands_canonicalTexts_iff {json : JsonLib} {seed : SeedFile}
    {entries : List VirtualAgentCatalogEntry} (hload : loadCatalog json seed = .ok entries)
    {table : Table} (hmeta : table[metaKey]? = none) (now : DateTime)
    (commands : List (DateTime × Command)) :
    let seeded := ((ensureSeeded json seed now).exec dynamo table).2
    (∀ before after, commands = before ++ after →
      CanonicalTexts (storedAgents (runCommands seeded before))) ↔
    ∀ before timed after, commands = before ++ timed :: after →
      timed.2.Rejected (storedAgents (runCommands seeded before)) ∨
        timed.2.CanonicalArguments := by
  intro seeded
  have hseeded : Refines entries seeded := refines_of_seeded hload hmeta now
  have hstart : (∃ entries, Refines entries seeded) ∧ CanonicalTexts (storedAgents seeded) :=
    ⟨⟨entries, hseeded⟩, (loadCatalog_canonicalTexts hload).of_perm
      hseeded.storedAgents_perm.symm⟩
  -- The invariant of the run: the table stores some catalog, with trimmed texts.
  have hstep (table : Table) (timed : DateTime × Command)
      (h : (∃ entries, Refines entries table) ∧ CanonicalTexts (storedAgents table)) :
      ((∃ entries, Refines entries ((timed.2.run timed.1).exec dynamo table).2) ∧
          CanonicalTexts (storedAgents ((timed.2.run timed.1).exec dynamo table).2)) ↔
        timed.2.Rejected (storedAgents table) ∨ timed.2.CanonicalArguments := by
    obtain ⟨⟨entries, hrefines⟩, hcanonical⟩ := h
    obtain ⟨result, final, hexec, -, hfinal, -⟩ := hrefines.command timed.1 timed.2
    have hstored : ∃ entries, Refines entries ((timed.2.run timed.1).exec dynamo table).2 := by
      rw [hexec]
      exact ⟨_, hfinal⟩
    rw [and_iff_right hstored]
    exact hrefines.canonicalTexts_command_iff hcanonical timed.1 timed.2
  have hrun := holds_iff_safe hstep hstart commands
  constructor
  · intro h
    exact hrun.mp fun before after hcommands =>
      ⟨⟨_, hseeded.run before⟩, h before after hcommands⟩
  · intro h before after hcommands
    exact (hrun.mpr h before after hcommands).2

/-- Adding an agent with a trimmed id and name to the seed keeps the texts trimmed. -/
theorem runCommands_canonicalTexts_iff_greeter :
    let seeded := ((ensureSeeded greeterJson greeterSeed noon).exec dynamo ∅).2
    CanonicalTexts (storedAgents (runCommands seeded [(noon, .add "closer" "Closer" true)])) := by
  intro seeded
  have hempty : (∅ : Table)[metaKey]? = none := rfl
  have hrun := runCommands_canonicalTexts_iff loadCatalog_greeter hempty noon
    [(noon, .add "closer" "Closer" true)]
  refine hrun.mpr (fun before timed after hcommands => Or.inr ?_) _ [] (List.append_nil _).symm
  have hmem : timed ∈ [(noon, Command.add "closer" "Closer" true)] := by
    rw [hcommands]
    exact List.mem_append_right _ List.mem_cons_self
  rw [List.mem_singleton.mp hmem]
  exact ⟨by decide, by decide⟩

/-- The agent of the seed can be added once more, with blanks around its id. -/
theorem add_untrimmed_duplicate :
    let seeded := ((ensureSeeded greeterJson greeterSeed noon).exec dynamo ∅).2
    let stored := storedAgents (runCommands seeded [(noon, .add " greeter " "Greeter" false)])
    (agentIds stored).Perm ["greeter", " greeter "] ∧ ¬ CanonicalTexts stored := by
  intro seeded stored
  have hempty : (∅ : Table)[metaKey]? = none := rfl
  have hseeded : Refines [greeter] seeded := refines_of_seeded loadCatalog_greeter hempty noon
  have hrun := hseeded.run [(noon, .add " greeter " "Greeter" false)]
  have hperm : stored.Perm [greeter, ⟨" greeter ", "Greeter", false⟩] := hrun.storedAgents_perm
  refine ⟨hperm.map _, fun hcanonical => ?_⟩
  have htrimmed := (hcanonical.of_perm hperm).trimmed_ids_nodup
  exact absurd htrimmed (by decide)

end ByodsServer
