/-
# Repairing the catalog with the program's own operations

Seeding and the catalog commands, any of them cut short by a failing table call,
lead to tables whose agents all come from one valid catalog. If there is any
agent left, the listing already works. If there is none, every command stops at
its own listing, and seeding stops at META or at the seed file, so such a table
can be repaired exactly when META is missing and the seed file loads.
-/

import ByodsServer.Effects.Runs
import ByodsServer.Persistence.CatalogAtomicity
import ByodsServer.Scripts.ManageVirtualAgents

namespace ByodsServer

open Effects Python

/-- The operations that change the catalog. -/
inductive CatalogOperation
  | ensureSeeded
  | command (line : Command)
  deriving DecidableEq, Repr

/-- Run an operation for its effect on the table. -/
def CatalogOperation.run (json : JsonLib) (seed : SeedFile) (now : DateTime) :
    CatalogOperation → TableProgram Unit
  | ensureSeeded => ByodsServer.ensureSeeded json seed now
  | command line => do
      let _ ← line.run now
      return ()

/-- The tables that operations lead to, starting from the empty one. The seed
file may be another one each time, and any call of an operation may fail. -/
inductive ReachableTable (json : JsonLib) : Table → Prop
  | empty : ReachableTable json ∅
  | step {table : Table} (operation : CatalogOperation) (seed : SeedFile) (now : DateTime)
      (plan : List (Option PyException)) (h : ReachableTable json table) :
      ReachableTable json ((operation.run json seed now).exec dynamo.faulty (table, plan)).2.1

/-- The table after operations without failures, with one seed file. -/
def runOperations (json : JsonLib) (seed : SeedFile)
    (operations : List (CatalogOperation × DateTime)) (table : Table) : Table :=
  operations.foldl (fun table operation =>
    ((operation.1.run json seed operation.2).exec dynamo table).2) table

/-- Some operations without failures lead to a table that lists a valid catalog. -/
def Repairable (json : JsonLib) (seed : SeedFile) (table : Table) : Prop :=
  ∃ operations listed,
    (listAgents.exec dynamo (runOperations json seed operations table)).1 = .ok listed ∧
      ValidCatalog listed

/-! ## The agents always come from one valid catalog -/

/-- All agents of the table come from one valid catalog. -/
def Recoverable (table : Table) : Prop :=
  ∃ catalog : Catalog, StoresWithin table catalog.entries

theorem StoresWithin.erase {table : Table} {entries : List VirtualAgentCatalogEntry}
    (h : StoresWithin table entries) (key : Key) : StoresWithin (table.erase key) entries := by
  intro other attrs hagent hstored
  rw [Table.getElem?_erase] at hstored
  split_ifs at hstored
  exact h other attrs hagent hstored

theorem StoresWithin.insert_agent {table : Table} {entries : List VirtualAgentCatalogEntry}
    (h : StoresWithin table entries) (now : DateTime) {entry : VirtualAgentCatalogEntry}
    (hentry : entry ∈ entries) :
    StoresWithin (table.insert (agentKey entry.virtualAgentId) (agentAttrs now entry)) entries := by
  intro other attrs hagent hstored
  rw [Table.getElem?_insert] at hstored
  split_ifs at hstored with hkey
  · exact ⟨entry, hentry, now, hkey.symm, (Option.some.inj hstored).symm⟩
  · exact h other attrs hagent hstored

theorem StoresWithin.insert_other {table : Table} {entries : List VirtualAgentCatalogEntry}
    (h : StoresWithin table entries) {key : Key} (hkey : isAgentKey key = false)
    (attrs : Attrs) : StoresWithin (table.insert key attrs) entries := by
  intro other attrs' hagent hstored
  rw [Table.getElem?_insert, if_neg] at hstored
  · exact h other attrs' hagent hstored
  · intro heq
    rw [heq, hagent] at hkey
    cases hkey

theorem storesWithin_of_no_agents {table : Table}
    (h : ∀ key, isAgentKey key = true → table[key]? = none)
    (entries : List VirtualAgentCatalogEntry) : StoresWithin table entries := by
  intro key attrs hagent hstored
  rw [h key hagent] at hstored
  cases hstored

/-- The puts of a write only add entries of its list. -/
theorem maintains_puts (now : DateTime) (entries : List VirtualAgentCatalogEntry)
    (seededFromFile : Bool) :
    ((Program.forEach entries fun entry => putItem (agentItem now entry)) >>= fun _ =>
        putItem (metaItem now entries.length seededFromFile)).Maintains dynamo
      fun table => StoresWithin table entries := by
  have huses : ((Program.forEach entries fun entry => putItem (agentItem now entry)) >>= fun _ =>
      putItem (metaItem now entries.length seededFromFile)).Uses fun request =>
        (∃ entry ∈ entries, request = TableCall.putItem (agentItem now entry)) ∨
          request = TableCall.putItem (metaItem now entries.length seededFromFile) :=
    (Program.uses_forEach fun entry hentry =>
      Program.uses_await (Or.inl ⟨entry, hentry, rfl⟩)).bind fun _ =>
        Program.uses_await (Or.inr rfl)
  refine huses.maintains ?_
  intro request hrequest table htable
  rcases hrequest with ⟨entry, hentry, rfl⟩ | rfl
  · exact htable.insert_agent now hentry
  · exact htable.insert_other isAgentKey_metaKey _

/-- At every point of a write the agents come from the old or the new catalog. -/
theorem maintains_writeEntries (now : DateTime) (entries : List VirtualAgentCatalogEntry)
    (seededFromFile : Bool) :
    (writeEntries now entries seededFromFile).Maintains dynamo Recoverable := by
  rw [writeEntries]
  cases hvalidate : validateCatalogEntries entries with
  | error e => exact Program.maintains_finish _
  | ok checked =>
      have hvalid := (validateCatalogEntries_eq_ok_iff entries).mp hvalidate
      intro table htable fuel
      obtain ⟨catalog, hcatalog⟩ := htable
      rw [Program.ofExcept_eq, Program.finish_bind, overwriteEntries, Program.bind_eq]
      rcases Program.runFor_resume_cases dynamo fuel (query agentQuery) _ table with
        ⟨spent, hspent⟩ | ⟨spent, hspent⟩
      · rw [hspent]
        exact maintains_of_reads (query_reads agentQuery) table ⟨catalog, hcatalog⟩ spent
      · rw [hspent, exec_query_dynamo, Program.andThen_ok, Program.bind_eq]
        rcases Program.runFor_resume_cases dynamo spent
            (Program.forEach table.agentItems fun item => deleteItem item.key) _ table with
          ⟨rest, hrest⟩ | ⟨rest, hrest⟩
        · -- While the old agents are deleted, the others are still the old ones.
          refine ⟨catalog, ?_⟩
          rw [← Table.agentItems, hrest]
          have huses : (Program.forEach table.agentItems fun item => deleteItem item.key).Uses
              fun request => ∃ key, request = TableCall.deleteItem key :=
            Program.uses_forEach fun item _ => Program.uses_await ⟨item.key, rfl⟩
          have hkept : (Program.forEach table.agentItems fun item =>
              deleteItem item.key).Maintains dynamo
                fun table => StoresWithin table catalog.entries := by
            refine huses.maintains ?_
            intro request hrequest state hstate
            obtain ⟨key, rfl⟩ := hrequest
            exact hstate.erase key
          exact hkept table hcatalog rest
        · -- Once none is left, the new ones are added.
          refine ⟨⟨entries, hvalid⟩, ?_⟩
          rw [← Table.agentItems, hrest, dynamo, exec_forEach_deleteItem, Program.andThen_ok]
          refine maintains_puts now entries seededFromFile _ ?_ rest
          apply storesWithin_of_no_agents
          intro key hkey
          rw [Table.getElem?_eraseAll_agentItems, if_pos hkey]

theorem CatalogOperation.maintains_run (json : JsonLib) (seed : SeedFile) (now : DateTime)
    (operation : CatalogOperation) :
    (operation.run json seed now).Maintains dynamo Recoverable := by
  cases operation with
  | ensureSeeded =>
      exact maintains_ensureSeeded
        (fun entries => maintains_writeEntries now entries true) json seed
  | command line =>
      exact (Command.maintains_run (fun entries => maintains_writeEntries now entries false)
        line).bind fun _ => Program.maintains_finish _

/-! ## A failing call ends the operation -/

/-- A body that only propagates exceptions, with a handler that only reports. -/
theorem stopsOnError_tryCatch {α : Type} {p : TableProgram α} {h : PyException → TableProgram α}
    (hp : p.Propagates) (hh : ∀ e, ∃ report, h e = .finish report) :
    (MonadExcept.tryCatch p h : TableProgram α).StopsOnError := by
  apply hp.stopsOnError.resume
  intro result
  cases result with
  | ok value => exact ⟨_, rfl⟩
  | error e => exact hh e

theorem Command.stopsOnError_run (now : DateTime) (command : Command) :
    (command.run now).StopsOnError := by
  obtain ⟨afterListing, report, hrun⟩ := command.listsThenWrites now
  rw [hrun.run_eq]
  refine stopsOnError_tryCatch (propagates_listFromTable.bind fun stored => ?_)
    hrun.report_finishes
  rcases hrun.after stored with ⟨result, hresult⟩ | ⟨entries, -, hentries⟩
  · rw [hresult]
    trivial
  · rw [hentries]
    exact (propagates_writeEntries now entries false).bind fun _ => trivial

theorem stopsOnError_ensureSeeded (json : JsonLib) (seed : SeedFile) (now : DateTime) :
    (ensureSeeded json seed now).StopsOnError := by
  apply Program.Propagates.stopsOnError
  refine (Program.propagates_await _).bind fun stored => ?_
  cases stored with
  | some item => trivial
  | none =>
      dsimp only
      split
      · trivial
      · trivial
      · exact propagates_writeEntries now _ true

theorem CatalogOperation.stopsOnError_run (json : JsonLib) (seed : SeedFile) (now : DateTime)
    (operation : CatalogOperation) : (operation.run json seed now).StopsOnError := by
  cases operation with
  | ensureSeeded => exact stopsOnError_ensureSeeded json seed now
  | command line =>
      apply (line.stopsOnError_run now).resume
      intro result
      cases result with
      | ok value => exact ⟨_, rfl⟩
      | error e => exact ⟨_, rfl⟩

/-- Whatever operations ran and wherever they were cut short, the agents come
from one valid catalog. -/
theorem ReachableTable.recoverable {json : JsonLib} {table : Table}
    (h : ReachableTable json table) : Recoverable table := by
  induction h with
  | empty =>
      refine ⟨⟨[greeter], by decide⟩, storesWithin_of_no_agents ?_ _⟩
      intro key _
      rfl
  | step operation seed now plan _ ih =>
      obtain ⟨fuel, hfuel⟩ := (operation.stopsOnError_run json seed now).exec_faulty _ plan
      rw [hfuel]
      exact operation.maintains_run json seed now _ ih fuel

/-! ## Tables without agents -/

theorem exec_listAgents_of_no_agents {table : Table} (h : table.agentItems = []) :
    listAgents.exec dynamo table =
      (.error (.catalogLoadError "Catalog is empty in DynamoDB"), table) := by
  rw [exec_listAgents, h, entriesOfItems_nil]

/-- Without agents every command stops at its own listing. -/
theorem Command.exec_run_of_no_agents (now : DateTime) (command : Command) {table : Table}
    (h : table.agentItems = []) :
    (command.run now).exec dynamo table =
      (.ok ⟨exitError, ["Catalog is empty in DynamoDB"]⟩, table) := by
  obtain ⟨afterListing, report, hrun⟩ := command.listsThenWrites now
  rw [hrun.run_eq, Program.exec_tryCatch,
    Program.exec_bind_of_error (exec_listAgents_of_no_agents h), Program.recover_error,
    hrun.report_loadError, Program.exec_finish]

/-- Seeding writes only when META is missing and the seed file loads. -/
def Seedable (json : JsonLib) (seed : SeedFile) (table : Table) : Prop :=
  table[metaKey]? = none ∧ ∃ entries, loadCatalog json seed = .ok entries

theorem exec_ensureSeeded_of_not_seedable {json : JsonLib} {seed : SeedFile} (now : DateTime)
    {table : Table} (h : ¬ Seedable json seed table) :
    ((ensureSeeded json seed now).exec dynamo table).2 = table := by
  cases hmeta : table[metaKey]? with
  | some attrs =>
      exact congrArg Prod.snd
        (exec_ensureSeeded_of_meta Paging.single (by simp [hmeta]) json seed now)
  | none =>
      rw [ensureSeeded, Program.exec_bind, dynamo, exec_getItem, Program.andThen_ok, Table.item?,
        hmeta]
      cases hload : loadCatalog json seed with
      | ok entries => exact (h ⟨hmeta, entries, hload⟩).elim
      | error e => cases e <;> rfl

/-- A table without agents that cannot be seeded stays as it is. -/
theorem runOperations_of_stuck {json : JsonLib} {seed : SeedFile} {table : Table}
    (hagents : table.agentItems = []) (hseed : ¬ Seedable json seed table)
    (operations : List (CatalogOperation × DateTime)) :
    runOperations json seed operations table = table := by
  refine runEvents_invariant (P := fun later => later = table) ?_ operations rfl
  rintro _ ⟨operation, now⟩ rfl
  cases operation with
  | ensureSeeded => exact exec_ensureSeeded_of_not_seedable now hseed
  | command line =>
      rw [CatalogOperation.run,
        Program.exec_bind_of_ok (line.exec_run_of_no_agents now hagents)]
      rfl

/-! ## Which tables can be repaired -/

theorem repairable_of_agents {json : JsonLib} {table : Table} (h : Recoverable table)
    (hagents : table.agentItems ≠ []) (seed : SeedFile) : Repairable json seed table := by
  obtain ⟨catalog, hcatalog⟩ := h
  obtain ⟨listed, hlisted, hvalid, -⟩ := hcatalog.entriesOfItems_eq_ok hagents
  exact ⟨[], listed, hlisted, hvalid⟩

theorem repairable_of_seedable {json : JsonLib} {seed : SeedFile} {table : Table}
    (h : Seedable json seed table) : Repairable json seed table := by
  obtain ⟨hmeta, entries, hload⟩ := h
  have hvalid := loadCatalog_valid hload
  have hrun := exec_ensureSeeded_of_loaded hmeta hload noon
  obtain ⟨listed, hlisted, hperm⟩ :=
    (table.overwrite_stores noon true ⟨entries, hvalid⟩).listAgents_perm
  refine ⟨[(.ensureSeeded, noon)], listed, ?_, ?_⟩
  · rw [runOperations, List.foldl_cons, List.foldl_nil, CatalogOperation.run, hrun]
    exact hlisted
  · have hnodup := (hperm.map VirtualAgentCatalogEntry.virtualAgentId).nodup_iff.mpr
      hvalid.ids_nodup
    have hnonempty : listed ≠ [] := fun hnil => hvalid.nonempty (hnil ▸ hperm).nil_eq.symm
    exact hvalid.of_subset hnonempty hnodup fun entry => hperm.mem_iff.mp

/-- What the program promises of a table: its operations can repair it, and where
there is no agent and no usable seed file, adding an agent works. -/
structure KeepsRepairPromise (json : JsonLib) (seed : SeedFile) (table : Table) : Prop where
  repairable : Repairable json seed table
  add_succeeds : table.agentItems = [] → (∀ entries, loadCatalog json seed ≠ .ok entries) →
    ∀ now agentId name isDefault, strip agentId ≠ "" → strip name ≠ "" →
      ∃ stderr, ((cmdAdd now agentId name isDefault).exec dynamo table).1 = .ok ⟨exitOk, stderr⟩

/-- The promise is kept for exactly the reachable tables with an agent left, or
without META and with a seed file that loads; and on a table without agents no
`add` succeeds. -/
theorem keepsRepairPromise_iff_and_add_fails (json : JsonLib) (seed : SeedFile) (table : Table)
    (h : ReachableTable json table) :
    (KeepsRepairPromise json seed table ↔
      table.agentItems ≠ [] ∨ Seedable json seed table) ∧
      (table.agentItems = [] → ∀ now agentId name isDefault,
        (cmdAdd now agentId name isDefault).exec dynamo table =
          (.ok ⟨exitError, ["Catalog is empty in DynamoDB"]⟩, table)) := by
  refine ⟨⟨?_, ?_⟩, ?_⟩
  · intro hpromise
    by_contra hstuck
    push Not at hstuck
    obtain ⟨operations, listed, hlisted, -⟩ := hpromise.repairable
    rw [runOperations_of_stuck hstuck.1 hstuck.2, exec_listAgents_of_no_agents hstuck.1] at hlisted
    cases hlisted
  · intro hcases
    rcases hcases with hagents | hseed
    · exact ⟨repairable_of_agents h.recoverable hagents seed, fun hnone => (hagents hnone).elim⟩
    · obtain ⟨entries, hload⟩ := hseed.2
      exact ⟨repairable_of_seedable hseed, fun _ hunusable => (hunusable entries hload).elim⟩
  · intro hagents now agentId name isDefault
    exact Command.exec_run_of_no_agents now (.add agentId name isDefault) hagents

/-! ## The empty table without a seed file -/

/-- A runtime whose parser accepts nothing. -/
def noJson : JsonLib where
  loads text := .error (.jsonDecodeError text)
  repr _ := ""

/-- A seed path where there is no file. -/
def missingSeed : SeedFile where
  path := "config/virtual_agents.json"
  isFile := false
  readText := .error (.osError "No such file or directory")

theorem keepsRepairPromise_iff_and_add_fails_empty :
    (KeepsRepairPromise noJson missingSeed ∅ ↔
      Table.agentItems ∅ ≠ [] ∨ Seedable noJson missingSeed ∅) ∧
      (Table.agentItems ∅ = [] → ∀ now agentId name isDefault,
        (cmdAdd now agentId name isDefault).exec dynamo ∅ =
          (.ok ⟨exitError, ["Catalog is empty in DynamoDB"]⟩, ∅)) :=
  keepsRepairPromise_iff_and_add_fails noJson missingSeed ∅ .empty

/-- On the empty table without a seed file nothing helps, and adding an agent,
as the warning of seeding advises, fails. -/
theorem empty_table_not_repairable :
    ReachableTable noJson ∅ ∧ ¬ Repairable noJson missingSeed ∅ ∧
      ((cmdAdd noon "greeter" "Greeter" true).exec dynamo ∅).1 =
        .ok ⟨exitError, ["Catalog is empty in DynamoDB"]⟩ := by
  have hstuck : ¬ Seedable noJson missingSeed ∅ := by
    intro hseed
    obtain ⟨-, entries, hload⟩ := hseed
    cases hload
  refine ⟨.empty, ?_, by decide⟩
  intro hrepair
  obtain ⟨operations, listed, hlisted, -⟩ := hrepair
  rw [runOperations_of_stuck rfl hstuck] at hlisted
  cases hlisted

end ByodsServer
