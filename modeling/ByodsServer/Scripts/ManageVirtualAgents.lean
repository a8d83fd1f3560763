/-
# The catalog command line

The commands of `manage_virtual_agents.py` that change the catalog. Each ends in
an exit code and the lines it prints to stderr; only the two catalog exceptions
are caught, every other one ends the process.
-/

import ByodsServer.Persistence.CatalogAtomicity

namespace ByodsServer

open Effects Python

/-- `EXIT_OK`. -/
def exitOk : ℕ := 0

/-- `EXIT_ERROR`. -/
def exitError : ℕ := 1

/-- How a command ends. -/
structure CommandResult where
  exitCode : ℕ
  stderr : List String := []
  deriving DecidableEq, Repr

/-- `except (CatalogLoadError, CatalogRepositoryError) as exc`. -/
def reportCatalogError : PyException → TableProgram CommandResult
  | .catalogLoadError message => pure ⟨exitError, [message]⟩
  | .catalogRepositoryError message => pure ⟨exitError, [message]⟩
  | e => throw e

/-- `cmd_add`. -/
def cmdAdd (now : DateTime) (agentId name : String) (isDefault : Bool) :
    TableProgram CommandResult :=
  tryCatch
    (do
      let entries ← listAgents
      if entries.any fun entry => entry.virtualAgentId = agentId then
        return ⟨exitError, ["DUPLICATE_ID: agent id '" ++ agentId ++ "' already exists"]⟩
      else do
        let kept :=
          if isDefault then entries.map fun entry => { entry with isDefault := false }
          else entries
        let updated := kept ++ [⟨agentId, name, isDefault⟩]
        Program.ofExcept (validateCatalogEntries updated)
        replaceAll now updated
        return ⟨exitOk, []⟩)
    reportCatalogError

/-- The entries with an agent's name and default flag updated. -/
def updateEntries (agentId : String) (name : Option String) (isDefault : Option Bool)
    (entries : List VirtualAgentCatalogEntry) : List VirtualAgentCatalogEntry :=
  entries.map fun entry =>
    if entry.virtualAgentId ≠ agentId then entry
    else ⟨agentId, name.getD entry.virtualAgentName, isDefault.getD entry.isDefault⟩

/-- `cmd_update`. -/
def cmdUpdate (now : DateTime) (agentId : String) (name : Option String)
    (isDefault : Option Bool) : TableProgram CommandResult :=
  tryCatch
    (do
      let entries ← listAgents
      let found := entries.any fun entry => entry.virtualAgentId = agentId
      let updated := updateEntries agentId name isDefault entries
      if !found then
        return ⟨exitError, ["NOT_FOUND: agent id '" ++ agentId ++ "'"]⟩
      else do
        let updated :=
          if isDefault = some true then
            updated.map fun entry => { entry with isDefault := entry.virtualAgentId = agentId }
          else updated
        Program.ofExcept (validateCatalogEntries updated)
        replaceAll now updated
        return ⟨exitOk, []⟩)
    reportCatalogError

/-- The `except` clauses of `cmd_remove`. -/
def reportRemoveError : PyException → TableProgram CommandResult
  | .catalogLoadError message => pure ⟨exitError, [message]⟩
  | .catalogRepositoryError message =>
      if contains (lower message) "not found" then
        pure ⟨exitError, ["NOT_FOUND: " ++ message]⟩
      else
        pure ⟨exitError, ["EMPTY_CATALOG: " ++ message]⟩
  | e => throw e

/-- `cmd_remove`. -/
def cmdRemove (now : DateTime) (agentId : String) : TableProgram CommandResult :=
  tryCatch
    (do
      removeAgent now agentId
      return ⟨exitOk, []⟩)
    reportRemoveError

/-- `cmd_set_default`. -/
def cmdSetDefault (now : DateTime) (agentId : String) : TableProgram CommandResult :=
  cmdUpdate now agentId none (some true)

/-- A command line; `--default` of `update` can only be given, not denied. -/
inductive Command
  | add (agentId name : String) (isDefault : Bool)
  | update (agentId : String) (name : Option String) (isDefault : Bool)
  | remove (agentId : String)
  | setDefault (agentId : String)
  deriving DecidableEq, Repr

/-- `main`, for the commands that change the catalog. -/
def Command.run (now : DateTime) : Command → TableProgram CommandResult
  | add agentId name isDefault => cmdAdd now agentId name isDefault
  | update agentId name isDefault =>
      cmdUpdate now agentId name (if isDefault then some true else none)
  | remove agentId => cmdRemove now agentId
  | setDefault agentId => cmdSetDefault now agentId

/-! ## What a command writes -/

/-- The entries that `cmd_add` makes of the listed ones, unless the id is taken. -/
def addedEntries (agentId name : String) (isDefault : Bool)
    (stored : List VirtualAgentCatalogEntry) : Option (List VirtualAgentCatalogEntry) :=
  if stored.any fun entry => entry.virtualAgentId = agentId then none
  else
    some ((if isDefault then stored.map fun entry => { entry with isDefault := false }
      else stored) ++ [⟨agentId, name, isDefault⟩])

/-- The entries that `cmd_update` makes of the listed ones, if the agent is there. -/
def updatedEntries (agentId : String) (name : Option String) (isDefault : Option Bool)
    (stored : List VirtualAgentCatalogEntry) : Option (List VirtualAgentCatalogEntry) :=
  if stored.any fun entry => entry.virtualAgentId = agentId then
    some (if isDefault = some true then
      (updateEntries agentId name isDefault stored).map fun entry =>
        { entry with isDefault := entry.virtualAgentId = agentId }
    else updateEntries agentId name isDefault stored)
  else none

/-- The entries that a command makes of the listed ones. -/
def Command.newEntries (stored : List VirtualAgentCatalogEntry) :
    Command → Option (List VirtualAgentCatalogEntry)
  | add agentId name isDefault => addedEntries agentId name isDefault stored
  | update agentId name isDefault =>
      updatedEntries agentId name (if isDefault then some true else none) stored
  | remove agentId => ((Mutation.removeAgent agentId).newEntries stored).toOption
  | setDefault agentId => updatedEntries agentId none (some true) stored

/-! ## Shared by all commands -/

theorem reportCatalogError_finishes (e : PyException) :
    ∃ report, reportCatalogError e = .finish report := by
  cases e <;> exact ⟨_, rfl⟩

theorem reportRemoveError_repositoryError (message : String) :
    ∃ lines, reportRemoveError (.catalogRepositoryError message) =
      .finish (.ok ⟨exitError, lines⟩) := by
  by_cases hnotFound : contains (lower message) "not found" = true
  · exact ⟨_, if_pos hnotFound⟩
  · exact ⟨_, if_neg hnotFound⟩

theorem reportRemoveError_finishes (e : PyException) :
    ∃ report, reportRemoveError e = .finish report := by
  cases e with
  | catalogRepositoryError message =>
      obtain ⟨lines, hreport⟩ := reportRemoveError_repositoryError message
      exact ⟨_, hreport⟩
  | _ => exact ⟨_, rfl⟩

/-- A command that, once it has listed the entries, is finished or only has to
write what it made of them. -/
def FinishesOrWrites (now : DateTime) (updated : Option (List VirtualAgentCatalogEntry))
    (p : TableProgram CommandResult) : Prop :=
  (∃ result, p = .finish result) ∨
    ∃ entries ∈ updated, p = (writeEntries now entries >>= fun _ => return ⟨exitOk, []⟩)

theorem finishesOrWrites_replaceAll (now : DateTime) {entries : List VirtualAgentCatalogEntry}
    {updated : Option (List VirtualAgentCatalogEntry)} (h : updated = some entries) :
    FinishesOrWrites now updated (do
      Program.ofExcept (validateCatalogEntries entries)
      replaceAll now entries
      return ⟨exitOk, []⟩) := by
  cases validateCatalogEntries entries with
  | error e => exact Or.inl ⟨_, rfl⟩
  | ok checked => exact Or.inr ⟨entries, h, rfl⟩

/-- What a command does: it lists the entries, goes on from there, and reports
what was raised. -/
structure ListsThenWrites (now : DateTime) (run : TableProgram CommandResult)
    (updated : List VirtualAgentCatalogEntry → Option (List VirtualAgentCatalogEntry))
    (afterListing : List VirtualAgentCatalogEntry → TableProgram CommandResult)
    (report : PyException → TableProgram CommandResult) : Prop where
  run_eq : run = tryCatch (listAgents >>= afterListing) report
  after : ∀ stored, FinishesOrWrites now (updated stored) (afterListing stored)
  report_finishes : ∀ e, ∃ result, report e = .finish result
  report_loadError : ∀ message,
    report (.catalogLoadError message) = .finish (.ok ⟨exitError, [message]⟩)

theorem cmdUpdate_listsThenWrites (now : DateTime) (agentId : String) (name : Option String)
    (isDefault : Option Bool) :
    ∃ afterListing,
      ListsThenWrites now (cmdUpdate now agentId name isDefault)
        (updatedEntries agentId name isDefault) afterListing reportCatalogError := by
  refine ⟨_, rfl, fun stored => ?_, reportCatalogError_finishes, fun _ => rfl⟩
  rw [updatedEntries]
  cases hfound : stored.any fun entry => entry.virtualAgentId = agentId with
  | false => exact Or.inl ⟨_, rfl⟩
  | true =>
      exact finishesOrWrites_replaceAll now (if_pos rfl)

theorem Command.listsThenWrites (now : DateTime) (command : Command) :
    ∃ afterListing report, ListsThenWrites now (command.run now)
      (fun stored => command.newEntries stored) afterListing report := by
  cases command with
  | add agentId name isDefault =>
      refine ⟨_, _, rfl, fun stored => ?_, reportCatalogError_finishes, fun _ => rfl⟩
      rw [Command.newEntries, addedEntries]
      split_ifs
      · exact Or.inl ⟨_, rfl⟩
      · exact finishesOrWrites_replaceAll now rfl
      · exact finishesOrWrites_replaceAll now rfl
  | update agentId name isDefault =>
      obtain ⟨afterListing, h⟩ := cmdUpdate_listsThenWrites now agentId name
        (if isDefault then some true else none)
      exact ⟨afterListing, _, h⟩
  | remove agentId =>
      -- The listing of the repository's own removal comes first.
      refine ⟨_, reportRemoveError,
        congrArg (tryCatch · reportRemoveError) (Program.bind_bind listFromTable _ _),
        fun stored => ?_, reportRemoveError_finishes, fun _ => rfl⟩
      rw [Command.newEntries, Mutation.newEntries]
      dsimp only
      split_ifs
      · exact Or.inl ⟨_, rfl⟩
      · exact Or.inr ⟨_, rfl, rfl⟩
  | setDefault agentId =>
      obtain ⟨afterListing, h⟩ := cmdUpdate_listsThenWrites now agentId none (some true)
      exact ⟨afterListing, _, h⟩

/-- A command keeps what its write keeps. -/
theorem Command.maintains_run {paging : Paging} {P : Table → Prop} {now : DateTime}
    (hwrite : ∀ entries, (writeEntries now entries).Maintains (perform paging) P)
    (command : Command) : (command.run now).Maintains (perform paging) P := by
  obtain ⟨afterListing, report, hrun⟩ := command.listsThenWrites now
  rw [hrun.run_eq]
  apply Program.Maintains.tryCatch
  · refine Program.Maintains.bind (maintains_of_reads listFromTable_reads) fun stored => ?_
    rcases hrun.after stored with ⟨result, hresult⟩ | ⟨entries, -, hentries⟩
    · rw [hresult]
      exact Program.maintains_finish result
    · rw [hentries]
      exact (hwrite entries).bind fun _ => Program.maintains_finish _
  · intro e
    obtain ⟨result, hresult⟩ := hrun.report_finishes e
    rw [hresult]
    exact Program.maintains_finish result

end ByodsServer
