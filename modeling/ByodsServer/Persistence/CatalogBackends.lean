/-
# The two catalog backends

`InMemoryCatalogRepository` keeps a list, `DynamoDBCatalogRepository` the items
of a table. Both answer the same calls. Once both were seeded from one file they
stay related: the list is a valid catalog, and the table stores exactly it. The
order of a listing is the backend's own.
-/

import ByodsServer.Effects.Runs
import ByodsServer.Persistence.CatalogAtomicity

namespace ByodsServer

open Effects Python

/-! ## The repository's methods as calls -/

/-- The calls of a catalog repository. -/
inductive CatalogCall
  | ensureSeeded (seed : SeedFile)
  | listAgents
  | mutate (mutation : Mutation)

/-- What each call returns. -/
@[reducible]
def CatalogCall.Reply : CatalogCall → Type
  | listAgents => List VirtualAgentCatalogEntry
  | _ => Unit

/-- A catalog repository as something a program can call. -/
def catalogCalls : Signature where
  Call := CatalogCall
  Reply := CatalogCall.Reply

/-! ## The list -/

/-- `self._entries`. -/
abbrev MemoryEntries := Option (List VirtualAgentCatalogEntry)

/-- A method of `InMemoryCatalogRepository`; it awaits nothing but its like. -/
abbrev MemoryMethod := ExceptT PyException (StateM MemoryEntries)

namespace InMemoryCatalogRepository

variable (json : JsonLib) (configPath : SeedFile)

/-- `list_agents`. -/
def listAgents : MemoryMethod (List VirtualAgentCatalogEntry) := do
  match ← get with
  | some entries => return entries
  | none =>
      let entries ← MonadExcept.ofExcept (loadCatalog json configPath)
      set (some entries)
      return entries

/-- `ensure_seeded`. -/
def ensureSeeded (seedPath : SeedFile) : MemoryMethod Unit := do
  match ← get with
  | some _ => return ()
  | none =>
      let entries ← MonadExcept.ofExcept (loadCatalog json seedPath)
      set (some entries)

/-- `save_agent`. -/
def saveAgent (entry : VirtualAgentCatalogEntry) : MemoryMethod Unit := do
  let entries ← listAgents json configPath
  let updated := withoutAgent entry.virtualAgentId entries ++ [entry]
  MonadExcept.ofExcept (validateCatalogEntries updated)
  set (some updated)

/-- `remove_agent`. -/
def removeAgent (virtualAgentId : String) : MemoryMethod Unit := do
  let entries ← listAgents json configPath
  let updated := withoutAgent virtualAgentId entries
  if updated.length = entries.length then
    throw (.catalogRepositoryError ("Agent not found: " ++ virtualAgentId))
  else do
    MonadExcept.ofExcept (validateCatalogEntries updated)
    set (some updated)

/-- `replace_all`. -/
def replaceAll (entries : List VirtualAgentCatalogEntry) : MemoryMethod Unit := do
  MonadExcept.ofExcept (validateCatalogEntries entries)
  set (some entries)

end InMemoryCatalogRepository

namespace MemoryMethod

variable {α β : Type} {stored after : MemoryEntries}

theorem run_bind_of_ok {method : MemoryMethod α} {value : α}
    (h : method.run stored = (.ok value, after)) (f : α → MemoryMethod β) :
    (method >>= f).run stored = (f value).run after := by
  simp only [ExceptT.run] at h
  simp only [bind, ExceptT.run, ExceptT.bind, ExceptT.mk, StateT.bind, h]
  rfl

theorem run_bind_of_error {method : MemoryMethod α} {e : PyException}
    (h : method.run stored = (.error e, after)) (f : α → MemoryMethod β) :
    (method >>= f).run stored = (.error e, after) := by
  simp only [ExceptT.run] at h
  simp only [bind, ExceptT.run, ExceptT.bind, ExceptT.mk, StateT.bind, h]
  rfl

theorem run_ofExcept (result : Except PyException α) (stored : MemoryEntries) :
    (MonadExcept.ofExcept result : MemoryMethod α).run stored = (result, stored) := by
  cases result <;> rfl

end MemoryMethod

/-- How the list answers. -/
def memoryBackend (json : JsonLib) (configPath : SeedFile) :
    Handler catalogCalls PyException MemoryEntries
  | .ensureSeeded seed, stored => (InMemoryCatalogRepository.ensureSeeded json seed).run stored
  | .listAgents, stored => (InMemoryCatalogRepository.listAgents json configPath).run stored
  | .mutate (.saveAgent entry), stored =>
      (InMemoryCatalogRepository.saveAgent json configPath entry).run stored
  | .mutate (.removeAgent virtualAgentId), stored =>
      (InMemoryCatalogRepository.removeAgent json configPath virtualAgentId).run stored
  | .mutate (.replaceAll entries), stored =>
      (InMemoryCatalogRepository.replaceAll entries).run stored

/-- How the table answers; `now` is the time of the call. -/
def tableBackend (json : JsonLib) (now : DateTime) : Handler catalogCalls PyException Table
  | .ensureSeeded seed, table => (ensureSeeded json seed now).exec dynamo table
  | .listAgents, table => listAgents.exec dynamo table
  | .mutate mutation, table => (mutation.program now).exec dynamo table

/-! ## What a mutation writes -/

section Memory

variable (json : JsonLib) (configPath : SeedFile) {stored : List VirtualAgentCatalogEntry}

theorem run_listAgents : (InMemoryCatalogRepository.listAgents json configPath).run (some stored) =
    (.ok stored, some stored) := rfl

/-- A mutation of the list that computes new entries ends like a replacement. -/
theorem memoryBackend_of_newEntries {mutation : Mutation}
    {updated : List VirtualAgentCatalogEntry} (hnew : mutation.newEntries stored = .ok updated) :
    memoryBackend json configPath (.mutate mutation) (some stored) =
      (InMemoryCatalogRepository.replaceAll updated).run (some stored) := by
  cases mutation with
  | saveAgent entry =>
      cases hnew
      rfl
  | removeAgent virtualAgentId =>
      rw [Mutation.newEntries] at hnew
      split at hnew
      case isTrue => cases hnew
      case isFalse hfound =>
        cases hnew
        rw [memoryBackend, InMemoryCatalogRepository.removeAgent,
          MemoryMethod.run_bind_of_ok (run_listAgents json configPath), if_neg hfound]
        rfl
  | replaceAll entries =>
      cases hnew
      rfl

theorem memoryBackend_of_newEntries_error {mutation : Mutation} {e : PyException}
    (hnew : mutation.newEntries stored = .error e) :
    memoryBackend json configPath (.mutate mutation) (some stored) = (.error e, some stored) := by
  cases mutation with
  | saveAgent entry => cases hnew
  | removeAgent virtualAgentId =>
      rw [Mutation.newEntries] at hnew
      split at hnew
      case isTrue habsent =>
        cases hnew
        rw [memoryBackend, InMemoryCatalogRepository.removeAgent,
          MemoryMethod.run_bind_of_ok (run_listAgents json configPath), if_pos habsent]
        rfl
      case isFalse => cases hnew
  | replaceAll entries => cases hnew

theorem run_replaceAll_of_valid {entries : List VirtualAgentCatalogEntry}
    (hvalid : ValidCatalog entries) :
    (InMemoryCatalogRepository.replaceAll entries).run (some stored) = (.ok (), some entries) := by
  have hcheck := MemoryMethod.run_ofExcept (validateCatalogEntries entries) (some stored)
  rw [(validateCatalogEntries_eq_ok_iff entries).mpr hvalid] at hcheck
  rw [InMemoryCatalogRepository.replaceAll, (validateCatalogEntries_eq_ok_iff entries).mpr hvalid,
    MemoryMethod.run_bind_of_ok hcheck]
  rfl

theorem run_replaceAll_of_invalid {entries : List VirtualAgentCatalogEntry}
    (hinvalid : ¬ ValidCatalog entries) (stored : List VirtualAgentCatalogEntry) :
    ∃ message, (InMemoryCatalogRepository.replaceAll entries).run (some stored) =
      (.error (.catalogLoadError message), some stored) := by
  cases hchecked : validateCatalogEntries entries with
  | ok _ => exact (hinvalid ((validateCatalogEntries_eq_ok_iff entries).mp hchecked)).elim
  | error e =>
      obtain ⟨message, rfl⟩ := validateCatalogEntries_error hchecked
      have hcheck := MemoryMethod.run_ofExcept (validateCatalogEntries entries) (some stored)
      rw [hchecked] at hcheck
      rw [InMemoryCatalogRepository.replaceAll, hchecked, MemoryMethod.run_bind_of_error hcheck]
      exact ⟨message, rfl⟩

end Memory

/-! ## Outcomes -/

/-- Two exceptions of one of the catalog's own classes. -/
inductive SameCatalogError : PyException → PyException → Prop
  | load (first second : String) :
      SameCatalogError (.catalogLoadError first) (.catalogLoadError second)
  | repository (first second : String) :
      SameCatalogError (.catalogRepositoryError first) (.catalogRepositoryError second)

/-- The same entries, each once, in whatever order; nothing else is returned. -/
def CatalogCall.SameReply : (call : CatalogCall) → call.Reply → call.Reply → Prop
  | listAgents, first, second => first.Perm second ∧ first.Nodup
  | ensureSeeded _, _, _ => True
  | mutate _, _, _ => True

/-- Both backends return, or both raise the same class and keep what they have. -/
inductive SameOutcome (call : CatalogCall) (memory : MemoryEntries) (table : Table) :
    Except PyException call.Reply × MemoryEntries → Except PyException call.Reply × Table → Prop
  | returned {first second : call.Reply} (memory' : MemoryEntries) (table' : Table)
      (h : call.SameReply first second) :
      SameOutcome call memory table (.ok first, memory') (.ok second, table')
  | raised {first second : PyException} (h : SameCatalogError first second) :
      SameOutcome call memory table (.error first, memory) (.error second, table)

/-! ## Runs -/

/-- The list is a valid catalog that the table stores too. -/
def SameCatalog (memory : MemoryEntries) (table : Table) : Prop :=
  ∃ entries, memory = some entries ∧ ValidCatalog entries ∧ StoresCounted table entries

/-- A replacement by lists that differ in their order only. -/
theorem sameOutcome_replaceAll {stored updated other : List VirtualAgentCatalogEntry}
    {table : Table} (h : SameCatalog (some stored) table) (hperm : updated.Perm other)
    (now : DateTime) (mutation : Mutation) :
    let memory := (InMemoryCatalogRepository.replaceAll updated).run (some stored)
    let result := (writeEntries now other).exec dynamo table
    SameOutcome (.mutate mutation) (some stored) table memory result ∧
      SameCatalog memory.2 result.2 := by
  by_cases hvalid : ValidCatalog updated
  · have hwrite := exec_writeEntries now ⟨other, hvalid.perm hperm⟩ false table
    rw [run_replaceAll_of_valid hvalid, hwrite]
    refine ⟨.returned _ _ trivial, updated, rfl, hvalid, ?_⟩
    exact (table.overwrite_storesCounted now false ⟨other, hvalid.perm hperm⟩).of_perm hperm.symm
  · obtain ⟨message, hmemory⟩ := run_replaceAll_of_invalid hvalid stored
    obtain ⟨message', hresult⟩ :=
      exec_writeEntries_of_invalid (fun h => hvalid (h.perm hperm.symm)) now false table
    rw [hmemory, hresult]
    exact ⟨.raised (.load message message'), h⟩

/-- One call comes out alike, and the two catalogs stay the same. -/
theorem sameOutcome_step (json : JsonLib) (configPath : SeedFile) {memory : MemoryEntries}
    {table : Table} (h : SameCatalog memory table) (now : DateTime) (call : CatalogCall) :
    SameOutcome call memory table (memoryBackend json configPath call memory)
        (tableBackend json now call table) ∧
      SameCatalog (memoryBackend json configPath call memory).2
        (tableBackend json now call table).2 := by
  obtain ⟨stored, rfl, hvalid, hstored⟩ := h
  have hcatalog : Stores table (Catalog.mk stored hvalid).entries := hstored.toStores
  obtain ⟨listed, hlisted, hperm⟩ := hcatalog.listAgents_perm
  have hsame : SameCatalog (some stored) table := ⟨stored, rfl, hvalid, hstored⟩
  cases call with
  | ensureSeeded seed =>
      obtain ⟨attrs, hmeta, -⟩ := hstored.counted
      have htable : tableBackend json now (.ensureSeeded seed) table = (.ok (), table) :=
        exec_ensureSeeded_of_meta Paging.single (by simp [hmeta]) json seed now
      rw [htable]
      exact ⟨.returned _ _ trivial, hsame⟩
  | listAgents =>
      have htable : tableBackend json now .listAgents table = (.ok listed, table) :=
        Prod.ext hlisted rfl
      rw [htable]
      exact ⟨.returned _ _ ⟨hperm.symm, hvalid.ids_nodup.of_map _⟩, hsame⟩
  | mutate mutation =>
      have htable : tableBackend json now (.mutate mutation) table =
          (mutation.afterListing now listed).exec dynamo table :=
        mutation.exec_program_of_listed hlisted now
      rcases mutation.newEntries_perm hperm.symm with
        ⟨updated, other, hnew, hother, hchanged⟩ | ⟨message, hnew, hother⟩
      · rw [Mutation.afterListing_eq hother] at htable
        rw [memoryBackend_of_newEntries json configPath hnew, htable]
        exact sameOutcome_replaceAll hsame hchanged now mutation
      · have herror : (mutation.afterListing now listed).exec dynamo table =
            (.error (.catalogRepositoryError message), table) := by
          rw [Mutation.afterListing, hother]
          rfl
        rw [memoryBackend_of_newEntries_error json configPath hnew, htable, herror]
        exact ⟨.raised (.repository message message), hsame⟩

/-- The list after some calls. -/
def runOnMemory (json : JsonLib) (configPath : SeedFile) (start : MemoryEntries)
    (calls : List (DateTime × CatalogCall)) : MemoryEntries :=
  runEvents (fun memory timed => (memoryBackend json configPath timed.2 memory).2) start calls

/-- The table after some calls, each with its time. -/
def runOnTable (json : JsonLib) (start : Table) (calls : List (DateTime × CatalogCall)) : Table :=
  runEvents (fun table timed => (tableBackend json timed.1 timed.2 table).2) start calls

theorem sameCatalog_run (json : JsonLib) (configPath : SeedFile) {memory : MemoryEntries}
    {table : Table} (h : SameCatalog memory table) (calls : List (DateTime × CatalogCall)) :
    SameCatalog (runOnMemory json configPath memory calls) (runOnTable json table calls) :=
  runEvents_related (R := SameCatalog)
    (fun _ _ timed h => (sameOutcome_step json configPath h timed.1 timed.2).2) calls h

/-- A list and an empty table that were seeded from one file that loads answer
every sequence of calls alike: both return, with the same entries from a listing,
or both raise the same class and keep their catalogs. -/
theorem backends_interchangeable {json : JsonLib} {seed : SeedFile}
    {entries : List VirtualAgentCatalogEntry} (hload : loadCatalog json seed = .ok entries)
    (configPath : SeedFile) (start : DateTime) :
    let memory := memoryBackend json configPath (.ensureSeeded seed) none
    let table := tableBackend json start (.ensureSeeded seed) ∅
    memory.1 = .ok () ∧ table.1 = .ok () ∧
      ∀ (calls : List (DateTime × CatalogCall)) (now : DateTime) (call : CatalogCall),
        let stored := runOnMemory json configPath memory.2 calls
        let storedTable := runOnTable json table.2 calls
        SameCatalog stored storedTable ∧
          SameOutcome call stored storedTable (memoryBackend json configPath call stored)
            (tableBackend json now call storedTable) := by
  have hvalid := loadCatalog_valid hload
  have hmemory : memoryBackend json configPath (.ensureSeeded seed) none =
      (.ok (), some entries) := by
    have hcheck := MemoryMethod.run_ofExcept (loadCatalog json seed) none
    rw [hload] at hcheck
    rw [memoryBackend, InMemoryCatalogRepository.ensureSeeded, hload]
    exact MemoryMethod.run_bind_of_ok hcheck fun entries => set (some entries)
  have htable : tableBackend json start (.ensureSeeded seed) ∅ =
      (.ok (), Table.overwrite ∅ start entries true) :=
    exec_ensureSeeded_of_loaded (by simp) hload start
  have hsame : SameCatalog (some entries) (Table.overwrite ∅ start entries true) :=
    ⟨entries, rfl, hvalid, Table.overwrite_storesCounted ∅ start true ⟨entries, hvalid⟩⟩
  rw [hmemory, htable]
  refine ⟨rfl, rfl, fun calls now call => ?_⟩
  have hrun := sameCatalog_run json configPath hsame calls
  exact ⟨hrun, (sameOutcome_step json configPath hrun now call).1⟩

/-- Started with one agent, both refuse to remove it. -/
theorem backends_interchangeable_greeter :
    let memory := memoryBackend greeterJson greeterSeed (.ensureSeeded greeterSeed) none
    let table := tableBackend greeterJson noon (.ensureSeeded greeterSeed) ∅
    SameOutcome (.mutate (.removeAgent "greeter")) memory.2 table.2
      (memoryBackend greeterJson greeterSeed (.mutate (.removeAgent "greeter")) memory.2)
      (tableBackend greeterJson noon (.mutate (.removeAgent "greeter")) table.2) := by
  intro memory table
  exact ((backends_interchangeable loadCatalog_greeter greeterSeed noon).2.2 [] noon
    (.mutate (.removeAgent "greeter"))).2

end ByodsServer
