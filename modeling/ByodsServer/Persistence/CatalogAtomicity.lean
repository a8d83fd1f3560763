/-
# Catalog writes as a bystander sees them

A write empties the catalog before it fills it again, so every mutation of a
stored catalog has a point, right after its last delete and right before its
first put, at which a listing finds no agent at all. A mutation whose table call
fails there leaves the catalog in that state.
-/

import ByodsServer.Persistence.CatalogRepository

namespace ByodsServer

open Effects Python

/-- The mutations of the stored catalog. -/
inductive Mutation
  | saveAgent (entry : VirtualAgentCatalogEntry)
  | removeAgent (virtualAgentId : String)
  | replaceAll (entries : List VirtualAgentCatalogEntry)
  deriving DecidableEq, Repr

namespace Mutation

/-- The method that carries the mutation out. -/
def program (now : DateTime) : Mutation → TableProgram Unit
  | saveAgent entry => ByodsServer.saveAgent now entry
  | removeAgent virtualAgentId => ByodsServer.removeAgent now virtualAgentId
  | replaceAll entries => ByodsServer.replaceAll now entries

/-- The entry list a mutation computes from the stored entries. -/
def newEntries (stored : List VirtualAgentCatalogEntry) :
    Mutation → Except PyException (List VirtualAgentCatalogEntry)
  | saveAgent entry => .ok (withoutAgent entry.virtualAgentId stored ++ [entry])
  | removeAgent virtualAgentId =>
      if (withoutAgent virtualAgentId stored).length = stored.length then
        .error (.catalogRepositoryError ("Agent not found: " ++ virtualAgentId))
      else
        .ok (withoutAgent virtualAgentId stored)
  | replaceAll entries => .ok entries

/-- The order of the stored entries does not matter to a mutation. -/
theorem newEntries_perm {stored listed : List VirtualAgentCatalogEntry}
    (hperm : stored.Perm listed) (mutation : Mutation) :
    (∃ updated other, mutation.newEntries stored = .ok updated ∧
      mutation.newEntries listed = .ok other ∧ updated.Perm other) ∨
    ∃ message, mutation.newEntries stored = .error (.catalogRepositoryError message) ∧
      mutation.newEntries listed = .error (.catalogRepositoryError message) := by
  cases mutation with
  | saveAgent entry => exact Or.inl ⟨_, _, rfl, rfl, (hperm.filter _).append_right _⟩
  | removeAgent virtualAgentId =>
      have hrest : (withoutAgent virtualAgentId stored).Perm (withoutAgent virtualAgentId listed) :=
        hperm.filter _
      by_cases habsent : (withoutAgent virtualAgentId stored).length = stored.length
      · have habsent' : (withoutAgent virtualAgentId listed).length = listed.length := by
          rw [← hrest.length_eq, habsent, hperm.length_eq]
        exact Or.inr ⟨_, if_pos habsent, if_pos habsent'⟩
      · have habsent' : (withoutAgent virtualAgentId listed).length ≠ listed.length := by
          rwa [← hrest.length_eq, ← hperm.length_eq]
        exact Or.inl ⟨_, _, if_neg habsent, if_neg habsent', hrest⟩
  | replaceAll entries => exact Or.inl ⟨entries, entries, rfl, rfl, List.Perm.refl _⟩

/-- What a mutation does once it knows the stored entries. -/
def afterListing (now : DateTime) (mutation : Mutation)
    (stored : List VirtualAgentCatalogEntry) : TableProgram Unit := do
  let entries ← Program.ofExcept (mutation.newEntries stored)
  writeEntries now entries

/-- Every mutation either lists first or does not need the stored entries. -/
theorem program_eq (now : DateTime) (mutation : Mutation) :
    mutation.program now = (listFromTable >>= mutation.afterListing now) ∨
      ∀ stored, mutation.program now = mutation.afterListing now stored := by
  cases mutation with
  | saveAgent entry => exact Or.inl rfl
  | removeAgent virtualAgentId =>
      refine Or.inl (congrArg (listFromTable >>= ·) (funext fun stored => ?_))
      simp only [afterListing, newEntries]
      split_ifs <;> rfl
  | replaceAll entries => exact Or.inr fun _ => rfl

theorem afterListing_eq {now : DateTime} {mutation : Mutation}
    {stored entries : List VirtualAgentCatalogEntry}
    (h : mutation.newEntries stored = .ok entries) :
    mutation.afterListing now stored = writeEntries now entries := by
  rw [afterListing, h]
  rfl

/-- A mutation of a table that lists some entries goes on with them. -/
theorem exec_program_of_listFromTable {paging : Paging} {table : Table}
    {stored : List VirtualAgentCatalogEntry}
    (hstored : listFromTable.exec (perform paging) table = (.ok stored, table)) (now : DateTime)
    (mutation : Mutation) :
    (mutation.program now).exec (perform paging) table =
      (mutation.afterListing now stored).exec (perform paging) table := by
  rcases mutation.program_eq now with hprogram | hprogram
  · rw [hprogram, Program.exec_bind_of_ok hstored]
  · rw [hprogram stored]

theorem exec_program_of_listed {table : Table} {stored : List VirtualAgentCatalogEntry}
    (hstored : (listAgents.exec dynamo table).1 = .ok stored) (now : DateTime)
    (mutation : Mutation) :
    (mutation.program now).exec dynamo table =
      (mutation.afterListing now stored).exec dynamo table :=
  exec_program_of_listFromTable (Prod.ext hstored rfl) now mutation

/-- A mutation keeps what its write keeps. -/
theorem maintains_program {paging : Paging} {P : Table → Prop} {now : DateTime}
    (hwrite : ∀ entries, (writeEntries now entries).Maintains (perform paging) P)
    (mutation : Mutation) : (mutation.program now).Maintains (perform paging) P := by
  have hafter (stored : List VirtualAgentCatalogEntry) :
      (mutation.afterListing now stored).Maintains (perform paging) P :=
    (Program.maintains_finish _).bind hwrite
  rcases mutation.program_eq now with hprogram | hprogram
  · rw [hprogram]
    exact (maintains_of_reads listFromTable_reads).bind hafter
  · rw [hprogram []]
    exact hafter []

/-- The write a mutation of a stored catalog ends in, pause by pause. -/
theorem pausesBetween_of_writeEntries {now : DateTime} {mutation : Mutation} {table paused : Table}
    {stored entries : List VirtualAgentCatalogEntry} {kind : TableCall → Bool}
    (hstored : (listAgents.exec dynamo table).1 = .ok stored)
    (hnew : mutation.newEntries stored = .ok entries)
    (h : (writeEntries now entries).PausesBetween dynamo kind table paused) :
    (mutation.program now).PausesBetween dynamo kind table paused := by
  rcases mutation.program_eq now with hprogram | hprogram
  · have hlist : listFromTable.exec dynamo table = (.ok stored, table) :=
      Prod.ext hstored rfl
    rw [hprogram, Program.bind_eq]
    refine Program.PausesBetween.resume ?_
    rwa [hlist, Program.andThen_ok, afterListing_eq hnew]
  · rwa [hprogram stored, afterListing_eq hnew]

end Mutation

/-! ## What bystanders may expect -/

/-- A listing of the table returns exactly the old entries or exactly the new
ones. -/
def ListsOldOrNew (oldEntries newEntries : List VirtualAgentCatalogEntry) (table : Table) :
    Prop :=
  ∃ listed, (listAgents.exec dynamo table).1 = .ok listed ∧
    (listed.Perm oldEntries ∨ listed.Perm newEntries)

/-- Between any two single-item calls of the program, listings return the old or
the new entries. -/
def SeenWhole (program : TableProgram Unit) (table : Table)
    (oldEntries newEntries : List VirtualAgentCatalogEntry) : Prop :=
  ∀ paused, program.PausesBetween dynamo TableCall.isWrite table paused →
    ListsOldOrNew oldEntries newEntries paused

/-- Whatever calls of the program fail, it leaves the old or the new entries. -/
def LeftWhole (program : TableProgram Unit) (table : Table)
    (oldEntries newEntries : List VirtualAgentCatalogEntry) : Prop :=
  ∀ plan, ListsOldOrNew oldEntries newEntries
    (program.exec dynamo.faulty (table, plan)).2.1

/-! ## The point between the deletes and the puts -/

theorem propagates_overwriteEntries (now : DateTime) (entries : List VirtualAgentCatalogEntry)
    (seededFromFile : Bool) :
    (overwriteEntries now entries seededFromFile).Propagates :=
  (Program.propagates_await _).bind fun _ =>
    (Program.propagates_forEach (fun _ => Program.propagates_await _) _).bind fun _ =>
      (Program.propagates_forEach (fun _ => Program.propagates_await _) _).bind fun _ =>
        Program.propagates_await _

theorem propagates_writeEntries (now : DateTime) (entries : List VirtualAgentCatalogEntry)
    (seededFromFile : Bool) :
    (writeEntries now entries seededFromFile).Propagates :=
  Program.Propagates.bind (p := Program.ofExcept _) trivial fun _ =>
    propagates_overwriteEntries now entries seededFromFile

theorem propagates_listFromTable : listFromTable.Propagates :=
  (Program.propagates_await _).bind fun _ => trivial

theorem Mutation.propagates_program (now : DateTime) (mutation : Mutation) :
    (mutation.program now).Propagates := by
  have hafter (stored : List VirtualAgentCatalogEntry) :
      (mutation.afterListing now stored).Propagates :=
    Program.Propagates.bind (p := Program.ofExcept _) trivial fun _ =>
      propagates_writeEntries now _ false
  rcases mutation.program_eq now with hprogram | hprogram
  · exact hprogram ▸ propagates_listFromTable.bind hafter
  · exact hprogram [] ▸ hafter []

theorem listAgents_of_no_agents {table : Table}
    (h : ∀ key, isAgentKey key = true → table[key]? = none) :
    (listAgents.exec dynamo table).1 =
      .error (.catalogLoadError "Catalog is empty in DynamoDB") := by
  rw [exec_listAgents, Table.agentItems_eq_nil h, entriesOfItems_nil]

/-- After the last of some deletes, before the write that follows them, the
deleted items are gone. -/
theorem pausesBetween_deletes {items : List Item} (hitems : items ≠ [])
    {rest : Unit → TableProgram Unit} {second : TableCall}
    (hrest : (rest ()).nextCall? = some second) (hsecond : second.isWrite = true)
    (table : Table) :
    ((Program.forEach items fun item => deleteItem item.key) >>= rest).PausesBetween dynamo
      TableCall.isWrite table (table.eraseAll items) := by
  induction items generalizing table with
  | nil => exact (hitems rfl).elim
  | cons item items ih =>
      cases items with
      | nil =>
          exact @Program.pausesBetween_call tableCalls PyException Unit Table dynamo
            TableCall.isWrite (.deleteItem item.key) second _ table rfl hsecond hrest
      | cons next items =>
          rw [Program.forEach_cons, Program.bind_eq, Program.bind_eq, Program.resume_assoc]
          exact Program.PausesBetween.resume (ih (List.cons_ne_nil _ _) (table.erase item.key))

/-- A write over stored agents passes through a table without any agent, between
its last delete and its first put. -/
theorem writeEntries_pauses_empty (now : DateTime) (catalog : Catalog) (table : Table)
    (hagents : table.agentItems ≠ []) :
    (writeEntries now catalog.entries).PausesBetween dynamo TableCall.isWrite table
      (table.eraseAll table.agentItems) := by
  obtain ⟨entry, entries, hentries⟩ := List.exists_cons_of_ne_nil catalog.valid.nonempty
  rw [writeEntries, catalog.validate, Program.ofExcept_eq, Program.finish_bind, overwriteEntries,
    Program.bind_eq]
  refine Program.PausesBetween.resume ?_
  rw [exec_query_dynamo, Program.andThen_ok]
  have hfirst : (Program.forEach catalog.entries (fun entry => putItem (agentItem now entry)) >>=
      fun _ => putItem (metaItem now catalog.entries.length false)).nextCall? =
        some (TableCall.putItem (agentItem now entry)) := by
    rw [hentries]
    rfl
  exact pausesBetween_deletes hagents hfirst rfl table

/-- At some point of every mutation of a stored catalog a listing finds the
catalog empty. -/
theorem Mutation.pauses_empty (now : DateTime) {mutation : Mutation} {table : Table}
    {stored : List VirtualAgentCatalogEntry} {catalog : Catalog}
    (hstored : (listAgents.exec dynamo table).1 = .ok stored)
    (hnew : mutation.newEntries stored = .ok catalog.entries) :
    ∃ paused, (mutation.program now).PausesBetween dynamo TableCall.isWrite table paused ∧
      (listAgents.exec dynamo paused).1 =
        .error (.catalogLoadError "Catalog is empty in DynamoDB") := by
  have hagents : table.agentItems ≠ [] := fun hnil => by
    rw [exec_listAgents, hnil, entriesOfItems_nil] at hstored
    cases hstored
  exact ⟨_, Mutation.pausesBetween_of_writeEntries hstored hnew
    (writeEntries_pauses_empty now catalog table hagents),
      listAgents_of_no_agents fun key hkey => by
      rw [Table.getElem?_eraseAll_agentItems, if_pos hkey]⟩

theorem not_listsOldOrNew_of_error {oldEntries newEntries : List VirtualAgentCatalogEntry}
    {table : Table} {e : PyException} (h : (listAgents.exec dynamo table).1 = .error e) :
    ¬ ListsOldOrNew oldEntries newEntries table := by
  rintro ⟨listed, hlisted, -⟩
  rw [h] at hlisted
  cases hlisted

/-- No mutation of a stored catalog is seen whole, and none leaves its old or new
entries under every failure. -/
theorem mutation_neither_seen_nor_left_whole (now : DateTime) (mutation : Mutation)
    (table : Table) (stored : List VirtualAgentCatalogEntry) (catalog : Catalog)
    (hstored : (listAgents.exec dynamo table).1 = .ok stored)
    (hnew : mutation.newEntries stored = .ok catalog.entries) :
    ¬ SeenWhole (mutation.program now) table stored catalog.entries ∧
      ¬ LeftWhole (mutation.program now) table stored catalog.entries := by
  obtain ⟨paused, hpaused, hempty⟩ := Mutation.pauses_empty now hstored hnew
  constructor
  · intro hseen
    exact not_listsOldOrNew_of_error hempty (hseen paused hpaused)
  · intro hleft
    obtain ⟨plan, hplan⟩ := hpaused.left_behind
      (mutation.propagates_program now).stopsOnError (.clientError "throttled")
    exact not_listsOldOrNew_of_error hempty (hplan ▸ hleft plan)

/-! ## One agent renamed -/

/-- The time of the example writes. -/
def noon : DateTime := ⟨2026, 6, 13, 12, 0, 0, 0, some 0⟩

/-- An agent. -/
def greeter : VirtualAgentCatalogEntry := ⟨"greeter", "Greeter", true⟩

/-- The agent under another name. -/
def renamedGreeter : VirtualAgentCatalogEntry := ⟨"greeter", "Concierge", true⟩

/-- A seed file with one agent. -/
def greeterText : String :=
  "[\x7b\"virtual_agent_id\": \"greeter\", \"virtual_agent_name\": \"Greeter\", " ++
    "\"is_default\": true\x7d]"

/-- The JSON parser, as far as this file needs it. -/
def greeterJson : JsonLib where
  loads text :=
    if text = greeterText then
      .ok (.arr [.obj [("virtual_agent_id", .str "greeter"),
        ("virtual_agent_name", .str "Greeter"), ("is_default", .bool true)]])
    else .error (.jsonDecodeError "Expecting value")
  repr _ := ""

/-- The seed file, where it is looked for. -/
def greeterSeed : SeedFile := ⟨"config/virtual_agents.json", true, .ok greeterText⟩

theorem loadCatalog_greeter : loadCatalog greeterJson greeterSeed = .ok [greeter] := by decide

/-- A table that was seeded with one agent. -/
def greeterTable : Table := ((writeEntries noon [greeter] true).exec dynamo ∅).2

theorem mutation_neither_seen_nor_left_whole_greeter :
    ¬ SeenWhole ((Mutation.replaceAll [renamedGreeter]).program noon) greeterTable [greeter]
        [renamedGreeter] ∧
      ¬ LeftWhole ((Mutation.replaceAll [renamedGreeter]).program noon) greeterTable [greeter]
        [renamedGreeter] :=
  mutation_neither_seen_nor_left_whole noon (.replaceAll [renamedGreeter]) greeterTable [greeter]
    ⟨[renamedGreeter], by decide⟩ (by decide) rfl

/-- Renaming the only agent: between the delete and the put the listing raises. -/
theorem renaming_greeter_seen_empty :
    (listAgents.exec dynamo greeterTable).1 = .ok [greeter] ∧
      greeterTable[metaKey]?.isSome ∧ ValidCatalog [renamedGreeter] ∧
      ¬ SeenWhole ((Mutation.replaceAll [renamedGreeter]).program noon) greeterTable [greeter]
        [renamedGreeter] := by
  refine ⟨by decide, by decide, by decide, fun hseen => ?_⟩
  have hpause : ((Mutation.replaceAll [renamedGreeter]).program noon).PausesBetween dynamo
      TableCall.isWrite greeterTable (greeterTable.erase (agentKey "greeter")) :=
    ⟨1, .deleteItem (agentKey "greeter"), .putItem (agentItem noon renamedGreeter),
      rfl, rfl, rfl, rfl, rfl⟩
  exact not_listsOldOrNew_of_error
    (e := .catalogLoadError "Catalog is empty in DynamoDB") (by decide) (hseen _ hpause)

end ByodsServer
