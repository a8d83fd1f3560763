/-
# Seeding that is interrupted and started again

META is the last item a seeding puts, so an attempt that fails leaves none, and
the next start seeds again. What the interrupted attempts have put is deleted by
the next one as far as it lists it: the final attempt leaves exactly its seed
when it lists, or puts itself, all that is left.
-/

import ByodsServer.Persistence.CatalogPages

namespace ByodsServer

open Effects Python

/-! ## META comes last -/

/-- A write without its last call. -/
def writeAgents (now : DateTime) (entries : List VirtualAgentCatalogEntry) : TableProgram Unit := do
  let existing ← query agentQuery
  Program.forEach existing.items fun item => deleteItem item.key
  Program.forEach entries fun entry => putItem (agentItem now entry)

theorem overwriteEntries_eq (now : DateTime) (entries : List VirtualAgentCatalogEntry)
    (seededFromFile : Bool) :
    overwriteEntries now entries seededFromFile =
      (writeAgents now entries >>= fun _ =>
        putItem (metaItem now entries.length seededFromFile)) := by
  rw [writeAgents, Program.bind_bind]
  simp only [Program.bind_bind]
  rfl

theorem propagates_writeAgents (now : DateTime) (entries : List VirtualAgentCatalogEntry) :
    (writeAgents now entries).Propagates :=
  (Program.propagates_await _).bind fun _ =>
    (Program.propagates_forEach (fun _ => Program.propagates_await _) _).bind fun _ =>
      Program.propagates_forEach (fun _ => Program.propagates_await _) _

/-- Before its last call a write does not put META. -/
theorem maintains_writeAgents (paging : Paging) (now : DateTime)
    (entries : List VirtualAgentCatalogEntry) :
    (writeAgents now entries).Maintains (perform paging) fun table => table[metaKey]? = none := by
  have huses : (writeAgents now entries).Uses fun request =>
      ¬ Puts metaKey (fun _ => True) request := by
    apply (Program.uses_await _).bind
    · intro existing
      apply (Program.uses_forEach _).bind
      · intro _
        apply Program.uses_forEach
        intro entry _
        exact Program.uses_await (not_puts_of_key_ne (metaKey_ne_agentKey _).symm)
      · intro item _
        apply Program.uses_await
        rintro ⟨attrs, -, hput⟩
        cases hput
    · rintro ⟨attrs, -, hput⟩
      cases hput
  exact huses.maintains fun request hrequest table habsent => absent_of_not_puts hrequest habsent

/-! ## Attempts -/

/-- A start of the media server with a seed file that loads. -/
structure SeedAttempt (json : JsonLib) where
  seed : SeedFile
  now : DateTime
  entries : List VirtualAgentCatalogEntry
  loads : loadCatalog json seed = .ok entries

namespace SeedAttempt

variable {json : JsonLib} (attempt : SeedAttempt json) {paging : Paging} {table : Table}

/-- What it runs. -/
def program : TableProgram Unit := ensureSeeded json attempt.seed attempt.now

/-- The seed as a catalog. -/
def catalog : Catalog := ⟨attempt.entries, loadCatalog_valid attempt.loads⟩

/-- The attempt reads META, and goes on with what it has read. -/
theorem program_eq :
    attempt.program = (getItem metaKey >>= afterMeta json attempt.seed attempt.now) := rfl

/-- Without META it goes on with a write. -/
theorem afterMeta_none : afterMeta json attempt.seed attempt.now none =
    (writeAgents attempt.now attempt.entries >>= fun _ =>
      putItem (metaItem attempt.now attempt.entries.length true)) := by
  have hchecked : validateCatalogEntries attempt.entries = .ok () := attempt.catalog.validate
  rw [afterMeta_none_of_loaded attempt.loads, ← overwriteEntries_eq, writeEntries, hchecked]
  rfl

theorem exec_getItem_meta (hmeta : table[metaKey]? = none) :
    (getItem metaKey).exec (perform paging) table = (.ok none, table) := by
  rw [exec_getItem, Table.item?, hmeta]
  rfl

/-- An attempt that is not interrupted replaces what it lists by its seed. -/
theorem exec_program (hmeta : table[metaKey]? = none) :
    attempt.program.exec (perform paging) table =
      (.ok (), table.rewrite (paging.firstAgents table) attempt.now attempt.entries true) := by
  rw [program_eq, Program.exec_bind_of_ok (exec_getItem_meta hmeta),
    afterMeta_none_of_loaded attempt.loads]
  exact exec_writeEntries_paging paging attempt.now attempt.catalog true table

/-- An attempt that fails leaves no META. -/
theorem meta_absent_of_failed (hmeta : table[metaKey]? = none)
    {plan rest : List (Option PyException)} {e : PyException} {final : Table}
    (h : attempt.program.exec (perform paging).faulty (table, plan) = (.error e, final, rest)) :
    final[metaKey]? = none := by
  -- The read of META works, or it is the call that fails.
  have hafter (plan : List (Option PyException))
      (h : (afterMeta json attempt.seed attempt.now none).exec (perform paging).faulty
        (table, plan) = (.error e, final, rest)) : final[metaKey]? = none := by
    rw [afterMeta_none] at h
    obtain ⟨fuel, hfuel⟩ := (propagates_writeAgents _ _).stopsOnError.exec_faulty_before_last
      (perform_answers paging _) h
    rw [hfuel]
    exact maintains_writeAgents paging _ _ table hmeta fuel
  rw [program_eq] at h
  rcases plan with _ | ⟨_ | failure, plan⟩
  · have hread : (getItem metaKey).exec (perform paging).faulty (table, []) =
        (((getItem metaKey).exec (perform paging) table).1,
          ((getItem metaKey).exec (perform paging) table).2, []) := rfl
    rw [exec_getItem_meta hmeta] at hread
    exact hafter [] (Program.exec_bind_of_ok hread _ ▸ h)
  · have hread : (getItem metaKey).exec (perform paging).faulty (table, none :: plan) =
        (((getItem metaKey).exec (perform paging) table).1,
          ((getItem metaKey).exec (perform paging) table).2, plan) := rfl
    rw [exec_getItem_meta hmeta] at hread
    exact hafter plan (Program.exec_bind_of_ok hread _ ▸ h)
  · cases h
    exact hmeta

/-- Until an attempt has ended there is no META. -/
theorem runFor_program (hmeta : table[metaKey]? = none) (fuel : ℕ) :
    (attempt.program.runFor (perform paging) fuel table).2[metaKey]? = none ∨
      (attempt.program.runFor (perform paging) fuel table).2 =
        (attempt.program.exec (perform paging) table).2 := by
  cases fuel with
  | zero => exact Or.inl hmeta
  | succ fuel =>
      have hcall : attempt.program.runFor (perform paging) (fuel + 1) table =
          (Program.andThen (afterMeta json attempt.seed attempt.now)
            ((getItem metaKey).exec (perform paging) table).1).runFor (perform paging) fuel
              ((getItem metaKey).exec (perform paging) table).2 := rfl
      have hnext : attempt.program.runFor (perform paging) (fuel + 1) table =
          (afterMeta json attempt.seed attempt.now none).runFor (perform paging) fuel table := by
        rw [hcall, exec_getItem_meta hmeta]
        rfl
      rw [hnext, program_eq, Program.exec_bind_of_ok (exec_getItem_meta hmeta), afterMeta_none]
      refine (Program.runFor_bind_await_cases (perform paging)
        (writeAgents attempt.now attempt.entries)
        (.putItem (metaItem attempt.now attempt.entries.length true)) fuel table).imp_left ?_
      rintro ⟨spent, hspent⟩
      have habsent := maintains_writeAgents paging attempt.now attempt.entries table hmeta spent
      exact (congrArg (fun table : Table => table[metaKey]?) hspent).trans habsent

end SeedAttempt

/-! ## Attempts one after another -/

/-- The tables that failed attempts can leave, one after another. Each of them
follows a fault plan of its own and ends in an exception. -/
inductive LeftByFailed (paging : Paging) (json : JsonLib) (start : Table) : Table → Prop
  | start : LeftByFailed paging json start start
  | attempt {table final : Table} (attempt : SeedAttempt json)
      (plan rest : List (Option PyException)) (e : PyException)
      (h : LeftByFailed paging json start table)
      (hfailed : attempt.program.exec (perform paging).faulty (table, plan) =
        (.error e, final, rest)) : LeftByFailed paging json start final

/-- META, where it is, stands next to a complete seed. -/
def MetaMeansSeeded (json : JsonLib) (table : Table) : Prop :=
  table[metaKey]? ≠ none → ∃ attempt : SeedAttempt json, Stores table attempt.entries

/-- The last attempt stores and counts exactly its seed, and at no point before
or during it there is META next to something else than a complete seed. -/
structure Heals {json : JsonLib} (paging : Paging) (start table : Table)
    (last : SeedAttempt json) : Prop where
  returned : (last.program.exec (perform paging) table).1 = .ok ()
  stored : Stores (last.program.exec (perform paging) table).2 last.entries
  counted : CountedAs (last.program.exec (perform paging) table).2
    (last.program.exec (perform paging) table).2.agentItems.length
  before : ∀ passed, LeftByFailed paging json start passed → MetaMeansSeeded json passed
  during : ∀ fuel,
    MetaMeansSeeded json (last.program.runFor (perform paging) fuel table).2

theorem LeftByFailed.meta_absent {paging : Paging} {json : JsonLib} {start table : Table}
    (hmeta : start[metaKey]? = none) (h : LeftByFailed paging json start table) :
    table[metaKey]? = none := by
  induction h with
  | start => exact hmeta
  | attempt attempt plan rest e _ hfailed ih => exact attempt.meta_absent_of_failed ih hfailed

/-- After any number of failed attempts on a table without META, one that is not
interrupted heals the table exactly when each item it does not list belongs to an
agent of its seed. -/
theorem seeding_heals_iff {paging : Paging} {json : JsonLib} {start table : Table}
    (hmeta : start[metaKey]? = none) (h : LeftByFailed paging json start table)
    (last : SeedAttempt json) :
    Heals paging start table last ↔
      ∀ item ∈ paging.laterAgents table, ∃ entry ∈ last.entries,
        item.key = agentKey entry.virtualAgentId := by
  have habsent := h.meta_absent hmeta
  have hexec : last.program.exec (perform paging) table =
      (.ok (), table.rewrite (paging.firstAgents table) last.now last.entries true) :=
    last.exec_program habsent
  have hstores := table.rewrite_stores_iff last.now true paging last.catalog
  constructor
  · intro hheals
    apply hstores.mp
    have hstored := hheals.stored
    rwa [hexec] at hstored
  · intro hlater
    have hstored : Stores (last.program.exec (perform paging) table).2 last.catalog.entries := by
      rw [hexec]
      exact hstores.mpr hlater
    refine ⟨congrArg Prod.fst hexec, hstored, ?_, fun passed hpassed => ?_, fun fuel => ?_⟩
    · rw [hstored.length_agentItems, hexec]
      exact ⟨_, table.rewrite_meta _ last.now true last.entries, rfl⟩
    · exact fun hthere => absurd (hpassed.meta_absent hmeta) hthere
    · intro hthere
      rcases last.runFor_program habsent fuel with hnone | hend
      · exact absurd hnone hthere
      · rw [hend]
        exact ⟨last, hstored⟩

/-! ## One agent to seed -/

/-- A start with the seed file of one agent. -/
def greeterAttempt : SeedAttempt greeterJson := ⟨greeterSeed, noon, [greeter], loadCatalog_greeter⟩

/-- A first attempt fails at its second delete; the next one heals the table. -/
theorem seeding_heals_iff_leftover :
    let plan := [none, none, none, some (.clientError "throttled")]
    let failed := greeterAttempt.program.exec (perform Paging.single).faulty (leftoverTable, plan)
    failed.1 = .error (.clientError "throttled") ∧ failed.2.1 ≠ leftoverTable ∧
      Heals Paging.single leftoverTable failed.2.1 greeterAttempt := by
  intro plan failed
  have herror : failed.1 = .error (.clientError "throttled") := by decide
  have hdeleted : failed.2.1[agentKey "alpha"]? = none := by decide
  have hmeta : leftoverTable[metaKey]? = none := by decide
  have hleft : LeftByFailed Paging.single greeterJson leftoverTable failed.2.1 :=
    .attempt greeterAttempt plan failed.2.2 _ .start (Prod.ext herror rfl)
  refine ⟨herror, fun hsame => ?_, (seeding_heals_iff hmeta hleft greeterAttempt).mpr ?_⟩
  · rw [hsame] at hdeleted
    exact absurd hdeleted (by decide)
  · exact fun item hitem => nomatch hitem

/-- A leftover agent on the second page survives even an attempt that is not
interrupted. -/
theorem second_page_not_healed :
    leftoverTable[metaKey]? = none ∧
      LeftByFailed oneItemPages greeterJson leftoverTable leftoverTable ∧
      ¬ Heals oneItemPages leftoverTable leftoverTable greeterAttempt := by
  refine ⟨by decide, .start, fun hheals => ?_⟩
  have habsent := hheals.stored.absent (agentKey "omega") (by decide) (by decide)
  have hkept : ((greeterAttempt.program.exec (perform oneItemPages)
      leftoverTable).2[agentKey "omega"]?).isSome = true := by decide
  rw [habsent] at hkept
  cases hkept

end ByodsServer
