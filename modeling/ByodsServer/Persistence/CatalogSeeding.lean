/-
# Seeding next to other writers

Every instance that starts with the media server seeds the catalog: it reads
META, and writes the seed file's entries unless META is there. Instances that
seed the same file at once repeat each other's work, and what is left is the
seed, as far as queries are answered in one page. An operator's change is another
matter: an instance that has found META missing does not look again.
-/

import ByodsServer.Persistence.CatalogWrites
import Mathlib.Data.Fintype.Option

namespace ByodsServer

open Effects Python

variable {ι : Type}

/-! ## One instance -/

section Instance

variable {json : JsonLib} {seed : SeedFile} {now : DateTime}
  {entries : List VirtualAgentCatalogEntry}

/-- What an instance does once it has read META. -/
def afterMeta (json : JsonLib) (seed : SeedFile) (now : DateTime) (stored : Option Item) :
    TableProgram Unit :=
  match stored with
  | some _ => pure ()
  | none =>
      match loadCatalog json seed with
      | .error (.catalogLoadError _) => pure ()
      | .error e => throw e
      | .ok entries => writeEntries now entries true

theorem ensureSeeded_eq :
    ensureSeeded json seed now = (getItem metaKey >>= afterMeta json seed now) := rfl

theorem afterMeta_none_of_loaded (hload : loadCatalog json seed = .ok entries) :
    afterMeta json seed now none = writeEntries now entries true := by
  simp only [afterMeta, hload]

variable (now) in
/-- Whatever an instance reads, it finishes or writes the seed. -/
theorem afterMeta_cases (hload : loadCatalog json seed = .ok entries) (stored : Option Item) :
    afterMeta json seed now stored = .finish (.ok ()) ∨
      afterMeta json seed now stored = writeEntries now entries true := by
  cases stored with
  | some item => exact Or.inl rfl
  | none => exact Or.inr (afterMeta_none_of_loaded hload)

theorem ensureSeeded_uses (hload : loadCatalog json seed = .ok entries)
    {allowed : TableCall → Prop} (hread : allowed (.getItem metaKey))
    (hwrite : (writeEntries now entries true).Uses allowed) :
    (ensureSeeded json seed now).Uses allowed := by
  rw [ensureSeeded_eq]
  apply (Program.uses_await hread).bind
  intro stored
  rcases afterMeta_cases now hload stored with hafter | hafter
  · rw [hafter]
    trivial
  · rw [hafter]
    exact hwrite

theorem ensureSeeded_restores (hload : loadCatalog json seed = .ok entries)
    {spoils wanted : TableCall → Prop} (hread : ¬ spoils (.getItem metaKey))
    (hwrite : (writeEntries now entries true).Restores spoils wanted) :
    (ensureSeeded json seed now).Restores spoils wanted := by
  rw [ensureSeeded_eq]
  apply Program.Restores.bind (Program.Uses.restores (Program.uses_await hread))
  intro stored
  rcases afterMeta_cases now hload stored with hafter | hafter
  · rw [hafter]
    trivial
  · rw [hafter]
    exact hwrite

end Instance

/-! ## Instances that start together -/

/-- Instances that are about to seed the same file. -/
def seedingPool (json : JsonLib) (seed : SeedFile) (nows : ι → DateTime) (table : Table) :
    Pool tableCalls PyException Unit ι Table where
  state := table
  programs who := ensureSeeded json seed (nows who)

section Together

variable [DecidableEq ι] {json : JsonLib} {seed : SeedFile} {nows : ι → DateTime}
  {table : Table} {entries : List VirtualAgentCatalogEntry}

/-- The first instance to read META finds it missing. -/
theorem stepAt_seedingPool (hload : loadCatalog json seed = .ok entries)
    (hmeta : table[metaKey]? = none) (who : ι) :
    (seedingPool json seed nows table).stepAt dynamo who =
      { state := table
        programs := Function.update (seedingPool json seed nows table).programs who
          (writeEntries (nows who) entries true) } := by
  have hcall : (seedingPool json seed nows table).programs who =
      .call (.getItem metaKey) fun reply =>
        (Program.finish reply).resume (Program.andThen (afterMeta json seed (nows who))) := rfl
  have hread : dynamo (.getItem metaKey) table = (.ok none, table) := by
    rw [dynamo, perform, Table.item?, hmeta]
    rfl
  rw [Pool.stepAt_call dynamo hcall]
  simp only [seedingPool, hread]
  exact congrArg (fun program => Pool.mk table (Function.update _ who program))
    (afterMeta_none_of_loaded hload)

/-- What every seeding is bound to bring about is there once all have finished. -/
theorem goal_of_seeding [Nonempty ι] {live pending : ι → TableProgram Unit → Prop}
    {goal : Table → Prop} (h : Pool.Obligation dynamo live pending goal)
    (hload : loadCatalog json seed = .ok entries) (hmeta : table[metaKey]? = none)
    (hlive : ∀ who, live who (ensureSeeded json seed (nows who)) ∧
      live who (writeEntries (nows who) entries true))
    (hpending : ∀ who, pending who (writeEntries (nows who) entries true))
    (schedule : List ι)
    (hsettled : ((seedingPool json seed nows table).runSchedule dynamo schedule).Settled) :
    goal ((seedingPool json seed nows table).runSchedule dynamo schedule).state := by
  cases schedule with
  | nil =>
      obtain ⟨result, hresult⟩ := hsettled (Classical.arbitrary ι)
      cases hresult
  | cons who schedule =>
      rw [Pool.runSchedule_cons, stepAt_seedingPool hload hmeta] at hsettled ⊢
      refine h.settled_of_owed ⟨fun other => ?_, Or.inr ⟨who, ?_⟩⟩ schedule hsettled
      · by_cases hother : other = who
        · subst hother
          simpa using (hlive other).2
        · simpa [Function.update_of_ne hother, seedingPool] using (hlive other).1
      · simpa using hpending who

/-- After any number of seedings of one file, in any order of their calls, the
seed is stored and counted. -/
theorem storesCounted_of_seeding [Nonempty ι] (hload : loadCatalog json seed = .ok entries)
    (hmeta : table[metaKey]? = none) (schedule : List ι)
    (hsettled : ((seedingPool json seed nows table).runSchedule dynamo schedule).Settled) :
    StoresCounted ((seedingPool json seed nows table).runSchedule dynamo schedule).state
      entries := by
  have hvalid := loadCatalog_valid hload
  have hread (key : Key) (accepted : Attrs → Prop) : ¬ Spoils key accepted (.getItem metaKey) := by
    rintro ⟨htouches | ⟨item, htouches, -⟩, -⟩
    · cases htouches
    · cases htouches
  refine ⟨⟨fun entry hentry => ?_, fun key hkey hstale => ?_⟩, ?_⟩
  · let accepted (attrs : Attrs) : Prop := ∃ now, attrs = agentAttrs now entry
    have haccepted (who : ι) : accepted (agentAttrs (nows who) entry) := ⟨nows who, rfl⟩
    have hrestores (who : ι) :=
      writeEntries_restores_entry (nows who) ⟨entries, hvalid⟩ true hentry (haccepted who)
    obtain ⟨attrs, ⟨now, rfl⟩, hstored⟩ := goal_of_seeding
      (puts_obligation Paging.single (agentKey entry.virtualAgentId) accepted) hload hmeta
      (fun who => ⟨ensureSeeded_restores hload (hread _ _) (hrestores who), hrestores who⟩)
      (fun who => writeEntries_ensures (nows who) ⟨entries, hvalid⟩ true
        (fillEntries_ensures_entry hentry (haccepted who)))
      schedule hsettled
    exact ⟨now, hstored⟩
  · have hputs (who : ι) :=
      writeEntries_not_puts (nows who) ⟨entries, hvalid⟩ true hkey hstale
    refine goal_of_seeding (deletesListed_obligation key agentQuery
      (exists_mem_select_agentQuery hkey)) hload hmeta
      (fun who => ⟨ensureSeeded_uses hload ?_ (hputs who), hputs who⟩)
      (fun who => Or.inl (writeEntries_deletesListed (nows who) ⟨entries, hvalid⟩ true key))
      schedule hsettled
    rintro ⟨attrs, -, hput⟩
    cases hput
  · have hcounts (who : ι) : Counts entries.length
        (metaItem (nows who) entries.length true).attrs := rfl
    have hrestores (who : ι) :=
      writeEntries_restores_meta (nows who) ⟨entries, hvalid⟩ true (hcounts who)
    obtain ⟨attrs, hcount, hstored⟩ := goal_of_seeding
      (puts_obligation Paging.single metaKey (Counts entries.length)) hload hmeta
      (fun who => ⟨ensureSeeded_restores hload (hread _ _) (hrestores who), hrestores who⟩)
      (fun who => writeEntries_ensures (nows who) ⟨entries, hvalid⟩ true
        (fillEntries_ensures_meta (hcounts who)))
      schedule hsettled
    exact ⟨attrs, hstored, hcount⟩

/-- Seedings of one file on a table without META, whose calls interleave in any
order and are answered in one page each, leave exactly the seed, counted by META,
and no further seeding changes it. -/
theorem seeding_converges [Nonempty ι] {paging : Paging}
    (hload : loadCatalog json seed = .ok entries) (hmeta : table[metaKey]? = none)
    {schedule : List ι}
    (hpages : (seedingPool json seed nows table).AtEveryTurn (perform paging) schedule
      (AnsweredInOnePage paging))
    (hsettled : ((seedingPool json seed nows table).runSchedule (perform paging)
      schedule).Settled) :
    let final := ((seedingPool json seed nows table).runSchedule (perform paging) schedule).state
    Stores final entries ∧ CountedAs final final.agentItems.length ∧
      ∀ later seed' now, (ensureSeeded json seed' now).exec (perform later) final =
        (.ok (), final) := by
  rw [Pool.runSchedule_congr (perform paging) hpages] at hsettled ⊢
  have hstored := storesCounted_of_seeding hload hmeta schedule hsettled
  generalize ((seedingPool json seed nows table).runSchedule dynamo schedule).state = final
    at hstored
  have hcatalog : Stores final (Catalog.mk entries (loadCatalog_valid hload)).entries :=
    hstored.toStores
  obtain ⟨attrs, hattrs, -⟩ := hstored.counted
  refine ⟨hstored.toStores, ?_, fun later seed' now => ?_⟩
  · rw [hcatalog.length_agentItems]
    exact hstored.counted
  · exact exec_ensureSeeded_of_meta later (by simp [hattrs]) json seed' now

end Together

/-! ## Leftovers on a second page -/

/-- A service that answers a query one item a page. -/
def oneItemPages : Paging where
  queryPages _ items := items.map fun item => [item]
  scanPages items := [items]
  query_flatten _ items := List.flatMap_singleton' items
  scan_flatten items := Paging.single.scan_flatten items

/-- Two agents are left over from an earlier catalog; META is missing. -/
def leftoverTable : Table :=
  Table.putEntries ∅ noon [⟨"alpha", "Alpha", false⟩, ⟨"omega", "Omega", false⟩]

/-- Two instances that both find META missing and take turns. -/
theorem seeding_converges_leftover :
    let final := ((seedingPool greeterJson greeterSeed (fun _ : Bool => noon)
      leftoverTable).runSchedule dynamo
        [true, false, true, false, true, true, true, false, false, true, false, false]).state
    Stores final [greeter] := by
  have hmeta : leftoverTable[metaKey]? = none := by decide
  have hsettled : ((seedingPool greeterJson greeterSeed (fun _ : Bool => noon)
      leftoverTable).runSchedule dynamo
        [true, false, true, false, true, true, true, false, false,
         true, false, false]).Settled := by
    intro who
    cases who with
    | false => exact ⟨.ok (), rfl⟩
    | true => exact ⟨.ok (), rfl⟩
  exact (seeding_converges loadCatalog_greeter hmeta (fun _ _ _ _ _ _ => rfl) hsettled).1

/-- Only the first page is deleted, so the second leftover stays next to the seed. -/
theorem seeding_leaves_second_page :
    loadCatalog greeterJson greeterSeed = .ok [greeter] ∧ leftoverTable[metaKey]? = none ∧
      let pool := (seedingPool greeterJson greeterSeed (fun _ : Unit => noon)
        leftoverTable).runSchedule (perform oneItemPages) [(), (), (), (), ()]
      pool.Settled ∧ ¬ Stores pool.state [greeter] := by
  refine ⟨loadCatalog_greeter, by decide, fun _ => ⟨.ok (), rfl⟩, fun hstores => ?_⟩
  have habsent := hstores.absent (agentKey "omega") (by decide) (by decide)
  have hkept : (((seedingPool greeterJson greeterSeed (fun _ : Unit => noon)
      leftoverTable).runSchedule (perform oneItemPages)
        [(), (), (), (), ()]).state[agentKey "omega"]?).isSome := by decide
  rw [habsent] at hkept
  cases hkept

/-! ## An operator's mutation -/

/-- Instances that seed the same file, and an operator's mutation. -/
def operatorPool (json : JsonLib) (seed : SeedFile) (nows : ι → DateTime) (mutation : Mutation)
    (now : DateTime) (table : Table) : Pool tableCalls PyException Unit (Option ι) Table where
  state := table
  programs
    | none => mutation.program now
    | some who => ensureSeeded json seed (nows who)

/-- The operator is about to write this catalog. -/
def AboutToWrite (now : DateTime) (catalog : Catalog)
    (pool : Pool tableCalls PyException Unit (Option ι) Table) (who : Option ι) : Prop :=
  who = none ∧ pool.programs none = writeEntries now catalog.entries

section Operator

variable [DecidableEq ι] {json : JsonLib} {seed : SeedFile} {nows : ι → DateTime}
  {mutation : Mutation} {now : DateTime} {table : Table}

/-- The mutation starts when some starters seeding has completed. -/
def StartsAfterSeeding (paging : Paging)
    (pool : Pool tableCalls PyException Unit (Option ι) Table) (schedule : List (Option ι)) :
    Prop :=
  ∀ before after, schedule = before ++ none :: after → none ∉ before →
    ∃ who, (pool.runSchedule (perform paging) before).programs (some who) = .finish (.ok ())

/-- Once all have finished, the stored catalog is the one that the operator's
mutation wrote. -/
def MutationStands (paging : Paging) (now : DateTime)
    (pool : Pool tableCalls PyException Unit (Option ι) Table) (schedule : List (Option ι)) :
    Prop :=
  ∀ catalog : Catalog,
    pool.AtEveryTurn (perform paging) schedule fun writing who =>
      AboutToWrite now catalog writing who →
        StoresCounted (pool.runSchedule (perform paging) schedule).state catalog.entries

/-- When the operator begins to write, every seeding has finished or has not read
META yet. -/
def NoSeedingUnderway (json : JsonLib) (seed : SeedFile) (nows : ι → DateTime) (paging : Paging)
    (now : DateTime) (pool : Pool tableCalls PyException Unit (Option ι) Table)
    (schedule : List (Option ι)) : Prop :=
  ∀ catalog : Catalog,
    pool.AtEveryTurn (perform paging) schedule fun writing who =>
      AboutToWrite now catalog writing who →
        ∀ who, (∃ result, writing.programs (some who) = .finish result) ∨
          writing.programs (some who) = ensureSeeded json seed (nows who)

/-- An instance that reads META now will not write: META is there, or the seed
file does not load. -/
def Quiet (json : JsonLib) (seed : SeedFile) (table : Table) : Prop :=
  table[metaKey]? ≠ none ∨ ∀ entries, loadCatalog json seed ≠ .ok entries

/-- Nothing but a delete of META makes instances write again. -/
theorem Quiet.step {table : Table} (h : Quiet json seed table) {request : TableCall}
    (hkeeps : ¬ Deletes metaKey request) : Quiet json seed (dynamo request table).2 := by
  rcases h with hmeta | hload
  · left
    by_cases hputs : Puts metaKey (fun _ => True) request
    · obtain ⟨attrs, -, hattrs⟩ := holds_of_puts Paging.single hputs table
      exact Option.ne_none_iff_exists'.mpr ⟨attrs, hattrs⟩
    · rw [dynamo, getElem?_of_not_touches]
      · exact hmeta
      · rintro (hdelete | ⟨item, rfl, hkey⟩)
        · exact hkeeps hdelete
        · exact hputs ⟨item.attrs, trivial, by rw [← hkey]⟩
  · exact Or.inr hload

theorem afterMeta_finishes (h : Quiet json seed table) (now : DateTime) :
    ∃ result, afterMeta json seed now (table.item? metaKey) = .finish result := by
  cases hmeta : table[metaKey]? with
  | some attrs =>
      refine ⟨.ok (), ?_⟩
      rw [Table.item?, hmeta]
      rfl
  | none =>
      rw [Table.item?, hmeta, Option.map_none, afterMeta]
      cases hload : loadCatalog json seed with
      | ok entries => exact (h.elim (fun hstored => hstored hmeta) fun hnone => hnone _ hload).elim
      | error e => cases e <;> exact ⟨_, rfl⟩

theorem usesOn_ensureSeeded (now : DateTime) :
    (ensureSeeded json seed now).UsesOn dynamo fun request => ¬ Deletes metaKey request := by
  rw [ensureSeeded_eq]
  apply Program.UsesOn.bind
  · exact Program.Uses.usesOn (Program.uses_await fun hdelete => nomatch hdelete) dynamo
  · intro stored
    cases stored with
    | some item => trivial
    | none =>
        rw [afterMeta]
        split
        · trivial
        · trivial
        · exact usesOn_writeEntries _ _ _

theorem usesOn_mutation (mutation : Mutation) (now : DateTime) :
    (mutation.program now).UsesOn dynamo fun request => ¬ Deletes metaKey request := by
  have hafter (stored : List VirtualAgentCatalogEntry) :
      (mutation.afterListing now stored).UsesOn dynamo
        fun request => ¬ Deletes metaKey request :=
    Program.UsesOn.bind (p := Program.ofExcept _) trivial fun entries =>
      usesOn_writeEntries now entries false
  rcases mutation.program_eq now with hprogram | hprogram
  · rw [hprogram]
    refine Program.UsesOn.bind (Program.Uses.usesOn ?_ dynamo) hafter
    exact (Program.uses_await fun hdelete => nomatch hdelete).bind fun _ => trivial
  · rw [hprogram []]
    exact hafter []

/-- How far an instance has come: it has not read META, it is bound to put it, or
no instance will write any more. -/
def Seeding (json : JsonLib) (seed : SeedFile) (now : DateTime) (p : TableProgram Unit)
    (table : Table) : Prop :=
  p = ensureSeeded json seed now ∨ p.Ensures (Puts metaKey fun _ => True) ∨ Quiet json seed table

theorem Seeding.turn {request : TableCall}
    {next : Except PyException request.Reply → TableProgram Unit}
    (h : Seeding json seed now (.call request next) table) (hkeeps : ¬ Deletes metaKey request) :
    Seeding json seed now (next (dynamo request table).1) (dynamo request table).2 := by
  right
  rcases h with hstart | hputs | hquiet
  · have hcall : (Program.call request next : TableProgram Unit) =
        .call (.getItem metaKey) (Program.andThen (afterMeta json seed now)) := hstart
    cases hcall
    by_cases hquiet : Quiet json seed table
    · exact Or.inr hquiet
    · left
      simp only [Quiet, not_or, not_not, not_forall] at hquiet
      obtain ⟨hmeta, entries, hload⟩ := hquiet
      have hafter : afterMeta json seed now (table.item? metaKey) =
          writeEntries now entries true := by
        rw [Table.item?, hmeta]
        exact afterMeta_none_of_loaded hload
      have hputs : (writeEntries now entries true).Ensures (Puts metaKey fun _ => True) :=
        writeEntries_ensures now ⟨entries, loadCatalog_valid hload⟩ true
          (fillEntries_ensures_meta trivial)
      rw [← hafter] at hputs
      exact hputs
  · rcases hputs with hput | hnext
    · obtain ⟨attrs, -, hattrs⟩ := holds_of_puts Paging.single hput table
      exact Or.inr (Or.inl (Option.ne_none_iff_exists'.mpr ⟨attrs, hattrs⟩))
    · left
      obtain ⟨reply, hreply⟩ := perform_answers Paging.single request table
      rw [dynamo, hreply]
      exact hnext reply
  · exact Or.inr (hquiet.step hkeeps)

theorem Seeding.quiet {result : Except PyException Unit}
    (h : Seeding json seed now (.finish result) table) : Quiet json seed table := by
  rcases h with hstart | hputs | hquiet
  · cases hstart
  · exact hputs.elim
  · exact hquiet

/-- Nobody deletes META, and every instance has come so far. -/
def Underway (json : JsonLib) (seed : SeedFile) (nows : ι → DateTime) :
    Option ι → TableProgram Unit → Table → Prop
  | none, p, _ => p.UsesOn dynamo fun request => ¬ Deletes metaKey request
  | some who, p, table =>
      (p.UsesOn dynamo fun request => ¬ Deletes metaKey request) ∧
        Seeding json seed (nows who) p table

omit [DecidableEq ι] in
theorem Underway.usesOn {who : Option ι} {p : TableProgram Unit}
    (h : Underway json seed nows who p table) :
    p.UsesOn dynamo fun request => ¬ Deletes metaKey request := by
  cases who with
  | none => exact h
  | some who => exact h.1

variable (json seed nows mutation now table) in
theorem underway_run (schedule : List (Option ι)) (who : Option ι) :
    Underway json seed nows who
      (((operatorPool json seed nows mutation now table).runSchedule dynamo schedule).programs who)
      ((operatorPool json seed nows mutation now table).runSchedule dynamo schedule).state := by
  refine Pool.runSchedule_each dynamo (fun who request next state h => ?_)
    (fun who other request next p state _ hturn h => ?_) schedule (fun who => ?_) who
  · cases who with
    | none => exact h.2 state
    | some who => exact ⟨h.1.2 state, h.2.turn h.1.1⟩
  · have hkeeps := hturn.usesOn.1
    cases other with
    | none => exact h
    | some other => exact ⟨h.1, h.2.imp id (Or.imp id fun hquiet => hquiet.step hkeeps)⟩
  · cases who with
    | none => exact usesOn_mutation mutation now
    | some who => exact ⟨usesOn_ensureSeeded _, Or.inl rfl⟩

/-- A seeding that has completed has left the instances nothing to do. -/
theorem quiet_of_startsAfterSeeding {before after : List (Option ι)}
    (h : StartsAfterSeeding Paging.single (operatorPool json seed nows mutation now table)
      (before ++ none :: after)) :
    Quiet json seed
      ((operatorPool json seed nows mutation now table).runSchedule dynamo before).state := by
  have hfinished : ∃ who, ((operatorPool json seed nows mutation now table).runSchedule dynamo
      before).programs (some who) = .finish (.ok ()) := by
    by_cases hstarted : none ∈ before
    · obtain ⟨earlier, later, rfl, hfirst⟩ := List.eq_append_cons_of_mem hstarted
      obtain ⟨who, hwho⟩ := h earlier (later ++ none :: after) (by simp) hfirst
      refine ⟨who, ?_⟩
      rw [Pool.runSchedule_append]
      exact Pool.runSchedule_finish dynamo (none :: later) hwho
    · exact h before after rfl hstarted
  obtain ⟨who, hwho⟩ := hfinished
  have hunderway := underway_run json seed nows mutation now table before (some who)
  rw [hwho] at hunderway
  exact hunderway.2.quiet

/-- The operator writes, and no instance will. -/
def OnlyOperatorWrites (json : JsonLib) (seed : SeedFile) (nows : ι → DateTime)
    (written : Except PyException Unit × Table) :
    Option ι → TableProgram Unit → Table → Prop
  | none, p, table => (p.UsesOn dynamo fun request => ¬ Deletes metaKey request) ∧
      Quiet json seed table ∧ p.exec dynamo table = written
  | some who, p, table => Quiet json seed table ∧
      ((∃ result, p = .finish result) ∨ p = ensureSeeded json seed (nows who))

omit [DecidableEq ι] in
theorem OnlyOperatorWrites.own {written : Except PyException Unit × Table} {who : Option ι}
    {request : TableCall} {next : Except PyException request.Reply → TableProgram Unit}
    (h : OnlyOperatorWrites json seed nows written who (.call request next) table) :
    OnlyOperatorWrites json seed nows written who (next (dynamo request table).1)
      (dynamo request table).2 := by
  cases who with
  | none => exact ⟨h.1.2 table, h.2.1.step h.1.1, h.2.2⟩
  | some who =>
      obtain ⟨hquiet, ⟨result, hresult⟩ | hstart⟩ := h
      · cases hresult
      · have hcall : (Program.call request next : TableProgram Unit) =
            .call (.getItem metaKey) (Program.andThen (afterMeta json seed (nows who))) := hstart
        cases hcall
        exact ⟨hquiet, Or.inl (afterMeta_finishes hquiet (nows who))⟩

omit [DecidableEq ι] in
theorem OnlyOperatorWrites.other {written : Except PyException Unit × Table}
    {who other : Option ι} (hne : other ≠ who) {request : TableCall}
    {next : Except PyException request.Reply → TableProgram Unit} {p : TableProgram Unit}
    (hturn : OnlyOperatorWrites json seed nows written who (.call request next) table)
    (h : OnlyOperatorWrites json seed nows written other p table) :
    OnlyOperatorWrites json seed nows written other p (dynamo request table).2 := by
  cases who with
  | none =>
      cases other with
      | none => exact (hne rfl).elim
      | some other => exact ⟨h.1.step hturn.1.1, h.2⟩
  | some who =>
      -- An instance on turn only reads META.
      obtain ⟨-, ⟨result, hresult⟩ | hstart⟩ := hturn
      · cases hresult
      · have hcall : (Program.call request next : TableProgram Unit) =
            .call (.getItem metaKey) (Program.andThen (afterMeta json seed (nows who))) := hstart
        cases hcall
        exact h

/-- When no instance will write any more, the operator writes as if alone. -/
theorem state_of_onlyOperatorWrites
    {writing : Pool tableCalls PyException Unit (Option ι) Table} {catalog : Catalog}
    (hkeeps : (writing.programs none).UsesOn dynamo fun request => ¬ Deletes metaKey request)
    (hquiet : Quiet json seed writing.state)
    (hidle : ∀ who, (∃ result, writing.programs (some who) = .finish result) ∨
      writing.programs (some who) = ensureSeeded json seed (nows who))
    (hwriting : writing.programs none = writeEntries now catalog.entries)
    (schedule : List (Option ι)) (hsettled : (writing.runSchedule dynamo schedule).Settled) :
    (writing.runSchedule dynamo schedule).state =
      writing.state.overwrite now catalog.entries false := by
  have hstart (who : Option ι) : OnlyOperatorWrites json seed nows
      (.ok (), writing.state.overwrite now catalog.entries false) who (writing.programs who)
      writing.state := by
    cases who with
    | none =>
        refine ⟨hkeeps, hquiet, ?_⟩
        rw [hwriting]
        exact exec_writeEntries now catalog false writing.state
    | some who => exact ⟨hquiet, hidle who⟩
  have hend := Pool.runSchedule_each dynamo (fun _ _ _ _ h => h.own)
    (fun _ _ _ _ _ _ hne hturn h => hturn.other hne h) schedule hstart none
  obtain ⟨result, hresult⟩ := hsettled none
  rw [hresult] at hend
  exact congrArg Prod.snd hend.2.2

/-- Without a seeding underway, what the operator writes stands. -/
theorem mutationStands_of_noSeedingUnderway {schedule : List (Option ι)}
    (hstarts : StartsAfterSeeding Paging.single (operatorPool json seed nows mutation now table)
      schedule)
    (hnone : NoSeedingUnderway json seed nows Paging.single now
      (operatorPool json seed nows mutation now table) schedule)
    (hsettled : ((operatorPool json seed nows mutation now table).runSchedule dynamo
      schedule).Settled) :
    MutationStands Paging.single now (operatorPool json seed nows mutation now table)
      schedule := by
  rintro catalog before who after rfl ⟨rfl, hwriting⟩
  have hidle := hnone catalog before none after rfl ⟨rfl, hwriting⟩
  have hunderway := underway_run json seed nows mutation now table before none
  rw [Pool.runSchedule_append] at hsettled
  have hstate := state_of_onlyOperatorWrites hunderway (quiet_of_startsAfterSeeding hstarts) hidle
    hwriting (none :: after) hsettled
  rw [← Pool.runSchedule_append] at hstate
  have hstored := Table.overwrite_storesCounted
    ((operatorPool json seed nows mutation now table).runSchedule dynamo before).state now false
    catalog
  rw [← hstate] at hstored
  exact hstored

/-- The same for a service that cuts its answers into pages, as long as every
answer of the run fits on one. -/
theorem mutation_stands {paging : Paging} {schedule : List (Option ι)}
    (hstarts : StartsAfterSeeding paging (operatorPool json seed nows mutation now table) schedule)
    (hpages : (operatorPool json seed nows mutation now table).AtEveryTurn (perform paging)
      schedule (AnsweredInOnePage paging))
    (hnone : NoSeedingUnderway json seed nows paging now
      (operatorPool json seed nows mutation now table) schedule)
    (hsettled : ((operatorPool json seed nows mutation now table).runSchedule (perform paging)
      schedule).Settled) :
    MutationStands paging now (operatorPool json seed nows mutation now table) schedule := by
  have hsame {before after : List (Option ι)} (hsplit : schedule = before ++ after) :
      (operatorPool json seed nows mutation now table).runSchedule (perform paging) before =
        (operatorPool json seed nows mutation now table).runSchedule (perform Paging.single)
          before :=
    Pool.runSchedule_congr (perform paging) (Pool.AtEveryTurn.left (perform paging)
      (hsplit ▸ hpages))
  have hwhole := hsame (List.append_nil schedule).symm
  have hstarts' : StartsAfterSeeding Paging.single
      (operatorPool json seed nows mutation now table) schedule := by
    intro before after hsplit hfirst
    rw [← hsame hsplit]
    exact hstarts before after hsplit hfirst
  have hnone' : NoSeedingUnderway json seed nows Paging.single now
      (operatorPool json seed nows mutation now table) schedule := by
    intro catalog before who after hsplit
    rw [← hsame hsplit]
    exact hnone catalog before who after hsplit
  have hstands := mutationStands_of_noSeedingUnderway hstarts' hnone' (hwhole ▸ hsettled)
  intro catalog before who after hsplit
  rw [hsame hsplit, hwhole]
  exact hstands catalog before who after hsplit

omit [DecidableEq ι] in
/-- Every turn of the operator comes after the turns before its first. -/
theorem exists_eq_append_of_first {first rest before after : List (Option ι)}
    (hfirst : none ∉ first) (h : first ++ none :: rest = before ++ none :: after) :
    ∃ more, before = first ++ more ∧ none :: rest = more ++ none :: after := by
  rcases List.append_eq_append_iff.mp h with hmore | ⟨more, rfl, hrest⟩
  · exact hmore
  · cases more with
    | nil => exact ⟨[], by simpa using hrest.symm⟩
    | cons who more =>
        obtain ⟨rfl, -⟩ := List.cons.inj hrest
        exact (hfirst (by simp)).elim

/-- It is enough to look at the mutation's first turn. -/
theorem startsAfterSeeding_of_first {paging : Paging}
    {pool : Pool tableCalls PyException Unit (Option ι) Table} {first rest : List (Option ι)}
    (hfirst : none ∉ first) (who : ι)
    (hfinished : (pool.runSchedule (perform paging) first).programs (some who) =
      .finish (.ok ())) :
    StartsAfterSeeding paging pool (first ++ none :: rest) := by
  intro before after hsplit hbefore
  obtain ⟨more, rfl, hrest⟩ := exists_eq_append_of_first hfirst hsplit
  cases more with
  | nil => exact ⟨who, by simpa using hfinished⟩
  | cons other more =>
      obtain ⟨rfl, -⟩ := List.cons.inj hrest
      exact (hbefore (by simp)).elim

/-- No seeding is underway when all have finished before the mutation starts. -/
theorem noSeedingUnderway_of_finished {paging : Paging}
    {pool : Pool tableCalls PyException Unit (Option ι) Table} {first rest : List (Option ι)}
    (hfirst : none ∉ first)
    (hfinished : ∀ who, ∃ result,
      (pool.runSchedule (perform paging) first).programs (some who) = .finish result) :
    NoSeedingUnderway json seed nows paging now pool (first ++ none :: rest) := by
  rintro catalog before who after hsplit ⟨rfl, -⟩ starter
  obtain ⟨more, rfl, -⟩ := exists_eq_append_of_first hfirst hsplit
  obtain ⟨result, hresult⟩ := hfinished starter
  left
  rw [Pool.runSchedule_append]
  exact ⟨result, Pool.runSchedule_finish (perform paging) more hresult⟩

end Operator

/-! ## An instance that starts slowly -/

/-- The only instance has finished when the operator renames the agent. -/
theorem mutation_stands_greeter :
    let pool := operatorPool greeterJson greeterSeed (fun _ : Unit => noon)
      (.replaceAll [renamedGreeter]) noon ∅
    StoresCounted (pool.runSchedule dynamo
      [some (), some (), some (), some (), none, none, none, none]).state [renamedGreeter] := by
  intro pool
  have hstarts : StartsAfterSeeding Paging.single pool
      ([some (), some (), some (), some ()] ++ none :: [none, none, none]) :=
    startsAfterSeeding_of_first (by decide) () rfl
  have hwriting : (pool.runSchedule (perform Paging.single)
      [some (), some (), some (), some ()]).programs none = writeEntries noon [renamedGreeter] := by
    rw [Pool.runSchedule_of_not_mem _ (by decide)]
    rfl
  have hnone : NoSeedingUnderway greeterJson greeterSeed (fun _ : Unit => noon) Paging.single noon
      pool ([some (), some (), some (), some ()] ++ none :: [none, none, none]) :=
    noSeedingUnderway_of_finished (by decide) fun _ => ⟨.ok (), rfl⟩
  have hstands := mutation_stands hstarts (fun _ _ _ _ _ _ => rfl) hnone ?_
  · exact hstands ⟨[renamedGreeter], by decide⟩ [some (), some (), some (), some ()] none
      [none, none, none] rfl ⟨rfl, hwriting⟩
  · apply Pool.settled_of_nextCall?
    decide +kernel

/-- The slow instance finds META missing, the other one seeds, the operator
renames the agent, and then the slow instance writes the seed over it. -/
theorem slow_seeding_undoes_rename :
    let pool := operatorPool greeterJson greeterSeed (fun _ : Bool => noon)
      (.replaceAll [renamedGreeter]) noon ∅
    let schedule := [some true, some false, some false, some false, some false] ++
      none :: [none, none, none, some true, some true, some true, some true]
    StartsAfterSeeding Paging.single pool schedule ∧
      (pool.runSchedule dynamo schedule).Settled ∧
      ¬ MutationStands Paging.single noon pool schedule := by
  intro pool schedule
  refine ⟨startsAfterSeeding_of_first (by decide) false rfl, ?_, fun hstands => ?_⟩
  · apply Pool.settled_of_nextCall?
    decide +kernel
  · have hwriting : (pool.runSchedule (perform Paging.single)
        [some true, some false, some false, some false, some false]).programs none =
          writeEntries noon [renamedGreeter] := by
      rw [Pool.runSchedule_of_not_mem _ (by decide)]
      rfl
    have hstored := hstands ⟨[renamedGreeter], by decide⟩
      [some true, some false, some false, some false, some false] none
      [none, none, none, some true, some true, some true, some true] rfl ⟨rfl, hwriting⟩
    obtain ⟨now, hnow⟩ := hstored.present renamedGreeter (List.mem_singleton_self _)
    have hseed : (pool.runSchedule (perform Paging.single) schedule).state[agentKey "greeter"]? =
        some (agentAttrs noon greeter) := by
      decide +kernel
    exact absurd (agentAttrs_inj (Option.some.inj (hseed.symm.trans hnow))) (by decide)

end ByodsServer
