/-
# Everything the program does with the table

The operations of the token storage, of the profiles, of the audit log, of the
catalog and of its command line, each as a coroutine with its answer. All of them
share one table, and each but one keeps to the partition of its org, of the
integration or of the catalog; `list_registered_orgs` scans them all. So what
happens in one partition is decided there, whatever is going on elsewhere.
-/

import ByodsServer.Effects.Regions
import ByodsServer.Persistence.AuditQuery
import ByodsServer.Persistence.TokenRefinement

namespace ByodsServer

open Effects Python

/-! ## The operations -/

/-- What an operation answers. -/
inductive OperationAnswer
  | done
  | tokens (found : Option TokenSet)
  | profile (found : Option Item)
  | events (found : List ListedEvent)
  | orgs (found : Option (List String))
  | agents (found : List VirtualAgentCatalogEntry)
  | exit (result : CommandResult)
  | reachable (reachable : Bool)

/-- An operation, with what it reads from the clock and from the random generator. -/
inductive TableOperation
  | getServiceAppTokens (orgId : String) (now : DateTime)
  | setServiceAppTokens (orgId : String) (tokens : ServiceAppTokens) (entropy : String)
      (now profileNow : DateTime)
  | deleteServiceAppTokens (orgId : String) (profileNow : DateTime)
  | getProfile (orgId : String)
  | recordEvent (event : AuditEvent) (now : DateTime) (eventId : String)
  | listEvents (orgId : String) (limit : ℕ) (since : Option AwareDateTime)
  | getIntegrationTokens (now : DateTime)
  | setIntegrationTokens (tokens : OAuthTokens) (entropy : String) (now : DateTime)
  | listRegisteredOrgs (fuel : ℕ)
  | checkTableReachable
  | ensureSeeded (seed : SeedFile) (now : DateTime)
  | listAgents
  | mutate (mutation : Mutation) (now : DateTime)
  | command (line : Command) (now : DateTime)

/-- A coroutine, with its value as the answer of an operation. -/
def answering {α : Type} (p : TableProgram α) (answer : α → OperationAnswer) :
    TableProgram OperationAnswer := do
  let value ← p
  return answer value

/-- The key of the partition that an operation keeps to. -/
def TableOperation.partition? : TableOperation → Option String
  | getServiceAppTokens orgId _ => some (orgPk orgId)
  | setServiceAppTokens orgId _ _ _ _ => some (orgPk orgId)
  | deleteServiceAppTokens orgId _ => some (orgPk orgId)
  | getProfile orgId => some (orgPk orgId)
  | recordEvent event _ _ => some (orgPk event.orgId)
  | listEvents orgId _ _ => some (orgPk orgId)
  | getIntegrationTokens _ => some integrationKey.pk
  | setIntegrationTokens _ _ _ => some integrationKey.pk
  | listRegisteredOrgs _ => none
  | checkTableReachable => some catalogPk
  | ensureSeeded _ _ => some catalogPk
  | listAgents => some catalogPk
  | mutate _ _ => some catalogPk
  | command _ _ => some catalogPk

section Program

variable (json : JsonLib) (lib : TokenLib) (key : String) (ttlDays : ℤ)

/-- The coroutine of an operation. -/
def TableOperation.program : TableOperation → TableProgram OperationAnswer
  | getServiceAppTokens orgId now =>
      answering (ByodsServer.getServiceAppTokens lib key now orgId) .tokens
  | setServiceAppTokens orgId tokens entropy now profileNow =>
      answering (ByodsServer.setServiceAppTokens lib key entropy now profileNow orgId tokens)
        fun _ => .done
  | deleteServiceAppTokens orgId profileNow =>
      answering (ByodsServer.deleteServiceAppTokens profileNow orgId) fun _ => .done
  | getProfile orgId => answering (ByodsServer.getProfile orgId) .profile
  | recordEvent event now eventId =>
      answering (ByodsServer.recordEvent ttlDays now eventId event) fun _ => .done
  | listEvents orgId limit since => answering (ByodsServer.listEvents orgId limit since) .events
  | getIntegrationTokens now => answering (ByodsServer.getIntegrationTokens lib key now) .tokens
  | setIntegrationTokens tokens entropy now =>
      answering (ByodsServer.setIntegrationTokens lib key entropy now tokens) fun _ => .done
  | listRegisteredOrgs fuel => answering (ByodsServer.listRegisteredOrgs fuel) .orgs
  | checkTableReachable => answering ByodsServer.checkTableReachable .reachable
  | ensureSeeded seed now => answering (ByodsServer.ensureSeeded json seed now) fun _ => .done
  | listAgents => answering ByodsServer.listAgents .agents
  | mutate mutation now => answering (mutation.program now) fun _ => .done
  | command line now => answering (line.run now) .exit

end Program

/-- A pool of operations at work on one table. -/
abbrev TablePool (ι : Type) := Pool tableCalls PyException OperationAnswer ι Table

/-- Operations that are about to start. -/
def startOperations {ι : Type} (json : JsonLib) (lib : TokenLib) (key : String) (ttlDays : ℤ)
    (operations : ι → TableOperation) (table : Table) : TablePool ι where
  state := table
  programs who := (operations who).program json lib key ttlDays

/-! ## Partitions -/

/-- What stands in a partition, by sort key. -/
def Table.partition (pk : String) (table : Table) : String → Option Attrs :=
  fun sk => table[Key.mk pk sk]?

/-- The partition that a call looks at. -/
def TableCall.partition? : TableCall → Option String
  | getItem key => some key.pk
  | putItem item => some item.key.pk
  | deleteItem key => some key.pk
  | query args => some args.pk
  | scan _ _ => none

/-- Keys are in one order only. -/
theorem Key.order_asymm {first second : Key} (h : Key.order first second = .lt) :
    Key.order second first ≠ .lt := by
  rw [@Std.OrientedCmp.eq_swap _ Key.order, h]
  decide

/-- Lists of items in the order of their keys are equal when they have the same items. -/
theorem eq_of_sorted_of_mem_iff {first second : List Item}
    (hfirst : first.Pairwise fun a b => Key.order a.key b.key = .lt)
    (hsecond : second.Pairwise fun a b => Key.order a.key b.key = .lt)
    (hmem : ∀ item, item ∈ first ↔ item ∈ second) : first = second := by
  have hnodup {items : List Item}
      (h : items.Pairwise fun a b => Key.order a.key b.key = .lt) : items.Nodup := by
    refine h.imp ?_
    rintro a b hlt rfl
    rw [Key.order_self] at hlt
    cases hlt
  have hperm : first.Perm second :=
    (List.perm_ext_iff_of_nodup (hnodup hfirst) (hnodup hsecond)).mpr hmem
  exact hperm.eq_of_pairwise (fun a b _ _ hab hba => (Key.order_asymm hab hba).elim) hfirst hsecond

/-- A query asks one partition. -/
theorem Table.select_congr {first second : Table} {args : QueryArgs}
    (h : first.partition args.pk = second.partition args.pk) :
    first.select args = second.select args := by
  have hfound : (first.items.filter fun item =>
        item.key.pk = args.pk && startsWith item.key.sk args.skPrefix) =
      second.items.filter fun item =>
        item.key.pk = args.pk && startsWith item.key.sk args.skPrefix := by
    apply eq_of_sorted_of_mem_iff (first.items_sorted.filter _) (second.items_sorted.filter _)
    intro item
    rw [List.mem_filter, List.mem_filter, mem_items, mem_items, Bool.and_eq_true,
      decide_eq_true_iff]
    refine and_congr_left fun hargs => ?_
    have hkey : item.key = ⟨args.pk, item.key.sk⟩ := by rw [← hargs.1]
    have hsame : first[item.key]? = second[item.key]? := by
      rw [hkey]
      exact congrFun h item.key.sk
    rw [hsame]
  rw [select, select, hfound]

/-- A call is decided by the partition that it looks at. -/
theorem decidedBy_partition {paging : Paging} {request : TableCall} {pk : String}
    (h : request.partition? = some pk) :
    DecidedBy (perform paging) (Table.partition pk) request := by
  cases request with
  | getItem key =>
      obtain rfl := Option.some.inj h
      refine ⟨fun first second hsame => ?_, fun _ _ hsame => hsame⟩
      have hitem : first[key]? = second[key]? := congrFun hsame key.sk
      simp only [perform, Table.item?, hitem]
  | putItem item =>
      obtain rfl := Option.some.inj h
      refine ⟨fun _ _ _ => rfl, fun first second hsame => funext fun sk => ?_⟩
      have hother := congrFun hsame sk
      simp only [Table.partition] at hother
      simp only [perform, Table.partition, Table.getElem?_insert, hother]
  | deleteItem key =>
      obtain rfl := Option.some.inj h
      refine ⟨fun _ _ _ => rfl, fun first second hsame => funext fun sk => ?_⟩
      have hother := congrFun hsame sk
      simp only [Table.partition] at hother
      simp only [perform, Table.partition, Table.getElem?_erase, hother]
  | query args =>
      obtain rfl := Option.some.inj h
      refine ⟨fun first second hsame => ?_, fun _ _ hsame => hsame⟩
      simp only [perform, Table.select_congr hsame]
  | scan sk start => cases h

/-- A call spares every partition that it does not look at. -/
theorem spares_partition {paging : Paging} {request : TableCall} {pk : String}
    (h : request.partition? ≠ some pk) : Spares (perform paging) (Table.partition pk) request := by
  intro table
  funext sk
  apply getElem?_of_not_touches
  intro htouches
  rcases htouches with rfl | ⟨item, rfl, hkey⟩
  · exact h rfl
  · exact h (congrArg (some ∘ Key.pk) hkey)

/-! ## Items whose time is up -/

/-- An item that the service may take: `expires_at` is the time-to-live attribute of the
table, in seconds since the epoch. -/
structure Expiry where
  now : ℤ
  key : Key

/-- The service takes an item when its time is up, and only then. -/
def expire (expiry : Expiry) (table : Table) : Table :=
  match table[expiry.key]?.bind fun attrs => attrs.lookup "expires_at" with
  | some (.int expires) => if expires ≤ expiry.now then table.erase expiry.key else table
  | _ => table

/-- Expiry takes one item, or nothing. -/
theorem expire_cases (expiry : Expiry) (table : Table) :
    expire expiry table = table ∨
      ∃ attrs expires, table[expiry.key]? = some attrs ∧
        attrs.lookup "expires_at" = some (.int expires) ∧ expires ≤ expiry.now ∧
        expire expiry table = table.erase expiry.key := by
  rw [expire]
  split
  · next expires hexpires =>
      obtain ⟨attrs, hattrs, hlookup⟩ := Option.bind_eq_some_iff.mp hexpires
      split_ifs with hnow
      · exact Or.inr ⟨attrs, expires, hattrs, hlookup, hnow, rfl⟩
      · exact Or.inl rfl
  · exact Or.inl rfl

/-- An expiry is decided by the partition of its item, and spares all others. -/
theorem separatesChanges_expire (pk : String) :
    SeparatesChanges expire (Table.partition pk) fun expiry => expiry.key.pk = pk where
  decided expiry hpk first second hsame := by
    have hitem : first[expiry.key]? = second[expiry.key]? := by
      have hsk := congrFun hsame expiry.key.sk
      simp only [Table.partition, ← hpk] at hsk
      exact hsk
    simp only [expire, hitem]
    split
    · split_ifs
      · funext sk
        have hother := congrFun hsame sk
        simp only [Table.partition] at hother
        simp only [Table.partition, Table.getElem?_erase, hother]
      · exact hsame
    · exact hsame
  spared expiry hpk table := by
    rcases expire_cases expiry table with hsame | ⟨-, -, -, -, -, herased⟩
    · rw [hsame]
    · funext sk
      rw [herased, Table.partition, Table.getElem?_erase, if_neg]
      · rfl
      · exact fun hkey => hpk (congrArg Key.pk hkey)

/-! ## Operations keep to their partitions -/

section Partition

variable {paging : Paging} {α : Type}

/-- The coroutine calls one partition only, as long as it is answered by the table, or
not at all. -/
def KeepsToPartition (paging : Paging) (pk : Option String) (p : TableProgram α) : Prop :=
  p.UsesUnreliably (perform paging) fun request => TableCall.partition? request = pk

theorem keepsToPartition_await {pk : Option String} {request : TableCall}
    (h : request.partition? = pk) :
    KeepsToPartition paging pk (Program.await (S := tableCalls) request) :=
  ⟨h, fun _ _ => trivial⟩

theorem keepsToPartition_scanOrgs (fuel : ℕ) (start : Option ℕ) (orgIds : List String) :
    KeepsToPartition paging none (scanOrgs fuel start orgIds) := by
  induction fuel generalizing start orgIds with
  | zero => trivial
  | succ fuel ih =>
      apply Program.UsesUnreliably.bind (keepsToPartition_await rfl)
      intro response
      dsimp only
      split
      · trivial
      · exact ih _ _

/-- A write of the catalog deletes only what a query of the catalog answered. -/
theorem keepsToPartition_writeEntries (now : DateTime) (entries : List VirtualAgentCatalogEntry)
    (seededFromFile : Bool) :
    KeepsToPartition paging (some catalogPk) (writeEntries now entries seededFromFile) := by
  apply Program.UsesUnreliably.bind (p := Program.ofExcept _) trivial
  intro _
  rw [overwriteEntries]
  refine ⟨rfl, fun fate table => ?_⟩
  have hput (item : Item) (hpk : item.key.pk = catalogPk) :
      (putItem item).Uses fun request => TableCall.partition? request = some catalogPk :=
    Program.uses_await (congrArg some hpk)
  -- The deletes are those of the items that the query has answered.
  have hwrite (items : List Item) (hitems : ∀ item ∈ items, item.key.pk = catalogPk) :
      (do
        Program.forEach items fun item => deleteItem item.key
        Program.forEach entries fun entry => putItem (agentItem now entry)
        putItem (metaItem now entries.length seededFromFile) : TableProgram Unit).Uses
          fun request => TableCall.partition? request = some catalogPk := by
    apply Program.Uses.bind (Program.uses_forEach fun item hitem =>
      Program.uses_await (congrArg some (hitems item hitem)))
    intro _
    exact (Program.uses_forEach fun entry _ => hput _ rfl).bind fun _ => hput _ rfl
  cases fate with
  | works =>
      apply Program.Uses.usesUnreliably
      apply hwrite
      exact fun item hitem => pk_of_mem_agentItems (mem_select_of_mem_page hitem)
  | refused e => trivial
  | lost e => trivial

theorem keepsToPartition_listAgents : KeepsToPartition paging (some catalogPk) listAgents :=
  Program.UsesUnreliably.bind (keepsToPartition_await rfl) fun _ => trivial

theorem keepsToPartition_ensureSeeded (json : JsonLib) (seed : SeedFile) (now : DateTime) :
    KeepsToPartition paging (some catalogPk) (ensureSeeded json seed now) := by
  apply Program.UsesUnreliably.bind (keepsToPartition_await rfl)
  intro stored
  cases stored with
  | some item => trivial
  | none =>
      dsimp only
      split
      · trivial
      · trivial
      · exact keepsToPartition_writeEntries _ _ _

theorem Mutation.keepsToPartition (mutation : Mutation) (now : DateTime) :
    KeepsToPartition paging (some catalogPk) (mutation.program now) := by
  have hafter (stored : List VirtualAgentCatalogEntry) :
      KeepsToPartition paging (some catalogPk) (mutation.afterListing now stored) :=
    Program.UsesUnreliably.bind (p := Program.ofExcept _) trivial fun entries =>
      keepsToPartition_writeEntries now entries false
  rcases mutation.program_eq now with hprogram | hprogram
  · rw [hprogram]
    exact Program.UsesUnreliably.bind keepsToPartition_listAgents hafter
  · rw [hprogram []]
    exact hafter []

theorem Command.keepsToPartition (command : Command) (now : DateTime) :
    KeepsToPartition paging (some catalogPk) (command.run now) := by
  obtain ⟨afterListing, report, hrun⟩ := command.listsThenWrites now
  rw [hrun.run_eq]
  apply Program.UsesUnreliably.resume
  · apply Program.UsesUnreliably.bind keepsToPartition_listAgents
    intro stored
    rcases hrun.after stored with ⟨result, hresult⟩ | ⟨entries, -, hentries⟩
    · rw [hresult]
      trivial
    · rw [hentries]
      apply Program.UsesUnreliably.bind (keepsToPartition_writeEntries now entries false)
      exact fun _ => trivial
  · intro result
    cases result with
    | ok value => trivial
    | error e =>
        obtain ⟨reported, hreported⟩ := hrun.report_finishes e
        rw [Program.recover_error, hreported]
        trivial

theorem keepsToPartition_answering {pk : Option String} {p : TableProgram α}
    (h : KeepsToPartition paging pk p) (answer : α → OperationAnswer) :
    KeepsToPartition paging pk (answering p answer) :=
  Program.UsesUnreliably.bind h fun _ => trivial

end Partition

/-- Every operation keeps to its partition. -/
theorem TableOperation.keepsToPartition (json : JsonLib) (lib : TokenLib) (key : String)
    (ttlDays : ℤ) (paging : Paging) (operation : TableOperation) :
    KeepsToPartition paging operation.partition?
      (operation.program json lib key ttlDays) := by
  cases operation with
  | getServiceAppTokens orgId now =>
      apply keepsToPartition_answering
      apply Program.UsesUnreliably.bind (keepsToPartition_await rfl)
      intro stored
      cases stored with
      | none => trivial
      | some item =>
          exact Program.UsesUnreliably.bind (p := Program.ofExcept _) trivial fun _ =>
            Program.UsesUnreliably.bind (p := Program.ofExcept _) trivial fun _ => trivial
  | setServiceAppTokens orgId tokens entropy now profileNow =>
      apply keepsToPartition_answering
      apply Program.UsesUnreliably.bind (p := Program.ofExcept _) trivial
      rintro ⟨blob, version⟩
      apply Program.UsesUnreliably.bind (keepsToPartition_await rfl)
      exact fun _ => keepsToPartition_await rfl
  | deleteServiceAppTokens orgId profileNow =>
      apply keepsToPartition_answering
      apply Program.UsesUnreliably.bind (keepsToPartition_await rfl)
      exact fun _ => keepsToPartition_await rfl
  | getProfile orgId => exact keepsToPartition_answering (keepsToPartition_await rfl) _
  | recordEvent event now eventId =>
      apply keepsToPartition_answering
      apply Program.UsesUnreliably.bind (p := Program.ofExcept _) trivial
      exact fun _ => keepsToPartition_await rfl
  | listEvents orgId limit since =>
      apply keepsToPartition_answering
      exact Program.UsesUnreliably.bind (keepsToPartition_await rfl) fun _ => trivial
  | getIntegrationTokens now =>
      apply keepsToPartition_answering
      apply Program.UsesUnreliably.bind (keepsToPartition_await rfl)
      intro stored
      cases stored with
      | none => trivial
      | some item =>
          dsimp only
          split
          · trivial
          · exact Program.UsesUnreliably.bind (p := Program.ofExcept _) trivial fun _ => trivial
  | setIntegrationTokens tokens entropy now =>
      apply keepsToPartition_answering
      apply Program.UsesUnreliably.bind (p := Program.ofExcept _) trivial
      rintro ⟨blob, version⟩
      exact keepsToPartition_await rfl
  | listRegisteredOrgs fuel =>
      apply keepsToPartition_answering
      exact Program.UsesUnreliably.bind (keepsToPartition_scanOrgs fuel none []) fun _ => trivial
  | checkTableReachable =>
      apply keepsToPartition_answering
      apply Program.UsesUnreliably.resume
      · exact Program.UsesUnreliably.bind (keepsToPartition_await rfl) fun _ => trivial
      · intro result
        cases result with
        | ok value => trivial
        | error e => cases e <;> trivial
  | ensureSeeded seed now =>
      exact keepsToPartition_answering (keepsToPartition_ensureSeeded json seed now) _
  | listAgents => exact keepsToPartition_answering keepsToPartition_listAgents _
  | mutate mutation now => exact keepsToPartition_answering (mutation.keepsToPartition now) _
  | command line now => exact keepsToPartition_answering (line.keepsToPartition now) _

/-- In a pool of operations, those of one partition are insiders of it. -/
theorem separated_of_partition {ι : Type} (json : JsonLib) (lib : TokenLib) (key : String)
    (ttlDays : ℤ) (paging : Paging) (operations : ι → TableOperation) (table : Table)
    (pk : String) :
    (startOperations json lib key ttlDays operations table).Separated (perform paging)
      (Table.partition pk) fun who => (operations who).partition? = some pk where
  insiders who hwho := by
    refine ((operations who).keepsToPartition json lib key ttlDays paging).mono ?_
    intro request hrequest
    exact decidedBy_partition (hrequest.trans hwho)
  outsiders who hwho := by
    refine ((operations who).keepsToPartition json lib key ttlDays paging).mono ?_
    intro request hrequest
    exact spares_partition fun hpk => hwho (hrequest.symm.trans hpk)

/-- Partitions are isolated: after any interleaving, whatever calls fail in it and
whatever expires, a partition holds what it holds when only its own operations take
their turns and only its own items expire, and each of these operations has as much left
to do, or has answered the same. -/
theorem partitions_isolated {ι : Type} [DecidableEq ι] (json : JsonLib) (lib : TokenLib)
    (key : String) (ttlDays : ℤ) (paging : Paging) (operations : ι → TableOperation)
    (table : Table) (events : List (PoolEvent PyException ι Expiry)) (pk : String) :
    Pool.AlikeFor (Table.partition pk) (fun who => (operations who).partition? = some pk)
      ((startOperations json lib key ttlDays operations table).occurAll (perform paging) expire
        events)
      ((startOperations json lib key ttlDays operations table).occurAll (perform paging) expire
        (events.filter fun event =>
          event.Inside (fun who => (operations who).partition? = some pk)
            fun expiry => expiry.key.pk = pk)) :=
  Pool.occurAll_insiders (separatesChanges_expire pk)
    (separated_of_partition json lib key ttlDays paging operations table pk) events

end ByodsServer
