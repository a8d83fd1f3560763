/-
# What the table can ever hold

Operations die half way, calls are refused or their answers are lost, the service
takes items whose time is up, and everything interleaves. Still each item of the table
is one that an operation meant to write, whole: credentials are an encryption of the
tokens of a set, an event was redacted before it was stored, an agent comes from a
validated catalog. So the readers are safe on every table that can be reached.
-/

import ByodsServer.Persistence.CatalogPages
import ByodsServer.Persistence.RedactedText
import ByodsServer.Persistence.TableOperations

namespace ByodsServer

open Effects Python

/-! ## The items of an operation -/

/-- The time and the seed flag of the catalog an operation may write. -/
def TableOperation.catalogWrite? : TableOperation → Option (DateTime × Bool)
  | ensureSeeded _ now => some (now, true)
  | mutate _ now => some (now, false)
  | command _ now => some (now, false)
  | _ => none

/-- The entries that an operation makes of the stored ones, to write them. -/
def TableOperation.newEntries (json : JsonLib) (stored : List VirtualAgentCatalogEntry) :
    TableOperation → Option (List VirtualAgentCatalogEntry)
  | ensureSeeded seed _ => (loadCatalog json seed).toOption
  | mutate mutation _ => (mutation.newEntries stored).toOption
  | command line _ => line.newEntries stored
  | _ => none

/-- The entries that operations bring into the catalog: each operation makes them of such
entries and of its own arguments, and they make a valid catalog. -/
inductive Entered {ι : Type} (json : JsonLib) (operations : ι → TableOperation) :
    VirtualAgentCatalogEntry → Prop
  | made {who : ι} {stored entries : List VirtualAgentCatalogEntry}
      {entry : VirtualAgentCatalogEntry}
      (hstored : ∀ other ∈ stored, Entered json operations other)
      (hentries : entries ∈ (operations who).newEntries json stored)
      (hvalid : ValidCatalog entries) (hentry : entry ∈ entries) :
      Entered json operations entry

section WrittenBy

variable (json : JsonLib) (lib : TokenLib) (key : String) (ttlDays : ℤ)
  (entered : VirtualAgentCatalogEntry → Prop)

/-- The items that an operation writes, where the stored entries have been entered. -/
inductive WrittenBy : TableOperation → Item → Prop
  | serviceCreds {orgId : String} {tokens : ServiceAppTokens} {entropy : String}
      {now profileNow : DateTime} {blob : String} {version : ℤ}
      (hencrypt : encryptTokenPayload lib.toCryptoLib key entropy (tokensToPayload tokens) =
        .ok (blob, version)) :
      WrittenBy (.setServiceAppTokens orgId tokens entropy now profileNow)
        ⟨credsKey orgId, credsAttrs blob version now⟩
  | authorized {orgId : String} {tokens : ServiceAppTokens} {entropy : String}
      {now profileNow : DateTime} {encrypted : String × ℤ}
      (hencrypt : encryptTokenPayload lib.toCryptoLib key entropy (tokensToPayload tokens) =
        .ok encrypted) :
      WrittenBy (.setServiceAppTokens orgId tokens entropy now profileNow)
        ⟨profileKey orgId, authorizedAttrs profileNow⟩
  | deauthorized {orgId : String} {profileNow : DateTime} :
      WrittenBy (.deleteServiceAppTokens orgId profileNow)
        ⟨profileKey orgId, deauthorizedAttrs profileNow⟩
  | event {event : AuditEvent} {now : DateTime} {eventId : String} {expires : ℤ}
      (hexpires : expiresAt now ttlDays = .ok expires) :
      WrittenBy (.recordEvent event now eventId)
        ⟨auditKey event.orgId now eventId, auditAttrs now expires event⟩
  | integrationCreds {tokens : OAuthTokens} {entropy : String} {now : DateTime} {blob : String}
      {version : ℤ}
      (hencrypt : encryptTokenPayload lib.toCryptoLib key entropy (oauthTokensToPayload tokens) =
        .ok (blob, version)) :
      WrittenBy (.setIntegrationTokens tokens entropy now)
        ⟨integrationKey, credsAttrs blob version now⟩
  | agent {operation : TableOperation} {now : DateTime} {seededFromFile : Bool}
      {stored entries : List VirtualAgentCatalogEntry} {entry : VirtualAgentCatalogEntry}
      (hwrite : operation.catalogWrite? = some (now, seededFromFile))
      (hstored : ∀ other ∈ stored, entered other)
      (hentries : entries ∈ operation.newEntries json stored) (hvalid : ValidCatalog entries)
      (hentry : entry ∈ entries) : WrittenBy operation (agentItem now entry)
  | catalogMeta {operation : TableOperation} {now : DateTime} {seededFromFile : Bool}
      {stored entries : List VirtualAgentCatalogEntry}
      (hwrite : operation.catalogWrite? = some (now, seededFromFile))
      (hstored : ∀ other ∈ stored, entered other)
      (hentries : entries ∈ operation.newEntries json stored) (hvalid : ValidCatalog entries) :
      WrittenBy operation (metaItem now entries.length seededFromFile)

end WrittenBy

/-! ## What is found under a key -/

section Found

variable {json : JsonLib} {lib : TokenLib} {key : String} {ttlDays : ℤ}
  {entered : VirtualAgentCatalogEntry → Prop}

/-- Only events have a time after which the service takes them. -/
theorem WrittenBy.lookup_expires_at {operation : TableOperation} {item : Item} {expires : ℤ}
    (h : WrittenBy json lib key ttlDays entered operation item)
    (hexpires : item.attrs.lookup "expires_at" = some (.int expires)) :
    ∃ event now eventId, operation = .recordEvent event now eventId ∧
      expiresAt now ttlDays = .ok expires ∧ item.key = auditKey event.orgId now eventId := by
  cases h with
  | event hevent =>
      obtain rfl := Attr.int.inj (Option.some.inj hexpires)
      exact ⟨_, _, _, rfl, hevent, rfl⟩
  | _ => cases hexpires

theorem orgPk_ne_catalogPk (orgId : String) : orgPk orgId ≠ catalogPk := by
  intro h
  rw [orgPk, catalogPk, ← String.toList_inj] at h
  simp at h

theorem orgPk_ne_integration (orgId : String) : orgPk orgId ≠ integrationKey.pk :=
  fun h => integrationKey_ne_credsKey orgId (Key.ext h.symm rfl)

theorem startsWith_auditKey (orgId : String) (now : DateTime) (eventId : String) :
    startsWith (auditKey orgId now eventId).sk "AUDIT#" = true := by
  rw [auditKey, String.append_assoc, String.append_assoc]
  exact startsWith_append _ _

theorem auditKey_ne_profileKey (orgId other : String) (now : DateTime) (eventId : String) :
    auditKey orgId now eventId ≠ profileKey other := by
  intro h
  have haudit := startsWith_auditKey orgId now eventId
  rw [h] at haudit
  have hprofile : startsWith "PROFILE" "AUDIT#" = false := by decide
  exact Bool.false_ne_true (hprofile.symm.trans haudit)

/-- Under the key of an agent stands an entry of a valid catalog that the operation made. -/
theorem WrittenBy.of_agentKey {operation : TableOperation} {item : Item}
    (h : WrittenBy json lib key ttlDays entered operation item)
    (hkey : isAgentKey item.key = true) :
    ∃ now stored entries entry, (∀ other ∈ stored, entered other) ∧
      entries ∈ operation.newEntries json stored ∧ ValidCatalog entries ∧ entry ∈ entries ∧
      item = agentItem now entry := by
  have hpk : item.key.pk = catalogPk := by
    rw [isAgentKey, Bool.and_eq_true, decide_eq_true_iff] at hkey
    exact hkey.1
  cases h with
  | agent hwrite hstored hentries hvalid hentry =>
      exact ⟨_, _, _, _, hstored, hentries, hvalid, hentry, rfl⟩
  | catalogMeta hwrite hstored hentries hvalid =>
      rw [metaItem_key, isAgentKey_metaKey] at hkey
      cases hkey
  | integrationCreds hencrypt => cases hkey
  | _ => exact (orgPk_ne_catalogPk _ hpk).elim

/-- Among the events of an org stands what was recorded about it. -/
theorem WrittenBy.of_eventKey {operation : TableOperation} {item : Item} {orgId : String}
    (h : WrittenBy json lib key ttlDays entered operation item) (hpk : item.key.pk = orgPk orgId)
    (hsk : startsWith item.key.sk "AUDIT#" = true) :
    ∃ event now eventId expires, operation = .recordEvent event now eventId ∧
      event.orgId = orgId ∧ item.attrs = auditAttrs now expires event := by
  have hcreds : startsWith "CREDS" "AUDIT#" = false := by decide
  have hprofile : startsWith "PROFILE" "AUDIT#" = false := by decide
  cases h with
  | event hexpires => exact ⟨_, _, _, _, rfl, orgPk_injective hpk, rfl⟩
  | serviceCreds hencrypt => exact (Bool.false_ne_true (hcreds.symm.trans hsk)).elim
  | integrationCreds hencrypt => exact (orgPk_ne_integration orgId hpk.symm).elim
  | agent hwrite hstored hentries hvalid hentry => exact (orgPk_ne_catalogPk orgId hpk.symm).elim
  | catalogMeta hwrite hstored hentries hvalid => exact (orgPk_ne_catalogPk orgId hpk.symm).elim
  | _ => exact (Bool.false_ne_true (hprofile.symm.trans hsk)).elim

/-- Under the key of an org's credentials stands an encryption of tokens that were set for
it. -/
theorem WrittenBy.of_credsKey {operation : TableOperation} {item : Item} {orgId : String}
    (h : WrittenBy json lib key ttlDays entered operation item) (hkey : item.key = credsKey orgId) :
    ∃ tokens entropy now profileNow blob version,
      operation = .setServiceAppTokens orgId tokens entropy now profileNow ∧
      encryptTokenPayload lib.toCryptoLib key entropy (tokensToPayload tokens) =
        .ok (blob, version) ∧ item.attrs = credsAttrs blob version now := by
  have hcreds : IsCredsKey item.key := Or.inr ⟨orgId, hkey⟩
  cases h with
  | serviceCreds hencrypt =>
      obtain rfl := credsKey_injective hkey
      exact ⟨_, _, _, _, _, _, rfl, hencrypt, rfl⟩
  | integrationCreds hencrypt => exact (integrationKey_ne_credsKey orgId hkey).elim
  | event hexpires => exact (auditKey_not_creds _ _ _ hcreds).elim
  | agent hwrite hstored hentries hvalid hentry => exact (catalogPk_not_creds rfl hcreds).elim
  | catalogMeta hwrite hstored hentries hvalid => exact (catalogPk_not_creds rfl hcreds).elim
  | _ => exact (profileKey_not_creds _ hcreds).elim

/-- Under the key of the integration's credentials stands an encryption of its tokens. -/
theorem WrittenBy.of_integrationKey {operation : TableOperation} {item : Item}
    (h : WrittenBy json lib key ttlDays entered operation item) (hkey : item.key = integrationKey) :
    ∃ tokens entropy now blob version, operation = .setIntegrationTokens tokens entropy now ∧
      encryptTokenPayload lib.toCryptoLib key entropy (oauthTokensToPayload tokens) =
        .ok (blob, version) ∧ item.attrs = credsAttrs blob version now := by
  have hcreds : IsCredsKey item.key := Or.inl hkey
  cases h with
  | integrationCreds hencrypt => exact ⟨_, _, _, _, _, rfl, hencrypt, rfl⟩
  | serviceCreds hencrypt => exact (integrationKey_ne_credsKey _ hkey.symm).elim
  | event hexpires => exact (auditKey_not_creds _ _ _ hcreds).elim
  | agent hwrite hstored hentries hvalid hentry => exact (catalogPk_not_creds rfl hcreds).elim
  | catalogMeta hwrite hstored hentries hvalid => exact (catalogPk_not_creds rfl hcreds).elim
  | _ => exact (profileKey_not_creds _ hcreds).elim

/-- Under the key of a profile stands one that says what was done last to it. -/
theorem WrittenBy.of_profileKey {operation : TableOperation} {item : Item} {orgId : String}
    (h : WrittenBy json lib key ttlDays entered operation item)
    (hkey : item.key = profileKey orgId) :
    (∃ tokens entropy now profileNow,
      operation = .setServiceAppTokens orgId tokens entropy now profileNow ∧
        item.attrs = authorizedAttrs profileNow) ∨
    ∃ profileNow, operation = .deleteServiceAppTokens orgId profileNow ∧
      item.attrs = deauthorizedAttrs profileNow := by
  have hpk : item.key.pk = orgPk orgId := congrArg Key.pk hkey
  have hsk : item.key.sk = "PROFILE" := congrArg Key.sk hkey
  cases h with
  | authorized hencrypt =>
      obtain rfl := orgPk_injective hpk
      exact Or.inl ⟨_, _, _, _, rfl, rfl⟩
  | deauthorized =>
      obtain rfl := orgPk_injective hpk
      exact Or.inr ⟨_, rfl, rfl⟩
  | event hexpires => exact (auditKey_ne_profileKey _ _ _ _ hkey).elim
  | serviceCreds hencrypt => exact absurd hsk (by simp [credsKey])
  | integrationCreds hencrypt => exact (orgPk_ne_integration orgId hpk.symm).elim
  | agent hwrite hstored hentries hvalid hentry => exact (orgPk_ne_catalogPk orgId hpk.symm).elim
  | catalogMeta hwrite hstored hentries hvalid => exact (orgPk_ne_catalogPk orgId hpk.symm).elim

end Found

/-! ## Tables that are accounted for -/

/-- What a query of agents makes of agents: a valid list of their entries, or a load error. -/
theorem entriesOfItems_of_agents {entered : VirtualAgentCatalogEntry → Prop} {items : List Item}
    (hitems : ∀ item ∈ items, ∃ now entry, entered entry ∧ item = agentItem now entry) :
    (∃ message, entriesOfItems items = .error (.catalogLoadError message)) ∨
      ∃ listed, entriesOfItems items = .ok listed ∧ ValidCatalog listed ∧
        ∀ entry ∈ listed, entered entry := by
  have hread : ∃ listed, items.mapM entryOfItem = .ok listed ∧
      ∀ entry ∈ listed, entered entry := by
    induction items with
    | nil => exact ⟨[], rfl, List.forall_mem_nil _⟩
    | cons item items ih =>
        rw [List.forall_mem_cons] at hitems
        obtain ⟨⟨now, entry, hentered, rfl⟩, hrest⟩ := hitems
        obtain ⟨listed, hlisted, hall⟩ := ih hrest
        refine ⟨entry :: listed, ?_, List.forall_mem_cons.mpr ⟨hentered, hall⟩⟩
        rw [List.mapM_cons, entryOfItem_agentItem, hlisted]
        rfl
  obtain ⟨listed, hlisted, hall⟩ := hread
  rw [entriesOfItems, hlisted]
  simp only [bind, Except.bind]
  by_cases hempty : listed.isEmpty = true
  · rw [if_pos hempty]
    exact Or.inl ⟨_, rfl⟩
  · rw [if_neg hempty]
    cases hchecked : validateCatalogEntries listed with
    | error e =>
        obtain ⟨message, rfl⟩ := validateCatalogEntries_error hchecked
        exact Or.inl ⟨message, rfl⟩
    | ok checked =>
        exact Or.inr
          ⟨listed, rfl, (validateCatalogEntries_eq_ok_iff listed).mp hchecked, hall⟩

section Accounted

variable {ι : Type} {json : JsonLib} {lib : TokenLib} {key : String} {ttlDays : ℤ}
  {paging : Paging} {operations : ι → TableOperation}

/-- The items that some operation writes. -/
def Written (json : JsonLib) (lib : TokenLib) (key : String) (ttlDays : ℤ)
    (operations : ι → TableOperation) (item : Item) : Prop :=
  ∃ who, WrittenBy json lib key ttlDays (Entered json operations) (operations who) item

/-- Every item is one that some operation writes. -/
def AllWritten (json : JsonLib) (lib : TokenLib) (key : String) (ttlDays : ℤ)
    (operations : ι → TableOperation) (table : Table) : Prop :=
  ∀ itemKey attrs, table[itemKey]? = some attrs →
    Written json lib key ttlDays operations ⟨itemKey, attrs⟩

theorem AllWritten.erase {table : Table} (h : AllWritten json lib key ttlDays operations table)
    (itemKey : Key) : AllWritten json lib key ttlDays operations (table.erase itemKey) := by
  intro other attrs hother
  rw [Table.getElem?_erase] at hother
  split_ifs at hother
  exact h other attrs hother

/-- Whatever is put is one of the items. -/
def PutsOnly (written : Item → Prop) (request : TableCall) : Prop :=
  ∀ item, request = .putItem item → written item

/-- A call that puts only such items keeps the table accounted for. -/
theorem AllWritten.perform {table : Table} (h : AllWritten json lib key ttlDays operations table)
    {request : TableCall} (hrequest : PutsOnly (Written json lib key ttlDays operations) request) :
    AllWritten json lib key ttlDays operations (ByodsServer.perform paging request table).2 := by
  cases request with
  | putItem item =>
      intro other attrs hother
      simp only [ByodsServer.perform, Table.getElem?_insert] at hother
      split_ifs at hother with hkey
      · obtain rfl := hkey
        obtain rfl := Option.some.inj hother
        exact hrequest item rfl
      · exact h other attrs hother
  | deleteItem itemKey => exact h.erase itemKey
  | getItem itemKey => exact h
  | query args => exact h
  | scan sk start => exact h

theorem AllWritten.expire {table : Table} (h : AllWritten json lib key ttlDays operations table)
    (expiry : Expiry) : AllWritten json lib key ttlDays operations (expire expiry table) := by
  rcases expire_cases expiry table with hsame | ⟨-, -, -, -, -, herased⟩
  · rwa [hsame]
  · rw [herased]
    exact h.erase expiry.key

/-- The agents on the table have been entered. -/
theorem AllWritten.agents {table : Table} (h : AllWritten json lib key ttlDays operations table)
    (paging : Paging) : ∀ item ∈ paging.firstAgents table,
      ∃ now entry, Entered json operations entry ∧ item = agentItem now entry := by
  intro item hitem
  obtain ⟨hkey, hstored⟩ := Table.mem_agentItems.mp (mem_select_of_mem_page hitem)
  obtain ⟨who, hwritten⟩ := h item.key item.attrs hstored
  obtain ⟨now, stored, entries, entry, hlisted, hentries, hvalid, hentry, hagent⟩ :=
    hwritten.of_agentKey hkey
  exact ⟨now, entry, .made hlisted hentries hvalid hentry, hagent⟩

end Accounted

/-! ## An operation puts its own items only -/

section Puts

variable {written : Item → Prop} {α : Type}

theorem putsOnly_await {request : TableCall} (h : PutsOnly written request) :
    (Program.await (S := tableCalls) request : TableProgram _).Uses (PutsOnly written) :=
  Program.uses_await h

theorem putsOnly_putItem {item : Item} (h : written item) :
    (putItem item).Uses (PutsOnly written) :=
  putsOnly_await fun _ hput => TableCall.putItem.inj hput ▸ h

theorem putsOnly_getItem (itemKey : Key) : (getItem itemKey).Uses (PutsOnly written) :=
  putsOnly_await fun _ hput => TableCall.noConfusion hput

theorem putsOnly_query (args : QueryArgs) : (query args).Uses (PutsOnly written) :=
  putsOnly_await fun _ hput => TableCall.noConfusion hput

theorem putsOnly_deleteItem (itemKey : Key) : (deleteItem itemKey).Uses (PutsOnly written) :=
  putsOnly_await fun _ hput => TableCall.noConfusion hput

theorem putsOnly_answering {p : TableProgram α} (h : p.Uses (PutsOnly written))
    (answer : α → OperationAnswer) : (answering p answer).Uses (PutsOnly written) :=
  h.bind fun _ => trivial

theorem putsOnly_ofExcept (result : Except PyException α) :
    (Program.ofExcept result : TableProgram α).Uses (PutsOnly written) :=
  trivial

theorem putsOnly_scanOrgs (fuel : ℕ) (start : Option ℕ) (orgIds : List String) :
    (scanOrgs fuel start orgIds).Uses (PutsOnly written) := by
  induction fuel generalizing start orgIds with
  | zero => trivial
  | succ fuel ih =>
      apply Program.Uses.bind (putsOnly_await fun _ hput => TableCall.noConfusion hput)
      intro response
      dsimp only
      split
      · trivial
      · exact ih _ _

/-- A write of the catalog puts the entries that it has validated, whatever the query
answers. -/
theorem putsOnly_writeEntries {now : DateTime} {seededFromFile : Bool}
    {entries : List VirtualAgentCatalogEntry}
    (hagent : ValidCatalog entries → ∀ entry ∈ entries, written (agentItem now entry))
    (hmeta : ValidCatalog entries → written (metaItem now entries.length seededFromFile)) :
    (writeEntries now entries seededFromFile).Uses (PutsOnly written) := by
  rw [writeEntries]
  cases hchecked : validateCatalogEntries entries with
  | error e => trivial
  | ok checked =>
      have hvalid : ValidCatalog entries := (validateCatalogEntries_eq_ok_iff entries).mp hchecked
      apply Program.Uses.bind (putsOnly_ofExcept _)
      intro _
      apply Program.Uses.bind (putsOnly_query _)
      intro existing
      apply Program.Uses.bind (Program.uses_forEach fun item _ => putsOnly_deleteItem item.key)
      intro _
      apply Program.Uses.bind (Program.uses_forEach fun entry hentry =>
        putsOnly_putItem (hagent hvalid entry hentry))
      intro _
      exact putsOnly_putItem (hmeta hvalid)

theorem putsOnly_listFromTable : listFromTable.Uses (PutsOnly written) :=
  (putsOnly_query agentQuery).bind fun _ => putsOnly_ofExcept _

theorem putsOnly_ensureSeeded {now : DateTime} {json : JsonLib} {seed : SeedFile}
    (hwrite : ∀ entries, loadCatalog json seed = .ok entries →
      (writeEntries now entries true).Uses (PutsOnly written)) :
    (ensureSeeded json seed now).Uses (PutsOnly written) := by
  apply Program.Uses.bind (putsOnly_getItem metaKey)
  intro stored
  cases stored with
  | some item => trivial
  | none =>
      dsimp only
      cases hload : loadCatalog json seed with
      | ok entries => exact hwrite entries hload
      | error e => cases e <;> trivial

end Puts

/-! ## What is listed was entered -/

section Lists

variable {ι : Type} {json : JsonLib} {lib : TokenLib} {key : String} {ttlDays : ℤ}
  {paging : Paging} {operations : ι → TableOperation} {written : Item → Prop} {α : Type}

/-- The calls of a program on tables that are accounted for. -/
abbrev PutsAmid (json : JsonLib) (lib : TokenLib) (key : String) (ttlDays : ℤ) (paging : Paging)
    (operations : ι → TableOperation) (written : Item → Prop) (p : TableProgram α) : Prop :=
  p.UsesAmid (perform paging) (AllWritten json lib key ttlDays operations) (PutsOnly written)

/-- A program that goes on with the listed agents goes on with entered ones. -/
theorem putsAmid_listFromTable {f : List VirtualAgentCatalogEntry → TableProgram α}
    (hf : ∀ stored, (∀ entry ∈ stored, Entered json operations entry) →
      PutsAmid json lib key ttlDays paging operations written (f stored)) :
    PutsAmid json lib key ttlDays paging operations written (listFromTable >>= f) := by
  refine ⟨fun _ hput => TableCall.noConfusion hput, fun fate table htable => ?_⟩
  cases fate with
  | refused e => trivial
  | lost e => trivial
  | works =>
      show PutsAmid json lib key ttlDays paging operations written
        (Program.ofExcept (entriesOfItems (paging.firstAgents table)) >>= f)
      rcases entriesOfItems_of_agents (htable.agents paging) with
        ⟨message, herror⟩ | ⟨listed, hlisted, -, hentered⟩
      · rw [herror]
        trivial
      · rw [hlisted, Program.ofExcept_eq, Program.finish_bind]
        exact hf listed hentered

theorem Mutation.putsAmid {now : DateTime} {mutation : Mutation}
    (hwrite : ∀ stored, (∀ entry ∈ stored, Entered json operations entry) →
      ∀ entries ∈ (mutation.newEntries stored).toOption,
        (writeEntries now entries).Uses (PutsOnly written)) :
    PutsAmid json lib key ttlDays paging operations written (mutation.program now) := by
  have hafter (stored : List VirtualAgentCatalogEntry)
      (hentered : ∀ entry ∈ stored, Entered json operations entry) :
      PutsAmid json lib key ttlDays paging operations written
        (mutation.afterListing now stored) := by
    apply Program.Uses.usesAmid
    cases hnew : mutation.newEntries stored with
    | error e =>
        rw [Mutation.afterListing, hnew]
        trivial
    | ok entries =>
        rw [Mutation.afterListing_eq hnew]
        exact hwrite stored hentered entries (by rw [hnew]; rfl)
  rcases mutation.program_eq now with hprogram | hprogram
  · rw [hprogram]
    exact putsAmid_listFromTable hafter
  · rw [hprogram []]
    exact hafter [] (List.forall_mem_nil _)

theorem Command.putsAmid {now : DateTime} {command : Command}
    (hwrite : ∀ stored, (∀ entry ∈ stored, Entered json operations entry) →
      ∀ entries ∈ command.newEntries stored,
        (writeEntries now entries).Uses (PutsOnly written)) :
    PutsAmid json lib key ttlDays paging operations written (command.run now) := by
  obtain ⟨afterListing, report, hrun⟩ := command.listsThenWrites now
  rw [hrun.run_eq]
  apply Program.UsesAmid.resume
  · apply putsAmid_listFromTable
    intro stored hentered
    apply Program.Uses.usesAmid
    rcases hrun.after stored with ⟨result, hresult⟩ | ⟨entries, hentries, hafter⟩
    · rw [hresult]
      trivial
    · rw [hafter]
      exact (hwrite stored hentered entries hentries).bind fun _ => trivial
  · intro result
    cases result with
    | ok value => trivial
    | error e =>
        obtain ⟨reported, hreported⟩ := hrun.report_finishes e
        rw [Program.recover_error, hreported]
        trivial

end Lists

/-- Every operation puts its own items only, whatever becomes of its calls on tables that are
accounted for. -/
theorem TableOperation.putsAmid {ι : Type} (json : JsonLib) (lib : TokenLib) (key : String)
    (ttlDays : ℤ) (paging : Paging) (operations : ι → TableOperation)
    (operation : TableOperation) :
    PutsAmid json lib key ttlDays paging operations
      (WrittenBy json lib key ttlDays (Entered json operations) operation)
      (operation.program json lib key ttlDays) := by
  have hwrite {now : DateTime} {seededFromFile : Bool}
      (hcatalog : operation.catalogWrite? = some (now, seededFromFile))
      (stored : List VirtualAgentCatalogEntry)
      (hstored : ∀ entry ∈ stored, Entered json operations entry)
      (entries : List VirtualAgentCatalogEntry)
      (hentries : entries ∈ operation.newEntries json stored) :
      (writeEntries now entries seededFromFile).Uses
        (PutsOnly (WrittenBy json lib key ttlDays (Entered json operations) operation)) :=
    putsOnly_writeEntries
      (fun hvalid _ hentry => .agent hcatalog hstored hentries hvalid hentry)
      (fun hvalid => .catalogMeta hcatalog hstored hentries hvalid)
  have hreply {α : Type} {p : TableProgram α} {answer : α → OperationAnswer}
      (hp : p.Uses (PutsOnly (WrittenBy json lib key ttlDays (Entered json operations)
        operation))) :
      PutsAmid json lib key ttlDays paging operations
        (WrittenBy json lib key ttlDays (Entered json operations) operation)
        (answering p answer) :=
    (putsOnly_answering hp answer).usesAmid _ _
  cases operation with
  | getServiceAppTokens orgId now =>
      apply hreply
      apply Program.Uses.bind (putsOnly_getItem _)
      intro stored
      cases stored with
      | none => trivial
      | some item =>
          exact Program.Uses.bind (putsOnly_ofExcept _) fun _ =>
            Program.Uses.bind (putsOnly_ofExcept _) fun _ => trivial
  | setServiceAppTokens orgId tokens entropy now profileNow =>
      apply hreply
      rw [ByodsServer.setServiceAppTokens]
      cases hencrypt : encryptTokenPayload lib.toCryptoLib key entropy (tokensToPayload tokens) with
      | error e => trivial
      | ok encrypted =>
          apply Program.Uses.bind (putsOnly_putItem (.serviceCreds hencrypt))
          exact fun _ => putsOnly_putItem (.authorized hencrypt)
  | deleteServiceAppTokens orgId profileNow =>
      apply hreply
      exact (putsOnly_deleteItem _).bind fun _ => putsOnly_putItem .deauthorized
  | getProfile orgId => exact hreply (putsOnly_getItem _)
  | recordEvent event now eventId =>
      apply hreply
      rw [ByodsServer.recordEvent]
      cases hexpires : expiresAt now ttlDays with
      | error e => trivial
      | ok expires => exact putsOnly_putItem (.event hexpires)
  | listEvents orgId limit since =>
      apply hreply
      exact Program.Uses.bind (putsOnly_query _) fun _ => trivial
  | getIntegrationTokens now =>
      apply hreply
      apply Program.Uses.bind (putsOnly_getItem _)
      intro stored
      cases stored with
      | none => trivial
      | some item =>
          dsimp only
          split
          · trivial
          · exact Program.Uses.bind (putsOnly_ofExcept _) fun _ => trivial
  | setIntegrationTokens tokens entropy now =>
      apply hreply
      rw [ByodsServer.setIntegrationTokens]
      cases hencrypt :
          encryptTokenPayload lib.toCryptoLib key entropy (oauthTokensToPayload tokens) with
      | error e => trivial
      | ok encrypted => exact putsOnly_putItem (.integrationCreds hencrypt)
  | listRegisteredOrgs fuel =>
      apply hreply
      exact Program.Uses.bind (putsOnly_scanOrgs fuel none []) fun _ => trivial
  | checkTableReachable =>
      apply hreply
      apply Program.Uses.resume
      · exact Program.Uses.bind (putsOnly_getItem _) fun _ => trivial
      · intro result
        cases result with
        | ok value => trivial
        | error e => cases e <;> trivial
  | ensureSeeded seed now =>
      apply hreply
      apply putsOnly_ensureSeeded
      intro entries hload
      exact hwrite rfl [] (List.forall_mem_nil _) entries (congrArg Except.toOption hload)
  | listAgents => exact hreply putsOnly_listFromTable
  | mutate mutation now =>
      exact Program.UsesAmid.bind (Mutation.putsAmid (hwrite rfl)) fun _ => trivial
  | command line now =>
      exact Program.UsesAmid.bind (Command.putsAmid (hwrite rfl)) fun _ => trivial

/-! ## Readers on such a table -/

section Readers

variable {ι : Type} {json : JsonLib} {lib : TokenLib} {key : String} {ttlDays : ℤ}
  {operations : ι → TableOperation}

/-- A detail is stored redacted and short. -/
theorem sanitizeDetail_eq_some {detail : Option String} {stored : String}
    (h : sanitizeDetail detail = some stored) :
    FreeOfMatches stored.toList ∧ stored.length ≤ 500 := by
  cases detail with
  | none => cases h
  | some detail =>
      by_cases hempty : detail = ""
      · rw [hempty] at h
        cases h
      · rw [sanitizeDetail_of_ne hempty] at h
        obtain rfl := Option.some.inj h
        rw [String.toList_ofList, String.length_ofList]
        exact ⟨(freeOfMatches_redact _).take 500, List.length_take_le _ _⟩

/-- What an event is listed as. -/
def AuditEvent.listedAt (event : AuditEvent) (now : DateTime) : ListedEvent where
  orgId := event.orgId
  eventType := event.eventType.text
  outcome := event.outcome.text
  timestamp := now.isoformat
  requestId := optionalText event.requestId
  detail := optionalText (sanitizeDetail event.detail)

variable (readPaging : Paging)

/-- A listing is a valid catalog, or a load error. -/
theorem AllWritten.listAgents {table : Table}
    (h : AllWritten json lib key ttlDays operations table) :
    (∃ message, ByodsServer.listAgents.exec (ByodsServer.perform readPaging) table =
      (.error (.catalogLoadError message), table)) ∨
    ∃ listed, ByodsServer.listAgents.exec (ByodsServer.perform readPaging) table =
      (.ok listed, table) ∧ ValidCatalog listed := by
  rw [ByodsServer.listAgents, exec_listFromTable]
  rcases entriesOfItems_of_agents (h.agents readPaging) with
    ⟨message, herror⟩ | ⟨listed, hlisted, hvalid, -⟩
  · rw [herror]
    exact Or.inl ⟨message, rfl⟩
  · rw [hlisted]
    exact Or.inr ⟨listed, rfl, hvalid⟩

theorem AllWritten.listEvents {table : Table} (h : AllWritten json lib key ttlDays operations table)
    (orgId : String) (limit : ℕ) (since : Option AwareDateTime) :
    ∃ events, (ByodsServer.listEvents orgId limit since).exec (ByodsServer.perform readPaging)
        table = (.ok events, table) ∧
      ∀ listed ∈ events, ∃ who event now eventId,
        operations who = .recordEvent event now eventId ∧ event.orgId = orgId ∧
          listed = event.listedAt now := by
  let args : QueryArgs := ⟨orgPk orgId, "AUDIT#", false, some limit⟩
  let found := (pageAt (readPaging.queryPages args (table.select args)) 0).items
  have hfound : ∀ item ∈ found, ∃ who event now eventId,
      operations who = .recordEvent event now eventId ∧ event.orgId = orgId ∧
        listedEvent orgId item = event.listedAt now := by
    intro item hitem
    have hselected : item ∈ table.select args := mem_select_of_mem_page hitem
    have hargs : item ∈ table.items ∧ item.key.pk = orgPk orgId ∧
        startsWith item.key.sk "AUDIT#" = true := by
      have hmem := List.mem_of_mem_take hselected
      rw [if_neg Bool.false_ne_true, List.mem_reverse, List.mem_filter, Bool.and_eq_true,
        decide_eq_true_iff] at hmem
      exact hmem
    obtain ⟨who, hwritten⟩ := h item.key item.attrs (Table.mem_items.mp hargs.1)
    obtain ⟨event, now, eventId, expires, hrecord, horg, hattrs⟩ :=
      hwritten.of_eventKey hargs.2.1 hargs.2.2
    refine ⟨who, event, now, eventId, hrecord, horg, ?_⟩
    cases item
    obtain rfl := hattrs
    rfl
  cases since with
  | none =>
      refine ⟨found.map (listedEvent orgId), rfl, ?_⟩
      rw [List.forall_mem_map]
      exact hfound
  | some since =>
      refine ⟨(found.filter fun item => since.isoformat ≤ attrText item "timestamp" "").map
        (listedEvent orgId), rfl, ?_⟩
      rw [List.forall_mem_map]
      exact fun item hitem => hfound item (List.mem_filter.mp hitem).1

theorem AllWritten.getProfile {table : Table} (h : AllWritten json lib key ttlDays operations table)
    (orgId : String) :
    ∃ found, (ByodsServer.getProfile orgId).exec (ByodsServer.perform readPaging) table =
        (.ok found, table) ∧
      ∀ item ∈ found,
        (∃ who tokens entropy now profileNow,
          operations who = .setServiceAppTokens orgId tokens entropy now profileNow ∧
            item.attrs = authorizedAttrs profileNow) ∨
        ∃ who profileNow, operations who = .deleteServiceAppTokens orgId profileNow ∧
          item.attrs = deauthorizedAttrs profileNow := by
  refine ⟨table.item? (profileKey orgId), rfl, ?_⟩
  intro item hitem
  rw [Option.mem_def, Table.item?, Option.map_eq_some_iff] at hitem
  obtain ⟨attrs, hstored, rfl⟩ := hitem
  obtain ⟨who, hwritten⟩ := h _ _ hstored
  rcases hwritten.of_profileKey rfl with
    ⟨tokens, entropy, now, profileNow, hset, hattrs⟩ | ⟨profileNow, hdelete, hattrs⟩
  · exact Or.inl ⟨who, tokens, entropy, now, profileNow, hset, hattrs⟩
  · exact Or.inr ⟨who, profileNow, hdelete, hattrs⟩

/-! ## Tokens on such a table -/

/-- The tokens that an operation sets survive storage. -/
def TableOperation.TokensRoundTrip (lib : TokenLib) (key : String) : TableOperation → Prop
  | setServiceAppTokens _ tokens entropy _ _ => ByodsServer.TokensRoundTrip lib key entropy tokens
  | setIntegrationTokens tokens entropy _ => ByodsServer.TokensRoundTrip lib key entropy tokens
  | _ => True

/-- A key that something was encrypted under is usable. -/
theorem keyUsable_of_encryptTokenPayload {entropy : String} {payload : List (String × Json)}
    {encrypted : String × ℤ}
    (h : encryptTokenPayload lib.toCryptoLib key entropy payload = .ok encrypted) :
    KeyUsable lib.toCryptoLib key := by
  have hfernet : fernet lib.toCryptoLib key = .ok () := by
    rw [encryptTokenPayload] at h
    cases hchecked : fernet lib.toCryptoLib key with
    | ok checked => rfl
    | error e =>
        rw [hchecked] at h
        cases h
  by_cases hempty : key = ""
  · rw [fernet, if_pos hempty] at hfernet
    cases hfernet
  · refine ⟨hempty, ?_⟩
    rw [fernet, if_neg hempty] at hfernet
    cases hcheck : lib.checkKey key with
    | ok checked => rfl
    | error e =>
        rw [hcheck] at hfernet
        cases e with
        | typeError message => cases hfernet
        | _ =>
            dsimp only at hfernet
            split_ifs at hfernet

/-- Credentials that were encrypted for tokens decode to them. -/
theorem decodes_of_encryptTokenPayload {tokens : TokenSet} {entropy blob : String} {version : ℤ}
    (htokens : ByodsServer.TokensRoundTrip lib key entropy tokens)
    (hencrypt : encryptTokenPayload lib.toCryptoLib key entropy (payloadOfTokens tokens) =
      .ok (blob, version)) (now : DateTime) :
    Decodes lib key tokens (credsAttrs blob version now) := by
  obtain ⟨written, hwritten, hdecodes⟩ :=
    exists_decodes (keyUsable_of_encryptTokenPayload hencrypt) htokens
  obtain ⟨rfl, rfl⟩ := Prod.mk.inj (Except.ok.inj (hwritten.symm.trans hencrypt))
  exact hdecodes now

/-- Credentials on the table decode to the tokens that an operation sets. -/
theorem AllWritten.represents {table : Table} (h : AllWritten json lib key ttlDays operations table)
    (hround : ∀ who, (operations who).TokensRoundTrip lib key) :
    ∃ map : TokenMap, Represents lib key map table ∧
      (∀ orgId, ∀ tokens ∈ map.orgs orgId, ∃ who entropy now profileNow,
        operations who = .setServiceAppTokens orgId tokens entropy now profileNow) ∧
      ∀ tokens ∈ map.integration, ∃ who entropy now,
        operations who = .setIntegrationTokens tokens entropy now := by
  have horg (orgId : String) : ∃ found : Option TokenSet,
      Option.Rel (Decodes lib key) found table[credsKey orgId]? ∧
        ∀ tokens ∈ found, ∃ who entropy now profileNow,
          operations who = .setServiceAppTokens orgId tokens entropy now profileNow := by
    cases hstored : table[credsKey orgId]? with
    | none => exact ⟨none, .none, by simp⟩
    | some attrs =>
        obtain ⟨who, hwritten⟩ := h _ attrs hstored
        obtain ⟨tokens, entropy, now, profileNow, blob, version, hset, hencrypt, hattrs⟩ :=
          hwritten.of_credsKey rfl
        have htokens := hround who
        rw [hset] at htokens
        refine ⟨some tokens, .some ?_, ?_⟩
        · have hcreds : attrs = credsAttrs blob version now := hattrs
          rw [hcreds]
          exact decodes_of_encryptTokenPayload htokens hencrypt now
        · rintro _ ⟨⟩
          exact ⟨who, entropy, now, profileNow, hset⟩
  have hslot : ∃ found : Option TokenSet,
      Option.Rel (Decodes lib key) found table[integrationKey]? ∧
        ∀ tokens ∈ found, ∃ who entropy now,
          operations who = .setIntegrationTokens tokens entropy now := by
    cases hstored : table[integrationKey]? with
    | none => exact ⟨none, .none, by simp⟩
    | some attrs =>
        obtain ⟨who, hwritten⟩ := h _ attrs hstored
        obtain ⟨tokens, entropy, now, blob, version, hset, hencrypt, hattrs⟩ :=
          hwritten.of_integrationKey rfl
        have htokens := hround who
        rw [hset] at htokens
        refine ⟨some tokens, .some ?_, ?_⟩
        · have hcreds : attrs = credsAttrs blob version now := hattrs
          rw [hcreds]
          exact decodes_of_encryptTokenPayload htokens hencrypt now
        · rintro _ ⟨⟩
          exact ⟨who, entropy, now, hset⟩
  choose orgs hdecodes hfrom using horg
  obtain ⟨slot, hslotDecodes, hslotFrom⟩ := hslot
  exact ⟨⟨orgs, slot⟩, ⟨hdecodes, hslotDecodes⟩, hfrom, hslotFrom⟩

end Readers

/-! ## Tables that can be reached -/

section Reached

variable {ι : Type} [DecidableEq ι] (json : JsonLib) (lib : TokenLib) (key : String)
  (ttlDays : ℤ) (paging : Paging)

/-- What the table holds after a run of operations, from the empty table on. -/
def tableAfter (operations : ι → TableOperation)
    (events : List (PoolEvent PyException ι Expiry)) : Table :=
  ((startOperations json lib key ttlDays operations ∅).occurAll (perform paging) expire
    events).state

variable {lib key ttlDays paging} {operations : ι → TableOperation}

theorem allWritten_tableAfter (events : List (PoolEvent PyException ι Expiry)) :
    AllWritten json lib key ttlDays operations
      (tableAfter json lib key ttlDays paging operations events) := by
  have hstart : (startOperations json lib key ttlDays operations ∅).Kept (perform paging)
      (PutsOnly (Written json lib key ttlDays operations))
      (AllWritten json lib key ttlDays operations) := by
    constructor
    · intro who
      apply ((operations who).putsAmid json lib key ttlDays paging operations).mono
      exact fun request hrequest item hput => ⟨who, hrequest item hput⟩
    · intro itemKey attrs hitem
      cases hitem
  exact (hstart.occurAll (fun request hrequest _ htable => htable.perform hrequest)
    (fun expiry _ htable => htable.expire expiry) events).state

variable (readPaging : Paging)

/-- After every run, whatever was refused or lost in it, each item of the table is one
that an operation of the run writes; and all that the service would take are events
whose time is up. -/
theorem reached_items_written (events : List (PoolEvent PyException ι Expiry)) :
    (∀ item ∈ (tableAfter json lib key ttlDays paging operations events).items,
      ∃ who, WrittenBy json lib key ttlDays (Entered json operations) (operations who) item) ∧
    ∀ expiry itemKey,
      (expire expiry (tableAfter json lib key ttlDays paging operations events))[itemKey]? ≠
        (tableAfter json lib key ttlDays paging operations events)[itemKey]? →
      ∃ who event now eventId expires, operations who = .recordEvent event now eventId ∧
        itemKey = auditKey event.orgId now eventId ∧ expiresAt now ttlDays = .ok expires ∧
          expires ≤ expiry.now := by
  have hwritten : AllWritten json lib key ttlDays operations
      (tableAfter json lib key ttlDays paging operations events) :=
    allWritten_tableAfter json events
  constructor
  · intro item hitem
    exact hwritten item.key item.attrs (Table.mem_items.mp hitem)
  · intro expiry itemKey hchanged
    rcases expire_cases expiry (tableAfter json lib key ttlDays paging operations events) with
      hsame | ⟨attrs, expires, hattrs, hlookup, hnow, herased⟩
    · rw [hsame] at hchanged
      exact (hchanged rfl).elim
    · rw [herased, Table.getElem?_erase] at hchanged
      split_ifs at hchanged with hkey
      · obtain ⟨who, hitem⟩ := hwritten expiry.key attrs hattrs
        obtain ⟨event, now, eventId, hrecord, hexpires, haudit⟩ := hitem.lookup_expires_at hlookup
        exact ⟨who, event, now, eventId, expires, hrecord, hkey ▸ haudit, hexpires, hnow⟩
      · exact (hchanged rfl).elim

/-- After every run a listing of agents is a valid catalog or a load error, a listing of
events shows what was recorded about that org, redacted and short, and a profile says
what was asked for. -/
theorem readers_safe_after_every_run (events : List (PoolEvent PyException ι Expiry)) :
    ((∃ message, ByodsServer.listAgents.exec (perform readPaging)
        (tableAfter json lib key ttlDays paging operations events) =
          (.error (.catalogLoadError message),
            tableAfter json lib key ttlDays paging operations events)) ∨
      ∃ listed, ByodsServer.listAgents.exec (perform readPaging)
        (tableAfter json lib key ttlDays paging operations events) =
          (.ok listed, tableAfter json lib key ttlDays paging operations events) ∧
        ValidCatalog listed) ∧
    (∀ orgId limit since, ∃ found, (ByodsServer.listEvents orgId limit since).exec
        (perform readPaging) (tableAfter json lib key ttlDays paging operations events) =
          (.ok found, tableAfter json lib key ttlDays paging operations events) ∧
      ∀ listed ∈ found,
        (∃ who event now eventId, operations who = .recordEvent event now eventId ∧
          event.orgId = orgId ∧ listed = event.listedAt now) ∧
        ∀ text, listed.detail = .str text → FreeOfMatches text.toList ∧ text.length ≤ 500) ∧
    ∀ orgId, ∃ found, (ByodsServer.getProfile orgId).exec (perform readPaging)
        (tableAfter json lib key ttlDays paging operations events) =
          (.ok found, tableAfter json lib key ttlDays paging operations events) ∧
      ∀ item ∈ found,
        (∃ who tokens entropy now profileNow,
          operations who = .setServiceAppTokens orgId tokens entropy now profileNow ∧
            item.attrs = authorizedAttrs profileNow) ∨
        ∃ who profileNow, operations who = .deleteServiceAppTokens orgId profileNow ∧
          item.attrs = deauthorizedAttrs profileNow := by
  have hwritten : AllWritten json lib key ttlDays operations
      (tableAfter json lib key ttlDays paging operations events) :=
    allWritten_tableAfter json events
  refine ⟨hwritten.listAgents readPaging, fun orgId limit since => ?_,
    hwritten.getProfile readPaging⟩
  obtain ⟨found, hfound, hfrom⟩ := hwritten.listEvents readPaging orgId limit since
  refine ⟨found, hfound, fun listed hlisted => ?_⟩
  obtain ⟨who, event, now, eventId, hrecord, horg, rfl⟩ := hfrom listed hlisted
  refine ⟨⟨who, event, now, eventId, hrecord, horg, rfl⟩, fun text htext => ?_⟩
  have hdetail : optionalText (sanitizeDetail event.detail) = .str text := htext
  cases hstored : sanitizeDetail event.detail with
  | none =>
      rw [hstored] at hdetail
      cases hdetail
  | some stored =>
      rw [hstored] at hdetail
      obtain rfl := Attr.str.inj hdetail
      exact sanitizeDetail_eq_some hstored

/-- After every run the tokens that are read are some that were set, for that org or for
the integration; reading them never fails, and the orgs that are listed are those whose
tokens can be read. -/
theorem tokens_read_were_set (hround : ∀ who, (operations who).TokensRoundTrip lib key)
    (events : List (PoolEvent PyException ι Expiry)) :
    ∃ map : TokenMap,
      (∀ now orgId, (getServiceAppTokens lib key now orgId).exec (perform readPaging)
          (tableAfter json lib key ttlDays paging operations events) =
        (.ok (map.orgs orgId), tableAfter json lib key ttlDays paging operations events)) ∧
      (∀ now, (getIntegrationTokens lib key now).exec (perform readPaging)
          (tableAfter json lib key ttlDays paging operations events) =
        (.ok map.integration, tableAfter json lib key ttlDays paging operations events)) ∧
      (∃ orgs : List String, orgs.Pairwise (· < ·) ∧
        (∀ orgId, orgId ∈ orgs ↔ (map.orgs orgId).isSome) ∧
        ∃ enough, ∀ fuel ≥ enough, (listRegisteredOrgs fuel).exec (perform readPaging)
            (tableAfter json lib key ttlDays paging operations events) =
          (.ok (some orgs), tableAfter json lib key ttlDays paging operations events)) ∧
      (∀ orgId, ∀ tokens ∈ map.orgs orgId, ∃ who entropy now profileNow,
        operations who = .setServiceAppTokens orgId tokens entropy now profileNow) ∧
      ∀ tokens ∈ map.integration, ∃ who entropy now,
        operations who = .setIntegrationTokens tokens entropy now := by
  have hwritten : AllWritten json lib key ttlDays operations
      (tableAfter json lib key ttlDays paging operations events) :=
    allWritten_tableAfter json events
  obtain ⟨map, hmap, horgs, hslot⟩ := hwritten.represents hround
  exact ⟨map, fun now orgId => exec_getServiceAppTokens readPaging hmap now orgId,
    fun now => exec_getIntegrationTokens readPaging hmap now,
    exec_listRegisteredOrgs readPaging hmap, horgs, hslot⟩

end Reached

/-- Two instances set the tokens of an org; one of them does not hear of its write. -/
def setTwice : Bool → TableOperation := fun _ =>
  .setServiceAppTokens "org-1" sampleTokens "nonce" noon noon

theorem tokens_read_were_set_twice :
    ∃ found, (getServiceAppTokens sampleLib sampleKey noon "org-1").exec dynamo
        (tableAfter noJson sampleLib sampleKey 90 Paging.single setTwice
          [.turn true .works, .turn false (.lost (.osError "reset")), .turn true .works]) =
        (.ok found, tableAfter noJson sampleLib sampleKey 90 Paging.single setTwice
          [.turn true .works, .turn false (.lost (.osError "reset")), .turn true .works]) ∧
      ∀ tokens ∈ found, tokens = sampleTokens := by
  obtain ⟨map, hread, -, -, hfrom, -⟩ := @tokens_read_were_set Bool _ noJson sampleLib sampleKey 90
    Paging.single setTwice Paging.single (fun _ => sampleTokens_roundTrip)
    [.turn true .works, .turn false (.lost (.osError "reset")), .turn true .works]
  refine ⟨map.orgs "org-1", hread noon "org-1", fun tokens htokens => ?_⟩
  obtain ⟨who, entropy, now, profileNow, hset⟩ := hfrom "org-1" tokens htokens
  cases hset
  rfl

end ByodsServer
