/-
# The token storage as a map

What the storage is for: a map from orgs to their tokens and one slot for the
integration's. Every run of its methods, mixed with catalog operations and audit
events on the same table, represents that map, because each kind of item has
keys of its own.
-/

import ByodsServer.Persistence.AuditRepository
import ByodsServer.Persistence.CatalogRepair
import ByodsServer.Persistence.Settling
import ByodsServer.Persistence.TokenStorage
import Mathlib.Data.List.GetD
import Mathlib.Data.String.Basic

namespace ByodsServer

open Effects Python

/-! ## The abstract map and the actions -/

/-- The tokens of every org, and those of the integration. -/
structure TokenMap where
  orgs : String → Option ServiceAppTokens
  integration : Option OAuthTokens

/-- Nothing stored. -/
def TokenMap.empty : TokenMap := ⟨fun _ => none, none⟩

/-- What happens on the table: calls of the token storage, the catalog
repository, the catalog commands and the audit repository. -/
inductive StorageAction
  | setServiceAppTokens (orgId : String) (tokens : ServiceAppTokens) (entropy : String)
      (now profileNow : DateTime)
  | deleteServiceAppTokens (orgId : String) (profileNow : DateTime)
  | setIntegrationTokens (tokens : OAuthTokens) (entropy : String) (now : DateTime)
  | listAgents
  | mutate (mutation : Mutation) (now : DateTime)
  | operate (operation : CatalogOperation) (seed : SeedFile) (now : DateTime)
  | recordEvent (event : AuditEvent) (now : DateTime) (eventId : String)

/-- What an action means for the map. -/
def TokenMap.apply (map : TokenMap) : StorageAction → TokenMap
  | .setServiceAppTokens orgId tokens _ _ _ =>
      { map with orgs := Function.update map.orgs orgId (some tokens) }
  | .deleteServiceAppTokens orgId _ => { map with orgs := Function.update map.orgs orgId none }
  | .setIntegrationTokens tokens _ _ => { map with integration := some tokens }
  | _ => map

section Storage

variable (json : JsonLib) (lib : TokenLib) (key : String) (ttlDays : Int)

/-- The calls an action makes. -/
def StorageAction.run : StorageAction → TableProgram Unit
  | setServiceAppTokens orgId tokens entropy now profileNow =>
      ByodsServer.setServiceAppTokens lib key entropy now profileNow orgId tokens
  | deleteServiceAppTokens orgId profileNow =>
      ByodsServer.deleteServiceAppTokens profileNow orgId
  | setIntegrationTokens tokens entropy now =>
      ByodsServer.setIntegrationTokens lib key entropy now tokens
  | listAgents => do
      let _ ← ByodsServer.listAgents
      return ()
  | mutate mutation now => mutation.program now
  | operate operation seed now => operation.run json seed now
  | recordEvent event now eventId => ByodsServer.recordEvent ttlDays now eventId event

/-- The table after a run of actions without failures. -/
def runActions (paging : Paging) (actions : List StorageAction) (table : Table) : Table :=
  actions.foldl (fun table action =>
    ((action.run json lib key ttlDays).exec (perform paging) table).2) table

/-- The tokens an action stores survive encryption, printing and parsing. -/
def StorageAction.RoundTrips : StorageAction → Prop
  | setServiceAppTokens _ tokens entropy _ _ => TokensRoundTrip lib key entropy tokens
  | setIntegrationTokens tokens entropy _ => TokensRoundTrip lib key entropy tokens
  | _ => True

/-! ## What the table represents -/

/-- The attributes are decoded to the tokens, whatever key they stand under. -/
def Decodes (tokens : TokenSet) (attrs : Attrs) : Prop :=
  (∀ itemKey, decryptItem lib key ⟨itemKey, attrs⟩ = .ok (payloadOfTokens tokens)) ∧
    tokens.Rebuilds lib

/-- The credentials in the table are those of the map. -/
structure Represents (map : TokenMap) (table : Table) : Prop where
  orgs : ∀ orgId, Option.Rel (Decodes lib key) (map.orgs orgId) table[credsKey orgId]?
  integration : Option.Rel (Decodes lib key) map.integration table[integrationKey]?

end Storage

/-! ## Keys of different kinds -/

/-- The key of some credentials. -/
def IsCredsKey (itemKey : Key) : Prop :=
  itemKey = integrationKey ∨ ∃ orgId, itemKey = credsKey orgId

theorem credsKey_injective : Function.Injective credsKey := by
  intro first second h
  exact orgPk_injective (congrArg Key.pk h)

theorem integrationKey_ne_credsKey (orgId : String) : integrationKey ≠ credsKey orgId := by
  intro h
  have hpk : "INTEGRATION" = "ORG#" ++ orgId := congrArg Key.pk h
  rw [← String.toList_inj] at hpk
  simp at hpk

theorem profileKey_not_creds (orgId : String) : ¬ IsCredsKey (profileKey orgId) := by
  intro h
  rcases h with h | ⟨other, h⟩
  · exact absurd (congrArg Key.sk h) (by simp [profileKey, integrationKey])
  · exact absurd (congrArg Key.sk h) (by simp [profileKey, credsKey])

theorem auditKey_not_creds (orgId : String) (now : DateTime) (eventId : String) :
    ¬ IsCredsKey (auditKey orgId now eventId) := by
  have hsk (text : String) (h : "AUDIT#" ++ text = "CREDS") : False := by
    rw [← String.toList_inj] at h
    simp at h
  intro h
  have hcreds : (auditKey orgId now eventId).sk = "CREDS" := by
    rcases h with h | ⟨other, h⟩
    · rw [h]
      rfl
    · rw [h]
      rfl
  rw [auditKey, String.append_assoc, String.append_assoc] at hcreds
  exact hsk _ hcreds

theorem catalogPk_not_creds {itemKey : Key} (hpk : itemKey.pk = catalogPk) :
    ¬ IsCredsKey itemKey := by
  intro h
  rcases h with rfl | ⟨orgId, rfl⟩
  · exact absurd hpk (by decide)
  · have hprefix : "ORG#" ++ orgId = "CATALOG" := hpk
    rw [← String.toList_inj] at hprefix
    simp at hprefix

/-- The credentials of two tables agree. -/
def SameCreds (first second : Table) : Prop :=
  ∀ itemKey, IsCredsKey itemKey → first[itemKey]? = second[itemKey]?

theorem Represents.of_sameCreds {lib : TokenLib} {key : String} {map : TokenMap}
    {first second : Table} (h : Represents lib key map first) (hsame : SameCreds second first) :
    Represents lib key map second where
  orgs orgId := by
    rw [hsame _ (Or.inr ⟨orgId, rfl⟩)]
    exact h.orgs orgId
  integration := by
    rw [hsame _ (Or.inl rfl)]
    exact h.integration

/-- A program that writes no credentials keeps them. -/
theorem sameCreds_of_uses {paging : Paging} {p : TableProgram Unit}
    (huses : p.Uses fun request => ∀ itemKey, IsCredsKey itemKey → ¬ Touches itemKey request)
    (start : Table) : p.Maintains (perform paging) fun table => SameCreds table start := by
  refine huses.maintains ?_
  intro request hrequest table htable itemKey hcreds
  rw [getElem?_of_not_touches (hrequest itemKey hcreds), htable itemKey hcreds]

/-! ## The catalog and the audit log keep to themselves -/

/-- Every page of a query holds selected items only. -/
theorem mem_select_of_mem_page {paging : Paging} {args : QueryArgs} {table : Table} {item : Item}
    (h : item ∈ (pageAt (paging.queryPages args (table.select args)) 0).items) :
    item ∈ table.select args := by
  rw [← paging.query_flatten args (table.select args)]
  cases hpages : paging.queryPages args (table.select args) with
  | nil => simp [pageAt, hpages] at h
  | cons page pages =>
      rw [hpages] at h
      exact List.mem_flatten.mpr ⟨page, List.mem_cons_self, h⟩

theorem pk_of_mem_agentItems {table : Table} {item : Item} (h : item ∈ table.agentItems) :
    item.key.pk = catalogPk := by
  have hagent := (Table.mem_agentItems.mp h).1
  simp only [isAgentKey, agentQuery, Bool.and_eq_true] at hagent
  exact of_decide_eq_true hagent.1

theorem maintains_writeEntries_sameCreds (paging : Paging) (now : DateTime)
    (entries : List VirtualAgentCatalogEntry) (seededFromFile : Bool) (start : Table) :
    (writeEntries now entries seededFromFile).Maintains (perform paging)
      fun table => SameCreds table start := by
  refine (Program.maintains_finish _).bind fun _ => ?_
  intro table htable fuel
  have hput {item : Item} (hpk : item.key.pk = catalogPk) :
      ∀ itemKey, IsCredsKey itemKey → ¬ Touches itemKey (.putItem item) := by
    intro itemKey hcreds
    apply not_touches_putItem
    intro hkey
    exact catalogPk_not_creds (hkey ▸ hpk) hcreds
  rw [overwriteEntries, Program.bind_eq]
  rcases Program.runFor_resume_cases (perform paging) fuel (query agentQuery) _ table with
    ⟨spent, hspent⟩ | ⟨spent, hspent⟩
  · rw [hspent]
    have hquery : (query agentQuery).Maintains (perform paging) fun table =>
        SameCreds table start := maintains_of_reads (query_reads agentQuery)
    exact hquery table htable spent
  · rw [hspent, exec_query, Program.andThen_ok]
    refine sameCreds_of_uses ?_ start table htable spent
    refine (Program.uses_forEach fun item hitem => Program.uses_await ?_).bind fun _ =>
      (Program.uses_forEach fun entry _ => Program.uses_await (hput rfl)).bind fun _ =>
        Program.uses_await (hput rfl)
    intro itemKey hcreds
    apply not_touches_deleteItem
    intro hkey
    have hpk := pk_of_mem_agentItems (mem_select_of_mem_page hitem)
    exact catalogPk_not_creds (hkey ▸ hpk) hcreds

/-- Operations on the catalog keep all credentials. -/
theorem maintains_operate_sameCreds (json : JsonLib) (seed : SeedFile) (paging : Paging)
    (now : DateTime) (operation : CatalogOperation) (start : Table) :
    (operation.run json seed now).Maintains (perform paging)
      fun table => SameCreds table start := by
  cases operation with
  | ensureSeeded =>
      exact maintains_ensureSeeded
        (fun entries => maintains_writeEntries_sameCreds paging now entries true start) json seed
  | command line =>
      exact (Command.maintains_run
        (fun entries => maintains_writeEntries_sameCreds paging now entries false start)
          line).bind fun _ => Program.maintains_finish _

theorem maintains_recordEvent_sameCreds (ttlDays : Int) (paging : Paging) (now : DateTime)
    (eventId : String) (event : AuditEvent) (start : Table) :
    (recordEvent ttlDays now eventId event).Maintains (perform paging)
      fun table => SameCreds table start := by
  refine sameCreds_of_uses ((recordEvent_uses ttlDays now eventId event).mono ?_) start
  intro request hrequest itemKey hcreds
  obtain ⟨attrs, rfl⟩ := hrequest
  apply not_touches_putItem
  intro hkey
  exact auditKey_not_creds _ _ _ (hkey ▸ hcreds)

/-! ## One action -/

section Step

variable (json : JsonLib) {lib : TokenLib} {key : String} (ttlDays : Int) (paging : Paging)
  {map : TokenMap} {table : Table}

/-- A table that differs in one org's credentials represents a map that differs
there. -/
theorem Represents.updateOrg (h : Represents lib key map table) (orgId : String)
    {tokens : Option ServiceAppTokens} {after : Table}
    (hcreds : Option.Rel (Decodes lib key) tokens after[credsKey orgId]?)
    (hframe : ∀ itemKey, itemKey ≠ credsKey orgId → after[itemKey]? = table[itemKey]?) :
    Represents lib key { map with orgs := Function.update map.orgs orgId tokens } after where
  orgs other := by
    by_cases hother : other = orgId
    · subst hother
      simpa using hcreds
    · rw [hframe _ fun hkey => hother (credsKey_injective hkey)]
      simpa [hother] using h.orgs other
  integration := by
    rw [hframe _ (integrationKey_ne_credsKey orgId)]
    exact h.integration

theorem Represents.setOrg (h : Represents lib key map table) (orgId : String)
    {tokens : ServiceAppTokens} {attrs : Attrs} (hdecodes : Decodes lib key tokens attrs) :
    Represents lib key { map with orgs := Function.update map.orgs orgId (some tokens) }
      (table.insert (credsKey orgId) attrs) := by
  apply h.updateOrg orgId
  · rw [Table.getElem?_insert, if_pos rfl]
    exact Option.Rel.some hdecodes
  · intro itemKey hne
    rw [Table.getElem?_insert, if_neg hne.symm]

theorem Represents.deleteOrg (h : Represents lib key map table) (orgId : String) :
    Represents lib key { map with orgs := Function.update map.orgs orgId none }
      (table.erase (credsKey orgId)) := by
  apply h.updateOrg orgId
  · rw [Table.getElem?_erase, if_pos rfl]
    exact Option.Rel.none
  · intro itemKey hne
    rw [Table.getElem?_erase, if_neg hne.symm]

theorem Represents.setIntegration (h : Represents lib key map table) {tokens : OAuthTokens}
    {attrs : Attrs} (hdecodes : Decodes lib key tokens attrs) :
    Represents lib key { map with integration := some tokens }
      (table.insert integrationKey attrs) where
  orgs orgId := by
    rw [Table.getElem?_insert, if_neg (integrationKey_ne_credsKey orgId)]
    exact h.orgs orgId
  integration := by
    rw [Table.getElem?_insert, if_pos rfl]
    exact Option.Rel.some hdecodes

theorem Represents.insertProfile (h : Represents lib key map table) (orgId : String)
    (attrs : Attrs) : Represents lib key map (table.insert (profileKey orgId) attrs) := by
  apply h.of_sameCreds
  intro itemKey hcreds
  rw [Table.getElem?_insert, if_neg]
  intro hkey
  exact profileKey_not_creds orgId (hkey ▸ hcreds)

/-- Tokens that survive storage are decoded from what is written for them. -/
theorem exists_decodes (hkey : KeyUsable lib.toCryptoLib key) {entropy : String}
    {tokens : TokenSet} (h : TokensRoundTrip lib key entropy tokens) :
    ∃ blob, encryptTokenPayload lib.toCryptoLib key entropy (payloadOfTokens tokens) =
        .ok (blob, ciphertextVersion) ∧
      ∀ now, Decodes lib key tokens (credsAttrs blob ciphertextVersion now) := by
  obtain ⟨blob, hencrypt, hdecrypt⟩ := decryptItem_of_roundTrip hkey h
  exact ⟨blob, hencrypt, fun now => ⟨fun itemKey => hdecrypt itemKey now, h.rebuilds⟩⟩

/-- Every action does to the table what it means for the map. -/
theorem Represents.run (hkey : KeyUsable lib.toCryptoLib key) (h : Represents lib key map table)
    {action : StorageAction} (haction : action.RoundTrips lib key) :
    Represents lib key (map.apply action)
      ((action.run json lib key ttlDays).exec (perform paging) table).2 := by
  have hsame : SameCreds table table := fun _ _ => rfl
  cases action with
  | setServiceAppTokens orgId tokens entropy now profileNow =>
      obtain ⟨blob, hencrypt, hdecodes⟩ := exists_decodes hkey haction
      rw [StorageAction.run, ByodsServer.setServiceAppTokens, tokensToPayload, hencrypt]
      exact (h.setOrg orgId (hdecodes now)).insertProfile orgId (authorizedAttrs profileNow)
  | deleteServiceAppTokens orgId profileNow =>
      exact (h.deleteOrg orgId).insertProfile orgId (deauthorizedAttrs profileNow)
  | setIntegrationTokens tokens entropy now =>
      obtain ⟨blob, hencrypt, hdecodes⟩ := exists_decodes hkey haction
      rw [StorageAction.run, ByodsServer.setIntegrationTokens, oauthTokensToPayload, hencrypt]
      exact h.setIntegration (hdecodes now)
  | listAgents =>
      have hlist : (StorageAction.listAgents.run json lib key ttlDays).Maintains (perform paging)
          fun state => SameCreds state table :=
        maintains_of_reads (listFromTable_reads.bind fun _ => trivial)
      exact h.of_sameCreds (hlist.exec hsame)
  | mutate mutation now =>
      exact h.of_sameCreds ((Mutation.maintains_program
        (fun entries => maintains_writeEntries_sameCreds paging now entries false table)
          mutation).exec hsame)
  | operate operation seed now =>
      exact h.of_sameCreds
        ((maintains_operate_sameCreds json seed paging now operation table).exec hsame)
  | recordEvent event now eventId =>
      exact h.of_sameCreds
        ((maintains_recordEvent_sameCreds ttlDays paging now eventId event table).exec hsame)

end Step

/-! ## Reading the table -/

section Read

variable {lib : TokenLib} {key : String} (paging : Paging) {map : TokenMap} {table : Table}

/-- Credentials that decode to some tokens are read as these. -/
theorem Decodes.readCreds {orgId : String} {tokens : TokenSet} {attrs : Attrs}
    (h : Decodes lib key tokens attrs) (now : DateTime) :
    readCreds lib key now ⟨credsKey orgId, attrs⟩ = .ok tokens := by
  rw [ByodsServer.readCreds, h.1]
  exact payloadToTokens_payloadOfTokens h.2 now

theorem exec_getServiceAppTokens (h : Represents lib key map table) (now : DateTime)
    (orgId : String) :
    (getServiceAppTokens lib key now orgId).exec (perform paging) table =
      (.ok (map.orgs orgId), table) := by
  have horg := h.orgs orgId
  rw [exec_getServiceAppTokens_eq]
  generalize map.orgs orgId = expected at horg
  generalize table[credsKey orgId]? = stored at horg
  cases horg with
  | none => rfl
  | some hdecodes =>
      dsimp only
      rw [hdecodes.readCreds now]
      rfl

theorem exec_getIntegrationTokens (h : Represents lib key map table) (now : DateTime) :
    (getIntegrationTokens lib key now).exec (perform paging) table =
      (.ok map.integration, table) := by
  have hslot := h.integration
  rw [exec_getIntegrationTokens_eq]
  generalize map.integration = expected at hslot
  generalize table[integrationKey]? = stored at hslot
  cases hslot with
  | none => rfl
  | some hdecodes =>
      dsimp only
      rw [hdecodes.1]
      dsimp only
      rw [payloadToOauthTokens_payloadOfTokens hdecodes.2]
      rfl

/-- With one turn of the loop for each page that is left, the scan collects them
all. -/
theorem exec_scanOrgs (fuel number : ℕ) (start : Option ℕ) (orgIds : List String)
    (hstart : start.getD 0 = number) (hfuel : 0 < fuel)
    (henough : (paging.scanPages (table.withSortKey "CREDS")).length ≤ number + fuel) :
    (scanOrgs fuel start orgIds).exec (perform paging) table =
      (.ok (some (orgIds ++ orgsOfItems
        ((paging.scanPages (table.withSortKey "CREDS")).drop number).flatten)), table) := by
  induction fuel generalizing number start orgIds with
  | zero => omega
  | succ fuel ih =>
      have hscan : (scan "CREDS" start).exec (perform paging) table =
          (.ok (pageAt (paging.scanPages (table.withSortKey "CREDS")) number), table) := by
        rw [← hstart]
        rfl
      rw [scanOrgs, Program.exec_bind, hscan, Program.andThen_ok]
      generalize paging.scanPages (table.withSortKey "CREDS") = pages at ih henough
      by_cases hnext : number + 1 < pages.length
      · have hdrop : pages.drop number = pages.getD number [] :: pages.drop (number + 1) := by
          rw [List.drop_eq_getElem_cons (by omega), List.getD_eq_getElem _ _ (by omega)]
        simp only [pageAt, if_pos hnext]
        rw [ih (number + 1) (some (number + 1)) _ rfl (by omega) (by omega), hdrop,
          List.flatten_cons, orgsOfItems, orgsOfItems, orgsOfItems, List.filter_append,
          List.map_append, List.append_assoc]
      · -- The last page, or no page at all.
        have hdrop : (pages.drop number).flatten = pages.getD number [] := by
          by_cases hlast : number < pages.length
          · rw [List.drop_eq_getElem_cons hlast, List.getD_eq_getElem _ _ hlast,
              List.drop_of_length_le (by omega)]
            simp
          · rw [List.drop_of_length_le (by omega), List.getD_eq_default _ _ (by omega)]
            rfl
        simp only [pageAt, if_neg hnext, hdrop]
        rfl

/-- The orgs among some credentials items are those with an item of their own. -/
theorem mem_orgsOfItems {items : List Item} {orgId : String} :
    orgId ∈ orgsOfItems items ↔ ∃ item ∈ items, item.key.pk = orgPk orgId := by
  simp only [orgsOfItems, List.mem_map, List.mem_filter]
  constructor
  · intro h
    obtain ⟨item, ⟨hitem, hprefix⟩, rfl⟩ := h
    obtain ⟨rest, hrest⟩ := startsWith_iff.mp hprefix
    refine ⟨item, hitem, ?_⟩
    rw [hrest, orgPk]
    exact congrArg _ (sliceFrom_append "ORG#" rest).symm
  · intro h
    obtain ⟨item, hitem, hpk⟩ := h
    refine ⟨item, ⟨hitem, ?_⟩, ?_⟩
    · rw [hpk]
      exact startsWith_append "ORG#" orgId
    · rw [hpk]
      exact sliceFrom_append "ORG#" orgId

/-- Credentials items of different keys are of different orgs. -/
theorem nodup_orgsOfItems {items : List Item} (hcreds : ∀ item ∈ items, item.key.sk = "CREDS")
    (hkeys : items.Pairwise fun first second => first.key ≠ second.key) :
    (orgsOfItems items).Nodup := by
  rw [orgsOfItems, List.Nodup, List.pairwise_map]
  refine (hkeys.filter _).imp_of_mem ?_
  intro first second hfirst hsecond hne horgs
  rw [List.mem_filter] at hfirst hsecond
  obtain ⟨one, hone⟩ := startsWith_iff.mp hfirst.2
  obtain ⟨two, htwo⟩ := startsWith_iff.mp hsecond.2
  rw [hone, htwo] at horgs
  have hsame : one = two := by
    simpa only [sliceFrom_append] using
      (sliceFrom_append "ORG#" one).symm.trans (horgs.trans (sliceFrom_append "ORG#" two))
  apply hne
  rw [Key.ext_iff, hone, htwo, hsame, hcreds first hfirst.1, hcreds second hsecond.1]
  exact ⟨rfl, rfl⟩

/-- The orgs with a credentials item, sorted. -/
def registeredOrgs (table : Table) : List String :=
  (orgsOfItems (table.withSortKey "CREDS")).insertionSort (· ≤ ·)

theorem insertionSort_eq_of_perm {orgs others : List String} (h : orgs.Perm others) :
    orgs.insertionSort (· ≤ ·) = others.insertionSort (· ≤ ·) :=
  (((List.perm_insertionSort _ orgs).trans h).trans
    (List.perm_insertionSort _ others).symm).eq_of_pairwise'
      (List.pairwise_insertionSort _ orgs) (List.pairwise_insertionSort _ others)

/-- The listing of the orgs, once it may read enough pages. -/
theorem exec_listRegisteredOrgs_eq (table : Table) : ∃ enough, ∀ fuel ≥ enough,
    (listRegisteredOrgs fuel).exec (perform paging) table =
      (.ok (some (registeredOrgs table)), table) := by
  refine ⟨(paging.scanPages (table.withSortKey "CREDS")).length + 1, fun fuel hfuel => ?_⟩
  have hperm := paging.scan_flatten (table.withSortKey "CREDS")
  have hsorted : registeredOrgs table =
      (orgsOfItems (paging.scanPages (table.withSortKey "CREDS")).flatten).insertionSort (· ≤ ·) :=
    insertionSort_eq_of_perm ((hperm.symm.filter _).map _)
  rw [hsorted, listRegisteredOrgs, Program.exec_bind,
    exec_scanOrgs paging fuel 0 none [] rfl (by omega) (by omega), List.drop_zero,
    List.nil_append]
  rfl

theorem mem_withSortKey {sk : String} {item : Item} :
    item ∈ table.withSortKey sk ↔ table[item.key]? = some item.attrs ∧ item.key.sk = sk := by
  rw [Table.withSortKey, List.mem_filter, Table.mem_items, decide_eq_true_iff]

theorem mem_orgsOfItems_creds {orgId : String} :
    orgId ∈ orgsOfItems (table.withSortKey "CREDS") ↔ table[credsKey orgId]? ≠ none := by
  rw [mem_orgsOfItems]
  constructor
  · rintro ⟨item, hitem, hpk⟩
    obtain ⟨hstored, hsk⟩ := mem_withSortKey.mp hitem
    have hkey : item.key = credsKey orgId := Key.ext hpk hsk
    rw [← hkey, hstored]
    exact Option.some_ne_none _
  · intro hstored
    obtain ⟨attrs, hattrs⟩ := Option.ne_none_iff_exists'.mp hstored
    exact ⟨⟨credsKey orgId, attrs⟩, mem_withSortKey.mpr ⟨hattrs, rfl⟩, rfl⟩

theorem nodup_orgsOfItems_creds : (orgsOfItems (table.withSortKey "CREDS")).Nodup :=
  nodup_orgsOfItems (fun _ hitem => (mem_withSortKey.mp hitem).2)
    (table.items_pairwise_key.filter _)

/-- The listing returns the orgs that hold tokens, sorted, each once, however the
scan is split into pages. -/
theorem exec_listRegisteredOrgs (h : Represents lib key map table) :
    ∃ orgs : List String, orgs.Pairwise (· < ·) ∧
      (∀ orgId, orgId ∈ orgs ↔ (map.orgs orgId).isSome) ∧
      ∃ enough, ∀ fuel ≥ enough, (listRegisteredOrgs fuel).exec (perform paging) table =
        (.ok (some orgs), table) := by
  obtain ⟨enough, hlisting⟩ := exec_listRegisteredOrgs_eq paging table
  refine ⟨registeredOrgs table, ?_, fun orgId => ?_, enough, hlisting⟩
  · have hsorted := List.pairwise_insertionSort (· ≤ ·) (orgsOfItems (table.withSortKey "CREDS"))
    have hdistinct := (List.perm_insertionSort (· ≤ ·)
      (orgsOfItems (table.withSortKey "CREDS"))).nodup_iff.mpr nodup_orgsOfItems_creds
    exact (hsorted.and hdistinct).imp fun hpair => lt_of_le_of_ne hpair.1 hpair.2
  · rw [registeredOrgs, List.mem_insertionSort, mem_orgsOfItems_creds]
    have horg := h.orgs orgId
    generalize map.orgs orgId = expected at horg
    generalize table[credsKey orgId]? = stored at horg
    cases horg with
    | none => simp
    | some hdecodes => simp

end Read

/-! ## Every run -/

/-- The map a run of actions amounts to. -/
def TokenMap.run (actions : List StorageAction) : TokenMap :=
  actions.foldl TokenMap.apply TokenMap.empty

theorem represents_empty (lib : TokenLib) (key : String) :
    Represents lib key TokenMap.empty ∅ where
  orgs _ := Option.Rel.none
  integration := Option.Rel.none

theorem Represents.runActions {json : JsonLib} {lib : TokenLib} {key : String} {ttlDays : Int}
    {paging : Paging} (hkey : KeyUsable lib.toCryptoLib key) {actions : List StorageAction}
    (hactions : ∀ action ∈ actions, action.RoundTrips lib key) {map : TokenMap} {table : Table}
    (h : Represents lib key map table) :
    Represents lib key (actions.foldl TokenMap.apply map)
      (ByodsServer.runActions json lib key ttlDays paging actions table) := by
  induction actions generalizing map table with
  | nil => exact h
  | cons action actions ih =>
      rw [List.forall_mem_cons] at hactions
      exact ih hactions.2 (h.run json ttlDays paging hkey hactions.1)

/-- After every run on the shared table the storage answers like the map: the
tokens last set for each org and for the integration, and the sorted list of the
orgs that hold tokens, however the final scan is paged. -/
theorem tokenStorage_refines_map (json : JsonLib) (lib : TokenLib) (key : String)
    (ttlDays : Int) (paging readPaging : Paging) (actions : List StorageAction)
    (hkey : KeyUsable lib.toCryptoLib key)
    (hactions : ∀ action ∈ actions, action.RoundTrips lib key) :
    (∀ now orgId,
      (getServiceAppTokens lib key now orgId).exec (perform readPaging)
          (runActions json lib key ttlDays paging actions ∅) =
        (.ok ((TokenMap.run actions).orgs orgId),
          runActions json lib key ttlDays paging actions ∅)) ∧
    (∀ now,
      (getIntegrationTokens lib key now).exec (perform readPaging)
          (runActions json lib key ttlDays paging actions ∅) =
        (.ok (TokenMap.run actions).integration,
          runActions json lib key ttlDays paging actions ∅)) ∧
    ∃ orgs : List String, orgs.Pairwise (· < ·) ∧
      (∀ orgId, orgId ∈ orgs ↔ ((TokenMap.run actions).orgs orgId).isSome) ∧
      ∃ enough, ∀ fuel ≥ enough,
        (listRegisteredOrgs fuel).exec (perform readPaging)
            (runActions json lib key ttlDays paging actions ∅) =
          (.ok (some orgs), runActions json lib key ttlDays paging actions ∅) := by
  have h : Represents lib key (TokenMap.run actions)
      (runActions json lib key ttlDays paging actions ∅) :=
    (represents_empty lib key).runActions hkey hactions
  exact ⟨fun now orgId => exec_getServiceAppTokens readPaging h now orgId,
    fun now => exec_getIntegrationTokens readPaging h now, exec_listRegisteredOrgs readPaging h⟩

/-! ## One org authorized -/

/-- A key of the encryption library. -/
def sampleKey : String := "cw_0x689RpI-jtRR7oE8h_eQsKImvJapLeSbXpwF4e4="

/-- Tokens obtained at an aware time with microseconds. -/
def sampleTokens : TokenSet where
  accessToken := "a1"
  refreshToken := .null
  expiresIn := 3600
  tokenType := "Bearer"
  obtainedAt := ⟨2026, 6, 13, 12, 0, 0, 5, some 0⟩
  refreshTokenExpiresIn := .null

/-- Their payload as `json.dumps` prints it. -/
def sampleText : String :=
  "\x7b\"access_token\": \"a1\", \"refresh_token\": null, \"expires_in\": 3600, " ++
    "\"token_type\": \"Bearer\", \"obtained_at\": \"2026-06-13T12:00:00.000005+00:00\", " ++
    "\"refresh_token_expires_in\": null\x7d"

/-- The payload encrypted under the key. -/
def sampleBlob : String :=
  "gAAAAABqLUZAAAECAwQFBgcICQoLDA0OD936BPqxsBnXM4K1SCojkVQO_fmqdNY2PMKO7A-czKVeNPqj" ++
    "y4ZIA2_1pK7d5YR_3lk-abDTes9miIEOOujcIJCgsmfwIPKUtJSD6tze3vEvM1-kp_tzDpY_C7UNgS51" ++
    "nFT3fWlftcAQyLRpATydxIOZEEL1NBa3GxT6cA0tLzKee7PeAglFSKCqYrMWGJskAR6Cr0N8L56s-8nt" ++
    "WPNpVbwiOxUTs1XRf-e5oG_bvJo-8zFO-a0mFssKtqQeDf9rIn2VDd9vAbEJtySMBokeAgQ="

/-- The library, as far as these tokens need it. -/
def sampleLib : TokenLib where
  dumps _ := sampleText
  loads text :=
    if text = sampleText then .ok (.obj (payloadOfTokens sampleTokens))
    else .error (.jsonDecodeError text)
  checkKey key :=
    if key = sampleKey then .ok () else .error (.valueError "Fernet key must be 32 bytes")
  encrypt _ _ _ := sampleBlob.toUTF8
  decrypt key bytes :=
    if key = sampleKey ∧ bytes.data = sampleBlob.toUTF8.data then .ok sampleText.toUTF8
    else .error .invalidToken
  fromIsoformat text :=
    if text = "2026-06-13T12:00:00.000005+00:00" then .ok ⟨2026, 6, 13, 12, 0, 0, 5, some 0⟩
    else .error (.valueError "Invalid isoformat string")
  intOfText text := .error (.valueError text)
  intOfFloat text := .error (.valueError text)
  intOfOther text := .error (.typeError text)
  repr _ := ""
  serviceAppTokens fields := .ok fields
  oauthTokens fields := .ok fields

theorem sampleTokens_roundTrip : TokensRoundTrip sampleLib sampleKey "nonce" sampleTokens where
  payload :=
    { ascii := ⟨sampleBlob, decodeAscii?_toUTF8 (by decide +kernel)⟩
      decrypt_encrypt := by
        simp only [sampleLib]
        exact if_pos ⟨trivial, trivial⟩
      loads_dumps := by
        simp only [sampleLib]
        exact if_pos trivial }
  rebuilds := ⟨by decide +kernel, rfl, rfl⟩

/-- Two orgs and the integration get tokens, and one org is deauthorized. -/
def sampleActions : List StorageAction :=
  [.setServiceAppTokens "org-1" sampleTokens "nonce" noon noon,
    .recordEvent ⟨"org-1", .authorized, .success, none, none⟩ noon "0a1b2c3d",
    .setIntegrationTokens sampleTokens "nonce" noon, .listAgents,
    .setServiceAppTokens "org-2" sampleTokens "nonce" noon noon,
    .deleteServiceAppTokens "org-1" noon]

theorem tokenStorage_refines_map_sample :
    let table := runActions noJson sampleLib sampleKey 90 Paging.single sampleActions ∅
    (getServiceAppTokens sampleLib sampleKey noon "org-1").exec dynamo table = (.ok none, table) ∧
      (getServiceAppTokens sampleLib sampleKey noon "org-2").exec dynamo table =
        (.ok (some sampleTokens), table) ∧
      (getIntegrationTokens sampleLib sampleKey noon).exec dynamo table =
        (.ok (some sampleTokens), table) ∧
      ∃ orgs : List String, "org-2" ∈ orgs ∧ "org-1" ∉ orgs ∧
        ∃ enough, ∀ fuel ≥ enough,
          (listRegisteredOrgs fuel).exec dynamo table = (.ok (some orgs), table) := by
  have hactions : ∀ action ∈ sampleActions, action.RoundTrips sampleLib sampleKey := by
    simp only [sampleActions, List.forall_mem_cons]
    exact ⟨sampleTokens_roundTrip, trivial, sampleTokens_roundTrip, trivial,
      sampleTokens_roundTrip, trivial, List.forall_mem_nil _⟩
  obtain ⟨horgs, hslot, orgs, -, hlisted, hscan⟩ := tokenStorage_refines_map noJson sampleLib
    sampleKey 90 Paging.single Paging.single sampleActions ⟨by decide, by decide⟩ hactions
  refine ⟨horgs noon "org-1", horgs noon "org-2", hslot noon, orgs, (hlisted _).mpr rfl,
    fun hmem => ?_, hscan⟩
  exact Bool.false_ne_true ((hlisted _).mp hmem)

end ByodsServer
