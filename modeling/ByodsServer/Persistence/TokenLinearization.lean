/-
# The token storage is linearizable

Requests, callbacks and restarted instances use the token storage at the same time.
Each of its operations reads or writes the credentials with its first call, so whatever
the interleaving, and whatever fails in it, the storage answers like the map, used by one
operation at a time. The profiles are no part of that: they are written by a second call.
-/

import ByodsServer.Effects.CommitPoints
import ByodsServer.Persistence.Records

namespace ByodsServer

open Effects Python

/-! ## Operations on the map -/

/-- What an operation means for the map, and what it promises to answer. The listing of the orgs
promises nothing: it scans page by page, and a write between two pages may be seen or not. -/
def TableOperation.onTokens : TableOperation → TokenMap → TokenMap × Option OperationAnswer
  | getServiceAppTokens orgId _, map => (map, some (.tokens (map.orgs orgId)))
  | setServiceAppTokens orgId tokens _ _ _, map =>
      ({ map with orgs := Function.update map.orgs orgId (some tokens) }, some .done)
  | deleteServiceAppTokens orgId _, map =>
      ({ map with orgs := Function.update map.orgs orgId none }, some .done)
  | getIntegrationTokens _, map => (map, some (.tokens map.integration))
  | setIntegrationTokens tokens _ _, map => ({ map with integration := some tokens }, some .done)
  | _, map => (map, none)

/-- The operation is one of the token storage that reads or writes one slot. -/
def TableOperation.IsTokenOperation (operation : TableOperation) : Prop :=
  ∀ map, (operation.onTokens map).2.isSome

section Stores

variable (lib : TokenLib) (key : String)

/-- The credentials in the table are those of the map, and none of them expires. -/
structure StoresTokens (map : TokenMap) (table : Table) : Prop
    extends Represents lib key map table where
  durable : ∀ itemKey attrs, IsCredsKey itemKey → table[itemKey]? = some attrs →
    attrs.lookup "expires_at" = none

variable {lib key} {map : TokenMap} {table : Table}

theorem storesTokens_empty : StoresTokens lib key TokenMap.empty ∅ where
  toRepresents := represents_empty lib key
  durable itemKey attrs _ hitem := by cases hitem

theorem StoresTokens.of_sameCreds {second : Table} (h : StoresTokens lib key map table)
    (hsame : SameCreds second table) : StoresTokens lib key map second where
  toRepresents := h.toRepresents.of_sameCreds hsame
  durable itemKey attrs hcreds hitem := by
    rw [hsame itemKey hcreds] at hitem
    exact h.durable itemKey attrs hcreds hitem

/-- Expiry takes no credentials. -/
theorem StoresTokens.expire (h : StoresTokens lib key map table) (expiry : Expiry) :
    StoresTokens lib key map (expire expiry table) := by
  rcases expire_cases expiry table with hsame | ⟨attrs, expires, hitem, hlookup, -, herased⟩
  · rwa [hsame]
  · rw [herased]
    apply h.of_sameCreds
    intro itemKey hcreds
    rw [Table.getElem?_erase, if_neg]
    rintro rfl
    rw [h.durable _ attrs hcreds hitem] at hlookup
    cases hlookup

/-- Credentials that are put have no expiry. -/
theorem StoresTokens.insert (h : StoresTokens lib key map table) {after : TokenMap}
    {itemKey : Key} {blob : String} {version : ℤ} {now : DateTime}
    (hafter : Represents lib key after
      (table.insert itemKey (credsAttrs blob version now))) :
    StoresTokens lib key after (table.insert itemKey (credsAttrs blob version now)) where
  toRepresents := hafter
  durable other attrs hcreds hitem := by
    rw [Table.getElem?_insert] at hitem
    split_ifs at hitem
    · obtain rfl := Option.some.inj hitem
      rfl
    · exact h.durable other attrs hcreds hitem

theorem StoresTokens.deleteOrg (h : StoresTokens lib key map table) (orgId : String) :
    StoresTokens lib key { map with orgs := Function.update map.orgs orgId none }
      (table.erase (credsKey orgId)) where
  toRepresents := h.toRepresents.deleteOrg orgId
  durable other attrs hcreds hitem := by
    rw [Table.getElem?_erase] at hitem
    split_ifs at hitem
    exact h.durable other attrs hcreds hitem

end Stores

/-! ## Calls that leave the credentials alone -/

/-- The call writes no credentials. -/
def SparesCreds (request : TableCall) : Prop :=
  ∀ itemKey, IsCredsKey itemKey → ¬ Touches itemKey request

section Spares

variable {lib : TokenLib} {key : String} {paging : Paging} {α : Type}

theorem SparesCreds.keeps {request : TableCall} (h : SparesCreds request) (map : TokenMap)
    (table : Table) (hstored : StoresTokens lib key map table) :
    StoresTokens lib key map (perform paging request table).2 :=
  hstored.of_sameCreds fun itemKey hcreds => getElem?_of_not_touches (h itemKey hcreds) table

theorem sparesCreds_of_reads {request : TableCall} (h : request.isWrite = false) :
    SparesCreds request := by
  intro itemKey _ htouches
  rcases htouches with rfl | ⟨item, rfl, -⟩
  · cases h
  · cases h

theorem sparesCreds_of_partition {request : TableCall}
    (h : request.partition? = some catalogPk) : SparesCreds request := by
  intro itemKey hcreds htouches
  have hpk : itemKey.pk ≠ catalogPk := fun hpk => catalogPk_not_creds hpk hcreds
  rcases htouches with rfl | ⟨item, rfl, rfl⟩
  · exact hpk (Option.some.inj h)
  · exact hpk (Option.some.inj h)

theorem sparesCreds_putItem {item : Item} (h : ¬ IsCredsKey item.key) :
    SparesCreds (.putItem item) := by
  intro itemKey hcreds
  apply not_touches_putItem
  rintro rfl
  exact h hcreds

/-- An operation that writes no credentials is none on the map. -/
theorem takesEffect_of_sparesCreds {p : TableProgram α}
    (h : p.UsesUnreliably (perform paging) SparesCreds) :
    p.TakesEffect (perform paging) (StoresTokens lib key) fun map => (map, none) :=
  (h.mono fun _ hspares map table hstored => hspares.keeps map table hstored).takesEffect

theorem reads_getProfile (orgId : String) :
    (getProfile orgId).Uses fun request => TableCall.isWrite request = false :=
  getItem_reads (profileKey orgId)

theorem scan_reads (sk : String) (start : Option ℕ) :
    (scan sk start).Uses fun request => TableCall.isWrite request = false :=
  ⟨rfl, fun _ => trivial⟩

theorem reads_scanOrgs (fuel : ℕ) (start : Option ℕ) (orgIds : List String) :
    (scanOrgs fuel start orgIds).Uses fun request => TableCall.isWrite request = false := by
  induction fuel generalizing start orgIds with
  | zero => trivial
  | succ fuel ih =>
      apply Program.Uses.bind (scan_reads "CREDS" start)
      intro response
      dsimp only
      split
      · trivial
      · exact ih _ _

end Spares

/-! ## Operations take effect with their first call -/

section TakesEffect

variable {lib : TokenLib} {key : String} {paging : Paging}

/-- What is computed from one item is one call. -/
theorem isOneCall_getItem {α : Type} {answer : α → OperationAnswer} {itemKey : Key}
    {f : Option Item → TableProgram α} (h : ∀ stored, ∃ result, f stored = .finish result) :
    (answering (getItem itemKey >>= f) answer).IsOneCall := by
  refine ⟨fun stored => ?_, fun e => ⟨e, rfl⟩⟩
  obtain ⟨result, hresult⟩ := h stored
  show ∃ final, answering (f stored) answer = .finish final
  rw [hresult]
  cases result with
  | error e => exact ⟨_, rfl⟩
  | ok value => exact ⟨_, rfl⟩

theorem isOneCall_getServiceAppTokens (now : DateTime) (orgId : String) :
    (answering (getServiceAppTokens lib key now orgId) .tokens).IsOneCall := by
  refine isOneCall_getItem fun stored => ?_
  cases stored with
  | none => exact ⟨_, rfl⟩
  | some item =>
      dsimp only
      cases decryptItem lib key item with
      | error e => exact ⟨_, rfl⟩
      | ok payload =>
          rw [Program.ofExcept_eq, Program.finish_bind]
          cases payloadToTokens lib now payload with
          | error e => exact ⟨_, rfl⟩
          | ok tokens => exact ⟨_, rfl⟩

theorem isOneCall_getIntegrationTokens (now : DateTime) :
    (answering (getIntegrationTokens lib key now) .tokens).IsOneCall := by
  refine isOneCall_getItem fun stored => ?_
  cases stored with
  | none => exact ⟨_, rfl⟩
  | some item =>
      dsimp only
      cases decryptItem lib key item with
      | error e => exact ⟨_, rfl⟩
      | ok payload =>
          dsimp only
          cases payloadToOauthTokens lib now payload with
          | error e => exact ⟨_, rfl⟩
          | ok tokens => exact ⟨_, rfl⟩

theorem exec_answering {α : Type} (p : TableProgram α) (answer : α → OperationAnswer)
    (table : Table) : (answering p answer).exec (perform paging) table =
      ((p.exec (perform paging) table).1.map answer, (p.exec (perform paging) table).2) := by
  rw [answering, Program.exec_bind]
  cases hexec : p.exec (perform paging) table with
  | mk result after =>
      cases result with
      | ok value => rfl
      | error e => rfl

/-- A write of tokens, once they are encrypted, is one call, or one and the profile's. -/
theorem takesEffect_setServiceAppTokens (hkey : KeyUsable lib.toCryptoLib key) {orgId : String}
    {tokens : ServiceAppTokens} {entropy : String} {now profileNow : DateTime}
    (htokens : ByodsServer.TokensRoundTrip lib key entropy tokens) :
    (answering (setServiceAppTokens lib key entropy now profileNow orgId tokens)
      fun _ => .done).TakesEffect (perform paging) (StoresTokens lib key)
        (TableOperation.setServiceAppTokens orgId tokens entropy now profileNow).onTokens := by
  obtain ⟨blob, hencrypt, hdecodes⟩ := exists_decodes hkey htokens
  rw [setServiceAppTokens, tokensToPayload, hencrypt]
  intro map table hstored
  refine ⟨hstored.insert (hstored.setOrg orgId (hdecodes now)), fun fate => ?_⟩
  cases fate with
  | works =>
      refine ⟨fun map table hstored => ?_, fun fate table => ?_⟩
      · exact (sparesCreds_putItem (profileKey_not_creds orgId)).keeps map table hstored
      · cases fate with
        | works =>
            rintro _ ⟨⟩ answer hanswer
            exact Option.some.inj hanswer
        | refused e => rintro _ ⟨⟩
        | lost e => rintro _ ⟨⟩
  | refused e => exact fun _ => ⟨e, rfl⟩
  | lost e => exact fun _ => ⟨e, rfl⟩

theorem takesEffect_deleteServiceAppTokens (orgId : String) (profileNow : DateTime) :
    (answering (deleteServiceAppTokens profileNow orgId) fun _ => .done).TakesEffect
      (perform paging) (StoresTokens lib key)
        (TableOperation.deleteServiceAppTokens orgId profileNow).onTokens := by
  intro map table hstored
  refine ⟨hstored.deleteOrg orgId, fun fate => ?_⟩
  cases fate with
  | works =>
      refine ⟨fun map table hstored => ?_, fun fate table => ?_⟩
      · exact (sparesCreds_putItem (profileKey_not_creds orgId)).keeps map table hstored
      · cases fate with
        | works =>
            rintro _ ⟨⟩ answer hanswer
            exact Option.some.inj hanswer
        | refused e => rintro _ ⟨⟩
        | lost e => rintro _ ⟨⟩
  | refused e => exact fun _ => ⟨e, rfl⟩
  | lost e => exact fun _ => ⟨e, rfl⟩

theorem takesEffect_setIntegrationTokens (hkey : KeyUsable lib.toCryptoLib key)
    {tokens : OAuthTokens} {entropy : String} {now : DateTime}
    (htokens : ByodsServer.TokensRoundTrip lib key entropy tokens) :
    (answering (setIntegrationTokens lib key entropy now tokens) fun _ => .done).TakesEffect
      (perform paging) (StoresTokens lib key)
        (TableOperation.setIntegrationTokens tokens entropy now).onTokens := by
  obtain ⟨blob, hencrypt, hdecodes⟩ := exists_decodes hkey htokens
  rw [setIntegrationTokens, oauthTokensToPayload, hencrypt]
  apply Program.IsOneCall.takesEffect
  · exact ⟨fun _ => ⟨_, rfl⟩, fun e => ⟨e, rfl⟩⟩
  · intro map table hstored
    refine ⟨hstored.insert (hstored.setIntegration (hdecodes now)), fun answer hanswer => ?_⟩
    exact congrArg Except.ok (Option.some.inj hanswer)

/-- Every operation on the shared table takes effect on the map with its first call. -/
theorem TableOperation.takesEffect (json : JsonLib) (ttlDays : ℤ)
    (hkey : KeyUsable lib.toCryptoLib key) (operation : TableOperation)
    (htokens : operation.TokensRoundTrip lib key) :
    (operation.program json lib key ttlDays).TakesEffect (perform paging)
      (StoresTokens lib key) operation.onTokens := by
  have hcatalog (hpk : operation.partition? = some catalogPk) :
      (operation.program json lib key ttlDays).UsesUnreliably (perform paging) SparesCreds := by
    refine (operation.keepsToPartition json lib key ttlDays paging).mono ?_
    exact fun request hrequest => sparesCreds_of_partition (hrequest.trans hpk)
  have hreads {p : TableProgram OperationAnswer}
      (h : p.Uses fun request => TableCall.isWrite request = false) :
      p.UsesUnreliably (perform paging) SparesCreds := by
    apply Program.Uses.usesUnreliably
    exact h.mono fun request hread => sparesCreds_of_reads hread
  cases operation with
  | getServiceAppTokens orgId now =>
      apply (isOneCall_getServiceAppTokens now orgId).takesEffect
      intro map table hstored
      rw [exec_answering, exec_getServiceAppTokens paging hstored.toRepresents]
      refine ⟨hstored, fun answer hanswer => ?_⟩
      exact congrArg Except.ok (Option.some.inj hanswer)
  | setServiceAppTokens orgId tokens entropy now profileNow =>
      exact takesEffect_setServiceAppTokens hkey htokens
  | deleteServiceAppTokens orgId profileNow =>
      exact takesEffect_deleteServiceAppTokens orgId profileNow
  | getIntegrationTokens now =>
      apply (isOneCall_getIntegrationTokens now).takesEffect
      intro map table hstored
      rw [exec_answering, exec_getIntegrationTokens paging hstored.toRepresents]
      refine ⟨hstored, fun answer hanswer => ?_⟩
      exact congrArg Except.ok (Option.some.inj hanswer)
  | setIntegrationTokens tokens entropy now =>
      exact takesEffect_setIntegrationTokens hkey htokens
  | getProfile orgId =>
      apply takesEffect_of_sparesCreds
      exact hreads (Program.Uses.bind (reads_getProfile orgId) fun _ => trivial)
  | recordEvent event now eventId =>
      apply takesEffect_of_sparesCreds
      apply Program.Uses.usesUnreliably
      apply Program.Uses.bind ((recordEvent_uses ttlDays now eventId event).mono ?_)
      · exact fun _ => trivial
      · rintro request ⟨attrs, rfl⟩
        exact sparesCreds_putItem (auditKey_not_creds event.orgId now eventId)
  | listEvents orgId limit since =>
      apply takesEffect_of_sparesCreds
      apply hreads
      apply Program.Uses.bind
      · exact Program.Uses.bind (query_reads _) fun _ => trivial
      · exact fun _ => trivial
  | listRegisteredOrgs fuel =>
      apply takesEffect_of_sparesCreds
      apply hreads
      apply Program.Uses.bind
      · exact Program.Uses.bind (reads_scanOrgs fuel none []) fun _ => trivial
      · exact fun _ => trivial
  | checkTableReachable => exact takesEffect_of_sparesCreds (hcatalog rfl)
  | ensureSeeded seed now => exact takesEffect_of_sparesCreds (hcatalog rfl)
  | listAgents => exact takesEffect_of_sparesCreds (hcatalog rfl)
  | mutate mutation now => exact takesEffect_of_sparesCreds (hcatalog rfl)
  | command line now => exact takesEffect_of_sparesCreds (hcatalog rfl)

end TakesEffect

/-! ## Every interleaving -/

/-- Whatever else happens on the table, whichever calls fail and whatever expires, the
token storage answers like the map used by one operation at a time: in an order that
extends the order of the first turns, each operation that returned has the map's answer,
and in the end the table stores the map's tokens. -/
theorem token_storage_linearizable {ι : Type} [DecidableEq ι] (json : JsonLib) (lib : TokenLib)
    (key : String) (ttlDays : ℤ) (paging : Paging) (operations : ι → TableOperation)
    (hkey : KeyUsable lib.toCryptoLib key)
    (htokens : ∀ who, (operations who).TokensRoundTrip lib key) {map : TokenMap} {table : Table}
    (hstored : StoresTokens lib key map table) (events : List (PoolEvent PyException ι Expiry)) :
    ∃ order : List ι, order.Nodup ∧
      StoresTokens lib key (objectAfter (fun who => (operations who).onTokens) order map)
        ((startOperations json lib key ttlDays operations table).occurAll (perform paging) expire
          events).state ∧
      (∀ before who after value, order = before ++ who :: after →
        ((startOperations json lib key ttlDays operations table).occurAll (perform paging) expire
          events).programs who = .finish (.ok value) →
        ∀ answer ∈ ((operations who).onTokens
          (objectAfter (fun who => (operations who).onTokens) before map)).2, value = answer) ∧
      (∀ who value, (operations who).IsTokenOperation →
        ((startOperations json lib key ttlDays operations table).occurAll (perform paging) expire
          events).programs who = .finish (.ok value) → who ∈ order) ∧
      ∀ first second, events = first ++ second → ∀ one other, HasTurn first one →
        ¬ HasTurn first other → one ∈ order → other ∈ order → [one, other].Sublist order :=
  Pool.linearizable (fun expiry _ _ h => h.expire expiry) hstored
    (fun who => (operations who).takesEffect json ttlDays hkey (htokens who)) events

/-- One instance sets the tokens of an org, and another one reads them while it writes the
profile. -/
def readWhileSet : Bool → TableOperation
  | true => .setServiceAppTokens "org-1" sampleTokens "nonce" noon noon
  | false => .getServiceAppTokens "org-1" noon

theorem token_storage_linearizable_readWhileSet :
    KeyUsable sampleLib.toCryptoLib sampleKey ∧
      ∃ order : List Bool, order.Nodup ∧
        ∀ value, ((startOperations noJson sampleLib sampleKey 90 readWhileSet ∅).occurAll
          (perform Paging.single) expire
          [.turn true .works, .turn false .works, .turn true .works]).programs false =
            .finish (.ok value) → false ∈ order := by
  have hkey : KeyUsable sampleLib.toCryptoLib sampleKey := ⟨by decide, by decide⟩
  have htokens : ∀ who, (readWhileSet who).TokensRoundTrip sampleLib sampleKey := by
    intro who
    cases who with
    | true => exact sampleTokens_roundTrip
    | false => trivial
  obtain ⟨order, hnodup, -, -, hmem, -⟩ := token_storage_linearizable noJson sampleLib sampleKey
    90 Paging.single readWhileSet hkey htokens storesTokens_empty
    [.turn true .works, .turn false .works, .turn true .works]
  exact ⟨hkey, order, hnodup, fun value hvalue => hmem false value (fun _ => rfl) hvalue⟩

end ByodsServer
