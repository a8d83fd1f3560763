/-
# The processes of a deployment

The processes of a deployment share one table: starts of the app, OAuth callbacks, and
everything else that the program does with the table. Each is a coroutine whose remaining
calls go to the table, to the SDK and to the media server. `Deployment.Consented` is what
none of them takes away: credentials of the integration that can be decrypted and do not
expire.
-/

import ByodsServer.Effects.DurableFacts
import ByodsServer.Effects.Sessions
import ByodsServer.Main
import ByodsServer.Persistence.DamagedCredentials
import ByodsServer.Persistence.TokenLinearization

namespace ByodsServer

open Effects Python

/-! ## Processes -/

/-- What all processes of a deployment on DynamoDB have in common: the libraries, the encryption
key, the settings of the table, and which tokens the SDK hands on to the token storage after a
call. -/
structure Deployment where
  json : JsonLib
  lib : TokenLib
  key : String
  ttlDays : ℤ
  paging : Paging
  stores : (request : IntegrationCall) → request.Reply → Option OAuthTokens

/-- What a process reads from the clock, from the random generator and from its seed file. -/
structure Circumstances where
  readAt : DateTime
  writtenAt : DateTime
  seededAt : DateTime
  entropy : String
  seed : SeedFile

/-- A process: a start of the app, a callback, or an operation on the table. -/
inductive Process
  | start (settings : Settings) (circumstances : Circumstances)
  | callback (settings : Settings) (circumstances : Circumstances) (query : QueryParams)
  | other (operation : TableOperation)

/-- What a process comes to. -/
inductive ProcessResult
  | started (app : AppState)
  | page (page : HtmlResponse)
  | answered (answer : OperationAnswer)

section Programs

variable (deployment : Deployment)

/-- The integration's tokens as the storage writes them. -/
def Deployment.storeTokens (circumstances : Circumstances) (tokens : OAuthTokens) :
    StartupProgram Unit :=
  liftTable (setIntegrationTokens deployment.lib deployment.key circumstances.entropy
    circumstances.writtenAt tokens)

/-- A call of a process, where the storage and the catalog are in the table. What remains are
the calls to the table, to the SDK and to the media server. -/
def Deployment.onTable (circumstances : Circumstances) :
    (request : StartupCall) → StartupProgram request.Reply
  | .integration .getIntegrationTokens =>
      liftTable (getIntegrationTokens deployment.lib deployment.key circumstances.readAt)
  | .integration (.setIntegrationTokens tokens) => deployment.storeTokens circumstances tokens
  | .integration request => do
      let reply ← callStartup (.integration request)
      (deployment.stores request reply).elim (return ()) (deployment.storeTokens circumstances)
      return reply
  | .ensureSeeded =>
      liftTable (ensureSeeded deployment.json circumstances.seed circumstances.seededAt)
  | .createMediaServer => do
      let _ ← liftTable listAgents
      callStartup .createMediaServer
  | request => callStartup request

/-- The callback as an integration program. -/
def callbackProgram (settings : Settings) (query : QueryParams) : IntegrationProgram HtmlResponse :=
  (handleOauthCallback (setOauthDependencies settings) (.ok settings) query).translate
    OauthStep.program

/-- The coroutine of a process. -/
def Process.program : Process → StartupProgram ProcessResult
  | .start settings circumstances => do
      let app ← (lifespan settings).translate (deployment.onTable circumstances)
      return .started app
  | .callback settings circumstances query => do
      let page ← (liftIntegration (callbackProgram settings query)).translate
        (deployment.onTable circumstances)
      return .page page
  | .other operation => do
      let answer ← liftTable
        (operation.program deployment.json deployment.lib deployment.key deployment.ttlDays)
      return .answered answer

end Programs

/-- The table answers its calls, the outside world all others. -/
def processHandler {τ : Type} (paging : Paging) (world : Handler startupCalls PyException τ) :
    Handler startupCalls PyException (Table × τ)
  | .table request, (table, state) =>
      ((perform paging request table).1, (perform paging request table).2, state)
  | request, (table, state) => ((world request state).1, table, (world request state).2)

/-- Expiry takes items of the table. -/
def expireTable {τ : Type} (expiry : Expiry) : Table × τ → Table × τ
  | (table, state) => (expire expiry table, state)

/-- The processes of a deployment, none of which has begun. -/
def startProcesses {ι τ : Type} (deployment : Deployment) (processes : ι → Process)
    (table : Table) (state : τ) :
    LoggedPool startupCalls PyException ProcessResult ι (Table × τ) where
  state := (table, state)
  programs who := (processes who).program deployment
  histories _ := []

/-! ## Consent -/

namespace Deployment

variable (deployment : Deployment)

/-- The key decrypts what it encrypted of the tokens, and their dictionary, printed, is parsed
as a dictionary. -/
structure ReadsWhatItWrites (tokens : OAuthTokens) : Prop where
  decrypt_encrypt : ∀ entropy,
    deployment.lib.decrypt deployment.key (deployment.lib.encrypt deployment.key entropy
        (deployment.lib.dumps (oauthTokensToPayload tokens)).toUTF8) =
      .ok (deployment.lib.dumps (oauthTokensToPayload tokens)).toUTF8
  loads_dumps : ∃ payload,
    deployment.lib.loads (deployment.lib.dumps (oauthTokensToPayload tokens)) =
      .ok (.obj payload)

/-- The tokens, encrypted as credentials. -/
def EncryptedAs (tokens : OAuthTokens) (attrs : Attrs) : Prop :=
  ∃ entropy blob version now, encryptTokenPayload deployment.lib.toCryptoLib deployment.key entropy
      (oauthTokensToPayload tokens) = .ok (blob, version) ∧ attrs = credsAttrs blob version now

/-- The call puts the tokens as the integration's credentials. -/
def PutsTokens (tokens : OAuthTokens) (request : StartupCall) : Prop :=
  ∃ attrs, deployment.EncryptedAs tokens attrs ∧
    request = .table (.putItem ⟨integrationKey, attrs⟩)

/-- The processes have put the tokens. -/
def Stored {ι τ : Type} (pool : LoggedPool startupCalls PyException ProcessResult ι (Table × τ))
    (tokens : OAuthTokens) : Prop :=
  ∃ who, ∃ answered ∈ pool.histories who, deployment.PutsTokens tokens answered.1

/-- Attributes of credentials that can be decrypted and do not expire. -/
def Lasting (attrs : Attrs) : Prop :=
  attrs.lookup "expires_at" = none ∧
    ∃ payload, decryptItem deployment.lib deployment.key ⟨integrationKey, attrs⟩ = .ok payload

/-- The table holds the integration's credentials. -/
def Consented (table : Table) : Prop :=
  ∃ attrs, table[integrationKey]? = some attrs ∧ deployment.Lasting attrs

/-- The call leaves credentials of the integration where there are some. -/
def SparesConsent : StartupCall → Prop
  | .table request => ∀ table, deployment.Consented table →
      deployment.Consented (perform deployment.paging request table).2
  | _ => True

/-- The call leaves credentials, or puts tokens. -/
def SparesOrPuts (request : StartupCall) : Prop :=
  deployment.SparesConsent request ∨ ∃ tokens, deployment.PutsTokens tokens request

end Deployment

/-! ## What the calls keep -/

section Kept

variable {τ : Type} {deployment : Deployment} {world : Handler startupCalls PyException τ}

theorem durable_consented :
    Durable (processHandler deployment.paging world) (expireTable (τ := τ))
      deployment.SparesConsent fun state => deployment.Consented state.1 where
  call request hspares := by
    rintro ⟨table, state⟩ hconsented
    cases request with
    | table request => exact hspares table hconsented
    | _ => exact hconsented
  change expiry := by
    rintro ⟨table, state⟩ ⟨attrs, hitem, hlasting⟩
    show deployment.Consented (expire expiry table)
    rcases expire_cases expiry table with hsame | ⟨other, expires, hother, hlookup, -, herased⟩
    · rw [hsame]
      exact ⟨attrs, hitem, hlasting⟩
    · rw [herased]
      refine ⟨attrs, ?_, hlasting⟩
      rw [Table.getElem?_erase, if_neg]
      · exact hitem
      · intro hkey
        rw [hkey] at hother
        obtain rfl := Option.some.inj (hitem.symm.trans hother)
        cases hlasting.1.symm.trans hlookup

theorem sparesConsent_of_not_touches {request : TableCall} (h : ¬ Touches integrationKey request) :
    deployment.SparesConsent (.table request) := by
  rintro table ⟨attrs, hitem, hlasting⟩
  exact ⟨attrs, (getElem?_of_not_touches h table).trans hitem, hlasting⟩

theorem sparesConsent_of_read {request : TableCall} (h : request.isWrite = false) :
    deployment.SparesConsent (.table request) := by
  apply sparesConsent_of_not_touches
  rintro (rfl | ⟨item, rfl, -⟩)
  · cases h
  · cases h

theorem sparesConsent_of_partition {request : TableCall} {pk : String}
    (h : request.partition? = some pk) (hpk : pk ≠ integrationKey.pk) :
    deployment.SparesConsent (.table request) := by
  apply sparesConsent_of_not_touches
  rintro (rfl | ⟨item, rfl, hkey⟩)
  · exact hpk (Option.some.inj h).symm
  · exact hpk ((Option.some.inj h).symm.trans (congrArg Key.pk hkey))

theorem catalogPk_ne_integration : catalogPk ≠ integrationKey.pk := by decide

theorem consented_insert {attrs : Attrs} (h : deployment.Lasting attrs) (table : Table) :
    deployment.Consented (table.insert integrationKey attrs) :=
  ⟨attrs, by rw [Table.getElem?_insert, if_pos rfl], h⟩

theorem decodeAscii_eq_ok_iff (bytes : ByteArray) (text : String) :
    decodeAscii bytes = .ok text ↔ decodeAscii? bytes = some text := by
  unfold decodeAscii
  cases decodeAscii? bytes <;> simp

/-- What the storage encrypts it can decrypt. -/
theorem Deployment.ReadsWhatItWrites.decryptTokenPayload {tokens : OAuthTokens}
    (hreads : deployment.ReadsWhatItWrites tokens) {entropy blob : String} {version : ℤ}
    (h : encryptTokenPayload deployment.lib.toCryptoLib deployment.key entropy
      (oauthTokensToPayload tokens) = .ok (blob, version)) :
    ∃ payload, ByodsServer.decryptTokenPayload deployment.lib.toCryptoLib deployment.key blob
      version = .ok payload := by
  obtain ⟨payload, hpayload⟩ := hreads.loads_dumps
  simp only [encryptTokenPayload, bind_eq_ok_iff, fernet_eq_ok_iff, decodeAscii_eq_ok_iff,
    exists_const] at h
  obtain ⟨hkey, token, htoken, ⟨⟩⟩ := h
  refine ⟨payload, ?_⟩
  rw [decryptTokenPayload_eq, if_pos rfl, decryptSteps_eq_ok_iff]
  exact ⟨hkey, _, encodeAscii?_of_decodeAscii? htoken, _, hreads.decrypt_encrypt entropy, _,
    decodeUtf8?_toUTF8 _, hpayload⟩

/-- What the storage writes lasts. -/
theorem Deployment.ReadsWhatItWrites.lasting {tokens : OAuthTokens}
    (hreads : deployment.ReadsWhatItWrites tokens) {attrs : Attrs}
    (h : deployment.EncryptedAs tokens attrs) : deployment.Lasting attrs := by
  obtain ⟨entropy, blob, version, now, hencrypt, rfl⟩ := h
  exact ⟨rfl, hreads.decryptTokenPayload hencrypt⟩

/-- Where the tokens that are put can be read back, the consent is spared. -/
theorem Deployment.SparesOrPuts.spares {request : StartupCall}
    (h : deployment.SparesOrPuts request)
    (hreads : ∀ tokens, deployment.PutsTokens tokens request →
      deployment.ReadsWhatItWrites tokens) : deployment.SparesConsent request := by
  rcases h with hspares | ⟨tokens, hputs⟩
  · exact hspares
  · have htokens := hreads tokens hputs
    obtain ⟨attrs, hencrypted, rfl⟩ := hputs
    exact fun table _ => consented_insert (htokens.lasting hencrypted) table

/-- A program on the table, as part of a process. -/
theorem usesUnreliably_liftTable {α : Type} {allowed : TableCall → Prop}
    (hallowed : ∀ request, allowed request → deployment.SparesOrPuts (.table request))
    {p : TableProgram α} (huses : p.UsesUnreliably (perform deployment.paging) allowed) :
    (liftTable p).UsesUnreliably (processHandler deployment.paging world)
      deployment.SparesOrPuts := by
  induction p with
  | finish result => trivial
  | call request next ih =>
      refine ⟨hallowed request huses.1, fun fate state => ?_⟩
      cases fate with
      | works => exact ih _ (huses.2 .works state.1)
      | refused e => exact ih _ (huses.2 (.refused e) state.1)
      | lost e => exact ih _ (huses.2 (.lost e) state.1)

theorem setIntegrationTokens_spares (entropy : String) (now : DateTime) (tokens : OAuthTokens) :
    (setIntegrationTokens deployment.lib deployment.key entropy now tokens).Uses fun request =>
      deployment.SparesOrPuts (.table request) := by
  rw [setIntegrationTokens]
  cases hencrypt : encryptTokenPayload deployment.lib.toCryptoLib deployment.key entropy
      (oauthTokensToPayload tokens) with
  | error e => trivial
  | ok encrypted =>
      exact ⟨Or.inr ⟨tokens, _, ⟨entropy, _, _, now, hencrypt, rfl⟩, rfl⟩, fun _ => trivial⟩

theorem storeTokens_spares (circumstances : Circumstances) (tokens : OAuthTokens) :
    (deployment.storeTokens circumstances tokens).UsesUnreliably
      (processHandler deployment.paging world) deployment.SparesOrPuts :=
  usesUnreliably_liftTable (fun _ => id)
    ((setIntegrationTokens_spares _ _ tokens).usesUnreliably _)

theorem getIntegrationTokens_reads (lib : TokenLib) (key : String) (now : DateTime) :
    (getIntegrationTokens lib key now).Uses fun request => TableCall.isWrite request = false := by
  apply Program.Uses.bind (getItem_reads integrationKey)
  intro stored
  cases stored with
  | none => trivial
  | some item =>
      dsimp only
      cases decryptItem lib key item with
      | error e => trivial
      | ok payload => exact Program.Uses.bind (p := Program.ofExcept _) trivial fun _ => trivial

theorem checkTableReachable_reads :
    checkTableReachable.Uses fun request => TableCall.isWrite request = false := by
  apply Program.Uses.resume
  · apply Program.Uses.bind (getItem_reads _)
    exact fun _ => trivial
  · intro result
    cases result with
    | ok reachable => trivial
    | error e => cases e <;> trivial

/-- The table is only read. -/
def ReadsTable : StartupCall → Prop
  | .table request => request.isWrite = false
  | _ => True

theorem onTable_spares (circumstances : Circumstances) (request : StartupCall)
    (hrequest : ReadsTable request) :
    (deployment.onTable circumstances request).UsesUnreliably
      (processHandler deployment.paging world) deployment.SparesOrPuts := by
  have hcatalog (call : TableCall) (hcall : call.partition? = some catalogPk) :
      deployment.SparesOrPuts (.table call) :=
    Or.inl (sparesConsent_of_partition hcall catalogPk_ne_integration)
  cases request with
  | table call => exact ⟨Or.inl (sparesConsent_of_read hrequest), fun _ _ => trivial⟩
  | ensureSeeded =>
      exact usesUnreliably_liftTable hcatalog (keepsToPartition_ensureSeeded _ _ _)
  | createMediaServer =>
      apply Program.UsesUnreliably.bind
        (usesUnreliably_liftTable hcatalog keepsToPartition_listAgents)
      exact fun _ => ⟨Or.inl trivial, fun _ _ => trivial⟩
  | integration call =>
      have hsdk {call : IntegrationCall} :
          (callStartup (.integration call) >>= fun reply =>
            (deployment.stores call reply).elim (return ())
              (deployment.storeTokens circumstances) >>= fun _ => return reply).UsesUnreliably
            (processHandler deployment.paging world) deployment.SparesOrPuts := by
        apply Program.UsesUnreliably.bind
        · exact ⟨Or.inl trivial, fun _ _ => trivial⟩
        · intro reply
          apply Program.UsesUnreliably.bind
          · cases deployment.stores call reply with
            | none => trivial
            | some tokens => exact storeTokens_spares circumstances tokens
          · exact fun _ => trivial
      cases call with
      | getIntegrationTokens =>
          apply usesUnreliably_liftTable fun _ h => Or.inl (sparesConsent_of_read h)
          exact (getIntegrationTokens_reads _ _ _).usesUnreliably _
      | setIntegrationTokens tokens => exact storeTokens_spares circumstances tokens
      | _ => exact hsdk
  | _ => exact ⟨Or.inl trivial, fun _ _ => trivial⟩

theorem uses_callStartup {allowed : StartupCall → Prop} {request : StartupCall}
    (h : allowed request) : (callStartup request).Uses allowed :=
  ⟨h, fun _ => trivial⟩

/-- No refresh token is given. -/
def GivesNoToken (request : StartupCall) : Prop :=
  ∀ refreshToken, request ≠ .integration (.arefresh (some refreshToken))

theorem uses_liftIntegration {α : Type} {p : IntegrationProgram α}
    {allowed : IntegrationCall → Prop} {permitted : StartupCall → Prop} (hp : p.Uses allowed)
    (h : ∀ request, allowed request → permitted (.integration request)) :
    (liftIntegration p).Uses permitted :=
  Program.Uses.translate (S := integrationCalls) (T := startupCalls) hp fun request hallowed =>
    show (callStartup (.integration request)).Uses permitted from
      uses_callStartup (h request hallowed)

theorem ensureServiceAppWebhooksIfConfigured_uses (settings : Settings) :
    (ensureServiceAppWebhooksIfConfigured settings).Uses fun request =>
      ∃ target, request = IntegrationCall.aensureServiceAppWebhooks target := by
  rw [ensureServiceAppWebhooksIfConfigured]
  apply Program.Uses.ite
  · exact fun _ => trivial
  · intro _
    refine ⟨⟨_, rfl⟩, fun created => ?_⟩
    cases created <;> trivial

/-- After the bootstrap, a start only reads the table, and gives no refresh token. -/
theorem afterBootstrap_uses (settings : Settings) (integrationReady : Bool) :
    (do
      ensureAtStartup settings integrationReady
      let persistenceReady ← checkPersistence settings
      startMedia settings
      return (⟨integrationReady, persistenceReady⟩ : AppState)).Uses fun request =>
        ReadsTable request ∧ GivesNoToken request := by
  apply Program.Uses.bind
  · rw [ensureAtStartup]
    apply Program.Uses.ite
    · intro _
      have huses := ensureServiceAppWebhooksIfConfigured_uses settings
      -- which calls it makes is known, so how it decides on them need not be looked at again
      generalize ensureServiceAppWebhooksIfConfigured settings = ensure at huses ⊢
      apply uses_liftIntegration huses
      rintro _ ⟨target, rfl⟩
      exact ⟨trivial, by rintro _ ⟨⟩⟩
    · exact fun _ => trivial
  intro _
  apply Program.Uses.bind
  · rw [checkPersistence]
    apply Program.Uses.ite
    · intro _
      exact checkTableReachable_reads.translate fun request hread =>
        uses_callStartup ⟨hread, by rintro _ ⟨⟩⟩
    · exact fun _ => trivial
  intro reachable
  apply Program.Uses.bind
  · rw [startMedia]
    apply Program.Uses.ite
    · intro _
      apply Program.Uses.bind (uses_callStartup ⟨trivial, by rintro _ ⟨⟩⟩)
      intro _
      apply Program.Uses.bind (uses_callStartup ⟨trivial, by rintro _ ⟨⟩⟩)
      exact fun _ => uses_callStartup ⟨trivial, by rintro _ ⟨⟩⟩
    · exact fun _ => trivial
  exact fun _ => trivial

theorem lifespan_reads (settings : Settings) : (lifespan settings).Uses ReadsTable := by
  apply Program.Uses.bind (uses_callStartup trivial)
  intro _
  apply Program.Uses.bind (uses_callStartup trivial)
  intro _
  apply Program.Uses.bind
  · exact uses_liftIntegration (Program.uses_anything _) fun _ _ => trivial
  · exact fun integrationReady => (afterBootstrap_uses settings integrationReady).mono
      fun _ h => h.1

/-- Every process spares the consent, or puts tokens. -/
theorem Process.spares (process : Process) :
    (process.program deployment).UsesUnreliably (processHandler deployment.paging world)
      deployment.SparesOrPuts := by
  cases process with
  | start settings circumstances =>
      apply Program.UsesUnreliably.bind
        ((lifespan_reads settings).translate_unreliably (onTable_spares circumstances))
      exact fun _ => trivial
  | callback settings circumstances query =>
      have huses : (liftIntegration (callbackProgram settings query)).Uses ReadsTable :=
        uses_liftIntegration (Program.uses_anything _) fun _ _ => trivial
      apply Program.UsesUnreliably.bind
        (huses.translate_unreliably (onTable_spares circumstances))
      exact fun _ => trivial
  | other operation =>
      apply Program.UsesUnreliably.bind (p := liftTable _)
      · have hpartition {pk : String} (hpk : pk ≠ integrationKey.pk)
            (hoperation : operation.partition? = some pk) :
            (liftTable (operation.program deployment.json deployment.lib deployment.key
              deployment.ttlDays)).UsesUnreliably (processHandler deployment.paging world)
              deployment.SparesOrPuts := by
          have hkeeps := operation.keepsToPartition deployment.json deployment.lib deployment.key
            deployment.ttlDays deployment.paging
          rw [hoperation] at hkeeps
          exact usesUnreliably_liftTable
            (fun request hrequest => Or.inl (sparesConsent_of_partition hrequest hpk)) hkeeps
        cases operation with
        | getIntegrationTokens now =>
            apply usesUnreliably_liftTable fun _ h => Or.inl (sparesConsent_of_read h)
            apply Program.Uses.usesUnreliably
            exact (getIntegrationTokens_reads _ _ _).bind fun _ => trivial
        | setIntegrationTokens tokens entropy now =>
            apply usesUnreliably_liftTable fun _ => id
            apply Program.Uses.usesUnreliably
            exact (setIntegrationTokens_spares entropy now tokens).bind fun _ => trivial
        | listRegisteredOrgs fuel =>
            apply usesUnreliably_liftTable fun _ h => Or.inl (sparesConsent_of_read h)
            apply Program.Uses.usesUnreliably
            apply Program.Uses.bind (p := ByodsServer.listRegisteredOrgs fuel)
            · exact (reads_scanOrgs fuel none []).bind fun _ => trivial
            · exact fun _ => trivial
        | checkTableReachable => exact hpartition catalogPk_ne_integration rfl
        | ensureSeeded seed now => exact hpartition catalogPk_ne_integration rfl
        | listAgents => exact hpartition catalogPk_ne_integration rfl
        | mutate mutation now => exact hpartition catalogPk_ne_integration rfl
        | command line now => exact hpartition catalogPk_ne_integration rfl
        | _ => exact hpartition (orgPk_ne_integration _) rfl
      · exact fun _ => trivial

end Kept

end ByodsServer
