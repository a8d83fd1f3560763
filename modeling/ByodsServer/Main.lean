/-
# The app

The start of the app and its readiness check. The start writes two flags that
`GET /ready` reads; nothing writes them later. `Running` follows, next to the
flags, the facts they stand for: whether tokens were obtained, and whether the
table can be reached.
-/

import ByodsServer.CreateApp
import ByodsServer.Effects.Runs
import ByodsServer.Persistence.Client
import ByodsServer.Webhooks.OauthCallback
import ByodsServer.Webhooks.Routes

namespace ByodsServer

open Effects Python

/-- The flags in `app.state`. -/
structure AppState where
  integrationReady : Bool
  persistenceReady : Bool
  deriving DecidableEq, Repr

/-- The calls of the start: resources and media server, the integration, and the
table. -/
inductive StartupCall
  | createPersistenceResources
  | createSdk
  | integration (request : IntegrationCall)
  | table (request : TableCall)
  | ensureSeeded
  | createMediaServer
  | startMediaServer

/-- What each call answers. -/
@[reducible]
def StartupCall.Reply : StartupCall → Type
  | integration request => request.Reply
  | table request => request.Reply
  | _ => Unit

/-- The start's calls as something a program can call. -/
def startupCalls : Signature where
  Call := StartupCall
  Reply := StartupCall.Reply

/-- The start's coroutine. -/
abbrev StartupProgram := Program startupCalls PyException

/-- How every call of the start comes out. -/
abbrev StartupAnswers := (request : StartupCall) → Except PyException request.Reply

/-- How every call of the token storage and the SDK comes out. -/
abbrev IntegrationAnswers := (request : IntegrationCall) → Except PyException request.Reply

/-- The answers of the table during the start. -/
def StartupAnswers.table (answers : StartupAnswers) :
    (request : tableCalls.Call) → Except PyException (tableCalls.Reply request) :=
  fun request => answers (.table request)

/-- The answers of the token storage and the SDK during the start. -/
def StartupAnswers.integration (answers : StartupAnswers) :
    (request : integrationCalls.Call) → Except PyException (integrationCalls.Reply request) :=
  fun request => answers (.integration request)

/-- One call of the start. -/
def callStartup (request : StartupCall) : StartupProgram request.Reply :=
  Program.await (S := startupCalls) request

/-- A program that talks to the integration, as part of the start. -/
def liftIntegration {α : Type} (p : IntegrationProgram α) : StartupProgram α :=
  p.translate fun request => callStartup (.integration request)

/-- A program that talks to the table, as part of the start. -/
def liftTable {α : Type} (p : TableProgram α) : StartupProgram α :=
  p.translate fun request => callStartup (.table request)

section Lifespan

variable (settings : Settings)

/-- The webhooks are ensured once tokens are there. What this raises ends the
start. -/
def ensureAtStartup (integrationReady : Bool) : StartupProgram Unit :=
  if integrationReady = true ∧ textOrEmpty settings.webhookTargetUrl ≠ "" then
    liftIntegration (ensureServiceAppWebhooksIfConfigured settings)
  else return ()

/-- The flag of the persistence backend. -/
def checkPersistence : StartupProgram Bool :=
  if settings.persistenceBackend = "dynamodb" then liftTable checkTableReachable
  else return true

/-- The catalog is seeded and the media server started. -/
def startMedia : StartupProgram Unit :=
  if settings.mediaEnabled then do
    callStartup .ensureSeeded
    callStartup .createMediaServer
    callStartup .startMediaServer
  else return ()

/-- `lifespan`, up to its `yield`: the flags it leaves. -/
def lifespan : StartupProgram AppState := do
  callStartup .createPersistenceResources
  callStartup .createSdk
  let integrationReady ← liftIntegration (bootstrapIntegration settings)
  ensureAtStartup settings integrationReady
  let persistenceReady ← checkPersistence settings
  startMedia settings
  return ⟨integrationReady, persistenceReady⟩

/-- `ready`. -/
def ready (app : AppState) : Except PyException Unit :=
  if !app.integrationReady then
    .error (.httpException 503 "Integration credentials not bootstrapped")
  else if settings.persistenceBackend = "dynamodb" ∧ !app.persistenceReady then
    .error (.httpException 503 "DynamoDB persistence backend unavailable")
  else .ok ()

end Lifespan

/-! ## Runs -/

section Runs

variable (settings : Settings)

/-- The callback as the app runs it. -/
def callbackAnswer (query : QueryParams) (answers : IntegrationAnswers) :
    Except PyException HtmlResponse :=
  ((handleOauthCallback (setOauthDependencies settings) (.ok settings) query).translate
    OauthStep.program).resultOf answers

/-- The callback answers with a page of status 200. -/
def callbackSucceeds (query : QueryParams) (answers : IntegrationAnswers) : Bool :=
  match callbackAnswer settings query answers with
  | .ok page => page.statusCode = 200
  | .error _ => false

/-- The start obtained integration tokens. -/
def tokensAtStartup (answers : StartupAnswers) : Bool :=
  (bootstrapIntegration settings).resultOf answers.integration = .ok true

/-- The start could read the table. -/
def reachableAtStartup (answers : StartupAnswers) : Bool :=
  (answers.table (.getItem ⟨"CATALOG", "META"⟩)).isOk

/-- What happens to a running app. A callback is a request that was routed to the mounted
callback. -/
inductive AppEvent
  | callback (query : QueryParams) (answers : IntegrationAnswers)
  | reachability (reachable : Bool)
  | ready

/-- A running app: its flags, whether tokens came from the start or from a
callback, and whether the table can be reached. -/
structure Running where
  app : AppState
  tokensAtStartup : Bool
  calledBack : Bool
  reachable : Bool

/-- The app right after its start. -/
def Running.started (answers : StartupAnswers) (app : AppState) : Running where
  app := app
  tokensAtStartup := ByodsServer.tokensAtStartup settings answers
  calledBack := false
  reachable := reachableAtStartup answers

/-- One event. No handler writes the flags. -/
def Running.step (running : Running) : AppEvent → Running
  | .callback query answers =>
      { running with calledBack := running.calledBack || callbackSucceeds settings query answers }
  | .reachability reachable => { running with reachable := reachable }
  | .ready => running

/-- A sequence of events. -/
def Running.run (running : Running) (events : List AppEvent) : Running :=
  events.foldl (Running.step settings) running

end Runs

/-! ## The flags -/

section Flags

variable {settings : Settings} {answers : StartupAnswers}

theorem resultOf_liftIntegration {α : Type} (p : IntegrationProgram α) :
    (liftIntegration p).resultOf answers = p.resultOf answers.integration :=
  Program.resultOf_translate _ p

theorem resultOf_liftTable {α : Type} (p : TableProgram α) :
    (liftTable p).resultOf answers = p.resultOf answers.table :=
  Program.resultOf_translate _ p

/-- A start that succeeds leaves the first flag as the tokens were, the second as
its check of the backend. -/
theorem lifespan_flags {app : AppState}
    (hstart : (lifespan settings).resultOf answers = .ok app) :
    app.integrationReady = tokensAtStartup settings answers ∧
      (checkPersistence settings).resultOf answers = .ok app.persistenceReady := by
  rw [lifespan] at hstart
  obtain ⟨_, -, hstart⟩ := Program.resultOf_bind_eq_ok.mp hstart
  obtain ⟨_, -, hstart⟩ := Program.resultOf_bind_eq_ok.mp hstart
  obtain ⟨integrationReady, hintegration, hstart⟩ := Program.resultOf_bind_eq_ok.mp hstart
  obtain ⟨_, -, hstart⟩ := Program.resultOf_bind_eq_ok.mp hstart
  obtain ⟨persistenceReady, hpersistence, hstart⟩ := Program.resultOf_bind_eq_ok.mp hstart
  obtain ⟨_, -, hstart⟩ := Program.resultOf_bind_eq_ok.mp hstart
  have happ : ⟨integrationReady, persistenceReady⟩ = app := Except.ok.inj hstart
  rw [resultOf_liftIntegration] at hintegration
  rw [← happ, tokensAtStartup, hintegration]
  cases integrationReady with
  | false => exact ⟨rfl, hpersistence⟩
  | true => exact ⟨rfl, hpersistence⟩

/-- A start that succeeds leaves the flags as it found the facts. -/
theorem lifespan_eq_ok {app : AppState} (hbackend : settings.persistenceBackend = "dynamodb")
    (hstart : (lifespan settings).resultOf answers = .ok app) :
    app = ⟨tokensAtStartup settings answers, reachableAtStartup answers⟩ := by
  obtain ⟨hintegration, hpersistence⟩ := lifespan_flags hstart
  rw [checkPersistence, if_pos hbackend, resultOf_liftTable] at hpersistence
  rw [reachableAtStartup, ← isOk_of_checkTableReachable hpersistence, ← hintegration]

end Flags

/-! ## What readiness should follow -/

namespace Running

/-- Integration tokens were obtained in this run, by its start or by a callback. -/
def Obtained (running : Running) : Prop :=
  running.tokensAtStartup = true ∨ running.calledBack = true

/-- What `GET /ready` answers, it should. -/
def ReadyFollows (settings : Settings) (running : Running) : Prop :=
  httpStatus (ready settings running.app) = 200 ↔ running.Obtained ∧ running.reachable = true

/-- With tokens from the start, the table is as reachable as it was then; without
them, no callback has brought tokens, or the table cannot be reached. -/
def AsAtStartup (reachableThen : Bool) (running : Running) : Prop :=
  (running.tokensAtStartup = true → running.reachable = reachableThen) ∧
    (running.tokensAtStartup = false → ¬ (running.calledBack = true ∧ running.reachable = true))

variable (settings : Settings)

/-- No event writes the flags, nor what the start obtained. -/
theorem step_flags (running : Running) (event : AppEvent) :
    (running.step settings event).app = running.app ∧
      (running.step settings event).tokensAtStartup = running.tokensAtStartup := by
  cases event with
  | callback query answers => exact ⟨rfl, rfl⟩
  | reachability reachable => exact ⟨rfl, rfl⟩
  | ready => exact ⟨rfl, rfl⟩

theorem run_flags (running : Running) (events : List AppEvent) :
    (running.run settings events).app = running.app ∧
      (running.run settings events).tokensAtStartup = running.tokensAtStartup := by
  refine runEvents_invariant (P := fun later : Running =>
    later.app = running.app ∧ later.tokensAtStartup = running.tokensAtStartup) ?_ events ⟨rfl, rfl⟩
  intro later event hlater
  have hstep := later.step_flags settings event
  exact ⟨hstep.1.trans hlater.1, hstep.2.trans hlater.2⟩

/-- With the flags of its start, the app answers as its facts demand exactly when
they are as they were then. -/
theorem readyFollows_iff (hbackend : settings.persistenceBackend = "dynamodb")
    {running : Running} {reachableThen : Bool}
    (hflags : running.app = ⟨running.tokensAtStartup, reachableThen⟩) :
    running.ReadyFollows settings ↔ running.AsAtStartup reachableThen := by
  have hstatus : httpStatus (ready settings running.app) = 200 ↔
      running.tokensAtStartup = true ∧ reachableThen = true := by
    rw [hflags]
    cases running.tokensAtStartup <;> cases reachableThen <;>
      simp [ready, httpStatus, hbackend]
  rw [ReadyFollows, AsAtStartup, Obtained, hstatus]
  cases running.tokensAtStartup <;> cases reachableThen <;> simp

end Running

/-- In a run after a successful start, every `GET /ready` follows the tokens
obtained and the table's reachability exactly when each of them meets the app
with the facts as at its start. -/
theorem ready_follows_iff (settings : Settings) (answers : StartupAnswers) (app : AppState)
    (events : List AppEvent) (hbackend : settings.persistenceBackend = "dynamodb")
    (hstart : (lifespan settings).resultOf answers = .ok app) :
    (∀ before after, events = before ++ .ready :: after →
      ((Running.started settings answers app).run settings before).ReadyFollows settings) ↔
    ∀ before after, events = before ++ .ready :: after →
      ((Running.started settings answers app).run settings before).AsAtStartup
        (reachableAtStartup answers) := by
  have hpoint (before : List AppEvent) :
      ((Running.started settings answers app).run settings before).ReadyFollows settings ↔
        ((Running.started settings answers app).run settings before).AsAtStartup
          (reachableAtStartup answers) := by
    apply Running.readyFollows_iff settings hbackend
    have hflags := (Running.started settings answers app).run_flags settings before
    rw [hflags.1, hflags.2]
    exact lifespan_eq_ok hbackend hstart
  exact forall_congr' fun before => forall_congr' fun after => imp_congr_right fun _ =>
    hpoint before

/-! ## A start without tokens -/

/-- The settings of a DynamoDB deployment without media server. -/
def dynamoSettings : Settings :=
  { defaultSettings with mediaEnabled := false, persistenceBackend := "dynamodb" }

/-- Nothing is stored yet; everything else works. -/
def emptyStart : StartupAnswers
  | .createPersistenceResources => .ok ()
  | .createSdk => .ok ()
  | .integration .getIntegrationTokens => .ok none
  | .integration _ => .error (.authenticationError "no tokens")
  | .table (.getItem _) => .ok none
  | .table _ => .error (.clientError "ValidationException")
  | .ensureSeeded => .ok ()
  | .createMediaServer => .ok ()
  | .startMediaServer => .ok ()

/-- Tokens that Webex issues. -/
def issuedTokens : OAuthTokens :=
  ⟨"access", .str "refresh", 1209599, "bearer", ⟨2026, 6, 13, 12, 0, 0, 0, some 0⟩, .null⟩

/-- A consent that goes through. -/
def consent : IntegrationAnswers
  | .getIntegrationTokens => .ok none
  | .setIntegrationTokens _ => .ok ()
  | .arefresh _ => .ok issuedTokens
  | .aexchangeCode _ => .ok issuedTokens
  | .aensureServiceAppWebhooks _ => .ok (2 : ℕ)

theorem ready_follows_iff_consent :
    (∀ before after,
      [AppEvent.callback [("code", "abc123")] consent, .ready] = before ++ .ready :: after →
      ((Running.started dynamoSettings emptyStart ⟨false, true⟩).run dynamoSettings
        before).ReadyFollows dynamoSettings) ↔
    ∀ before after,
      [AppEvent.callback [("code", "abc123")] consent, .ready] = before ++ .ready :: after →
      ((Running.started dynamoSettings emptyStart ⟨false, true⟩).run dynamoSettings
        before).AsAtStartup (reachableAtStartup emptyStart) :=
  ready_follows_iff dynamoSettings emptyStart ⟨false, true⟩
    [.callback [("code", "abc123")] consent, .ready] rfl rfl

/-- The deployment mounts the callback, since its redirect URI is not local. -/
def consentSettings : AppSettings :=
  { limitedSettings with
    toSettings := dynamoSettings
    rateLimitPerMinute := none }

/-- The callback obtains the tokens and answers 200, but the app stays unready. -/
theorem unready_after_consent :
    endpointOf (fun _ => some "host.example.com") (fun _ => "/oauth/webex/callback")
        (fun pattern text => pattern == text) consentSettings (redirected 0).request =
      some .oauthCallback ∧
      (lifespan dynamoSettings).resultOf emptyStart = .ok ⟨false, true⟩ ∧
      callbackSucceeds dynamoSettings [("code", "abc123")] consent = true ∧
      ¬ ∀ before after,
        [AppEvent.callback [("code", "abc123")] consent, .ready] = before ++ .ready :: after →
        ((Running.started dynamoSettings emptyStart ⟨false, true⟩).run dynamoSettings
          before).ReadyFollows dynamoSettings := by
  refine ⟨by decide, rfl, rfl, fun h => ?_⟩
  have hready := (h [.callback [("code", "abc123")] consent] [] rfl).mpr ⟨Or.inr rfl, rfl⟩
  exact absurd hready (by decide)

end ByodsServer
