/-
# The OAuth callback

The handler of the OAuth redirect: the checks of the query, the exchange of the
code, the storing of the tokens and the registration of webhooks, each with the
exceptions it turns into a page. The three steps are calls, so that each of them
can have any outcome; `OauthStep.program` says what they are in the app.

`TruthfulPage` is what a caller may expect of the page. The handler meets it
exactly when the steps it reaches raise only what it catches around them, and no
empty `error` parameter is passed over.
-/

import ByodsServer.Webhooks.IntegrationBootstrap

namespace ByodsServer

open Effects Python

/-- An HTML page with its status. -/
structure HtmlResponse where
  content : String
  statusCode : ℕ
  deriving DecidableEq, Repr

/-- `_html_success`. -/
def htmlSuccess : HtmlResponse where
  content := "<!DOCTYPE html><html><head><title>Authorization successful</title></head>" ++
    "<body><h1>Integration authorized successfully</h1>" ++
    "<p>You may close this window. Service app webhooks will be verified shortly.</p>" ++
    "</body></html>"
  statusCode := 200

/-- `message.replace("<", "&lt;").replace(">", "&gt;")`. -/
def escapeAngles (message : String) : String :=
  String.ofList (message.toList.flatMap fun c =>
    if c = '<' then "&lt;".toList else if c = '>' then "&gt;".toList else [c])

/-- `_html_failure`. -/
def htmlFailure (message : String) (statusCode : ℕ := 400) : HtmlResponse where
  content := "<!DOCTYPE html><html><head><title>Authorization failed</title></head>" ++
    "<body><h1>Integration authorization failed</h1>" ++
    "<p>" ++ escapeAngles message ++ "</p>" ++
    "<p>Check server logs for request correlation ID, then retry OAuth.</p>" ++
    "</body></html>"
  statusCode := statusCode

/-- The parameters of a query, in order. -/
abbrev QueryParams := List (String × String)

/-- `request.query_params.get(name)`: the last of several values. -/
def QueryParams.get? (query : QueryParams) (name : String) : Option String :=
  query.reverse.lookup name

/-- The module's globals; the SDK may also come from the webhook routes. -/
structure OauthDependencies where
  sdk : Bool
  routesSdk : Bool
  tokenStorage : Bool
  settings : Option Settings

/-- `set_oauth_dependencies`, as the start of the app calls it. -/
def setOauthDependencies (settings : Settings) : OauthDependencies := ⟨true, true, true, settings⟩

/-- `_sdk or get_sdk()`. -/
def OauthDependencies.getSdk (dependencies : OauthDependencies) : Except PyException Unit :=
  if dependencies.sdk ∨ dependencies.routesSdk then .ok ()
  else .error (.runtimeError "BYOVA SDK not initialized")

/-- `_get_token_storage`. -/
def OauthDependencies.getTokenStorage (dependencies : OauthDependencies) :
    Except PyException Unit :=
  if dependencies.tokenStorage then .ok ()
  else .error (.runtimeError "Token storage not initialized for OAuth callback")

/-- `_get_settings`; what `get_settings` gives is an argument. -/
def OauthDependencies.getSettings (dependencies : OauthDependencies)
    (environment : Except PyException Settings) : Except PyException Settings :=
  match dependencies.settings with
  | some settings => .ok settings
  | none => environment

/-- The three steps that the handler awaits. -/
inductive OauthStep
  | aexchangeCode (code : String)
  | setIntegrationTokens (tokens : OAuthTokens)
  | ensureServiceAppWebhooksIfConfigured (settings : Settings)

/-- What each step answers. -/
@[reducible]
def OauthStep.Reply : OauthStep → Type
  | aexchangeCode _ => OAuthTokens
  | setIntegrationTokens _ => Unit
  | ensureServiceAppWebhooksIfConfigured _ => Unit

/-- The steps as something a program can call. -/
def oauthSteps : Signature where
  Call := OauthStep
  Reply := OauthStep.Reply

/-- The handler's coroutine. -/
abbrev OauthProgram := Program oauthSteps PyException

/-- One step. -/
def takeStep (step : OauthStep) : OauthProgram step.Reply :=
  Program.await (S := oauthSteps) step

@[simp]
theorem exec_takeStep {σ : Type} (handler : Handler oauthSteps PyException σ) (step : OauthStep)
    (state : σ) : (takeStep step).exec handler state = handler step state := rfl

/-- What the steps are in the app. -/
def OauthStep.program : (step : OauthStep) → IntegrationProgram step.Reply
  | aexchangeCode code => callIntegration (.aexchangeCode code)
  | setIntegrationTokens tokens => callIntegration (.setIntegrationTokens tokens)
  | ensureServiceAppWebhooksIfConfigured settings =>
      ByodsServer.ensureServiceAppWebhooksIfConfigured settings

/-! ## The handler -/

/-- The page when the webhook step fails. -/
def webhooksNotEnsured : HtmlResponse :=
  htmlFailure ("Integration authorized and tokens saved, but webhook registration failed. " ++
    "Restart the server or run scripts/register_webhooks.py.") 502

/-- The page when the storing step fails. -/
def tokensNotSaved : HtmlResponse :=
  htmlFailure ("Tokens were issued by Webex but could not be saved. " ++
    "Retry OAuth once storage is available.") 502

/-- The page when the exchange step fails. -/
def codeNotExchanged : HtmlResponse :=
  htmlFailure "Could not exchange authorization code. It may be expired or already used."

@[simp]
theorem htmlSuccess_statusCode : htmlSuccess.statusCode = 200 := rfl

@[simp]
theorem webhooksNotEnsured_statusCode : webhooksNotEnsured.statusCode = 502 := rfl

@[simp]
theorem tokensNotSaved_statusCode : tokensNotSaved.statusCode = 502 := rfl

@[simp]
theorem codeNotExchanged_statusCode : codeNotExchanged.statusCode = 400 := rfl

/-- `except AuthenticationError: return page`. -/
def exceptAuthenticationError (page : HtmlResponse) (e : PyException) :
    OauthProgram HtmlResponse :=
  if e.isAuthenticationError then return page else throw e

/-- The webhook step, where `AuthenticationError` is caught. -/
def ensureWebhooks (settings : Settings) : OauthProgram HtmlResponse :=
  (takeStep (.ensureServiceAppWebhooksIfConfigured settings)).resume fun outcome =>
    match outcome with
    | .ok _ => return htmlSuccess
    | .error e => exceptAuthenticationError webhooksNotEnsured e

/-- The storing step, where every exception is caught. -/
def persistTokens (settings : Settings) (tokens : OAuthTokens) : OauthProgram HtmlResponse :=
  (takeStep (.setIntegrationTokens tokens)).resume fun outcome =>
    match outcome with
    | .ok _ => ensureWebhooks settings
    | .error _ => return tokensNotSaved

/-- The exchange step, where `AuthenticationError` is caught. -/
def exchangeCode (settings : Settings) (code : String) : OauthProgram HtmlResponse :=
  (takeStep (.aexchangeCode code)).resume fun outcome =>
    match outcome with
    | .ok tokens => persistTokens settings tokens
    | .error e => exceptAuthenticationError codeNotExchanged e

/-- `handle_oauth_callback`. -/
def handleOauthCallback (dependencies : OauthDependencies)
    (environment : Except PyException Settings) (query : QueryParams) :
    OauthProgram HtmlResponse :=
  let error := textOrEmpty (query.get? "error")
  let code := textOrEmpty (query.get? "code")
  if error ≠ "" then
    let description := textOrEmpty (textOr (query.get? "error_description") (some error))
    return htmlFailure ("Webex reported: " ++ description)
  else if code = "" then
    return htmlFailure "Missing authorization code. Restart OAuth from the developer portal."
  else do
    Program.ofExcept dependencies.getSdk
    Program.ofExcept dependencies.getTokenStorage
    let settings ← Program.ofExcept (dependencies.getSettings environment)
    if (query.get? "state").any fun state => strip state = "" then
      return htmlFailure "Invalid OAuth state parameter."
    else exchangeCode settings code

/-- The query passes every check and the handler goes on to exchange the code. -/
structure PassesChecks (query : QueryParams) (code : String) : Prop where
  no_error : textOrEmpty (query.get? "error") = ""
  code_given : query.get? "code" = some code
  code_ne_empty : code ≠ ""
  state_not_blank : ∀ state, query.get? "state" = some state → strip state ≠ ""

/-- With its dependencies in place, the handler refuses the query with a page or
exchanges the code. -/
theorem handleOauthCallback_cases (settings : Settings)
    (environment : Except PyException Settings) (query : QueryParams) :
    (∃ code, PassesChecks query code ∧
      handleOauthCallback (setOauthDependencies settings) environment query =
        exchangeCode settings code) ∨
    (∀ code, ¬ PassesChecks query code) ∧ ∃ page, page.statusCode = 400 ∧
      handleOauthCallback (setOauthDependencies settings) environment query = return page := by
  unfold handleOauthCallback
  by_cases herror : textOrEmpty (query.get? "error") = ""
  · rw [if_neg (not_not.mpr herror)]
    by_cases hcode : textOrEmpty (query.get? "code") = ""
    · rw [if_pos hcode]
      refine Or.inr ⟨fun code hpasses => ?_, _, rfl, rfl⟩
      rw [hpasses.code_given] at hcode
      exact hpasses.code_ne_empty hcode
    · rw [if_neg hcode]
      simp only [OauthDependencies.getSdk, OauthDependencies.getTokenStorage,
        OauthDependencies.getSettings, setOauthDependencies, Program.ofExcept_eq]
      by_cases hstate : ((query.get? "state").any fun state => strip state = "") = true
      · refine Or.inr
          ⟨fun code hpasses => ?_, htmlFailure "Invalid OAuth state parameter.", rfl, ?_⟩
        · obtain ⟨state, hget, hblank⟩ := (Option.any_eq_true ..).mp hstate
          exact hpasses.state_not_blank state hget (of_decide_eq_true hblank)
        · simp [hstate]
      · obtain ⟨code, hget⟩ : ∃ code, query.get? "code" = some code := by
          cases hget : query.get? "code" with
          | none => simp [hget, textOrEmpty] at hcode
          | some code => exact ⟨code, rfl⟩
        have hne : code ≠ "" := by
          simpa [hget, textOrEmpty] using hcode
        refine Or.inl ⟨code, ⟨herror, hget, hne, fun state hgiven hblank => hstate ?_⟩, ?_⟩
        · simp [hgiven, hblank]
        · simp [hstate, hget, textOrEmpty]
  · rw [if_pos herror]
    exact Or.inr ⟨fun code hpasses => herror hpasses.no_error, _, rfl, rfl⟩

/-! ## Every outcome of the steps -/

/-- How the steps come out. -/
structure StepOutcomes where
  exchange : Except PyException OAuthTokens
  persist : Except PyException Unit
  ensure : Except PyException Unit

/-- A step that was taken, with its outcome. -/
inductive TakenStep
  | exchanged (code : String) (outcome : Except PyException OAuthTokens)
  | persisted (tokens : OAuthTokens) (outcome : Except PyException Unit)
  | ensured (settings : Settings) (outcome : Except PyException Unit)

/-- The steps with these outcomes. The state holds the stored integration tokens,
which only a storing step that succeeds changes, and the steps taken so far. -/
def StepOutcomes.handler (outcomes : StepOutcomes) :
    Handler oauthSteps PyException (Option OAuthTokens × List TakenStep)
  | .aexchangeCode code, (stored, log) =>
      (outcomes.exchange, stored, log ++ [.exchanged code outcomes.exchange])
  | .setIntegrationTokens tokens, (stored, log) =>
      (outcomes.persist, if outcomes.persist.isOk then some tokens else stored,
        log ++ [.persisted tokens outcomes.persist])
  | .ensureServiceAppWebhooksIfConfigured settings, (stored, log) =>
      (outcomes.ensure, stored, log ++ [.ensured settings outcomes.ensure])

/-- The page tells the truth about the steps that were taken, and they were
taken only as they should be. -/
structure TruthfulPage (query : QueryParams) (stored after : Option OAuthTokens)
    (log : List TakenStep) (page : HtmlResponse) : Prop where
  success_iff : page.statusCode = 200 ↔
    (∃ code tokens, TakenStep.exchanged code (.ok tokens) ∈ log) ∧
    (∃ tokens, TakenStep.persisted tokens (.ok ()) ∈ log) ∧
    ∃ settings, TakenStep.ensured settings (.ok ()) ∈ log
  exchanged : ∀ code outcome, TakenStep.exchanged code outcome ∈ log →
    query.get? "error" = none ∧ PassesChecks query code
  persisted : ∀ tokens outcome, TakenStep.persisted tokens outcome ∈ log →
    ∃ code, TakenStep.exchanged code (.ok tokens) ∈ log
  before_persisting : (∀ tokens, TakenStep.persisted tokens (.ok ()) ∉ log) →
    after = stored ∧ (page.statusCode = 400 ∨ page.statusCode = 502)
  after_persisting : ∀ tokens, TakenStep.persisted tokens (.ok ()) ∈ log →
    after = some tokens ∧ (page.statusCode = 200 ∨ page.statusCode = 502)

/-- The handler's run: its result, the tokens it leaves and the steps it took. -/
def callbackRun (settings : Settings) (environment : Except PyException Settings)
    (query : QueryParams) (outcomes : StepOutcomes) (stored : Option OAuthTokens) :
    Except PyException HtmlResponse × Option OAuthTokens × List TakenStep :=
  (handleOauthCallback (setOauthDependencies settings) environment query).exec
    outcomes.handler (stored, [])

/-- The handler answers with a truthful page. -/
def EndsTruthfully (query : QueryParams) (stored : Option OAuthTokens)
    (run : Except PyException HtmlResponse × Option OAuthTokens × List TakenStep) : Prop :=
  ∃ page, run.1 = .ok page ∧ TruthfulPage query stored run.2.1 run.2.2 page

/-- The outcome is no exception other than `AuthenticationError`. -/
def OnlyAuthenticationError {α : Type} (outcome : Except PyException α) : Prop :=
  ∀ e, outcome = .error e → e.isAuthenticationError = true

/-- When the query passes the checks, it has no `error` parameter at all, and
the exchange and the webhook step, if it is reached, raise only what is caught
around them. -/
structure StepsGuarded (query : QueryParams) (outcomes : StepOutcomes) : Prop where
  no_error : ∀ code, PassesChecks query code → query.get? "error" = none
  exchange : ∀ code, PassesChecks query code → OnlyAuthenticationError outcomes.exchange
  ensure : ∀ code tokens, PassesChecks query code → outcomes.exchange = .ok tokens →
    outcomes.persist = .ok () → OnlyAuthenticationError outcomes.ensure

section Run

variable (settings : Settings) (environment : Except PyException Settings)
  {query : QueryParams} {code : String} (stored : Option OAuthTokens)

/-- A refused query takes no step. -/
theorem callbackRun_refused (hrefused : ∀ code, ¬ PassesChecks query code)
    (outcomes : StepOutcomes) :
    ∃ page, page.statusCode = 400 ∧
      callbackRun settings environment query outcomes stored = (.ok page, stored, []) := by
  rcases handleOauthCallback_cases settings environment query with
    ⟨code, hpasses, -⟩ | ⟨-, page, hstatus, hpage⟩
  · exact (hrefused code hpasses).elim
  · refine ⟨page, hstatus, ?_⟩
    rw [callbackRun, hpage]
    rfl

theorem callbackRun_passed (hpasses : PassesChecks query code) (outcomes : StepOutcomes) :
    callbackRun settings environment query outcomes stored =
      (exchangeCode settings code).exec outcomes.handler (stored, []) := by
  rcases handleOauthCallback_cases settings environment query with
    ⟨other, hother, hcode⟩ | ⟨hrefused, -⟩
  · have hsame : other = code := Option.some.inj (hother.code_given.symm.trans hpasses.code_given)
    rw [callbackRun, hcode, hsame]
  · exact (hrefused code hpasses).elim

/-- An exception around which `AuthenticationError` is caught. -/
theorem exec_exceptAuthenticationError {σ : Type} (handler : Handler oauthSteps PyException σ)
    (page : HtmlResponse) (e : PyException) (state : σ) :
    (exceptAuthenticationError page e).exec handler state =
      (if e.isAuthenticationError then .ok page else .error e, state) := by
  rw [exceptAuthenticationError]
  split_ifs <;> rfl

theorem exec_exchangeCode_error {outcomes : StepOutcomes} {e : PyException}
    (hexchange : outcomes.exchange = .error e) :
    (exchangeCode settings code).exec outcomes.handler (stored, []) =
      (if e.isAuthenticationError then .ok codeNotExchanged else .error e, stored,
        [.exchanged code (.error e)]) := by
  rw [exchangeCode, Program.exec_resume, exec_takeStep]
  simp [StepOutcomes.handler, hexchange, exec_exceptAuthenticationError]

theorem exec_exchangeCode_persist_error {outcomes : StepOutcomes} {tokens : OAuthTokens}
    {e : PyException} (hexchange : outcomes.exchange = .ok tokens)
    (hpersist : outcomes.persist = .error e) :
    (exchangeCode settings code).exec outcomes.handler (stored, []) =
      (.ok tokensNotSaved, stored,
        [.exchanged code (.ok tokens), .persisted tokens (.error e)]) := by
  rw [exchangeCode, Program.exec_resume, exec_takeStep]
  simp only [StepOutcomes.handler, hexchange, persistTokens]
  rw [Program.exec_resume, exec_takeStep]
  simp [StepOutcomes.handler, hpersist, Except.isOk, Except.toBool]

theorem exec_exchangeCode_persisted {outcomes : StepOutcomes} {tokens : OAuthTokens}
    (hexchange : outcomes.exchange = .ok tokens) (hpersist : outcomes.persist = .ok ()) :
    (exchangeCode settings code).exec outcomes.handler (stored, []) =
      (match outcomes.ensure with
        | .ok _ => .ok htmlSuccess
        | .error e => if e.isAuthenticationError then .ok webhooksNotEnsured else .error e,
        some tokens,
        [.exchanged code (.ok tokens), .persisted tokens (.ok ()),
          .ensured settings outcomes.ensure]) := by
  rw [exchangeCode, Program.exec_resume, exec_takeStep]
  simp only [StepOutcomes.handler, hexchange, persistTokens]
  rw [Program.exec_resume, exec_takeStep]
  simp only [StepOutcomes.handler, hpersist, ensureWebhooks]
  rw [Program.exec_resume, exec_takeStep]
  simp only [StepOutcomes.handler]
  cases outcomes.ensure with
  | ok done => rfl
  | error e => simp [exec_exceptAuthenticationError, Except.isOk, Except.toBool]

theorem truthful_refused (hrefused : ∀ code, ¬ PassesChecks query code)
    (outcomes : StepOutcomes) :
    EndsTruthfully query stored (callbackRun settings environment query outcomes stored) := by
  obtain ⟨page, hstatus, hrun⟩ :=
    callbackRun_refused settings environment stored hrefused outcomes
  rw [hrun]
  refine ⟨page, rfl, ?_⟩
  constructor <;> simp [hstatus]

theorem truthful_exchange_error (hpasses : PassesChecks query code)
    (herror : query.get? "error" = none) {outcomes : StepOutcomes} {e : PyException}
    (hexchange : outcomes.exchange = .error e) (he : e.isAuthenticationError = true) :
    EndsTruthfully query stored (callbackRun settings environment query outcomes stored) := by
  rw [callbackRun_passed settings environment stored hpasses,
    exec_exchangeCode_error settings stored hexchange, if_pos he]
  refine ⟨codeNotExchanged, rfl, ?_⟩
  constructor
  · simp
  · simp [herror, hpasses]
  · simp
  · simp
  · simp

theorem truthful_persist_error (hpasses : PassesChecks query code)
    (herror : query.get? "error" = none) {outcomes : StepOutcomes} {tokens : OAuthTokens}
    {e : PyException} (hexchange : outcomes.exchange = .ok tokens)
    (hpersist : outcomes.persist = .error e) :
    EndsTruthfully query stored (callbackRun settings environment query outcomes stored) := by
  rw [callbackRun_passed settings environment stored hpasses,
    exec_exchangeCode_persist_error settings stored hexchange hpersist]
  refine ⟨tokensNotSaved, rfl, ?_⟩
  constructor
  · simp
  · simp [herror, hpasses]
  · simp
  · simp
  · simp

theorem truthful_persisted (hpasses : PassesChecks query code)
    (herror : query.get? "error" = none) {outcomes : StepOutcomes} {tokens : OAuthTokens}
    (hexchange : outcomes.exchange = .ok tokens) (hpersist : outcomes.persist = .ok ())
    (hensure : OnlyAuthenticationError outcomes.ensure) :
    EndsTruthfully query stored (callbackRun settings environment query outcomes stored) := by
  rw [callbackRun_passed settings environment stored hpasses,
    exec_exchangeCode_persisted settings stored hexchange hpersist]
  cases houtcome : outcomes.ensure with
  | ok done =>
      refine ⟨htmlSuccess, rfl, ?_⟩
      constructor
      · simp
      · simp [herror, hpasses]
      · simp
      · simp
      · simp
  | error e =>
      refine ⟨webhooksNotEnsured, if_pos (hensure e houtcome), ?_⟩
      constructor
      · simp
      · simp [herror, hpasses]
      · simp
      · simp
      · simp

/-- A query that passes the checks has its code exchanged. -/
theorem exchanged_of_passed (hpasses : PassesChecks query code) (outcomes : StepOutcomes) :
    ∃ outcome, TakenStep.exchanged code outcome ∈
      (callbackRun settings environment query outcomes stored).2.2 := by
  rw [callbackRun_passed settings environment stored hpasses]
  cases hexchange : outcomes.exchange with
  | error e =>
      rw [exec_exchangeCode_error settings stored hexchange]
      exact ⟨_, List.mem_cons_self⟩
  | ok tokens =>
      cases hpersist : outcomes.persist with
      | error e =>
          rw [exec_exchangeCode_persist_error settings stored hexchange hpersist]
          exact ⟨_, List.mem_cons_self⟩
      | ok done =>
          rw [exec_exchangeCode_persisted settings stored hexchange hpersist]
          exact ⟨_, List.mem_cons_self⟩

theorem stepsGuarded_of_endsTruthfully {outcomes : StepOutcomes}
    (h : EndsTruthfully query stored (callbackRun settings environment query outcomes stored)) :
    StepsGuarded query outcomes := by
  obtain ⟨page, hpage, htruthful⟩ := h
  constructor
  · intro code hpasses
    obtain ⟨outcome, hexchanged⟩ :=
      exchanged_of_passed settings environment stored hpasses outcomes
    exact (htruthful.exchanged code outcome hexchanged).1
  · intro code hpasses e hexchange
    rw [callbackRun_passed settings environment stored hpasses,
      exec_exchangeCode_error settings stored hexchange] at hpage
    by_contra he
    rw [if_neg he] at hpage
    cases hpage
  · intro code tokens hpasses hexchange hpersist e hensure
    rw [callbackRun_passed settings environment stored hpasses,
      exec_exchangeCode_persisted settings stored hexchange hpersist, hensure] at hpage
    by_contra he
    simp only [if_neg he] at hpage
    cases hpage

theorem endsTruthfully_of_stepsGuarded {outcomes : StepOutcomes}
    (h : StepsGuarded query outcomes) :
    EndsTruthfully query stored (callbackRun settings environment query outcomes stored) := by
  by_cases hpasses : ∃ code, PassesChecks query code
  · obtain ⟨code, hpasses⟩ := hpasses
    have herror := h.no_error code hpasses
    cases hexchange : outcomes.exchange with
    | error e =>
        exact truthful_exchange_error settings environment stored hpasses herror hexchange
          (h.exchange code hpasses e hexchange)
    | ok tokens =>
        cases hpersist : outcomes.persist with
        | error e =>
            exact truthful_persist_error settings environment stored hpasses herror hexchange
              hpersist
        | ok done =>
            exact truthful_persisted settings environment stored hpasses herror hexchange
              hpersist (h.ensure code tokens hpasses hexchange hpersist)
  · push Not at hpasses
    exact truthful_refused settings environment stored hpasses outcomes

end Run

/-- Whatever the query and however the steps come out, the callback ends in a
truthful page exactly when the steps it reaches are guarded. -/
theorem callbackRun_truthful_iff (settings : Settings)
    (environment : Except PyException Settings) (query : QueryParams) (outcomes : StepOutcomes)
    (stored : Option OAuthTokens) :
    EndsTruthfully query stored (callbackRun settings environment query outcomes stored) ↔
      StepsGuarded query outcomes :=
  ⟨stepsGuarded_of_endsTruthfully settings environment stored,
    endsTruthfully_of_stepsGuarded settings environment stored⟩

/-- When the token endpoint cannot be reached, the exception escapes. -/
theorem exchange_connectError_escapes :
    ¬ EndsTruthfully [("code", "abc123")] none
      (callbackRun defaultSettings (.ok defaultSettings) [("code", "abc123")]
        ⟨.error (.other "ConnectError" "All connection attempts failed"), .ok (), .ok ()⟩
          none) := by
  intro h
  obtain ⟨page, hpage, -⟩ := h
  have hescapes : (callbackRun defaultSettings (.ok defaultSettings) [("code", "abc123")]
      ⟨.error (.other "ConnectError" "All connection attempts failed"), .ok (), .ok ()⟩
        none).1 = .error (.other "ConnectError" "All connection attempts failed") := rfl
  rw [hescapes] at hpage
  cases hpage

end ByodsServer
