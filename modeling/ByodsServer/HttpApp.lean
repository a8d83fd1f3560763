/-
# The app, request by request

What `create_app` answers a request: the rate limit comes first, since its middleware is
added last; then the request gets its id; then the routes are tried, and an
`HTTPException` becomes a response. What else is raised goes through the middleware, and
the server answers in its place. Requests are handled at the same time: a schedule says
when each of them arrives and whose turn it is.

The id ties the audit trail to the responses. The trail is what is handed to the audit
repository; what the repository keeps of it is up to its answers.
-/

import ByodsServer.CreateApp
import ByodsServer.Effects.Attribution
import ByodsServer.Main
import ByodsServer.Webhooks.Delivery

namespace ByodsServer

open Effects Python

/-! ## Requests and responses -/

/-- A request with its `X-Request-ID` header, its query and its body, and what
`uuid.uuid4()` returns for it: to the middleware, and to a registration. -/
structure HttpRequest extends Request where
  requestId : Option String
  query : QueryParams
  body : ByteArray
  uuid : String
  registrationUuid : String

/-- The body of a response. -/
inductive HttpBody
  | json (content : Json)
  | html (content : String)
  | plain (content : String)

/-- What a route answers. -/
structure HttpReply where
  statusCode : ℕ
  body : HttpBody

/-- A response: the answer with its `X-Request-ID` header. -/
structure HttpResponse extends HttpReply where
  requestId : Option String

/-- `request.headers.get("X-Request-ID", str(uuid.uuid4()))`. -/
def HttpRequest.id (request : HttpRequest) : String := request.requestId.getD request.uuid

/-- An answer with a dictionary of texts. -/
def contentReply (statusCode : ℕ) (content : Content) : HttpReply :=
  ⟨statusCode, .json (.obj (content.map fun field => (field.1, .str field.2)))⟩

/-- The answer to an `HTTPException`. -/
def detailReply (statusCode : ℕ) (detail : String) : HttpReply :=
  contentReply statusCode (detailContent detail)

/-- `{"status": "ok"}`. -/
def statusOk : HttpReply := contentReply 200 [("status", "ok")]

/-- The answer, if it can be rendered. -/
def RouteLib.jsonReply (lib : RouteLib) (statusCode : ℕ) (content : Content) :
    Except PyException HttpReply :=
  (lib.jsonResponse statusCode content).map fun _ => contentReply statusCode content

/-- The answer to a callback. -/
def HtmlResponse.reply (response : HtmlResponse) : HttpReply :=
  ⟨response.statusCode, .html response.content⟩

/-! ## The app -/

/-- The calls of the routes. -/
inductive AppCall
  | webhook (request : WebhookCall)
  | oauth (step : OauthStep)

/-- What each call answers. -/
@[reducible]
def AppCall.Reply : AppCall → Type
  | webhook request => request.Reply
  | oauth step => step.Reply

/-- The calls as something a program can call. -/
def appCalls : Signature where
  Call := AppCall
  Reply := AppCall.Reply

/-- The coroutine that answers a request. -/
abbrev AppProgram := Program appCalls PyException

/-- A webhook as the app handles it. -/
def liftWebhook {α : Type} (p : WebhookProgram α) : AppProgram α :=
  p.translate fun request => Program.await (S := appCalls) (.webhook request)

/-- A callback as the app handles it. -/
def liftOauth {α : Type} (p : OauthProgram α) : AppProgram α :=
  p.translate fun step => Program.await (S := appCalls) (.oauth step)

/-- The running app: the settings it was created with, the flags of its start, the
libraries, and what the framework answers itself. -/
structure App where
  settings : AppSettings
  state : AppState
  lib : RouteLib
  hostname : String → Option String
  path : String → String
  pathMatches : String → String → Bool
  documentation : HttpRequest → HttpReply
  unrouted : HttpRequest → HttpReply

namespace App

variable (app : App)

/-- The route of a request. -/
def endpoint (request : HttpRequest) : Option Endpoint :=
  endpointOf app.hostname app.path app.pathMatches app.settings request.toRequest

/-- What the routes answer. The lifespan has set the SDK, the token storage and the audit
repository. -/
def answer (request : HttpRequest) (requestId : String) : AppProgram HttpReply :=
  match app.endpoint request with
  | some .health => return statusOk
  | some .ready => do
      Program.ofExcept (ready app.settings.toSettings app.state)
      return statusOk
  | some .webexWebhook => do
      let response ← liftWebhook (webexWebhook app.lib ⟨true, true⟩ app.settings.toSettings
        request.registrationUuid (some requestId) request.body)
      Program.ofExcept (app.lib.jsonReply 200 response.content)
  | some .oauthCallback => do
      let response ← liftOauth (handleOauthCallback (setOauthDependencies app.settings.toSettings)
        (.ok app.settings.toSettings) request.query)
      return response.reply
  | some .documentation => return app.documentation request
  | none => return app.unrouted request

/-- An `HTTPException` is answered with its status and its detail. -/
def exceptHttpException (p : AppProgram HttpReply) : AppProgram HttpReply :=
  tryCatch p fun e =>
    match e with
    | .httpException statusCode detail =>
        Program.ofExcept (app.lib.jsonReply statusCode (detailContent detail))
    | e => throw e

/-- `RequestIdMiddleware.dispatch`. -/
def withRequestId (request : HttpRequest) (callNext : String → AppProgram HttpReply) :
    AppProgram HttpResponse := do
  let reply ← callNext request.id
  return ⟨reply, some request.id⟩

/-- A request that the rate limit passes on. -/
def handle (request : HttpRequest) : AppProgram HttpResponse :=
  withRequestId request fun requestId => app.exceptHttpException (app.answer request requestId)

end App

/-- What is raised through the middleware is answered by the server. -/
def serverReply : Except PyException HttpResponse → HttpResponse
  | .ok response => response
  | .error _ => ⟨⟨500, .plain "Internal Server Error"⟩, none⟩

/-! ## Serving -/

/-- What is audited about a call. -/
def AppCall.recordedEvent? : AppCall → Option AuditEvent
  | webhook request => request.recordedEvent?
  | oauth _ => none

theorem AppCall.eq_of_recordedEvent? {call : AppCall} {event : AuditEvent}
    (h : call.recordedEvent? = some event) : call = .webhook (.recordEvent event) := by
  cases call with
  | oauth step => cases h
  | webhook request =>
      cases request with
      | recordEvent recorded => exact congrArg _ (congrArg _ (Option.some.inj h))
      | _ => cases h

/-- What happens while the app serves: a request arrives, at a time that the rate limit
reads off the clock, or one that was passed on makes its next call. -/
inductive HttpEvent (ι : Type)
  | arrives (who : ι) (now : ℚ)
  | turn (who : ι)

/-- The app serving: the hits, what the rate limit decided about each request, and the
requests that are being handled, with the events that were audited so far. -/
structure Serving (ι σ : Type) where
  hits : Hits
  decided : ι → Option Outcome
  pool : LoggedPool appCalls PyException HttpResponse ι (σ × List AuditEvent)

namespace Serving

variable {ι σ : Type}

/-- Before the first request. -/
def start (app : App) (requests : ι → HttpRequest) (state : σ) : Serving ι σ where
  hits _ := []
  decided _ := none
  pool :=
    { state := (state, [])
      programs := fun who => app.handle (requests who)
      histories := fun _ => [] }

/-- The events handed to the audit repository, in their order. -/
def auditTrail (serving : Serving ι σ) : List AuditEvent := serving.pool.state.2

/-- The events of a request that the audit repository confirmed as recorded: those whose
call it answered. -/
def recorded (serving : Serving ι σ) (who : ι) : List AuditEvent :=
  answeredNotes (S := appCalls) AppCall.recordedEvent? (serving.pool.histories who)

/-- The response to a request, once there is one. -/
def response (serving : Serving ι σ) (who : ι) : Option HttpResponse :=
  match serving.decided who with
  | none => none
  | some (.answered statusCode detail) => some ⟨detailReply statusCode detail, none⟩
  | some .passedOn =>
      match serving.pool.programs who with
      | .finish result => some (serverReply result)
      | .call _ _ => none

variable [DecidableEq ι] (app : App) (requests : ι → HttpRequest)
  (handler : Handler appCalls PyException σ)

/-- One event. -/
def step (serving : Serving ι σ) : HttpEvent ι → Serving ι σ
  | .arrives who now =>
      match serving.decided who with
      | some _ => serving
      | none =>
          let (outcome, hits) := handleRequest app.settings.rateLimitPerMinute
            (requests who).toRequest now serving.hits
          { serving with
            hits := hits
            decided := Function.update serving.decided who (some outcome) }
  | .turn who =>
      match serving.decided who with
      | some .passedOn =>
          { serving with
            pool := serving.pool.turn (handler.noting AppCall.recordedEvent?) who }
      | _ => serving

/-- The app after a sequence of events. -/
def run (state : σ) (events : List (HttpEvent ι)) : Serving ι σ :=
  runEvents (step app requests handler) (start app requests state) events

end Serving

/-! ## What a delivery records -/

/-- An `HTTPException`. -/
def PyException.IsHttp (e : PyException) : Prop :=
  ∃ statusCode detail, e = .httpException statusCode detail

/-- What the SDK answers, or raises, when it is given a payload. -/
abbrev SdkAnswers := Json → Except PyException ServiceAppWebhookResult → Prop

/-- How the outcome of a delivery goes with its body, with what the SDK answered and with
the events that were handed to the audit repository. -/
inductive Audited (lib : RouteLib) (body : ByteArray) (requestId : String) (sdk : SdkAnswers) :
    Except PyException WebhookResponse → List AuditEvent → Prop
  | authorized {payload : Json} (orgId : String) (hpayload : lib.loads body = .ok payload)
      (hsdk : sdk payload (.ok ⟨orgId, "authorized"⟩)) :
      Audited lib body requestId sdk (.ok ⟨"ok", orgId, "authorized"⟩)
        [⟨orgId, .authorized, .success, some requestId, none⟩]
  | deauthorized {payload : Json} (orgId : String) (hpayload : lib.loads body = .ok payload)
      (hsdk : sdk payload (.ok ⟨orgId, "deauthorized"⟩)) :
      Audited lib body requestId sdk (.ok ⟨"ok", orgId, "deauthorized"⟩)
        [⟨orgId, .deauthorized, .success, some requestId, none⟩]
  | unaudited {payload : Json} (orgId event : String) (hpayload : lib.loads body = .ok payload)
      (hsdk : sdk payload (.ok ⟨orgId, event⟩))
      (h : event ≠ "authorized" ∧ event ≠ "deauthorized") :
      Audited lib body requestId sdk (.ok ⟨"ok", orgId, event⟩) []
  | rejected {payload : Json} {orgId : String} {e : PyException} {statusCode : ℕ}
      {detail : String} (hpayload : lib.loads body = .ok payload)
      (horg : payloadOrgId lib.repr payload = .ok orgId) (hsdk : sdk payload (.error e))
      (h : e.rejection? = some (statusCode, detail)) :
      Audited lib body requestId sdk (.error (.httpException statusCode detail))
        [⟨orgId, .processingFailure, .failure, some requestId, some e.message⟩]
  | escaped {e : PyException} (h : (∃ payload, sdk payload (.error e)) ∨ ¬ e.IsHttp) :
      Audited lib body requestId sdk (.error e) []

theorem Audited.mono {lib : RouteLib} {body : ByteArray} {requestId : String}
    {first second : SdkAnswers} (himplies : ∀ payload answer, first payload answer →
      second payload answer)
    {outcome : Except PyException WebhookResponse} {events : List AuditEvent}
    (h : Audited lib body requestId first outcome events) :
    Audited lib body requestId second outcome events := by
  cases h with
  | authorized orgId hpayload hsdk => exact .authorized orgId hpayload (himplies _ _ hsdk)
  | deauthorized orgId hpayload hsdk => exact .deauthorized orgId hpayload (himplies _ _ hsdk)
  | unaudited orgId event hpayload hsdk h =>
      exact .unaudited orgId event hpayload (himplies _ _ hsdk) h
  | rejected hpayload horg hsdk h => exact .rejected hpayload horg (himplies _ _ hsdk) h
  | escaped h => exact .escaped (h.imp_left fun ⟨payload, hsdk⟩ => ⟨payload, himplies _ _ hsdk⟩)

section Delivery

variable {lib : RouteLib} {body : ByteArray} {payload : Json} {requestId : String}
  {answer : Except PyException ServiceAppWebhookResult}
  {history : History webhookCalls PyException}

/-- A delivery may record one event, with the id of its request. -/
abbrev MayRecord (requestId : String) : History webhookCalls PyException → WebhookCall → Prop :=
  NotesOwnOnce (S := webhookCalls) WebhookCall.recordedEvent? AuditEvent.requestId (some requestId)

/-- The events that a history of calls handed over. -/
abbrev recordedIn (history : History webhookCalls PyException) : List AuditEvent :=
  noted (S := webhookCalls) WebhookCall.recordedEvent? history

/-- What the SDK answered in a history of calls. -/
def sdkAnswersIn (history : History webhookCalls PyException) : SdkAnswers :=
  fun payload answer => (⟨.ahandleServiceAppWebhook payload, answer⟩ :
    Answered webhookCalls PyException) ∈ history

/-- A delivery ends with the events that go with its outcome. -/
abbrev EndsAudited (lib : RouteLib) (body : ByteArray) (requestId : String) :
    History webhookCalls PyException → Except PyException WebhookResponse → Prop :=
  fun history outcome =>
    Audited lib body requestId (sdkAnswersIn history) outcome (recordedIn history)

/-- The SDK has answered, and no event was handed over. -/
def Classified (payload : Json) (answer : Except PyException ServiceAppWebhookResult)
    (history : History webhookCalls PyException) : Prop :=
  recordedIn history = [] ∧ sdkAnswersIn history payload answer

theorem recordAudit_follows {event : AuditEvent} (hevent : event.requestId = some requestId)
    (h : Classified payload answer history) :
    (recordAudit ⟨true, true⟩ event).Follows (MayRecord requestId)
      (fun history result => result = .ok () ∧ recordedIn history = [event] ∧
        sdkAnswersIn history payload answer) history := by
  have hrecorded (reply : Except PyException Unit) :
      recordedIn (⟨.recordEvent event, reply⟩ :: history) = [event] :=
    congrArg (event :: ·) h.1
  refine ⟨?_, fun reply => ?_⟩
  · rintro _ ⟨⟩
    exact ⟨hevent, h.1⟩
  · cases reply with
    | ok value => exact ⟨rfl, hrecorded _, List.mem_cons_of_mem _ h.2⟩
    | error e => exact ⟨rfl, hrecorded _, List.mem_cons_of_mem _ h.2⟩

/-- A registration raises no `HTTPException`, and records nothing. -/
theorem registerDatasourceForOrg_follows (lib : RouteLib) (settings : Settings)
    (uuid orgId : String) (h : Classified payload answer history) :
    (liftByods (registerDatasourceForOrg lib.repr lib.toUrlLib settings uuid orgId)).Follows
      (MayRecord requestId)
      (fun history result => Classified payload answer history ∧
        ∀ e, result = .error e → ¬ e.IsHttp) history := by
  have hresult : (registerDatasourceForOrg lib.repr lib.toUrlLib settings uuid orgId).Follows
      (fun _ _ => True) (fun _ result => ∀ e, result = .error e → ¬ e.IsHttp) [] := by
    rw [registerDatasourceForOrg]
    split_ifs
    · rintro _ ⟨⟩
    · cases hurl : settings.buildDatasourceUrl lib.toUrlLib with
      | error e =>
          rintro _ ⟨⟩ ⟨statusCode, detail, rfl⟩
          rw [Settings.buildDatasourceUrl] at hurl
          split_ifs at hurl
          cases hparse : urlparse lib.toUrlLib settings.datasourceBase with
          | error message =>
              rw [hparse] at hurl
              cases hurl
          | ok parsed =>
              rw [hparse] at hurl
              dsimp only at hurl
              split_ifs at hurl
      | ok url =>
          rw [Program.ofExcept_eq, Program.finish_bind]
          split_ifs
          · rintro _ ⟨⟩
          · rw [Program.tryCatch_eq]
            refine (Program.follows_anything _ _).resume fun history result _ => ?_
            cases result with
            | ok value => rintro _ ⟨⟩
            | error e => cases e <;> rintro _ ⟨⟩
  refine (hresult.translate (T := webhookCalls) (R := fun _ => Classified payload answer)
    (f := fun request => callWebhook (.byods request)) ?_ h).mono ?_
  · refine fun request _ other _ hother => ⟨?_, fun reply => ⟨?_, ?_⟩⟩
    · rintro _ ⟨⟩
    · exact (List.filterMap_cons_none rfl).trans hother.1
    · exact List.mem_cons_of_mem _ hother.2
  · rintro history result ⟨_, hclassified, hraises⟩
    exact ⟨hclassified, hraises⟩

theorem acknowledge_follows (settings : Settings) (uuid : String)
    {result : ServiceAppWebhookResult} (hpayload : lib.loads body = .ok payload)
    (h : Classified payload (.ok result) history) :
    (acknowledge lib ⟨true, true⟩ settings uuid (some requestId) result).Follows
      (MayRecord requestId) (EndsAudited lib body requestId) history := by
  obtain ⟨orgId, event⟩ := result
  rw [acknowledge]
  split_ifs with hauthorized hdeauthorized
  · dsimp only at hauthorized
    subst hauthorized
    refine (registerDatasourceForOrg_follows lib settings uuid orgId h).resume ?_
    rintro history outcome ⟨h, hraises⟩
    cases outcome with
    | error e =>
        show Audited _ _ _ _ _ (recordedIn history)
        rw [h.1]
        exact .escaped (Or.inr (hraises e rfl))
    | ok value =>
        refine (recordAudit_follows rfl h).resume ?_
        rintro history _ ⟨rfl, hrecorded, hsdk⟩
        show Audited _ _ _ _ _ (recordedIn history)
        rw [hrecorded]
        exact .authorized orgId hpayload hsdk
  · dsimp only at hdeauthorized
    subst hdeauthorized
    refine (recordAudit_follows rfl h).resume ?_
    rintro history _ ⟨rfl, hrecorded, hsdk⟩
    show Audited _ _ _ _ _ (recordedIn history)
    rw [hrecorded]
    exact .deauthorized orgId hpayload hsdk
  · show Audited _ _ _ _ _ (recordedIn history)
    rw [h.1]
    exact .unaudited orgId event hpayload h.2 ⟨hauthorized, hdeauthorized⟩

theorem reject_follows {orgId : String} {e : PyException} {statusCode : ℕ} {detail : String}
    (hpayload : lib.loads body = .ok payload) (horg : payloadOrgId lib.repr payload = .ok orgId)
    (hrejection : e.rejection? = some (statusCode, detail))
    (h : Classified payload (.error e) history) :
    (reject ⟨true, true⟩ (some requestId) orgId e statusCode detail).Follows (MayRecord requestId)
      (EndsAudited lib body requestId) history := by
  rw [reject]
  refine (recordAudit_follows rfl h).resume ?_
  rintro history _ ⟨rfl, hrecorded, hsdk⟩
  show Audited _ _ _ _ _ (recordedIn history)
  rw [hrecorded]
  exact .rejected hpayload horg hsdk hrejection

/-- Whatever the calls answer, a delivery hands over what goes with its outcome. -/
theorem webexWebhook_follows (lib : RouteLib) (settings : Settings) (uuid : String)
    (body : ByteArray) (hloads : ∀ e, lib.loads body = .error e → ¬ e.IsHttp) :
    (webexWebhook lib ⟨true, true⟩ settings uuid (some requestId) body).Follows
      (MayRecord requestId) (EndsAudited lib body requestId) [] := by
  rw [webexWebhook, RouteGlobals.getSdk, if_pos rfl, Program.ofExcept_eq, Program.finish_bind]
  cases hpayload : lib.loads body with
  | error e => exact Audited.escaped (Or.inr (hloads e hpayload))
  | ok payload =>
      rw [Program.ofExcept_eq, Program.finish_bind]
      cases horg : payloadOrgId lib.repr payload with
      | error e =>
          refine Audited.escaped (Or.inr ?_)
          rintro ⟨statusCode, detail, rfl⟩
          cases payload with
          | obj fields =>
              rw [payloadOrgId] at horg
              split_ifs at horg
          | _ => cases horg
      | ok orgId =>
          refine ⟨?_, fun reply => ?_⟩
          · rintro _ ⟨⟩
          · have hclassified : Classified payload reply
                [⟨.ahandleServiceAppWebhook payload, reply⟩] :=
              ⟨rfl, List.mem_singleton_self _⟩
            cases reply with
            | ok result => exact acknowledge_follows settings uuid hpayload hclassified
            | error e =>
                cases e with
                | validationError message => exact reject_follows hpayload horg rfl hclassified
                | authenticationError message =>
                    exact reject_follows hpayload horg rfl hclassified
                | _ => exact Audited.escaped (Or.inl ⟨payload, hclassified.2⟩)

end Delivery

/-! ## What a request records -/

/-- The events that a history of the app's calls handed over. -/
abbrev auditedIn (history : History appCalls PyException) : List AuditEvent :=
  noted (S := appCalls) AppCall.recordedEvent? history

/-- What the SDK answered in a history of the app's calls. -/
def sdkAnswered (history : History appCalls PyException) : SdkAnswers :=
  fun payload answer => (⟨.webhook (.ahandleServiceAppWebhook payload), answer⟩ :
    Answered appCalls PyException) ∈ history

/-- A request may record one event, with its id. -/
abbrev MayAudit (requestId : String) : History appCalls PyException → AppCall → Prop :=
  NotesOwnOnce (S := appCalls) AppCall.recordedEvent? AuditEvent.requestId (some requestId)

/-- The result of a delivery, behind the middleware: the acknowledgement, or the detail of an
`HTTPException`, is rendered. -/
def deliveryResult (lib : RouteLib) (requestId : String)
    (outcome : Except PyException WebhookResponse) : Except PyException HttpResponse :=
  (match outcome with
  | .ok response => lib.jsonReply 200 response.content
  | .error (.httpException statusCode detail) => lib.jsonReply statusCode (detailContent detail)
  | .error e => .error e).map fun reply => ⟨reply, some requestId⟩

/-- Rendering raises no `HTTPException`. -/
theorem RouteLib.jsonReply_raises {lib : RouteLib} {statusCode : ℕ} {content : Content}
    {e : PyException} (h : lib.jsonReply statusCode content = .error e) : ¬ e.IsHttp := by
  rw [RouteLib.jsonReply, RouteLib.jsonResponse] at h
  cases hrender : lib.render content with
  | ok body =>
      rw [hrender] at h
      cases h
  | error message =>
      rw [hrender] at h
      cases h
      rintro ⟨statusCode, detail, hhttp⟩
      cases hhttp

namespace App

variable (app : App) (request : HttpRequest)

/-- What a request leaves: a delivery has handed over what goes with its outcome, all others
nothing; and a response has the request's id. -/
def Leaves (history : History appCalls PyException) (result : Except PyException HttpResponse) :
    Prop :=
  (app.endpoint request = some .webexWebhook ∧ ∃ outcome,
    Audited app.lib request.body request.id (sdkAnswered history) outcome (auditedIn history) ∧
      result = deliveryResult app.lib request.id outcome) ∨
  (app.endpoint request ≠ some .webexWebhook ∧ auditedIn history = [] ∧
    ∀ response, result = .ok response → response.requestId = some request.id)

theorem liftWebhook_follows (hloads : ∀ e, app.lib.loads request.body = .error e → ¬ e.IsHttp) :
    (liftWebhook (webexWebhook app.lib ⟨true, true⟩ app.settings.toSettings
      request.registrationUuid (some request.id) request.body)).Follows (MayAudit request.id)
      (fun history outcome => Audited app.lib request.body request.id (sdkAnswered history)
        outcome (auditedIn history)) [] := by
  refine ((webexWebhook_follows app.lib app.settings.toSettings request.registrationUuid
    request.body hloads).translate (T := appCalls) (f := fun request =>
      Program.await (S := appCalls) (.webhook request))
    (R := fun history other => recordedIn history = auditedIn other ∧
      ∀ payload answer, sdkAnswersIn history payload answer → sdkAnswered other payload answer)
    ?_ ⟨rfl, ?_⟩).mono ?_
  · rintro call history other hallowed ⟨hrecorded, hsdk⟩
    refine ⟨fun event hevent => ?_, fun reply => ⟨?_, ?_⟩⟩
    · obtain ⟨hid, hnothing⟩ := hallowed event hevent
      exact ⟨hid, hrecorded.symm.trans hnothing⟩
    · calc recordedIn (⟨call, reply⟩ :: history)
          = (WebhookCall.recordedEvent? call).toList ++ recordedIn history :=
            noted_cons (S := webhookCalls) _ history call reply
        _ = (WebhookCall.recordedEvent? call).toList ++ auditedIn other := by rw [hrecorded]
        _ = auditedIn (⟨.webhook call, reply⟩ :: other) :=
            (noted_cons (S := appCalls) AppCall.recordedEvent? other (.webhook call) reply).symm
    · intro payload answer hmem
      rcases List.mem_cons.mp hmem with heq | hbefore
      · cases heq
        exact List.mem_cons_self
      · exact List.mem_cons_of_mem _ (hsdk payload answer hbefore)
  · rintro payload answer ⟨⟩
  · rintro other outcome ⟨history, ⟨hrecorded, hsdk⟩, haudited⟩
    rw [EndsAudited, hrecorded] at haudited
    exact haudited.mono hsdk

/-- Every other route records nothing. -/
theorem answer_uses (requestId : String) (hroute : app.endpoint request ≠ some .webexWebhook) :
    (app.answer request requestId).Uses fun call => AppCall.recordedEvent? call = none := by
  rw [answer]
  cases hendpoint : app.endpoint request with
  | none => trivial
  | some endpoint =>
      cases endpoint with
      | health => trivial
      | documentation => trivial
      | ready => exact Program.Uses.bind trivial fun _ => trivial
      | webexWebhook => exact (hroute hendpoint).elim
      | oauthCallback =>
          refine Program.Uses.bind (Program.uses_translate (T := appCalls) (fun step => ?_) _)
            fun _ => trivial
          exact ⟨rfl, fun _ => trivial⟩

/-- A request follows its protocol, whatever its calls are answered. -/
theorem handle_follows (hloads : ∀ e, app.lib.loads request.body = .error e → ¬ e.IsHttp) :
    (app.handle request).Follows (MayAudit request.id) (app.Leaves request) [] := by
  by_cases hroute : app.endpoint request = some .webexWebhook
  · have hanswer : (app.answer request request.id).Follows (MayAudit request.id)
        (fun history result => ∃ outcome,
          Audited app.lib request.body request.id (sdkAnswered history) outcome
            (auditedIn history) ∧
          result = outcome.bind fun response => app.lib.jsonReply 200 response.content) [] := by
      rw [answer, hroute]
      refine (app.liftWebhook_follows request hloads).resume fun history outcome haudited => ?_
      cases outcome with
      | ok response => exact ⟨_, haudited, rfl⟩
      | error e => exact ⟨_, haudited, rfl⟩
    have hcaught : (app.exceptHttpException (app.answer request request.id)).Follows
        (MayAudit request.id) (fun history result => ∃ outcome,
          Audited app.lib request.body request.id (sdkAnswered history) outcome
            (auditedIn history) ∧
          result.map (fun reply => (⟨reply, some request.id⟩ : HttpResponse)) =
            deliveryResult app.lib request.id outcome) [] := by
      apply hanswer.resume
      rintro history _ ⟨outcome, haudited, rfl⟩
      cases outcome with
      | error e => cases e <;> exact ⟨_, haudited, rfl⟩
      | ok response =>
          dsimp only [Except.bind]
          cases hreply : app.lib.jsonReply 200 response.content with
          | ok reply => exact ⟨_, haudited, by rw [deliveryResult, hreply]⟩
          | error e =>
              have hescapes := RouteLib.jsonReply_raises hreply
              cases e with
              | httpException statusCode detail => exact (hescapes ⟨statusCode, detail, rfl⟩).elim
              | _ => exact ⟨_, haudited, by rw [deliveryResult, hreply]⟩
    apply hcaught.resume
    rintro history result ⟨outcome, haudited, hresult⟩
    cases result with
    | ok reply => exact Or.inl ⟨hroute, outcome, haudited, hresult⟩
    | error e => exact Or.inl ⟨hroute, outcome, haudited, hresult⟩
  · have hcaught : (app.exceptHttpException (app.answer request request.id)).Follows
        (MayAudit request.id) (fun history _ => auditedIn history = []) [] := by
      have huses := app.answer_uses request request.id hroute
      apply (huses.notes_nothing (S := appCalls) AuditEvent.requestId (some request.id) rfl).resume
      intro history result hnothing
      cases result with
      | ok reply => exact hnothing
      | error e => cases e <;> exact hnothing
    apply hcaught.resume
    intro history result hnothing
    cases result with
    | ok reply =>
        refine Or.inr ⟨hroute, hnothing, ?_⟩
        rintro _ ⟨⟩
        rfl
    | error e =>
        refine Or.inr ⟨hroute, hnothing, ?_⟩
        rintro _ ⟨⟩

end App

/-! ## Every run -/

/-- What the rate limit answers in place of the app. -/
theorem handleRequest_answered {rateLimitPerMinute : Option ℤ} {request : Request} {now : ℚ}
    {hits : Hits} {statusCode : ℕ} {detail : String}
    (h : (handleRequest rateLimitPerMinute request now hits).1 = .answered statusCode detail) :
    detailReply statusCode detail = detailReply 429 "Rate limit exceeded" := by
  rw [handleRequest] at h
  cases hlimit : rateLimitPerMinute.filter (· ≠ 0) with
  | none =>
      rw [hlimit] at h
      cases h
  | some limit =>
      rw [hlimit] at h
      dsimp only at h
      cases hpost : request.isWebhookPost with
      | false =>
          rw [dispatch_of_not_webhook limit hpost] at h
          cases h
      | true =>
          rcases lt_or_ge ((recent 60 now (hits request.clientHost)).length : ℤ) limit
            with hroom | hfull
          · rw [dispatch_of_room limit hpost now hits hroom] at h
            cases h
          · rw [dispatch_of_full limit hpost now hits hfull] at h
            cases h
            rfl

namespace Serving

variable {ι σ : Type} [DecidableEq ι] (app : App) (requests : ι → HttpRequest)
  (handler : Handler appCalls PyException σ)

/-- Every request follows its protocol; the audit trail keeps the requests apart; and what
was not passed on has made no call. -/
structure Consistent (serving : Serving ι σ) : Prop where
  follows : serving.pool.EachFollows (fun who => MayAudit (requests who).id)
    fun who => app.Leaves (requests who)
  attributed : serving.pool.Attributed (S := appCalls) AppCall.recordedEvent? AuditEvent.requestId
    fun who => some (requests who).id
  answeredBy : serving.pool.AnsweredBy (handler.noting AppCall.recordedEvent?)
  idle : ∀ who, serving.decided who ≠ some .passedOn → serving.pool.histories who = []
  limited : ∀ who statusCode detail, serving.decided who = some (.answered statusCode detail) →
    detailReply statusCode detail = detailReply 429 "Rate limit exceeded"

variable {app requests handler}

theorem Consistent.step {serving : Serving ι σ} (h : serving.Consistent app requests handler)
    (hids : Function.Injective fun who => (requests who).id) (event : HttpEvent ι) :
    (serving.step app requests handler event).Consistent app requests handler := by
  cases event with
  | arrives who now =>
      cases hdecided : serving.decided who with
      | some outcome =>
          simp only [Serving.step, hdecided]
          exact h
      | none =>
          simp only [Serving.step, hdecided]
          refine ⟨h.follows, h.attributed, h.answeredBy, fun other hother => ?_,
            fun other statusCode detail hother => ?_⟩
          · dsimp only at hother
            by_cases hwho : other = who
            · subst hwho
              exact h.idle other (by rw [hdecided]; nofun)
            · rw [Function.update_of_ne hwho] at hother
              exact h.idle other hother
          · dsimp only at hother
            by_cases hwho : other = who
            · subst hwho
              rw [Function.update_self] at hother
              exact handleRequest_answered (Option.some.inj hother)
            · rw [Function.update_of_ne hwho] at hother
              exact h.limited other statusCode detail hother
  | turn who =>
      by_cases hdecided : serving.decided who = some .passedOn
      · simp only [Serving.step, hdecided]
        refine ⟨h.follows.turn who, h.attributed.turn (fun one other heq => hids
          (Option.some.inj heq)) fun request next hcall => ?_, h.answeredBy.turn who,
          fun other hother => ?_, h.limited⟩
        · have hfollows := h.follows who
          rw [hcall] at hfollows
          exact hfollows.1
        · rw [LoggedPool.turn_histories_of_ne]
          · exact h.idle other hother
          · rintro rfl
            exact hother hdecided
      · have hidle : serving.step app requests handler (.turn who) = serving := by
          rw [Serving.step]
          split
          · contradiction
          · rfl
        rw [hidle]
        exact h

theorem consistent_run (hids : Function.Injective fun who => (requests who).id)
    (hloads : ∀ body e, app.lib.loads body = .error e → ¬ e.IsHttp) (state : σ)
    (events : List (HttpEvent ι)) :
    (run app requests handler state events).Consistent app requests handler := by
  refine runEvents_invariant (fun serving event h => h.step hids event) events ?_
  refine ⟨fun who => app.handle_follows (requests who) (hloads _), ⟨?_, List.nodup_nil,
    fun who => rfl⟩, ?_, fun who _ => rfl, ?_⟩
  · rintro entry ⟨⟩
  · rintro who answered ⟨⟩
  · rintro who statusCode detail ⟨⟩

end Serving

section Exchange

variable {σ : Type} (app : App) (handler : Handler appCalls PyException σ)
  (request : HttpRequest) (events : List AuditEvent)

/-- What the SDK behind the handler answers at some time; it raises no `HTTPException`. -/
def SdkBehind : SdkAnswers := fun payload answer =>
  (∃ state, answer = (handler (.webhook (.ahandleServiceAppWebhook payload)) state).1) ∧
    ∀ e, answer = .error e → ¬ e.IsHttp

/-- How a response goes with the events that carry its request's id. -/
inductive Exchange : HttpResponse → Prop
  | limited (h : events = []) : Exchange ⟨detailReply 429 "Rate limit exceeded", none⟩
  | delivery {outcome : Except PyException WebhookResponse}
      (hroute : app.endpoint request = some .webexWebhook)
      (h : Audited app.lib request.body request.id (SdkBehind handler) outcome events) :
      Exchange (serverReply (deliveryResult app.lib request.id outcome))
  | answered (reply : HttpReply) (hroute : app.endpoint request ≠ some .webexWebhook)
      (h : events = []) : Exchange ⟨reply, some request.id⟩
  | failed (hroute : app.endpoint request ≠ some .webexWebhook) (h : events = []) :
      Exchange ⟨⟨500, .plain "Internal Server Error"⟩, none⟩

end Exchange

theorem exchange_of_leaves {σ : Type} {app : App} {handler : Handler appCalls PyException σ}
    {request : HttpRequest} {history : History appCalls PyException}
    {result : Except PyException HttpResponse}
    (hsdk : ∀ payload answer, sdkAnswered history payload answer →
      SdkBehind handler payload answer)
    (h : app.Leaves request history result) :
    Exchange app handler request (auditedIn history) (serverReply result) := by
  rcases h with ⟨hroute, outcome, haudited, rfl⟩ | ⟨hroute, hnothing, hid⟩
  · exact .delivery hroute (haudited.mono hsdk)
  · cases result with
    | ok response =>
        obtain ⟨reply, requestId⟩ := response
        obtain rfl : requestId = some request.id := hid _ rfl
        exact .answered reply hroute hnothing
    | error e => exact .failed hroute hnothing

/-- What is handled at the same time is told apart: whatever the calls answer and however
the requests take their turns, no two events handed to the audit repository have the same
id, each has that of a request which the rate limit passed on, and every response goes with
exactly the events that carry its request's id. Of a request's events those are confirmed as
recorded whose call the repository answered: all of them, when it answers every event. -/
theorem audit_trail_matches_responses {ι σ : Type} [DecidableEq ι] (app : App)
    (requests : ι → HttpRequest) (handler : Handler appCalls PyException σ)
    (hids : Function.Injective fun who => (requests who).id)
    (hloads : ∀ body e, app.lib.loads body = .error e → ¬ e.IsHttp)
    (hraises : ∀ call state e, (handler call state).1 = .error e → ¬ e.IsHttp)
    (state : σ) (events : List (HttpEvent ι)) :
    let serving := Serving.run app requests handler state events
    (serving.auditTrail.map AuditEvent.requestId).Nodup ∧
    (∀ event ∈ serving.auditTrail, ∃ who, event.requestId = some (requests who).id ∧
      serving.decided who = some .passedOn) ∧
    (∀ who response, serving.response who = some response →
      Exchange app handler (requests who) (serving.auditTrail.filter fun event =>
        event.requestId = some (requests who).id) response) ∧
    ∀ who, (serving.recorded who).Sublist (serving.auditTrail.filter fun event =>
        event.requestId = some (requests who).id) ∧
      ((∀ event state, ∃ done, (handler (.webhook (.recordEvent event)) state).1 = .ok done) →
        serving.recorded who = serving.auditTrail.filter fun event =>
          event.requestId = some (requests who).id) := by
  intro serving
  have h : serving.Consistent app requests handler :=
    Serving.consistent_run hids hloads state events
  have hevents (who : ι) : serving.auditTrail.filter (fun event =>
      event.requestId = some (requests who).id) = auditedIn (serving.pool.histories who) :=
    h.attributed.filter_eq who
  refine ⟨h.attributed.nodup, fun event hevent => ?_, fun who response hresponse => ?_,
    fun who => ⟨?_, fun hrecords => ?_⟩⟩
  · obtain ⟨who, hwho⟩ := h.attributed.owned event hevent
    refine ⟨who, hwho, ?_⟩
    by_contra hdecided
    have hmem : event ∈ serving.auditTrail.filter fun event =>
        event.requestId = some (requests who).id :=
      List.mem_filter.mpr ⟨hevent, decide_eq_true hwho⟩
    rw [hevents who, h.idle who hdecided] at hmem
    cases hmem
  · have hsdk (payload : Json) (answer : Except PyException ServiceAppWebhookResult)
        (hmem : sdkAnswered (serving.pool.histories who) payload answer) :
        SdkBehind handler payload answer := by
      obtain ⟨reached, hanswer⟩ := h.answeredBy who _ hmem
      exact ⟨⟨reached.1, hanswer⟩, fun e he => hraises _ reached.1 e (hanswer.symm.trans he)⟩
    rw [hevents who]
    rw [Serving.response] at hresponse
    cases hdecided : serving.decided who with
    | none =>
        rw [hdecided] at hresponse
        cases hresponse
    | some outcome =>
        rw [hdecided] at hresponse
        cases outcome with
        | answered statusCode detail =>
            cases hresponse
            rw [h.limited who statusCode detail hdecided, h.idle who (by rw [hdecided]; nofun)]
            exact .limited rfl
        | passedOn =>
            cases hprogram : serving.pool.programs who with
            | call request next =>
                rw [hprogram] at hresponse
                cases hresponse
            | finish result =>
                have hleaves := h.follows who
                rw [hprogram] at hresponse hleaves
                cases hresponse
                exact exchange_of_leaves hsdk hleaves
  · rw [hevents who]
    exact answeredNotes_sublist _ _
  · rw [hevents who]
    refine answeredNotes_eq_noted fun answered hmem event hevent => ?_
    obtain ⟨reached, hanswer⟩ := h.answeredBy who answered hmem
    obtain ⟨call, reply⟩ := answered
    obtain rfl := AppCall.eq_of_recordedEvent? hevent
    obtain ⟨done, hdone⟩ := hrecords event reached.1
    exact ⟨done, hanswer.trans hdone⟩

/-! ## Two deliveries at a limit of one -/

/-- An app with a limit of one delivery a minute. -/
def limitedApp : App where
  settings := limitedSettings
  state := ⟨true, true⟩
  lib := { sampleRouteLib with loads := fun _ => .ok (.obj [("orgId", .str "org-1")]) }
  hostname _ := none
  path uri := uri
  pathMatches pattern path := pattern == path
  documentation _ := ⟨200, .html ""⟩
  unrouted _ := detailReply 404 "Not Found"

/-- Two deliveries of one client, the first with an id of its own. -/
def twoDeliveries (second : Bool) : HttpRequest where
  method := "POST"
  path := "/webhooks/webex"
  client := some "203.0.113.7"
  requestId := if second then none else some "first"
  query := []
  body := orgBody
  uuid := "7f8c3b1e"
  registrationUuid := "0d5a9f42"

/-- The SDK takes every webhook for a deauthorization. -/
def deauthorizing : Handler appCalls PyException Unit
  | .webhook (.ahandleServiceAppWebhook _), _ => (.ok ⟨"org-1", "deauthorized"⟩, ())
  | _, _ => (.error (.other "ConnectError" "All connection attempts failed"), ())

/-- The second delivery is turned away while the first is being handled. -/
def overlapping : List (HttpEvent Bool) :=
  [.arrives false 0, .turn false, .arrives true 1, .turn true, .turn false]

theorem twoDeliveries_ids : Function.Injective fun second => (twoDeliveries second).id := by
  decide

theorem deauthorizing_raises (call : AppCall) (state : Unit) (e : PyException)
    (h : (deauthorizing call state).1 = .error e) : ¬ e.IsHttp := by
  have hraised : e = .other "ConnectError" "All connection attempts failed" := by
    cases call with
    | oauth step => exact (Except.error.inj h).symm
    | webhook request =>
        cases request with
        | ahandleServiceAppWebhook payload => cases h
        | _ => exact (Except.error.inj h).symm
  rintro ⟨statusCode, detail, hhttp⟩
  cases hraised.symm.trans hhttp

theorem audit_trail_matches_responses_limited :
    (Serving.run limitedApp twoDeliveries deauthorizing () overlapping).auditTrail =
        [⟨"org-1", .deauthorized, .success, some "first", none⟩] ∧
      ∀ who response,
        (Serving.run limitedApp twoDeliveries deauthorizing () overlapping).response who =
          some response →
        Exchange limitedApp deauthorizing (twoDeliveries who)
          ((Serving.run limitedApp twoDeliveries deauthorizing () overlapping).auditTrail.filter
            fun event => event.requestId = some (twoDeliveries who).id) response := by
  refine ⟨by decide +kernel, ?_⟩
  exact (audit_trail_matches_responses limitedApp twoDeliveries deauthorizing twoDeliveries_ids
    nofun deauthorizing_raises () overlapping).2.2.1

end ByodsServer
