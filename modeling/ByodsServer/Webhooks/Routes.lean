/-
# The webhook route

The handler of `POST /webhooks/webex`: the SDK decides about the payload, an
authorized org gets its data source registered, and every outcome of the SDK is
audited. The audit never fails the request; the registration does only by its
URL. The answer is rendered last, and a text with a lone surrogate cannot be.
-/

import ByodsServer.Effects.Faults
import ByodsServer.Persistence.AuditRepository
import ByodsServer.Webhooks.DatasourceRegister

namespace ByodsServer

open Effects Python

/-- What the SDK makes of a webhook it accepts. -/
structure ServiceAppWebhookResult where
  orgId : String
  event : String
  deriving DecidableEq, Repr

/-- The answer to an accepted webhook. -/
structure WebhookResponse where
  status : String
  orgId : String
  event : String
  deriving DecidableEq, Repr

/-- The calls of the route: the SDK's webhook handler, its data sources and the
audit repository. -/
inductive WebhookCall
  | ahandleServiceAppWebhook (payload : Json)
  | byods (request : ByodsCall)
  | recordEvent (event : AuditEvent)

/-- What each call answers. -/
@[reducible]
def WebhookCall.Reply : WebhookCall → Type
  | ahandleServiceAppWebhook _ => ServiceAppWebhookResult
  | byods request => request.Reply
  | recordEvent _ => Unit

/-- The route's calls as something a program can call. -/
def webhookCalls : Signature where
  Call := WebhookCall
  Reply := WebhookCall.Reply

/-- The route's coroutine. -/
abbrev WebhookProgram := Program webhookCalls PyException

/-- One such call. -/
def callWebhook (request : WebhookCall) : WebhookProgram request.Reply :=
  Program.await (S := webhookCalls) request

@[simp]
theorem exec_callWebhook {σ : Type} (handler : Handler webhookCalls PyException σ)
    (request : WebhookCall) (state : σ) :
    (callWebhook request).exec handler state = handler request state := rfl

/-- `_audit_repository.record_event(...)`. -/
def callRecordEvent (event : AuditEvent) : WebhookProgram Unit :=
  Program.await (S := webhookCalls) (.recordEvent event)

@[simp]
theorem exec_callRecordEvent {σ : Type} (handler : Handler webhookCalls PyException σ)
    (event : AuditEvent) (state : σ) :
    (callRecordEvent event).exec handler state = handler (.recordEvent event) state := rfl

/-- A program that talks to data sources, as part of the route. -/
def liftByods {α : Type} (p : ByodsProgram α) : WebhookProgram α :=
  p.translate fun request => callWebhook (.byods request)

/-- The data sources of the route's calls. -/
def byodsHandler {σ : Type} (handler : Handler webhookCalls PyException σ) :
    Handler byodsCalls PyException σ :=
  fun request => handler (.byods request)

/-- The content of an answer: a dictionary of texts. -/
abbrev Content := List (String × String)

/-- The parser of request bodies, the texts of lists and dictionaries, the
rendering of answers, and what the URL parser leaves open. -/
structure RouteLib extends UrlLib where
  /-- `json.loads` of the body. -/
  loads : ByteArray → Except PyException Json
  repr : Json → String
  /-- No lone surrogate is in the text. -/
  encodable : String → Bool
  /-- `JSONResponse.render`, or the message of its `UnicodeEncodeError`. -/
  render : Content → Except String ByteArray

/-- A content is rendered exactly if its texts can be encoded, as those in ASCII
can. -/
structure RouteLib.Renders (lib : RouteLib) : Prop where
  ascii : ∀ text : String, isAscii text.toUTF8 = true → lib.encodable text = true
  render : ∀ content, (∃ body, lib.render content = .ok body) ↔
    ∀ field ∈ content, lib.encodable field.1 = true ∧ lib.encodable field.2 = true

/-- The module's globals: whether the SDK and the audit repository are set. -/
structure RouteGlobals where
  sdk : Bool
  auditRepository : Bool

/-- `get_sdk`. -/
def RouteGlobals.getSdk (globals : RouteGlobals) : Except PyException Unit :=
  if globals.sdk then .ok () else .error (.runtimeError "BYOVA SDK not initialized")

/-- `str(payload.get("orgId") or payload.get("org_id") or "unknown")`. -/
def payloadOrgId (repr : Json → String) : Json → Except PyException String
  | .obj fields =>
      let orgId := (Json.get? fields "orgId").getD .null
      let other := (Json.get? fields "org_id").getD .null
      if orgId.truthy then .ok (orgId.toText repr)
      else if other.truthy then .ok (other.toText repr)
      else .ok "unknown"
  | _ => .error (.attributeError "object has no attribute 'get'")

section Route

variable (lib : RouteLib) (globals : RouteGlobals) (settings : Settings) (uuid : String)
  (requestId : Option String)

/-- `_record_audit`. -/
def recordAudit (event : AuditEvent) : WebhookProgram Unit :=
  if !globals.auditRepository then return ()
  else tryCatch (callRecordEvent event) fun _ => return ()

/-- What follows once the SDK has accepted the webhook. -/
def acknowledge (result : ServiceAppWebhookResult) : WebhookProgram WebhookResponse := do
  if result.event = "authorized" then do
    liftByods (registerDatasourceForOrg lib.repr lib.toUrlLib settings uuid result.orgId)
    recordAudit globals ⟨result.orgId, .authorized, .success, requestId, none⟩
  else if result.event = "deauthorized" then
    recordAudit globals ⟨result.orgId, .deauthorized, .success, requestId, none⟩
  return ⟨"ok", result.orgId, result.event⟩

/-- `except ...: await _record_audit(...); raise HTTPException(...)`. -/
def reject (orgId : String) (e : PyException) (statusCode : ℕ) (detail : String) :
    WebhookProgram WebhookResponse := do
  recordAudit globals ⟨orgId, .processingFailure, .failure, requestId, some e.message⟩
  throw (.httpException statusCode detail)

/-- The `try` around the SDK's handler, and what follows it. -/
def handlePayload (orgId : String) (payload : Json) : WebhookProgram WebhookResponse :=
  (callWebhook (.ahandleServiceAppWebhook payload)).resume fun outcome =>
    match outcome with
    | .ok result => acknowledge lib globals settings uuid requestId result
    | .error (.validationError message) =>
        reject globals requestId orgId (.validationError message) 400 message
    | .error (.authenticationError message) =>
        reject globals requestId orgId (.authenticationError message) 503
          "Integration not authorized; complete OAuth callback or check integration tokens"
    | .error e => throw e

/-- `webex_webhook`. -/
def webexWebhook (body : ByteArray) : WebhookProgram WebhookResponse := do
  Program.ofExcept globals.getSdk
  let payload ← Program.ofExcept (lib.loads body)
  let orgId ← Program.ofExcept (payloadOrgId lib.repr payload)
  handlePayload lib globals settings uuid requestId orgId payload

end Route

/-! ## The answer as it is sent -/

/-- `{"status": "ok", "org_id": result.org_id, "event": result.event}`. -/
def WebhookResponse.content (response : WebhookResponse) : Content :=
  [("status", response.status), ("org_id", response.orgId), ("event", response.event)]

/-- The content of the answer to an `HTTPException`. -/
def detailContent (detail : String) : Content := [("detail", detail)]

/-- An answer that was rendered. -/
structure SentResponse where
  statusCode : ℕ
  body : ByteArray

section Respond

variable (lib : RouteLib)

/-- `JSONResponse(content, status_code=...)`. -/
def RouteLib.jsonResponse (statusCode : ℕ) (content : Content) : Except PyException SentResponse :=
  match lib.render content with
  | .ok body => .ok ⟨statusCode, body⟩
  | .error message => .error (.unicodeEncodeError message)

/-- What the framework makes of the route's result: an `HTTPException` is
answered, every other exception goes on to the server. -/
def RouteLib.respond : Except PyException WebhookResponse → Except PyException SentResponse
  | .ok response => lib.jsonResponse 200 response.content
  | .error (.httpException statusCode detail) =>
      lib.jsonResponse statusCode (detailContent detail)
  | .error e => .error e

end Respond

/-- The status that is sent; what goes on to the server becomes a 500. -/
def sentStatus : Except PyException SentResponse → ℕ
  | .ok response => response.statusCode
  | .error _ => 500

/-- The status of the answer; what is no `HTTPException` becomes a 500. -/
def httpStatus {α : Type} : Except PyException α → ℕ
  | .ok _ => 200
  | .error (.httpException statusCode _) => statusCode
  | .error _ => 500

/-! ## What the parts answer -/

section Render

variable {lib : RouteLib} (hlib : lib.Renders)

include hlib

theorem RouteLib.Renders.jsonResponse_iff (statusCode : ℕ) (content : Content) :
    (∃ body, lib.jsonResponse statusCode content = .ok ⟨statusCode, body⟩) ↔
      ∀ field ∈ content, lib.encodable field.1 = true ∧ lib.encodable field.2 = true := by
  rw [← hlib.render, RouteLib.jsonResponse]
  cases lib.render content <;> simp

/-- A detail is sent exactly if it can be encoded. -/
theorem RouteLib.Renders.detail_iff (statusCode : ℕ) (detail : String) :
    (∃ body, lib.jsonResponse statusCode (detailContent detail) = .ok ⟨statusCode, body⟩) ↔
      lib.encodable detail = true := by
  rw [hlib.jsonResponse_iff, detailContent, List.forall_mem_singleton]
  exact and_iff_right (hlib.ascii "detail" (by decide))

/-- An acknowledgement is sent exactly if the org's id can be encoded. -/
theorem RouteLib.Renders.content_iff (statusCode : ℕ) (orgId : String) {event : String}
    (hevent : isAscii event.toUTF8 = true) :
    (∃ body, lib.jsonResponse statusCode (WebhookResponse.content ⟨"ok", orgId, event⟩) =
        .ok ⟨statusCode, body⟩) ↔ lib.encodable orgId = true := by
  rw [hlib.jsonResponse_iff, WebhookResponse.content]
  simp only [List.forall_mem_cons, hlib.ascii _ hevent,
    hlib.ascii "status" (by decide), hlib.ascii "ok" (by decide), hlib.ascii "org_id" (by decide),
    hlib.ascii "event" (by decide), true_and, and_true]
  exact and_iff_left (List.forall_mem_nil _)

end Render

section Exec

variable {σ : Type} (handler : Handler webhookCalls PyException σ) (state : σ)
  (lib : RouteLib) (globals : RouteGlobals) (settings : Settings) (uuid : String)
  (requestId : Option String)

/-- As part of the route a program runs against the route's data sources. -/
theorem exec_liftByods {α : Type} (p : ByodsProgram α) :
    (liftByods p).exec handler state = p.exec (byodsHandler handler) state :=
  Program.exec_translate handler _ p state

/-- Recording an event raises nothing. -/
theorem exec_recordAudit (event : AuditEvent) :
    ((recordAudit globals event).exec handler state).1 = .ok () := by
  rw [recordAudit]
  by_cases hset : globals.auditRepository = true
  · rw [hset, Bool.not_true, if_neg Bool.false_ne_true, Program.exec_tryCatch,
      exec_callRecordEvent]
    cases (handler (.recordEvent event) state).1 with
    | ok done => rfl
    | error e => rfl
  · rw [Bool.not_eq_true] at hset
    rw [hset]
    rfl

/-- An accepted webhook is acknowledged. -/
theorem exec_acknowledge (result : ServiceAppWebhookResult)
    (hraises : ¬ (result.event = "authorized" ∧ settings.UrlRaises lib.toUrlLib)) :
    ((acknowledge lib globals settings uuid requestId result).exec handler state).1 =
      .ok ⟨"ok", result.orgId, result.event⟩ := by
  rw [acknowledge]
  by_cases hauthorized : result.event = "authorized"
  · have hurl : ¬ settings.UrlRaises lib.toUrlLib := fun h => hraises ⟨hauthorized, h⟩
    rw [if_pos hauthorized, Program.exec_bind, exec_liftByods,
      exec_registerDatasourceForOrg _ _ _ _ _ _ _ hurl, Program.andThen_ok, Program.exec_bind,
      exec_recordAudit]
    rfl
  · by_cases hdeauthorized : result.event = "deauthorized"
    · rw [if_neg hauthorized, if_pos hdeauthorized, Program.exec_bind, exec_recordAudit]
      rfl
    · rw [if_neg hauthorized, if_neg hdeauthorized]
      rfl

/-- When deriving the data source URL raises, so does the acknowledgement of an
authorized webhook, before any further call. -/
theorem acknowledge_raises (result : ServiceAppWebhookResult)
    (hauthorized : result.event = "authorized") (hraises : settings.UrlRaises lib.toUrlLib) :
    ∃ e, acknowledge lib globals settings uuid requestId result = throw e := by
  obtain ⟨e, hregister⟩ := registerDatasourceForOrg_raises lib.repr lib.toUrlLib settings uuid
    result.orgId hraises
  refine ⟨e, ?_⟩
  rw [acknowledge, if_pos hauthorized, hregister]
  rfl

/-- A rejected webhook answers with the status and detail of its rejection. -/
theorem exec_reject (orgId : String) (e : PyException) (statusCode : ℕ) (detail : String) :
    ((reject globals requestId orgId e statusCode detail).exec handler state).1 =
      .error (.httpException statusCode detail) := by
  rw [reject, Program.exec_bind, exec_recordAudit]
  rfl

end Exec

end ByodsServer
