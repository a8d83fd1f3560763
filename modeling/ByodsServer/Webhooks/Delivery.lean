/-
# Every delivery is acknowledged and audited

What a sender of webhooks may rely on: side work does not change the answer to
an accepted webhook, and every delivery is answered by its kind and audited
once. Both hold up to the places where the route calls something outside its
`try` blocks, which the theorems name exactly.
-/

import ByodsServer.Python.JsonText
import ByodsServer.Webhooks.Routes

namespace ByodsServer

open Effects Python

/-! ## Side work -/

/-- The run answers with what the SDK made of the webhook, and so does any other
run of it. -/
structure SideWorkInvisible (result : ServiceAppWebhookResult)
    (run other : Except PyException WebhookResponse) : Prop where
  answered : run = .ok ⟨"ok", result.orgId, result.event⟩
  status : httpStatus run = 200
  same : run = other

/-- The status and the detail with which the route rejects what the SDK raises. -/
def PyException.rejection? : PyException → Option (ℕ × String)
  | validationError message => some (400, message)
  | authenticationError _ => some (503,
      "Integration not authorized; complete OAuth callback or check integration tokens")
  | _ => none

theorem PyException.rejection?_status {e : PyException} {statusCode : ℕ} {detail : String}
    (h : e.rejection? = some (statusCode, detail)) :
    (statusCode = 400 ∨ statusCode = 503) ∧
      ((∃ message, e = .validationError message) → statusCode = 400) := by
  cases e with
  | validationError message =>
      cases h
      exact ⟨Or.inl rfl, fun _ => rfl⟩
  | authenticationError message =>
      cases h
      refine ⟨Or.inr rfl, fun hvalidation => ?_⟩
      obtain ⟨message', hmessage⟩ := hvalidation
      cases hmessage
  | _ => cases h

section Accepted

variable {σ : Type} {lib : RouteLib} {globals : RouteGlobals} (settings : Settings)
  (uuid : String) (requestId : Option String) {body : ByteArray} {payload : Json}
  {orgId : String} {handler : Handler webhookCalls PyException σ} {state : σ}

/-- A body with an org, or none, is handed to the SDK. -/
theorem webexWebhook_eq (hsdk : globals.sdk = true) (hbody : lib.loads body = .ok payload)
    (horg : payloadOrgId lib.repr payload = .ok orgId) :
    webexWebhook lib globals settings uuid requestId body =
      handlePayload lib globals settings uuid requestId orgId payload := by
  rw [webexWebhook, RouteGlobals.getSdk, if_pos hsdk, hbody]
  simp only [Program.ofExcept_eq, Program.finish_bind, horg]

theorem exec_handlePayload_ok {result : ServiceAppWebhookResult}
    (hresult : (handler (.ahandleServiceAppWebhook payload) state).1 = .ok result) :
    (handlePayload lib globals settings uuid requestId orgId payload).exec handler state =
      (acknowledge lib globals settings uuid requestId result).exec handler
        (handler (.ahandleServiceAppWebhook payload) state).2 := by
  rw [handlePayload, Program.exec_resume, exec_callWebhook, hresult]

/-- What the SDK raises is rejected as its kind says. -/
theorem exec_handlePayload_rejected {e : PyException} {statusCode : ℕ} {detail : String}
    (herror : (handler (.ahandleServiceAppWebhook payload) state).1 = .error e)
    (hrejection : e.rejection? = some (statusCode, detail)) :
    (handlePayload lib globals settings uuid requestId orgId payload).exec handler state =
      (reject globals requestId orgId e statusCode detail).exec handler
        (handler (.ahandleServiceAppWebhook payload) state).2 := by
  rw [handlePayload, Program.exec_resume, exec_callWebhook, herror]
  cases e with
  | validationError message =>
      cases hrejection
      rfl
  | authenticationError message =>
      cases hrejection
      rfl
  | _ => cases hrejection

theorem exists_payloadOrgId (repr : Json → String) (fields : List (String × Json)) :
    ∃ orgId, payloadOrgId repr (.obj fields) = .ok orgId := by
  unfold payloadOrgId
  dsimp only
  split_ifs
  all_goals exact ⟨_, rfl⟩

end Accepted

/-- Once the SDK has accepted the webhook, side work stays invisible exactly when
no data source URL has to be derived from a text that the URL parser refuses. -/
theorem webexWebhook_sideWorkInvisible_iff {σ τ : Type} (lib : RouteLib)
    (auditRepository : Bool) (settings : Settings) (uuid : String) (requestId : Option String)
    (body : ByteArray) (fields : List (String × Json)) (result : ServiceAppWebhookResult)
    (handler : Handler webhookCalls PyException σ) (state : σ)
    (other : Handler webhookCalls PyException τ) (otherState : τ)
    (hbody : lib.loads body = .ok (.obj fields))
    (hresult : (handler (.ahandleServiceAppWebhook (.obj fields)) state).1 = .ok result)
    (hother : (other (.ahandleServiceAppWebhook (.obj fields)) otherState).1 = .ok result) :
    SideWorkInvisible result
        ((webexWebhook lib ⟨true, auditRepository⟩ settings uuid requestId body).exec
          handler state).1
        ((webexWebhook lib ⟨true, auditRepository⟩ settings uuid requestId body).exec
          other otherState).1 ↔
      ¬ (result.event = "authorized" ∧ settings.UrlRaises lib.toUrlLib) := by
  obtain ⟨orgId, horg⟩ := exists_payloadOrgId lib.repr fields
  rw [webexWebhook_eq settings uuid requestId rfl hbody horg,
    exec_handlePayload_ok settings uuid requestId hresult,
    exec_handlePayload_ok settings uuid requestId hother]
  constructor
  · intro h hraises
    obtain ⟨e, hacknowledge⟩ := acknowledge_raises lib _ settings uuid requestId result
      hraises.1 hraises.2
    have hanswered := h.answered
    rw [hacknowledge] at hanswered
    cases hanswered
  · intro hraises
    rw [exec_acknowledge _ _ lib _ settings uuid requestId result hraises,
      exec_acknowledge _ _ lib _ settings uuid requestId result hraises]
    exact ⟨rfl, rfl, rfl⟩

/-! ## Classification and audit -/

/-- What is audited about a call. -/
def WebhookCall.recordedEvent? : WebhookCall → Option AuditEvent
  | recordEvent event => some event
  | _ => none

/-- The route's calls, with the audited events kept in the state. -/
def auditing {σ : Type} (handler : Handler webhookCalls PyException σ) :
    Handler webhookCalls PyException (σ × List AuditEvent) :=
  handler.noting WebhookCall.recordedEvent?

/-- The body names an org. -/
def GivesOrg (lib : RouteLib) (body : ByteArray) : Prop :=
  ∃ fields, lib.loads body = .ok (.obj fields) ∧
    (((Json.get? fields "orgId").getD .null).truthy = true ∨
      ((Json.get? fields "org_id").getD .null).truthy = true)

/-- The SDK accepts the webhook, refuses it, or cannot authenticate. -/
inductive SdkOutcome : Except PyException ServiceAppWebhookResult → Prop
  | authorized (orgId : String) : SdkOutcome (.ok ⟨orgId, "authorized"⟩)
  | deauthorized (orgId : String) : SdkOutcome (.ok ⟨orgId, "deauthorized"⟩)
  | validationError (message : String) : SdkOutcome (.error (.validationError message))
  | authenticationError (message : String) : SdkOutcome (.error (.authenticationError message))

theorem ascii_event {event : String} (h : event = "authorized" ∨ event = "deauthorized") :
    isAscii event.toUTF8 = true := by
  rcases h with rfl | rfl <;> decide

theorem SdkOutcome.event {result : ServiceAppWebhookResult} (h : SdkOutcome (.ok result)) :
    result.event = "authorized" ∨ result.event = "deauthorized" := by
  cases h with
  | authorized orgId => exact Or.inl rfl
  | deauthorized orgId => exact Or.inr rfl

/-- The body is no JSON object, or the SDK refuses it. -/
def InvalidBody (lib : RouteLib) (body : ByteArray)
    (outcome : Except PyException ServiceAppWebhookResult) : Prop :=
  (¬ ∃ fields, lib.loads body = .ok (.obj fields)) ∨
    ∃ message, outcome = .error (.validationError message)

/-- The delivery is answered by its kind and audited once. -/
structure ClassifiedAndAudited (lib : RouteLib) (body : ByteArray)
    (outcome : Except PyException ServiceAppWebhookResult)
    (sent : Except PyException SentResponse) (events : List AuditEvent) : Prop where
  classified : ∃ response, sent = .ok response ∧
    (response.statusCode = 200 ∨ response.statusCode = 400 ∨ response.statusCode = 503)
  invalid : InvalidBody lib body outcome → sentStatus sent = 400
  audited : ∃ event, events = [event] ∧ (event.outcome = .success ↔ sentStatus sent = 200) ∧
    (¬ GivesOrg lib body → event.orgId = "unknown")

/-- The body is a JSON object, no refused URL stands in the way, the SDK accepts
a body without an org for no org but `unknown`, and the text that the SDK adds to
the answer can be encoded. -/
structure DeliveryHandled (lib : RouteLib) (settings : Settings) (body : ByteArray)
    (outcome : Except PyException ServiceAppWebhookResult) : Prop where
  object : ∃ fields, lib.loads body = .ok (.obj fields)
  url : ∀ result, outcome = .ok result →
    ¬ (result.event = "authorized" ∧ settings.UrlRaises lib.toUrlLib)
  org : ∀ result, outcome = .ok result → GivesOrg lib body ∨ result.orgId = "unknown"
  orgText : ∀ result, outcome = .ok result → lib.encodable result.orgId = true
  messageText : ∀ message, outcome = .error (.validationError message) →
    lib.encodable message = true

section Audited

variable {σ : Type} {lib : RouteLib} {globals : RouteGlobals} (settings : Settings)
  (uuid : String) (requestId : Option String) {body : ByteArray} {payload : Json}
  {handler : Handler webhookCalls PyException σ}

/-- With a repository in place, one event is recorded. -/
theorem exec_recordAudit_noting (haudit : globals.auditRepository = true) (event : AuditEvent)
    (state : σ × List AuditEvent) :
    ((recordAudit globals event).exec (auditing handler) state).2.2 =
      state.2 ++ [event] := by
  rw [recordAudit, haudit, Bool.not_true, if_neg Bool.false_ne_true, Program.exec_tryCatch,
    exec_callRecordEvent]
  simp only [auditing, Handler.noting]
  cases (handler (.recordEvent event) state.1).1 with
  | ok done => rfl
  | error e => rfl

/-- The registration of a data source records nothing. -/
theorem exec_liftByods_noting {α : Type} (p : ByodsProgram α) (state : σ × List AuditEvent) :
    ((liftByods p).exec (auditing handler) state).2.2 = state.2 := by
  have huses : (liftByods p).Uses fun request => WebhookCall.recordedEvent? request = none := by
    rw [liftByods]
    apply Program.uses_translate
    intro request
    exact ⟨rfl, fun _ => trivial⟩
  exact huses.exec_noting state

/-- An acknowledged webhook is recorded as a success of its org. -/
theorem exec_acknowledge_noting (haudit : globals.auditRepository = true)
    {result : ServiceAppWebhookResult}
    (hevent : result.event = "authorized" ∨ result.event = "deauthorized")
    (hraises : ¬ (result.event = "authorized" ∧ settings.UrlRaises lib.toUrlLib))
    (state : σ × List AuditEvent) :
    ∃ event, event.outcome = .success ∧ event.orgId = result.orgId ∧
      ((acknowledge lib globals settings uuid requestId result).exec
        (auditing handler) state).2.2 = state.2 ++ [event] := by
  rw [acknowledge]
  by_cases hauthorized : result.event = "authorized"
  · have hurl : ¬ settings.UrlRaises lib.toUrlLib := fun h => hraises ⟨hauthorized, h⟩
    refine ⟨⟨result.orgId, .authorized, .success, requestId, none⟩, rfl, rfl, ?_⟩
    rw [if_pos hauthorized, Program.exec_bind, exec_liftByods,
      exec_registerDatasourceForOrg _ _ _ _ _ _ _ hurl, ← exec_liftByods, Program.andThen_ok,
      Program.exec_bind, exec_recordAudit, Program.andThen_ok, Program.exec_pure,
      exec_recordAudit_noting haudit, exec_liftByods_noting]
  · have hdeauthorized := hevent.resolve_left hauthorized
    refine ⟨⟨result.orgId, .deauthorized, .success, requestId, none⟩, rfl, rfl, ?_⟩
    rw [if_neg hauthorized, if_pos hdeauthorized, Program.exec_bind, exec_recordAudit,
      Program.andThen_ok, Program.exec_pure, exec_recordAudit_noting haudit]

/-- A rejected webhook is recorded as a failure of the org its body names. -/
theorem exec_reject_noting (haudit : globals.auditRepository = true) (orgId : String)
    (e : PyException) (statusCode : ℕ) (detail : String) (state : σ × List AuditEvent) :
    ((reject globals requestId orgId e statusCode detail).exec
        (auditing handler) state).2.2 =
      state.2 ++ [⟨orgId, .processingFailure, .failure, requestId, some e.message⟩] := by
  rw [reject, Program.exec_bind, exec_recordAudit, Program.andThen_ok, Program.exec_throw,
    exec_recordAudit_noting haudit]

/-- A body that is no JSON object is not audited. -/
theorem exec_webexWebhook_no_object
    (hobject : ¬ ∃ fields, lib.loads body = .ok (.obj fields)) (state : σ × List AuditEvent) :
    ((webexWebhook lib globals settings uuid requestId body).exec (auditing handler)
      state).2.2 = state.2 := by
  rw [webexWebhook]
  cases globals.getSdk with
  | error e => rfl
  | ok done =>
      cases hbody : lib.loads body with
      | error e => rfl
      | ok payload =>
          cases payload with
          | obj fields => exact (hobject ⟨fields, hbody⟩).elim
          | _ => rfl

/-- The SDK's part of the route leaves the audited events alone. -/
theorem auditing_ahandle (payload : Json) (state : σ) (events : List AuditEvent) :
    auditing handler (.ahandleServiceAppWebhook payload) (state, events) =
      ((handler (.ahandleServiceAppWebhook payload) state).1,
        (handler (.ahandleServiceAppWebhook payload) state).2, events) := by
  simp [auditing, Handler.noting, WebhookCall.recordedEvent?]

/-- A body without an org counts as `unknown`. -/
theorem payloadOrgId_of_not_givesOrg {fields : List (String × Json)} {orgId : String}
    (hbody : lib.loads body = .ok (.obj fields))
    (horg : payloadOrgId lib.repr (.obj fields) = .ok orgId) (hgives : ¬ GivesOrg lib body) :
    orgId = "unknown" := by
  unfold payloadOrgId at horg
  dsimp only at horg
  split_ifs at horg with hfirst hsecond
  · exact (hgives ⟨fields, hbody, Or.inl hfirst⟩).elim
  · exact (hgives ⟨fields, hbody, Or.inr hsecond⟩).elim
  · exact (Except.ok.inj horg).symm

section Object

variable {fields : List (String × Json)} {state : σ}

/-- Once accepted, what is left is the acknowledgement. -/
theorem exec_webexWebhook_accepted {result : ServiceAppWebhookResult}
    (hbody : lib.loads body = .ok (.obj fields))
    (hresult : (handler (.ahandleServiceAppWebhook (.obj fields)) state).1 = .ok result) :
    (webexWebhook lib ⟨true, true⟩ settings uuid requestId body).exec (auditing handler)
        (state, []) =
      (acknowledge lib ⟨true, true⟩ settings uuid requestId result).exec (auditing handler)
        ((handler (.ahandleServiceAppWebhook (.obj fields)) state).2, []) := by
  obtain ⟨orgId, hpayload⟩ := exists_payloadOrgId lib.repr fields
  have haccepted : (auditing handler (.ahandleServiceAppWebhook (.obj fields)) (state, [])).1 =
      .ok result := by
    rw [auditing_ahandle, hresult]
  rw [webexWebhook_eq settings uuid requestId rfl hbody hpayload,
    exec_handlePayload_ok settings uuid requestId haccepted, auditing_ahandle]

/-- An accepted webhook is answered with 200 and audited as a success. -/
theorem classifiedAndAudited_accepted (hlib : lib.Renders) {result : ServiceAppWebhookResult}
    (hbody : lib.loads body = .ok (.obj fields))
    (hresult : (handler (.ahandleServiceAppWebhook (.obj fields)) state).1 = .ok result)
    (hevent : result.event = "authorized" ∨ result.event = "deauthorized")
    (hraises : ¬ (result.event = "authorized" ∧ settings.UrlRaises lib.toUrlLib))
    (horg : GivesOrg lib body ∨ result.orgId = "unknown")
    (htext : lib.encodable result.orgId = true) :
    ClassifiedAndAudited lib body (.ok result)
      (lib.respond ((webexWebhook lib ⟨true, true⟩ settings uuid requestId body).exec
        (auditing handler) (state, [])).1)
      ((webexWebhook lib ⟨true, true⟩ settings uuid requestId body).exec (auditing handler)
        (state, [])).2.2 := by
  rw [exec_webexWebhook_accepted settings uuid requestId hbody hresult]
  have haudit : (⟨true, true⟩ : RouteGlobals).auditRepository = true := rfl
  obtain ⟨event, houtcome, horgId, hevents⟩ := exec_acknowledge_noting settings uuid requestId
    haudit hevent hraises ((handler (.ahandleServiceAppWebhook (.obj fields)) state).2, [])
  rw [hevents, exec_acknowledge _ _ lib _ settings uuid requestId result hraises]
  obtain ⟨sent, hsent⟩ := (hlib.content_iff 200 result.orgId (ascii_event hevent)).mpr htext
  rw [RouteLib.respond, hsent]
  refine ⟨⟨_, rfl, .inl rfl⟩, ?_, event, rfl, iff_of_true houtcome rfl, ?_⟩
  · intro hinvalid
    rcases hinvalid with hobject | ⟨message, herror⟩
    · exact (hobject ⟨fields, hbody⟩).elim
    · cases herror
  · intro hgives
    exact horgId.trans (horg.resolve_left hgives)

/-- A rejected webhook is answered with its status and audited as a failure. -/
theorem classifiedAndAudited_rejected (hlib : lib.Renders) {e : PyException} {statusCode : ℕ}
    {detail : String} (htext : lib.encodable detail = true)
    (hbody : lib.loads body = .ok (.obj fields))
    (herror : (handler (.ahandleServiceAppWebhook (.obj fields)) state).1 = .error e)
    (hrejection : e.rejection? = some (statusCode, detail)) :
    ClassifiedAndAudited lib body (.error e)
      (lib.respond ((webexWebhook lib ⟨true, true⟩ settings uuid requestId body).exec
        (auditing handler) (state, [])).1)
      ((webexWebhook lib ⟨true, true⟩ settings uuid requestId body).exec (auditing handler)
        (state, [])).2.2 := by
  obtain ⟨orgId, hpayload⟩ := exists_payloadOrgId lib.repr fields
  obtain ⟨hstatus, hvalidation⟩ := PyException.rejection?_status hrejection
  have hrejected : (auditing handler (.ahandleServiceAppWebhook (.obj fields)) (state, [])).1 =
      .error e := by
    rw [auditing_ahandle, herror]
  have haudit : (⟨true, true⟩ : RouteGlobals).auditRepository = true := rfl
  rw [webexWebhook_eq settings uuid requestId rfl hbody hpayload,
    exec_handlePayload_rejected settings uuid requestId hrejected hrejection, auditing_ahandle,
    exec_reject, exec_reject_noting requestId haudit]
  obtain ⟨sent, hsent⟩ := (hlib.detail_iff statusCode detail).mpr htext
  rw [RouteLib.respond, hsent]
  refine ⟨⟨_, rfl, .inr hstatus⟩, ?_, _, rfl, ?_, ?_⟩
  · intro hinvalid
    rcases hinvalid with hobject | ⟨message, hmessage⟩
    · exact (hobject ⟨fields, hbody⟩).elim
    · exact hvalidation ⟨message, Except.error.inj hmessage⟩
  · have hne : statusCode ≠ 200 := by omega
    exact iff_of_false (by simp) hne
  · intro hgives
    exact payloadOrgId_of_not_givesOrg hbody hpayload hgives

end Object

section Delivery

variable {state : σ} {outcome : Except PyException ServiceAppWebhookResult}

/-- An accepted webhook that is audited as a success had its URL derived and its
answer made of the SDK's result, and the event names the org of the result. -/
theorem accepted_of_audited {fields : List (String × Json)} {result : ServiceAppWebhookResult}
    {event : AuditEvent} (hbody : lib.loads body = .ok (.obj fields))
    (hresult : (handler (.ahandleServiceAppWebhook (.obj fields)) state).1 = .ok result)
    (hevent : result.event = "authorized" ∨ result.event = "deauthorized")
    (hevents : ((webexWebhook lib ⟨true, true⟩ settings uuid requestId body).exec
      (auditing handler) (state, [])).2.2 = [event]) :
    ¬ (result.event = "authorized" ∧ settings.UrlRaises lib.toUrlLib) ∧
      event.orgId = result.orgId ∧
      ((webexWebhook lib ⟨true, true⟩ settings uuid requestId body).exec (auditing handler)
        (state, [])).1 = .ok ⟨"ok", result.orgId, result.event⟩ := by
  rw [exec_webexWebhook_accepted settings uuid requestId hbody hresult] at hevents ⊢
  have hraises : ¬ (result.event = "authorized" ∧ settings.UrlRaises lib.toUrlLib) := by
    intro hraises
    obtain ⟨e, hacknowledge⟩ := acknowledge_raises lib ⟨true, true⟩ settings uuid requestId
      result hraises.1 hraises.2
    rw [hacknowledge] at hevents
    cases hevents
  have haudit : (⟨true, true⟩ : RouteGlobals).auditRepository = true := rfl
  obtain ⟨recorded, -, horgId, hrecorded⟩ := exec_acknowledge_noting settings uuid requestId
    haudit hevent hraises ((handler (.ahandleServiceAppWebhook (.obj fields)) state).2, [])
  rw [hrecorded] at hevents
  exact ⟨hraises, List.singleton_inj.mp hevents ▸ horgId,
    exec_acknowledge _ _ lib _ settings uuid requestId result hraises⟩

/-- A webhook that the SDK refuses has its message in the answer. -/
theorem exec_webexWebhook_refused {fields : List (String × Json)} {message : String}
    (hbody : lib.loads body = .ok (.obj fields))
    (herror : (handler (.ahandleServiceAppWebhook (.obj fields)) state).1 =
      .error (.validationError message)) :
    ((webexWebhook lib ⟨true, true⟩ settings uuid requestId body).exec (auditing handler)
      (state, [])).1 = .error (.httpException 400 message) := by
  obtain ⟨orgId, hpayload⟩ := exists_payloadOrgId lib.repr fields
  have hrejected : (auditing handler (.ahandleServiceAppWebhook (.obj fields)) (state, [])).1 =
      .error (.validationError message) := by
    rw [auditing_ahandle, herror]
  rw [webexWebhook_eq settings uuid requestId rfl hbody hpayload,
    exec_handlePayload_rejected settings uuid requestId hrejected rfl, exec_reject]

/-- What is sent was rendered with the status it is sent with. -/
theorem exists_body_of_respond {statusCode : ℕ} {content : Content} {response : SentResponse}
    (h : lib.jsonResponse statusCode content = .ok response) :
    ∃ sent, lib.jsonResponse statusCode content = .ok ⟨statusCode, sent⟩ := by
  rw [RouteLib.jsonResponse] at h ⊢
  cases hrender : lib.render content with
  | ok sent => exact ⟨sent, rfl⟩
  | error message =>
      rw [hrender] at h
      cases h

theorem deliveryHandled_of_classifiedAndAudited (hlib : lib.Renders)
    (houtcome : SdkOutcome outcome)
    (hanswers : ∀ payload, (handler (.ahandleServiceAppWebhook payload) state).1 = outcome)
    (h : ClassifiedAndAudited lib body outcome
      (lib.respond ((webexWebhook lib ⟨true, true⟩ settings uuid requestId body).exec
        (auditing handler) (state, [])).1)
      ((webexWebhook lib ⟨true, true⟩ settings uuid requestId body).exec (auditing handler)
        (state, [])).2.2) :
    DeliveryHandled lib settings body outcome := by
  obtain ⟨response, hresponse, -⟩ := h.classified
  obtain ⟨event, hevents, -, hunknown⟩ := h.audited
  have hobject : ∃ fields, lib.loads body = .ok (.obj fields) := by
    by_contra hobject
    rw [exec_webexWebhook_no_object settings uuid requestId hobject] at hevents
    cases hevents
  obtain ⟨fields, hbody⟩ := hobject
  have haccepted (result : ServiceAppWebhookResult) (hresult : outcome = .ok result) :
      ¬ (result.event = "authorized" ∧ settings.UrlRaises lib.toUrlLib) ∧
        event.orgId = result.orgId ∧
        ((webexWebhook lib ⟨true, true⟩ settings uuid requestId body).exec (auditing handler)
          (state, [])).1 = .ok ⟨"ok", result.orgId, result.event⟩ := by
    subst hresult
    exact accepted_of_audited settings uuid requestId hbody (hanswers _) houtcome.event hevents
  constructor
  · exact ⟨fields, hbody⟩
  · intro result hresult
    exact (haccepted result hresult).1
  · intro result hresult
    by_cases hgives : GivesOrg lib body
    · exact Or.inl hgives
    · exact Or.inr ((haccepted result hresult).2.1.symm.trans (hunknown hgives))
  · intro result hresult
    rw [(haccepted result hresult).2.2, RouteLib.respond] at hresponse
    subst hresult
    exact (hlib.content_iff 200 result.orgId (ascii_event houtcome.event)).mp
      (exists_body_of_respond hresponse)
  · intro message hmessage
    rw [exec_webexWebhook_refused settings uuid requestId hbody ((hanswers _).trans hmessage),
      RouteLib.respond] at hresponse
    exact (hlib.detail_iff 400 message).mp (exists_body_of_respond hresponse)

theorem classifiedAndAudited_of_deliveryHandled (hlib : lib.Renders)
    (houtcome : SdkOutcome outcome)
    (hanswers : ∀ payload, (handler (.ahandleServiceAppWebhook payload) state).1 = outcome)
    (h : DeliveryHandled lib settings body outcome) :
    ClassifiedAndAudited lib body outcome
      (lib.respond ((webexWebhook lib ⟨true, true⟩ settings uuid requestId body).exec
        (auditing handler) (state, [])).1)
      ((webexWebhook lib ⟨true, true⟩ settings uuid requestId body).exec (auditing handler)
        (state, [])).2.2 := by
  obtain ⟨fields, hbody⟩ := h.object
  have hanswer := hanswers (.obj fields)
  cases houtcome with
  | authorized orgId =>
      exact classifiedAndAudited_accepted settings uuid requestId hlib hbody hanswer (Or.inl rfl)
        (h.url _ rfl) (h.org _ rfl) (h.orgText _ rfl)
  | deauthorized orgId =>
      exact classifiedAndAudited_accepted settings uuid requestId hlib hbody hanswer (Or.inr rfl)
        (h.url _ rfl) (h.org _ rfl) (h.orgText _ rfl)
  | validationError message =>
      exact classifiedAndAudited_rejected settings uuid requestId hlib (h.messageText _ rfl) hbody
        hanswer rfl
  | authenticationError message =>
      exact classifiedAndAudited_rejected settings uuid requestId hlib
        (hlib.ascii _ (by decide)) hbody hanswer rfl

end Delivery

end Audited

/-- Every delivery is classified and audited exactly when its body is a JSON
object, no refused URL stands in the way, and the answer can be encoded. -/
theorem webexWebhook_classifiedAndAudited_iff {σ : Type} (lib : RouteLib) (settings : Settings)
    (uuid : String) (requestId : Option String) (body : ByteArray)
    (outcome : Except PyException ServiceAppWebhookResult)
    (handler : Handler webhookCalls PyException σ) (state : σ) (hlib : lib.Renders)
    (houtcome : SdkOutcome outcome)
    (hanswers : ∀ payload, (handler (.ahandleServiceAppWebhook payload) state).1 = outcome) :
    ClassifiedAndAudited lib body outcome
        (lib.respond ((webexWebhook lib ⟨true, true⟩ settings uuid requestId body).exec
          (auditing handler) (state, [])).1)
        ((webexWebhook lib ⟨true, true⟩ settings uuid requestId body).exec (auditing handler)
          (state, [])).2.2 ↔
      DeliveryHandled lib settings body outcome :=
  ⟨deliveryHandled_of_classifiedAndAudited settings uuid requestId hlib houtcome hanswers,
    classifiedAndAudited_of_deliveryHandled settings uuid requestId hlib houtcome hanswers⟩

/-! ## A refused URL and a body that is no JSON -/

/-- The body of a webhook. -/
def orgBody : ByteArray := "\x7b\"orgId\": \"org-1\"\x7d".toUTF8

/-- A body that is no JSON. -/
def plainBody : ByteArray := "authorized".toUTF8

/-- The libraries, as far as these bodies need them. -/
def sampleRouteLib : RouteLib where
  nfkc text := text
  ipVersion text := .error ("'" ++ text ++ "' does not appear to be an IPv4 or IPv6 address")
  loads bytes :=
    if bytes.data = orgBody.data then .ok (.obj [("orgId", .str "org-1")])
    else .error (.jsonDecodeError "Expecting value: line 1 column 1 (char 0)")
  repr _ := ""
  encodable _ := true
  render content :=
    .ok (Json.dumps (.obj (content.map fun field => (field.1, .str field.2)))).toUTF8

theorem sampleRouteLib_renders : sampleRouteLib.Renders where
  ascii _ _ := rfl
  render _ := iff_of_true ⟨_, rfl⟩ fun _ _ => ⟨rfl, rfl⟩

/-- The SDK authorizes an org. -/
def authorizedOrg : ServiceAppWebhookResult := ⟨"org-1", "authorized"⟩

/-- The SDK accepts, data sources and the audit log cannot be reached. -/
def sideWorkFails : Handler webhookCalls PyException Unit
  | .ahandleServiceAppWebhook _, _ => (.ok authorizedOrg, ())
  | .byods _, _ => (.error (.other "ConnectError" "All connection attempts failed"), ())
  | .recordEvent _, _ => (.error (.clientError "ProvisionedThroughputExceededException"), ())

/-- The SDK accepts, the org has no data source yet, everything works. -/
def sideWorkSucceeds : Handler webhookCalls PyException Unit
  | .ahandleServiceAppWebhook _, _ => (.ok authorizedOrg, ())
  | .byods (.agetClientForOrg _), _ => (.ok (), ())
  | .byods (.alist _), _ => (.ok [], ())
  | .byods (.aget _ dataSourceId), _ => (.ok ⟨dataSourceId, ""⟩, ())
  | .byods (.acreate _ payload), _ => (.ok ⟨"ds-1", payload.url⟩, ())
  | .byods (.aupdate _ dataSourceId _), _ => (.ok ⟨dataSourceId, ""⟩, ())
  | .byods (.adelete _ _), _ => (.ok (), ())
  | .recordEvent _, _ => (.ok (), ())

/-- Settings with a target URL. -/
def hookSettings : Settings :=
  { defaultSettings with webhookTargetUrl := some "https://hooks.example.com/webhooks/webex" }

/-- Settings with a target URL whose bracket is never closed. -/
def bracketSettings : Settings := { defaultSettings with webhookTargetUrl := some "https://[" }

theorem loads_orgBody :
    sampleRouteLib.loads orgBody = .ok (.obj [("orgId", .str "org-1")]) := by
  simp only [sampleRouteLib]
  exact if_pos trivial

theorem webexWebhook_sideWorkInvisible_iff_connectError :
    SideWorkInvisible authorizedOrg
        ((webexWebhook sampleRouteLib ⟨true, true⟩ hookSettings "nonce" none orgBody).exec
          sideWorkFails ()).1
        ((webexWebhook sampleRouteLib ⟨true, true⟩ hookSettings "nonce" none orgBody).exec
          sideWorkSucceeds ()).1 ↔
      ¬ (authorizedOrg.event = "authorized" ∧ hookSettings.UrlRaises sampleRouteLib.toUrlLib) :=
  webexWebhook_sideWorkInvisible_iff sampleRouteLib true hookSettings "nonce" none orgBody
    [("orgId", .str "org-1")] authorizedOrg sideWorkFails () sideWorkSucceeds () loads_orgBody
    rfl rfl

/-- With the bracket left open the accepted webhook is answered with a 500. -/
theorem open_bracket_fails_webhook :
    httpStatus ((webexWebhook sampleRouteLib ⟨true, true⟩ bracketSettings "nonce" none
        orgBody).exec sideWorkSucceeds ()).1 = 500 ∧
      ¬ SideWorkInvisible authorizedOrg
        ((webexWebhook sampleRouteLib ⟨true, true⟩ bracketSettings "nonce" none orgBody).exec
          sideWorkSucceeds ()).1
        ((webexWebhook sampleRouteLib ⟨true, true⟩ bracketSettings "nonce" none orgBody).exec
          sideWorkSucceeds ()).1 := by
  have hraises : ((webexWebhook sampleRouteLib ⟨true, true⟩ bracketSettings "nonce" none
      orgBody).exec sideWorkSucceeds ()).1 = .error (.valueError "Invalid IPv6 URL") := by
    rw [webexWebhook_eq bracketSettings "nonce" none rfl loads_orgBody rfl]
    rfl
  rw [hraises]
  refine ⟨rfl, ?_⟩
  intro h
  cases h.answered

theorem webexWebhook_classifiedAndAudited_iff_org :
    ClassifiedAndAudited sampleRouteLib orgBody (.ok authorizedOrg)
        (sampleRouteLib.respond
          ((webexWebhook sampleRouteLib ⟨true, true⟩ hookSettings "nonce" none orgBody).exec
            (auditing sideWorkFails) ((), [])).1)
        ((webexWebhook sampleRouteLib ⟨true, true⟩ hookSettings "nonce" none orgBody).exec
          (auditing sideWorkFails) ((), [])).2.2 ↔
      DeliveryHandled sampleRouteLib hookSettings orgBody (.ok authorizedOrg) :=
  webexWebhook_classifiedAndAudited_iff sampleRouteLib hookSettings "nonce" none orgBody
    (.ok authorizedOrg) sideWorkFails () sampleRouteLib_renders (.authorized "org-1") fun _ => rfl

/-- A body that is no JSON is answered with a 500 and not audited. -/
theorem malformed_body_not_audited :
    sentStatus (sampleRouteLib.respond
        ((webexWebhook sampleRouteLib ⟨true, true⟩ hookSettings "nonce" none plainBody).exec
          (auditing sideWorkSucceeds) ((), [])).1) = 500 ∧
      ¬ ClassifiedAndAudited sampleRouteLib plainBody (.ok authorizedOrg)
        (sampleRouteLib.respond
          ((webexWebhook sampleRouteLib ⟨true, true⟩ hookSettings "nonce" none plainBody).exec
            (auditing sideWorkSucceeds) ((), [])).1)
        ((webexWebhook sampleRouteLib ⟨true, true⟩ hookSettings "nonce" none plainBody).exec
          (auditing sideWorkSucceeds) ((), [])).2.2 := by
  have hbody : sampleRouteLib.loads plainBody =
      .error (.jsonDecodeError "Expecting value: line 1 column 1 (char 0)") := by
    simp only [sampleRouteLib]
    exact if_neg (by decide)
  constructor
  · rw [webexWebhook, hbody]
    rfl
  · intro h
    obtain ⟨event, hevents, -⟩ := h.audited
    rw [webexWebhook, hbody] at hevents
    cases hevents

end ByodsServer
