/-
# The protocol of a media stream

What the reader's calls are allowed to be, after which history: events in the order
of a session, each with the session and the turn of the latest start, and stream
registrations under the conversation id in force. `requestReader_keepsProtocol` shows
that the reader keeps to it whatever its calls are answered; the rest of what is said
about the reader is read off from there.
-/

import ByodsServer.Byova.SdkPatch
import ByodsServer.Effects.Runs

namespace ByodsServer

open Effects

variable {Session Turn : Type}

/-! ## What the requests say -/

/-- How far the requests of a stream have come: the conversation id in force, the
conversation of the latest `SESSION_START`, and whether a `SESSION_END` was read. -/
structure StreamProgress where
  conversationId : String := ""
  started : Option String := none
  ended : Bool := false

/-- One more request. Without a conversation id in force it is passed over, and
nothing is read any more after a `SESSION_END`. -/
def StreamProgress.step (progress : StreamProgress) (request : VoiceVARequest) :
    StreamProgress :=
  let conversationId := request.conversationIdOr progress.conversationId
  if progress.ended ∨ conversationId = "" then progress
  else
    match request.eventInput.map EventInput.eventType with
    | some .sessionStart => ⟨conversationId, some conversationId, false⟩
    | some .sessionEnd => { progress with conversationId := conversationId, ended := true }
    | _ => { progress with conversationId := conversationId }

/-- The progress after some requests. -/
def streamProgress (requests : List VoiceVARequest) : StreamProgress :=
  runEvents StreamProgress.step {} requests

theorem streamProgress_concat (requests : List VoiceVARequest) (request : VoiceVARequest) :
    streamProgress (requests ++ [request]) = (streamProgress requests).step request :=
  runEvents_concat StreamProgress.step {} requests request

theorem VoiceVARequest.eq_empty_of_conversationIdOr {request : VoiceVARequest}
    {conversationId : String} (h : request.conversationIdOr conversationId = "") :
    conversationId = "" := by
  rw [VoiceVARequest.conversationIdOr] at h
  split_ifs at h with hrequest
  · exact h
  · exact (hrequest h).elim

/-- A request without an id in force is passed over. -/
theorem StreamProgress.step_of_empty {progress : StreamProgress} {request : VoiceVARequest}
    (h : request.conversationIdOr progress.conversationId = "") :
    progress.step request = progress :=
  if_pos (Or.inr h)

/-- Nothing is read after the end. -/
theorem StreamProgress.step_of_ended {progress : StreamProgress} {request : VoiceVARequest}
    (h : progress.ended = true) : progress.step request = progress :=
  if_pos (Or.inl h)

theorem StreamProgress.step_of_id {progress : StreamProgress} {request : VoiceVARequest}
    (hended : progress.ended = false)
    (hid : request.conversationIdOr progress.conversationId ≠ "") :
    progress.step request =
      match request.eventInput.map EventInput.eventType with
      | some .sessionStart => ⟨request.conversationIdOr progress.conversationId,
          some (request.conversationIdOr progress.conversationId), false⟩
      | some .sessionEnd =>
          { progress with
            conversationId := request.conversationIdOr progress.conversationId, ended := true }
      | _ => { progress with conversationId := request.conversationIdOr progress.conversationId } :=
  if_neg (by simp [hended, hid])

/-- The id in force is the one that the latest request says. -/
theorem StreamProgress.step_conversationId {progress : StreamProgress} {request : VoiceVARequest}
    (hended : progress.ended = false) :
    (progress.step request).conversationId = request.conversationIdOr progress.conversationId := by
  by_cases hid : request.conversationIdOr progress.conversationId = ""
  · rw [step_of_empty hid, hid]
    exact VoiceVARequest.eq_empty_of_conversationIdOr hid
  · rw [step_of_id hended hid]
    split
    · rfl
    · rfl
    · rfl

/-- A request with something for the session of its conversation: its end, audio, or
DTMF with digits. -/
def VoiceVARequest.addressesSession (dtmfMap : Int → Option String) (request : VoiceVARequest) :
    Bool :=
  match request.eventInput with
  | some event => event.eventType = .sessionEnd
  | none =>
      request.audioInput.isSome || request.dtmfInput.any fun dtmf => dtmf.digits dtmfMap ≠ ""

/-- The requests that start a session. -/
def VoiceVARequest.startsSession (request : VoiceVARequest) : Bool :=
  request.eventInput.any fun event => event.eventType = .sessionStart

/-- The requests that end a session. -/
def VoiceVARequest.endsSession (request : VoiceVARequest) : Bool :=
  request.eventInput.any fun event => event.eventType = .sessionEnd

/-! ## What the calls say -/

/-- The calls of the reader so far. -/
abbrev MediaHistory (Session Turn : Type) := History (mediaCalls Session Turn) MediaException

/-- An event as it was dispatched. -/
structure Dispatch (Session Turn : Type) where
  event : MediaEvent
  session : Session
  turn : Turn

/-- What the calls so far have brought about: whether the token was rejected; the
conversation id in force, which is the latest that a request carried; the dispatched
events, the latest first; the latest session that the store handed out, with its
conversation; and the conversations that the stream was registered for and not
unregistered from. -/
structure MediaAccount (Session Turn : Type) where
  rejected : Bool := false
  conversationId : String := ""
  dispatches : List (Dispatch Session Turn) := []
  latestSession : Option (String × Session) := none
  registrations : List String := []

/-- The account after one more call. -/
def MediaAccount.after (account : MediaAccount Session Turn) :
    Answered (mediaCalls Session Turn) MediaException → MediaAccount Session Turn
  | ⟨.verifyContext, .error _⟩ => { account with rejected := true }
  | ⟨.anext (some request), .ok _⟩ =>
      { account with conversationId := request.conversationIdOr account.conversationId }
  | ⟨.registerStream conversationId _, _⟩ =>
      { account with registrations := conversationId :: account.registrations }
  | ⟨.unregisterStream conversationId _, _⟩ =>
      { account with
        registrations := account.registrations.filter fun other => other ≠ conversationId }
  | ⟨.getOrCreate conversationId _, .ok session⟩ =>
      { account with latestSession := some (conversationId, session) }
  | ⟨.dispatchEvent _ event session turn, _⟩ =>
      { account with dispatches := ⟨event, session, turn⟩ :: account.dispatches }
  | _ => account

/-- The account of a history. -/
def accountOf : MediaHistory Session Turn → MediaAccount Session Turn
  | [] => {}
  | answered :: history => (accountOf history).after answered

/-- The session and the turn of the latest start. -/
def latestStart : List (Dispatch Session Turn) → Option (Session × Turn)
  | [] => none
  | ⟨.sessionStart _ _, session, turn⟩ :: _ => some (session, turn)
  | _ :: earlier => latestStart earlier

def MediaEvent.isSessionEnd : MediaEvent → Bool
  | .sessionEnd _ => true
  | _ => false

/-- A session ends once and for all; what it is given in between goes to the session
and the turn of the latest start, and DTMF has digits. -/
def MayFollow (earlier : List (Dispatch Session Turn)) (dispatch : Dispatch Session Turn) : Prop :=
  (∀ other ∈ earlier, other.event.isSessionEnd = false) ∧
    match dispatch.event with
    | .sessionStart _ _ => True
    | .dtmfInput digits =>
        latestStart earlier = some (dispatch.session, dispatch.turn) ∧ digits ≠ ""
    | _ => latestStart earlier = some (dispatch.session, dispatch.turn)

/-! ## The protocol -/

section Protocol

variable (streamId : String) (dtmfMap : Int → Option String) (requests : List VoiceVARequest)

/-- The session was handed out for the conversation of the latest start, and a request
under the id in force addresses it. -/
def Addressed (account : MediaAccount Session Turn) (session : Session) : Prop :=
  ∃ before request, before ++ [request] <+: requests ∧
    (streamProgress before).ended = false ∧ request.addressesSession dtmfMap = true ∧
    request.conversationIdOr (streamProgress before).conversationId = account.conversationId ∧
    account.conversationId ≠ "" ∧
    ∃ conversationId, (streamProgress before).started = some conversationId ∧
      account.latestSession = some (conversationId, session)

/-- The calls that are allowed. -/
def Allowed (account : MediaAccount Session Turn) : MediaCall Session Turn → Prop
  | .registerStream conversationId ofStream =>
      conversationId = account.conversationId ∧ ofStream = streamId
  | .unregisterStream conversationId ofStream =>
      conversationId = account.conversationId ∧ ofStream = streamId
  | .dispatchEvent _ (.sessionStart conversationId metadata) session turn =>
      account.rejected = false ∧
        MayFollow account.dispatches ⟨.sessionStart conversationId metadata, session, turn⟩
  | .dispatchEvent _ event session turn =>
      account.rejected = false ∧ MayFollow account.dispatches ⟨event, session, turn⟩ ∧
        Addressed dtmfMap requests account session
  | _ => True

variable {streamId dtmfMap requests} in
/-- A dispatch is allowed only with a token that was not rejected, and only after
events that it may follow. -/
theorem Allowed.dispatch {account : MediaAccount Session Turn} {name : String}
    {event : MediaEvent} {session : Session} {turn : Turn}
    (h : Allowed streamId dtmfMap requests account (.dispatchEvent name event session turn)) :
    account.rejected = false ∧ MayFollow account.dispatches ⟨event, session, turn⟩ := by
  cases event with
  | sessionStart conversationId metadata => exact h
  | _ => exact ⟨h.1, h.2.1⟩

/-- A conversation id that comes into force. -/
def ComesIntoForce (conversationId : String) : Prop :=
  conversationId ≠ "" ∧
    ∃ before, before <+: requests ∧ (streamProgress before).conversationId = conversationId

/-- In the end, only ids that have gone out of force can still be registered. -/
def Released (account : MediaAccount Session Turn) : Prop :=
  ∀ conversationId ∈ account.registrations, conversationId ≠ account.conversationId ∧
    ComesIntoForce requests conversationId ∧ ComesIntoForce requests account.conversationId

/-- From a history on, a program makes allowed calls only and ends released. -/
def KeepsProtocol (p : MediaProgram Session Turn Unit) (history : MediaHistory Session Turn) :
    Prop :=
  p.Follows (fun history => Allowed streamId dtmfMap requests (accountOf history))
    (fun history _ => Released requests (accountOf history)) history

/-! ## The reader keeps to it -/

/-- The local conversation id is the one in force, and every registration was made
under an id that came into force. -/
structure Accounted (locals : ReaderLocals Session Turn) (account : MediaAccount Session Turn) :
    Prop where
  conversationId : account.conversationId = locals.conversationId
  registered : ∀ conversationId ∈ account.registrations,
    ComesIntoForce requests conversationId ∧ ComesIntoForce requests locals.conversationId

/-- The token is not rejected, no session has ended, and the local session and turn
are those of the latest start, whose conversation is known from the requests. -/
structure InSession (locals : ReaderLocals Session Turn) (account : MediaAccount Session Turn)
    (started : Option String) : Prop where
  verified : account.rejected = false
  none_ended : ∀ other ∈ account.dispatches, other.event.isSessionEnd = false
  ofLatestStart : ∀ session turn, locals.session = some session → locals.turn = some turn →
    latestStart account.dispatches = some (session, turn) ∧
    ∃ conversationId, started = some conversationId ∧
      account.latestSession = some (conversationId, session)

variable {streamId dtmfMap requests} {config : MediaConfig}
  {locals : ReaderLocals Session Turn} {history : MediaHistory Session Turn}

theorem finallyClause_keepsProtocol (h : Accounted requests locals (accountOf history))
    (result : Except MediaException Unit) :
    KeepsProtocol streamId dtmfMap requests (finallyClause streamId locals result) history := by
  by_cases hempty : locals.conversationId = ""
  · have hnone (conversationId : String) :
        conversationId ∉ (accountOf history).registrations :=
      fun hmem => (h.registered conversationId hmem).2.1 hempty
    rw [finallyClause, if_neg (not_not.mpr hempty)]
    refine ⟨trivial, fun reply => ?_⟩
    cases reply with
    | ok _ => exact fun conversationId hmem => (hnone conversationId hmem).elim
    | error e => exact fun conversationId hmem => (hnone conversationId hmem).elim
  · rw [finallyClause, if_pos hempty]
    have hreleased (reply : Except MediaException Unit) : Released requests
        ((accountOf history).after
          ⟨.unregisterStream locals.conversationId streamId, reply⟩) := by
      intro conversationId hmem
      obtain ⟨hregistered, hne⟩ := List.mem_filter.mp hmem
      obtain ⟨hid, hlocal⟩ := h.registered conversationId hregistered
      show _ ≠ (accountOf history).conversationId ∧ _ ∧
        ComesIntoForce requests (accountOf history).conversationId
      rw [h.conversationId]
      exact ⟨by simpa using hne, hid, hlocal⟩
    refine ⟨⟨h.conversationId.symm, rfl⟩, fun reply => ?_⟩
    cases reply with
    | ok value =>
        refine ⟨trivial, fun last => ?_⟩
        cases last with
        | ok _ => exact hreleased (.ok value)
        | error _ => exact hreleased (.ok value)
    | error e => exact hreleased (.error e)

/-- The `except` clauses make calls that are always allowed and not accounted for. -/
theorem exceptClauses_follows (h : Accounted requests locals (accountOf history))
    (e : MediaException) :
    (exceptClauses locals e).Follows
      (fun history => Allowed streamId dtmfMap requests (accountOf history))
      (fun history _ => Accounted requests locals (accountOf history)) history := by
  have huses : (exceptClauses locals e).Uses fun request =>
      ∀ account : MediaAccount Session Turn, Allowed streamId dtmfMap requests account request ∧
        ∀ reply, account.after ⟨request, reply⟩ = account :=
    exceptClauses_uses (fun _ _ => ⟨trivial, fun _ => rfl⟩) (fun _ _ => ⟨trivial, fun _ => rfl⟩)
      (fun _ _ _ _ _ _ => ⟨trivial, fun _ => rfl⟩) e
  refine huses.follows (fun history request hcall _ => (hcall _).1) ?_ h
  intro history request reply hcall haccounted
  show Accounted requests locals ((accountOf history).after ⟨request, reply⟩)
  rw [(hcall _).2]
  exact haccounted

/-- A call of the `try` statement: its exceptions are taken care of when the local
variables still account for the registrations. -/
theorem attempt_keepsProtocol {request : MediaCall Session Turn}
    {next : request.Reply → MediaProgram Session Turn Unit}
    (hallowed : Allowed streamId dtmfMap requests (accountOf history) request)
    (haccounted : ∀ e, Accounted requests locals ((accountOf history).after ⟨request, .error e⟩))
    (hnext : ∀ reply, KeepsProtocol streamId dtmfMap requests (next reply)
      (⟨request, .ok reply⟩ :: history)) :
    KeepsProtocol streamId dtmfMap requests (attempt streamId locals request next) history := by
  refine ⟨hallowed, fun reply => ?_⟩
  cases reply with
  | ok reply => exact hnext reply
  | error e =>
      have hlater : Accounted requests locals (accountOf (⟨request, .error e⟩ :: history)) :=
        haccounted e
      exact (exceptClauses_follows hlater e).resume
        fun _ result hend => finallyClause_keepsProtocol hend result

/-- At a request under an id in force, before it is handled. -/
structure Handling (requests : List VoiceVARequest) (locals : ReaderLocals Session Turn)
    (account : MediaAccount Session Turn) (done : List VoiceVARequest)
    (request : VoiceVARequest) : Prop where
  read : done ++ [request] <+: requests
  not_ended : (streamProgress done).ended = false
  conversationId :
    request.conversationIdOr (streamProgress done).conversationId = locals.conversationId
  ne_empty : locals.conversationId ≠ ""
  accounted : Accounted requests locals account
  inSession : InSession locals account (streamProgress done).started

/-- Between two requests. -/
structure Reading (requests : List VoiceVARequest) (locals : ReaderLocals Session Turn)
    (account : MediaAccount Session Turn) (done : List VoiceVARequest) : Prop where
  not_ended : (streamProgress done).ended = false
  conversationId : (streamProgress done).conversationId = locals.conversationId
  accounted : Accounted requests locals account
  inSession : InSession locals account (streamProgress done).started

section Request

variable {done : List VoiceVARequest} {request : VoiceVARequest}
  {next : ReaderLocals Session Turn → MediaProgram Session Turn Unit}

theorem Handling.streamProgress_eq {account : MediaAccount Session Turn}
    (h : Handling requests locals account done request) :
    streamProgress (done ++ [request]) =
      match request.eventInput.map EventInput.eventType with
      | some .sessionStart => ⟨locals.conversationId, some locals.conversationId, false⟩
      | some .sessionEnd =>
          { streamProgress done with conversationId := locals.conversationId, ended := true }
      | _ => { streamProgress done with conversationId := locals.conversationId } := by
  have hid := h.ne_empty
  rw [← h.conversationId] at hid
  rw [streamProgress_concat, StreamProgress.step_of_id h.not_ended hid, h.conversationId]

/-- A request that neither starts nor ends a session leaves the session as it is. -/
theorem Handling.reading {account : MediaAccount Session Turn}
    (h : Handling requests locals account done request)
    (hstart : request.eventInput.map EventInput.eventType ≠ some .sessionStart)
    (hend : request.eventInput.map EventInput.eventType ≠ some .sessionEnd) :
    Reading requests locals account (done ++ [request]) := by
  have hprogress : streamProgress (done ++ [request]) =
      { streamProgress done with conversationId := locals.conversationId } := by
    rw [h.streamProgress_eq]
    split
    · exact (hstart ‹_›).elim
    · exact (hend ‹_›).elim
    · rfl
  refine ⟨?_, ?_, h.accounted, ?_⟩
  · rw [hprogress]
    exact h.not_ended
  · rw [hprogress]
  · rw [hprogress]
    exact h.inSession

theorem onSessionStart_keepsProtocol {event : EventInput}
    (hevent : request.eventInput = some event) (hstart : event.eventType = .sessionStart)
    (h : Handling requests locals (accountOf history) done request)
    (hnext : ∀ locals history, Reading requests locals (accountOf history) (done ++ [request]) →
      KeepsProtocol streamId dtmfMap requests (next locals) history) :
    KeepsProtocol streamId dtmfMap requests (onSessionStart streamId request event locals next)
      history := by
  have hprogress := h.streamProgress_eq
  rw [hevent, Option.map_some, hstart] at hprogress
  have haccounted := h.accounted
  refine attempt_keepsProtocol trivial (fun _ => haccounted) fun session => ?_
  have hcreated : Accounted requests { locals with session := some session }
      (accountOf (⟨.getOrCreate locals.conversationId
        (enrichSessionMetadata event.parameters request), .ok session⟩ :: history)) :=
    ⟨haccounted.conversationId, haccounted.registered⟩
  refine attempt_keepsProtocol trivial (fun _ => hcreated) fun turnCount => ?_
  refine attempt_keepsProtocol trivial (fun _ => hcreated) fun turn => ?_
  have hbound : Accounted requests { locals with session := some session, turn := some turn }
      (accountOf (⟨.getOrCreate locals.conversationId
        (enrichSessionMetadata event.parameters request), .ok session⟩ :: history)) :=
    ⟨haccounted.conversationId, haccounted.registered⟩
  refine attempt_keepsProtocol trivial (fun _ => hbound) fun _ => ?_
  refine attempt_keepsProtocol trivial (fun _ => hbound) fun _ => ?_
  refine attempt_keepsProtocol ⟨h.inSession.verified, h.inSession.none_ended, trivial⟩
    (fun _ => ⟨haccounted.conversationId, haccounted.registered⟩) fun _ => ?_
  apply hnext
  refine ⟨?_, ?_, ⟨haccounted.conversationId, haccounted.registered⟩,
    h.inSession.verified, ?_, ?_⟩
  · rw [hprogress]
  · rw [hprogress]
  · exact List.forall_mem_cons.mpr ⟨rfl, h.inSession.none_ended⟩
  · rintro session' turn' ⟨⟩ ⟨⟩
    rw [hprogress]
    exact ⟨rfl, locals.conversationId, rfl, rfl⟩

/-- The session and the turn that a request addresses. -/
theorem Handling.addressed {account : MediaAccount Session Turn}
    (h : Handling requests locals account done request)
    (haddresses : request.addressesSession dtmfMap = true) {session : Session} {turn : Turn}
    (hsession : locals.session = some session) (hturn : locals.turn = some turn) :
    latestStart account.dispatches = some (session, turn) ∧
      Addressed dtmfMap requests account session := by
  obtain ⟨hlatest, conversationId, hstarted, hcreated⟩ :=
    h.inSession.ofLatestStart session turn hsession hturn
  have hid := h.accounted.conversationId
  refine ⟨hlatest, done, request, h.read, h.not_ended, haddresses, ?_, ?_, conversationId,
    hstarted, hcreated⟩
  · rw [hid]
    exact h.conversationId
  · rw [hid]
    exact h.ne_empty

theorem onSessionEnd_keepsProtocol {event : EventInput}
    (hevent : request.eventInput = some event) (hend : event.eventType = .sessionEnd)
    (h : Handling requests locals (accountOf history) done request) :
    KeepsProtocol streamId dtmfMap requests (onSessionEnd streamId locals) history := by
  have hrelease (history : MediaHistory Session Turn)
      (haccounted : Accounted requests locals (accountOf history)) :
      KeepsProtocol streamId dtmfMap requests
        (attempt streamId locals (.releaseSession locals.conversationId) fun _ =>
          finallyClause streamId locals (.ok ())) history := by
    refine attempt_keepsProtocol trivial (fun _ => haccounted) fun _ => ?_
    apply finallyClause_keepsProtocol
    exact haccounted
  have haddresses : request.addressesSession dtmfMap = true := by
    simp [VoiceVARequest.addressesSession, hevent, hend]
  rw [onSessionEnd]
  split
  · next session turn hsession hturn =>
      obtain ⟨hlatest, haddressed⟩ := h.addressed haddresses hsession hturn
      refine attempt_keepsProtocol
        ⟨h.inSession.verified, ⟨h.inSession.none_ended, hlatest⟩, haddressed⟩
        (fun _ => ⟨h.accounted.conversationId, h.accounted.registered⟩) fun _ => ?_
      exact hrelease _ ⟨h.accounted.conversationId, h.accounted.registered⟩
  · exact hrelease history h.accounted

theorem onNoInput_keepsProtocol
    (h : Reading requests locals (accountOf history) done)
    (hnext : ∀ locals history, Reading requests locals (accountOf history) done →
      KeepsProtocol streamId dtmfMap requests (next locals) history) :
    KeepsProtocol streamId dtmfMap requests (onNoInput streamId locals next) history := by
  rw [onNoInput]
  split
  · refine attempt_keepsProtocol trivial (fun _ => h.accounted) fun _ => ?_
    exact hnext _ _ h
  · exact hnext _ _ h

/-- An event other than a start and an end leaves the reader between two requests. -/
theorem Reading.dispatched {account : MediaAccount Session Turn}
    (h : Reading requests locals account done) {event : MediaEvent} {session : Session}
    {turn : Turn} (hstart : latestStart (⟨event, session, turn⟩ :: account.dispatches) =
      latestStart account.dispatches) (hend : event.isSessionEnd = false) :
    Reading requests locals
      { account with dispatches := ⟨event, session, turn⟩ :: account.dispatches } done := by
  refine ⟨h.not_ended, h.conversationId,
    ⟨h.accounted.conversationId, h.accounted.registered⟩, h.inSession.verified, ?_, ?_⟩
  · exact List.forall_mem_cons.mpr ⟨hend, h.inSession.none_ended⟩
  · intro session turn hsession hturn
    show latestStart (_ :: account.dispatches) = _ ∧ _
    rw [hstart]
    exact h.inSession.ofLatestStart session turn hsession hturn

theorem onAudioInput_keepsProtocol {audio : AudioInput} {session : Session} {turn : Turn}
    (hevent : request.eventInput = none) (haudio : request.audioInput = some audio)
    (hsession : locals.session = some session) (hturn : locals.turn = some turn)
    (h : Handling requests locals (accountOf history) done request)
    (hnext : ∀ locals history, Reading requests locals (accountOf history) (done ++ [request]) →
      KeepsProtocol streamId dtmfMap requests (next locals) history) :
    KeepsProtocol streamId dtmfMap requests
      (onAudioInput streamId config audio session turn locals next) history := by
  have haddresses : request.addressesSession dtmfMap = true := by
    simp [VoiceVARequest.addressesSession, hevent, haudio]
  obtain ⟨hlatest, haddressed⟩ := h.addressed haddresses hsession hturn
  have hsame := h.reading (by simp [hevent]) (by simp [hevent])
  have hreading : Reading requests { locals with firstAudio := false } (accountOf history)
      (done ++ [request]) :=
    ⟨hsame.not_ended, hsame.conversationId,
      ⟨hsame.accounted.conversationId, hsame.accounted.registered⟩,
      ⟨hsame.inSession.verified, hsame.inSession.none_ended, hsame.inSession.ofLatestStart⟩⟩
  have haccounted := hreading.accounted
  refine attempt_keepsProtocol trivial (fun _ => h.accounted) fun _ => ?_
  refine attempt_keepsProtocol trivial (fun _ => h.accounted) fun _ => ?_
  refine attempt_keepsProtocol
    ⟨h.inSession.verified, ⟨h.inSession.none_ended, hlatest⟩, haddressed⟩
    (fun _ => ⟨haccounted.conversationId, haccounted.registered⟩) fun _ => ?_
  refine attempt_keepsProtocol trivial
    (fun _ => ⟨haccounted.conversationId, haccounted.registered⟩) fun _ => ?_
  apply hnext
  exact hreading.dispatched rfl rfl

theorem onDtmfInput_keepsProtocol {dtmf : DtmfInput} {session : Session} {turn : Turn}
    (hevent : request.eventInput = none) (haudio : request.audioInput = none)
    (hdtmf : request.dtmfInput = some dtmf)
    (hsession : locals.session = some session) (hturn : locals.turn = some turn)
    (h : Handling requests locals (accountOf history) done request)
    (hnext : ∀ locals history, Reading requests locals (accountOf history) (done ++ [request]) →
      KeepsProtocol streamId dtmfMap requests (next locals) history) :
    KeepsProtocol streamId dtmfMap requests
      (onDtmfInput streamId dtmfMap dtmf session turn locals next) history := by
  have hreading := h.reading (by simp [hevent]) (by simp [hevent])
  rw [onDtmfInput]
  by_cases hdigits : dtmf.digits dtmfMap ≠ ""
  · have haddresses : request.addressesSession dtmfMap = true := by
      simp [VoiceVARequest.addressesSession, hevent, haudio, hdtmf, hdigits]
    obtain ⟨hlatest, haddressed⟩ := h.addressed haddresses hsession hturn
    rw [if_pos hdigits]
    refine attempt_keepsProtocol
      ⟨h.inSession.verified, ⟨h.inSession.none_ended, hlatest, hdigits⟩, haddressed⟩
      (fun _ => ⟨h.accounted.conversationId, h.accounted.registered⟩) fun _ => ?_
    refine attempt_keepsProtocol trivial
      (fun _ => ⟨h.accounted.conversationId, h.accounted.registered⟩) fun _ => ?_
    apply hnext
    exact hreading.dispatched rfl rfl
  · rw [if_neg hdigits]
    exact hnext _ _ hreading

theorem onRequest_keepsProtocol
    (h : Handling requests locals (accountOf history) done request)
    (hnext : ∀ locals history, Reading requests locals (accountOf history) (done ++ [request]) →
      KeepsProtocol streamId dtmfMap requests (next locals) history) :
    KeepsProtocol streamId dtmfMap requests
      (onRequest streamId config dtmfMap request locals next) history := by
  rw [onRequest]
  cases hevent : request.eventInput with
  | some event =>
      dsimp only
      cases htype : event.eventType with
      | sessionStart => exact onSessionStart_keepsProtocol hevent htype h hnext
      | sessionEnd => exact onSessionEnd_keepsProtocol hevent htype h
      | noInput =>
          exact onNoInput_keepsProtocol
            (h.reading (by simp [hevent, htype]) (by simp [hevent, htype])) hnext
      | other value =>
          exact hnext _ _ (h.reading (by simp [hevent, htype]) (by simp [hevent, htype]))
  | none =>
      have hreading := h.reading (by simp [hevent]) (by simp [hevent])
      dsimp only
      split
      · next session turn hsession hturn =>
          cases haudio : request.audioInput with
          | some audio =>
              exact onAudioInput_keepsProtocol hevent haudio hsession hturn h hnext
          | none =>
              cases hdtmf : request.dtmfInput with
              | some dtmf =>
                  exact onDtmfInput_keepsProtocol hevent haudio hdtmf hsession hturn h hnext
              | none => exact hnext _ _ hreading
      · exact hnext _ _ hreading

end Request

/-- A request without an id in force is passed over. -/
theorem Reading.passOver {account : MediaAccount Session Turn} {done : List VoiceVARequest}
    {request : VoiceVARequest} (h : Reading requests locals account done)
    (hempty : request.conversationIdOr locals.conversationId = "") :
    Reading requests
      { locals with conversationId := request.conversationIdOr locals.conversationId }
      { account with conversationId := request.conversationIdOr account.conversationId }
      (done ++ [request]) := by
  have hlocal := VoiceVARequest.eq_empty_of_conversationIdOr hempty
  have hsame : streamProgress (done ++ [request]) = streamProgress done := by
    rw [streamProgress_concat]
    exact StreamProgress.step_of_empty (by rw [h.conversationId]; exact hempty)
  refine ⟨?_, ?_, ⟨?_, ?_⟩, ?_⟩
  · rw [hsame]
    exact h.not_ended
  · rw [hsame, h.conversationId, hempty, hlocal]
  · rw [h.accounted.conversationId]
  · intro conversationId hmem
    exact (((h.accounted.registered conversationId hmem).2.1) hlocal).elim
  · rw [hsame]
    exact ⟨h.inSession.verified, h.inSession.none_ended, h.inSession.ofLatestStart⟩

/-- A request under an id in force is registered for before it is handled. -/
theorem Reading.comesIntoForce {account : MediaAccount Session Turn} {done : List VoiceVARequest}
    {request : VoiceVARequest} (h : Reading requests locals account done)
    (hread : done ++ [request] <+: requests)
    (hne : request.conversationIdOr locals.conversationId ≠ "") :
    ComesIntoForce requests (request.conversationIdOr locals.conversationId) := by
  refine ⟨hne, done ++ [request], hread, ?_⟩
  rw [streamProgress_concat, StreamProgress.step_conversationId h.not_ended, h.conversationId]

theorem readRequests_keepsProtocol (rest : List VoiceVARequest) :
    ∀ {done : List VoiceVARequest} {locals : ReaderLocals Session Turn}
      {history : MediaHistory Session Turn}, done ++ rest = requests →
      Reading requests locals (accountOf history) done →
      KeepsProtocol streamId dtmfMap requests
        (readRequests streamId config dtmfMap rest locals) history := by
  induction rest with
  | nil =>
      intro done locals history hrest h
      refine attempt_keepsProtocol trivial (fun _ => h.accounted) fun _ => ?_
      apply finallyClause_keepsProtocol
      exact h.accounted
  | cons request rest ih =>
      intro done locals history hrest h
      have hdone : (done ++ [request]) ++ rest = requests := by simpa using hrest
      have hread : done ++ [request] <+: requests := ⟨rest, hdone⟩
      have hid : request.conversationIdOr (accountOf history).conversationId =
          request.conversationIdOr locals.conversationId := by rw [h.accounted.conversationId]
      refine attempt_keepsProtocol trivial (fun _ => h.accounted) fun reply => ?_
      by_cases hempty : request.conversationIdOr locals.conversationId = ""
      · dsimp only
        rw [if_pos hempty]
        apply ih hdone
        exact h.passOver hempty
      · have hforce := h.comesIntoForce hread hempty
        have hregistered (conversationId : String)
            (hmem : conversationId ∈ request.conversationIdOr locals.conversationId ::
              (accountOf history).registrations) :
            ComesIntoForce requests conversationId ∧
              ComesIntoForce requests (request.conversationIdOr locals.conversationId) := by
          rcases List.mem_cons.mp hmem with rfl | hmem
          · exact ⟨hforce, hforce⟩
          · exact ⟨(h.accounted.registered conversationId hmem).1, hforce⟩
        dsimp only
        rw [if_neg hempty]
        refine attempt_keepsProtocol ⟨hid.symm, rfl⟩ (fun _ => ⟨hid, hregistered⟩) fun _ => ?_
        refine onRequest_keepsProtocol ⟨hread, h.not_ended, ?_, hempty, ⟨hid, hregistered⟩,
          ⟨h.inSession.verified, h.inSession.none_ended, h.inSession.ofLatestStart⟩⟩
          fun _ _ hreading => ih hdone hreading
        rw [h.conversationId]

/-- Whatever its calls are answered, the reader makes allowed calls only, and in the
end only ids that have gone out of force can still be registered. -/
theorem requestReader_keepsProtocol (streamId : String) (config : MediaConfig)
    (dtmfMap : Int → Option String) (requests : List VoiceVARequest) :
    KeepsProtocol streamId dtmfMap requests
      (requestReader streamId config dtmfMap requests : MediaProgram Session Turn Unit) [] := by
  have hstart : Reading requests ({} : ReaderLocals Session Turn)
      (accountOf ([] : MediaHistory Session Turn)) [] :=
    ⟨rfl, rfl, ⟨rfl, by simp [accountOf]⟩, ⟨rfl, by simp [accountOf], by simp⟩⟩
  rw [requestReader]
  split
  · refine attempt_keepsProtocol trivial
      (fun _ => ⟨hstart.accounted.conversationId, hstart.accounted.registered⟩) fun _ => ?_
    refine readRequests_keepsProtocol requests (List.nil_append requests) ?_
    exact hstart
  · exact readRequests_keepsProtocol requests (List.nil_append requests) hstart

/-- Every call of a run is allowed after the calls before it. -/
theorem allowed_of_trace {σ : Type}
    {handler : Handler (mediaCalls Session Turn) MediaException σ} {streamId : String}
    {config : MediaConfig} {dtmfMap : Int → Option String} {requests : List VoiceVARequest}
    {state : σ} {before after : List (Answered (mediaCalls Session Turn) MediaException)}
    {latest : Answered (mediaCalls Session Turn) MediaException}
    (h : (requestReader streamId config dtmfMap requests).trace handler state =
      before ++ latest :: after) :
    Allowed streamId dtmfMap requests (accountOf before.reverse) latest.1 := by
  have hallowed := (requestReader_keepsProtocol streamId config dtmfMap
    requests).allowed_of_trace state h
  rwa [List.append_nil] at hallowed

end Protocol

end ByodsServer
