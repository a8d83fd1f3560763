/-
# The reader of a media stream

`request_reader` of `ProcessCallerInput`: it takes the requests of one stream one
by one, keeps the conversation id in force, the session and the turn in local
variables, and calls the SDK's store, turn manager, sessions and server. Sessions
and turns are the SDK's, so their types are parameters; as objects without a
`__bool__` they count as true. An exception of any call inside the `try` statement
goes to the `except` clauses with the local variables as they are then.
-/

import ByodsServer.Effects.Histories
import ByodsServer.Exceptions
import ByodsServer.Python.Json

namespace ByodsServer

open Effects Python

/-! ## Requests and events -/

/-- `EventInput.EventType`. -/
inductive EventType
  | sessionStart
  | sessionEnd
  | noInput
  | other (value : Int)
  deriving DecidableEq, Repr

/-- The parameters of an event, or the metadata of a session. -/
abbrev Metadata := List (String × Json)

/-- `EventInput`, its parameters as `_struct_to_dict` returns them. -/
structure EventInput where
  eventType : EventType
  parameters : Metadata

/-- `AudioInput`. -/
structure AudioInput where
  callerAudio : List UInt8
  sampleRateHertz : Int

/-- `DTMFInputs`. -/
structure DtmfInput where
  dtmfEvents : List Int

/-- `VoiceVARequest`; a field is `none` when `HasField` says so. -/
structure VoiceVARequest where
  conversationId : String
  customerOrgId : String
  virtualAgentId : String
  eventInput : Option EventInput
  audioInput : Option AudioInput
  dtmfInput : Option DtmfInput

/-- The media events that the reader dispatches. -/
inductive MediaEvent
  | sessionStart (conversationId : String) (metadata : Metadata)
  | audioInput (audio : List UInt8) (encoding : String) (sampleRate : Int)
  | dtmfInput (digits : String)
  | sessionEnd (reason : String)

/-- What the reader reads of `MediaServerConfig`. -/
structure MediaConfig where
  verifyTokens : Bool
  sampleRate : Int

/-- `grpc.StatusCode`, as far as the reader sets it. -/
inductive StatusCode
  | alreadyExists
  | unauthenticated
  deriving DecidableEq, Repr

/-- What a call of the reader can raise: `DuplicateTurnStreamError`, another
exception derived from `Exception`, or one that is not, such as `CancelledError`. -/
inductive MediaException
  | duplicateTurnStreamError (message : String)
  | exception (exc : PyException)
  | baseException (className : String)

/-- The calls of the reader. -/
inductive MediaCall (Session Turn : Type)
  | verifyContext
  | anext (request : Option VoiceVARequest)
  | registerStream (conversationId streamId : String)
  | getOrCreate (conversationId : String) (metadata : Metadata)
  | turnCount (session : Session)
  | turnContext (session : Session) (turnNumber : Int)
  | bindTurn (session : Session) (turn : Turn)
  | startTurn (session : Session) (turn : Turn)
  | dispatchEvent (name : String) (event : MediaEvent) (session : Session) (turn : Turn)
  | releaseSession (conversationId : String)
  | cancelNoInputTimer (turn : Turn)
  | onInboundAudio (session : Session) (turn : Turn) (isFirst : Bool)
  | resolveInput (session : Session) (event : MediaEvent)
  | setCode (code : StatusCode)
  | setDetails (details : String)
  | handleHandlerError (exc : MediaException) (session : Session) (turn : Turn)
  | unregisterStream (conversationId streamId : String)
  | putNone

/-- What each call answers. -/
@[reducible]
def MediaCall.Reply {Session Turn : Type} : MediaCall Session Turn → Type
  | .getOrCreate _ _ => Session
  | .turnCount _ => Int
  | .turnContext _ _ => Turn
  | _ => Unit

/-- The reader's calls as something a program can call. -/
def mediaCalls (Session Turn : Type) : Signature where
  Call := MediaCall Session Turn
  Reply := MediaCall.Reply

/-- A coroutine of the media server. -/
abbrev MediaProgram (Session Turn : Type) := Program (mediaCalls Session Turn) MediaException

/-! ## The reader -/

/-- `request.conversation_id or conversation_id`. -/
def VoiceVARequest.conversationIdOr (request : VoiceVARequest) (conversationId : String) : String :=
  if request.conversationId = "" then conversationId else request.conversationId

/-- `fields[name] = value`. -/
def setItem (fields : Metadata) (name : String) (value : Json) : Metadata :=
  if fields.any fun field => field.1 = name then
    fields.map fun field => if field.1 = name then (name, value) else field
  else fields ++ [(name, value)]

/-- `_enrich_session_metadata`. -/
def enrichSessionMetadata (metadata : Metadata) (request : VoiceVARequest) : Metadata :=
  let enriched :=
    if request.virtualAgentId ≠ "" then
      setItem metadata "virtual_agent_id" (.str request.virtualAgentId)
    else metadata
  if request.customerOrgId ≠ "" then
    setItem enriched "customer_org_id" (.str request.customerOrgId)
  else enriched

/-- The digits of a DTMF input; `dtmfMap` is `_DTMF_MAP`. -/
def DtmfInput.digits (dtmfMap : Int → Option String) (input : DtmfInput) : String :=
  String.join (input.dtmfEvents.map fun event => (dtmfMap event).getD "")

/-- The local variables of the reader. -/
structure ReaderLocals (Session Turn : Type) where
  conversationId : String := ""
  turn : Option Turn := none
  session : Option Session := none
  firstAudio : Bool := true

section Reader

variable {Session Turn : Type} (streamId : String) (config : MediaConfig)
  (dtmfMap : Int → Option String)

/-- One call. -/
def callMedia (request : MediaCall Session Turn) : MediaProgram Session Turn request.Reply :=
  Program.await (S := mediaCalls Session Turn) request

/-- The `finally` clause, and then the result of the `try` statement. -/
def finallyClause (locals : ReaderLocals Session Turn) (result : Except MediaException Unit) :
    MediaProgram Session Turn Unit :=
  (do
    if locals.conversationId ≠ "" then
      callMedia (.unregisterStream locals.conversationId streamId)
    callMedia .putNone).resume
      (Program.andThen fun _ => Program.ofExcept result)

/-- The `except` clauses. -/
def exceptClauses (locals : ReaderLocals Session Turn) (e : MediaException) :
    MediaProgram Session Turn Unit :=
  match e with
  | .duplicateTurnStreamError _ => do
      callMedia (.setCode .alreadyExists)
      callMedia (.setDetails "Duplicate turn stream")
  | .exception (.authenticationError _) => do
      callMedia (.setCode .unauthenticated)
      callMedia (.setDetails "Invalid token")
  | .exception exc =>
      match locals.session, locals.turn with
      | some session, some turn => callMedia (.handleHandlerError (.exception exc) session turn)
      | _, _ => pure ()
  | .baseException className => throw (.baseException className)

/-- A call inside the `try` statement. -/
def attempt (locals : ReaderLocals Session Turn) (request : MediaCall Session Turn)
    (next : request.Reply → MediaProgram Session Turn Unit) : MediaProgram Session Turn Unit :=
  .call (S := mediaCalls Session Turn) request fun
    | .ok reply => next reply
    | .error e => (exceptClauses locals e).resume (finallyClause streamId locals)

/-- A `SESSION_START` event. -/
def onSessionStart (request : VoiceVARequest) (event : EventInput)
    (locals : ReaderLocals Session Turn)
    (next : ReaderLocals Session Turn → MediaProgram Session Turn Unit) :
    MediaProgram Session Turn Unit :=
  let metadata := enrichSessionMetadata event.parameters request
  attempt streamId locals (.getOrCreate locals.conversationId metadata) fun session =>
  let locals := { locals with session := some session }
  attempt streamId locals (.turnCount session) fun (turnCount : Int) =>
  attempt streamId locals (.turnContext session (turnCount + 1)) fun turn =>
  let locals := { locals with turn := some turn }
  attempt streamId locals (.bindTurn session turn) fun _ =>
  attempt streamId locals (.startTurn session turn) fun _ =>
  attempt streamId locals (.dispatchEvent "session_start"
    (.sessionStart locals.conversationId metadata) session turn) fun _ =>
  next locals

/-- A `SESSION_END` event, after which the reader returns. -/
def onSessionEnd (locals : ReaderLocals Session Turn) : MediaProgram Session Turn Unit :=
  let release :=
    attempt streamId locals (.releaseSession locals.conversationId) fun _ =>
    finallyClause streamId locals (.ok ())
  match locals.session, locals.turn with
  | some session, some turn =>
      attempt streamId locals (.dispatchEvent "session_end" (.sessionEnd "webex_terminate")
        session turn) fun _ => release
  | _, _ => release

/-- A `NO_INPUT` event. -/
def onNoInput (locals : ReaderLocals Session Turn)
    (next : ReaderLocals Session Turn → MediaProgram Session Turn Unit) :
    MediaProgram Session Turn Unit :=
  match locals.turn with
  | some turn => attempt streamId locals (.cancelNoInputTimer turn) fun _ => next locals
  | none => next locals

/-- Audio for a session and its turn. -/
def onAudioInput (audio : AudioInput) (session : Session) (turn : Turn)
    (locals : ReaderLocals Session Turn)
    (next : ReaderLocals Session Turn → MediaProgram Session Turn Unit) :
    MediaProgram Session Turn Unit :=
  attempt streamId locals (.cancelNoInputTimer turn) fun _ =>
  attempt streamId locals (.onInboundAudio session turn locals.firstAudio) fun _ =>
  let locals := { locals with firstAudio := false }
  let sampleRate := if audio.sampleRateHertz = 0 then config.sampleRate else audio.sampleRateHertz
  let audioEvent := MediaEvent.audioInput audio.callerAudio "mulaw" sampleRate
  attempt streamId locals (.dispatchEvent "audio_input" audioEvent session turn) fun _ =>
  attempt streamId locals (.resolveInput session audioEvent) fun _ =>
  next locals

/-- DTMF for a session and its turn. -/
def onDtmfInput (dtmf : DtmfInput) (session : Session) (turn : Turn)
    (locals : ReaderLocals Session Turn)
    (next : ReaderLocals Session Turn → MediaProgram Session Turn Unit) :
    MediaProgram Session Turn Unit :=
  let digits := dtmf.digits dtmfMap
  if digits ≠ "" then
    let dtmfEvent := MediaEvent.dtmfInput digits
    attempt streamId locals (.dispatchEvent "dtmf_input" dtmfEvent session turn) fun _ =>
    attempt streamId locals (.resolveInput session dtmfEvent) fun _ =>
    next locals
  else next locals

/-- What the loop does with a request once its stream is registered. -/
def onRequest (request : VoiceVARequest) (locals : ReaderLocals Session Turn)
    (next : ReaderLocals Session Turn → MediaProgram Session Turn Unit) :
    MediaProgram Session Turn Unit :=
  match request.eventInput with
  | some event =>
      match event.eventType with
      | .sessionStart => onSessionStart streamId request event locals next
      | .sessionEnd => onSessionEnd streamId locals
      | .noInput => onNoInput streamId locals next
      | .other _ => next locals
  | none =>
      match locals.session, locals.turn with
      | some session, some turn =>
          match request.audioInput, request.dtmfInput with
          | some audio, _ => onAudioInput streamId config audio session turn locals next
          | none, some dtmf => onDtmfInput streamId dtmfMap dtmf session turn locals next
          | none, none => next locals
      | _, _ => next locals

/-- The loop over the requests of the stream. -/
def readRequests : List VoiceVARequest → ReaderLocals Session Turn →
    MediaProgram Session Turn Unit
  | [], locals =>
      attempt streamId locals (.anext none) fun _ => finallyClause streamId locals (.ok ())
  | request :: requests, locals =>
      attempt streamId locals (.anext (some request)) fun _ =>
      let locals :=
        { locals with conversationId := request.conversationIdOr locals.conversationId }
      if locals.conversationId = "" then readRequests requests locals
      else
        attempt streamId locals (.registerStream locals.conversationId streamId) fun _ =>
        onRequest streamId config dtmfMap request locals fun locals =>
          readRequests requests locals

/-- `request_reader`, on a stream of requests. -/
def requestReader (requests : List VoiceVARequest) : MediaProgram Session Turn Unit :=
  if config.verifyTokens then
    attempt streamId {} .verifyContext fun _ =>
    readRequests streamId config dtmfMap requests {}
  else readRequests streamId config dtmfMap requests {}

end Reader

/-! ## The calls of the way out -/

section Exits

variable {Session Turn : Type} {streamId : String} {locals : ReaderLocals Session Turn}
  {permitted : MediaCall Session Turn → Prop}

/-- The `finally` clause unregisters the stream from the id in force, if there is one,
and puts the marker. -/
theorem finallyClause_uses
    (hunregister : locals.conversationId ≠ "" →
      permitted (.unregisterStream locals.conversationId streamId))
    (hput : permitted .putNone) (result : Except MediaException Unit) :
    (finallyClause streamId locals result).Uses permitted := by
  have hlast : ((callMedia .putNone : MediaProgram Session Turn Unit).resume
      (Program.andThen fun _ => Program.ofExcept result)).Uses permitted := by
    refine ⟨hput, fun last => ?_⟩
    cases last with
    | ok _ => trivial
    | error e => trivial
  rw [finallyClause]
  split_ifs with hid
  · refine ⟨hunregister hid, fun reply => ?_⟩
    cases reply with
    | ok _ => exact hlast
    | error e => trivial
  · exact hlast

/-- The `except` clauses set the status, or report to the session and the turn. -/
theorem exceptClauses_uses (hcode : ∀ code, permitted (.setCode code))
    (hdetails : ∀ details, permitted (.setDetails details))
    (hreport : ∀ exc session turn, locals.session = some session → locals.turn = some turn →
      permitted (.handleHandlerError exc session turn)) (e : MediaException) :
    (exceptClauses locals e).Uses permitted := by
  have hstatus (code : StatusCode) (details : String) :
      (callMedia (.setCode code) >>= fun _ => callMedia (.setDetails details) :
        MediaProgram Session Turn Unit).Uses permitted := by
    refine ⟨hcode code, fun reply => ?_⟩
    cases reply with
    | ok _ => exact ⟨hdetails details, fun _ => trivial⟩
    | error e => trivial
  have hhandled (exc : PyException) :
      (match locals.session, locals.turn with
        | some session, some turn => callMedia (.handleHandlerError (.exception exc) session turn)
        | _, _ => pure () : MediaProgram Session Turn Unit).Uses permitted := by
    split
    · next session turn hsession hturn =>
        exact ⟨hreport _ session turn hsession hturn, fun _ => trivial⟩
    · trivial
  cases e with
  | duplicateTurnStreamError message => exact hstatus _ _
  | exception exc =>
      cases exc with
      | authenticationError message => exact hstatus _ _
      | _ => exact hhandled _
  | baseException className => trivial

end Exits

end ByodsServer
