/-
# The probe of the agent list

`list_virtual_agents` asks a media server for its agents as Flow Designer does. For a token it
first opens the SDK and closes it again; then it opens a channel to the server, makes one call
and closes the channel. Whatever raises, nothing stays open, and what it prints when it
succeeds is the answer of the server.
-/

import ByodsServer.Byova.Discovery
import ByodsServer.Effects.Attribution
import ByodsServer.Effects.Resources
import ByodsServer.Effects.Sessions
import ByodsServer.Python.JsonRoundTrip
import ByodsServer.Scripts.ManageDatasources

namespace ByodsServer

open Effects Python

namespace ListVirtualAgents

/-! ## The target -/

/-- `GrpcTarget`. -/
structure GrpcTarget where
  address : String
  useTls : Bool
  authority : Option String := none
  deriving DecidableEq, Repr

/-- The text of the port in a network location. -/
def portText (netloc : List Char) : List Char :=
  let hostinfo := netloc.rtakeWhile (· ≠ '@')
  if '[' ∈ hostinfo then afterFirst ':' (afterFirst ']' (afterFirst '[' hostinfo))
  else afterFirst ':' hostinfo

/-- `port` of what `urlparse` returns. -/
def portOf (repr : Json → String) (parts : UrlParts) : Except PyException (Option ℕ) :=
  let text := portText parts.netloc.toList
  if text = [] then .ok none
  else if text.all Char.isDigit then
    let port := text.foldl (fun value c => 10 * value + (c.toNat - '0'.toNat)) 0
    if port ≤ 65535 then .ok (some port)
    else .error (.valueError "Port out of range 0-65535")
  else .error (.valueError
    ("Port could not be cast to integer value as " ++ repr (.str (String.ofList text))))

/-- `_parse_target`. -/
def parseTarget (lib : UrlLib) (repr : Json → String) (raw : String) :
    Except PyException GrpcTarget :=
  if contains raw "://" then
    match urlparse lib raw with
    | .error message => .error (.valueError message)
    | .ok parsed =>
        match parsed.hostname with
        | none => .error (.valueError ("Invalid target URL: " ++ raw))
        | some hostname => do
            let given ← portOf repr parsed
            let useTls := decide (parsed.scheme = "https")
            let default := if useTls then 443 else 80
            let port := if given.getD 0 = 0 then default else given.getD 0
            return ⟨hostname ++ ":" ++ toString port, useTls, some hostname⟩
  else if contains raw ":" then .ok ⟨raw, false, none⟩
  else .ok ⟨raw ++ ":50051", false, none⟩

example (lib : UrlLib) (repr : Json → String) :
    parseTarget lib repr "https://media.example.com/grpc" =
      .ok ⟨"media.example.com:443", true, some "media.example.com"⟩ := rfl

/-- A channel that `grpc.aio` is asked for, with its options where it is secure. -/
inductive Channel
  | insecure (address : String)
  | secure (address : String) (options : List (String × String))
  deriving DecidableEq, Repr

/-- `_build_channel`. -/
def buildChannel (target : GrpcTarget) (insecureTls : Bool) : Channel :=
  if target.useTls then
    let authority := textOrEmpty target.authority
    let options := if authority = "" then [] else [("grpc.ssl_target_name_override", authority)]
    if insecureTls then
      .secure target.address (options ++
        [("grpc.default_authority", if authority = "" then target.address else authority)])
    else .secure target.address options
  else .insecure target.address

/-! ## The probe -/

/-- The parsed command line; the timeout is the text of a number. -/
structure Args where
  target : String
  orgId : Option String
  bearerToken : Option String
  trackingId : Option String
  defaultAgents : Bool
  skipAuth : Bool
  insecureTls : Bool
  timeout : String

/-- What the call of the server comes to: a response, or an `AioRpcError`. -/
inductive RpcOutcome
  | response (response : ListVAResponse)
  | aioRpcError (code : String) (details : Option String)

/-- The calls of the probe. -/
inductive ProbeCall
  | sdk (request : ManageDatasources.SdkCall)
  | openChannel (channel : Channel)
  | listVirtualAgents (request : ListVARequest) (metadata : Option InvocationMetadata)
      (timeout : String)
  | closeChannel

/-- What each call answers. -/
@[reducible]
def ProbeCall.Reply : ProbeCall → Type
  | sdk request => request.Reply
  | listVirtualAgents _ _ _ => RpcOutcome
  | openChannel _ | closeChannel => Unit

/-- The calls as something a program can call. -/
def probeCalls : Signature where
  Call := ProbeCall
  Reply := ProbeCall.Reply

/-- The coroutine of the probe. -/
abbrev ProbeProgram := Program probeCalls PyException

/-- One call. -/
def callProbe (request : ProbeCall) : ProbeProgram request.Reply :=
  Program.await (S := probeCalls) request

/-- A program that uses the SDK, as part of the probe. -/
def liftSdk {α : Type} (p : ManageDatasources.SdkProgram α) : ProbeProgram α :=
  p.translate fun request => callProbe (.sdk request)

/-- What the probe reads besides its arguments: the URL parser, the refresh token of the
environment, `model_dump` and `repr`. -/
structure Surroundings where
  lib : UrlLib
  refreshToken : Option String
  dumpItem : DataSourceListItem → List (String × Json)
  repr : Json → String

section Probe

variable (env : Surroundings) (args : Args)

/-- The token of the first data source, or the line with which the process ends. -/
def jwsToken (orgId : String) : List DataSourceListItem → Except String String
  | [] => .error ("No data sources registered for org " ++ orgId)
  | item :: _ =>
      let token := (Json.get? (env.dumpItem item) "jwsToken").getD .null
      if token.truthy then .ok (token.toText env.repr)
      else .error "Data source list response did not include jwsToken"

/-- The `try` of `_fetch_bearer_token`. -/
def fetchJwsToken (refreshToken orgId : String) :
    ManageDatasources.SdkProgram (Except String String) := do
  ManageDatasources.callSdk (.arefresh refreshToken)
  ManageDatasources.callSdk (.afetchTokenForOrg orgId)
  let items ← ManageDatasources.ofService (ManageDatasources.listDataSources orgId)
  return jwsToken env orgId items

/-- `_fetch_bearer_token`: the token, or the line printed before `SystemExit`. -/
def fetchBearerToken (orgId : String) : ProbeProgram (Except String String) :=
  let refreshToken := textOrEmpty env.refreshToken
  if refreshToken = "" then
    return .error "WEBEX_INTEGRATION_REFRESH_TOKEN is required to fetch a datasource JWS token"
  else do
    callProbe (.sdk .fromEnv)
    (liftSdk (fetchJwsToken env refreshToken orgId)).closing (S := probeCalls)
      (ProbeCall.sdk .aclose)

/-- The token of the command line, or else the one that is fetched. -/
def bearerToken : ProbeProgram (Except String (Option String)) :=
  let orgId := textOrEmpty args.orgId
  if args.bearerToken = none ∧ orgId ≠ "" ∧ !args.skipAuth then do
    let token ← fetchBearerToken env orgId
    return token.map some
  else return .ok args.bearerToken

/-- The metadata of the call. -/
def metadataWith (bearer : Option String) : InvocationMetadata :=
  (if textOrEmpty args.trackingId = "" then []
    else [("trackingid", textOrEmpty args.trackingId)]) ++
  if textOrEmpty bearer = "" then []
    else [("authorization", "Bearer " ++ textOrEmpty bearer)]

/-- The metadata with which the server is called; an empty list is `None`. -/
def givenMetadata (bearer : Option String) : Option InvocationMetadata :=
  let metadata := metadataWith args bearer
  if metadata = [] then none else some metadata

/-- The request. -/
def listRequest : ListVARequest := ⟨textOrEmpty args.orgId, args.defaultAgents⟩

/-- One agent of `_response_to_dict`. -/
def agentFields (agent : VirtualAgentInfo) : List (String × Json) :=
  [("virtualAgentId", .str agent.virtualAgentId), ("virtualAgentName", .str agent.virtualAgentName),
    ("isDefault", .bool agent.isDefault)]

/-- `_response_to_dict`. -/
def responseToDict (response : ListVAResponse) : Json :=
  .obj [("virtualAgents", .arr ((response.virtualAgents.map agentFields).map .obj))]

/-- What is printed about the outcome, and the exit code. -/
def report : RpcOutcome → ManageDatasources.CliResult
  | .response response =>
      { exitCode := ManageDatasources.exitOk
        stdout := Json.dumps (responseToDict response) (some 2) ++ "\n"
        stderr := ["\nListed " ++ toString response.virtualAgents.length ++
          " virtual agent(s) from " ++ args.target] }
  | .aioRpcError code details =>
      { exitCode := ManageDatasources.exitError
        stderr := ("gRPC ListVirtualAgents failed: " ++ code ++ " — " ++ details.getD "None") ::
          if code = "UNKNOWN" ∧ contains (lower (textOrEmpty details)) "authorization" then
            ["Hint: pass --org-id to fetch a datasource JWS token, " ++
              "or set WEBEX_MEDIA_VERIFY_TOKENS=false for local plaintext probing."]
          else [] }

/-- The call of the server between its `try` and `finally`. -/
def askServer (target : GrpcTarget) (bearer : Option String) :
    ProbeProgram ManageDatasources.CliResult := do
  callProbe (.openChannel (buildChannel target args.insecureTls))
  let outcome ← (callProbe (.listVirtualAgents (listRequest args) (givenMetadata args bearer)
    args.timeout)).closing (S := probeCalls) ProbeCall.closeChannel
  return report args outcome

/-- `list_virtual_agents`. -/
def listVirtualAgents : ProbeProgram ManageDatasources.CliResult := do
  let target ← Program.ofExcept (parseTarget env.lib env.repr args.target)
  match ← bearerToken env args with
  | .error line => return ManageDatasources.failed line
  | .ok bearer => askServer args target bearer

end Probe

/-! ## What is open -/

/-- What the probe opens. -/
inductive ProbeResource
  | sdk
  | channel
  deriving DecidableEq, Repr

/-- What a call opens when it is answered, or closes, however it is answered. -/
def probeChange : ResourceChange probeCalls PyException ProbeResource
  | ⟨.sdk .fromEnv, .ok _⟩, .sdk => some true
  | ⟨.sdk .aclose, _⟩, .sdk => some false
  | ⟨.openChannel _, .ok _⟩, .channel => some true
  | ⟨.closeChannel, _⟩, .channel => some false
  | _, _ => none

/-- What is open when a call is made. -/
def openFor : ProbeCall → ProbeResource → Bool
  | .sdk .fromEnv, _ => false
  | .sdk _, resource => resource = .sdk
  | .openChannel _, _ => false
  | .listVirtualAgents _ _ _, resource => resource = .channel
  | .closeChannel, resource => resource = .channel

/-- The call finds open what it should. -/
def FindsOpen (history : History probeCalls PyException) (request : ProbeCall) : Prop :=
  ∀ resource, isOpen probeChange history resource = openFor request resource

/-! ## Where the token comes from -/

section Bearer

variable (env : Surroundings) (args : Args)

/-- The token is that of the first data source which the service listed for the org. -/
def FetchedFrom (orgId : String) (history : History probeCalls PyException) (token : String) :
    Prop :=
  ∃ items, (⟨.sdk (.dataSources (.alist orgId)), .ok items⟩ : Answered probeCalls PyException) ∈
    history ∧ jwsToken env orgId items = .ok token

/-- The token was fetched for the org if there was none on the command line, and is that of the
command line otherwise. -/
def BearerFrom (history : History probeCalls PyException) (bearer : Option String) : Prop :=
  if args.bearerToken = none ∧ textOrEmpty args.orgId ≠ "" ∧ !args.skipAuth then
    ∃ token, FetchedFrom env (textOrEmpty args.orgId) history token ∧ bearer = some token
  else bearer = args.bearerToken

end Bearer

section Follows

variable {env : Surroundings} {args : Args} {history : History probeCalls PyException}

theorem FetchedFrom.later {orgId token : String} (h : FetchedFrom env orgId history token)
    (answered : Answered probeCalls PyException) :
    FetchedFrom env orgId (answered :: history) token := by
  obtain ⟨items, hlisted, htoken⟩ := h
  exact ⟨items, List.mem_cons_of_mem _ hlisted, htoken⟩

theorem BearerFrom.later {bearer : Option String} (h : BearerFrom env args history bearer)
    (answered : Answered probeCalls PyException) :
    BearerFrom env args (answered :: history) bearer := by
  rw [BearerFrom] at h ⊢
  split_ifs at h ⊢ with hfetch
  · obtain ⟨token, hfetched, hbearer⟩ := h
    exact ⟨token, hfetched.later answered, hbearer⟩
  · exact h

theorem fetchJwsToken_follows (refreshToken orgId : String)
    (h : OnlyOpen probeChange .sdk history) :
    (liftSdk (fetchJwsToken env refreshToken orgId)).Follows FindsOpen
      (fun history result => OnlyOpen probeChange .sdk history ∧
        ∀ token, result = .ok (.ok token) → FetchedFrom env orgId history token) history := by
  refine ⟨h, fun refreshed => ?_⟩
  have hrefreshed : OnlyOpen probeChange .sdk
      (⟨.sdk (.arefresh refreshToken), refreshed⟩ :: history) :=
    h.later fun _ => rfl
  cases refreshed with
  | error e => exact ⟨hrefreshed, by rintro _ ⟨⟩⟩
  | ok done =>
      refine ⟨hrefreshed, fun fetched => ?_⟩
      have hfetched : OnlyOpen probeChange .sdk (⟨.sdk (.afetchTokenForOrg orgId), fetched⟩ :: _) :=
        hrefreshed.later fun _ => rfl
      cases fetched with
      | error e => exact ⟨hfetched, by rintro _ ⟨⟩⟩
      | ok done =>
          refine ⟨hfetched, fun client => ?_⟩
          have hclient : OnlyOpen probeChange .sdk
              (⟨.sdk (.dataSources (.agetClientForOrg orgId)), client⟩ :: _) :=
            hfetched.later fun _ => rfl
          cases client with
          | error e => exact ⟨hclient, by rintro _ ⟨⟩⟩
          | ok done =>
              refine ⟨hclient, fun listed => ?_⟩
              have hlisted : OnlyOpen probeChange .sdk
                  (⟨.sdk (.dataSources (.alist orgId)), listed⟩ :: _) :=
                hclient.later fun _ => rfl
              cases listed with
              | error e => exact ⟨hlisted, by rintro _ ⟨⟩⟩
              | ok items =>
                  refine ⟨hlisted, fun token htoken => ⟨items, List.mem_cons_self, ?_⟩⟩
                  exact Except.ok.inj htoken

/-- Whatever raises, the SDK is closed again. -/
theorem fetchBearerToken_follows (orgId : String) (h : NothingOpen probeChange history) :
    (fetchBearerToken env orgId).Follows FindsOpen
      (fun history result => NothingOpen probeChange history ∧
        ∀ token, result = .ok (.ok token) → FetchedFrom env orgId history token) history := by
  rw [fetchBearerToken]
  split_ifs with htoken
  · exact ⟨h, by rintro _ ⟨⟩⟩
  · refine ⟨h, fun created => ?_⟩
    cases created with
    | error e => exact ⟨h.later fun _ => rfl, by rintro _ ⟨⟩⟩
    | ok done =>
        have hopened : OnlyOpen probeChange .sdk (⟨.sdk .fromEnv, .ok done⟩ :: history) :=
          h.opened fun resource => by cases resource <;> rfl
        refine (fetchJwsToken_follows _ orgId hopened).closing
          (fun _ _ hopen => hopen.1) fun _ result closed hopen => ⟨hopen.1.closed ?_, ?_⟩
        · intro resource
          cases resource <;> rfl
        · intro token hresult
          cases closed with
          | error e => cases hresult
          | ok done => exact (hopen.2 token hresult).later _

theorem bearerToken_follows (h : NothingOpen probeChange history) :
    (bearerToken env args).Follows FindsOpen
      (fun history result => NothingOpen probeChange history ∧
        ∀ bearer, result = .ok (.ok bearer) → BearerFrom env args history bearer) history := by
  rw [bearerToken]
  split_ifs with hfetch
  · refine (fetchBearerToken_follows _ h).resume fun history result hfetched => ?_
    cases result with
    | error e => exact ⟨hfetched.1, by rintro _ ⟨⟩⟩
    | ok token =>
        refine ⟨hfetched.1, fun bearer hbearer => ?_⟩
        cases token with
        | error line => cases hbearer
        | ok token =>
            obtain rfl : some token = bearer := Except.ok.inj (Except.ok.inj hbearer)
            rw [BearerFrom, if_pos hfetch]
            exact ⟨token, hfetched.2 token rfl, rfl⟩
  · refine ⟨h, fun bearer hbearer => ?_⟩
    rw [BearerFrom, if_neg hfetch]
    exact (Except.ok.inj (Except.ok.inj hbearer)).symm

/-! ## What is printed -/

variable (env args) in
/-- A success prints the answer that the server gave with the token. -/
def PrintsAnswer (history : History probeCalls PyException)
    (result : Except PyException ManageDatasources.CliResult) : Prop :=
  ∀ printed, result = .ok printed → printed.exitCode = ManageDatasources.exitOk →
    ∃ bearer response, BearerFrom env args history bearer ∧
      (⟨.listVirtualAgents (listRequest args) (givenMetadata args bearer) args.timeout,
        .ok (.response response)⟩ : Answered probeCalls PyException) ∈ history ∧
      printed = report args (.response response)

/-- Whatever raises, the channel is closed again. -/
theorem askServer_follows (target : GrpcTarget) {bearer : Option String}
    (h : NothingOpen probeChange history) (hbearer : BearerFrom env args history bearer) :
    (askServer args target bearer).Follows FindsOpen
      (fun history result => NothingOpen probeChange history ∧ PrintsAnswer env args history result)
      history := by
  refine ⟨h, fun opened => ?_⟩
  cases opened with
  | error e => exact ⟨h.later fun _ => rfl, by rintro _ ⟨⟩⟩
  | ok done =>
      have hopened : OnlyOpen probeChange .channel
          (⟨.openChannel (buildChannel target args.insecureTls), .ok done⟩ :: history) :=
        h.opened fun resource => by cases resource <;> rfl
      refine ⟨hopened, fun outcome => ⟨hopened.later fun _ => rfl, fun closed => ?_⟩⟩
      have hclosed : NothingOpen probeChange (⟨.closeChannel, closed⟩ ::
          ⟨.listVirtualAgents (listRequest args) (givenMetadata args bearer) args.timeout,
            outcome⟩ :: _) :=
        (hopened.later fun _ => rfl).closed fun resource => by cases resource <;> rfl
      cases closed with
      | error e => exact ⟨hclosed, by rintro _ ⟨⟩⟩
      | ok done =>
          cases outcome with
          | error e => exact ⟨hclosed, by rintro _ ⟨⟩⟩
          | ok outcome =>
              refine ⟨hclosed, fun printed hprinted hcode => ?_⟩
              obtain rfl : report args outcome = printed := Except.ok.inj hprinted
              cases outcome with
              | aioRpcError code details => cases hcode
              | response response =>
                  refine ⟨bearer, response, ((hbearer.later _).later _).later _, ?_, rfl⟩
                  exact List.mem_cons_of_mem _ List.mem_cons_self

theorem listVirtualAgents_follows (h : NothingOpen probeChange history) :
    (listVirtualAgents env args).Follows FindsOpen
      (fun history result => NothingOpen probeChange history ∧ PrintsAnswer env args history result)
      history := by
  rw [listVirtualAgents]
  cases parseTarget env.lib env.repr args.target with
  | error e => exact ⟨h, by rintro _ ⟨⟩⟩
  | ok target =>
      refine (bearerToken_follows h).resume fun history result hbearer => ?_
      cases result with
      | error e => exact ⟨hbearer.1, by rintro _ ⟨⟩⟩
      | ok token =>
          cases token with
          | error line =>
              refine ⟨hbearer.1, fun printed hprinted hcode => ?_⟩
              obtain rfl : ManageDatasources.failed line = printed := Except.ok.inj hprinted
              cases hcode
          | ok bearer => exact askServer_follows target hbearer.1 (hbearer.2 bearer rfl)

theorem loadable_responseToDict (floatRepr : Json.FloatRepr) (response : ListVAResponse) :
    Json.Loadable floatRepr (responseToDict response) := by
  refine .obj (by decide : ["virtualAgents"].Nodup) (List.forall_mem_singleton.mpr ?_)
  refine .arr fun item hitem => ?_
  obtain ⟨fields, hfields, rfl⟩ := List.mem_map.mp hitem
  obtain ⟨agent, -, rfl⟩ := List.mem_map.mp hfields
  refine .obj (by decide : ["virtualAgentId", "virtualAgentName", "isDefault"].Nodup) ?_
  simp only [agentFields, List.forall_mem_cons]
  exact ⟨.str _, .str _, .bool _, List.forall_mem_nil _⟩

end Follows

section Runs

variable {σ : Type} (handler : Handler probeCalls PyException σ)

/-- Whatever the SDK and the server answer, each call of a probe finds open what it should,
and nothing is open in the end. A probe with the exit code 0 asked the server with the token
given or fetched, and what it printed loads as the agents that the server answered. -/
theorem probe_closes_and_prints (floatRepr : Json.FloatRepr) (env : Surroundings) (args : Args)
    (state : σ) :
    (∀ before latest after,
        (listVirtualAgents env args).trace handler state = before ++ latest :: after →
          FindsOpen before.reverse latest.1) ∧
      NothingOpen probeChange ((listVirtualAgents env args).trace handler state).reverse ∧
      ∀ printed, ((listVirtualAgents env args).exec handler state).1 = .ok printed →
        printed.exitCode = ManageDatasources.exitOk →
          ∃ bearer response,
            BearerFrom env args ((listVirtualAgents env args).trace handler state).reverse
              bearer ∧
            ⟨.listVirtualAgents (listRequest args) (givenMetadata args bearer) args.timeout,
              .ok (.response response)⟩ ∈ (listVirtualAgents env args).trace handler state ∧
            Json.loads floatRepr printed.stdout = .ok (responseToDict response) := by
  have hfollows : (listVirtualAgents env args).Follows FindsOpen _ [] :=
    listVirtualAgents_follows fun _ => rfl
  have hpost : NothingOpen probeChange (_ ++ []) ∧ PrintsAnswer env args (_ ++ [])
      ((listVirtualAgents env args).exec handler state).1 := hfollows.post_of_trace state
  rw [List.append_nil] at hpost
  refine ⟨fun before latest after hsplit => ?_, hpost.1, fun printed hprinted hcode => ?_⟩
  · simpa using hfollows.allowed_of_trace state hsplit
  · obtain ⟨bearer, response, hbearer, hmem, rfl⟩ := hpost.2 printed hprinted hcode
    refine ⟨bearer, response, hbearer, List.mem_reverse.mp hmem, ?_⟩
    exact Json.loads_dumps_append (some 2) (loadable_responseToDict floatRepr response)
      (List.forall_mem_singleton.mpr (show Json.isBlank '\n' = true from rfl))

end Runs

end ListVirtualAgents

end ByodsServer
