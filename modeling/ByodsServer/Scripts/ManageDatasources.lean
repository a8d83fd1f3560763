/-
# The data source command line

The commands of `manage_datasources.py`, each against an SDK of its own: it is made from
the environment, gets its tokens, is used by one service call, and is closed. A command
ends in an exit code and what it prints, or by an exception that none of its clauses names.

Whatever the SDK answers, a command that got its tokens closes the SDK with its last call,
and one that did not never closes it; every other call is for the org of the command, and
the commands that only read make no call that writes.
-/

import ByodsServer.Byods.Service
import ByodsServer.Effects.Sessions
import ByodsServer.Python.JsonText

namespace ByodsServer

open Effects Python

namespace ManageDatasources

/-! ## The SDK -/

/-- `Schema`, by its `model_dump`. -/
structure Schema where
  dump : Json

/-- The calls that the command line makes. -/
inductive SdkCall
  | fromEnv
  | arefresh (refreshToken : String)
  | afetchTokenForOrg (orgId : String)
  | dataSources (request : ByodsCall)
  | schemasAlist (orgId : String)
  | schemasAget (orgId schemaId : String)
  | aclose

/-- What each call answers. -/
@[reducible]
def SdkCall.Reply : SdkCall → Type
  | dataSources request => request.Reply
  | schemasAlist _ => List Schema
  | schemasAget _ _ => Schema
  | fromEnv | arefresh _ | afetchTokenForOrg _ | aclose => Unit

/-- The SDK as something a program can call. -/
def sdkCalls : Signature where
  Call := SdkCall
  Reply := SdkCall.Reply

/-- A coroutine that uses the SDK. -/
abbrev SdkProgram := Program sdkCalls PyException

/-- One call of the SDK. -/
def callSdk (request : SdkCall) : SdkProgram request.Reply :=
  Program.await (S := sdkCalls) request

/-- A function of the data source service, called from here. -/
def ofService {α : Type} (p : ByodsProgram α) : SdkProgram α :=
  p.translate fun request => callSdk (.dataSources request)

/-- `list_data_sources`. -/
def listDataSources (orgId : String) : ByodsProgram (List DataSourceListItem) := do
  callByods (.agetClientForOrg orgId)
  callByods (.alist orgId)

/-- `get_data_source`. -/
def getDataSource (orgId dataSourceId : String) : ByodsProgram DataSource := do
  callByods (.agetClientForOrg orgId)
  callByods (.aget orgId dataSourceId)

/-- `list_schemas`. -/
def listSchemas (orgId : String) : SdkProgram (List Schema) := do
  callSdk (.dataSources (.agetClientForOrg orgId))
  callSdk (.schemasAlist orgId)

/-- `get_schema`. -/
def getSchema (orgId schemaId : String) : SdkProgram Schema := do
  callSdk (.dataSources (.agetClientForOrg orgId))
  callSdk (.schemasAget orgId schemaId)

/-- What a new data source may be given besides its URL. -/
structure CreateArgs where
  schemaId : Option String := none
  audience : Option String := none
  subject : Option String := none
  tokenLifetimeMinutes : Option ℤ := none
  nonce : Option String := none

/-- `given or default`. -/
def givenOr (given : Option String) (default : String) : String :=
  if textOrEmpty given = "" then default else textOrEmpty given

/-- `build_create_payload`. -/
def buildCreatePayload (settings : Settings) (uuid url : String) (args : CreateArgs) :
    DataSourceCreate where
  schemaId := givenOr args.schemaId settings.datasourceSchemaId
  url := url
  audience := givenOr args.audience settings.datasourceAudience
  subject := givenOr args.subject settings.datasourceSubject
  nonce := givenOr args.nonce uuid
  tokenLifetimeMinutes :=
    if args.tokenLifetimeMinutes.getD 0 = 0 then settings.datasourceTokenLifeMinutes
    else args.tokenLifetimeMinutes.getD 0

/-! ## The commands -/

/-- `EXIT_OK`. -/
def exitOk : ℕ := 0

/-- `EXIT_ERROR`. -/
def exitError : ℕ := 1

/-- `EXIT_DUPLICATE`. -/
def exitDuplicate : ℕ := 2

/-- The exit code of a command and what it prints. -/
structure CliResult where
  exitCode : ℕ
  stdout : String := ""
  stderr : List String := []
  deriving DecidableEq, Repr

/-- What the commands read besides their arguments: the refresh token of the environment, the
settings, the URL parser, a fresh UUID, the texts of lists and dictionaries, and `model_dump`. -/
structure Surroundings where
  refreshToken : Option String
  settings : Settings
  lib : UrlLib
  uuid : String
  repr : Json → String
  dumpRecord : DataSource → Json
  dumpItem : DataSourceListItem → Json

/-- `_print_json`, before `return EXIT_OK`. -/
def printed (data : Json) : CliResult where
  exitCode := exitOk
  stdout := Json.dumps data (some 2) ++ "\n"

/-- A line on stderr before `return EXIT_ERROR`. -/
def failed (line : String) : CliResult where
  exitCode := exitError
  stderr := [line]

/-- `_bootstrap_sdk`: whether it returns the SDK; otherwise it has ended the process. -/
def bootstrapSdk (refreshToken : Option String) (orgId : String) : SdkProgram Bool := do
  callSdk .fromEnv
  if textOrEmpty refreshToken = "" then return false
  else do
    callSdk (.arefresh (textOrEmpty refreshToken))
    callSdk (.afetchTokenForOrg orgId)
    return true

/-- `except OrgNotRegisteredError`. -/
def exceptNotRegistered : PyException → Option CliResult
  | .orgNotRegisteredError message => some (failed ("Org not authorized: " ++ message))
  | _ => none

/-- The same, and `except NotFoundError`. -/
def exceptNotFound : PyException → Option CliResult
  | .notFoundError message => some (failed ("Not found: " ++ message))
  | e => exceptNotRegistered e

/-- The `except` clauses of `cmd_create`. -/
def exceptRefused : PyException → Option CliResult
  | .duplicateDataSourceURLError message =>
      some { exitCode := exitDuplicate, stderr := [message] }
  | .validationError message => some (failed message)
  | .authenticationError message => some (failed message)
  | e => exceptNotRegistered e

/-- The `try` of a command. -/
def tryExcept (body : SdkProgram CliResult) (clauses : PyException → Option CliResult) :
    SdkProgram CliResult :=
  tryCatch body fun e =>
    match clauses e with
    | some result => pure result
    | none => throw e

/-- A command: the tokens first, then its body between `try` and
`finally: await sdk.aclose()`. -/
def withSdk (env : Surroundings) (orgId : String) (body : SdkProgram CliResult)
    (clauses : PyException → Option CliResult) : SdkProgram CliResult := do
  if ← bootstrapSdk env.refreshToken orgId then
    (tryExcept body clauses).closing (S := sdkCalls) SdkCall.aclose
  else return failed "WEBEX_INTEGRATION_REFRESH_TOKEN is required"

variable (env : Surroundings)

/-- `cmd_list`. -/
def cmdList (orgId : String) : SdkProgram CliResult :=
  withSdk env orgId
    (do
      let items ← ofService (listDataSources orgId)
      return printed (.arr (items.map env.dumpItem)))
    exceptNotRegistered

/-- `cmd_get`. -/
def cmdGet (orgId dataSourceId : String) : SdkProgram CliResult :=
  withSdk env orgId
    (do
      let item ← ofService (getDataSource orgId dataSourceId)
      return printed (env.dumpRecord item))
    exceptNotFound

/-- `args.url or settings.build_datasource_url()`, blank if it is `None`. -/
def createUrl (url : Option String) : Except PyException String :=
  if textOrEmpty url = "" then (env.settings.buildDatasourceUrl env.lib).map textOrEmpty
  else .ok (textOrEmpty url)

/-- `cmd_create` once it has a URL. -/
def createAt (orgId url : String) (args : CreateArgs) : SdkProgram CliResult :=
  withSdk env orgId
    (do
      let payload := buildCreatePayload env.settings env.uuid url args
      let created ← ofService (createDataSource env.repr orgId payload)
      return printed (env.dumpRecord created))
    exceptRefused

/-- `cmd_create`. -/
def cmdCreate (orgId : String) (url : Option String) (args : CreateArgs) :
    SdkProgram CliResult := do
  let url ← Program.ofExcept (createUrl env url)
  if url = "" then
    return failed "Provide --url or set WEBEX_WEBHOOK_TARGET_URL / WEBEX_DATASOURCE_PUBLIC_URL"
  else createAt env orgId url args

/-- `cmd_update`. -/
def cmdUpdate (orgId dataSourceId : String) (payload : DataSourceUpdate) : SdkProgram CliResult :=
  withSdk env orgId
    (do
      let updated ← ofService (updateDataSource orgId dataSourceId payload)
      return printed (env.dumpRecord updated))
    exceptNotFound

/-- `cmd_delete`. -/
def cmdDelete (orgId dataSourceId : String) : SdkProgram CliResult :=
  withSdk env orgId
    (do
      ofService (deleteDataSource orgId dataSourceId)
      return { exitCode := exitOk })
    exceptNotFound

/-- `cmd_schemas_list`. -/
def cmdSchemasList (orgId : String) : SdkProgram CliResult :=
  withSdk env orgId
    (do
      let items ← listSchemas orgId
      return printed (.arr (items.map Schema.dump)))
    exceptNotRegistered

/-- `cmd_schemas_get`. -/
def cmdSchemasGet (orgId schemaId : String) : SdkProgram CliResult :=
  withSdk env orgId
    (do
      let item ← getSchema orgId schemaId
      return printed item.dump)
    exceptNotFound

/-- A command line. -/
inductive Command
  | list (orgId : String)
  | get (orgId dataSourceId : String)
  | create (orgId : String) (url : Option String) (args : CreateArgs)
  | update (orgId dataSourceId : String) (payload : DataSourceUpdate)
  | delete (orgId dataSourceId : String)
  | schemasList (orgId : String)
  | schemasGet (orgId schemaId : String)

namespace Command

/-- The org of a command. -/
def orgId : Command → String
  | list orgId | get orgId _ | create orgId _ _ | update orgId _ _ | delete orgId _
  | schemasList orgId | schemasGet orgId _ => orgId

/-- `main`: the command that the arguments name. -/
def run : Command → SdkProgram CliResult
  | list orgId => cmdList env orgId
  | get orgId dataSourceId => cmdGet env orgId dataSourceId
  | create orgId url args => cmdCreate env orgId url args
  | update orgId dataSourceId payload => cmdUpdate env orgId dataSourceId payload
  | delete orgId dataSourceId => cmdDelete env orgId dataSourceId
  | schemasList orgId => cmdSchemasList env orgId
  | schemasGet orgId schemaId => cmdSchemasGet env orgId schemaId

/-- The calls between opening and closing: those for the org, and the one write of a command
that writes. -/
def Permits (command : Command) : SdkCall → Prop
  | .dataSources (.agetClientForOrg orgId) | .dataSources (.alist orgId)
  | .dataSources (.aget orgId _) | .schemasAlist orgId | .schemasAget orgId _ =>
      orgId = command.orgId
  | .dataSources (.acreate orgId _) =>
      orgId = command.orgId ∧ ∃ url args, command = .create orgId url args
  | .dataSources (.aupdate orgId dataSourceId payload) =>
      command = .update orgId dataSourceId payload
  | .dataSources (.adelete orgId dataSourceId) => command = .delete orgId dataSourceId
  | .fromEnv | .arefresh _ | .afetchTokenForOrg _ | .aclose => False

end Command

/-! ## What the commands have in common -/

/-- A body that passes exceptions on and ends with exit code 0 if at all, under clauses that
give another one. -/
structure IsBody (command : Command) (body : SdkProgram CliResult)
    (clauses : PyException → Option CliResult) : Prop where
  permitted : body.Uses command.Permits
  propagates : body.Propagates
  clauses_fail : ∀ e result, clauses e = some result → result.exitCode ≠ exitOk

theorem failed_exitCode (line : String) : (failed line).exitCode ≠ exitOk := Nat.one_ne_zero

theorem exceptNotRegistered_fails (e : PyException) (result : CliResult)
    (h : exceptNotRegistered e = some result) : result.exitCode ≠ exitOk := by
  unfold exceptNotRegistered at h
  split at h
  · obtain rfl := Option.some.inj h
    exact failed_exitCode _
  · cases h

theorem exceptNotFound_fails (e : PyException) (result : CliResult)
    (h : exceptNotFound e = some result) : result.exitCode ≠ exitOk := by
  unfold exceptNotFound at h
  split at h
  · obtain rfl := Option.some.inj h
    exact failed_exitCode _
  · exact exceptNotRegistered_fails _ result h

theorem exceptRefused_fails (e : PyException) (result : CliResult)
    (h : exceptRefused e = some result) : result.exitCode ≠ exitOk := by
  unfold exceptRefused at h
  split at h
  · obtain rfl := Option.some.inj h
    exact Nat.succ_ne_zero 1
  · obtain rfl := Option.some.inj h
    exact failed_exitCode _
  · obtain rfl := Option.some.inj h
    exact failed_exitCode _
  · exact exceptNotRegistered_fails _ result h

/-- A service call whose result is printed. -/
theorem isBody_ofService {command : Command} {α : Type} {p : ByodsProgram α}
    {result : α → CliResult} {clauses : PyException → Option CliResult}
    (hpermitted : p.Uses fun request => command.Permits (.dataSources request))
    (hpropagates : p.Propagates)
    (hclauses : ∀ e result, clauses e = some result → result.exitCode ≠ exitOk) :
    IsBody command (ofService p >>= fun value => return result value) clauses where
  permitted := (hpermitted.translate fun _ hrequest =>
    Program.uses_await (S := sdkCalls) hrequest).bind fun _ => trivial
  propagates := (hpropagates.translate fun request =>
    Program.propagates_await (S := sdkCalls) (.dataSources request)).bind fun _ => trivial
  clauses_fail := hclauses

/-- The loop of `url_exists` only fetches records of the org. -/
theorem uses_urlExistsAmong {allowed : ByodsCall → Prop} {orgId : String}
    (hget : ∀ dataSourceId, allowed (.aget orgId dataSourceId)) (repr : Json → String)
    (url : String) (items : List DataSourceListItem) :
    (urlExistsAmong repr orgId url items).Uses allowed := by
  induction items with
  | nil => trivial
  | cons item items ih =>
      rw [urlExistsAmong]
      split_ifs
      · trivial
      · split
        · exact ih
        · next itemId _ =>
            refine (Program.uses_await (S := byodsCalls) (hget itemId)).bind fun detail => ?_
            split_ifs
            · trivial
            · exact ih

theorem propagates_urlExistsAmong (repr : Json → String) (orgId url : String)
    (items : List DataSourceListItem) : (urlExistsAmong repr orgId url items).Propagates := by
  induction items with
  | nil => trivial
  | cons item items ih =>
      rw [urlExistsAmong]
      split_ifs
      · trivial
      · split
        · exact ih
        · next itemId _ =>
            refine (Program.propagates_await (S := byodsCalls) (.aget orgId itemId)).bind
              fun detail => ?_
            split_ifs
            · trivial
            · exact ih

theorem uses_createDataSource {command : Command} {orgId : String} {payload : DataSourceCreate}
    (hlist : command.Permits (.dataSources (.alist orgId)))
    (hget : ∀ dataSourceId, command.Permits (.dataSources (.aget orgId dataSourceId)))
    (hclient : command.Permits (.dataSources (.agetClientForOrg orgId)))
    (hcreate : command.Permits (.dataSources (.acreate orgId payload))) (repr : Json → String) :
    (createDataSource repr orgId payload).Uses fun request =>
      command.Permits (.dataSources request) := by
  have hwrite : (callByods (.acreate orgId payload)).Uses fun request =>
      command.Permits (.dataSources request) := Program.uses_await (S := byodsCalls) hcreate
  refine (Program.uses_await (S := byodsCalls) hclient).bind fun _ => ?_
  split_ifs
  · refine Program.Uses.bind ?_ fun found => ?_
    · exact (Program.uses_await (S := byodsCalls) hlist).bind fun items =>
        uses_urlExistsAmong hget repr payload.url items
    · split_ifs
      · trivial
      · exact hwrite
  · exact hwrite

theorem propagates_createDataSource (repr : Json → String) (orgId : String)
    (payload : DataSourceCreate) : (createDataSource repr orgId payload).Propagates := by
  have hcall (request : ByodsCall) : (callByods request).Propagates :=
    Program.propagates_await (S := byodsCalls) request
  refine (hcall _).bind fun _ => ?_
  split_ifs
  · refine Program.Propagates.bind ?_ fun found => ?_
    · exact (hcall _).bind fun items => propagates_urlExistsAmong repr orgId payload.url items
    · split_ifs
      · trivial
      · exact hcall _
  · exact hcall _

/-- Two calls of the service, one after the other. -/
theorem isBody_twoCalls {command : Command} (request : ByodsCall)
    {result : request.Reply → CliResult} {clauses : PyException → Option CliResult}
    (hpermitted : command.Permits (.dataSources request))
    (hclauses : ∀ e result, clauses e = some result → result.exitCode ≠ exitOk) :
    IsBody command
      (ofService (callByods (.agetClientForOrg command.orgId) >>= fun _ => callByods request) >>=
        fun value => return result value) clauses := by
  refine isBody_ofService ?_ ?_ hclauses
  · exact (Program.uses_await (S := byodsCalls) (show command.Permits
      (.dataSources (.agetClientForOrg command.orgId)) from rfl)).bind fun _ =>
        Program.uses_await (S := byodsCalls) hpermitted
  · exact (Program.propagates_await (S := byodsCalls) (.agetClientForOrg command.orgId)).bind
      fun _ => Program.propagates_await (S := byodsCalls) request

/-- The same, of the service's schemas. -/
theorem isBody_schemas {command : Command} (request : SdkCall)
    {result : request.Reply → CliResult} {clauses : PyException → Option CliResult}
    (hpermitted : command.Permits request)
    (hclauses : ∀ e result, clauses e = some result → result.exitCode ≠ exitOk) :
    IsBody command
      ((callSdk (.dataSources (.agetClientForOrg command.orgId)) >>= fun _ => callSdk request) >>=
        fun value => return result value) clauses where
  permitted := ((Program.uses_await (S := sdkCalls) (show command.Permits
      (.dataSources (.agetClientForOrg command.orgId)) from rfl)).bind fun _ =>
        Program.uses_await (S := sdkCalls) hpermitted).bind fun _ => trivial
  propagates := ((Program.propagates_await (S := sdkCalls) (.dataSources
      (.agetClientForOrg command.orgId))).bind fun _ =>
        Program.propagates_await (S := sdkCalls) request).bind fun _ => trivial
  clauses_fail := hclauses

/-- A command fails before it makes any call, or it is a session with one body. -/
theorem Command.run_cases (env : Surroundings) (command : Command) :
    (∃ result, command.run env = .finish result ∧
      ∀ done, result = .ok done → done.exitCode ≠ exitOk) ∨
    ∃ body clauses, IsBody command body clauses ∧
      command.run env = withSdk env command.orgId body clauses := by
  cases command with
  | list orgId =>
      exact Or.inr ⟨_, _, isBody_twoCalls (.alist orgId) rfl exceptNotRegistered_fails, rfl⟩
  | get orgId dataSourceId =>
      exact Or.inr ⟨_, _, isBody_twoCalls (.aget orgId dataSourceId) rfl exceptNotFound_fails, rfl⟩
  | create orgId url args =>
      rw [run, cmdCreate]
      cases hurl : createUrl env url with
      | error e => exact Or.inl ⟨_, rfl, fun done hdone => nomatch hdone⟩
      | ok found =>
          rw [Program.ofExcept_eq, Program.finish_bind]
          split_ifs
          · exact Or.inl ⟨_, rfl, fun done hdone => Except.ok.inj hdone ▸ failed_exitCode _⟩
          · refine Or.inr ⟨_, _, isBody_ofService ?_ ?_ exceptRefused_fails, rfl⟩
            · exact uses_createDataSource rfl (fun _ => rfl) rfl ⟨rfl, url, args, rfl⟩ env.repr
            · exact propagates_createDataSource env.repr orgId _
  | update orgId dataSourceId payload =>
      exact Or.inr ⟨_, _, isBody_twoCalls (.aupdate orgId dataSourceId payload) rfl
        exceptNotFound_fails, rfl⟩
  | delete orgId dataSourceId =>
      exact Or.inr ⟨_, _, isBody_twoCalls (.adelete orgId dataSourceId) rfl
        exceptNotFound_fails, rfl⟩
  | schemasList orgId =>
      exact Or.inr ⟨_, _, isBody_schemas (.schemasAlist orgId) rfl exceptNotRegistered_fails, rfl⟩
  | schemasGet orgId schemaId =>
      exact Or.inr ⟨_, _, isBody_schemas (.schemasAget orgId schemaId) rfl
        exceptNotFound_fails, rfl⟩

/-! ## Sessions -/

/-- The calls that open the SDK for an org. -/
def opening (refreshToken orgId : String) : List SdkCall :=
  [.fromEnv, .arefresh refreshToken, .afetchTokenForOrg orgId]

theorem bootstrapSdk_opens (refreshToken : Option String) (orgId : String) :
    Program.Opens (S := sdkCalls) (opening (textOrEmpty refreshToken) orgId)
      (bootstrapSdk refreshToken orgId) := by
  refine ⟨rfl, fun e => ⟨_, rfl, nofun⟩, fun _ => ?_⟩
  dsimp only [Program.andThen]
  split_ifs
  · exact nofun
  · exact ⟨rfl, fun e => ⟨_, rfl, nofun⟩, fun _ => ⟨rfl, fun e => ⟨_, rfl, nofun⟩, fun _ => rfl⟩⟩

theorem withSdk_eq_session (env : Surroundings) (orgId : String) (body : SdkProgram CliResult)
    (clauses : PyException → Option CliResult) :
    withSdk env orgId body clauses =
      Program.session (S := sdkCalls) (bootstrapSdk env.refreshToken orgId) SdkCall.aclose
        (tryExcept body clauses)
        (.ok (failed "WEBEX_INTEGRATION_REFRESH_TOKEN is required")) := rfl

section TryExcept

variable {command : Command} {body : SdkProgram CliResult}
  {clauses : PyException → Option CliResult}

theorem IsBody.uses_tryExcept (h : IsBody command body clauses) :
    (tryExcept body clauses).Uses command.Permits := by
  refine h.permitted.resume fun result => ?_
  cases result with
  | ok done => trivial
  | error e =>
      rw [Program.recover_error]
      cases clauses e with
      | none => trivial
      | some done => trivial

/-- Exit code 0 comes from a body that returned. -/
theorem IsBody.works_of_exitOk (h : IsBody command body clauses) {σ : Type}
    {handler : Handler sdkCalls PyException σ} {state : σ} {result : CliResult}
    (hresult : ((tryExcept body clauses).exec handler state).1 = .ok result)
    (hcode : result.exitCode = exitOk) :
    ∀ answered ∈ (tryExcept body clauses).trace handler state, Program.Works answered := by
  rw [tryExcept, Program.exec_tryCatch] at hresult
  rw [tryExcept, Program.tryCatch_eq, Program.trace_resume]
  cases hbody : (body.exec handler state).1 with
  | ok done =>
      rw [Program.recover_ok, Program.trace, List.append_nil]
      exact h.propagates.works_of_mem_trace hbody
  | error e =>
      rw [hbody, Program.recover_error] at hresult
      cases hclauses : clauses e with
      | none =>
          rw [hclauses] at hresult
          cases hresult
      | some done =>
          rw [hclauses] at hresult
          obtain rfl := Except.ok.inj hresult
          exact (h.clauses_fail e done hclauses hcode).elim

end TryExcept

/-- The calls of a command: if all the opening calls were answered, the SDK is closed with the
last call and used in between as the command permits; if they were not, there are no others. -/
structure KeepsSession (refreshToken : String) (command : Command)
    (calls : List (Answered sdkCalls PyException)) : Prop where
  closed : Program.Opened (S := sdkCalls) (opening refreshToken command.orgId) calls →
    ∃ answered used closing, calls = answered ++ used ++ [⟨SdkCall.aclose, closing⟩] ∧
      answered.map Sigma.fst = opening refreshToken command.orgId ∧
      ∀ call ∈ used, command.Permits call.1
  opening_only : ¬ Program.Opened (S := sdkCalls) (opening refreshToken command.orgId) calls →
    calls.map Sigma.fst <+: opening refreshToken command.orgId

section Commands

variable (env : Surroundings) (command : Command) {σ : Type}
  (handler : Handler sdkCalls PyException σ) (state : σ)

theorem IsBody.keepsSession {body : SdkProgram CliResult}
    {clauses : PyException → Option CliResult} (h : IsBody command body clauses) :
    KeepsSession (textOrEmpty env.refreshToken) command
      ((withSdk env command.orgId body clauses).trace handler state) := by
  rw [withSdk_eq_session]
  have hcalls := (bootstrapSdk_opens env.refreshToken command.orgId).session_calls
    (S := sdkCalls) SdkCall.aclose (tryExcept body clauses)
    (.ok (failed "WEBEX_INTEGRATION_REFRESH_TOKEN is required")) handler state
  refine ⟨fun hopened => ?_, hcalls.2⟩
  obtain ⟨answered, used, closing, heq, hopening, reached, rfl⟩ := hcalls.1 hopened
  exact ⟨answered, _, closing, heq, hopening,
    fun call hcall => h.uses_tryExcept.of_mem_trace hcall⟩

end Commands

end ManageDatasources

end ByodsServer
