/-
# What the data source commands do

Against a service that keeps the data sources of each org, a command is one step of the
registry: its exit code says which. Nothing but 0 leaves a change behind; 2 is the refusal of
a URL that the org already has, and of nothing else.
-/

import ByodsServer.Byods.UniqueUrls
import ByodsServer.Scripts.ManageDatasources

namespace ByodsServer

open Effects Python

namespace ManageDatasources

/-! ## The service -/

/-- The service for orgs that may be registered with the app or not, and with schemas that
stay as they are. -/
structure OrgService extends DataSourceService where
  isRegistered : String → Bool
  schemas : String → List (String × Schema)
  /-- An item that is listed with a URL is listed with its own. -/
  listed_url : ∀ record url, (listItem record).hasUrl url = true → record.url = url

namespace OrgService

variable (service : OrgService)

/-- The clients of the orgs. -/
def clients : Handler byodsCalls PyException DataSourceRegistry
  | .agetClientForOrg orgId, registry =>
      if service.isRegistered orgId then (.ok (), registry)
      else (.error (.orgNotRegisteredError orgId), registry)
  | request, registry => service.handler request registry

/-- The SDK, whose tokens are always refreshed. -/
def sdk : Handler sdkCalls PyException DataSourceRegistry
  | .dataSources request, registry => service.clients request registry
  | .schemasAlist orgId, registry => (.ok ((service.schemas orgId).map Prod.snd), registry)
  | .schemasAget orgId schemaId, registry =>
      match (service.schemas orgId).lookup schemaId with
      | some schema => (.ok schema, registry)
      | none => (.error (.notFoundError schemaId), registry)
  | .fromEnv, registry | .arefresh _, registry | .afetchTokenForOrg _, registry
  | .aclose, registry => (.ok (), registry)

end OrgService

/-! ## The commands as steps of the registry -/

variable (env : Surroundings) (service : OrgService)

/-- A step on the data sources of an org, with the exit code that goes with it. Without a token,
or for an org that is not registered, it is a failure that changes nothing. -/
def onOrg (registry : DataSourceRegistry) (orgId : String)
    (change : OrgDataSources → ℕ × OrgDataSources) : Except PyException ℕ × DataSourceRegistry :=
  if textOrEmpty env.refreshToken = "" ∨ service.isRegistered orgId = false then
    (.ok exitError, registry)
  else (.ok (change (registry orgId)).1, Function.update registry orgId (change (registry orgId)).2)

/-- What a step does to a data source that may not be there. -/
def ifThere (found : Bool) (sources changed : OrgDataSources) : ℕ × OrgDataSources :=
  if found then (exitOk, changed) else (exitError, sources)

/-- What a command does to the registry. -/
def Command.step (registry : DataSourceRegistry) :
    Command → Except PyException ℕ × DataSourceRegistry
  | list orgId | schemasList orgId => onOrg env service registry orgId fun sources =>
      (exitOk, sources)
  | get orgId id => onOrg env service registry orgId fun sources =>
      ifThere (sources.get? id).isSome sources sources
  | schemasGet orgId schemaId => onOrg env service registry orgId fun sources =>
      ifThere ((service.schemas orgId).lookup schemaId).isSome sources sources
  | create orgId url args =>
      match createUrl env url with
      | .error e => (.error e, registry)
      | .ok url =>
          if url = "" then (.ok exitError, registry)
          else
            onOrg env service registry orgId fun sources =>
              if url ∈ sources.records.map DataSource.url then (exitDuplicate, sources)
              else
                (exitOk,
                  service.created sources (buildCreatePayload env.settings env.uuid url args))
  | update orgId id payload => onOrg env service registry orgId fun sources =>
      ifThere (sources.get? id).isSome sources (payload.url.elim sources (sources.setUrl id))
  | delete orgId id => onOrg env service registry orgId fun sources =>
      ifThere (sources.get? id).isSome sources (sources.remove id)

/-- The exit code of a program that ends in one, and the registry after it. -/
def codeAfter (p : SdkProgram CliResult) (registry : DataSourceRegistry) :
    Except PyException ℕ × DataSourceRegistry :=
  ((p.exec service.sdk registry).1.map CliResult.exitCode, (p.exec service.sdk registry).2)

/-! ## Running a session -/

variable {env service}

/-- The result of a `try` whose body came to an outcome. -/
def reported (clauses : PyException → Option CliResult) :
    Except PyException CliResult → Except PyException CliResult
  | .ok result => .ok result
  | .error e => (clauses e).elim (.error e) .ok

theorem exec_tryExcept (body : SdkProgram CliResult) (clauses : PyException → Option CliResult)
    (registry : DataSourceRegistry) :
    (tryExcept body clauses).exec service.sdk registry =
      (reported clauses (body.exec service.sdk registry).1,
        (body.exec service.sdk registry).2) := by
  rw [tryExcept, Program.exec_tryCatch]
  cases (body.exec service.sdk registry).1 with
  | ok result => rfl
  | error e =>
      rw [Program.recover_error, reported]
      cases clauses e with
      | none => rfl
      | some result => rfl

/-- With a token, opening and closing change nothing. -/
theorem exec_withSdk (orgId : String) (body : SdkProgram CliResult)
    (clauses : PyException → Option CliResult) (htoken : textOrEmpty env.refreshToken ≠ "")
    (registry : DataSourceRegistry) :
    (withSdk env orgId body clauses).exec service.sdk registry =
      (reported clauses (body.exec service.sdk registry).1,
        (body.exec service.sdk registry).2) := by
  have hopen : (bootstrapSdk env.refreshToken orgId).exec service.sdk registry =
      (.ok true, registry) := by
    rw [bootstrapSdk, Program.exec_bind_of_ok (show (callSdk .fromEnv).exec service.sdk registry =
      (.ok (), registry) from rfl), if_neg htoken]
    rfl
  rw [withSdk, Program.exec_bind_of_ok hopen, if_pos rfl, ← exec_tryExcept]
  exact Program.exec_closing_of_ok (S := sdkCalls) (show service.sdk SdkCall.aclose _ =
    (.ok (), ((tryExcept body clauses).exec service.sdk registry).2) from rfl)

theorem exec_withSdk_of_no_token (orgId : String) (body : SdkProgram CliResult)
    (clauses : PyException → Option CliResult) (htoken : textOrEmpty env.refreshToken = "")
    (registry : DataSourceRegistry) :
    (withSdk env orgId body clauses).exec service.sdk registry =
      (.ok (failed "WEBEX_INTEGRATION_REFRESH_TOKEN is required"), registry) := by
  have hopen : (bootstrapSdk env.refreshToken orgId).exec service.sdk registry =
      (.ok false, registry) := by
    rw [bootstrapSdk, Program.exec_bind_of_ok (show (callSdk .fromEnv).exec service.sdk registry =
      (.ok (), registry) from rfl), if_pos htoken]
    rfl
  rw [withSdk, Program.exec_bind_of_ok hopen]
  rfl

/-! ## The service calls -/

theorem exec_ofService {α : Type} (p : ByodsProgram α) (registry : DataSourceRegistry) :
    (ofService p).exec service.sdk registry = p.exec service.clients registry :=
  Program.exec_translate service.sdk _ p registry

/-- A program on the client of an org, which is there for registered orgs alone. -/
theorem exec_clients {α : Type} (orgId : String) {p : ByodsProgram α}
    (hp : p.Uses fun request => ∀ other, request ≠ ByodsCall.agetClientForOrg other)
    (registry : DataSourceRegistry) :
    (callByods (.agetClientForOrg orgId) >>= fun _ => p).exec service.clients registry =
      if service.isRegistered orgId then p.exec service.handler registry
      else (.error (.orgNotRegisteredError orgId), registry) := by
  have hclients : p.exec service.clients registry = p.exec service.handler registry := by
    refine hp.exec_congr (fun request hrequest => ?_) registry
    cases request with
    | agetClientForOrg other => exact (hrequest other rfl).elim
    | _ => rfl
  have hclient : (callByods (.agetClientForOrg orgId)).exec service.clients registry =
      if service.isRegistered orgId then (.ok (), registry)
      else (.error (.orgNotRegisteredError orgId), registry) := rfl
  split_ifs at hclient ⊢
  · rw [Program.exec_bind_of_ok hclient, hclients]
  · rw [Program.exec_bind_of_error hclient]

/-- The search finds a URL exactly when a data source of the org has it. -/
theorem exec_urlExistsAmong_of_mem {repr : Json → String} {registry : DataSourceRegistry}
    {orgId url : String} {records : List DataSource}
    (hrecords : records ⊆ (registry orgId).records) (hurl : url ∈ records.map DataSource.url) :
    (urlExistsAmong repr orgId url (records.map service.listItem)).exec service.handler registry =
      (.ok true, registry) := by
  induction records with
  | nil => exact absurd hurl List.not_mem_nil
  | cons record records ih =>
      rw [List.cons_subset] at hrecords
      rw [List.map_cons, urlExistsAmong]
      split_ifs with hlisted
      · rfl
      · rw [fetchId?_listItem record ((registry orgId).ids_ne_empty record hrecords.1)]
        dsimp only
        rw [Program.exec_bind_of_ok (exec_aget hrecords.1)]
        split_ifs with hrecord
        · rfl
        · refine ih hrecords.2 ?_
          rw [List.map_cons, List.mem_cons] at hurl
          exact hurl.resolve_left (Ne.symm hrecord)

theorem exec_urlExistsAmong_of_not_mem {repr : Json → String} {registry : DataSourceRegistry}
    {orgId url : String} {records : List DataSource}
    (hrecords : records ⊆ (registry orgId).records) (hurl : url ∉ records.map DataSource.url) :
    (urlExistsAmong repr orgId url (records.map service.listItem)).exec service.handler registry =
      (.ok false, registry) := by
  induction records with
  | nil => rfl
  | cons record records ih =>
      rw [List.cons_subset] at hrecords
      rw [List.map_cons, List.mem_cons, not_or] at hurl
      have hlisted : (service.listItem record).hasUrl url ≠ true := fun hlisted =>
        hurl.1 (service.listed_url record url hlisted).symm
      rw [List.map_cons, urlExistsAmong, if_neg hlisted,
        fetchId?_listItem record ((registry orgId).ids_ne_empty record hrecords.1)]
      dsimp only
      rw [Program.exec_bind_of_ok (exec_aget hrecords.1), if_neg (Ne.symm hurl.1)]
      exact ih hrecords.2 hurl.2

variable (service) in
/-- Creating at a URL is refused exactly when the org has it. -/
theorem exec_createDataSource (repr : Json → String) (registry : DataSourceRegistry)
    (orgId : String) {payload : DataSourceCreate} {url : String} (hpayload : payload.url = url)
    (hurl : url ≠ "") :
    (createDataSource repr orgId payload).exec service.clients registry =
      if service.isRegistered orgId then
        if url ∈ (registry orgId).records.map DataSource.url then
          (.error (.duplicateDataSourceURLError
            ("URL already registered for org " ++ orgId ++ ": " ++ url)), registry)
        else
          (.ok ⟨service.newId (registry orgId) payload, url⟩,
            Function.update registry orgId (service.created (registry orgId) payload))
      else (.error (.orgNotRegisteredError orgId), registry) := by
  subst hpayload
  rw [createDataSource, if_pos ⟨rfl, hurl⟩, exec_clients]
  · congr 1
    have hlist : (callByods (.alist orgId)).exec service.handler registry =
        (.ok ((registry orgId).records.map service.listItem), registry) := rfl
    split_ifs with hmem
    · have hfound : (urlExists repr orgId payload.url).exec service.handler registry =
          (.ok true, registry) := by
        rw [urlExists, Program.exec_bind_of_ok hlist]
        exact exec_urlExistsAmong_of_mem (List.Subset.refl _) hmem
      rw [Program.exec_bind_of_ok hfound]
      rfl
    · have hfound : (urlExists repr orgId payload.url).exec service.handler registry =
          (.ok false, registry) := by
        rw [urlExists, Program.exec_bind_of_ok hlist]
        exact exec_urlExistsAmong_of_not_mem (List.Subset.refl _) hmem
      rw [Program.exec_bind_of_ok hfound]
      rfl
  · refine Program.Uses.bind ?_ fun found => ?_
    · refine (Program.uses_await (S := byodsCalls) ?_).bind fun items =>
        uses_urlExistsAmong (fun _ => ?_) repr payload.url items
      · rintro _ ⟨⟩
      · rintro _ ⟨⟩
    · split_ifs
      · trivial
      · exact Program.uses_await (S := byodsCalls) (by rintro _ ⟨⟩)

/-! ## Every command is its step -/

/-- A session is a step on the org when its body is one for registered orgs, and raises for the
others what its clauses catch. -/
theorem codeAfter_withSdk {orgId : String} {body : SdkProgram CliResult}
    {clauses : PyException → Option CliResult} {registry : DataSourceRegistry}
    {change : OrgDataSources → ℕ × OrgDataSources}
    (hclauses : ∀ message, clauses (.orgNotRegisteredError message) =
      exceptNotRegistered (.orgNotRegisteredError message))
    (outcome : Except PyException CliResult) (after : DataSourceRegistry)
    (hbody : body.exec service.sdk registry =
      if service.isRegistered orgId then (outcome, after)
      else (.error (.orgNotRegisteredError orgId), registry))
    (hcode : (reported clauses outcome).map CliResult.exitCode = .ok (change (registry orgId)).1)
    (hafter : after = Function.update registry orgId (change (registry orgId)).2) :
    codeAfter service (withSdk env orgId body clauses) registry =
      onOrg env service registry orgId change := by
  rw [codeAfter, onOrg]
  by_cases htoken : textOrEmpty env.refreshToken = ""
  · rw [if_pos (Or.inl htoken), exec_withSdk_of_no_token orgId body clauses htoken]
    rfl
  · rw [exec_withSdk orgId body clauses htoken, hbody]
    cases hregistered : service.isRegistered orgId with
    | false =>
        rw [if_neg Bool.false_ne_true, if_pos (Or.inr rfl), reported, hclauses]
        rfl
    | true =>
        rw [if_pos rfl, if_neg (by simpa using htoken), hcode, hafter]

/-- A body that prints what one service call returns. -/
theorem exec_printing {α : Type} {orgId : String} {p : ByodsProgram α} {result : α → CliResult}
    (hp : p.Uses fun request => ∀ other, request ≠ ByodsCall.agetClientForOrg other)
    (registry : DataSourceRegistry) :
    (ofService (callByods (.agetClientForOrg orgId) >>= fun _ => p) >>= fun value =>
        return result value).exec service.sdk registry =
      if service.isRegistered orgId then
        ((p.exec service.handler registry).1.map result, (p.exec service.handler registry).2)
      else (.error (.orgNotRegisteredError orgId), registry) := by
  rw [Program.exec_bind, exec_ofService, exec_clients orgId hp]
  split_ifs
  · cases (p.exec service.handler registry).1 with
    | ok value => rfl
    | error e => rfl
  · rfl

/-- A command of one service call. -/
theorem codeAfter_request {orgId : String} {request : ByodsCall}
    {result : request.Reply → CliResult} {clauses : PyException → Option CliResult}
    {registry : DataSourceRegistry} {change : OrgDataSources → ℕ × OrgDataSources}
    (hrequest : ∀ other, request ≠ .agetClientForOrg other)
    (hclauses : ∀ message, clauses (.orgNotRegisteredError message) =
      exceptNotRegistered (.orgNotRegisteredError message))
    (hcode : (reported clauses ((service.handler request registry).1.map result)).map
      CliResult.exitCode = .ok (change (registry orgId)).1)
    (hafter : (service.handler request registry).2 =
      Function.update registry orgId (change (registry orgId)).2) :
    codeAfter service
        (withSdk env orgId
          (ofService (callByods (.agetClientForOrg orgId) >>= fun _ => callByods request) >>=
            fun value => return result value) clauses) registry =
      onOrg env service registry orgId change :=
  codeAfter_withSdk hclauses _ _
    (exec_printing (Program.uses_await (S := byodsCalls) hrequest) registry) hcode hafter

theorem codeAfter_list (orgId : String) (registry : DataSourceRegistry) :
    codeAfter service (cmdList env orgId) registry =
      onOrg env service registry orgId fun sources => (exitOk, sources) :=
  codeAfter_request (by rintro _ ⟨⟩) (fun _ => rfl) rfl
    (Function.update_eq_self orgId registry).symm

theorem codeAfter_get (orgId id : String) (registry : DataSourceRegistry) :
    codeAfter service (cmdGet env orgId id) registry =
      onOrg env service registry orgId fun sources =>
        ifThere (sources.get? id).isSome sources sources := by
  refine codeAfter_request (by rintro _ ⟨⟩) (fun _ => rfl) ?_ ?_
  · rw [DataSourceService.handler]
    cases (registry orgId).get? id <;> rfl
  · rw [DataSourceService.handler]
    cases (registry orgId).get? id <;> exact (Function.update_eq_self orgId registry).symm

theorem codeAfter_update (orgId id : String) (payload : DataSourceUpdate)
    (registry : DataSourceRegistry) :
    codeAfter service (cmdUpdate env orgId id payload) registry =
      onOrg env service registry orgId fun sources =>
        ifThere (sources.get? id).isSome sources
          (payload.url.elim sources (sources.setUrl id)) := by
  refine codeAfter_request (by rintro _ ⟨⟩) (fun _ => rfl) ?_ ?_
  · rw [DataSourceService.handler]
    cases (registry orgId).get? id <;> cases payload.url <;> rfl
  · rw [DataSourceService.handler]
    cases (registry orgId).get? id <;> cases payload.url
    · exact (Function.update_eq_self orgId registry).symm
    · exact (Function.update_eq_self orgId registry).symm
    · exact (Function.update_eq_self orgId registry).symm
    · rfl

theorem codeAfter_delete (orgId id : String) (registry : DataSourceRegistry) :
    codeAfter service (cmdDelete env orgId id) registry =
      onOrg env service registry orgId fun sources =>
        ifThere (sources.get? id).isSome sources (sources.remove id) := by
  refine codeAfter_request (by rintro _ ⟨⟩) (fun _ => rfl) ?_ ?_
  · rw [DataSourceService.handler]
    cases (registry orgId).get? id <;> rfl
  · rw [DataSourceService.handler]
    cases (registry orgId).get? id
    · exact (Function.update_eq_self orgId registry).symm
    · rfl

/-- A command about schemas, whose service call answers the same in every registry. -/
theorem codeAfter_schemas {orgId : String} {request : SdkCall} {result : request.Reply → CliResult}
    {clauses : PyException → Option CliResult} {registry : DataSourceRegistry} {code : ℕ}
    {reply : Except PyException request.Reply}
    (hclauses : ∀ message, clauses (.orgNotRegisteredError message) =
      exceptNotRegistered (.orgNotRegisteredError message))
    (hreply : service.sdk request registry = (reply, registry))
    (hcode : (reported clauses (reply.map result)).map CliResult.exitCode = .ok code) :
    codeAfter service
        (withSdk env orgId
          ((callSdk (.dataSources (.agetClientForOrg orgId)) >>= fun _ => callSdk request) >>=
            fun value => return result value) clauses) registry =
      onOrg env service registry orgId fun sources => (code, sources) := by
  have hclient : (callSdk (.dataSources (.agetClientForOrg orgId))).exec service.sdk registry =
      if service.isRegistered orgId then (.ok (), registry)
      else (.error (.orgNotRegisteredError orgId), registry) := rfl
  have hcall : (callSdk request).exec service.sdk registry = (reply, registry) := hreply
  refine codeAfter_withSdk hclauses (reply.map result) registry ?_ hcode
    (Function.update_eq_self orgId registry).symm
  split_ifs at hclient ⊢
  · rw [Program.exec_bind, Program.exec_bind_of_ok hclient, hcall]
    cases reply <;> rfl
  · rw [Program.exec_bind, Program.exec_bind_of_error hclient]
    rfl

theorem codeAfter_schemasGet (orgId schemaId : String) (registry : DataSourceRegistry) :
    codeAfter service (cmdSchemasGet env orgId schemaId) registry =
      onOrg env service registry orgId fun sources =>
        ifThere ((service.schemas orgId).lookup schemaId).isSome sources sources := by
  cases hschema : (service.schemas orgId).lookup schemaId with
  | none =>
      have hreply : service.sdk (.schemasAget orgId schemaId) registry =
          (.error (.notFoundError schemaId), registry) := by
        simp only [OrgService.sdk, hschema]
      exact codeAfter_schemas (fun _ => rfl) hreply rfl
  | some schema =>
      have hreply : service.sdk (.schemasAget orgId schemaId) registry =
          (.ok schema, registry) := by
        simp only [OrgService.sdk, hschema]
      exact codeAfter_schemas (fun _ => rfl) hreply rfl

theorem codeAfter_createAt (orgId : String) {url : String} (hurl : url ≠ "") (args : CreateArgs)
    (registry : DataSourceRegistry) :
    codeAfter service (createAt env orgId url args) registry =
      onOrg env service registry orgId fun sources =>
        if url ∈ sources.records.map DataSource.url then (exitDuplicate, sources)
        else
          (exitOk,
            service.created sources (buildCreatePayload env.settings env.uuid url args)) := by
  have hcreate := exec_createDataSource service env.repr registry orgId
    (show (buildCreatePayload env.settings env.uuid url args).url = url from rfl) hurl
  by_cases hmem : url ∈ (registry orgId).records.map DataSource.url
  · rw [if_pos hmem] at hcreate
    refine codeAfter_withSdk (fun _ => rfl) (.error (.duplicateDataSourceURLError
      ("URL already registered for org " ++ orgId ++ ": " ++ url))) registry ?_ ?_ ?_
    · dsimp only
      rw [Program.exec_bind, exec_ofService, hcreate]
      split_ifs <;> rfl
    · rw [if_pos hmem]
      rfl
    · rw [if_pos hmem]
      exact (Function.update_eq_self orgId registry).symm
  · rw [if_neg hmem] at hcreate
    refine codeAfter_withSdk (fun _ => rfl)
      (.ok (printed (env.dumpRecord ⟨service.newId (registry orgId)
        (buildCreatePayload env.settings env.uuid url args), url⟩)))
      (Function.update registry orgId (service.created (registry orgId)
        (buildCreatePayload env.settings env.uuid url args))) ?_ ?_ ?_
    · dsimp only
      rw [Program.exec_bind, exec_ofService, hcreate]
      split_ifs <;> rfl
    · rw [if_neg hmem]
      rfl
    · rw [if_neg hmem]

/-- Every command is its step. -/
theorem codeAfter_run (env : Surroundings) (service : OrgService) (registry : DataSourceRegistry)
    (command : Command) :
    codeAfter service (command.run env) registry = command.step env service registry := by
  cases command with
  | list orgId => exact codeAfter_list orgId registry
  | get orgId id => exact codeAfter_get orgId id registry
  | create orgId url args =>
      rw [Command.run, cmdCreate, Command.step]
      cases createUrl env url with
      | error e => rfl
      | ok found =>
          rw [Program.ofExcept_eq, Program.finish_bind]
          dsimp only
          split_ifs with hfound
          · rfl
          · exact codeAfter_createAt orgId hfound args registry
  | update orgId id payload => exact codeAfter_update orgId id payload registry
  | delete orgId id => exact codeAfter_delete orgId id registry
  | schemasList orgId => exact codeAfter_schemas (fun _ => rfl) rfl rfl
  | schemasGet orgId schemaId => exact codeAfter_schemasGet orgId schemaId registry

/-! ## Runs -/

section Steps

variable (env : Surroundings) (service : OrgService) (registry : DataSourceRegistry)

theorem onOrg_unchanged {orgId : String} {change : OrgDataSources → ℕ × OrgDataSources}
    (hchange : (change (registry orgId)).1 ≠ exitOk →
      (change (registry orgId)).2 = registry orgId)
    (hcode : (onOrg env service registry orgId change).1 ≠ .ok exitOk) :
    (onOrg env service registry orgId change).2 = registry := by
  rw [onOrg] at hcode ⊢
  split_ifs at hcode ⊢
  · rfl
  · dsimp only at hcode ⊢
    rw [hchange fun hok => hcode (congrArg Except.ok hok), Function.update_eq_self]

theorem ifThere_unchanged (found : Bool) (sources changed : OrgDataSources)
    (hcode : (ifThere found sources changed).1 ≠ exitOk) :
    (ifThere found sources changed).2 = sources := by
  cases found with
  | false => rfl
  | true => exact (hcode rfl).elim

/-- Nothing but exit code 0 leaves a change behind. -/
theorem Command.step_unchanged (command : Command)
    (hcode : (command.step env service registry).1 ≠ .ok exitOk) :
    (command.step env service registry).2 = registry := by
  cases command with
  | list orgId => exact onOrg_unchanged env service registry (fun _ => rfl) hcode
  | get orgId id =>
      exact onOrg_unchanged env service registry (ifThere_unchanged _ _ _) hcode
  | create orgId url args =>
      rw [step] at hcode ⊢
      cases hurl : createUrl env url with
      | error e => rfl
      | ok found =>
          rw [hurl] at hcode
          dsimp only at hcode ⊢
          split_ifs at hcode ⊢
          · rfl
          · refine onOrg_unchanged env service registry (fun hcode => ?_) hcode
            split_ifs at hcode ⊢
            · rfl
            · exact (hcode rfl).elim
  | update orgId id payload =>
      exact onOrg_unchanged env service registry (ifThere_unchanged _ _ _) hcode
  | delete orgId id =>
      exact onOrg_unchanged env service registry (ifThere_unchanged _ _ _) hcode
  | schemasList orgId => exact onOrg_unchanged env service registry (fun _ => rfl) hcode
  | schemasGet orgId schemaId =>
      exact onOrg_unchanged env service registry (ifThere_unchanged _ _ _) hcode

theorem onOrg_other {orgId other : String} (hother : other ≠ orgId)
    (change : OrgDataSources → ℕ × OrgDataSources) :
    (onOrg env service registry orgId change).2 other = registry other := by
  rw [onOrg]
  split_ifs
  · rfl
  · exact Function.update_of_ne hother _ _

/-- A command changes no other org. -/
theorem Command.step_other (command : Command) {other : String} (hother : other ≠ command.orgId) :
    (command.step env service registry).2 other = registry other := by
  cases command with
  | create orgId url args =>
      rw [step]
      cases createUrl env url with
      | error e => rfl
      | ok found =>
          dsimp only
          split_ifs
          · rfl
          · exact onOrg_other env service registry hother _
  | _ => exact onOrg_other env service registry hother _

/-- The commands that are refused as duplicates: a URL is given or derived, and the org, which
is registered, has it already. -/
def Command.IsDuplicate (command : Command) : Prop :=
  ∃ orgId url args found, command = .create orgId url args ∧ createUrl env url = .ok found ∧
    found ≠ "" ∧ textOrEmpty env.refreshToken ≠ "" ∧ service.isRegistered orgId = true ∧
    found ∈ (registry orgId).records.map DataSource.url

theorem onOrg_ne_duplicate {orgId : String} {change : OrgDataSources → ℕ × OrgDataSources}
    (hchange : (change (registry orgId)).1 ≠ exitDuplicate) :
    (onOrg env service registry orgId change).1 ≠ .ok exitDuplicate := by
  rw [onOrg]
  split_ifs
  · exact fun h => absurd (Except.ok.inj h) (by decide)
  · exact fun h => hchange (Except.ok.inj h)

theorem ifThere_ne_duplicate (found : Bool) (sources changed : OrgDataSources) :
    (ifThere found sources changed).1 ≠ exitDuplicate := by
  cases found with
  | false => exact Nat.succ_ne_succ_iff.mpr (Nat.zero_ne_one)
  | true => exact Nat.zero_ne_add_one 1

/-- Exit code 2 is the refusal of a duplicate, and of nothing else. -/
theorem Command.step_eq_duplicate_iff (command : Command) :
    (command.step env service registry).1 = .ok exitDuplicate ↔
      command.IsDuplicate env service registry := by
  have hother {orgId : String} {change : OrgDataSources → ℕ × OrgDataSources}
      (hnone : ∀ orgId url args, command ≠ .create orgId url args)
      (hchange : (change (registry orgId)).1 ≠ exitDuplicate) :
      (onOrg env service registry orgId change).1 = .ok exitDuplicate ↔
        command.IsDuplicate env service registry :=
    iff_of_false (onOrg_ne_duplicate env service registry hchange)
      fun ⟨orgId, url, args, _, hcommand, _⟩ => hnone orgId url args hcommand
  cases command with
  | list orgId => exact hother nofun (Nat.zero_ne_add_one 1)
  | get orgId id => exact hother nofun (ifThere_ne_duplicate _ _ _)
  | create orgId url args =>
      rw [step, IsDuplicate]
      cases hurl : createUrl env url with
      | error e =>
          refine iff_of_false nofun ?_
          rintro ⟨_, _, _, found, ⟨⟩, hfound, -⟩
          rw [hurl] at hfound
          cases hfound
      | ok found =>
          dsimp only
          rw [onOrg]
          constructor
          · intro h
            split_ifs at h with hblank hunusable hmem
            · exact absurd (Except.ok.inj h) (by decide)
            · exact absurd (Except.ok.inj h) (by decide)
            · rw [not_or, Bool.not_eq_false] at hunusable
              exact ⟨orgId, url, args, found, rfl, hurl, hblank, hunusable.1, hunusable.2, hmem⟩
            · exact absurd (Except.ok.inj h) (Nat.zero_ne_add_one 1)
          · rintro ⟨_, _, _, given, ⟨⟩, hgiven, hblank, htoken, hregistered, hmem⟩
            obtain rfl : found = given := Except.ok.inj (hurl.symm.trans hgiven)
            rw [if_neg hblank, if_neg (by simp [htoken, hregistered]), if_pos hmem]
  | update orgId id payload => exact hother nofun (ifThere_ne_duplicate _ _ _)
  | delete orgId id => exact hother nofun (ifThere_ne_duplicate _ _ _)
  | schemasList orgId => exact hother nofun (Nat.zero_ne_add_one 1)
  | schemasGet orgId schemaId => exact hother nofun (ifThere_ne_duplicate _ _ _)

/-- A URL that was just registered is a duplicate. -/
theorem Command.isDuplicate_of_created {orgId : String} {url : Option String} {args : CreateArgs}
    (hcode : ((create orgId url args).step env service registry).1 = .ok exitOk) :
    (create orgId url args).IsDuplicate env service
      ((create orgId url args).step env service registry).2 := by
  rw [step] at hcode ⊢
  cases hurl : createUrl env url with
  | error e =>
      rw [hurl] at hcode
      cases hcode
  | ok found =>
      rw [hurl] at hcode
      dsimp only at hcode ⊢
      rw [onOrg] at hcode ⊢
      split_ifs at hcode ⊢ with hblank hunusable hmem
      · exact absurd (Except.ok.inj hcode) (by decide)
      · exact absurd (Except.ok.inj hcode) (by decide)
      · exact absurd (Except.ok.inj hcode) (Nat.succ_ne_zero 1)
      · rw [not_or, Bool.not_eq_false] at hunusable
        refine ⟨orgId, url, args, found, rfl, hurl, hblank, hunusable.1, hunusable.2, ?_⟩
        dsimp only
        rw [Function.update_self, DataSourceService.created, OrgDataSources.add, List.map_append]
        exact List.mem_append_right _ List.mem_cons_self

end Steps

/-- The registry after some commands, each of them a process with surroundings of its own. -/
def runCommands (service : OrgService) (registry : DataSourceRegistry)
    (commands : List (Surroundings × Command)) : DataSourceRegistry :=
  runEvents (fun registry command =>
    (codeAfter service (command.2.run command.1) registry).2) registry commands

/-- The service that lists ids and URLs, with one registered org. -/
def listingOrgService : OrgService where
  toDataSourceService := listingService
  isRegistered orgId := orgId == "org-1"
  schemas _ := []
  listed_url record url h := of_decide_eq_true (show (record.url == url) = true from h)

example (env : Surroundings) (htoken : env.refreshToken = some "token") :
    (codeAfter listingOrgService
      ((Command.create "org-1" (some "https://a.example.com/grpc") {}).run env)
      twoDataSources).1 = .ok exitDuplicate := by
  rw [codeAfter_run, Command.step_eq_duplicate_iff]
  refine ⟨"org-1", _, _, "https://a.example.com/grpc", rfl, rfl, by decide, ?_, rfl, ?_⟩
  · rw [htoken]
    decide
  · exact List.mem_cons_self

end ManageDatasources

end ByodsServer
