/-
# Data sources

The operations on an org's data sources, as calls of the SDK's client for that
org. A client is known by its org. The loop of `url_exists` looks at a listed
item's own fields first and then fetches the record it names.
-/

import ByodsServer.Config.Settings
import ByodsServer.Effects.Program
import ByodsServer.Python.Json

namespace ByodsServer

open Effects Python

/-- `DataSourceCreate`. -/
structure DataSourceCreate where
  schemaId : String
  url : String
  audience : String
  subject : String
  nonce : String
  tokenLifetimeMinutes : Int
  deriving DecidableEq, Repr

/-- `DataSourceUpdate`: what is absent stays as it is. -/
structure DataSourceUpdate where
  schemaId : Option String
  url : Option String
  audience : Option String
  subject : Option String
  tokenLifetimeMinutes : Option Int
  deriving DecidableEq, Repr

/-- `DataSource`, as far as the server reads it. -/
structure DataSource where
  id : String
  url : String
  deriving DecidableEq, Repr

/-- `DataSourceListItem`: the fields beyond its model. -/
structure DataSourceListItem where
  extra : Option (List (String × Json))

/-- The calls of the SDK for data sources. -/
inductive ByodsCall
  | agetClientForOrg (orgId : String)
  | alist (orgId : String)
  | aget (orgId dataSourceId : String)
  | acreate (orgId : String) (payload : DataSourceCreate)
  | aupdate (orgId dataSourceId : String) (payload : DataSourceUpdate)
  | adelete (orgId dataSourceId : String)

/-- What each call answers. -/
@[reducible]
def ByodsCall.Reply : ByodsCall → Type
  | agetClientForOrg _ => Unit
  | alist _ => List DataSourceListItem
  | aget _ _ => DataSource
  | acreate _ _ => DataSource
  | aupdate _ _ _ => DataSource
  | adelete _ _ => Unit

/-- The SDK's data sources as something a program can call. -/
def byodsCalls : Signature where
  Call := ByodsCall
  Reply := ByodsCall.Reply

/-- A coroutine that talks to the SDK's data sources. -/
abbrev ByodsProgram := Program byodsCalls PyException

/-- One such call. -/
def callByods (request : ByodsCall) : ByodsProgram request.Reply :=
  Program.await (S := byodsCalls) request

@[simp]
theorem exec_callByods {σ : Type} (handler : Handler byodsCalls PyException σ)
    (request : ByodsCall) (state : σ) :
    (callByods request).exec handler state = handler request state := rfl

section Service

variable (repr : Json → String)

/-- `extra.get("url") == url`. -/
def DataSourceListItem.hasUrl (item : DataSourceListItem) (url : String) : Bool :=
  match Json.get? (item.extra.getD []) "url" with
  | some (.str value) => value == url
  | _ => false

/-- The id under which an item can be fetched, when it carries one. -/
def DataSourceListItem.fetchId? (item : DataSourceListItem) : Option String :=
  match Json.get? (item.extra.getD []) "id" with
  | some value => if value.truthy then some (value.toText repr) else none
  | none => none

/-- The loop of `url_exists`. -/
def urlExistsAmong (orgId url : String) : List DataSourceListItem → ByodsProgram Bool
  | [] => return false
  | item :: items =>
      if item.hasUrl url then return true
      else
        match item.fetchId? repr with
        | none => urlExistsAmong orgId url items
        | some itemId => do
            let detail ← callByods (.aget orgId itemId)
            if DataSource.url detail = url then return true
            else urlExistsAmong orgId url items

/-- `url_exists`. -/
def urlExists (orgId url : String) : ByodsProgram Bool := do
  let items ← callByods (.alist orgId)
  urlExistsAmong repr orgId url items

/-- `create_data_source`. -/
def createDataSource (orgId : String) (payload : DataSourceCreate)
    (skipDuplicateCheck : Bool := false) : ByodsProgram DataSource := do
  callByods (.agetClientForOrg orgId)
  if !skipDuplicateCheck ∧ payload.url ≠ "" then do
    if ← urlExists repr orgId payload.url then
      throw (.duplicateDataSourceURLError
        ("URL already registered for org " ++ orgId ++ ": " ++ payload.url))
    else callByods (.acreate orgId payload)
  else callByods (.acreate orgId payload)

/-- `update_data_source`. -/
def updateDataSource (orgId dataSourceId : String) (payload : DataSourceUpdate) :
    ByodsProgram DataSource := do
  callByods (.agetClientForOrg orgId)
  callByods (.aupdate orgId dataSourceId payload)

/-- `delete_data_source`. -/
def deleteDataSource (orgId dataSourceId : String) : ByodsProgram Unit := do
  callByods (.agetClientForOrg orgId)
  callByods (.adelete orgId dataSourceId)

/-- `build_create_payload` with nothing but a URL; the nonce is a fresh UUID. -/
def buildCreatePayload (settings : Settings) (uuid url : String) : DataSourceCreate where
  schemaId := settings.datasourceSchemaId
  url := url
  audience := settings.datasourceAudience
  subject := settings.datasourceSubject
  nonce := uuid
  tokenLifetimeMinutes := settings.datasourceTokenLifeMinutes

/-- `auto_register_for_org`. -/
def autoRegisterForOrg (lib : UrlLib) (settings : Settings) (uuid orgId : String) :
    ByodsProgram (Option DataSource) :=
  if !settings.autoRegisterDatasource then return none
  else do
    let datasourceUrl ← Program.ofExcept (settings.buildDatasourceUrl lib)
    let datasourceUrl := textOrEmpty datasourceUrl
    if datasourceUrl = "" then return none
    else do
      callByods (.agetClientForOrg orgId)
      if ← urlExists repr orgId datasourceUrl then return none
      else do
        let created ← createDataSource repr orgId
          (buildCreatePayload settings uuid datasourceUrl) true
        return some created

end Service

end ByodsServer
