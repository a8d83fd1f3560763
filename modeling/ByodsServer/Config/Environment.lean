/-
# Settings from the environment

`get_settings` and the settings that only the start of the app reads. The parser
of whole numbers and the two parts of a redirect URI are parameters.
-/

import ByodsServer.Config.Settings
import ByodsServer.Effects.Raising

namespace ByodsServer

open Effects Python

/-- `Settings`, all of it. -/
structure AppSettings extends Settings where
  port : ℤ
  integrationRedirectUri : Option String
  rateLimitPerMinute : Option ℤ
  mediaEchoEnabled : Bool
  logJson : Bool
  virtualAgentsConfigPath : String
  dynamodbTableName : String
  persistenceEncryptionKey : Option String
  persistenceAuditTtlDays : ℤ
  awsRegion : String
  awsEndpointUrl : Option String
  deriving DecidableEq, Repr

/-- `os.environ.get(name)`. -/
abbrev Environ := String → Option String

/-- `_env_bool`. -/
def envBool (environ : Environ) (name : String) (default : Bool) : Bool :=
  match environ name with
  | none => default
  | some value => ["1", "true", "yes", "on"].contains (lower (strip value))

/-- `persistence_backend`, as `get_settings` reads it. -/
def persistenceBackendOf (environ : Environ) : String :=
  lower (strip ((environ "PERSISTENCE_BACKEND").getD "memory"))

/-- `rate_limit`, as `get_settings` reads it. -/
def rateLimitOf (int : String → Except PyException ℤ) (environ : Environ) :
    Except PyException (Option ℤ) :=
  let rateRaw := strip ((environ "RATE_LIMIT_PER_MINUTE").getD "")
  if rateRaw = "" then .ok none else (int rateRaw).map some

/-- `get_settings`; `int` is `int(text)`. -/
def getSettings (int : String → Except PyException ℤ) (environ : Environ) :
    Except PyException AppSettings := do
  let rateLimit ← rateLimitOf int environ
  let port ← int ((environ "PORT").getD "8000")
  let tokenLife ← int ((environ "WEBEX_DATASOURCE_TOKEN_LIFE_MINUTES").getD "1440")
  let auditTtl ← int ((environ "PERSISTENCE_AUDIT_TTL_DAYS").getD "30")
  return {
    port := port
    autoRegisterDatasource := envBool environ "WEBEX_AUTO_REGISTER_DATASOURCE" true
    datasourcePublicUrl := environ "WEBEX_DATASOURCE_PUBLIC_URL"
    webhookTargetUrl := environ "WEBEX_WEBHOOK_TARGET_URL"
    datasourcePathSuffix :=
      (environ "WEBEX_DATASOURCE_PATH_SUFFIX").getD defaultSettings.datasourcePathSuffix
    datasourceSchemaId :=
      (environ "WEBEX_DATASOURCE_SCHEMA_ID").getD defaultSettings.datasourceSchemaId
    datasourceAudience :=
      (environ "WEBEX_DATASOURCE_AUDIENCE").getD defaultSettings.datasourceAudience
    datasourceSubject :=
      (environ "WEBEX_DATASOURCE_SUBJECT").getD defaultSettings.datasourceSubject
    datasourceTokenLifeMinutes := tokenLife
    integrationRefreshToken := environ "WEBEX_INTEGRATION_REFRESH_TOKEN"
    integrationRedirectUri := environ "WEBEX_INTEGRATION_REDIRECT_URI"
    rateLimitPerMinute := rateLimit
    mediaEchoEnabled := envBool environ "WEBEX_MEDIA_ECHO_ENABLED" false
    mediaEnabled := envBool environ "WEBEX_MEDIA_ENABLED" true
    logJson := envBool environ "LOG_JSON" true
    virtualAgentsConfigPath :=
      (environ "WEBEX_VIRTUAL_AGENTS_CONFIG").getD "config/virtual_agents.json"
    persistenceBackend := persistenceBackendOf environ
    dynamodbTableName := (environ "DYNAMODB_TABLE_NAME").getD "byods-app-state"
    persistenceEncryptionKey := (environ "PERSISTENCE_ENCRYPTION_KEY").filter (· ≠ "")
    persistenceAuditTtlDays := auditTtl
    awsRegion := (environ "AWS_REGION").getD "us-east-1"
    awsEndpointUrl := (environ "AWS_ENDPOINT_URL").filter (· ≠ "") }

/-- `int(text)` of a text of digits. -/
def intOfDigits (text : String) : Except PyException ℤ :=
  if text ≠ "" ∧ text.toList.all Char.isDigit then
    .ok (text.toList.foldl (fun value c => 10 * value + (c.toNat - '0'.toNat : ℤ)) 0)
  else .error (.valueError ("invalid literal for int() with base 10: '" ++ text ++ "'"))

/-- The settings of an empty environment. -/
def defaultAppSettings : AppSettings :=
  { defaultSettings with
    port := 8000
    integrationRedirectUri := none
    rateLimitPerMinute := none
    mediaEchoEnabled := false
    logJson := true
    virtualAgentsConfigPath := "config/virtual_agents.json"
    dynamodbTableName := "byods-app-state"
    persistenceEncryptionKey := none
    persistenceAuditTtlDays := 30
    awsRegion := "us-east-1"
    awsEndpointUrl := none }

example : getSettings intOfDigits (fun _ => none) = .ok defaultAppSettings := rfl

/-- What `get_settings` returns holds what the environment says on the backend
and the redirect URI. -/
theorem getSettings_reads {int : String → Except PyException ℤ} {environ : Environ}
    {settings : AppSettings} (h : getSettings int environ = .ok settings) :
    settings.persistenceBackend = persistenceBackendOf environ ∧
      settings.integrationRedirectUri = environ "WEBEX_INTEGRATION_REDIRECT_URI" := by
  rw [getSettings, bind_eq_ok_iff] at h
  obtain ⟨rateLimit, -, h⟩ := h
  rw [bind_eq_ok_iff] at h
  obtain ⟨port, -, h⟩ := h
  rw [bind_eq_ok_iff] at h
  obtain ⟨tokenLife, -, h⟩ := h
  rw [bind_eq_ok_iff] at h
  obtain ⟨auditTtl, -, h⟩ := h
  rw [← Except.ok.inj h]
  exact ⟨rfl, rfl⟩

/-- The names of the local host. -/
def localHosts : List String := ["127.0.0.1", "localhost", "::1"]

/-- `(hostname or "").lower()` is a name of the local host. -/
def isLocalHost (hostname : Option String) : Bool :=
  localHosts.contains (lower (textOrEmpty hostname))

namespace AppSettings

variable (settings : AppSettings)

/-- `integration_redirect_path`; `path` is `urlparse(text).path`. -/
def integrationRedirectPath (path : String → String) : String :=
  let raw := strip (textOrEmpty settings.integrationRedirectUri)
  if raw = "" then "/oauth/webex/callback"
  else
    let path := if path raw = "" then "/oauth/webex/callback" else path raw
    if startsWith path "/" then path else "/" ++ path

/-- `mount_oauth_callback`; `hostname` is `urlparse(text).hostname`. -/
def mountOauthCallback (hostname : String → Option String) : Bool :=
  let raw := strip (textOrEmpty settings.integrationRedirectUri)
  if raw = "" then false else !isLocalHost (hostname raw)

end AppSettings

end ByodsServer
