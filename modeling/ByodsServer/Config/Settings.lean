/-
# Settings

The part of the configuration that the webhook handlers and the start of the
app read, and the data source URL derived from it.
-/

import ByodsServer.Exceptions
import ByodsServer.Python.Url

namespace ByodsServer

open Python

/-- `Settings`. -/
structure Settings where
  autoRegisterDatasource : Bool
  datasourcePublicUrl : Option String
  webhookTargetUrl : Option String
  datasourcePathSuffix : String
  datasourceSchemaId : String
  datasourceAudience : String
  datasourceSubject : String
  datasourceTokenLifeMinutes : Int
  integrationRefreshToken : Option String
  mediaEnabled : Bool
  persistenceBackend : String
  deriving DecidableEq, Repr

/-- The settings of an empty environment. -/
def defaultSettings : Settings where
  autoRegisterDatasource := true
  datasourcePublicUrl := none
  webhookTargetUrl := none
  datasourcePathSuffix := "/grpc"
  datasourceSchemaId := "5397013b-7920-4ffc-807c-e8a3e0a18f43"
  datasourceAudience := "BYOVAGateway"
  datasourceSubject := "callAudioData"
  datasourceTokenLifeMinutes := 1440
  integrationRefreshToken := none
  mediaEnabled := true
  persistenceBackend := "memory"

/-- `text or ""`. -/
def textOrEmpty (text : Option String) : String := text.getD ""

/-- `first or second` of optional texts. -/
def textOr (first second : Option String) : Option String :=
  if textOrEmpty first = "" then second else first

namespace Settings

variable (settings : Settings)

/-- The trimmed URL that the data source URL is derived from. -/
def datasourceBase : String :=
  strip (textOrEmpty (textOr settings.datasourcePublicUrl settings.webhookTargetUrl))

/-- `build_datasource_url`. -/
def buildDatasourceUrl (lib : UrlLib) : Except PyException (Option String) :=
  if settings.datasourceBase = "" then .ok none
  else
    match urlparse lib settings.datasourceBase with
    | .error message => .error (.valueError message)
    | .ok parsed =>
        if parsed.scheme = "" ∨ parsed.netloc = "" then .ok none
        else
          let suffix := strip settings.datasourcePathSuffix
          let suffix := if startsWith suffix "/" then suffix else "/" ++ suffix
          .ok (some (parsed.scheme ++ "://" ++ parsed.netloc ++ suffix))

/-- Only the URL parser raises. -/
theorem buildDatasourceUrl_raises_iff (lib : UrlLib) :
    (∃ e, settings.buildDatasourceUrl lib = .error e) ↔
      settings.datasourceBase ≠ "" ∧ ∃ message, urlparse lib settings.datasourceBase =
        .error message := by
  unfold buildDatasourceUrl
  by_cases hbase : settings.datasourceBase = ""
  · simp [hbase]
  · rw [if_neg hbase]
    cases urlparse lib settings.datasourceBase with
    | error message => simp [hbase]
    | ok parsed =>
        by_cases hparsed : parsed.scheme = "" ∨ parsed.netloc = ""
        · simp [hparsed]
        · simp [hparsed]

end Settings

end ByodsServer
