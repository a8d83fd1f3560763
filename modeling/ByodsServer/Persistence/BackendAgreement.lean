/-
# One backend in the whole program

The start decides in four places which backend is in use: where it creates the
token storage, the catalog and the audit log, and where it checks the table for
`GET /ready`. The four agree for the two names that are documented, and for no
other text.
-/

import ByodsServer.Main
import ByodsServer.Persistence.Factory

namespace ByodsServer

open Effects

/-- The answers of a start whose resources were created. -/
def StartupAnswers.created (answers : StartupAnswers) : StartupAnswers
  | .createPersistenceResources => .ok ()
  | request => answers request

/-- The start: the resources that the factory creates, and the flags that
`lifespan` leaves. -/
def AppSettings.start (boto : Boto) (settings : AppSettings) (answers : StartupAnswers) :
    Except PyException (PersistenceResources × AppState) := do
  let resources ← createPersistenceResources boto settings
  let app ← (lifespan settings.toSettings).resultOf answers.created
  return (resources, app)

section Agreement

variable (boto : Boto) (settings : AppSettings)

/-- After every start, `GET /ready` answers 200 exactly when tokens were obtained
and the table could be reached. -/
def ReadyNeedsTable : Prop :=
  ∀ answers resources app, settings.start boto answers = .ok (resources, app) →
    (httpStatus (ready settings.toSettings app) = 200 ↔
      tokensAtStartup settings.toSettings answers = true ∧ reachableAtStartup answers = true)

/-- After every start, `GET /ready` answers 200 exactly when tokens were
obtained. -/
def ReadyIgnoresTable : Prop :=
  ∀ answers resources app, settings.start boto answers = .ok (resources, app) →
    (httpStatus (ready settings.toSettings app) = 200 ↔
      tokensAtStartup settings.toSettings answers = true)

/-- All of the program uses DynamoDB, or none of it does. -/
def BackendsAgree (resources : PersistenceResources) : Prop :=
  (resources.AllDynamoDB ∧ ReadyNeedsTable boto settings) ∨
    (resources.AllLocal ∧ ReadyIgnoresTable boto settings)

end Agreement

section Start

variable {boto : Boto} {settings : AppSettings} {answers : StartupAnswers}
  {resources : PersistenceResources} {app : AppState}

theorem start_eq_ok_iff :
    settings.start boto answers = .ok (resources, app) ↔
      createPersistenceResources boto settings = .ok resources ∧
        (lifespan settings.toSettings).resultOf answers.created = .ok app := by
  rw [AppSettings.start, bind_eq_ok_iff]
  constructor
  · rintro ⟨created, hcreated, h⟩
    obtain ⟨flags, hflags, h⟩ := (bind_eq_ok_iff _ _ _).mp h
    obtain ⟨rfl, rfl⟩ := Prod.mk.inj (Except.ok.inj h)
    exact ⟨hcreated, hflags⟩
  · rintro ⟨hcreated, hflags⟩
    refine ⟨resources, hcreated, ?_⟩
    rw [hflags]
    rfl

theorem readyNeedsTable_of_dynamodb (hbackend : settings.persistenceBackend = "dynamodb") :
    ReadyNeedsTable boto settings := by
  intro answers resources app hstart
  have happ := lifespan_eq_ok hbackend (start_eq_ok_iff.mp hstart).2
  have htokens : tokensAtStartup settings.toSettings answers.created =
      tokensAtStartup settings.toSettings answers := rfl
  have hreachable : reachableAtStartup answers.created = reachableAtStartup answers := rfl
  rw [happ, htokens, hreachable]
  cases tokensAtStartup settings.toSettings answers <;> cases reachableAtStartup answers <;>
    simp [ready, httpStatus, hbackend]

theorem readyIgnoresTable_of_not_dynamodb (hbackend : settings.persistenceBackend ≠ "dynamodb") :
    ReadyIgnoresTable boto settings := by
  intro answers resources app hstart
  have htokens : app.integrationReady = tokensAtStartup settings.toSettings answers :=
    (lifespan_flags (start_eq_ok_iff.mp hstart).2).1
  rw [← htokens]
  cases hready : app.integrationReady <;> simp [ready, httpStatus, hbackend, hready]

end Start

/-- After a start that succeeds, all of the program agrees on the backend exactly
when `PERSISTENCE_BACKEND`, trimmed and in lower case, is one of the two names. -/
theorem backends_agree_iff (int : String → Except PyException ℤ) (environ : Environ)
    (boto : Boto) (settings : AppSettings) (answers : StartupAnswers)
    (resources : PersistenceResources) (app : AppState)
    (hsettings : getSettings int environ = .ok settings)
    (hstart : settings.start boto answers = .ok (resources, app)) :
    BackendsAgree boto settings resources ↔
      persistenceBackendOf environ = "memory" ∨ persistenceBackendOf environ = "dynamodb" := by
  have hcreated := (start_eq_ok_iff.mp hstart).1
  rw [← (getSettings_reads hsettings).1, BackendsAgree, allDynamoDB_iff hcreated,
    allLocal_iff hcreated]
  constructor
  · rintro (⟨hdynamo, -⟩ | ⟨hmemory, -⟩)
    · exact Or.inr hdynamo
    · exact Or.inl hmemory
  · rintro (hmemory | hdynamo)
    · have hother : settings.persistenceBackend ≠ "dynamodb" := by simp [hmemory]
      exact Or.inr ⟨hmemory, readyIgnoresTable_of_not_dynamodb hother⟩
    · exact Or.inl ⟨hdynamo, readyNeedsTable_of_dynamodb hdynamo⟩

/-! ## Two environments -/

/-- An encryption key. -/
def environKey : String := "Y2hhbmdlLW1lLWJlZm9yZS1nb2luZy1saXZlLTEyMzQ="

/-- An environment that names a backend and has an encryption key. -/
def environWith (backend : String) : Environ
  | "PERSISTENCE_BACKEND" => some backend
  | "PERSISTENCE_ENCRYPTION_KEY" => some environKey
  | _ => none

/-- The settings of such an environment. -/
def settingsWith (backend : String) : AppSettings :=
  { defaultAppSettings with
    persistenceBackend := backend
    persistenceEncryptionKey := some environKey }

/-- Every table can be opened. -/
def everyTable : Boto := fun _ => .ok ()

/-- The table of these settings. -/
def appStateTable : TableAddress := ⟨"byods-app-state", "us-east-1", none⟩

/-- Another spelling of a documented name. -/
theorem backends_agree_iff_spelling :
    BackendsAgree everyTable (settingsWith "dynamodb")
      ⟨.dynamoDBTokenStorage appStateTable environKey, .dynamoDBCatalogRepository appStateTable,
        .auditRepository appStateTable 30⟩ ↔
    persistenceBackendOf (environWith " DynamoDB\n") = "memory" ∨
      persistenceBackendOf (environWith " DynamoDB\n") = "dynamodb" :=
  backends_agree_iff intOfDigits (environWith " DynamoDB\n") everyTable (settingsWith "dynamodb")
    emptyStart _ ⟨false, true⟩ rfl rfl

/-- A name that is not documented: tokens and catalog go to the table, audit
events nowhere, and `GET /ready` takes the table for granted. -/
theorem undocumented_backend_splits :
    getSettings intOfDigits (environWith "dynamo") = .ok (settingsWith "dynamo") ∧
      (settingsWith "dynamo").start everyTable emptyStart =
        .ok (⟨.dynamoDBTokenStorage appStateTable environKey,
          .dynamoDBCatalogRepository appStateTable, .noOpAuditRepository⟩, ⟨false, true⟩) ∧
      ¬ BackendsAgree everyTable (settingsWith "dynamo")
        ⟨.dynamoDBTokenStorage appStateTable environKey,
          .dynamoDBCatalogRepository appStateTable, .noOpAuditRepository⟩ := by
  refine ⟨rfl, rfl, ?_⟩
  rintro (⟨hall, -⟩ | ⟨hall, -⟩)
  · cases hall.auditRepository
  · cases hall.tokenStorage

end ByodsServer
