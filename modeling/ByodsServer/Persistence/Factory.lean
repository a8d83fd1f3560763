/-
# Persistence backends from the settings

`create_persistence_resources` and the two functions it calls. Each of the three
compares `persistence_backend` with a name of its own. Opening a table through
boto3 is a parameter.
-/

import ByodsServer.Config.Environment

namespace ByodsServer

open Effects

/-- What a `DynamoDBTable` is opened with. -/
structure TableAddress where
  tableName : String
  region : String
  endpointUrl : Option String
  deriving DecidableEq, Repr

/-- `_table_resource`: nothing, or why boto3 refuses. -/
abbrev Boto := TableAddress → Except PyException Unit

/-- `DynamoDBTable(...)`. -/
def openTable (boto : Boto) (address : TableAddress) : Except PyException TableAddress := do
  boto address
  return address

/-- The token storages. -/
inductive TokenStorage
  | inMemoryTokenStorage
  | dynamoDBTokenStorage (table : TableAddress) (encryptionKey : String)
  deriving DecidableEq, Repr

/-- The catalog repositories; the one in DynamoDB opens its table on each call. -/
inductive CatalogRepository
  | inMemoryCatalogRepository (configPath : String)
  | dynamoDBCatalogRepository (table : TableAddress)
  deriving DecidableEq, Repr

/-- The audit repositories. -/
inductive AuditSink
  | noOpAuditRepository
  | auditRepository (table : TableAddress) (ttlDays : ℤ)
  deriving DecidableEq, Repr

/-- `PersistenceResources`. -/
structure PersistenceResources where
  tokenStorage : TokenStorage
  catalogRepository : CatalogRepository
  auditRepository : AuditSink
  deriving DecidableEq, Repr

section Create

variable (boto : Boto) (settings : AppSettings)

/-- The table that the settings name. -/
def AppSettings.tableAddress : TableAddress :=
  ⟨settings.dynamodbTableName, settings.awsRegion, settings.awsEndpointUrl⟩

/-- `create_catalog_repository`. -/
def createCatalogRepository : CatalogRepository :=
  if settings.persistenceBackend = "memory" then
    .inMemoryCatalogRepository settings.virtualAgentsConfigPath
  else .dynamoDBCatalogRepository settings.tableAddress

/-- `create_audit_repository`. -/
def createAuditRepository : Except PyException AuditSink :=
  if settings.persistenceBackend ≠ "dynamodb" then .ok .noOpAuditRepository
  else do
    let table ← openTable boto settings.tableAddress
    return .auditRepository table settings.persistenceAuditTtlDays

/-- The storage part of `create_persistence_resources`. -/
def createTokenStorage : Except PyException TokenStorage :=
  if settings.persistenceBackend = "memory" then .ok .inMemoryTokenStorage
  else if textOrEmpty settings.persistenceEncryptionKey = "" then
    .error (.valueError "PERSISTENCE_ENCRYPTION_KEY is required when PERSISTENCE_BACKEND=dynamodb")
  else do
    let table ← openTable boto settings.tableAddress
    return .dynamoDBTokenStorage table (textOrEmpty settings.persistenceEncryptionKey)

/-- `create_persistence_resources`. -/
def createPersistenceResources : Except PyException PersistenceResources := do
  let auditRepository ← createAuditRepository boto settings
  let tokenStorage ← createTokenStorage boto settings
  return ⟨tokenStorage, createCatalogRepository settings, auditRepository⟩

end Create

/-! ## What is kept in the table -/

/-- Tokens are kept in the table. -/
def TokenStorage.usesTable : TokenStorage → Bool
  | inMemoryTokenStorage => false
  | dynamoDBTokenStorage _ _ => true

/-- The catalog is kept in the table. -/
def CatalogRepository.usesTable : CatalogRepository → Bool
  | inMemoryCatalogRepository _ => false
  | dynamoDBCatalogRepository _ => true

/-- Audit events are kept in the table. -/
def AuditSink.usesTable : AuditSink → Bool
  | noOpAuditRepository => false
  | auditRepository _ _ => true

namespace PersistenceResources

/-- Everything is kept in the table. -/
structure AllDynamoDB (resources : PersistenceResources) : Prop where
  tokenStorage : resources.tokenStorage.usesTable = true
  catalogRepository : resources.catalogRepository.usesTable = true
  auditRepository : resources.auditRepository.usesTable = true

/-- Nothing is kept in the table. -/
structure AllLocal (resources : PersistenceResources) : Prop where
  tokenStorage : resources.tokenStorage.usesTable = false
  catalogRepository : resources.catalogRepository.usesTable = false
  auditRepository : resources.auditRepository.usesTable = false

end PersistenceResources

section UsesTable

variable {boto : Boto} {settings : AppSettings}

theorem createCatalogRepository_usesTable :
    (createCatalogRepository settings).usesTable = true ↔
      settings.persistenceBackend ≠ "memory" := by
  rw [createCatalogRepository]
  split_ifs with hmemory
  · simp [CatalogRepository.usesTable, hmemory]
  · simp [CatalogRepository.usesTable, hmemory]

theorem createAuditRepository_usesTable {auditRepository : AuditSink}
    (h : createAuditRepository boto settings = .ok auditRepository) :
    auditRepository.usesTable = true ↔ settings.persistenceBackend = "dynamodb" := by
  rw [createAuditRepository] at h
  split_ifs at h with hother
  · simp [← Except.ok.inj h, AuditSink.usesTable, hother]
  · obtain ⟨table, -, htable⟩ := (bind_eq_ok_iff _ _ _).mp h
    simp [← Except.ok.inj htable, AuditSink.usesTable, not_not.mp hother]

theorem createTokenStorage_usesTable {tokenStorage : TokenStorage}
    (h : createTokenStorage boto settings = .ok tokenStorage) :
    tokenStorage.usesTable = true ↔ settings.persistenceBackend ≠ "memory" := by
  rw [createTokenStorage] at h
  split_ifs at h with hmemory hkey
  · simp [← Except.ok.inj h, TokenStorage.usesTable, hmemory]
  · obtain ⟨table, -, htable⟩ := (bind_eq_ok_iff _ _ _).mp h
    simp [← Except.ok.inj htable, TokenStorage.usesTable, hmemory]

/-- Two of the tests ask for one name, the third for the other. -/
theorem createPersistenceResources_usesTable {resources : PersistenceResources}
    (h : createPersistenceResources boto settings = .ok resources) :
    (resources.tokenStorage.usesTable = true ↔ settings.persistenceBackend ≠ "memory") ∧
    (resources.catalogRepository.usesTable = true ↔ settings.persistenceBackend ≠ "memory") ∧
    (resources.auditRepository.usesTable = true ↔ settings.persistenceBackend = "dynamodb") := by
  obtain ⟨auditRepository, haudit, h⟩ := (bind_eq_ok_iff _ _ _).mp h
  obtain ⟨tokenStorage, htokens, h⟩ := (bind_eq_ok_iff _ _ _).mp h
  rw [← Except.ok.inj h]
  exact ⟨createTokenStorage_usesTable htokens, createCatalogRepository_usesTable,
    createAuditRepository_usesTable haudit⟩

theorem allDynamoDB_iff {resources : PersistenceResources}
    (h : createPersistenceResources boto settings = .ok resources) :
    resources.AllDynamoDB ↔ settings.persistenceBackend = "dynamodb" := by
  have huses := createPersistenceResources_usesTable h
  constructor
  · intro hall
    exact huses.2.2.mp hall.auditRepository
  · intro hdynamo
    have hmemory : settings.persistenceBackend ≠ "memory" := by simp [hdynamo]
    exact ⟨huses.1.mpr hmemory, huses.2.1.mpr hmemory, huses.2.2.mpr hdynamo⟩

theorem allLocal_iff {resources : PersistenceResources}
    (h : createPersistenceResources boto settings = .ok resources) :
    resources.AllLocal ↔ settings.persistenceBackend = "memory" := by
  have huses := createPersistenceResources_usesTable h
  constructor
  · intro hall
    by_contra hmemory
    have htokens := huses.1.mpr hmemory
    rw [hall.tokenStorage] at htokens
    cases htokens
  · intro hmemory
    have hdynamo : settings.persistenceBackend ≠ "dynamodb" := by simp [hmemory]
    exact ⟨Bool.eq_false_iff.mpr fun htokens => huses.1.mp htokens hmemory,
      Bool.eq_false_iff.mpr fun hcatalog => huses.2.1.mp hcatalog hmemory,
      Bool.eq_false_iff.mpr fun haudit => hdynamo (huses.2.2.mp haudit)⟩

end UsesTable

end ByodsServer
