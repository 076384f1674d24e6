import Treasury.Yaml.Value
import Treasury.Log.Line
import Treasury.Reward.Basic
import Treasury.Service.Reconciliation

namespace Treasury

structure DatabaseSettings where
  maxConnections : Nat
  acquireTimeoutMs : Nat
deriving DecidableEq

structure SettlementSettings where
  -- How long a provider has before its outcome is unknown.
  providerTimeoutMs : Nat
deriving DecidableEq

structure RewardSettings where
  withdrawalThreshold : Decimal
deriving DecidableEq

structure CatalogSettings where
  enabled : Bool
  intervalSecs : Nat
  pageSize : Nat
  baseUrl : String
  apiToken : String
  timeoutMs : Nat
deriving DecidableEq

structure ReconciliationSettings where
  scanIntervalSecs : Nat
  staleAfterSecs : Nat
  batchSize : Nat
deriving DecidableEq

structure Settings where
  logLevel : String
  logDir : String
  logFile : String
  useJson : Bool
  rotation : String
  -- Rows are kept in memory without one.
  postgresUrl : Option String
  database : DatabaseSettings
  settlement : SettlementSettings
  referral : RewardSettings
  catalogSync : CatalogSettings
  reconciliation : ReconciliationSettings
deriving DecidableEq

inductive SettingsError where
  | missingFile (path : String)
  | malformed
  | invalid (reason : String)
deriving DecidableEq, Repr

def SettingsError.invalidMessage (reason : String) : String := "Invalid config: " ++ reason

def DatabaseSettings.standard : DatabaseSettings := ⟨20, 5000⟩
def SettlementSettings.standard : SettlementSettings := ⟨15000⟩
def RewardSettings.standard : RewardSettings := ⟨RewardPolicy.standard.threshold⟩
def CatalogSettings.standardTimeoutMs : Nat := 30000
def CatalogSettings.standard : CatalogSettings := ⟨false, 6 * 3600, 200, "", "", standardTimeoutMs⟩
def ReconciliationSettings.standard : ReconciliationSettings := ⟨60, 300, 100⟩

namespace Settings

open Yaml (text? bool? natBelow? decimal? required defaulted fields?)

def database? (y : Yaml) : Option DatabaseSettings := do
  let m ← fields? ["max_connections", "acquire_timeout_ms"] y
  let maxConnections ← required m "max_connections" (natBelow? UInt32.size)
  return ⟨maxConnections, ← required m "acquire_timeout_ms" (natBelow? UInt64.size)⟩

def settlement? (y : Yaml) : Option SettlementSettings := do
  let m ← fields? ["provider_timeout_ms"] y
  return ⟨← required m "provider_timeout_ms" (natBelow? UInt64.size)⟩

def referral? (y : Yaml) : Option RewardSettings := do
  return ⟨← required (← fields? ["withdrawal_threshold"] y) "withdrawal_threshold" decimal?⟩

def catalogSync? (y : Yaml) : Option CatalogSettings := do
  let m ← fields? ["enabled", "interval_secs", "page_size", "base_url", "api_token", "timeout_ms"] y
  let enabled ← required m "enabled" bool?
  let intervalSecs ← required m "interval_secs" (natBelow? UInt64.size)
  let pageSize ← required m "page_size" (natBelow? UInt32.size)
  let baseUrl ← defaulted m "base_url" "" text?
  let apiToken ← defaulted m "api_token" "" text?
  let timeoutMs ← defaulted m "timeout_ms" CatalogSettings.standardTimeoutMs (natBelow? UInt64.size)
  return { enabled, intervalSecs, pageSize, baseUrl, apiToken, timeoutMs }

def reconciliation? (y : Yaml) : Option ReconciliationSettings := do
  let m ← fields? ["scan_interval_secs", "stale_after_secs", "batch_size"] y
  let scanIntervalSecs ← required m "scan_interval_secs" (natBelow? UInt64.size)
  let staleAfterSecs ← required m "stale_after_secs" (natBelow? UInt64.size)
  return ⟨scanIntervalSecs, staleAfterSecs, ← required m "batch_size" (natBelow? UInt64.size)⟩

def names : List String :=
  ["log_level", "log_dir", "log_file", "use_json", "rotation", "postgres_url", "database",
    "settlement", "referral", "catalog_sync", "reconciliation"]

-- A section that is there must have every value that has no default of its own.
def ofYaml? (y : Yaml) : Option Settings := do
  let m ← fields? names y
  let logLevel ← required m "log_level" text?
  let logDir ← required m "log_dir" text?
  let logFile ← required m "log_file" text?
  let useJson ← required m "use_json" bool?
  let rotation ← required m "rotation" text?
  let postgresUrl ← defaulted m "postgres_url" none (Yaml.nullable? text?)
  let database ← defaulted m "database" .standard database?
  let settlement ← defaulted m "settlement" .standard settlement?
  let referral ← defaulted m "referral" .standard referral?
  let catalogSync ← defaulted m "catalog_sync" .standard catalogSync?
  let reconciliation ← defaulted m "reconciliation" .standard reconciliation?
  return { logLevel, logDir, logFile, useJson, rotation, postgresUrl, database, settlement,
           referral, catalogSync, reconciliation }

-- What does not fit, if anything; the first thing counts. A payment must not be reconciled while
-- its provider may still answer.
def flaw? (s : Settings) : Option String :=
  if s.database.maxConnections = 0 then some "database.max_connections must be at least 1"
  else if s.referral.withdrawalThreshold ≤ 0 then
    some "referral.withdrawal_threshold must be positive"
  else if s.reconciliation.staleAfterSecs * 1000 ≤ s.settlement.providerTimeoutMs then
    some "reconciliation.stale_after_secs must exceed settlement.provider_timeout_ms"
  else if s.catalogSync.enabled ∧ s.catalogSync.baseUrl = "" then
    some "catalog_sync.base_url is required when catalog sync is enabled"
  else if s.catalogSync.timeoutMs = 0 then some "catalog_sync.timeout_ms must be positive"
  else none

def ofText (s : String) : Except SettingsError Settings :=
  match (Yaml.ofText? s).bind ofYaml? with
  | none => .error .malformed
  | some settings =>
    match settings.flaw? with
    | some reason => .error (.invalid reason)
    | none => .ok settings

def path (environment : String) : String := "config/" ++ environment ++ ".yaml"

def load (environment : String) (content : Option String) : Except SettingsError Settings :=
  match content with
  | none => .error (.missingFile (path environment))
  | some s => ofText s

def toJson (s : Settings) : Json :=
  .object [("log_level", .text s.logLevel), ("log_dir", .text s.logDir), ("log_file", .text s.logFile),
    ("use_json", .bool s.useJson), ("rotation", .text s.rotation),
    ("postgres_url", Json.option .text s.postgresUrl),
    ("database", .object [("max_connections", .ofNat s.database.maxConnections),
      ("acquire_timeout_ms", .ofNat s.database.acquireTimeoutMs)]),
    ("settlement", .object [("provider_timeout_ms", .ofNat s.settlement.providerTimeoutMs)]),
    ("referral", .object [("withdrawal_threshold", .ofDecimal s.referral.withdrawalThreshold)]),
    ("catalog_sync", .object [("enabled", .bool s.catalogSync.enabled),
      ("interval_secs", .ofNat s.catalogSync.intervalSecs),
      ("page_size", .ofNat s.catalogSync.pageSize), ("base_url", .text s.catalogSync.baseUrl),
      ("api_token", .text s.catalogSync.apiToken), ("timeout_ms", .ofNat s.catalogSync.timeoutMs)]),
    ("reconciliation", .object [("scan_interval_secs", .ofNat s.reconciliation.scanIntervalSecs),
      ("stale_after_secs", .ofNat s.reconciliation.staleAfterSecs),
      ("batch_size", .ofNat s.reconciliation.batchSize)])]

-- What the services take from the settings; times are in milliseconds.
def syncIntervalMs (s : Settings) : Nat := s.catalogSync.intervalSecs * 1000
def scanIntervalMs (s : Settings) : Nat := s.reconciliation.scanIntervalSecs * 1000

def reconciliationPlan (s : Settings) : Reconciliation.Plan :=
  ⟨s.reconciliation.staleAfterSecs * 1000, s.reconciliation.batchSize⟩

def rewardPolicy (s : Settings) : RewardPolicy :=
  { RewardPolicy.standard with threshold := s.referral.withdrawalThreshold }

-- A filter of the environment goes before the one that is set, unless it is refused.
def logOutput (s : Settings) (filterText : Option String) : Log.Output where
  filter := (filterText.bind Log.Filter.ofText?).getD (Log.Filter.ofText s.logLevel)
  json := s.useJson
  rotation := Log.Rotation.ofText s.rotation
  directory := s.logDir
  file := s.logFile

-- What is said about the filter that is set, where it is the one that counts.
def logComplaints (s : Settings) (filterText : Option String) : List String :=
  match filterText.bind Log.Filter.ofText? with
  | some _ => []
  | none => Log.Filter.complaints s.logLevel

def inEffect (s : Settings) : List (String × Json) :=
  [("acquire_timeout_ms", .ofNat s.database.acquireTimeoutMs),
    ("provider_timeout_ms", .ofNat s.settlement.providerTimeoutMs),
    ("sync_interval_ms", .ofNat s.syncIntervalMs), ("sync_timeout_ms", .ofNat s.catalogSync.timeoutMs),
    ("scan_interval_ms", .ofNat s.scanIntervalMs),
    ("stale_after_ms", .ofNat s.reconciliationPlan.staleAfter),
    ("batch_size", .ofNat s.reconciliationPlan.batchSize),
    ("threshold", .ofDecimal s.rewardPolicy.threshold),
    ("settlement_currency", .text s.rewardPolicy.settlementCurrency.code)]

end Settings
end Treasury
