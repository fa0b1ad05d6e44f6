import AdSearch.Keyed
import AdSearch.Setting.Field

/-!
# Settings

Settings are read from environment variables, whose names count in any letter case, the last of
several spellings winning.  A setting without a variable has its default.
-/

namespace AdSearch

/-- Where the seed of the account comes from. -/
inductive SeedPath where
  | builtIn
  | file (path : String)
deriving DecidableEq

structure Settings where
  defaultPageSize : Int
  maxPageSize : Int
  defaultWindowDays : Int
  mockDataPath : SeedPath
  apiVersion : String
  logLevel : String
  environment : String
  enableRequestLogging : Bool
  simulateRateLimiting : Bool
  rateLimitProbability : Binary64
deriving DecidableEq

structure SettingFault where
  setting : String
  fault : FieldFault
deriving DecidableEq

namespace Settings

/-- The settings of an empty environment. -/
def default : Settings where
  defaultPageSize := 10
  maxPageSize := 10000
  defaultWindowDays := 30
  mockDataPath := .builtIn
  apiVersion := "v21"
  logLevel := "INFO"
  environment := "development"
  enableRequestLogging := false
  simulateRateLimiting := false
  rateLimitProbability := Binary64.ofDecimal false 1 (-1)

/-- The variables of an environment by their names in lower case. -/
def lowerNames (env : List (String × String)) : List (String × String) :=
  Keyed.ofEntries (env.map fun (name, s) => (String.ofList (Text.lower name.toList), s))

def setting {α : Type} (vars : List (String × String)) (name : String)
    (read : String → Except FieldFault α) (default : α) : Except FieldFault α :=
  match Keyed.get? name vars with
  | some s => read s
  | none => .ok default

/-- The fault of a setting, if it has one. -/
def faultOf {α : Type} (name : String) : Except FieldFault α → List SettingFault
  | .ok _ => []
  | .error fault => [⟨name, fault⟩]

/-- The settings of an environment, or the faults by the names of the settings. -/
def ofEnvironment (env : List (String × String)) : Except (List SettingFault) Settings :=
  let vars := lowerNames env
  let text := fun name default => (Keyed.get? name vars).getD default
  let pageSize := setting vars "default_page_size" Field.readInteger default.defaultPageSize
  let windowDays := setting vars "default_window_days" Field.readInteger default.defaultWindowDays
  let logging := setting vars "enable_request_logging" Field.readBool
    default.enableRequestLogging
  let maxSize := setting vars "max_page_size" Field.readInteger default.maxPageSize
  let probability := setting vars "rate_limit_probability" Field.readNumber
    default.rateLimitProbability
  let limiting := setting vars "simulate_rate_limiting" Field.readBool
    default.simulateRateLimiting
  match pageSize, windowDays, logging, maxSize, probability, limiting with
  | .ok pageSize, .ok windowDays, .ok logging, .ok maxSize, .ok probability, .ok limiting =>
    .ok {
      defaultPageSize := pageSize
      maxPageSize := maxSize
      defaultWindowDays := windowDays
      mockDataPath := ((Keyed.get? "mock_data_path" vars).map
        fun s => SeedPath.file (Field.normalPath s)).getD default.mockDataPath
      apiVersion := text "api_version" default.apiVersion
      logLevel := text "log_level" default.logLevel
      environment := text "environment" default.environment
      enableRequestLogging := logging
      simulateRateLimiting := limiting
      rateLimitProbability := probability }
  | pageSize, windowDays, logging, maxSize, probability, limiting =>
    .error (faultOf "default_page_size" pageSize ++ faultOf "default_window_days" windowDays ++
      faultOf "enable_request_logging" logging ++ faultOf "max_page_size" maxSize ++
      faultOf "rate_limit_probability" probability ++
      faultOf "simulate_rate_limiting" limiting)

end Settings

end AdSearch
