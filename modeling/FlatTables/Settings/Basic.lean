import FlatTables.Settings.Reader

/-!
# Settings

Where the tables are stored, where requests are served, and what is observed. Every setting has
a default. Reading settings from a document either gives usable settings or lists everything
that is wrong with them.
-/

namespace FlatTables
namespace Settings

/-- Where tables are stored. -/
structure StorageSettings where
  directory : Storage.Path := .ofString "db"
  schemaFile : String := "schema.txt"
  suffix : String := ".csv"
  synchronous : Bool := true
  deriving DecidableEq, Repr

/-- Where requests and metrics are served. -/
structure ServerSettings where
  host : String := "127.0.0.1"
  portNumber : Int := 8000
  metricsPortNumber : Int := 8001
  deriving DecidableEq, Repr

/-- What is logged, measured and traced. -/
structure ObservabilitySettings where
  logLevel : String := "WARNING"
  logFormat : String := "console"
  metricsEnabled : Bool := false
  endpoint : Option String := none
  serviceName : String := "query_engine"
  deriving DecidableEq, Repr

/-- The path of the schema file. -/
def StorageSettings.schemaPath (storage : StorageSettings) : Storage.Path :=
  storage.directory.join storage.schemaFile

/-- The names of log levels. -/
def logLevels : List String :=
  ["DEBUG", "INFO", "WARNING", "ERROR", "CRITICAL"]

/-- The names of log formats. -/
def logFormats : List String :=
  ["json", "console"]

/-- Read the number that the service listens on. -/
def readPortNumber : Reader Int :=
  readBounded 1 65535

/-- Read storage settings. -/
def StorageSettings.ofDocument (document : Document) : Checked StorageSettings :=
  let unset : StorageSettings := {}
  Checked.valid StorageSettings.mk
    |>.apply (readField document "data_dir" unset.directory readPath)
    |>.apply (readField document "schema_file" unset.schemaFile readText)
    |>.apply (readField document "table_suffix" unset.suffix readSuffix)
    |>.apply (readField document "sync_writes" unset.synchronous readFlag)

/-- Read server settings. -/
def ServerSettings.ofDocument (document : Document) : Checked ServerSettings :=
  let unset : ServerSettings := {}
  Checked.valid ServerSettings.mk
    |>.apply (readField document "host" unset.host readText)
    |>.apply (readField document "port" unset.portNumber readPortNumber)
    |>.apply (readField document "metrics_port" unset.metricsPortNumber readPortNumber)

/-- Read observability settings. -/
def ObservabilitySettings.ofDocument (document : Document) : Checked ObservabilitySettings :=
  let unset : ObservabilitySettings := {}
  Checked.valid ObservabilitySettings.mk
    |>.apply (readField document "log_level" unset.logLevel (readChoice logLevels))
    |>.apply (readField document "log_format" unset.logFormat (readChoice logFormats))
    |>.apply (readField document "metrics_enabled" unset.metricsEnabled readFlag)
    |>.apply (readField document "otel_endpoint" unset.endpoint readOptionalText)
    |>.apply (readField document "otel_service_name" unset.serviceName readText)

end Settings

/-- All settings. -/
structure Settings where
  storage : Settings.StorageSettings := {}
  server : Settings.ServerSettings := {}
  observability : Settings.ObservabilitySettings := {}
  deriving DecidableEq, Repr

namespace Settings

/-- The sections of the settings, by the names of their fields. -/
def sectionNames : List String :=
  ["storage", "server", "observability"]

/-- Read a section, or take its default if it is not given. -/
def readSection (document : Document) (name title : String) (fallback : α)
    (read : Document → Checked α) : Checked α :=
  match document.field? name with
  | none => .valid fallback
  | some (.object fields) => (read (.object fields)).within name
  | some _ => .invalid [⟨[name], .notSection title⟩]

/-- The fields of a document that are no sections. -/
def strayFields : Document → List String
  | .object fields => (fields.map Prod.fst).filter (· ∉ sectionNames)
  | _ => []

/-- Check that a document has no fields but sections. -/
def checkFields (document : Document) : Checked Unit :=
  match strayFields document with
  | [] => .valid ()
  | names => .invalid (names.map fun name => ⟨[name], .unknownField⟩)

/-- Read all settings. -/
def ofDocument (document : Document) : Checked Settings :=
  Checked.valid (fun storage server observability _ => Settings.mk storage server observability)
    |>.apply (readSection document "storage" "StorageConfig" {} StorageSettings.ofDocument)
    |>.apply (readSection document "server" "ServerConfig" {} ServerSettings.ofDocument)
    |>.apply (readSection document "observability" "ObservabilityConfig" {}
      ObservabilitySettings.ofDocument)
    |>.apply (checkFields document)

end Settings
end FlatTables
