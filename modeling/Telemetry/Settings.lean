import Telemetry.Instant

/-!
# Settings

How to reach the datastore and where the journal goes, and the text of a first settings file, which
spells out the standard settings.
-/

namespace Telemetry

structure StoreSettings where
  url : String
  database : String
  precision : Precision
  timeoutMs : Nat
deriving DecidableEq, Repr

def StoreSettings.standard : StoreSettings where
  url := "http://localhost:8086"
  database := "seriesql"
  precision := .seconds
  timeoutMs := 30000

structure JournalSettings where
  level : String
  format : String
  file : Option String
deriving DecidableEq, Repr

def JournalSettings.standard : JournalSettings where
  level := "info"
  format := "pretty"
  file := none

structure Settings where
  store : StoreSettings
  journal : JournalSettings
deriving DecidableEq, Repr

def Settings.standard : Settings := ⟨.standard, .standard⟩

namespace Settings

def template : String := String.join <| List.map (· ++ "\n") [
  "# seriesql Configuration",
  "#",
  "# Environment variables override these settings:",
  "# - SERIESQL_URL",
  "# - SERIESQL_DATABASE",
  "# - SERIESQL_TIME_PRECISION",
  "# - SERIESQL_TIMEOUT_MS",
  "# - SERIESQL_LOG_LEVEL",
  "# - SERIESQL_LOG_FORMAT",
  "",
  "[client]",
  "# Datastore HTTP API base URL",
  "url = \"http://localhost:8086\"",
  "",
  "# Database name",
  "database = \"seriesql\"",
  "",
  "# Timestamp precision for writes: s, ms or u",
  "time_precision = \"s\"",
  "",
  "# Request timeout in milliseconds",
  "request_timeout_ms = 30000",
  "",
  "[logging]",
  "# Log level: trace, debug, info, warn, error",
  "level = \"info\"",
  "",
  "# Log format: pretty (for development) or json (for production)",
  "format = \"pretty\"",
  "",
  "# Optional log file path",
  "# file = \"/var/log/seriesql/seriesql.log\""]

end Settings

end Telemetry
