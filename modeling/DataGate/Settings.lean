import DataGate.Environment
import DataGate.Log
import DataGate.Text.Blank
import DataGate.Text.UpperCase

namespace DataGate

/-- How evaluations are published. -/
structure Settings where
  displayUtc : Bool := false
  metricsEnabled : Bool := true
  auditEnabled : Bool := true
  logLevel : String := "INFO"
  deriving DecidableEq, Repr

/-- The code of settings that are not valid. -/
def SettingsError.invalidCode : String := "DEV-040"

structure SettingsError where
  message : String
  code : String := SettingsError.invalidCode
  deriving DecidableEq, Repr

def SettingsError.shown (error : SettingsError) : String :=
  "[" ++ error.code ++ "] " ++ error.message

namespace Settings

def validLevels : List String :=
  ["DEBUG", "INFO", "WARNING", "ERROR", "CRITICAL"]

def zone (settings : Settings) : Zone :=
  if settings.displayUtc then .utc else .localTime

def isValid (settings : Settings) : Bool :=
  validLevels.contains settings.logLevel

def invalid (settings : Settings) : SettingsError where
  message := "Data evaluation configuration validation failed: " ++
    "DATA_EVAL_LOG_LEVEL must be one of " ++ Text.quotedList validLevels ++
    ", got: " ++ settings.logLevel

def tag : String := "[DATA-EVAL-CONFIG] "

def entry (level : Log.Level) (message : String) : Log.Entry where
  channel := .settings
  level
  message

def loadedEntry (settings : Settings) : Log.Entry :=
  entry .info (tag ++ "Loading configuration from environment" ++
    " | DATA_EVAL_DISPLAY_UTC=" ++ Text.flag settings.displayUtc ++
    " | DATA_EVAL_METRICS_ENABLED=" ++ Text.flag settings.metricsEnabled ++
    " | DATA_EVAL_AUDIT_LOG_ENABLED=" ++ Text.flag settings.auditEnabled ++
    " | DATA_EVAL_LOG_LEVEL=" ++ settings.logLevel)

def validatedEntry (settings : Settings) : Log.Entry :=
  entry .info (tag ++ "Configuration validated" ++
    " | display_utc=" ++ Text.flag settings.displayUtc ++
    " | metrics_enabled=" ++ Text.flag settings.metricsEnabled ++
    " | audit_log_enabled=" ++ Text.flag settings.auditEnabled ++
    " | log_level=" ++ settings.logLevel)

def invalidEntry (settings : Settings) : Log.Entry :=
  entry .error settings.invalid.shown

def resetEntry : Log.Entry :=
  entry .debug (tag ++ "Configuration instance reset")

/-- A switch that the environment may set. -/
structure Switch where
  source : String
  fallback : Bool
  deriving DecidableEq, Repr

namespace Switch

def displayUtc : Switch where
  source := "DATA_EVAL_DISPLAY_UTC"
  fallback := ({} : Settings).displayUtc

def metricsEnabled : Switch where
  source := "DATA_EVAL_METRICS_ENABLED"
  fallback := ({} : Settings).metricsEnabled

def auditEnabled : Switch where
  source := "DATA_EVAL_AUDIT_LOG_ENABLED"
  fallback := ({} : Settings).auditEnabled

def onWords : List String := ["true", "1", "yes", "on"]

def offWords : List String := ["false", "0", "no", "off"]

/-- The setting that a text stands for, if it is one of the words. -/
def ofText? (text : String) : Option Bool :=
  let word := String.ofList (Text.lower (Text.trim text.toList))
  if onWords.contains word then some true
  else if offWords.contains word then some false
  else none

/-- The text of the variable, unless it is unset or blank. -/
def given? (switch : Switch) (environment : Environment) : Option String :=
  (environment.get? switch.source).filter (! Text.isAllBlank ·.toList)

def value (switch : Switch) (environment : Environment) : Bool :=
  ((switch.given? environment).bind ofText?).getD switch.fallback

def rejectedEntry (switch : Switch) (text : String) : Log.Entry :=
  entry .warning (tag ++ "Invalid " ++ switch.source ++ " value: " ++ text ++
    ", using default: " ++ Text.flag switch.fallback)

/-- A text that is none of the words is worth a warning. -/
def warnings (switch : Switch) (environment : Environment) : List Log.Entry :=
  match switch.given? environment with
  | none => []
  | some text => if (ofText? text).isSome then [] else [switch.rejectedEntry text]

end Switch

def levelVariable : String := "DATA_EVAL_LOG_LEVEL"

def normalizeLevel (text : String) : String :=
  String.ofList (Text.upper (Text.trim text.toList))

def levelOf (environment : Environment) : String :=
  normalizeLevel ((environment.get? levelVariable).getD ({} : Settings).logLevel)

def ofEnvironment (environment : Environment) : Settings where
  displayUtc := Switch.displayUtc.value environment
  metricsEnabled := Switch.metricsEnabled.value environment
  auditEnabled := Switch.auditEnabled.value environment
  logLevel := levelOf environment

def warnings (environment : Environment) : List Log.Entry :=
  Switch.displayUtc.warnings environment ++ Switch.metricsEnabled.warnings environment ++
    Switch.auditEnabled.warnings environment

end Settings

end DataGate
