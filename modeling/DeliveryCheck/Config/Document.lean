import DeliveryCheck.Config.Basic
import DeliveryCheck.Toml.Document
import DeliveryCheck.Toml.Section

namespace DeliveryCheck

open Toml (Value Section)

def DatabaseConfig.ofValue (value : Value) : Option DatabaseConfig := do
  let part ← value.section?
  let usual : DatabaseConfig := {}
  return {
    url := ← part.get 0 "url" Value.text? usual.url
    table := ← part.get 1 "table" Value.text? usual.table
    maxConnections := ← part.get 2 "max_connections" Value.word32? usual.maxConnections
    acquireTimeoutSecs :=
      ← part.get 3 "acquire_timeout_secs" Value.word64? usual.acquireTimeoutSecs }

def PollingConfig.ofValue (value : Value) : Option PollingConfig := do
  let part ← value.section?
  let usual : PollingConfig := {}
  return {
    timeoutSecs := ← part.get 0 "timeout_secs" Value.word64? usual.timeoutSecs
    intervalMillis := ← part.get 1 "interval_ms" Value.word64? usual.intervalMillis
    scheduledDelaySecs :=
      ← part.get 2 "scheduled_delay_secs" Value.word64? usual.scheduledDelaySecs
    scheduledBufferSecs :=
      ← part.get 3 "scheduled_buffer_secs" Value.word64? usual.scheduledBufferSecs
    scheduledTimeoutSecs :=
      ← part.get 4 "scheduled_timeout_secs" Value.word64? usual.scheduledTimeoutSecs }

def RunConfig.ofValue (value : Value) : Option RunConfig := do
  let part ← value.section?
  let usual : RunConfig := {}
  return {
    concurrent := ← part.get 0 "concurrent" Value.bool? usual.concurrent
    graceSecs := ← part.get 1 "run_timeout_grace_secs" Value.word64? usual.graceSecs }

/-- The log file has no default, so a list has to name it. -/
def LoggingConfig.ofValue (value : Value) : Option LoggingConfig := do
  match ← value.section? with
  | .listed [] => none
  | part => return { file := ← part.get 0 "file" (fun value => value.text?.map some) none }

namespace Config

/-- The settings that a document makes, whether they make sense or not. -/
def ofEntries (entries : Toml.Entries) : Option Config := do
  let part := Section.named entries
  return {
    database := ← part.get 0 "database" DatabaseConfig.ofValue {}
    polling := ← part.get 1 "polling" PollingConfig.ofValue {}
    run := ← part.get 2 "run" RunConfig.ofValue {}
    logging := ← part.get 3 "logging" LoggingConfig.ofValue {} }

def malformed : Error := .configMalformed "not a TOML document with the settings of a run"

def ofToml (text : String) : Except Error Config :=
  match (Toml.read text).bind ofEntries with
  | none => .error malformed
  | some config => do
    config.check
    return config

end Config

end DeliveryCheck
