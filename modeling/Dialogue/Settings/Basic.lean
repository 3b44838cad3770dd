import Dialogue.Text.Blank
import Dialogue.Tool.Approval

set_option autoImplicit false

namespace Dialogue

structure AgentSettings where
  systemPrompt : String :=
    "You are a helpful assistant. Use the available tools when they help answer the user."
  -- Zero stands for the default of the loop.
  maxIterations : Nat := 10
  toolOutputCap : Nat := 16384
  maxTokens : Option Nat := none
  autonomy : AutonomyLevel := .supervised
deriving DecidableEq

structure ContextSettings where
  maxContextTokens : Nat := 100000
  recentMessageCount : Nat := 20
  summaryMaxTokens : Nat := 1024
deriving DecidableEq

structure DispatcherSettings where
  queueCapacity : Nat := 16
  idlePollIntervalMs : Nat := 25
deriving DecidableEq

structure ResetSettings where
  command : String := "/reset"
  archiveSummary : Bool := true
  summaryTimeoutSecs : Nat := 60
deriving DecidableEq

structure Settings where
  agent : AgentSettings := {}
  context : ContextSettings := {}
  dispatcher : DispatcherSettings := {}
  reset : ResetSettings := {}
deriving DecidableEq

inductive SettingsError where
  | unreadable
  | malformed
  | environment (name reason : String)
  | invalid (reason : String)
deriving DecidableEq

def SettingsError.message : SettingsError → String
  | unreadable => "Failed to read config file"
  | malformed => "Failed to parse config file"
  | environment name reason => "Invalid value in " ++ name ++ ": " ++ reason
  | invalid reason => "Configuration validation failed: " ++ reason

def SettingsError.kind : SettingsError → String
  | unreadable => "ReadError"
  | malformed => "ParseError"
  | environment .. => "EnvError"
  | invalid .. => "ValidationError"

namespace Settings

def fault? (settings : Settings) : Option String :=
  if settings.dispatcher.idlePollIntervalMs = 0 then
    some "dispatcher.idle_poll_interval_ms must be > 0"
  else if settings.reset.summaryTimeoutSecs = 0 then
    some "reset.summary_timeout_secs must be > 0"
  else if settings.context.summaryMaxTokens = 0 then
    some "context.summary_max_tokens must be > 0"
  else if Text.isBlank settings.reset.command then some "reset.command must not be blank"
  else none

def warnings (settings : Settings) : List String :=
  (if 0 < settings.context.maxContextTokens ∧ settings.context.recentMessageCount = 0 then
    ["context.recent_message_count = 0 keeps every message, so compaction can never shrink the history"]
   else []) ++
  (if settings.dispatcher.queueCapacity = 0 then
    ["dispatcher.queue_capacity = 0 is treated as 1"] else []) ++
  (if settings.agent.maxIterations = 0 then ["agent.max_iterations = 0 falls back to 10"] else [])

def validate (settings : Settings) : Except SettingsError Settings :=
  match settings.fault? with
  | some reason => .error (.invalid reason)
  | none => .ok settings

end Settings

end Dialogue
