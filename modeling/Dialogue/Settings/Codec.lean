import Dialogue.Session.Codec
import Dialogue.Settings.Basic

set_option autoImplicit false

namespace Dialogue

open Json (Decoder)

namespace AgentSettings

def toJson (settings : AgentSettings) : Json :=
  .object ([("system_prompt", .string settings.systemPrompt),
    ("max_iterations", .nat settings.maxIterations),
    ("tool_output_cap", .nat settings.toolOutputCap)] ++
    Json.optional "max_tokens" .nat settings.maxTokens ++
    [("autonomy", settings.autonomy.toJson)])

structure Draft where
  systemPrompt : Option String := none
  maxIterations : Option Nat := none
  toolOutputCap : Option Nat := none
  maxTokens : Option (Option Nat) := none
  autonomy : Option AutonomyLevel := none

def ofDraft (d : Draft) : AgentSettings :=
  let default : AgentSettings := {}
  { systemPrompt := d.systemPrompt.getD default.systemPrompt
    maxIterations := d.maxIterations.getD default.maxIterations
    toolOutputCap := d.toolOutputCap.getD default.toolOutputCap
    maxTokens := d.maxTokens.getD default.maxTokens
    autonomy := d.autonomy.getD default.autonomy }

def record : Json.Record Draft AgentSettings where
  name := "AgentSettings"
  draft := {}
  fields :=
    [Json.field "system_prompt" false Decoder.string (·.systemPrompt)
       fun d x => { d with systemPrompt := some x },
     Json.field "max_iterations" false Decoder.usize (·.maxIterations)
       fun d x => { d with maxIterations := some x },
     Json.field "tool_output_cap" false Decoder.usize (·.toolOutputCap)
       fun d x => { d with toolOutputCap := some x },
     Json.field "max_tokens" false (Decoder.option Decoder.u32) (·.maxTokens)
       fun d x => { d with maxTokens := some x },
     Json.field "autonomy" false (Decoder.variant AutonomyLevel.variants) (·.autonomy)
       fun d x => { d with autonomy := some x }]
  build d := some (ofDraft d)

end AgentSettings

namespace ContextSettings

def toJson (settings : ContextSettings) : Json :=
  .object [("max_context_tokens", .nat settings.maxContextTokens),
    ("recent_message_count", .nat settings.recentMessageCount),
    ("summary_max_tokens", .nat settings.summaryMaxTokens)]

structure Draft where
  maxContextTokens : Option Nat := none
  recentMessageCount : Option Nat := none
  summaryMaxTokens : Option Nat := none

def ofDraft (d : Draft) : ContextSettings :=
  let default : ContextSettings := {}
  { maxContextTokens := d.maxContextTokens.getD default.maxContextTokens
    recentMessageCount := d.recentMessageCount.getD default.recentMessageCount
    summaryMaxTokens := d.summaryMaxTokens.getD default.summaryMaxTokens }

def record : Json.Record Draft ContextSettings where
  name := "ContextSettings"
  draft := {}
  fields :=
    [Json.field "max_context_tokens" false Decoder.usize (·.maxContextTokens)
       fun d x => { d with maxContextTokens := some x },
     Json.field "recent_message_count" false Decoder.usize (·.recentMessageCount)
       fun d x => { d with recentMessageCount := some x },
     Json.field "summary_max_tokens" false Decoder.u32 (·.summaryMaxTokens)
       fun d x => { d with summaryMaxTokens := some x }]
  build d := some (ofDraft d)

end ContextSettings

namespace DispatcherSettings

def toJson (settings : DispatcherSettings) : Json :=
  .object [("queue_capacity", .nat settings.queueCapacity),
    ("idle_poll_interval_ms", .nat settings.idlePollIntervalMs)]

structure Draft where
  queueCapacity : Option Nat := none
  idlePollIntervalMs : Option Nat := none

def ofDraft (d : Draft) : DispatcherSettings :=
  let default : DispatcherSettings := {}
  { queueCapacity := d.queueCapacity.getD default.queueCapacity
    idlePollIntervalMs := d.idlePollIntervalMs.getD default.idlePollIntervalMs }

def record : Json.Record Draft DispatcherSettings where
  name := "DispatcherSettings"
  draft := {}
  fields :=
    [Json.field "queue_capacity" false Decoder.usize (·.queueCapacity)
       fun d x => { d with queueCapacity := some x },
     Json.field "idle_poll_interval_ms" false Decoder.u64 (·.idlePollIntervalMs)
       fun d x => { d with idlePollIntervalMs := some x }]
  build d := some (ofDraft d)

end DispatcherSettings

namespace ResetSettings

def toJson (settings : ResetSettings) : Json :=
  .object [("command", .string settings.command),
    ("archive_summary", .bool settings.archiveSummary),
    ("summary_timeout_secs", .nat settings.summaryTimeoutSecs)]

structure Draft where
  command : Option String := none
  archiveSummary : Option Bool := none
  summaryTimeoutSecs : Option Nat := none

def ofDraft (d : Draft) : ResetSettings :=
  let default : ResetSettings := {}
  { command := d.command.getD default.command
    archiveSummary := d.archiveSummary.getD default.archiveSummary
    summaryTimeoutSecs := d.summaryTimeoutSecs.getD default.summaryTimeoutSecs }

def record : Json.Record Draft ResetSettings where
  name := "ResetSettings"
  draft := {}
  fields :=
    [Json.field "command" false Decoder.string (·.command) fun d x => { d with command := some x },
     Json.field "archive_summary" false Decoder.bool (·.archiveSummary)
       fun d x => { d with archiveSummary := some x },
     Json.field "summary_timeout_secs" false Decoder.u64 (·.summaryTimeoutSecs)
       fun d x => { d with summaryTimeoutSecs := some x }]
  build d := some (ofDraft d)

end ResetSettings

namespace Settings

def toJson (settings : Settings) : Json :=
  .object [("agent", settings.agent.toJson), ("context", settings.context.toJson),
    ("dispatcher", settings.dispatcher.toJson), ("reset", settings.reset.toJson)]

structure Draft where
  agent : Option AgentSettings := none
  context : Option ContextSettings := none
  dispatcher : Option DispatcherSettings := none
  reset : Option ResetSettings := none

def ofDraft (d : Draft) : Settings :=
  { agent := d.agent.getD {}, context := d.context.getD {}
    dispatcher := d.dispatcher.getD {}, reset := d.reset.getD {} }

def record : Json.Record Draft Settings where
  name := "AppConfig"
  draft := {}
  fields :=
    [Json.field "agent" false AgentSettings.record.decoder (·.agent)
       fun d x => { d with agent := some x },
     Json.field "context" false ContextSettings.record.decoder (·.context)
       fun d x => { d with context := some x },
     Json.field "dispatcher" false DispatcherSettings.record.decoder (·.dispatcher)
       fun d x => { d with dispatcher := some x },
     Json.field "reset" false ResetSettings.record.decoder (·.reset)
       fun d x => { d with reset := some x }]
  build d := some (ofDraft d)

end Settings

end Dialogue
