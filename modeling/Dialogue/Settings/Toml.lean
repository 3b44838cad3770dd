import Dialogue.Settings.Codec
import Dialogue.Toml.Reader

set_option autoImplicit false

namespace Dialogue

namespace Toml

structure Entry (δ : Type) where
  name : String
  take : δ → Node → Option δ

def entry {δ α : Type} (name : String) (value : Node → Option α) (set : δ → α → δ) : Entry δ :=
  ⟨name, fun draft node => (value node).map (set draft)⟩

def asString : Node → Option String
  | .string text => some text
  | _ => none

def asBool : Node → Option Bool
  | .boolean value => some value
  | _ => none

def asNat (bound : Nat) : Node → Option Nat
  | .integer n => if 0 ≤ n ∧ n < bound then some n.toNat else none
  | _ => none

def asWord : Node → Option Nat := asNat (Nat.pow 2 64)

def asHalfWord : Node → Option Nat := asNat (Nat.pow 2 32)

def isHollow : Node → Bool
  | .array items => items.isEmpty
  | .table _ members => members.isEmpty
  | .tables items => items.isEmpty
  | _ => false

def asVariant {α : Type} (variants : List (String × α)) : Node → Option α
  | .string name => variants.lookup name
  | .table _ [(name, content)] => if isHollow content then variants.lookup name else none
  | _ => none

section

variable {δ : Type} (entries : List (Entry δ))

def takeMembers : δ → Members → Option δ
  | draft, [] => some draft
  | draft, (key, node) :: rest =>
    match entries.find? fun entry => entry.name = key with
    | some entry => do takeMembers (← entry.take draft node) rest
    | none => takeMembers draft rest

def takeItems : List (Entry δ) → δ → List Node → Option δ
  | entry :: entries, draft, node :: rest => do takeItems entries (← entry.take draft node) rest
  | _, draft, _ => some draft

-- A section. A date or time counts as a table without known members.
def asSection (draft : δ) : Node → Option δ
  | .table _ members => takeMembers entries draft members
  | .moment => some draft
  | .array items => takeItems entries draft items
  | .tables items => takeItems entries draft (items.map (Node.table .header))
  | _ => none

end

def quotedText (text : String) : String :=
  String.ofList ('"' :: text.toList.flatMap escaped ++ ['"'])
where
  escaped (c : Char) : List Char :=
    if c = '"' then ['\\', '"']
    else if c = '\\' then ['\\', '\\']
    else if c = '\x08' then ['\\', 'b']
    else if c = '\t' then ['\\', 't']
    else if c = '\n' then ['\\', 'n']
    else if c = '\x0c' then ['\\', 'f']
    else if c = '\r' then ['\\', 'r']
    else if c.toNat < 0x20 ∨ c.toNat = 0x7F then
      ['\\', 'u', '0', '0', Nat.digitChar (c.toNat / 16), Nat.digitChar (c.toNat % 16)]
    else [c]

def line (name value : String) : String := name ++ " = " ++ value ++ "\n"

end Toml

namespace Settings

open Toml

def agentEntries : List (Entry AgentSettings) :=
  [entry "system_prompt" asString fun s x => { s with systemPrompt := x },
   entry "max_iterations" asWord fun s x => { s with maxIterations := x },
   entry "tool_output_cap" asWord fun s x => { s with toolOutputCap := x },
   entry "max_tokens" asHalfWord fun s x => { s with maxTokens := some x },
   entry "autonomy" (asVariant AutonomyLevel.variants) fun s x => { s with autonomy := x }]

def contextEntries : List (Entry ContextSettings) :=
  [entry "max_context_tokens" asWord fun s x => { s with maxContextTokens := x },
   entry "recent_message_count" asWord fun s x => { s with recentMessageCount := x },
   entry "summary_max_tokens" asHalfWord fun s x => { s with summaryMaxTokens := x }]

def dispatcherEntries : List (Entry DispatcherSettings) :=
  [entry "queue_capacity" asWord fun s x => { s with queueCapacity := x },
   entry "idle_poll_interval_ms" asWord fun s x => { s with idlePollIntervalMs := x }]

def resetEntries : List (Entry ResetSettings) :=
  [entry "command" asString fun s x => { s with command := x },
   entry "archive_summary" asBool fun s x => { s with archiveSummary := x },
   entry "summary_timeout_secs" asWord fun s x => { s with summaryTimeoutSecs := x }]

def sections : List (Entry Settings) :=
  [entry "agent" (asSection agentEntries {}) fun s x => { s with agent := x },
   entry "context" (asSection contextEntries {}) fun s x => { s with context := x },
   entry "dispatcher" (asSection dispatcherEntries {}) fun s x => { s with dispatcher := x },
   entry "reset" (asSection resetEntries {}) fun s x => { s with reset := x }]

def ofToml (text : String) : Except SettingsError Settings :=
  match parse? text with
  | none => .error .malformed
  | some members =>
    match takeMembers sections {} members with
    | none => .error .malformed
    | some settings => .ok settings

def toToml (settings : Settings) : String :=
  "[agent]\n" ++ line "system_prompt" (quotedText settings.agent.systemPrompt) ++
    line "max_iterations" (toString settings.agent.maxIterations) ++
    line "tool_output_cap" (toString settings.agent.toolOutputCap) ++
    (match settings.agent.maxTokens with
      | some maxTokens => line "max_tokens" (toString maxTokens)
      | none => "") ++
    line "autonomy" (quotedText settings.agent.autonomy.name) ++
    "\n[context]\n" ++ line "max_context_tokens" (toString settings.context.maxContextTokens) ++
    line "recent_message_count" (toString settings.context.recentMessageCount) ++
    line "summary_max_tokens" (toString settings.context.summaryMaxTokens) ++
    "\n[dispatcher]\n" ++ line "queue_capacity" (toString settings.dispatcher.queueCapacity) ++
    line "idle_poll_interval_ms" (toString settings.dispatcher.idlePollIntervalMs) ++
    "\n[reset]\n" ++ line "command" (quotedText settings.reset.command) ++
    line "archive_summary" (toString settings.reset.archiveSummary) ++
    line "summary_timeout_secs" (toString settings.reset.summaryTimeoutSecs)

def defaultToml : String := toToml {}

end Settings

end Dialogue
