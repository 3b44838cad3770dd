import Dialogue.Session.Conversation
import Dialogue.Settings.Basic

set_option autoImplicit false

namespace Dialogue

namespace Settings

variable (settings : Settings)

def agentLoop (provider : Provider) (tools : ToolRegistry) : ConversationLoop :=
  { provider := some provider
    tools := some tools
    approver := some (.autonomy settings.agent.autonomy none)
    maxIterations := settings.agent.maxIterations
    toolOutputCap := settings.agent.toolOutputCap
    maxTokens := settings.agent.maxTokens }

def compactor (provider : Provider) : Compactor :=
  { provider
    maxContextTokens := settings.context.maxContextTokens
    recentMessageCount := settings.context.recentMessageCount
    summaryMaxTokens := settings.context.summaryMaxTokens }

def conversation (provider : Provider) (tools : ToolRegistry) (sessionId : String) :
    ConversationSettings :=
  { sessionId
    systemPrompt := settings.agent.systemPrompt
    agent := settings.agentLoop provider tools
    compactor := settings.compactor provider
    resetCommand := settings.reset.command
    archiveOnReset := settings.reset.archiveSummary
    summaryTimeout := settings.reset.summaryTimeoutSecs * 1000 }

end Settings

end Dialogue
