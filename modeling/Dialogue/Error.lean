import Dialogue.Json.Fault

set_option autoImplicit false

namespace Dialogue

inductive ProviderError where
  | apiError (statusCode : Nat) (message : String)
  | rateLimited (retryAfterSecs : Nat)
  | authenticationFailed (reason : String)
  | modelNotFound (model : String)
  | timeout (reason : String)
  | network (reason : String)
  | cancelled
deriving DecidableEq

def ProviderError.message : ProviderError → String
  | apiError statusCode message =>
    "API request failed: " ++ message ++ " (status: " ++ toString statusCode ++ ")"
  | rateLimited secs => "Rate limited by provider, retry after " ++ toString secs ++ "s"
  | authenticationFailed reason => "Authentication failed: " ++ reason
  | modelNotFound model => "Model not found: " ++ model
  | timeout reason => "Request timed out: " ++ reason
  | network reason => "Network error: " ++ reason
  | cancelled => "Request cancelled"

def ProviderError.kind : ProviderError → String
  | apiError .. => "Provider.ApiError"
  | rateLimited .. => "Provider.RateLimited"
  | authenticationFailed .. => "Provider.AuthenticationFailed"
  | modelNotFound .. => "Provider.ModelNotFound"
  | timeout .. => "Provider.Timeout"
  | network .. => "Provider.Network"
  | cancelled => "Provider.Cancelled"

inductive ChannelError where
  | deliveryFailed (channel reason : String)
  | connectionLost (reason : String)
deriving DecidableEq

def ChannelError.message : ChannelError → String
  | deliveryFailed channel reason => "Message delivery failed to " ++ channel ++ ": " ++ reason
  | connectionLost reason => "Channel connection lost: " ++ reason

inductive ToolError where
  | notFound (name : String)
  | executionFailed (toolName reason : String)
  | permissionDenied (toolName reason : String)
  | invalidArguments (reason : String)
  | cancelled
deriving DecidableEq

def ToolError.message : ToolError → String
  | notFound name => "unknown tool: " ++ name
  | executionFailed toolName reason => "Tool execution failed: " ++ toolName ++ ": " ++ reason
  | permissionDenied toolName reason => "Permission denied: " ++ toolName ++ ": " ++ reason
  | invalidArguments reason => "Invalid tool arguments: " ++ reason
  | cancelled => "Tool execution cancelled"

def ToolError.kind : ToolError → String
  | notFound .. => "Tool.NotFound"
  | executionFailed .. => "Tool.ExecutionFailed"
  | permissionDenied .. => "Tool.PermissionDenied"
  | invalidArguments .. => "Tool.InvalidArguments"
  | cancelled => "Tool.Cancelled"

inductive SessionError where
  | loadFailed (sessionId reason : String)
  | saveFailed (sessionId reason : String)
deriving DecidableEq

def SessionError.message : SessionError → String
  | loadFailed sessionId reason => "Failed to load session " ++ sessionId ++ ": " ++ reason
  | saveFailed sessionId reason => "Failed to save session " ++ sessionId ++ ": " ++ reason

inductive MemoryError where
  | storage (reason : String)
deriving DecidableEq

def MemoryError.message : MemoryError → String
  | storage reason => "Storage error: " ++ reason

inductive Error where
  | provider (cause : ProviderError)
  | channel (cause : ChannelError)
  | tool (cause : ToolError)
  | session (cause : SessionError)
  | memory (cause : MemoryError)
  | config (reason : String)
  | iterationLimit (iterations : Nat)
  | cancelled
  | serialization (cause : Json.SyntaxError)
  | internal (reason : String)
deriving DecidableEq

namespace Error

def source : Error → Option String
  | provider cause => some cause.message
  | channel cause => some cause.message
  | tool cause => some cause.message
  | session cause => some cause.message
  | memory cause => some cause.message
  | serialization cause => some cause.message
  | config _ | iterationLimit _ | cancelled | internal _ => none

def message : Error → String
  | provider cause => "Provider error: " ++ cause.message
  | channel cause => "Channel error: " ++ cause.message
  | tool cause => "Tool error: " ++ cause.message
  | session cause => "Session error: " ++ cause.message
  | memory cause => "Memory error: " ++ cause.message
  | config reason => "Configuration error: " ++ reason
  | iterationLimit iterations =>
    "max iterations exceeded after " ++ toString iterations ++ " iterations"
  | cancelled => "operation cancelled"
  | serialization cause => "Serialization error: " ++ cause.message
  | internal reason => "Internal error: " ++ reason

def kind : Error → String
  | provider cause => cause.kind
  | tool cause => cause.kind
  | channel (.deliveryFailed ..) => "Channel.DeliveryFailed"
  | channel (.connectionLost ..) => "Channel.ConnectionLost"
  | session (.loadFailed ..) => "Session.LoadFailed"
  | session (.saveFailed ..) => "Session.SaveFailed"
  | memory (.storage ..) => "Memory.Storage"
  | config .. => "Config"
  | iterationLimit .. => "IterationLimit"
  | cancelled => "Cancelled"
  | serialization .. => "Serialization"
  | internal .. => "Internal"

def isCancelled : Error → Bool
  | cancelled | provider .cancelled | tool .cancelled => true
  | _ => false

end Error

end Dialogue
