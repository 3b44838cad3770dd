import Dialogue.Json.Basic
import Dialogue.Text.Quoted

set_option autoImplicit false

namespace Dialogue

structure ToolDefinition where
  name : String
  description : String
  parameters : Json

-- A tool and the number of the implementation behind it.
structure Tool where
  definition : ToolDefinition
  runner : Nat

def Tool.name (tool : Tool) : String := tool.definition.name

structure ToolRegistry where
  tools : List Tool := []

namespace ToolRegistry

def insert (tool : Tool) : List Tool → List Tool
  | [] => [tool]
  | other :: rest =>
    if tool.name < other.name then tool :: other :: rest
    else if tool.name = other.name then tool :: rest
    else other :: insert tool rest

def register (registry : ToolRegistry) (tool : Tool) : ToolRegistry := ⟨insert tool registry.tools⟩

def ofTools (tools : List Tool) : ToolRegistry := tools.foldl register {}

def lookup (registry : ToolRegistry) (name : String) : Option Tool :=
  registry.tools.find? fun tool => tool.name = name

def definitions (registry : ToolRegistry) : List ToolDefinition := registry.tools.map (·.definition)

def names (registry : ToolRegistry) : List String := registry.tools.map Tool.name

def size (registry : ToolRegistry) : Nat := registry.tools.length

def isEmpty (registry : ToolRegistry) : Bool := registry.tools.isEmpty

def summaryLine (registry : ToolRegistry) : String :=
  "ToolRegistry \x7b tools: " ++ Text.quotedList registry.names ++ " \x7d"

end ToolRegistry

end Dialogue
