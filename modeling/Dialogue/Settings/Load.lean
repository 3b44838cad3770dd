import Dialogue.Settings.Toml

set_option autoImplicit false

namespace Dialogue

inductive SettingsFile where
  | missing
  | unreadable
  | text (content : String)

def SettingsFile.ofBytes (bytes : List UInt8) : SettingsFile :=
  match String.fromUTF8? ⟨bytes.toArray⟩ with
  | some content => .text content
  | none => .unreadable

namespace Settings

def ofFile : SettingsFile → Except SettingsError Settings
  | .missing => .ok {}
  | .unreadable => .error .unreadable
  | .text content => ofToml content

inductive NumberFault where
  | empty
  | invalidDigit
  | tooLarge
deriving DecidableEq

def NumberFault.message : NumberFault → String
  | empty => "cannot parse integer from empty string"
  | invalidDigit => "invalid digit found in string"
  | tooLarge => "number too large to fit in target type"

def readDigits : Nat → List Char → Except NumberFault Nat
  | value, [] => .ok value
  | value, c :: rest =>
    if '0' ≤ c ∧ c ≤ '9' then
      let next := value * 10 + (c.toNat - 48)
      if next < Nat.pow 2 64 then readDigits next rest else .error .tooLarge
    else .error .invalidDigit

def readNumber (chars : List Char) : Except NumberFault Nat :=
  match chars with
  | [] => .error .empty
  | ['+'] => .error .invalidDigit
  | '+' :: digits => readDigits 0 digits
  | digits => readDigits 0 digits

def promptVariable : String := "PALAVER_SYSTEM_PROMPT"
def iterationsVariable : String := "PALAVER_MAX_ITERATIONS"
def contextVariable : String := "PALAVER_MAX_CONTEXT_TOKENS"

def numberOf (name text : String) : Except SettingsError Nat :=
  match readNumber (Text.trim text).toList with
  | .ok n => .ok n
  | .error fault => .error (.environment name fault.message)

def overrideNumber (lookup : String → Option String) (name : String) (settings : Settings)
    (set : Settings → Nat → Settings) : Except SettingsError Settings :=
  match lookup name with
  | none => .ok settings
  | some text => (numberOf name text).map (set settings)

-- Environment variables win over the file.
def override (lookup : String → Option String) (settings : Settings) :
    Except SettingsError Settings := do
  let settings := match lookup promptVariable with
    | some prompt => { settings with agent := { settings.agent with systemPrompt := prompt } }
    | none => settings
  let settings ← overrideNumber lookup iterationsVariable settings fun s n =>
    { s with agent := { s.agent with maxIterations := n } }
  overrideNumber lookup contextVariable settings fun s n =>
    { s with context := { s.context with maxContextTokens := n } }

def loadFrom (file : SettingsFile) : Except SettingsError Settings := do
  (← ofFile file).validate

def load (file : SettingsFile) (lookup : String → Option String) :
    Except SettingsError Settings := do
  (← override lookup (← ofFile file)).validate

def directory (home : Option String) : String :=
  let home := home.getD "/tmp"
  let separator := if home.isEmpty || home.toList.getLast? = some '/' then "" else "/"
  home ++ separator ++ ".palaver"

end Settings

end Dialogue
