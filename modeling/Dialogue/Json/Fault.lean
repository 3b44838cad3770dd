set_option autoImplicit false

namespace Dialogue.Json

inductive Cause where
  | eofList
  | eofObject
  | eofString
  | eofValue
  | expectedColon
  | expectedListCommaOrEnd
  | expectedObjectCommaOrEnd
  | expectedIdent
  | expectedValue
  | invalidEscape
  | invalidNumber
  | numberOutOfRange
  | controlCharacter
  | keyNotString
  | loneSurrogate
  | hexEscapeEnd
  | trailingComma
  | trailingCharacters
  | recursionLimit
deriving DecidableEq

def Cause.message : Cause → String
  | eofList => "EOF while parsing a list"
  | eofObject => "EOF while parsing an object"
  | eofString => "EOF while parsing a string"
  | eofValue => "EOF while parsing a value"
  | expectedColon => "expected `:`"
  | expectedListCommaOrEnd => "expected `,` or `]`"
  | expectedObjectCommaOrEnd => "expected `,` or `\x7d`"
  | expectedIdent => "expected ident"
  | expectedValue => "expected value"
  | invalidEscape => "invalid escape"
  | invalidNumber => "invalid number"
  | numberOutOfRange => "number out of range"
  | controlCharacter => "control character (\\u0000-\\u001F) found while parsing a string"
  | keyNotString => "key must be a string"
  | loneSurrogate => "lone leading surrogate in hex escape"
  | hexEscapeEnd => "unexpected end of hex escape"
  | trailingComma => "trailing comma"
  | trailingCharacters => "trailing characters"
  | recursionLimit => "recursion limit exceeded"

def Cause.isEof : Cause → Bool
  | eofList | eofObject | eofString | eofValue => true
  | _ => false

inductive Problem where
  | malformed (cause : Cause)
  | mismatch (message : String)
  | badTimestamp

-- `ahead` counts the bytes of `rest` that the place of the fault includes.
structure Fault where
  problem : Problem
  rest : List Char
  ahead : Nat

namespace Fault

def behind {α : Type} (cause : Cause) (rest : List Char) : Except Fault α :=
  .error ⟨.malformed cause, rest, 0⟩

def atNext {α : Type} (cause : Cause) (rest : List Char) : Except Fault α :=
  .error ⟨.malformed cause, rest, 1⟩

def mismatch {α : Type} (message : String) (rest : List Char) : Except Fault α :=
  .error ⟨.mismatch message, rest, 0⟩

end Fault

structure Place where
  line : Nat
  column : Nat
deriving DecidableEq

def Place.start : Place := ⟨1, 0⟩

def Place.after (place : Place) (c : Char) : Place :=
  if c = '\n' then ⟨place.line + 1, 0⟩ else ⟨place.line, place.column + c.utf8Size⟩

-- Goes `bytes` further, at most to the end of the text, and may end inside a character.
def Place.advance : Nat → List Char → Place → Place
  | _, [], place => place
  | bytes, c :: rest, place =>
    if bytes = 0 then place
    else if c.utf8Size ≤ bytes then advance (bytes - c.utf8Size) rest (place.after c)
    else ⟨place.line, place.column + bytes⟩

def Fault.place (whole : List Char) (fault : Fault) : Place :=
  let read := whole.take (whole.length - fault.rest.length)
  Place.advance fault.ahead fault.rest (read.foldl Place.after .start)

structure SyntaxError where
  cause : Cause
  place : Place
deriving DecidableEq

def SyntaxError.message (e : SyntaxError) : String :=
  s!"{e.cause.message} at line {e.place.line} column {e.place.column}"

end Dialogue.Json
