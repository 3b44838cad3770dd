import Dialogue.Decimal.Shortest
import Dialogue.Json.Basic

/-!
Compact JSON text. A quote, a backslash and the control characters below U+0020 are escaped and
everything else is written as it is. A double has the fewest digits that read back, with a point
from `1e-5` up to `1e16` and an exponent with its sign elsewhere.
-/

set_option autoImplicit false

namespace Dialogue.Json

def hexDigit (n : Nat) : Char := Nat.digitChar (n % 16)

def escapeChar (c : Char) : List Char :=
  if c = '"' then ['\\', '"']
  else if c = '\\' then ['\\', '\\']
  else if c = '\x08' then ['\\', 'b']
  else if c = '\t' then ['\\', 't']
  else if c = '\n' then ['\\', 'n']
  else if c = '\x0c' then ['\\', 'f']
  else if c = '\r' then ['\\', 'r']
  else if c.toNat < 0x20 then ['\\', 'u', '0', '0', hexDigit (c.toNat / 16), hexDigit c.toNat]
  else [c]

def quote (chars : List Char) : List Char := '"' :: chars.flatMap escapeChar ++ ['"']

def zeros (n : Nat) : List Char := List.replicate n '0'

structure PointRange where
  low : Int
  high : Int

def pointRange : PointRange := ⟨-5, 16⟩

def decimalText (d : Decimal) : List Char :=
  let digits := Nat.toDigits 10 d.digits
  let point : Int := digits.length + d.exponent
  if point - 1 < pointRange.low ∨ pointRange.high ≤ point - 1 then
    let fraction := if digits.length = 1 then [] else '.' :: digits.drop 1
    let power := point - 1
    digits.take 1 ++ fraction ++ ['e', if power < 0 then '-' else '+'] ++
      Nat.toDigits 10 power.natAbs
  else if 0 ≤ d.exponent then digits ++ zeros d.exponent.toNat ++ ['.', '0']
  else if 0 < point then digits.take point.toNat ++ '.' :: digits.drop point.toNat
  else ['0', '.'] ++ zeros (-point).toNat ++ digits

-- JSON has no text for infinities and NaN, which are written as null.
def floatText (x : Float) : List Char :=
  if x.isNaN || x.isInf then ['n', 'u', 'l', 'l']
  else
    let sign := if x.toBits.toNat / Nat.pow 2 63 = 1 then ['-'] else []
    if x == 0.0 then sign ++ ['0', '.', '0']
    else sign ++ decimalText (Decimal.shortest x.toBits)

def intText (value : Int) : List Char :=
  (if value < 0 then ['-'] else []) ++ Nat.toDigits 10 value.natAbs

def numberText : Number → List Char
  | .int value => intText value
  | .float value => floatText value

mutual

def render : Json → List Char
  | .null => ['n', 'u', 'l', 'l']
  | .bool true => ['t', 'r', 'u', 'e']
  | .bool false => ['f', 'a', 'l', 's', 'e']
  | .number value => numberText value
  | .string text => quote text.toList
  | .array [] => ['[', ']']
  | .array (item :: rest) => '[' :: render item ++ renderItems rest
  | .object [] => ['{', '}']
  | .object (entry :: rest) => '{' :: renderMember entry ++ renderMembers rest

def renderItems : List Json → List Char
  | [] => [']']
  | item :: rest => ',' :: render item ++ renderItems rest

def renderMember : String × Json → List Char
  | (key, value) => quote key.toList ++ ':' :: render value

def renderMembers : List (String × Json) → List Char
  | [] => ['}']
  | entry :: rest => ',' :: renderMember entry ++ renderMembers rest

end

def text (value : Json) : String := String.ofList (render value)

end Dialogue.Json
