import Dialogue.Json.Basic
import Dialogue.Json.Fault
import Dialogue.Text.Bytes

/-!
The parts of a JSON text below values: blanks, strings, numbers and the three words. A number
without point and exponent stays an integer while it fits 64 bits. Any other is a double computed
from a significand of at most 64 bits and a power of ten, by one multiplication or division.
-/

set_option autoImplicit false

namespace Dialogue.Json

def isSpace (c : Char) : Bool := c = ' ' || c = '\t' || c = '\n' || c = '\r'

def skipSpace (chars : List Char) : List Char := chars.dropWhile isSpace

def ident : List Char → List Char → Except Fault (List Char)
  | [], rest => .ok rest
  | _ :: _, [] => Fault.behind .eofValue []
  | letter :: letters, c :: rest =>
    if c = letter then ident letters rest else Fault.atNext .expectedIdent (c :: rest)

def hexValue? (c : Char) : Option Nat :=
  if '0' ≤ c ∧ c ≤ '9' then some (c.toNat - 48)
  else if 'a' ≤ c ∧ c ≤ 'f' then some (c.toNat - 87)
  else if 'A' ≤ c ∧ c ≤ 'F' then some (c.toNat - 55)
  else none

-- Four bytes are read in any case; they have to be hexadecimal digits.
def hexEscape (chars : List Char) : Except Fault (Nat × List Char) :=
  match chars with
  | a :: b :: c :: d :: rest =>
    match hexValue? a, hexValue? b, hexValue? c, hexValue? d with
    | some w, some x, some y, some z => .ok (((w * 16 + x) * 16 + y) * 16 + z, rest)
    | _, _, _, _ => .error ⟨.malformed .invalidEscape, chars, 4⟩
  | _ =>
    if 4 ≤ Text.byteLength chars then .error ⟨.malformed .invalidEscape, chars, 4⟩
    else Fault.behind .eofString []

def lowSurrogate (high : Nat) : List Char → Except Fault (Char × List Char)
  | [] => Fault.behind .eofString []
  | '\\' :: [] => Fault.behind .eofString []
  | '\\' :: 'u' :: rest => do
    let (low, rest) ← hexEscape rest
    if 0xDC00 ≤ low ∧ low ≤ 0xDFFF then
      .ok (Char.ofNat (0x10000 + (high - 0xD800) * 0x400 + (low - 0xDC00)), rest)
    else Fault.behind .loneSurrogate rest
  | '\\' :: rest => Fault.atNext .hexEscapeEnd rest
  | rest => Fault.atNext .hexEscapeEnd rest

def escape : List Char → Except Fault (Char × List Char)
  | [] => Fault.behind .eofString []
  | 'u' :: rest => do
    let (n, rest) ← hexEscape rest
    if 0xDC00 ≤ n ∧ n ≤ 0xDFFF then Fault.behind .loneSurrogate rest
    else if 0xD800 ≤ n ∧ n ≤ 0xDBFF then lowSurrogate n rest
    else .ok (Char.ofNat n, rest)
  | c :: rest =>
    if c = '"' ∨ c = '\\' ∨ c = '/' then .ok (c, rest)
    else if c = 'b' then .ok ('\x08', rest)
    else if c = 'f' then .ok ('\x0c', rest)
    else if c = 'n' then .ok ('\n', rest)
    else if c = 'r' then .ok ('\r', rest)
    else if c = 't' then .ok ('\t', rest)
    else Fault.atNext .invalidEscape (c :: rest)

def stringTail : Nat → List Char → Except Fault (List Char × List Char)
  | 0, rest => Fault.behind .eofString rest
  | _ + 1, [] => Fault.behind .eofString []
  | fuel + 1, c :: rest =>
    if c = '"' then .ok ([], rest)
    else if c = '\\' then do
      let (char, rest) ← escape rest
      let (chars, rest) ← stringTail fuel rest
      .ok (char :: chars, rest)
    else if c.toNat < 0x20 then Fault.atNext .controlCharacter (c :: rest)
    else do
      let (chars, rest) ← stringTail fuel rest
      .ok (c :: chars, rest)

def readString (rest : List Char) : Except Fault (String × List Char) := do
  let (chars, rest) ← stringTail (rest.length + 1) rest
  .ok (String.ofList chars, rest)

def isDigit (c : Char) : Bool := '0' ≤ c ∧ c ≤ '9'

def digitValue (c : Char) : Nat := c.toNat - 48

def maxSignificand : Nat := Nat.pow 2 64 - 1

def absorb (significand : Nat) : List Char → Nat × List Char
  | [] => (significand, [])
  | c :: rest =>
    let next := significand * 10 + digitValue c
    if maxSignificand < next then (significand, c :: rest) else absorb next rest

def powerOfTen (power : Nat) : Float := Float.ofScientific 1 false power

def scaleFloat (x : Float) (exponent : Int) : Option Float :=
  if exponent.natAbs ≤ 308 then
    if 0 ≤ exponent then
      let y := x * powerOfTen exponent.natAbs
      if y.isInf then none else some y
    else some (x / powerOfTen exponent.natAbs)
  else if x == 0.0 then some x
  else if 0 ≤ exponent then none
  else scaleFloat (x / powerOfTen 308) (exponent + 308)
termination_by exponent.natAbs

def makeFloat (positive : Bool) (significand : Nat) (exponent : Int) (rest : List Char) :
    Except Fault (Number × List Char) :=
  match scaleFloat (UInt64.ofNat significand).toFloat exponent with
  | some x => .ok (.float (if positive then x else -x), rest)
  | none => Fault.behind .numberOutOfRange rest

def maxExponent : Nat := Nat.pow 2 31 - 1

def exponentDigits (value : Nat) : List Char → Except (List Char) (Nat × List Char)
  | [] => .ok (value, [])
  | c :: rest =>
    if isDigit c then
      let next := value * 10 + digitValue c
      if maxExponent < next then .error rest else exponentDigits next rest
    else .ok (value, c :: rest)

def numberExponent (positive : Bool) (significand : Nat) (start : Int) (chars : List Char) :
    Except Fault (Number × List Char) :=
  let (up, rest) := match chars with
    | '+' :: rest => (true, rest)
    | '-' :: rest => (false, rest)
    | _ => (true, chars)
  match rest with
  | [] => Fault.behind .eofValue []
  | c :: _ =>
    if isDigit c then
      match exponentDigits 0 rest with
      | .ok (value, rest) =>
        makeFloat positive significand (if up then start + value else start - value) rest
      | .error rest =>
        if significand ≠ 0 ∧ up then Fault.behind .numberOutOfRange rest
        else .ok (.float (if positive then 0.0 else -0.0), rest.dropWhile isDigit)
    else Fault.atNext .invalidNumber rest

def numberEnd (positive : Bool) (significand : Nat) (exponent : Int) (rest : List Char) :
    Except Fault (Number × List Char) :=
  match rest with
  | 'e' :: tail | 'E' :: tail => numberExponent positive significand exponent tail
  | _ => makeFloat positive significand exponent rest

def numberFraction (positive : Bool) (significand : Nat) (exponent : Int) (chars : List Char) :
    Except Fault (Number × List Char) :=
  let digits := chars.takeWhile isDigit
  let rest := chars.dropWhile isDigit
  if digits.isEmpty then
    match rest with
    | [] => Fault.behind .eofValue []
    | _ => Fault.atNext .invalidNumber rest
  else
    let (significand, left) := absorb significand digits
    numberEnd positive significand (exponent - (digits.length - left.length : Nat)) rest

-- An integer that leaves 64 bits becomes a double, and so does a negative zero.
def makeInteger (positive : Bool) (significand : Nat) : Number :=
  if positive then .int significand
  else if significand = 0 ∨ Nat.pow 2 63 < significand then
    .float (-(UInt64.ofNat significand).toFloat)
  else .int (-(significand : Int))

def readNumber (positive : Bool) (chars : List Char) : Except Fault (Number × List Char) :=
  match chars with
  | [] => Fault.behind .eofValue []
  | '0' :: rest =>
    match rest with
    | '.' :: tail => numberFraction positive 0 0 tail
    | 'e' :: tail | 'E' :: tail => numberExponent positive 0 0 tail
    | c :: _ =>
      if isDigit c then Fault.atNext .invalidNumber rest else .ok (makeInteger positive 0, rest)
    | [] => .ok (makeInteger positive 0, [])
  | c :: _ =>
    if isDigit c then
      let (significand, left) := absorb 0 (chars.takeWhile isDigit)
      let rest := chars.dropWhile isDigit
      match rest with
      | '.' :: tail => numberFraction positive significand left.length tail
      | 'e' :: tail | 'E' :: tail => numberExponent positive significand left.length tail
      | _ =>
        if left.isEmpty then .ok (makeInteger positive significand, rest)
        else makeFloat positive significand left.length rest
    else Fault.atNext .invalidNumber chars

end Dialogue.Json
