import Dialogue.Time.Timestamp
import Dialogue.Toml.Document

set_option autoImplicit false

namespace Dialogue.Toml

def isBlank (c : Char) : Bool := c = ' ' || c = '\t'

def skipBlank (chars : List Char) : List Char := chars.dropWhile isBlank

def isPlain (c : Char) : Bool := c = '\t' || (0x20 ≤ c.toNat && c.toNat ≠ 0x7F)

def newline (chars : List Char) : Option (List Char) :=
  match chars with
  | '\n' :: rest => some rest
  | '\r' :: '\n' :: rest => some rest
  | _ => none

def skipComment (chars : List Char) : List Char :=
  match chars with
  | '#' :: rest => rest.dropWhile isPlain
  | _ => chars

def lineEnd (chars : List Char) : Option (List Char) :=
  match skipComment (skipBlank chars) with
  | [] => some []
  | rest => newline rest

def skipTrivia : Nat → List Char → Option (List Char)
  | 0, chars => some chars
  | fuel + 1, chars =>
    match skipBlank chars with
    | '#' :: rest => do skipTrivia fuel (← newline (rest.dropWhile isPlain))
    | '\n' :: rest => skipTrivia fuel rest
    | '\r' :: '\n' :: rest => skipTrivia fuel rest
    | rest => some rest

def hexValue? (c : Char) : Option Nat :=
  if '0' ≤ c ∧ c ≤ '9' then some (c.toNat - 48)
  else if 'a' ≤ c ∧ c ≤ 'f' then some (c.toNat - 87)
  else if 'A' ≤ c ∧ c ≤ 'F' then some (c.toNat - 55)
  else none

def codePoint (width : Nat) (chars : List Char) : Option (Char × List Char) := do
  let digits ← (chars.take width).mapM hexValue?
  let n := digits.foldl (fun n digit => n * 16 + digit) 0
  if digits.length = width ∧ n.isValidChar then some (Char.ofNat n, chars.drop width) else none

def escape (chars : List Char) : Option (Char × List Char) :=
  match chars with
  | 'b' :: rest => some ('\x08', rest)
  | 't' :: rest => some ('\t', rest)
  | 'n' :: rest => some ('\n', rest)
  | 'f' :: rest => some ('\x0c', rest)
  | 'r' :: rest => some ('\r', rest)
  | '"' :: rest => some ('"', rest)
  | '\\' :: rest => some ('\\', rest)
  | 'u' :: rest => codePoint 4 rest
  | 'U' :: rest => codePoint 8 rest
  | _ => none

def basicString : Nat → List Char → Option (List Char × List Char)
  | 0, _ => none
  | fuel + 1, chars =>
    match chars with
    | [] => none
    | '"' :: rest => some ([], rest)
    | '\\' :: rest => do
      let (c, rest) ← escape rest
      let (text, rest) ← basicString fuel rest
      some (c :: text, rest)
    | c :: rest =>
      if isPlain c then do
        let (text, rest) ← basicString fuel rest
        some (c :: text, rest)
      else none

def literalString (chars : List Char) : Option (List Char × List Char) :=
  let text := chars.takeWhile fun c => isPlain c && c ≠ '\''
  match chars.drop text.length with
  | '\'' :: rest => some (text, rest)
  | _ => none

-- Three quotes end a string of several lines; up to two more before them belong to it.
def closingQuotes (quote : Char) (chars : List Char) : Option (List Char × List Char) :=
  let count := (chars.takeWhile (· = quote)).length
  if 3 ≤ count ∧ count ≤ 5 then some (List.replicate (count - 3) quote, chars.drop count) else none

def skipBlankLines : List Char → List Char
  | ' ' :: rest => skipBlankLines rest
  | '\t' :: rest => skipBlankLines rest
  | '\n' :: rest => skipBlankLines rest
  | '\r' :: '\n' :: rest => skipBlankLines rest
  | rest => rest

def skipFold (chars : List Char) : Option (List Char) :=
  (newline (skipBlank chars)).map skipBlankLines

def multilineBasic : Nat → List Char → Option (List Char × List Char)
  | 0, _ => none
  | fuel + 1, chars =>
    match chars with
    | [] => none
    | '"' :: '"' :: '"' :: _ => closingQuotes '"' chars
    | '\\' :: rest =>
      match skipFold rest with
      | some rest => multilineBasic fuel rest
      | none => do
        let (c, rest) ← escape rest
        let (text, rest) ← multilineBasic fuel rest
        some (c :: text, rest)
    | '\r' :: '\n' :: rest | '\n' :: rest => do
      let (text, rest) ← multilineBasic fuel rest
      some ('\n' :: text, rest)
    | c :: rest =>
      if isPlain c then do
        let (text, rest) ← multilineBasic fuel rest
        some (c :: text, rest)
      else none

def multilineLiteral : Nat → List Char → Option (List Char × List Char)
  | 0, _ => none
  | fuel + 1, chars =>
    match chars with
    | [] => none
    | '\'' :: '\'' :: '\'' :: _ => closingQuotes '\'' chars
    | '\r' :: '\n' :: rest | '\n' :: rest => do
      let (text, rest) ← multilineLiteral fuel rest
      some ('\n' :: text, rest)
    | c :: rest =>
      if isPlain c then do
        let (text, rest) ← multilineLiteral fuel rest
        some (c :: text, rest)
      else none

-- A line break directly behind the opening quotes does not count.
def afterOpening (chars : List Char) : List Char := (newline chars).getD chars

def stringValue (chars : List Char) : Option (String × List Char) := do
  let fuel := chars.length + 1
  let (text, rest) ← match chars with
    | '"' :: '"' :: '"' :: rest => multilineBasic fuel (afterOpening rest)
    | '\'' :: '\'' :: '\'' :: rest => multilineLiteral fuel (afterOpening rest)
    | '"' :: rest => basicString fuel rest
    | '\'' :: rest => literalString rest
    | _ => none
  some (String.ofList text, rest)

def isDigit (c : Char) : Bool := '0' ≤ c ∧ c ≤ '9'

def isBareKeyChar (c : Char) : Bool :=
  isDigit c || ('a' ≤ c && c ≤ 'z') || ('A' ≤ c && c ≤ 'Z') || c = '_' || c = '-'

def simpleKey (chars : List Char) : Option (String × List Char) :=
  match chars with
  | '"' :: rest => do
    let (text, rest) ← basicString (rest.length + 1) rest
    some (String.ofList text, rest)
  | '\'' :: rest => do
    let (text, rest) ← literalString rest
    some (String.ofList text, rest)
  | _ =>
    let text := chars.takeWhile isBareKeyChar
    if text.isEmpty then none else some (String.ofList text, chars.drop text.length)

def nestingLimit : Nat := 80

def keyParts : Nat → List Char → Option (List String × List Char)
  | 0, _ => none
  | fuel + 1, chars => do
    let (part, rest) ← simpleKey (skipBlank chars)
    match skipBlank rest with
    | '.' :: rest => do
      let (parts, rest) ← keyParts fuel rest
      some (part :: parts, rest)
    | rest => some ([part], rest)

def key (chars : List Char) : Option (List String × List Char) := do
  let (parts, rest) ← keyParts (chars.length + 1) chars
  if parts.length < nestingLimit then some (parts, rest) else none

def spacedDigits (isDigit : Char → Bool) : List Char → Option (List Char)
  | [] => none
  | [c] => if isDigit c then some [c] else none
  | c :: '_' :: rest => if isDigit c then do some (c :: (← spacedDigits isDigit rest)) else none
  | c :: rest => if isDigit c then do some (c :: (← spacedDigits isDigit rest)) else none

def numeral (base : Nat) (digits : List Char) : Nat :=
  digits.foldl (fun n c => n * base + (hexValue? c).getD 0) 0

def int64 (n : Int) : Option Int :=
  if -(Nat.pow 2 63 : Int) ≤ n ∧ n < Nat.pow 2 63 then some n else none

def hasLeadingZero (digits : List Char) : Bool :=
  match digits with
  | '0' :: _ :: _ => true
  | _ => false

def sign (chars : List Char) : Bool × List Char :=
  match chars with
  | '-' :: rest => (true, rest)
  | '+' :: rest => (false, rest)
  | _ => (false, chars)

def integer (token : List Char) : Option Int :=
  match token with
  | '0' :: 'x' :: rest => do
    int64 (numeral 16 (← spacedDigits (fun c => (hexValue? c).isSome) rest))
  | '0' :: 'o' :: rest => do
    int64 (numeral 8 (← spacedDigits (fun c => '0' ≤ c && c ≤ '7') rest))
  | '0' :: 'b' :: rest => do
    int64 (numeral 2 (← spacedDigits (fun c => c = '0' || c = '1') rest))
  | _ => do
    let (negative, rest) := sign token
    let digits ← spacedDigits isDigit rest
    if hasLeadingZero digits then none
    else int64 (if negative then -(numeral 10 digits : Int) else numeral 10 digits)

def overflowsDouble (digits : Nat) (exponent : Int) : Bool :=
  let leading := ((Nat.toDigits 10 digits).length : Int) + exponent
  if digits = 0 ∨ leading < 308 then false
  else if 310 < leading then true
  else if 0 ≤ exponent then Nat.pow 2 1024 - Nat.pow 2 970 ≤ digits * Nat.pow 10 exponent.toNat
  else (Nat.pow 2 1024 - Nat.pow 2 970) * Nat.pow 10 (-exponent).toNat ≤ digits

def mantissa (chars : List Char) : Option (List Char × List Char × Option (List Char)) := do
  let whole := chars.takeWhile fun c => isDigit c || c = '_'
  let digits ← spacedDigits isDigit whole
  if hasLeadingZero digits then none
  else
    match chars.drop whole.length with
    | '.' :: rest =>
      let part := rest.takeWhile fun c => isDigit c || c = '_'
      let fraction ← spacedDigits isDigit part
      match rest.drop part.length with
      | [] => some (digits, fraction, none)
      | 'e' :: rest | 'E' :: rest => some (digits, fraction, some rest)
      | _ => none
    | 'e' :: rest | 'E' :: rest => some (digits, [], some rest)
    | _ => none

-- Whether a token is a float. A positive number beyond the doubles is none.
def isFloat (token : List Char) : Bool :=
  let (negative, rest) := sign token
  if rest = ['i', 'n', 'f'] ∨ rest = ['n', 'a', 'n'] then true
  else
    match mantissa rest with
    | none => false
    | some (digits, fraction, power) =>
      let number := numeral 10 (digits ++ fraction)
      match power with
      | none => negative || !overflowsDouble number (-fraction.length)
      | some power =>
        let (down, rest) := sign power
        match spacedDigits isDigit rest with
        | none => false
        | some power =>
          let exponent : Int := if down then -(numeral 10 power : Int) else numeral 10 power
          negative || !overflowsDouble number (exponent - fraction.length)

def fixedNumber (width : Nat) (chars : List Char) : Option (Nat × List Char) :=
  let digits := chars.take width
  if digits.length = width ∧ digits.all isDigit then some (numeral 10 digits, chars.drop width)
  else none

def expect (c : Char) (chars : List Char) : Option (List Char) :=
  match chars with
  | d :: rest => if c = d then some rest else none
  | [] => none

def date (chars : List Char) : Option (List Char) := do
  let (year, rest) ← fixedNumber 4 chars
  let (month, rest) ← fixedNumber 2 (← expect '-' rest)
  let (day, rest) ← fixedNumber 2 (← expect '-' rest)
  if Date.isReal ⟨year, month, day⟩ then some rest else none

def timeOfDay (chars : List Char) : Option (List Char) := do
  let (hour, rest) ← fixedNumber 2 chars
  let (minute, rest) ← fixedNumber 2 (← expect ':' rest)
  let (second, rest) ← fixedNumber 2 (← expect ':' rest)
  if TimeOfDay.isReal ⟨hour, minute, second, 0⟩ then
    match rest with
    | '.' :: fraction =>
      let digits := fraction.takeWhile isDigit
      if digits.isEmpty then none else some (fraction.drop digits.length)
    | _ => some rest
  else none

def timeOffset (chars : List Char) : Option (List Char) :=
  match chars with
  | 'Z' :: rest | 'z' :: rest => some rest
  | '+' :: rest | '-' :: rest => do
    let (hour, rest) ← fixedNumber 2 rest
    let (minute, rest) ← fixedNumber 2 (← expect ':' rest)
    if hour < 24 ∧ minute < 60 then some rest else none
  | _ => some chars

def isMoment (token : List Char) : Bool :=
  match date token with
  | some [] => true
  | some (c :: rest) =>
    if c = 'T' ∨ c = 't' ∨ c = ' ' then (timeOfDay rest).bind timeOffset = some [] else false
  | none => timeOfDay token = some []

def isTokenChar (c : Char) : Bool := isBareKeyChar c || c = '+' || c = '.' || c = ':'

def timeFollows (token rest : List Char) : Bool :=
  match rest with
  | ' ' :: a :: b :: ':' :: _ => date token = some [] && isDigit a && isDigit b
  | _ => false

def bareValue (chars : List Char) : Option (Node × List Char) :=
  let token := chars.takeWhile isTokenChar
  let rest := chars.drop token.length
  let tail := if timeFollows token rest then (rest.drop 1).takeWhile isTokenChar else []
  let (token, rest) :=
    if tail.isEmpty then (token, rest) else (token ++ ' ' :: tail, rest.drop (1 + tail.length))
  if token = ['t', 'r', 'u', 'e'] then some (.boolean true, rest)
  else if token = ['f', 'a', 'l', 's', 'e'] then some (.boolean false, rest)
  else
    match integer token with
    | some n => some (.integer n, rest)
    | none =>
      if isFloat token then some (.float, rest)
      else if isMoment token then some (.moment, rest)
      else none

end Dialogue.Toml
