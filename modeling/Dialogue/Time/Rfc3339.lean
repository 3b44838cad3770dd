import Dialogue.Text.Blank
import Dialogue.Time.Timestamp

/-!
RFC 3339 texts of points in time. Written texts end in `Z` and have as many of 0, 3, 6 or 9
fraction digits as are needed. Reading also allows a blank in place of the `T`, blanks between the
parts, fewer digits, and signed years of any length.
-/

set_option autoImplicit false

namespace Dialogue.Timestamp

def padded : Nat → Nat → List Char
  | 0, _ => []
  | width + 1, n => padded width (n / 10) ++ [Nat.digitChar (n % 10)]

def yearText (year : Int) : List Char :=
  if 0 ≤ year ∧ year ≤ 9999 then padded 4 year.toNat
  else
    let digits := Nat.toDigits 10 year.natAbs
    (if year < 0 then '-' else '+') :: List.replicate (4 - digits.length) '0' ++ digits

def fractionText (nanosecond : Nat) : List Char :=
  if nanosecond = 0 then []
  else if nanosecond % 1000000 = 0 then '.' :: padded 3 (nanosecond / 1000000)
  else if nanosecond % 1000 = 0 then '.' :: padded 6 (nanosecond / 1000)
  else '.' :: padded 9 nanosecond

def write (t : Timestamp) : List Char :=
  yearText t.date.year ++ '-' :: padded 2 t.date.month ++ '-' :: padded 2 t.date.day ++
    'T' :: padded 2 t.time.hour ++ ':' :: padded 2 t.time.minute ++
    ':' :: padded 2 t.time.second ++ fractionText t.time.nanosecond ++ ['Z']

def text (t : Timestamp) : String := String.ofList t.write

def isDigit (c : Char) : Bool := '0' ≤ c ∧ c ≤ '9'

def digitsValue (digits : List Char) : Nat :=
  digits.foldl (fun value c => value * 10 + (c.toNat - 48)) 0

-- Reads one up to `width` digits; any number of digits if there is no width.
def number (width : Option Nat) (chars : List Char) : Option (Nat × List Char) :=
  let all := chars.takeWhile isDigit
  let digits := match width with
    | some width => all.take width
    | none => all
  if digits.isEmpty then none else some (digitsValue digits, chars.drop digits.length)

def skipBlank (chars : List Char) : List Char := Text.trimStart chars

def twoDigits (chars : List Char) : Option (Nat × List Char) := number (some 2) (skipBlank chars)

def year (chars : List Char) : Option (Int × List Char) :=
  match skipBlank chars with
  | '-' :: rest => (number none rest).map fun (n, rest) => (-(n : Int), rest)
  | '+' :: rest => (number none rest).map fun (n, rest) => ((n : Int), rest)
  | rest => (number (some 4) rest).map fun (n, rest) => ((n : Int), rest)

def separator (c : Char) (chars : List Char) : Option (List Char) :=
  match skipBlank chars with
  | d :: rest => if c = d then some rest else none
  | [] => none

-- Nine fraction digits count and the further ones are dropped.
def fraction (chars : List Char) : Option (Nat × List Char) :=
  match chars with
  | '.' :: rest => do
    let (value, tail) ← number (some 9) rest
    let width := rest.length - tail.length
    some (value * Nat.pow 10 (9 - width), tail.dropWhile isDigit)
  | _ => some (0, chars)

def sign (chars : List Char) : Option (Int × List Char) :=
  match chars with
  | '+' :: rest => some (1, rest)
  | '-' :: rest => some (-1, rest)
  | '\u2212' :: rest => some (-1, rest)
  | _ => none

def offset (chars : List Char) : Option (Int × List Char) :=
  match chars with
  | 'Z' :: rest | 'z' :: rest => some (0, rest)
  | u :: t :: c :: rest =>
    if u.toLower = 'u' ∧ t.toLower = 't' ∧ c.toLower = 'c' then some (0, rest) else numeric chars
  | _ => numeric chars
where
  numeric (chars : List Char) : Option (Int × List Char) := do
    let (sign, rest) ← sign chars
    match rest with
    | h₁ :: h₂ :: rest =>
      match rest.dropWhile fun c => c = ':' || Text.isBlankChar c with
      | m₁ :: m₂ :: rest =>
        let hours := digitsValue [h₁, h₂]
        let minutes := digitsValue [m₁, m₂]
        if [h₁, h₂, m₁, m₂].all isDigit ∧ minutes < 60 ∧ hours < 24 then
          some (sign * (hours * 60 + minutes : Nat), rest)
        else none
      | _ => none
    | _ => none

def read? (chars : List Char) : Option Timestamp := do
  let (year, rest) ← year chars
  let (month, rest) ← twoDigits (← separator '-' rest)
  let (day, rest) ← twoDigits (← separator '-' rest)
  let rest ← match rest with
    | 'T' :: rest | 't' :: rest | ' ' :: rest => some rest
    | _ => none
  let (hour, rest) ← twoDigits rest
  let (minute, rest) ← twoDigits (← separator ':' rest)
  let (second, rest) ← twoDigits (← separator ':' rest)
  let (nanosecond, rest) ← fraction rest
  let (offset, rest) ← offset (skipBlank rest)
  if Text.isBlank (String.ofList rest) then
    atOffset? ⟨year, month, day⟩ ⟨hour, minute, second, nanosecond⟩ offset
  else none

end Dialogue.Timestamp
