import Dialogue.Json.Lexeme

/-!
Reading JSON values. Arrays and objects nest at most 127 deep. A value that nobody asked for is
skipped instead: its nesting is not counted, and its numbers and escapes are not evaluated.
-/

set_option autoImplicit false

namespace Dialogue.Json

def maxDepth : Nat := 127

def anotherItem (first : Bool) (chars : List Char) : Except Fault (Bool × List Char) :=
  match skipSpace chars with
  | [] => Fault.behind .eofList []
  | c :: rest =>
    if c = ']' then .ok (false, rest)
    else if first then .ok (true, c :: rest)
    else if c = ',' then
      match skipSpace rest with
      | [] => Fault.behind .eofValue []
      | ']' :: tail => Fault.atNext .trailingComma (']' :: tail)
      | tail => .ok (true, tail)
    else Fault.atNext .expectedListCommaOrEnd (c :: rest)

def anotherKey (first : Bool) (chars : List Char) : Except Fault (Bool × List Char) :=
  match skipSpace chars with
  | [] => Fault.behind .eofObject []
  | c :: rest =>
    if c = '\x7d' then .ok (false, rest)
    else if first then
      if c = '"' then .ok (true, rest) else Fault.atNext .keyNotString (c :: rest)
    else if c = ',' then
      match skipSpace rest with
      | [] => Fault.behind .eofValue []
      | '"' :: tail => .ok (true, tail)
      | '\x7d' :: tail => Fault.atNext .trailingComma ('\x7d' :: tail)
      | tail => Fault.atNext .keyNotString tail
    else Fault.atNext .expectedObjectCommaOrEnd (c :: rest)

def colon (chars : List Char) : Except Fault (List Char) :=
  match skipSpace chars with
  | [] => Fault.behind .eofObject []
  | ':' :: rest => .ok rest
  | rest => Fault.atNext .expectedColon rest

mutual

def readValue : Nat → Nat → List Char → Except Fault (Json × List Char)
  | 0, _, chars => Fault.behind .eofValue chars
  | fuel + 1, depth, chars =>
    match skipSpace chars with
    | [] => Fault.behind .eofValue []
    | 'n' :: rest => do .ok (.null, ← ident ['u', 'l', 'l'] rest)
    | 't' :: rest => do .ok (.bool true, ← ident ['r', 'u', 'e'] rest)
    | 'f' :: rest => do .ok (.bool false, ← ident ['a', 'l', 's', 'e'] rest)
    | '"' :: rest => do
      let (text, rest) ← readString rest
      .ok (.string text, rest)
    | '[' :: rest =>
      match depth with
      | 0 => Fault.atNext .recursionLimit ('[' :: rest)
      | depth + 1 => do
        let (items, rest) ← readItems fuel depth true rest
        .ok (.array items, rest)
    | '\x7b' :: rest =>
      match depth with
      | 0 => Fault.atNext .recursionLimit ('\x7b' :: rest)
      | depth + 1 => do
        let (members, rest) ← readMembers fuel depth true rest
        .ok (ofMembers members, rest)
    | '-' :: rest => do
      let (value, rest) ← readNumber false rest
      .ok (.number value, rest)
    | c :: rest =>
      if isDigit c then do
        let (value, rest) ← readNumber true (c :: rest)
        .ok (.number value, rest)
      else Fault.atNext .expectedValue (c :: rest)

def readItems : Nat → Nat → Bool → List Char → Except Fault (List Json × List Char)
  | 0, _, _, chars => Fault.behind .eofList chars
  | fuel + 1, depth, first, chars => do
    let (more, rest) ← anotherItem first chars
    if more then
      let (item, rest) ← readValue fuel depth rest
      let (items, rest) ← readItems fuel depth false rest
      .ok (item :: items, rest)
    else .ok ([], rest)

def readMembers : Nat → Nat → Bool → List Char → Except Fault (List (String × Json) × List Char)
  | 0, _, _, chars => Fault.behind .eofObject chars
  | fuel + 1, depth, first, chars => do
    let (more, rest) ← anotherKey first chars
    if more then
      let (key, rest) ← readString rest
      let rest ← colon rest
      let (value, rest) ← readValue fuel depth rest
      let (members, rest) ← readMembers fuel depth false rest
      .ok ((key, value) :: members, rest)
    else .ok ([], rest)

end

-- Every step of the reader takes a character or opens an item, so this many steps are enough.
def readingFuel (chars : List Char) : Nat := 2 * chars.length + 2

def textEnd (chars : List Char) : Except Fault Unit :=
  match skipSpace chars with
  | [] => .ok ()
  | rest => Fault.atNext .trailingCharacters rest

def readText (chars : List Char) : Except Fault Json := do
  let (value, rest) ← readValue (readingFuel chars) maxDepth chars
  textEnd rest
  .ok value

def parse (text : String) : Except SyntaxError Json :=
  match readText text.toList with
  | .ok value => .ok value
  | .error fault =>
    let cause := match fault.problem with
      | .malformed cause => cause
      | _ => .expectedValue
    .error ⟨cause, fault.place text.toList⟩

def skipString : Nat → List Char → Except Fault (List Char)
  | 0, rest => Fault.behind .eofString rest
  | _ + 1, [] => Fault.behind .eofString []
  | fuel + 1, c :: rest =>
    if c = '"' then .ok rest
    else if c = '\\' then
      match rest with
      | [] => Fault.behind .eofString []
      | 'u' :: tail => do
        let (_, tail) ← hexEscape tail
        skipString fuel tail
      | d :: tail =>
        if d ∈ ['"', '\\', '/', 'b', 'f', 'n', 'r', 't'] then skipString fuel tail
        else Fault.atNext .invalidEscape (d :: tail)
    else if c.toNat < 0x20 then Fault.behind .controlCharacter (c :: rest)
    else skipString fuel rest

def skipDigits (chars : List Char) : Except Fault (List Char) :=
  match chars with
  | [] => Fault.behind .invalidNumber []
  | c :: _ =>
    if isDigit c then .ok (chars.dropWhile isDigit) else Fault.atNext .invalidNumber chars

def skipExponent (chars : List Char) : Except Fault (List Char) :=
  match chars with
  | 'e' :: rest | 'E' :: rest =>
    match rest with
    | '+' :: tail | '-' :: tail => skipDigits tail
    | _ => skipDigits rest
  | _ => .ok chars

def skipNumber (chars : List Char) : Except Fault (List Char) := do
  let rest ← match chars with
    | '0' :: rest =>
      if (rest.head?.map isDigit).getD false then Fault.atNext .invalidNumber rest else .ok rest
    | _ => skipDigits chars
  match rest with
  | '.' :: tail => skipExponent (← skipDigits tail)
  | _ => skipExponent rest

mutual

def skipValue : Nat → List Char → Except Fault (List Char)
  | 0, chars => Fault.behind .eofValue chars
  | fuel + 1, chars =>
    match skipSpace chars with
    | [] => Fault.behind .eofValue []
    | 'n' :: rest => ident ['u', 'l', 'l'] rest
    | 't' :: rest => ident ['r', 'u', 'e'] rest
    | 'f' :: rest => ident ['a', 'l', 's', 'e'] rest
    | '"' :: rest => skipString (rest.length + 1) rest
    | '[' :: rest =>
      match skipSpace rest with
      | [] => Fault.behind .eofList []
      | ']' :: tail => .ok tail
      | tail => skipItems fuel tail
    | '\x7b' :: rest =>
      match skipSpace rest with
      | [] => Fault.behind .eofObject []
      | '\x7d' :: tail => .ok tail
      | tail => skipMembers fuel tail
    | '-' :: rest => skipNumber rest
    | c :: rest =>
      if isDigit c then skipNumber (c :: rest) else Fault.atNext .expectedValue (c :: rest)

def skipItems : Nat → List Char → Except Fault (List Char)
  | 0, chars => Fault.behind .eofList chars
  | fuel + 1, chars => do
    let rest ← skipValue fuel chars
    match skipSpace rest with
    | [] => Fault.behind .eofList []
    | ']' :: tail => .ok tail
    | ',' :: tail => skipItems fuel tail
    | tail => Fault.atNext .expectedListCommaOrEnd tail

def skipMembers : Nat → List Char → Except Fault (List Char)
  | 0, chars => Fault.behind .eofObject chars
  | fuel + 1, chars =>
    match skipSpace chars with
    | [] => Fault.behind .eofObject []
    | '"' :: tail => do
      let rest ← skipString (tail.length + 1) tail
      let rest ← skipValue fuel (← colon rest)
      match skipSpace rest with
      | [] => Fault.behind .eofObject []
      | '\x7d' :: tail => .ok tail
      | ',' :: tail => skipMembers fuel tail
      | tail => Fault.atNext .expectedObjectCommaOrEnd tail
    | tail => Fault.atNext .keyNotString tail

end

end Dialogue.Json
