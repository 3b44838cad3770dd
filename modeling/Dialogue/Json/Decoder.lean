import Dialogue.Json.Printer
import Dialogue.Json.Reader
import Dialogue.Text.Quoted

/-!
Reading JSON text as a value of a given type. The text is read once from left to right, so of
several problems the first in the text is reported, be it bad JSON or a value of the wrong shape.
A record is read from an object, whose unknown members are skipped, or from an array that lists
the fields in order.
-/

set_option autoImplicit false

namespace Dialogue.Json

-- Reads a value from the beginning of a text, with so many levels of nesting left.
abbrev Decoder (α : Type) := Nat → List Char → Except Fault (α × List Char)

def describeNumber : Number → String
  | .int value => "integer `" ++ String.ofList (intText value) ++ "`"
  | .float value => "floating point `" ++ String.ofList (floatText value) ++ "`"

def wrongType {α : Type} (found expected : String) (rest : List Char) : Except Fault α :=
  Fault.mismatch ("invalid type: " ++ found ++ ", expected " ++ expected) rest

def wrongValue {α : Type} (found expected : String) (rest : List Char) : Except Fault α :=
  Fault.mismatch ("invalid value: " ++ found ++ ", expected " ++ expected) rest

def unexpected {α : Type} (expected : String) (chars : List Char) : Except Fault α :=
  match chars with
  | [] => Fault.behind .eofValue []
  | 'n' :: rest => do wrongType "null" expected (← ident ['u', 'l', 'l'] rest)
  | 't' :: rest => do wrongType "boolean `true`" expected (← ident ['r', 'u', 'e'] rest)
  | 'f' :: rest => do wrongType "boolean `false`" expected (← ident ['a', 'l', 's', 'e'] rest)
  | '"' :: rest => do
    let (text, rest) ← readString rest
    wrongType ("string " ++ Text.quoted text) expected rest
  | '[' :: rest => wrongType "sequence" expected rest
  | '\x7b' :: rest => wrongType "map" expected rest
  | '-' :: rest => do
    let (value, rest) ← readNumber false rest
    wrongType (describeNumber value) expected rest
  | c :: rest =>
    if isDigit c then do
      let (value, rest) ← readNumber true (c :: rest)
      wrongType (describeNumber value) expected rest
    else Fault.atNext .expectedValue (c :: rest)

namespace Decoder

def string : Decoder String := fun _ chars =>
  match skipSpace chars with
  | '"' :: rest => readString rest
  | rest => unexpected "a string" rest

def bool : Decoder Bool := fun _ chars =>
  match skipSpace chars with
  | 't' :: rest => do .ok (true, ← ident ['r', 'u', 'e'] rest)
  | 'f' :: rest => do .ok (false, ← ident ['a', 'l', 's', 'e'] rest)
  | rest => unexpected "a boolean" rest

def nextNumber (expected : String) (chars : List Char) : Except Fault (Number × List Char) :=
  match skipSpace chars with
  | '-' :: rest => readNumber false rest
  | c :: rest => if isDigit c then readNumber true (c :: rest) else unexpected expected (c :: rest)
  | [] => unexpected expected []

def unsigned (name : String) (bound : Nat) : Decoder Nat := fun _ chars => do
  let (value, rest) ← nextNumber name chars
  match value with
  | .float _ => wrongType (describeNumber value) name rest
  | .int n =>
    if 0 ≤ n ∧ n < bound then .ok (n.toNat, rest) else wrongValue (describeNumber value) name rest

def u32 : Decoder Nat := unsigned "u32" (Nat.pow 2 32)
def u64 : Decoder Nat := unsigned "u64" (Nat.pow 2 64)
def usize : Decoder Nat := unsigned "usize" (Nat.pow 2 64)

def intToFloat (n : Int) : Float :=
  let magnitude := (UInt64.ofNat n.natAbs).toFloat
  if n < 0 then -magnitude else magnitude

def float : Decoder Float := fun _ chars => do
  let (value, rest) ← nextNumber "f64" chars
  match value with
  | .float x => .ok (x, rest)
  | .int n => .ok (intToFloat n, rest)

def option {α : Type} (decoder : Decoder α) : Decoder (Option α) := fun depth chars =>
  match skipSpace chars with
  | 'n' :: rest => do .ok (none, ← ident ['u', 'l', 'l'] rest)
  | rest => do
    let (value, rest) ← decoder depth rest
    .ok (some value, rest)

def items {α : Type} (decoder : Decoder α) (depth : Nat) :
    Nat → Bool → List Char → Except Fault (List α × List Char)
  | 0, _, chars => Fault.behind .eofList chars
  | fuel + 1, first, chars => do
    let (more, rest) ← anotherItem first chars
    if more then
      let (item, rest) ← decoder depth rest
      let (more, rest) ← items decoder depth fuel false rest
      .ok (item :: more, rest)
    else .ok ([], rest)

def list {α : Type} (decoder : Decoder α) : Decoder (List α) := fun depth chars =>
  match skipSpace chars with
  | '[' :: rest =>
    match depth with
    | 0 => Fault.atNext .recursionLimit ('[' :: rest)
    | depth + 1 => items decoder depth (rest.length + 1) true rest
  | rest => unexpected "a sequence" rest

def value : Decoder Json := fun depth chars => readValue (readingFuel chars) depth chars

def members : Decoder (List (String × Json)) := fun depth chars =>
  match skipSpace chars with
  | '\x7b' :: rest =>
    match depth with
    | 0 => Fault.atNext .recursionLimit ('\x7b' :: rest)
    | depth + 1 => do
      let (entries, rest) ← readMembers (readingFuel rest) depth true rest
      .ok (entries.foldl (fun sorted entry => insertMember entry.1 entry.2 sorted) [], rest)
  | rest => unexpected "a map" rest

def alternatives (names : List String) : String :=
  match names.map fun name => "`" ++ name ++ "`" with
  | [] => "there are no variants"
  | [a] => "expected " ++ a
  | [a, b] => "expected " ++ a ++ " or " ++ b
  | names => "expected one of " ++ ", ".intercalate names

def variantOf {α : Type} (variants : List (String × α)) (name : String) (rest : List Char) :
    Except Fault α :=
  match variants.lookup name with
  | some value => .ok value
  | none =>
    Fault.mismatch ("unknown variant `" ++ name ++ "`, " ++ alternatives (variants.map (·.1))) rest

def null (expected : String) (chars : List Char) : Except Fault (List Char) :=
  match skipSpace chars with
  | 'n' :: rest => ident ['u', 'l', 'l'] rest
  | rest => unexpected expected rest

def variant {α : Type} (variants : List (String × α)) : Decoder α := fun depth chars =>
  match skipSpace chars with
  | '"' :: rest => do
    let (name, rest) ← readString rest
    let value ← variantOf variants name rest
    .ok (value, rest)
  | '\x7b' :: rest =>
    match depth with
    | 0 => Fault.atNext .recursionLimit ('\x7b' :: rest)
    | _ + 1 => do
      let (name, rest) ← match skipSpace rest with
        | '"' :: tail => readString tail
        | [] => Fault.behind .eofValue []
        | tail => Fault.atNext .keyNotString tail
      let value ← variantOf variants name rest
      let rest ← null "unit" (← colon rest)
      match skipSpace rest with
      | '\x7d' :: tail => .ok (value, tail)
      | [] => Fault.behind .eofObject []
      | tail => Fault.behind .expectedValue tail
  | [] => Fault.behind .eofValue []
  | rest => Fault.atNext .expectedValue rest

end Decoder

structure Field (δ : Type) where
  name : String
  required : Bool
  present : δ → Bool
  read : δ → Decoder δ

-- How a record of type `α` is collected. `build` fills in the defaults and fails only if a
-- required field is missing.
structure Record (δ α : Type) where
  name : String
  draft : δ
  fields : List (Field δ)
  build : δ → Option α

namespace Record

variable {δ α : Type}

def finish (record : Record δ α) (missing : Field δ → Nat → String) (draft : δ) (rest : List Char) :
    Except Fault α :=
  match record.fields.zipIdx.find? fun entry => entry.1.required && !entry.1.present draft with
  | some (field, index) => Fault.mismatch (missing field index) rest
  | none =>
    match record.build draft with
    | some value => .ok value
    | none => Fault.mismatch ("incomplete " ++ record.name) rest

def members (fields : List (Field δ)) (depth : Nat) :
    Nat → Bool → δ → List Char → Except Fault (δ × List Char)
  | 0, _, _, chars => Fault.behind .eofObject chars
  | fuel + 1, first, draft, chars => do
    let (more, rest) ← anotherKey first chars
    if more then
      let (key, rest) ← readString rest
      match fields.find? fun field => field.name = key with
      | none =>
        let rest ← colon rest
        let rest ← skipValue (readingFuel rest) rest
        members fields depth fuel false draft rest
      | some field =>
        if field.present draft then Fault.mismatch ("duplicate field `" ++ key ++ "`") rest
        else
          let (draft, rest) ← field.read draft depth (← colon rest)
          members fields depth fuel false draft rest
    else .ok (draft, rest)

def positions (depth : Nat) : List (Field δ) → Bool → δ → List Char → Except Fault (δ × List Char)
  | [], _, draft, chars => .ok (draft, chars)
  | field :: fields, first, draft, chars => do
    match skipSpace chars with
    | ']' :: rest => .ok (draft, ']' :: rest)
    | _ =>
      let (_, rest) ← anotherItem first chars
      let (draft, rest) ← field.read draft depth rest
      positions depth fields false draft rest

def arrayEnd (chars : List Char) : Except Fault (List Char) :=
  match skipSpace chars with
  | ']' :: rest => .ok rest
  | ',' :: rest =>
    match skipSpace rest with
    | ']' :: tail => Fault.atNext .trailingComma (']' :: tail)
    | tail => Fault.atNext .trailingCharacters tail
  | [] => Fault.behind .eofList []
  | rest => Fault.atNext .trailingCharacters rest

def elementCount (n : Nat) : String :=
  toString n ++ if n = 1 then " element" else " elements"

def decoder (record : Record δ α) : Decoder α := fun depth chars =>
  match skipSpace chars with
  | '\x7b' :: rest =>
    match depth with
    | 0 => Fault.atNext .recursionLimit ('\x7b' :: rest)
    | depth + 1 => do
      let (draft, rest) ← members record.fields depth (rest.length + 1) true record.draft rest
      let value ← record.finish (fun field _ => "missing field `" ++ field.name ++ "`") draft rest
      .ok (value, rest)
  | '[' :: rest =>
    match depth with
    | 0 => Fault.atNext .recursionLimit ('[' :: rest)
    | depth + 1 => do
      let (draft, rest) ← positions depth record.fields true record.draft rest
      let value ← record.finish
        (fun _ index => "invalid length " ++ toString index ++ ", expected struct " ++ record.name ++
          " with " ++ elementCount record.fields.length) draft rest
      .ok (value, ← arrayEnd rest)
  | rest => unexpected ("struct " ++ record.name) rest

end Record

def field {δ α : Type} (name : String) (required : Bool) (decoder : Decoder α)
    (get : δ → Option α) (set : δ → α → δ) : Field δ :=
  { name, required
    present := fun draft => (get draft).isSome
    read := fun draft depth chars => do
      let (value, rest) ← decoder depth chars
      .ok (set draft value, rest) }

def decode {α : Type} (decoder : Decoder α) (chars : List Char) : Except Fault α := do
  let (value, rest) ← decoder (maxDepth) chars
  textEnd rest
  .ok value

end Dialogue.Json
