import Dialogue.Toml.Scalar

set_option autoImplicit false

namespace Dialogue.Toml

mutual

def readValue : Nat → Nat → List Char → Option (Node × List Char)
  | 0, _, _ => none
  | fuel + 1, depth, chars =>
    match chars with
    | '"' :: _ | '\'' :: _ => do
      let (text, rest) ← stringValue chars
      some (.string text, rest)
    | '[' :: rest =>
      match depth with
      | 0 => none
      | depth + 1 => do
        let (items, rest) ← readItems fuel depth rest
        some (.array items, rest)
    | '\x7b' :: rest =>
      match depth with
      | 0 => none
      | depth + 1 =>
        match skipBlank rest with
        | '\x7d' :: rest => some (.table .braced [], rest)
        | rest => do
          let (members, rest) ← readMembers fuel depth [] rest
          some (.table .braced members, rest)
    | _ => bareValue chars

def readItems : Nat → Nat → List Char → Option (List Node × List Char)
  | 0, _, _ => none
  | fuel + 1, depth, chars => do
    let rest ← skipTrivia (chars.length + 1) chars
    match rest with
    | ']' :: rest => some ([], rest)
    | _ =>
      let (item, rest) ← readValue fuel depth rest
      let rest ← skipTrivia (rest.length + 1) rest
      match rest with
      | ']' :: rest => some ([item], rest)
      | ',' :: rest => do
        let (items, rest) ← readItems fuel depth rest
        some (item :: items, rest)
      | _ => none

def readMembers : Nat → Nat → Members → List Char → Option (Members × List Char)
  | 0, _, _, _ => none
  | fuel + 1, depth, members, chars => do
    let (name, rest) ← key chars
    let rest ← expect '=' rest
    let (node, rest) ← readValue fuel depth (skipBlank rest)
    let (path, last) ← splitKey name
    let members ← members.assign last node path
    match skipBlank rest with
    | '\x7d' :: rest => some (members, rest)
    | ',' :: rest => readMembers fuel depth members rest
    | _ => none

end

def readAssignment (document : Document) (chars : List Char) : Option (Document × List Char) := do
  let (name, rest) ← key chars
  let rest ← expect '=' rest
  let (node, rest) ← readValue (2 * rest.length + 2) (nestingLimit - 1) (skipBlank rest)
  some (← document.assign name node, ← lineEnd rest)

def readHeader (document : Document) (chars : List Char) : Option (Document × List Char) :=
  match chars with
  | '[' :: '[' :: rest => do
    let (name, rest) ← key rest
    let rest ← expect ']' (← expect ']' rest)
    some (← document.openItem name, ← lineEnd rest)
  | '[' :: rest => do
    let (name, rest) ← key rest
    some (← document.openTable name, ← lineEnd (← expect ']' rest))
  | _ => none

def readLines : Nat → Document → List Char → Option Document
  | 0, _, _ => none
  | fuel + 1, document, chars =>
    match skipBlank chars with
    | [] => some document
    | '[' :: rest => do
      let (document, rest) ← readHeader document ('[' :: rest)
      readLines fuel document rest
    | c :: rest =>
      if c = '#' ∨ c = '\n' ∨ c = '\r' then do readLines fuel document (← lineEnd (c :: rest))
      else do
        let (document, rest) ← readAssignment document (c :: rest)
        readLines fuel document rest

def parse? (text : String) : Option Members :=
  let chars := match text.toList with
    | '\ufeff' :: rest => rest
    | chars => chars
  (readLines (chars.length + 1) {} chars).map (·.members)

end Dialogue.Toml
