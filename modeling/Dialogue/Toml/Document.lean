set_option autoImplicit false

namespace Dialogue.Toml

inductive TableForm where
  | header
  -- Named on the way to a longer header.
  | implied
  -- Named on the way to a dotted key.
  | dotted
  -- Written between braces, and closed.
  | braced
deriving DecidableEq

inductive Node where
  | string (value : String)
  | integer (value : Int)
  | boolean (value : Bool)
  | float
  | moment
  | array (items : List Node)
  | table (form : TableForm) (members : List (String × Node))
  -- The members of each table that headers in double brackets opened.
  | tables (items : List (List (String × Node)))

abbrev Members := List (String × Node)

namespace Members

def set (key : String) (node : Node) : Members → Members
  | [] => [(key, node)]
  | (k, n) :: rest => if k = key then (key, node) :: rest else (k, n) :: set key node rest

def changeLast (change : Members → Option Members) : List Members → Option (List Members)
  | [] => none
  | [last] => do some [← change last]
  | item :: rest => do some (item :: (← changeLast change rest))

-- Puts a value under a dotted key. Tables on the way must not have been opened by a header, and
-- the last of them must come from a dotted key.
def assign (key : String) (node : Node) : List String → Members → Option Members
  | [], members => if (members.lookup key).isSome then none else some (members ++ [(key, node)])
  | step :: path, members =>
    match members.lookup step with
    | none => do some (members ++ [(step, .table .dotted (← assign key node path []))])
    | some (.table form inner) =>
      if form = .dotted ∨ (form = .implied ∧ path ≠ []) then do
        some (members.set step (.table form (← assign key node path inner)))
      else none
    | some (.tables items) =>
      if path = [] then none
      else do some (members.set step (.tables (← changeLast (assign key node path) items)))
    | some _ => none

def descend (change : Members → Option Members) : List String → Members → Option Members
  | [], members => change members
  | step :: path, members =>
    match members.lookup step with
    | none => do some (members ++ [(step, .table .implied (← descend change path []))])
    | some (.table form inner) =>
      if form = .braced then none
      else do some (members.set step (.table form (← descend change path inner)))
    | some (.tables items) => do
      some (members.set step (.tables (← changeLast (descend change path) items)))
    | some _ => none

def openTable (key : String) (members : Members) : Option Members :=
  match members.lookup key with
  | none => some (members ++ [(key, .table .header [])])
  | some (.table .implied inner) => some (members.set key (.table .header inner))
  | some _ => none

def openItem (key : String) (members : Members) : Option Members :=
  match members.lookup key with
  | none => some (members ++ [(key, .tables [[]])])
  | some (.tables items) => some (members.set key (.tables (items ++ [[]])))
  | some _ => none

end Members

def splitKey (key : List String) : Option (List String × String) :=
  match key.getLast? with
  | some last => some (key.dropLast, last)
  | none => none

structure Document where
  members : Members := []
  current : List String := []

namespace Document

def assign (document : Document) (key : List String) (node : Node) : Option Document := do
  let (path, last) ← splitKey key
  let members ← Members.descend (Members.assign last node path) document.current document.members
  some { document with members }

def openTable (document : Document) (key : List String) : Option Document := do
  let (path, last) ← splitKey key
  some ⟨← Members.descend (Members.openTable last) path document.members, key⟩

def openItem (document : Document) (key : List String) : Option Document := do
  let (path, last) ← splitKey key
  some ⟨← Members.descend (Members.openItem last) path document.members, key⟩

end Document

end Dialogue.Toml
