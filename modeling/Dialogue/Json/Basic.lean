set_option autoImplicit false

namespace Dialogue

inductive Number where
  | int (value : Int)
  | float (value : Float)

inductive Json where
  | null
  | bool (value : Bool)
  | number (value : Number)
  | string (value : String)
  | array (items : List Json)
  | object (members : List (String × Json))

instance : Inhabited Json := ⟨.null⟩

namespace Json

-- Puts a member into an object in key order, in place of one with the same key.
def insertMember (key : String) (value : Json) : List (String × Json) → List (String × Json)
  | [] => [(key, value)]
  | (k, v) :: rest =>
    if key = k then (key, value) :: rest
    else if key < k then (key, value) :: (k, v) :: rest
    else (k, v) :: insertMember key value rest

def ofMembers (members : List (String × Json)) : Json :=
  .object (members.foldl (fun sorted entry => insertMember entry.1 entry.2 sorted) [])

def empty : Json := .object []

def nat (n : Nat) : Json := .number (.int n)

def ofStrings (texts : List String) : Json := .array (texts.map .string)

def get? (key : String) : Json → Option Json
  | .object members => members.lookup key
  | _ => none

end Json

end Dialogue
