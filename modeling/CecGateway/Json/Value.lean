import CecGateway.Number.Binary64

/-!
# JSON values

Integers of 64 bits are kept exactly, all other numbers as binary64. An object keeps the order of
its members; one that is read has them sorted by the bytes of their keys, one for each key.
-/

namespace CecGateway

inductive Json
  | null
  | bool (b : Bool)
  | int (n : Int)
  | real (x : Binary64)
  | str (s : String)
  | arr (items : List Json)
  | obj (members : List (String × Json))
  deriving Repr

namespace Json

/-- Code point order, which is the order of the UTF-8 bytes. -/
def keyLess : List Char → List Char → Bool
  | [], [] => false
  | [], _ :: _ => true
  | _ :: _, [] => false
  | a :: as, b :: bs => a.toNat < b.toNat || (a.toNat == b.toNat && keyLess as bs)

/-- Adds a member at its place, instead of an earlier one with the same key. -/
def insert (key : String) (value : Json) : List (String × Json) → List (String × Json)
  | [] => [(key, value)]
  | (k, v) :: rest =>
    if k = key then (key, value) :: rest
    else if keyLess key.toList k.toList then (key, value) :: (k, v) :: rest
    else (k, v) :: insert key value rest

/-- The object with these members, of equal keys the last one. -/
def ofMembers (members : List (String × Json)) : Json :=
  .obj (members.foldl (fun sorted m => insert m.1 m.2 sorted) [])

def member? (key : String) : Json → Option Json
  | .obj members => members.lookup key
  | _ => none

/-- The value of a field in a record, which is written as an object with the fields as members, or
as an array with the fields in the order of `names`. Unknown members do not matter, but an array
has no more items than fields. -/
def fields? (names : List String) : Json → Option (String → Option Json)
  | .obj members => some fun name => members.lookup name
  | .arr items =>
    if items.length ≤ names.length then some fun name => (names.zip items).lookup name else none
  | _ => none

end Json

end CecGateway
