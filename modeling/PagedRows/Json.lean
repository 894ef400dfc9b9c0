import PagedRows.Binary

/-!
# JSON values

Integers and floats are told apart, and only finite floats are values.  The
members of an object are kept in the order of their keys, each key once; among
members of one key the last counts.
-/

namespace PagedRows

inductive Json where
  | null
  | bool (value : Bool)
  | integer (value : Int)
  | float (value : Double) (finite : value.isFinite = true)
  | string (text : String)
  | array (items : List Json)
  | object (members : List (String × Json))

namespace Json

/-- Adds a member at its place, instead of an earlier one of the same key. -/
def insertMember (key : String) (value : Json) :
    List (String × Json) → List (String × Json)
  | [] => [(key, value)]
  | (other, held) :: rest =>
      if key < other then (key, value) :: (other, held) :: rest
      else if key = other then (key, value) :: rest
      else (other, held) :: insertMember key value rest

/-- The object with the given members, of which later ones win. -/
def ofMembers (members : List (String × Json)) : Json :=
  .object (members.foldl (fun held (key, value) => insertMember key value held) [])

def ofNat (value : Nat) : Json :=
  .integer value

end Json

end PagedRows
