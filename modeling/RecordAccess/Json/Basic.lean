import RecordAccess.Number.Binary64
/-!
# JSON Values

The values of a JSON document. An object keeps its members in the order given; the *canonical* form
of a value, which is what a store of JSON values holds, has the members of every object sorted by
key with the last of equal keys kept.
-/

namespace RecordAccess

/-- A JSON value. Integers and floating-point numbers are kept apart. -/
inductive Json where
  | null
  | bool (value : Bool)
  | int (value : Int)
  | float (value : Binary64)
  | string (value : String)
  | array (items : List Json)
  | object (members : List (String × Json))
  deriving Inhabited

namespace Json

/-- The number as a JSON value; numbers that are not finite have none and become null. -/
def ofBinary64 (x : Binary64) : Json := if x.isFinite then float x else null

/-- The value, or null when absent. -/
def ofOption {α : Type} (encode : α → Json) : Option α → Json
  | some a => encode a
  | none => null

/-- Put a member in its place among sorted members, over one with the same key. -/
def insertMember (key : String) (value : Json) : List (String × Json) → List (String × Json)
  | [] => [(key, value)]
  | (k, v) :: rest =>
    if key < k then (key, value) :: (k, v) :: rest
    else if key = k then (key, value) :: rest
    else (k, v) :: insertMember key value rest

/-- Members sorted by key; of equal keys the last counts. -/
def sortMembers (members : List (String × Json)) : List (String × Json) :=
  members.foldl (fun sorted (key, value) => insertMember key value sorted) []

mutual

/-- The canonical form of a value. -/
def canonical : Json → Json
  | float x => ofBinary64 x
  | array items => array (canonicalItems items)
  | object members => object (sortMembers (canonicalMembers members))
  | value => value

/-- The canonical forms of the items of an array. -/
def canonicalItems : List Json → List Json
  | [] => []
  | item :: rest => canonical item :: canonicalItems rest

/-- The members of an object with canonical values. -/
def canonicalMembers : List (String × Json) → List (String × Json)
  | [] => []
  | (key, value) :: rest => (key, canonical value) :: canonicalMembers rest

end

/-- The value of an object's first member of that key. -/
def member? (key : String) : Json → Option Json
  | object members => (members.find? fun m => m.1 == key).map Prod.snd
  | _ => none

end Json
end RecordAccess
