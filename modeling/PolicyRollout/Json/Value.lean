import PolicyRollout.Number.Basic
import PolicyRollout.Number.Shortest
/-!
JSON values.  An object keeps its members in the order they were given;
`Entries.insert` keeps members in the byte order of their names, one for each
name, which is how free-form objects are held.
-/
namespace PolicyRollout.Json

/-- A number: a natural number of 64 bits, a negative integer of 64 bits given
by its absolute value, or a binary floating-point number. -/
inductive Number where
  | natural (n : Nat)
  | negative (n : Nat)
  | float (x : Binary64)
deriving DecidableEq, Repr

inductive Value where
  | null
  | bool (b : Bool)
  | number (n : Number)
  | string (s : String)
  | array (items : List Value)
  | object (entries : List (String × Value))
deriving BEq, Repr, Inhabited

/-- The members of an object. -/
abbrev Entries := List (String × Value)

/-- Members with one more, in the order of their names; a member of that name is replaced. -/
def Entries.insert (key : String) (value : Value) : Entries → Entries
  | [] => [(key, value)]
  | (k, v) :: rest =>
    if key < k then (key, value) :: (k, v) :: rest
    else if key = k then (key, value) :: rest
    else (k, v) :: insert key value rest

/-- Members in the order of their names; of two with one name the later is kept. -/
def Entries.sorted (entries : Entries) : Entries :=
  entries.foldl (fun acc e => Entries.insert e.1 e.2 acc) []

namespace Value

/-- A natural number. -/
def nat (n : Nat) : Value :=
  .number (.natural n)

/-- A string, or null. -/
def stringOrNull : Option String → Value
  | some s => .string s
  | none => .null

def strings (texts : List String) : Value :=
  .array (texts.map .string)

def get? (name : String) : Value → Option Value
  | .object entries => (entries.find? (·.1 = name)).map (·.2)
  | _ => none

def string? : Value → Option String
  | .string s => some s
  | _ => none

def int64? : Value → Option Int
  | .number (.natural n) => if n ≤ maxInteger64 then some n else none
  | .number (.negative n) => some (-(n : Int))
  | _ => none

end Value

end PolicyRollout.Json
