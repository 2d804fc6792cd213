import PolicyRollout.Document.Record
import PolicyRollout.Text.Lowercase
/-!
Database engines.  Four engines are known by name, in any letter case; any
other name is an engine of its own, kept as written.
-/
namespace PolicyRollout

inductive Engine where
  | mySql
  | postgreSql
  | mongoDb
  | redis
  | other (name : String)
deriving DecidableEq, Repr

namespace Engine

def name : Engine → String
  | .mySql => "mysql"
  | .postgreSql => "postgresql"
  | .mongoDb => "mongodb"
  | .redis => "redis"
  | .other name => name

/-- The engine of a name. -/
def parse (name : String) : Engine :=
  let lower := Text.lowercase name
  if lower = "mysql" then .mySql
  else if lower = "postgresql" then .postgreSql
  else if lower = "mongodb" then .mongoDb
  else if lower = "redis" then .redis
  else .other name

def wellKnownPort : Engine → Option Nat
  | .mySql => some 3306
  | .postgreSql => some 5432
  | .mongoDb => some 27017
  | .redis => some 6379
  | .other _ => none

/-- The port of engines without a well-known one. -/
def fallbackPort : Nat := 3306

/-- The port on which an engine listens when none is given. -/
def defaultPort (engine : Engine) : Nat :=
  engine.wellKnownPort.getD fallbackPort

/-- Whether the engine is one of the four. -/
def isKnown : Engine → Bool
  | .other _ => false
  | _ => true

/-- The port a database listens on: the given one, else that of its engine. -/
def resolvePort (engine : Engine) (given : Option Nat) : Nat :=
  given.getD engine.defaultPort

/-- An engine inside a document: its name. -/
def decoder : Document.Decoder Engine := fun s node => do
  let name ← Document.text s node
  return parse name

end Engine

end PolicyRollout
