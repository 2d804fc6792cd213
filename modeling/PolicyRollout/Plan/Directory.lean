import PolicyRollout.Topology.Basic
/-!
The directory of a tier: the address of each of its services by name.  Of two
services with one name the later is listed.  Names that are not listed are
dropped from dependencies.
-/
namespace PolicyRollout

/-- Addresses by name, each name once. -/
structure Directory where
  entries : List (String × String)
deriving DecidableEq, Repr

namespace Directory

/-- No service at all. -/
def empty : Directory := ⟨[]⟩

def setEntry (name ip : String) : List (String × String) → List (String × String)
  | [] => [(name, ip)]
  | (n, i) :: rest => if n = name then (n, ip) :: rest else (n, i) :: setEntry name ip rest

def insert (d : Directory) (name ip : String) : Directory :=
  ⟨setEntry name ip d.entries⟩

def ofServices (services : List Service) : Directory :=
  services.foldl (fun d s => d.insert s.name s.ip) empty

def lookup (d : Directory) (name : String) : Option String :=
  (d.entries.find? (·.1 = name)).map (·.2)

def size (d : Directory) : Nat :=
  d.entries.length

/-- The addresses of names, in their order; unlisted names are dropped. -/
def resolve (d : Directory) (names : List String) : List String :=
  names.filterMap d.lookup

/-- The names that are not listed, in their order. -/
def unlisted (d : Directory) (names : List String) : List String :=
  names.filter fun name => (d.lookup name).isNone

end Directory

end PolicyRollout
