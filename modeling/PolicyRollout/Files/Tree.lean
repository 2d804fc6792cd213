/-!
Reading files, and trees of files held in memory.  A path is names separated by
slashes, of which empty names and single dots count for nothing.
-/
namespace PolicyRollout.Files

/-- The names of a path after `name`, which is held last first. -/
def splitPath : (name : List Char) → List Char → List (List Char)
  | name, [] => [name.reverse]
  | name, c :: rest =>
    if c = '/' then name.reverse :: splitPath [] rest else splitPath (c :: name) rest

/-- The names of a path that count. -/
def steps (path : String) : List String :=
  ((splitPath [] path.toList).filter fun name => name ≠ [] && name ≠ ['.']).map String.ofList

def fileName? (path : String) : Option String :=
  (steps path).getLast?.filter (· ≠ "..")

/-- The part of a file name after its last point; a point at the very
beginning does not count. -/
def extension? (path : String) : Option String := do
  let name ← fileName? path
  let backwards := name.toList.reverse
  let after := backwards.takeWhile (· ≠ '.')
  match backwards.drop after.length with
  | _ :: _ :: _ => some (String.ofList after.reverse)
  | _ => none

/-- Why a file cannot be read as text. -/
inductive ReadFault where
  | missing
  | noDirectory
  | isDirectory
  | notText
  | other (message : String)
deriving DecidableEq, Repr

def ReadFault.message : ReadFault → String
  | .missing => "No such file or directory (os error 2)"
  | .noDirectory => "Not a directory (os error 20)"
  | .isDirectory => "Is a directory (os error 21)"
  | .notText => "stream did not contain valid UTF-8"
  | .other message => message

/-- A tree of files: their contents by the names that lead to them. -/
structure Tree where
  files : List (List String × List UInt8)

namespace Tree

def ofFiles (files : List (String × List UInt8)) : Tree :=
  ⟨files.map fun (path, content) => (steps path, content)⟩

def content? (t : Tree) (names : List String) : Option (List UInt8) :=
  (t.files.find? (·.1 = names)).map (·.2)

/-- Whether these names lead to a directory. -/
def hasDirectory (t : Tree) (names : List String) : Bool :=
  names.isEmpty || t.files.any fun (file, _) =>
    names.length < file.length && names.isPrefixOf file

/-- What is wrong on the way from a directory along names, or where it ends;
`above` holds the names that lead to the directory, last first. -/
def follow (t : Tree) : (above : List String) → List String → Except ReadFault (List String)
  | above, [] => .ok above.reverse
  | above, name :: rest =>
    if !t.hasDirectory above.reverse then
      .error (if (t.content? above.reverse).isSome then .noDirectory else .missing)
    else if name = ".." then
      match above with
      | [] => .error .missing
      | _ :: above => follow t above rest
    else follow t (name :: above) rest

/-- Whether a path can only name a directory. -/
def endsInSlash (path : String) : Bool :=
  match path.toList.reverse with
  | '/' :: _ | '.' :: '/' :: _ => true
  | _ => false

/-- The bytes of the file a path leads to. -/
def read (t : Tree) (path : String) : Except ReadFault (List UInt8) :=
  if path.isEmpty || path.toList.head? = some '/' then .error .missing
  else match t.follow [] (steps path) with
    | .error fault => .error fault
    | .ok names =>
      if t.hasDirectory names then .error .isDirectory
      else match t.content? names with
        | none => .error .missing
        | some bytes => if endsInSlash path then .error .noDirectory else .ok bytes

end Tree

end PolicyRollout.Files
