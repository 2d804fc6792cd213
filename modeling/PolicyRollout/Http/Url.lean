import PolicyRollout.Http.Authority
/-!
URLs of the kind that names a host.  Reading is as lenient as browsers are:
blank ends, tabs and line breaks are dropped, backslashes count as slashes,
dot segments are resolved, and characters that may not stand in a path or
query are percent-encoded.  What follows a number sign is not part of the
request and is dropped.
-/
namespace PolicyRollout.Http

structure Url where
  scheme : String
  /-- The name and the password of a user, encoded. -/
  userInfo : List Char
  host : String
  port : Option Nat
  /-- The segments of the path, encoded. -/
  path : List (List Char)
  /-- The query, encoded. -/
  query : Option (List Char)
deriving DecidableEq, Repr

namespace Url

def isControlOrSpace (c : Char) : Bool :=
  c.toNat ≤ 0x20

/-- The characters of a URL that count: ends without controls and spaces, and
no tabs and line breaks anywhere. -/
def clean (text : String) : List Char :=
  let cs := ((text.toList.dropWhile isControlOrSpace).reverse.dropWhile isControlOrSpace).reverse
  cs.filter fun c => !(c = '\t' || c = '\n' || c = '\r')

/-- Whether a character may stand in a part of a URL, given those of its class that may not. -/
def isPlain (except : List Char) (c : Char) : Bool :=
  0x20 < c.toNat && c.toNat < 0x7F && !except.contains c

def isPathSafe : Char → Bool :=
  isPlain ['"', '<', '>', '\x60', '#', '?', '\x7b', '\x7d']

def isQuerySafe : Char → Bool :=
  isPlain ['"', '<', '>', '#', '\x27']

/-- Whether a character separates the segments of a path. -/
def isSlash (c : Char) : Bool :=
  c = '/' || c = '\\'

/-- A segment with encoded dots written out, if it holds nothing but dots. -/
def dots? : List Char → Option Nat
  | [] => some 0
  | '.' :: rest => (dots? rest).map (· + 1)
  | '%' :: '2' :: e :: rest => if e = 'e' || e = 'E' then (dots? rest).map (· + 1) else none
  | _ => none

/-- The segments of a path after `done`, which are held last first: one dot
stands for nothing, and two dots undo the segment before. -/
def resolve : (done : List (List Char)) → List (List Char) → List (List Char)
  | done, [] => done.reverse
  | done, [last] =>
    match dots? last with
    | some 1 => ([] :: done).reverse
    | some 2 => ([] :: done.tail).reverse
    | _ => (percentEncode isPathSafe last :: done).reverse
  | done, segment :: rest =>
    match dots? segment with
    | some 1 => resolve done rest
    | some 2 => resolve done.tail rest
    | _ => resolve (percentEncode isPathSafe segment :: done) rest

def readPath (cs : List Char) : List (List Char) :=
  let cs := match cs with
    | c :: rest => if isSlash c then rest else c :: rest
    | [] => []
  resolve [] (splitEvery isSlash cs)

/-- The scheme a text begins with, in lower case, and the text after its colon. -/
def takeScheme (cs : List Char) : Option (List Char × List Char) :=
  let isPart (c : Char) : Bool := c.isAlphanum || c = '+' || c = '-' || c = '.'
  match cs.takeWhile isPart, cs.dropWhile isPart with
  | c :: scheme, ':' :: rest =>
    if c.isAlpha then some ((c :: scheme).map Char.toLower, rest) else none
  | _, _ => none

def parse? (text : String) : Option Url := do
  let (scheme, rest) ← takeScheme (clean text)
  let (rest, _) := splitFirst '#' rest
  let rest := rest.dropWhile isSlash
  let isEnd (c : Char) : Bool := isSlash c || c = '?'
  let authority := rest.takeWhile fun c => !isEnd c
  let (host, port) ← readAuthority authority
  let (path, query) := splitFirst '?' (rest.dropWhile fun c => !isEnd c)
  return {
    scheme := String.ofList scheme
    userInfo := readUserInfo authority
    host
    port
    path := readPath path
    query := query.map (percentEncode isQuerySafe) }

/-- Whether requests can be sent to a URL. -/
def isSendable (u : Url) : Bool :=
  u.scheme = "http" || u.scheme = "https"

/-- The path, every segment after a slash. -/
def pathText (u : Url) : List Char :=
  u.path.flatMap ('/' :: ·)

/-- What is asked of the host: the path and the query. -/
def target (u : Url) : String :=
  String.ofList (u.pathText ++ match u.query with
    | some q => '?' :: q
    | none => [])

/-- A URL with pairs added to its query; an empty query is dropped. -/
def addPairs (pairs : List (String × String)) (u : Url) : Url :=
  let added := formEncode pairs
  let query := match u.query.getD [], added with
    | [], added => added
    | old, [] => old
    | old, added => old ++ '&' :: added
  { u with query := if query.isEmpty then none else some query }

end Url

end PolicyRollout.Http
