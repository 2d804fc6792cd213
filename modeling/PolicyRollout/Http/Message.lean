import PolicyRollout.Text.Basic
import PolicyRollout.Text.Utf8
/-!
Requests to the platform and what becomes of them.  Connections, whether
straight or by way of a proxy, their encryption, and the redirections that
responses ask for are the business of the layer below: the response to a
request is the one that it ends with.
-/
namespace PolicyRollout.Http

/-- What a request does. -/
inductive Method where
  | get
  | post
deriving DecidableEq, Repr

def Method.name : Method → String
  | .get => "GET"
  | .post => "POST"

/-- The port at which a host is asked unless a URL names another one. -/
def usualPort (scheme : String) : Nat :=
  if scheme = "https" then 443 else 80

structure Request where
  method : Method
  scheme : String
  host : String
  port : Nat
  /-- The path and the query. -/
  target : String
  authorization : String
  contentType : String
  body : String
deriving DecidableEq, Repr

/-- The host and the port of a request, unless the port is the usual one. -/
def Request.authority (r : Request) : String :=
  if r.port = usualPort r.scheme then r.host else r.host ++ ":" ++ Text.decimalText r.port

def Request.url (r : Request) : String :=
  r.scheme ++ "://" ++ r.authority ++ r.target

structure Response where
  status : Nat
  body : List UInt8
  /-- Whether the whole body has come. -/
  complete : Bool
deriving DecidableEq, Repr

/-- What becomes of a request: a response, or none. -/
inductive Exchange where
  | answered (response : Response)
  | unanswered
deriving DecidableEq, Repr

namespace Response

def ofText (status : Nat) (text : String) : Response :=
  ⟨status, Text.encode text, true⟩

def isSuccess (r : Response) : Bool :=
  200 ≤ r.status && r.status < 300

/-- Whether a response of this status never has a body. -/
def isBodiless (r : Response) : Bool :=
  r.status = 204 || r.status = 304

/-- The body, if the whole of it has come. -/
def content? (r : Response) : Option (List UInt8) :=
  if r.isBodiless then some [] else if r.complete then some r.body else none

/-- The body as text; empty if a part of it is missing. -/
def text (r : Response) : String :=
  match r.content? with
  | some bytes => Text.decodeLenient bytes
  | none => ""

end Response

end PolicyRollout.Http
