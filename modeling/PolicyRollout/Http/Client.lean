import PolicyRollout.Deployment.Options
import PolicyRollout.Http.Message
import PolicyRollout.Http.Url
import PolicyRollout.Json.Reader
import PolicyRollout.Platform.Call
/-!
The platform over HTTP.  A client turns calls into requests and responses into
answers.  A response of success must hold what the call asks for; any other
response becomes an error by its status.
-/
namespace PolicyRollout.Http

open Document (Decoder)
open Json (Value)

/-- The connection of one program to the platform. -/
structure Client where
  /-- The URL of the platform, without slashes at its end. -/
  baseUrl : String
  /-- The value of the header that identifies the program. -/
  authorization : String
deriving DecidableEq, Repr

namespace Client

def dropTrailingSlashes (text : String) : String :=
  String.ofList (text.toList.reverse.dropWhile (· = '/')).reverse

def isHeaderChar (c : Char) : Bool :=
  c = '\t' || (0x20 ≤ c.toNat && c.toNat ≠ 0x7F)

/-- The value of a header as it is sent, without blanks at its end. -/
def headerValue (text : String) : String :=
  String.ofList (text.toList.reverse.dropWhile fun c => c = ' ' || c = '\t').reverse

/-- The event recorded before a client is made. -/
def announcement (settings : ServiceSettings) : Event :=
  .usingService settings.baseUrl

/-- A client with given settings; the token must fit into a header. -/
def ofSettings (settings : ServiceSettings) : Except PlatformError Client :=
  if settings.apiToken.toList.all isHeaderChar then
    .ok ⟨dropTrailingSlashes settings.baseUrl, headerValue ("Bearer " ++ settings.apiToken)⟩
  else .error (.configuration "Invalid API token: failed to parse header value")

/-- The URL of the templates, or of something below them, if requests can be sent there. -/
def url? (c : Client) (path : List Char) : Option Url :=
  (Url.parse? (c.baseUrl ++ "/api/v1/templates" ++ String.ofList path)).filter Url.isSendable

/-- A request to a URL.  A user that the URL names goes before the program. -/
def requestTo (c : Client) (method : Method) (url : Url) (body : String) : Request where
  method
  scheme := url.scheme
  host := url.host
  port := url.port.getD (usualPort url.scheme)
  target := url.target
  authorization := (Url.basicCredentials? url.userInfo).getD c.authorization
  contentType := "application/json"
  body

/-- The pairs by which a listing is narrowed. -/
def filterPairs (category : Option String) (tags : List String) : List (String × String) :=
  (category.map fun c => ("category", c)).toList ++ tags.map fun tag => ("tag", tag)

def validationBody (templateId : String) (vars : Variables) : Value :=
  .object [("template_id", .string templateId), ("variables", vars.toJson)]

def instantiationBody (templateId : String) (vars : Variables)
    (targetSwitch : Option String) (dryRun : Bool) : Value :=
  .object ([("template_id", .string templateId), ("variables", vars.toJson),
      ("dry_run", .bool dryRun)] ++
    optionalMember "target_switch" .string targetSwitch)

/-- The request for a call; none if the settings name no URL that can be asked. -/
def request? (c : Client) : Call → Option Request
  | .list category tags => do
    let url ← c.url? []
    return c.requestTo .get (url.addPairs (filterPairs category tags)) ""
  | .validate id vars => do
    let url ← c.url? "/validate".toList
    return c.requestTo .post url (validationBody id vars).text
  | .instantiate id vars switch dryRun => do
    let url ← c.url? "/instantiate".toList
    return c.requestTo .post url (instantiationBody id vars switch dryRun).text

def templateRequest? (c : Client) (id : String) : Option Request := do
  let url ← c.url? ('/' :: encodeSegment id)
  return c.requestTo .get url ""

/-- What a body of success stands for. -/
def decodeBody {α : Type} (decoder : Decoder α) (bytes : List UInt8) : Except PlatformError α :=
  match Json.decode decoder (Text.symbols bytes) with
  | .ok v => .ok v
  | .error c => .error (.decode (c.message .json))

/-- The error a response of failure stands for; `id` is the template that was asked for. -/
def refusal (id : Option String) (r : Response) : PlatformError :=
  if r.status = 401 || r.status = 403 then .authentication r.status r.text
  else match r.status, id with
    | 404, some id => .unknownTemplate id
    | status, _ => .api status r.text

def interpret {α : Type} (decoder : Decoder α) (id : Option String) (r : Response) :
    Except PlatformError α :=
  if r.isSuccess then
    match r.content? with
    | some bytes => decodeBody decoder bytes
    | none => .error (.decode "error decoding response body")
  else .error (refusal id r)

/-- What a request came to; one that could not be written has no answer. -/
def conclude {α : Type} (decoder : Decoder α) (id : Option String) :
    Option Request → Exchange → Except PlatformError α
  | none, _ => .error (.transport "builder error")
  | some _, .answered response => interpret decoder id response
  | some request, .unanswered =>
    .error (.transport ("error sending request for url (" ++ request.url ++ ")"))

/-- An answer and the event recorded with it when it is good. -/
def reply {α : Type} (event : α → Event) (result : Except PlatformError α) : Reply α :=
  ⟨result, match result with
    | .ok v => [event v]
    | .error _ => []⟩

/-- The answer to a call, given what its request came to. -/
def answer (c : Client) (exchange : Exchange) : (call : Call) → Reply call.Result
  | .list category tags =>
    let result := conclude templateListDecoder none (c.request? (.list category tags)) exchange
    reply (fun (templates : List TemplateDescriptor) => .listed templates.length) result
  | .validate id vars =>
    let result := conclude Verdict.decoder (some id) (c.request? (.validate id vars)) exchange
    reply (fun (verdict : Verdict) => .validated id verdict.valid) result
  | .instantiate id vars switch dryRun =>
    let request := c.request? (.instantiate id vars switch dryRun)
    let result := conclude Creation.decoder (some id) request exchange
    reply (fun (creation : Creation) => .instantiated id creation.ruleCount dryRun) result

def template (c : Client) (id : String) (exchange : Exchange) :
    Except PlatformError TemplateDescriptor :=
  conclude TemplateDescriptor.decoder (some id) (c.templateRequest? id) exchange

/-- The platform behind a client, given what the request of each call comes to. -/
def platform (c : Client) (exchanges : (serial : Nat) → Exchange) : Platform :=
  fun _ serial call => c.answer (exchanges serial) call

end Client

end PolicyRollout.Http
