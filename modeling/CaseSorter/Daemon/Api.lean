import CaseSorter.Daemon.History
import CaseSorter.Lib.Json

/-! The private HTTP API of the daemon: which credential a request presents, what its body
and headers carry and which call of the operation domain it becomes. The domain decides
whether the call is admitted. -/

namespace CaseSorter.Daemon.Api

/-- A value of `json.loads`; the keys of an object are distinct. A float keeps its text. -/
abbrev Json := CaseSorter.Json.Value String String

abbrev Fields := List (String × Json)

abbrev Query := List (String × List String)

/-- What `json.loads` raises: `ValueError`, or another exception (an object nested too deep). -/
inductive LoadsError
  | valueError
  | other
  deriving DecidableEq, Repr

/-- The parsers and printers of the standard library that a request passes through.
`urlsplit` gives the path and the parsed query, or raises. -/
structure Library where
  loads : List UInt8 → Except LoadsError Json
  str : Json → String
  urlsplit : String → Option (String × Query)

def strip (text : List Char) : List Char :=
  ((text.dropWhile isSpace).reverse.dropWhile isSpace).reverse

/-- `int` of a text: blanks around it, a sign, digits with single underscores between
them, and no more than 4300 of them. -/
def intOf (text : String) : Option Int :=
  let body := strip text.toList
  let negative := body.head? = some '-'
  let digits := if negative ∨ body.head? = some '+' then body.tail else body
  let plain := digits.filter Char.isDigit
  if (digits.splitOn '_').all (fun group => group ≠ [] && group.all Char.isDigit) &&
      plain.length ≤ 4300 then
    some (if negative then -(Nat.ofDigitChars 10 plain 0 : Int) else Nat.ofDigitChars 10 plain 0)
  else none

/-- What a handler raises: an error of this API, one of the domain's, or any other. -/
inductive ApiRaised
  | api (code message : String)
  | domain (error : Raised)
  | other
  deriving DecidableEq, Repr

def validationFailed {α : Type} (message : String) : Except ApiRaised α :=
  .error (.api "VALIDATION_FAILED" message)

def forbidden {α : Type} (message : String) : Except ApiRaised α :=
  .error (.api "FORBIDDEN" message)

def notFound {α : Type} (message : String) : Except ApiRaised α :=
  .error (.api "RESOURCE_NOT_FOUND" message)

inductive ServiceIdentity
  | bff
  | machine
  deriving DecidableEq, Repr

/-- The two credentials the server is built with. -/
structure ApiServer where
  token : String
  machineToken : Option String
  token_given : token ≠ ""
  machineToken_given : machineToken ≠ some ""

def unauthenticated {α : Type} : Except ApiRaised α :=
  .error (.api "UNAUTHENTICATED" "a valid local service credential is required")

def ApiServer.authenticate (api : ApiServer) (header : Option String) :
    Except ApiRaised ServiceIdentity :=
  let text := (header.getD "").toList
  let scheme := text.takeWhile (· ≠ ' ')
  let presented := String.ofList (strip (text.drop (scheme.length + 1)))
  if (String.ofList scheme).toLower ≠ "bearer" then unauthenticated
  else if presented = api.token then .ok .bff
  else if api.machineToken = some presented then .ok .machine
  else unauthenticated

def apiVersion : String := "v1"

def get (fields : Fields) (name : String) : Option Json :=
  (fields.find? fun entry => entry.1 = name).map Prod.snd

def field (fields : Fields) (name : String) : Json := (get fields name).getD .null

def sameKeys (fields : Fields) (allowed : List String) : Bool :=
  fields.all (fun entry => allowed.contains entry.1) &&
    allowed.all fun name => fields.any fun entry => entry.1 = name

def jsonObject (lib : Library) (body : List UInt8) : Except ApiRaised Fields :=
  if body = [] then validationFailed "a JSON request body is required"
  else
    match lib.loads body with
    | .error .valueError => validationFailed "the request body is not valid JSON"
    | .error .other => .error .other
    | .ok (.dict fields) =>
      match get fields "api_version" with
      | some (.str version) =>
        if version = apiVersion then .ok fields else validationFailed "api_version must be 'v1'"
      | _ => validationFailed "api_version must be 'v1'"
    | .ok _ => validationFailed "the request body must be a JSON object"

def machineRole : String := "machine"
def commandingRoles : List String := ["operator", "administrator", machineRole]
def apiRoles : List String := "viewer" :: commandingRoles

/-- A role that no set can hold raises `TypeError` where it is looked up. -/
def commandingActor (lib : Library) (payload : Fields) (identity : ServiceIdentity)
    (command : String) : Except ApiRaised Actor :=
  match get payload "actor" with
  | some (.dict supplied) =>
    if !sameKeys supplied ["user_id", "role"] then
      validationFailed "actor must carry exactly a user_id and a role"
    else
      match field supplied "role" with
      | .str role =>
        if role ∉ apiRoles then validationFailed "actor role is not a role of this API"
        else if decide (role = machineRole) ≠ decide (identity = .machine) then
          forbidden "the machine role requires the machine service identity"
        else if role = machineRole ∧ command ≠ OperationAction.sort.value then
          forbidden "the machine role may only submit sort"
        else if role ∉ commandingRoles then
          forbidden s!"the {role} role may not command the machine"
        else
          match Actor.new (lib.str (field supplied "user_id")) role with
          | .ok actor => .ok actor
          | .error e => validationFailed e.message
      | .list _ | .dict _ => .error .other
      | _ => validationFailed "actor role is not a role of this API"
  | _ => validationFailed "actor must carry exactly a user_id and a role"

def commandName (path : String) (action : Option OperationAction) : String :=
  match action with
  | some action => action.value
  | none =>
    if path = "/v1/session/connect" then "connect"
    else if path = "/v1/session/recover" then "recover"
    else "stop"

def requireExactFields (payload : Fields) (allowed : List String) (name : String) :
    Except ApiRaised Unit :=
  if sameKeys payload allowed then .ok ()
  else validationFailed s!"a {name} request carries exactly {sortedNames allowed}"

def maxApiSlot : Int := 63

def apiSlot : Json → Except ApiRaised Int
  | .int value =>
    if 0 ≤ value ∧ value ≤ maxApiSlot then .ok value
    else validationFailed s!"slot must be between 0 and {maxApiSlot}"
  | _ => validationFailed "slot must be an integer"

def commandBody (action : OperationAction) (payload : Fields) : Except ApiRaised RequestBody := do
  match action with
  | .home =>
    requireExactFields payload ["api_version", "actor", "target"] "home"
    match field payload "target" with
    | .str target => return [("axis", .text target)]
    | _ => validationFailed "home target must be a string"
  | .sort =>
    requireExactFields payload ["api_version", "actor", "slot"] "sort"
    let slot ← apiSlot (field payload "slot")
    return [("slot", .int slot)]
  | _ =>
    requireExactFields payload ["api_version", "actor"] "feed"
    return [("slot", .int 0)]

def configurationValue (name : String) : Json → Except ApiRaised Int
  | .int value => .ok value
  | _ => validationFailed s!"{name} must be an integer"

abbrev Headers := List (String × String)

/-- `Message.get`: the first header of the name. -/
def messageGet (headers : Headers) (name : String) : Option String :=
  (headers.find? fun entry => entry.1.toLower = name).map Prod.snd

def header (headers : Headers) (name : String) : String :=
  (((headers.filter fun entry => entry.1.toLower = name).getLast?).map Prod.snd).getD ""

def keyCharacter (c : Char) : Bool := c.isAlphanum || "._~-".toList.contains c

def idempotencyKey (headers : Headers) : Except ApiRaised String :=
  let key := header headers "idempotency-key"
  if 16 ≤ key.length ∧ key.length ≤ 128 ∧ key.toList.all keyCharacter then .ok key
  else validationFailed "Idempotency-Key is missing or malformed"

def isExactGeneration (text : List Char) : Bool :=
  text = ['0'] || (text ≠ [] && text.head? ≠ some '0' && text.all Char.isDigit)

def exactGeneration (headers : Headers) : Except ApiRaised Nat :=
  let supplied := header headers "if-match-generation"
  if isExactGeneration supplied.toList then
    match intOf supplied with
    | some generation => .ok generation.toNat
    | none => .error .other
  else validationFailed "If-Match-Generation must be the exact observed generation"

def stopGeneration (headers : Headers) : Except ApiRaised (Option Nat) :=
  if header headers "if-match-generation" = "*" then .ok none
  else (exactGeneration headers).map some

def maxContractDeadlineMs : Int := 120000

def deadlineMs (headers : Headers) : Except ApiRaised Int :=
  match intOf (header headers "x-deadline-ms") with
  | none => .error (.api "DEADLINE_INVALID" "X-Deadline-Ms is missing or not an integer")
  | some deadline =>
    if 1 ≤ deadline ∧ deadline ≤ maxContractDeadlineMs then .ok deadline
    else .error (.api "DEADLINE_INVALID"
      s!"X-Deadline-Ms must be between 1 and {maxContractDeadlineMs}")

/-- The one call of the operation domain that a request becomes. -/
structure DomainCall where
  request : Request
  actor : Actor
  idempotencyKey : String
  deadlineMs : Int
  deriving DecidableEq, Repr

def commandActions : List (String × OperationAction) :=
  [("/v1/operations/home", .home), ("/v1/operations/sort", .sort), ("/v1/operations/feed", .feed)]

def commandAction (path : String) : Option OperationAction :=
  (commandActions.find? fun entry => entry.1 = path).map Prod.snd

def sessionPaths : List String := ["/v1/session/connect", "/v1/session/recover"]

def isTrue : Json → Bool
  | .bool true => true
  | _ => false

def sessionCommand (path : String) (payload : Fields) (generation : Nat) :
    Except ApiRaised Request := do
  if path = "/v1/session/connect" then
    requireExactFields payload ["api_version", "actor"] "connect"
    return .connect generation
  requireExactFields payload ["api_version", "actor", "confirm_uncertain_recovery"] "recover"
  if !isTrue (field payload "confirm_uncertain_recovery") then
    validationFailed "recovery requires confirm_uncertain_recovery to be true"
  else return .recover generation

def command (lib : Library) (path : String) (headers : Headers) (body : List UInt8)
    (identity : ServiceIdentity) : Except ApiRaised DomainCall := do
  let action := commandAction path
  if action = none ∧ path ∉ sessionPaths ∧ path ≠ "/v1/machine/stop" then
    notFound s!"POST {path} is not a resource of this API"
  else
    let payload ← jsonObject lib body
    let actor ← commandingActor lib payload identity (commandName path action)
    let key ← idempotencyKey headers
    let deadline ← deadlineMs headers
    if path ∈ sessionPaths then
      let generation ← exactGeneration headers
      let request ← sessionCommand path payload generation
      return ⟨request, actor, key, deadline⟩
    else
      match action with
      | none =>
        requireExactFields payload ["api_version", "actor"] "stop"
        let generation ← stopGeneration headers
        return ⟨.stop generation, actor, key, deadline⟩
      | some action =>
        let values ← commandBody action payload
        let generation ← exactGeneration headers
        return ⟨.submit action values generation, actor, key, deadline⟩

def configure (lib : Library) (headers : Headers) (body : List UInt8)
    (identity : ServiceIdentity) : Except ApiRaised DomainCall := do
  let payload ← jsonObject lib body
  let actor ← commandingActor lib payload identity "configure"
  requireExactFields payload ["api_version", "actor", "changes"] "configuration"
  match field payload "changes" with
  | .dict (first :: rest) =>
    let changes ← (first :: rest).mapM fun entry => do
      let value ← configurationValue entry.1 entry.2
      return (entry.1, value)
    let key ← idempotencyKey headers
    let generation ← exactGeneration headers
    let deadline ← deadlineMs headers
    return ⟨.configure changes generation, actor, key, deadline⟩
  | _ => validationFailed "changes must be a non-empty object"

inductive Resource
  | liveness
  | system
  | readiness
  | snapshot
  | events (after : Option Int)
  | configuration
  | operations (query : Query)
  | operation (operationId : String)

inductive Routed
  | call (c : DomainCall)
  | read (resource : Resource)

def operationPath (path : String) : Option String :=
  let lead := "/v1/operations/".toList
  let operationId := path.toList.drop lead.length
  if lead.isPrefixOf path.toList && operationId.length = 36 &&
      operationId.all fun c => c.isDigit || "abcdefABCDEF-".toList.contains c then
    some (String.ofList operationId)
  else none

def lastEventId (headers : Headers) : Except ApiRaised (Option Int) :=
  let supplied := strip (header headers "last-event-id").toList
  if supplied = [] then .ok none
  else if isExactGeneration supplied then
    match intOf (String.ofList supplied) with
    | some after => .ok (some after)
    | none => .error .other
  else validationFailed "Last-Event-ID must be a daemon event id"

def resource (method path : String) (query : Query) (headers : Headers) :
    Except ApiRaised Resource :=
  if method ≠ "GET" ∧ method ≠ "HEAD" then notFound s!"{method} {path} is not available"
  else if path = "/v1/health/live" then .ok .liveness
  else if path = "/v1/system" then .ok .system
  else if path = "/v1/health/ready" then .ok .readiness
  else if path = "/v1/snapshot" then .ok .snapshot
  else if path = "/v1/events" then (lastEventId headers).map .events
  else if path = "/v1/configuration" then .ok .configuration
  else if path = "/v1/operations" then .ok (.operations query)
  else
    match operationPath path with
    | some operationId => .ok (.operation operationId)
    | none => notFound s!"{path} is not a resource of this API"

def route (lib : Library) (method path : String) (query : Query) (identity : ServiceIdentity)
    (headers : Headers) (body : List UInt8) : Except ApiRaised Routed :=
  if method = "POST" then (command lib path headers body identity).map .call
  else if method = "PATCH" ∧ path = "/v1/configuration" then
    (configure lib headers body identity).map .call
  else (resource method path query headers).map .read

/-- A request as it comes over the socket: `stream` is what can be read after the headers. -/
structure HttpRequest where
  method : String
  target : String
  headers : Headers
  stream : List UInt8
  deriving DecidableEq, Repr

def maxBodyBytes : Int := 64 * 1024

def readBody (http : HttpRequest) : Except ApiRaised (List UInt8) :=
  match messageGet http.headers "content-length" with
  | none => .ok []
  | some declared =>
    match intOf declared with
    | none => validationFailed "Content-Length must be an integer"
    | some length =>
      if maxBodyBytes < length then
        validationFailed "the request body exceeds the daemon limit"
      else .ok (if 0 ≤ length then http.stream.take length.toNat else http.stream)

def ApiServer.dispatch (api : ApiServer) (lib : Library) (http : HttpRequest) :
    Except ApiRaised Routed := do
  let identity ← api.authenticate (messageGet http.headers "authorization")
  let body ← readBody http
  match lib.urlsplit http.target with
  | none => .error .other
  | some (path, query) => route lib http.method path query identity http.headers body

end CaseSorter.Daemon.Api
