import DeviceScript.Calling.Method
import DeviceScript.Http.Headers

/-!
# Requests to web pages

A request opens a client, sends what it was given and closes the client. What is not given comes
from the defaults, which last from one request to the next.
-/

namespace DeviceScript.Http

/-- What requests use unless they are told otherwise. -/
structure Defaults where
  proxy : Value
  timeout : Value
  deriving Inhabited

def Defaults.initial : Defaults := ⟨.none, .int 60⟩

abbrev Asking := ActOn Defaults

def response : Value := .text "response"

def named (name : String) (default : Value) : Parameter := ⟨name, .keywordOnly, none, some default⟩

/-- What a request carries apart from its address. -/
inductive Load where
  | light
  | full

def Load.names : Load → List String
  | .light => ["params", "headers", "cookies"]
  | .full => ["content", "data", "files", "json", "params", "headers", "cookies"]

def Load.parameters (load : Load) : List Parameter :=
  load.names.map (fun name => named name .none) ++
    [named "follow_redirects" (.bool true), named "timeout" .none, named "verify" (.bool true),
      named "http2" (.bool false), named "proxy" .none, ⟨"kwargs", .namedRest, none, none⟩]

abbrev Given := List (String × Value)

def Given.value (given : Given) (name : String) : Value := (given.lookup name).getD .none

/-- Further named values, which go to the client. -/
def Given.further (given : Given) : Given :=
  match given.value "kwargs" with
  | .dict entries => entries.map fun e =>
    match e.1 with
    | .text name => (name, e.2)
    | _ => ("", e.2)
  | _ => []

def clientParts (given : Given) : Asking Given := do
  let proxy := given.value "proxy"
  let defaults ← get
  return [("verify", given.value "verify"), ("http2", given.value "http2"),
    ("proxy", if proxy.truthy then proxy else defaults.proxy)] ++ given.further

def pageParts (load : Load) (given : Given) : Asking Given := do
  let headers ← ActOn.ofAct (withAgent (given.value "headers"))
  let defaults ← get
  let timeout := match given.value "timeout" with
    | .none => defaults.timeout
    | value => value
  let loaded := load.names.map fun name =>
    (name, if name = "headers" then headers else given.value name)
  return loaded ++ [("follow_redirects", given.value "follow_redirects"), ("timeout", timeout)]

def tell (channel : Channel) (verb : String) (args : List Value) (given : Given) :
    Asking Unit :=
  ActOn.ofAct (Act.request channel verb args given)

/-- Opens a client, does something and closes the client, whatever has happened. -/
def withClient (channel : Channel) (parts : Given) (act : Asking Value) : Asking Value := do
  tell channel "" [] parts
  try
    let result ← act
    tell channel ".close" [] []
    return result
  catch e =>
    tell channel ".close" [] []
    throw e

def method (name : String) (positional : List String) (load : Load)
    (action : List Value → Given → Asking Value) : String × Method Defaults :=
  let parameters := positional.map (Parameter.required · none) ++ load.parameters
  (name, ⟨⟨"Requests.", name, true, parameters, none⟩, fun vs =>
    action (vs.take positional.length)
      ((load.parameters.map (·.name)).zip (vs.drop positional.length))⟩)

def simple (name : String) (positional : List String) (load : Load) : String × Method Defaults :=
  method name positional load fun args given => do
    withClient .client (← clientParts given) do
      tell .client ("." ++ name) args (← pageParts load given)
      return response

def stream : String × Method Defaults :=
  method "stream" ["method", "url"] .full fun args given => do
    withClient .asyncClient (← clientParts given) do
      tell .asyncClient ".stream" args (← pageParts .full given)
      tell .asyncClient ".stream.close" [] []
      return response

/-- A client for several requests, of which `inside` is one. -/
def session (inside : Asking Unit) : String × Method Defaults :=
  let parameters : List Parameter := [.optional "verify" none (.bool true),
    .optional "http2" none (.bool false), .optional "proxy" none .none,
    .optional "follow_redirects" none (.bool true), ⟨"kwargs", .namedRest, none, none⟩]
  ("client_session", ⟨⟨"Requests.", "client_session", true, parameters, none⟩, fun vs => do
    let given : Given := (parameters.map (·.name)).zip vs
    let parts := (← clientParts given) ++ [("follow_redirects", given.value "follow_redirects")]
    withClient .asyncClient parts do
      inside
      return .text "AsyncClient"⟩)

def setting (name p : String) (change : Value → Defaults → Defaults) :
    String × Method Defaults :=
  (name, ⟨⟨"Requests.", name, false, [.required p none], none⟩, fun vs => do
    modify (change (vs.headD .none))
    return .none⟩)

def methods (inside : Asking Unit) : List (String × Method Defaults) :=
  [setting "set_proxy_url" "url" fun proxy defaults => { defaults with proxy },
    setting "set_http_timeout" "time" fun timeout defaults => { defaults with timeout },
    simple "get" ["url"] .light, simple "post" ["url"] .full, simple "put" ["url"] .full,
    simple "delete" ["url"] .light, simple "patch" ["url"] .full, simple "head" ["url"] .light,
    simple "options" ["url"] .light, simple "request" ["method", "url"] .full, stream,
    session inside]

end DeviceScript.Http
