import DeviceScript.Value.Compare

/-!
# Requests for input

A script that asks the user puts a request on a desk and waits until the request has an answer.
The desk is served by whoever shows the questions. Requests are told apart by their texts, so
two requests with the same texts are one.
-/

namespace DeviceScript.Terminal

structure InputRequest where
  description : Value
  prompt : Value
  deriving Inhabited

def InputRequest.same (first second : InputRequest) : Bool :=
  first.description.alike second.description && first.prompt.alike second.prompt

/-- Requests in the order in which they came, each with its answer if it has one. -/
structure InputDesk where
  entries : List (InputRequest × Option Value)
  deriving Inhabited

namespace InputDesk

def empty : InputDesk := ⟨[]⟩

/-- Sets what is known about a request. A request that is not there goes to the end. -/
def put (request : InputRequest) (state : Option Value) :
    List (InputRequest × Option Value) → List (InputRequest × Option Value)
  | [] => [(request, state)]
  | entry :: entries =>
    if entry.1.same request then (entry.1, state) :: entries
    else entry :: put request state entries

def find? (request : InputRequest) (desk : InputDesk) : Option (Option Value) :=
  (desk.entries.find? fun entry => entry.1.same request).map (·.2)

def enter (request : InputRequest) (desk : InputDesk) : InputDesk :=
  ⟨put request none desk.entries⟩

def waits (request : InputRequest) (desk : InputDesk) : Bool :=
  match desk.find? request with
  | some (some _) => false
  | _ => true

def waiting (desk : InputDesk) : List InputRequest :=
  (desk.entries.filter fun entry => entry.2.isNone).map (·.1)

def answer (request : InputRequest) (v : Value) (desk : InputDesk) : InputDesk :=
  ⟨put request (some v) desk.entries⟩

def take (request : InputRequest) (desk : InputDesk) : Option Value × InputDesk :=
  ((desk.find? request).join, ⟨desk.entries.eraseP fun entry => entry.1.same request⟩)

end InputDesk

end DeviceScript.Terminal
