import StubCompiler.Completion.Answer
import StubCompiler.Completion.Settings
import StubCompiler.Text.Base64
import StubCompiler.Url.Reader

/-!
# Exchanges with the completion service

A request is sent as one call: a method, an address, a key and a body.  The library does not know how
calls travel; that is a function it is given.  A call that cannot be formed is never sent, and none is
sent twice.
-/

namespace StubCompiler

structure Payload where
  model : Text
  messages : List Message
  temperature : Binary32
deriving DecidableEq, Repr

namespace Payload

/-- The temperature is positional from 0.000001 up to 13 digits before the point, exponents have a plus
sign, and a tie goes to the even digit. -/
def temperatureFormat : NumberFormat := ⟨-6, 13, true, .even⟩

/-- A number as JSON, which has no word for infinity. -/
def printNumber : Binary32 → Text
  | .finite negative magnitude => Binary32.printFinite temperatureFormat negative magnitude
  | _ => "null"

def printMessage (m : Message) : Text :=
  "\x7b\"role\":" ++ Json.quote m.role.name ++ ",\"content\":" ++ Json.quote m.content ++ "\x7d"

/-- The body as it is sent; one choice is asked for. -/
def print (p : Payload) : Text :=
  "\x7b\"model\":" ++ Json.quote p.model ++
  ",\"messages\":[" ++ (List.intercalate "," (p.messages.map printMessage) : Text) ++
  "],\"temperature\":" ++ printNumber p.temperature ++ ",\"n\":1\x7d"

end Payload

structure Call where
  url : Url
  key : Text
  payload : Payload
deriving DecidableEq, Repr

namespace Call

def requestLine (call : Call) : Text := "POST " ++ call.url.target ++ " HTTP/1.1"

/-- The user that the address names goes before the key. -/
def authorization (call : Call) : Text :=
  match call.url.credentials with
  | some ⟨user, password⟩ =>
    "Basic " ++ Base64.encode ((user ++ ":" ++ password.getD []).flatMap String.utf8EncodeChar)
  | none => "Bearer " ++ call.key

def contentType : Text := "application/json"

/-- A header can hold every character but control characters, the tab excepted. -/
def canStandInHeader (c : Char) : Bool := c = '\t' || (0x20 ≤ c.toNat && c.toNat != 0x7F)

end Call

namespace ServiceConfig

/-- The call for a request, if the address and the key allow one. -/
def call (config : ServiceConfig) (request : Request) : Except ProviderError Call :=
  match Url.read? config.endpoint with
  | none => .error (.transport "builder error")
  | some url =>
    if config.apiKey.all Call.canStandInHeader then
      .ok ⟨url, config.apiKey, ⟨config.model, request.messages, config.temperature⟩⟩
    else .error (.transport "builder error")

/-- Asks the service; `send` carries a call to the service and brings back the answer. -/
def complete {m : Type → Type} [Monad m] (send : Call → m (Except Text Answer))
    (config : ServiceConfig) (request : Request) : m Reply :=
  match config.call request with
  | .error cause => return .error cause
  | .ok call => do
    match ← send call with
    | .error detail => return .error (.transport detail)
    | .ok answer => return answer.reply

end ServiceConfig

end StubCompiler
