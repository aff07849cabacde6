import ExtractApi.ErrorHandlers

/-!
# Connections (ASGI)

An application is called with the scope of a connection, a `receive` and a `send`.
Here a call is a program on the `Connection`: the messages the server still has to
deliver, the messages sent to it so far, what the middlewares keep in the scope and
in the variables of their closures, and the state of the service.

An application raises an `Exception`, or one of two exceptions that are none and pass
by every `except Exception`: the body cap's own and the cancellation of the task.
-/

namespace ExtractApi

open PythonText JsonValue RaisingProgram

inductive ScopeType where
  | http
  | websocket
  | lifespan
deriving DecidableEq, Repr

structure Scope where
  type : ScopeType := .http
  method : PyStr
  path : PyStr
  rootPath : PyStr := []
  /-- names in lower case, as the server delivers them -/
  headers : List (List Byte × List Byte)

inductive ReceiveMessage where
  | httpRequest (body : List Byte) (moreBody : Bool)
  | httpDisconnect
deriving DecidableEq, Repr

/-- A body is a JSON value, or `none` when it is none. -/
inductive SendMessage where
  | responseStart (status : ℕ) (headers : List (PyStr × PyStr))
  | responseBody (body : Option Json)

inductive Raised where
  | exception (exc : PyExc)
  | bodyTooLarge
  | cancelled

structure Connection (S : Type) where
  world : World S
  incoming : List ReceiveMessage
  sent : List SendMessage := []
  /-- `scope["extract.request_id"]` -/
  requestId : Option PyStr := none
  /-- the path template of `scope["route"]` -/
  route : Option PyStr := none
  /-- `received` in `BodyCap` -/
  received : ℕ := 0
  /-- `status` in `RequestContextMiddleware` -/
  status : Option ℕ := none

variable {S : Type}

abbrev Asgi (S : Type) := EStateM Raised (Connection S)

abbrev Receive (S : Type) := Asgi S ReceiveMessage

abbrev Send (S : Type) := SendMessage → Asgi S Unit

abbrev AsgiApp (S : Type) := Scope → Receive S → Send S → Asgi S Unit

/-- Service code, called by an application. -/
def inService {α : Type} (x : Service S α) : Asgi S α :=
  focus Connection.world (fun c w => { c with world := w }) Raised.exception x

theorem run_inService {α : Type} (x : Service S α) (c : Connection S) :
    (inService x).run c = match x.run c.world with
      | .ok a w => .ok a { c with world := w }
      | .error exc w => .error (.exception exc) { c with world := w } := by
  cases h : x.run c.world <;> simp [inService, run_focus, h]

/-! ## The server's ends -/

/-- The next message; the client is gone once there is none. -/
def serverReceive : Asgi S ReceiveMessage := do
  let c ← get
  match c.incoming with
  | [] => return .httpDisconnect
  | message :: incoming =>
      set { c with incoming := incoming }
      return message

def serverSend : Send S := fun message =>
  modify fun c => { c with sent := c.sent ++ [message] }

/-! ## Responses -/

def HttpResponse.messages (r : HttpResponse) : List SendMessage :=
  [.responseStart r.status r.headers, .responseBody r.body]

/-- `await response(scope, receive, send)` -/
def sendResponse (r : HttpResponse) (send : Send S) : Asgi S Unit := do
  send (.responseStart r.status r.headers)
  send (.responseBody r.body)

/-- A connection whose request begins. -/
def Connection.opened (w : World S) (incoming : List ReceiveMessage) : Connection S where
  world := w
  incoming := incoming

/-! ## Bytes -/

/-- A bytes literal. -/
def bytes (s : String) : List Byte :=
  s.toList.map fun c => ⟨c.toNat % 256, Nat.mod_lt _ (by decide)⟩

/-- `value.decode("latin-1")` -/
def latin1 (value : List Byte) : PyStr := value.map fun b => ⟨b.val, by omega⟩

theorem isLatin1_latin1 (value : List Byte) : isLatin1 (latin1 value) = true := by
  simp [isLatin1, latin1]

/-- The value of the first header of the name. -/
def Scope.header (scope : Scope) (name : String) : Option (List Byte) :=
  (scope.headers.find? fun header => decide (header.1 = bytes name)).map Prod.snd

end ExtractApi
