import ExtractApi.CallerAuth

/-!
# The body cap and the admission gate (`api/main.py`)

`BodyCap` refuses a declared length over the limit without receiving anything, and
otherwise counts the chunks as the inner application receives them.
-/

namespace ExtractApi

open PythonText JsonValue RaisingProgram

variable {S : Type}

/-- `value.isdigit()` -/
def isDigits (value : List Byte) : Bool :=
  !value.isEmpty && value.all fun b => decide (48 ≤ b.val) && decide (b.val ≤ 57)

/-- `int(value)` of digits -/
def intOfDigits (value : List Byte) : ℕ := value.foldl (fun n b => n * 10 + (b.val - 48)) 0

/-- `_over`: the length is compared first, so that `int` never sees a huge string. -/
def isOver (limit : ℕ) (digits : List Byte) : Bool :=
  let digits := digits.dropWhile fun b => b = 48
  decide ((decimal limit).length < digits.length) || decide (limit < intOfDigits digits)

/-- Some `content-length` header declares more than the limit. -/
def declaresOver (limit : ℕ) (scope : Scope) : Bool :=
  scope.headers.any fun header =>
    decide (header.1 = bytes "content-length") && isDigits header.2 && isOver limit header.2

/-- The response of `_refuse` -/
def bodyTooLargeResponse (limit : ℕ) : Service S HttpResponse :=
  errorResponse .validationFailed (codeBody .validationFailed
    (.str (py "request body exceeds the " ++ decimal limit ++ py "-byte limit"))) []

/-- `_refuse` -/
def refuse (limit : ℕ) (send : Send S) : Asgi S Unit := do
  let response ← inService (bodyTooLargeResponse limit)
  sendResponse response send

/-- `counted` -/
def counted (limit : ℕ) (receive : Receive S) : Asgi S ReceiveMessage := do
  let message ← receive
  match message with
  | .httpRequest body _ =>
      modify fun c => { c with received := c.received + body.length }
      if limit < (← get).received then throw .bodyTooLarge
  | .httpDisconnect => pure ()
  return message

/-- `BodyCap` -/
def bodyCap (limit : ℕ) (app : AsgiApp S) : AsgiApp S := fun scope receive send =>
  if scope.type ≠ .http ∨ isOpenPath scope then app scope receive send
  else if declaresOver limit scope then refuse limit send
  else do
    modify fun c => { c with received := 0 }
    tryCatch (app scope (counted limit receive) send) fun
      | .bodyTooLarge => refuse limit send
      | raised => throw raised

/-- `ExtractAdmission`: waiting for a token changes nothing that the request can see. -/
def extractAdmission (app : AsgiApp S) : AsgiApp S := app

end ExtractApi
