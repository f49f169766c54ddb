import Cer.Api.Failures
import Cer.Lib.JsonWire

/-!
# Responses

What the API sends back: the content an endpoint returned, or for an exception the status,
code and message of its handler.  Every response names the request it answers, in its header
and, where it reports an error, in its body.
-/

namespace Cer.Api

open Py

structure HttpResponse where
  statusCode : Nat
  /-- The `X-Request-Id` header. -/
  requestId : String
  text : String

/-- The body of `_error_response`. -/
def errorBody (code message requestId : String) : Json :=
  .obj [("code", .str code), ("message", .str message), ("request_id", .str requestId)]

/-- What the handler of an exception makes of it: a status, a code and a message. -/
def handleError : Exc → Nat × String × String
  | .cer cls message code => (statusFor (.cer cls message code), code, message)
  | .pydantic errors =>
      (400, "validation_error", "contract model validation failed: " ++ (Exc.pydantic errors).str)
  | _ => (500, "internal_error", "an unexpected internal error occurred")

section respond
variable (W : JsonWire) (requestId : String)

/-- `_error_response`. -/
def errorResponse (handled : Nat × String × String) : HttpResponse :=
  ⟨handled.1, requestId, (W.render (errorBody handled.2.1 handled.2.2 requestId)).getD ""⟩

/-- The response to a request; content that does not render is one more unexpected error. -/
def respond (statusCode : Nat) : Except Exc Json → HttpResponse
  | .error e => errorResponse W requestId (handleError e)
  | .ok content => match W.render content with
    | some text => ⟨statusCode, requestId, text⟩
    | none => errorResponse W requestId (handleError
        (.valueError "Out of range float values are not JSON compliant"))

end respond

theorem nodupKeys_errorBody (code message requestId : String) :
    nodupKeys (errorBody code message requestId) = true := by
  simp [errorBody, nodupKeys, nodupKeysFields]

/-- An error body arrives. -/
theorem parse_errorResponse (W : JsonWire) (requestId : String) (handled : Nat × String × String) :
    W.parse (errorResponse W requestId handled).text = some (errorBody handled.2.1 handled.2.2 requestId) := by
  obtain ⟨text, hrender, hparse⟩ := W.parse_render _ (nodupKeys_errorBody handled.2.1 handled.2.2 requestId) rfl
  show W.parse ((W.render (errorBody handled.2.1 handled.2.2 requestId)).getD "") = _
  rw [hrender]
  exact hparse

/-- Whatever was raised, the response says that it was an error. -/
theorem handleError_status (e : Exc) : 400 ≤ (handleError e).1 := by
  cases e with
  | cer cls message code => cases cls <;> simp [handleError, statusFor, errorStatusOrder, Exc.isA] <;> decide
  | _ => simp [handleError]

end Cer.Api
