import CloudProvider.Failure
import CloudProvider.Json.Record
import CloudProvider.Json.Printer

/-!
The envelope of a call: a request goes in as one document, a response comes out as one line. A response
carries a result or an error, and always the log of the call.
-/

namespace CloudProvider
open Json (Decoder Record Field)

structure Request where
  method : String
  arguments : List Json
  deriving DecidableEq

namespace Request

def decoder : Decoder Request := Record.decoder "Request" <|
  Record.pure Request.mk
    |>.field (.required "method" .string)
    |>.field (.defaulted "arguments" [] (.list .json))

def toJson (r : Request) : Json :=
  .obj [("method", .str r.method), ("arguments", .arr r.arguments)]

end Request

structure ResponseError where
  kind : FaultKind
  message : String
  canRetry : Bool
  deriving DecidableEq

namespace ResponseError

def decoder : Decoder ResponseError := Record.decoder "ResponseError" <|
  Record.pure ResponseError.mk
    |>.field (.required "type" (.variant FaultKind.variants))
    |>.field (.required "message" .string)
    |>.field (.required "ok_to_retry" .bool)

def toJson (e : ResponseError) : Json :=
  .obj [("type", .str e.kind.name), ("message", .str e.message), ("ok_to_retry", .bool e.canRetry)]

end ResponseError

structure Response where
  result : Option Json
  error : Option ResponseError
  log : String
  deriving DecidableEq

namespace Response

def success (result : Json) (log : String) : Response := ⟨some result, none, log⟩

def failure (kind : FaultKind) (canRetry : Bool) (message log : String) : Response :=
  ⟨none, some ⟨kind, message, canRetry⟩, log⟩

def ofFailure (f : Failure) (log : String) : Response :=
  failure f.classify.1 f.classify.2 f.message log

def ofOutcome (outcome : Except Failure Json) (log : String) : Response :=
  match outcome with
  | .ok result => success result log
  | .error f => ofFailure f log

def isSuccess (r : Response) : Bool := r.error.isNone

def decoder : Decoder Response := Record.decoder "Response" <|
  Record.pure Response.mk
    |>.field (.nullable "result" .json)
    |>.field (.nullable "error" ResponseError.decoder)
    |>.field (.required "log" .string)

def toJson (r : Response) : Json :=
  .obj [("result", .nullable id r.result), ("error", .nullable ResponseError.toJson r.error),
    ("log", .str r.log)]

/-- The one line that answers a call. -/
def line (r : Response) : String := r.toJson.text

end Response
end CloudProvider
