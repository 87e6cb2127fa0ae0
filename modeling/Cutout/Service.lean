import Cutout.Decimal.Tenths
import Cutout.Http.MediaType
import Cutout.Http.Multipart
import Cutout.Http.Query
import Cutout.Http.Request
import Cutout.Log
import Cutout.Refusal
import Cutout.Slot

/-!
# The service

A request goes through checks, and the first one that fails decides the answer: the declared length,
the route, the kind of body, the body itself, the file in it, the container that is asked for, and
whether there is a cutter. A request that passes them all is an order, and only an order reaches the
cutter.

`Service.handle` says what is answered, what is logged, and what the cutter was given.
-/

namespace Cutout

open Http

/-! ## Orders -/

/-- What a request asks for, if there is a cutter for it. -/
structure Draft where
  upload : Multipart.Upload
  into : Container
  deriving DecidableEq, Repr

/-- What is to be done for a request that passed the checks. -/
structure Order extends Draft where
  cutter : Cutter

namespace Order

/-- The refusal for a body whose upload cannot be read. -/
def bodyRefusal : Multipart.Setback → Refusal
  | .tooLong => .tooLarge
  | .interrupted => .malformed "failed to read stream"
  | .fault f => .malformed f.message

/-- The file in the body of a request of at most `limit` bytes. -/
def uploadOf (limit : Nat) (r : Request) : Except Refusal Multipart.Upload :=
  match boundary? r.headers with
  | none => .error .missingFile
  | some boundary => do
    let mark := Bytes.ofText (String.ofList boundary)
    let found ← (Multipart.read mark limit [] r.body).mapError bodyRefusal
    match found with
    | none => .error .missingFile
    | some u => if u.name.isEmpty then .error .emptyFileName else .ok u

/-- The container that a request asks for. -/
def containerOf (r : Request) : Except Refusal Container :=
  match Query.first? (Query.pairs (r.target.query.getD [])) "format" with
  | none => .ok .standard
  | some name => (Container.parse name).mapError .unknownContainer

/-- What a request asks for, or why it is refused whether there is a cutter or not. -/
def draft (limit : Nat) (r : Request) : Except Refusal Draft := do
  let upload ← uploadOf limit r
  let into ← containerOf r
  return ⟨upload, into⟩

/-- The order that a draft becomes with the cutter that is found in the slot. -/
def place (d : Draft) : (found : Option Cutter) → Except Refusal Order
  | none => .error .loading
  | some c => .ok ⟨d, c⟩

/-- The order of a request, or why it is refused. -/
def ofRequest (slot : Slot) (limit : Nat) (r : Request) : Except Refusal Order := do
  let d ← draft limit r
  place d slot.cutter

end Order

/-! ## Replies -/

/-- What a request leads to. -/
structure Reply where
  response : Response
  log : List LogEntry
  /-- What cutters were given. -/
  cuts : List Cut

namespace Reply

/-- An answer without anything to log. -/
def quiet (r : Response) : Reply :=
  ⟨r, [], []⟩

/-- The part of the service that handles uploads. -/
def uploads : String := "bg_remove_service::server::handlers"

/-- The part of the service that stands around all routes. -/
def gateway : String := "bg_remove_service::server::middleware"

/-- A refusal is logged if it is the fault of the client. -/
def refused (r : Refusal) : Reply :=
  let log := if r.isClientError then [⟨.warn, uploads, "Rejected request: " ++ r.message⟩] else []
  ⟨r.response, log, []⟩

/-- The refusal of a body that is declared too long. -/
def declaredTooLong (length limit : Nat) : Reply :=
  let text := "Rejected " ++ toString length ++ " byte body (limit " ++ toString limit ++ " bytes)"
  ⟨Refusal.tooLarge.response, [⟨.warn, gateway, text⟩], []⟩

end Reply

namespace Order

/-- The entry that is logged before the cutter is given a file. -/
def started (o : Order) : LogEntry :=
  ⟨.info, Reply.uploads, "Processing " ++ o.upload.name ++ " (" ++
    Decimal.tenths o.upload.content.length 1024 ++ " KB), output=" ++ o.into.name⟩

/-- The entry that is logged when the result is there. -/
def done (o : Order) : LogEntry :=
  ⟨.info, Reply.uploads, "Done: " ++ o.upload.name ++ " -> " ++ o.into.name⟩

/-- The entry that is logged when there is no result. -/
def failed (o : Order) (m : Mishap) : LogEntry :=
  ⟨.error, Reply.uploads, "Processing failed for " ++ o.upload.name ++ ": " ++ m.message⟩

/-- Fill an order. A cutter without a name is not given anything. -/
def fill [FurtherReaders] (o : Order) : Reply :=
  match o.cutter.name with
  | .error c =>
    ⟨Refusal.internal.response,
      [⟨.error, Reply.gateway, "Unhandled server error: " ++ c.message⟩], []⟩
  | .ok _ =>
    let delivery := o.cutter.deliver o.upload.content o.into
    match delivery.value with
    | .error m =>
      ⟨(Refusal.failed m.message).response, [o.started, o.failed m], delivery.cuts⟩
    | .ok result =>
      ⟨.file o.into.mediaType o.into.fileName result, [o.started, o.done], delivery.cuts⟩

end Order

/-! ## Routes -/

/-- What can be asked of the service. -/
inductive Route where
  | health
  | removal
  deriving DecidableEq, Repr

namespace Route

/-- The route of a path. -/
def ofPath? (path : Bytes) : Option Route :=
  if path = Bytes.ofAscii "/health" then some .health
  else if path = Bytes.ofAscii "/remove-bg" then some .removal
  else none

/-- The methods of a route. -/
def methods : Route → List String
  | health => ["GET", "HEAD"]
  | removal => ["POST"]

end Route

/-- The service: the slot for its cutter, and the longest body that it accepts. -/
structure Service where
  slot : Slot
  limit : Nat

namespace Service

/-- The answer to the question whether the service is ready. -/
def health (s : Service) : Response :=
  .json (if s.slot.isReady then 200 else 503)
    (Json.object [("status", s.slot.status), ("model", s.slot.model)])

/-- The answer to a request for a result. -/
def remove [FurtherReaders] (s : Service) (r : Request) : Reply :=
  match Order.ofRequest s.slot s.limit r with
  | .error e => .refused e
  | .ok o => o.fill

/-- The answer of a route to a request with one of its methods. -/
def serve [FurtherReaders] (s : Service) (r : Request) : Route → Reply
  | .health => .quiet s.health
  | .removal => s.remove r

/-- The answer to a request on a route, before the declared length is looked at. -/
def route [FurtherReaders] (s : Service) (r : Request) : Reply :=
  match Route.ofPath? r.target.path with
  | none => .quiet (.empty 404)
  | some route =>
    if route.methods.contains r.method then s.serve r route else .quiet (.empty 405)

/-- The length that a request declares, if it is too long. -/
def excess? (s : Service) (r : Request) : Option Nat :=
  r.declaredLength?.filter fun n => decide (s.limit < n)

/-- What a route adds to an answer: the methods that it has if the request has another one, and no
body if only the headers are asked for. -/
def finish (r : Request) (a : Response) : Response :=
  match Route.ofPath? r.target.path with
  | none => a
  | some route =>
    if !route.methods.contains r.method then
      { a with allow := some (",".intercalate route.methods) }
    else if r.method = "HEAD" then { a with body := [] }
    else a

/-- What a request leads to. -/
def handle [FurtherReaders] (s : Service) (r : Request) : Reply :=
  let reply : Reply :=
    match s.excess? r with
    | some n => Reply.declaredTooLong n s.limit
    | none => s.route r
  { reply with response := finish r reply.response }

end Service

end Cutout
