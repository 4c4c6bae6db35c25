import TrafficMap.Endpoint.Problem
import TrafficMap.Report.Normal
import TrafficMap.Report.Reader
import TrafficMap.Url.Reader

/-!
# Fetching

One fetch from the endpoint: from the reply to a normalized snapshot, or to the problem that stands
in the way. A reply is good when its status is a success and its body is a report.
-/

namespace TrafficMap

/-! ## Replies -/

inductive Body where
  | whole (bytes : List UInt8)
  /-- The connection ended before the body did. -/
  | broken (description : String)
deriving Repr, DecidableEq

/-- What comes back from the endpoint. A transport that fails gives one as well. -/
inductive Reply where
  /-- No answer at all. -/
  | failed (description : String)
  | answered (status : Nat) (body : Body)
deriving Repr, DecidableEq

/-- The status says that the request was fulfilled. -/
def isSuccess (status : Nat) : Bool := 200 ≤ status && status ≤ 299

/-- The snapshot in a reply that came at time `fetchedAt`. -/
def Reply.snapshot (reply : Reply) (url : String) (registry : Registry Float32)
    (fetchedAt : Int64) : Except Problem (Snapshot Float32 Float) :=
  match reply with
  | .failed description => .error (.transport description)
  | .answered status body =>
    -- The body of a reply without success is never read.
    if isSuccess status then
      match body with
      | .broken description => .error (.transport description)
      | .whole bytes =>
        match Report.ofBytes bytes with
        | .error fault => .error (.document fault)
        | .ok report => .ok (report.normalize registry fetchedAt)
    else .error (.status status url)

/-! ## Servers -/

/-- How a server treats a request. Requests themselves are not modelled, only what can come of
them. -/
inductive Conduct where
  | refuses
  | closes
  /-- Answers, possibly with less than the announced length. -/
  | answers (status : Nat) (body : List UInt8) (cutShort : Bool)
deriving Repr, DecidableEq

/-- The status ends an exchange: it has three digits and does not announce another answer. -/
def isFinalStatus (status : Nat) : Bool :=
  status == 101 || (200 ≤ status && status ≤ 999)

/-- Answers with these statuses have no body. -/
def isBodiless (status : Nat) : Bool := status == 204 || status == 304 || status < 200

/-- A plain connection can be opened for the address. -/
def isReachable (url : String) : Bool :=
  match Url.parse url with
  | .ok u => u.isRequestable && u.scheme == "http"
  | .error _ => false

/-- The reply to a request for an address. -/
def Conduct.reply (conduct : Conduct) (url : String) : Reply :=
  if !isReachable url then .failed "error sending request"
  else
    match conduct with
    | .refuses => .failed "connection refused"
    | .closes => .failed "connection closed before message completed"
    | .answers status body cutShort =>
      if !isFinalStatus status then .failed "invalid status"
      else if isBodiless status then .answered status (.whole [])
      else if cutShort then .answered status (.broken "end of file before message length reached")
      else .answered status (.whole body)

end TrafficMap
