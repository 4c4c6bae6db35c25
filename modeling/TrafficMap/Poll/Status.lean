import TrafficMap.Poll.Age

/-!
# Poll Gate and Poll Status

The bookkeeping of the poll cycle, and what the header says about it: whether it is live, and when
it last succeeded. At most one fetch is under way; a request that comes while one is pending is
counted as skipped and never queued. A failure is shown until the next success, whatever else is
going on.
-/

namespace TrafficMap

/-! ## The gate

It also counts the failures since the last success and remembers the last failure's text and the
time of the last success.
-/

/-- State of the poll cycle. It knows nothing of what is fetched, only when fetches begin and how
they end. -/
structure Gate where
  /-- A fetch is pending. -/
  inFlight : Bool
  /-- Requests that were skipped because a fetch was pending. -/
  skipped : UInt64
  /-- Failures since the last success; the count stops at its largest value. -/
  failures : UInt32
  /-- Text of the most recent failure, until a success clears it. -/
  lastError : Option String
  /-- Time of the last success, in milliseconds since 1970. -/
  lastSuccess : Option Int64
deriving Repr, BEq, DecidableEq

namespace Gate

/-- The gate before any request. -/
def initial : Gate := ⟨false, 0, 0, none, none⟩

instance : Inhabited Gate := ⟨initial⟩

/-- Asks for a fetch. It is granted when none is pending; otherwise one more skip is counted. -/
def begin? (g : Gate) : Bool × Gate :=
  if g.inFlight then (false, { g with skipped := g.skipped + 1 })
  else (true, { g with inFlight := true })

def succeed (g : Gate) (now : Int64) : Gate :=
  { g with inFlight := false, failures := 0, lastError := none, lastSuccess := some now }

/-- One more failure, up to the largest count. -/
def countFailure (n : UInt32) : UInt32 :=
  if n = 0xFFFFFFFF then n else n + 1

def fail (g : Gate) (error : String) : Gate :=
  { g with inFlight := false, failures := countFailure g.failures, lastError := some error }

end Gate

/-! ## The status -/

/-- State of the poll cycle as the user sees it. A failure comes before everything else, and a fetch
under way before the switch for periodic polling. -/
inductive PollStatus where
  | failed (count : UInt32) (error : String)
  | fetching
  | live
  | paused
deriving Repr, BEq, DecidableEq

/-- The status for a gate, with periodic polling on or off. -/
def Gate.status (g : Gate) (autoRefresh : Bool) : PollStatus :=
  match g.lastError with
  | some error => .failed g.failures error
  | none => if g.inFlight then .fetching else if autoRefresh then .live else .paused

/-- One line for the header. -/
def PollStatus.text : PollStatus → String
  | .failed count error => s!"Fetch failed ({count.toNat}x): {error}"
  | .fetching => "Fetching..."
  | .live => "Live"
  | .paused => "Paused"

/-- The line that tells when the last fetch succeeded. -/
def Gate.successText (g : Gate) (now : Int64) : String :=
  match g.lastSuccess with
  | some at_ => "Last update: " ++ (Age.between at_ now).text
  | none => "Last update: never"

end TrafficMap
