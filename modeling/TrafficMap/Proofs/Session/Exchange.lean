import TrafficMap.Proofs.Session.Update

/-!
# Sessions: The Exchange with the Endpoint

A session does not fetch; it asks, and somewhere else a fetch starts, ends some time later with an
answer, and the answer waits until the session handles it. An `Exchange` is a session with all its
fetches that are not handled yet, and a run lets them go on in any order while the user and the
clock send whatever they like.

The main statement counts: at most one fetch is outstanding, exactly when the gate says so; every
launched fetch is handled or outstanding; every request either launches a fetch or is skipped.
-/

namespace TrafficMap

/-- A session and the fetches that it has asked for. An answer of type `α` is what a fetch ends
with. Fetches run on their own: they may end in any order, and their answers wait until the session
takes them. -/
structure Exchange (κ ν α : Type) where
  session : Session κ ν
  /-- How many fetches are under way. -/
  running : Nat
  /-- Answers that have come in and are not handled yet. -/
  waiting : List α

namespace Exchange

variable {κ ν α : Type}

/-! ## Events and histories -/

/-- Something that happens to a session or to one of its fetches. -/
inductive Event (κ ν α : Type) where
  /-- The session begins. -/
  | boot
  /-- The session handles a message of the clock or of the user. -/
  | handle (now : Int64) (message : Message κ ν)
  /-- A fetch that is under way ends. -/
  | finish (answer : α)
  /-- The session handles an answer that has come in. -/
  | deliver (now : Int64) (answer : α)

/-- The session handles a message that asks for a fetch. -/
def Event.asks : Event κ ν α → Bool
  | .handle _ message => message.asks
  | _ => false

/-- The answer that the session handles. -/
def Event.delivered? : Event κ ν α → Option α
  | .deliver _ answer => some answer
  | _ => none

/-- What has happened and what the session asked for in return, the latest first. -/
abbrev History (κ ν α : Type) := List (Event κ ν α × Request)

/-- How many requests have been handled, besides the one at the beginning. -/
def requests (history : History κ ν α) : Nat :=
  history.countP fun entry => entry.1.asks

/-- How many fetches have been launched. -/
def launches (history : History κ ν α) : Nat :=
  history.countP fun entry => entry.2 = .fetch

/-- How many requests have been handled that launched no fetch. -/
def skips (history : History κ ν α) : Nat :=
  history.countP fun entry => entry.1.asks && entry.2 = .nothing

/-- The answers that have been handled, the latest first. -/
def handled (history : History κ ν α) : List α :=
  history.filterMap fun entry => entry.1.delivered?

/-- How many fetches a request launches. -/
def launched : Request → Nat
  | .nothing => 0
  | .fetch => 1

/-! ## What one event adds to the counts -/

@[simp]
theorem requests_cons (event : Event κ ν α) (request : Request) (history : History κ ν α) :
    requests ((event, request) :: history) = requests history + event.asks.toNat := by
  cases h : event.asks <;> simp [requests, h]

@[simp]
theorem launches_cons (event : Event κ ν α) (request : Request) (history : History κ ν α) :
    launches ((event, request) :: history) = launches history + launched request := by
  cases request <;> simp [launches, launched]

@[simp]
theorem skips_cons (event : Event κ ν α) (request : Request) (history : History κ ν α) :
    skips ((event, request) :: history) =
      skips history + (event.asks && request = .nothing).toNat := by
  cases h : event.asks <;> cases request <;> simp [skips, h]

@[simp]
theorem handled_cons (event : Event κ ν α) (request : Request) (history : History κ ν α) :
    handled ((event, request) :: history) = event.delivered?.toList ++ handled history := by
  cases h : event.delivered? <;> simp [handled, h]

/-! ## Steps and runs -/

/-- The session goes on as told, and the fetch it asks for is under way. -/
def proceed (x : Exchange κ ν α) (next : Session κ ν × Request) : Exchange κ ν α :=
  { x with session := next.1, running := x.running + launched next.2 }

variable [Scalar κ]

/-- The session at its beginning, with the fetch it asks for at once. -/
def boot (interval : UInt64) (autoRefresh : Bool) : Exchange κ ν α :=
  proceed ⟨Session.initial interval autoRefresh, 0, []⟩ (Session.boot interval autoRefresh)

/-- One event, what the session asks for, and what is left. The session reads an answer by
`meaning`, as a snapshot or as the text of a problem. Nothing is said about when an event happens,
so a run may order them in any way. -/
inductive Step (meaning : α → Except String (Snapshot κ ν)) :
    Exchange κ ν α → Event κ ν α → Request → Exchange κ ν α → Prop where
  /-- Results come from fetches only; every other message may come at any time. -/
  | handle {x : Exchange κ ν α} {now : Int64} {message : Message κ ν}
      (hother : message.isResult = false) :
      Step meaning x (.handle now message) (x.session.update now message).2
        (x.proceed (x.session.update now message))
  | finish {x : Exchange κ ν α} {rest : Nat} {answer : α} (hrunning : x.running = rest + 1) :
      Step meaning x (.finish answer) .nothing
        { x with running := rest, waiting := answer :: x.waiting }
  /-- Answers need not be handled in the order in which they came in. -/
  | deliver {x : Exchange κ ν α} {now : Int64} {answer : α} {before after : List α}
      (hwaiting : x.waiting = before ++ answer :: after) :
      Step meaning x (.deliver now answer) (x.session.update now (.fetched (meaning answer))).2
        ({ x with waiting := before ++ after }.proceed
          (x.session.update now (.fetched (meaning answer))))

/-- The exchange that a history leads to. -/
inductive Run (meaning : α → Except String (Snapshot κ ν)) (interval : UInt64)
    (autoRefresh : Bool) : History κ ν α → Exchange κ ν α → Prop where
  | boot : Run meaning interval autoRefresh
      [(.boot, (Session.boot interval autoRefresh : Session κ ν × Request).2)]
      (boot interval autoRefresh)
  | step {history : History κ ν α} {x y : Exchange κ ν α} {event : Event κ ν α}
      {request : Request} (hrun : Run meaning interval autoRefresh history x)
      (hstep : Step meaning x event request y) :
      Run meaning interval autoRefresh ((event, request) :: history) y

/-! ## The balance -/

/-- How the exchange stands against its history. Fetches are never created or lost but by these
events, which is what every step keeps. -/
structure Balanced (history : History κ ν α) (x : Exchange κ ν α) : Prop where
  /-- The gate is closed exactly while a fetch is outstanding, and never more than one is. -/
  outstanding : x.running + x.waiting.length = x.session.gate.inFlight.toNat
  /-- Every fetch is handled or outstanding. -/
  accounted : launches history = (handled history).length + (x.running + x.waiting.length)
  /-- Every request launches a fetch or is skipped. -/
  answered : requests history + 1 = launches history + skips history
  /-- The gate counts the skips, as far as a word counts. -/
  skipped : x.session.gate.skipped = UInt64.ofNat (skips history)

theorem balanced_boot (interval : UInt64) (autoRefresh : Bool) :
    Balanced [(.boot, (Session.boot interval autoRefresh : Session κ ν × Request).2)]
      (boot interval autoRefresh : Exchange κ ν α) where
  outstanding := rfl
  accounted := rfl
  answered := rfl
  skipped := rfl

omit [Scalar κ] in
/-- A request launches a fetch and closes the gate, or finds it closed and is counted. This is the
only step at which a fetch begins. -/
theorem Balanced.request {history : History κ ν α} {x : Exchange κ ν α}
    (h : Balanced history x) {now : Int64} {message : Message κ ν} (hasks : message.asks = true) :
    Balanced ((.handle now message, x.session.askForFetch.2) :: history)
      (x.proceed x.session.askForFetch) := by
  obtain ⟨houtstanding, haccounted, hanswered, hskipped⟩ := h
  -- The gate alone decides, and the invariant says what it stands for: whether a fetch is
  -- outstanding.
  cases hgate : x.session.gate.inFlight with
  | false =>
    rw [hgate, Bool.toNat_false] at houtstanding
    rw [Session.askForFetch_of_idle hgate]
    refine ⟨?_, ?_, ?_, ?_⟩
    · simp only [proceed, launched, Bool.toNat_true]
      omega
    · simp only [launches_cons, handled_cons, Event.delivered?, Option.toList_none, List.nil_append,
        proceed, launched]
      omega
    · simp only [requests_cons, launches_cons, skips_cons, Event.asks, hasks, launched,
        reduceCtorEq, decide_false, Bool.and_false, Bool.toNat_true, Bool.toNat_false]
      omega
    · simpa [proceed] using hskipped
  | true =>
    rw [Session.askForFetch_of_inFlight hgate]
    refine ⟨?_, ?_, ?_, ?_⟩
    · simpa only [proceed, launched, hgate, Nat.add_zero] using houtstanding
    · simpa [proceed, launched, Event.delivered?] using haccounted
    · simp only [requests_cons, launches_cons, skips_cons, Event.asks, hasks, launched, decide_true,
        Bool.and_true, Bool.toNat_true]
      omega
    · -- Refused, so the only count that moves is that of the skipped requests.
      simp [proceed, Event.asks, hasks, hskipped, UInt64.ofNat_add]

/-- A message that is neither a request nor a result leaves the gate and the fetches alone. -/
theorem Balanced.view {history : History κ ν α} {x : Exchange κ ν α} (h : Balanced history x)
    {now : Int64} {message : Message κ ν} (hasks : message.asks = false)
    (hother : message.isResult = false) :
    Balanced ((.handle now message, (x.session.update now message).2) :: history)
      (x.proceed (x.session.update now message)) := by
  obtain ⟨houtstanding, haccounted, hanswered, hskipped⟩ := h
  rw [Session.update_of_view hasks hother]
  refine ⟨houtstanding, ?_, ?_, ?_⟩
  · simpa [proceed, launched, Event.delivered?] using haccounted
  · simpa [Event.asks, hasks, launched] using hanswered
  · simpa [proceed, Event.asks, hasks] using hskipped

omit [Scalar κ] in
/-- A fetch that ends stays outstanding. -/
theorem Balanced.finish {history : History κ ν α} {x : Exchange κ ν α} (h : Balanced history x)
    {rest : Nat} (hrunning : x.running = rest + 1) (answer : α) :
    Balanced ((.finish answer, .nothing) :: history)
      { x with running := rest, waiting := answer :: x.waiting } := by
  obtain ⟨houtstanding, haccounted, hanswered, hskipped⟩ := h
  refine ⟨?_, ?_, ?_, ?_⟩
  · simp only [List.length_cons]
    omega
  · simp only [launches_cons, handled_cons, Event.delivered?, Option.toList_none, List.nil_append,
      launched, List.length_cons]
    omega
  · simpa [Event.asks, launched] using hanswered
  · simpa [Event.asks] using hskipped

/-- The only outstanding fetch is the one whose answer is handled, so the gate may open. -/
theorem Balanced.deliver {history : History κ ν α} {x : Exchange κ ν α} (h : Balanced history x)
    {now : Int64} {answer : α} {before after : List α}
    (hwaiting : x.waiting = before ++ answer :: after) (result : Except String (Snapshot κ ν)) :
    Balanced ((.deliver now answer, (x.session.update now (.fetched result)).2) :: history)
      ({ x with waiting := before ++ after }.proceed (x.session.update now (.fetched result))) := by
  obtain ⟨houtstanding, haccounted, hanswered, hskipped⟩ := h
  obtain ⟨hrequest, hgate, hcount⟩ := Session.update_result x.session now result
  have hlength : x.waiting.length = (before ++ after).length + 1 := by
    rw [hwaiting, List.length_append, List.length_cons, List.length_append, Nat.add_assoc]
  -- At most one is outstanding and one is waiting, so this one is it and none is running.
  have hsingle : x.session.gate.inFlight.toNat ≤ 1 := Bool.toNat_le _
  refine ⟨?_, ?_, ?_, ?_⟩
  · simp only [proceed, hrequest, hgate, launched, Bool.toNat_false]
    omega
  · simp only [launches_cons, handled_cons, Event.delivered?, Option.toList_some, proceed, hrequest,
      launched, List.length_append, List.length_singleton] at hlength ⊢
    omega
  · simpa [Event.asks, hrequest, launched] using hanswered
  · simpa [proceed, Event.asks, hcount] using hskipped

/-- One case for each kind of event; a message that is handled either asks for a fetch or does not
touch the gate. -/
theorem Balanced.step {meaning : α → Except String (Snapshot κ ν)} {history : History κ ν α}
    {x y : Exchange κ ν α} {event : Event κ ν α} {request : Request} (h : Balanced history x)
    (hstep : Step meaning x event request y) : Balanced ((event, request) :: history) y := by
  cases hstep with
  | @handle now message hother =>
    cases hasks : message.asks with
    | true =>
      rw [Session.update_of_asks hasks]
      exact h.request hasks
    | false => exact h.view hasks hother
  | finish hrunning => exact h.finish hrunning _
  | deliver hwaiting => exact h.deliver hwaiting _

theorem Run.balanced {meaning : α → Except String (Snapshot κ ν)} {interval : UInt64}
    {autoRefresh : Bool} {history : History κ ν α} {x : Exchange κ ν α}
    (h : Run meaning interval autoRefresh history x) : Balanced history x := by
  induction h with
  | boot => exact balanced_boot interval autoRefresh
  | step _ hstep ih => exact ih.step hstep

/-! ## Main statement -/

/-- **One fetch at a time, and none lost.** Whatever the order of events, the fetches under way and
the answers not handled yet are one together while the gate is closed and none while it is open;
every launched fetch has been handled or is one of these; and as long as a word can count the skips,
the requests, the first one included, are the launched fetches and those the gate counted.

The invariant behind it is `Balanced`, which also has the equation of the requests in words, as the
gate counts them. Every event keeps it, and at the end of a run the words are taken for numbers. -/
theorem single_fetch_of_run {meaning : α → Except String (Snapshot κ ν)} {interval : UInt64}
    {autoRefresh : Bool} {history : History κ ν α} {x : Exchange κ ν α}
    (h : Run meaning interval autoRefresh history x) :
    (x.running + x.waiting.length = if x.session.gate.inFlight then 1 else 0) ∧
      launches history = (handled history).length + (x.running + x.waiting.length) ∧
      (skips history < UInt64.size →
        requests history + 1 = launches history + x.session.gate.skipped.toNat) := by
  obtain ⟨houtstanding, haccounted, hanswered, hskipped⟩ := h.balanced
  refine ⟨?_, haccounted, ?_⟩
  · rw [houtstanding]
    cases x.session.gate.inFlight <;> rfl
  · intro hfew
    -- The counter wraps around; below its size it is the number of skips.
    rw [hskipped, UInt64.toNat_ofNat_of_lt' hfew]
    exact hanswered

/-- A tick while the first fetch is under way is skipped; when that fetch has failed and its answer
has been handled, a refresh launches the second one. -/
theorem single_fetch_after_failure :
    let failure : Except String (Snapshot Float32 Float) := .error "HTTP 502"
    let history : History Float32 Float (Except String (Snapshot Float32 Float)) :=
      [(.handle 9 .refreshNow, .fetch), (.deliver 8 failure, .nothing), (.finish failure, .nothing),
       (.handle 5 .pollTick, .nothing), (.boot, .fetch)]
    let x : Exchange Float32 Float (Except String (Snapshot Float32 Float)) :=
      ⟨⟨2000, .initial true, ⟨true, 1, 1, some "HTTP 502", none⟩⟩, 1, []⟩
    Run id 2000 true history x ∧ skips history < UInt64.size ∧
      (x.running + x.waiting.length = if x.session.gate.inFlight then 1 else 0) ∧
      launches history = (handled history).length + (x.running + x.waiting.length) ∧
      requests history + 1 = launches history + x.session.gate.skipped.toNat := by
  intro failure history x
  -- Every event with the command that it leads to; the kernel compares the sessions.
  have hbegun : Run id 2000 true [(.boot, .fetch)] (boot 2000 true : Exchange Float32 Float _) :=
    .boot
  have hticked := hbegun.step (.handle rfl : Step id _ (.handle 5 .pollTick) .nothing _)
  have hfinished := hticked.step (.finish rfl : Step id _ (.finish failure) .nothing _)
  have hwaiting : [failure] = [] ++ failure :: [] := rfl
  have hdelivered := hfinished.step (.deliver hwaiting : Step id _ (.deliver 8 failure) .nothing _)
  have hrun : Run id 2000 true history x :=
    hdelivered.step (.handle rfl : Step id _ (.handle 9 .refreshNow) .fetch _)
  have hfew : skips history < UInt64.size := by decide
  obtain ⟨houtstanding, haccounted, hanswered⟩ := single_fetch_of_run hrun
  exact ⟨hrun, hfew, houtstanding, haccounted, hanswered hfew⟩

end Exchange

end TrafficMap
