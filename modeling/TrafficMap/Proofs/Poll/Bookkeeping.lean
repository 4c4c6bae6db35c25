import Mathlib.Data.List.Induction
import TrafficMap.Poll.Status

/-!
# The Poll Gate: A Whole Run

A gate is asked for fetches and told how they end, in any order; it may even be told of an end when
nothing is pending. An `Event` is a call on the gate with the answer to it, and a history lists the
events, the latest first. All that a gate knows, and the line that it puts into the header, can be
read off the history:

- `IsPending`: a granted request has not come to its end;
- `failuresSince`: the failures since the last success;
- how many requests were refused, and when the last success was.

`Records` is the invariant that ties the two together. One call keeps it, so every run does.
-/

namespace TrafficMap

namespace Gate

/-! ## Counting failures

The failure counter as a number: one more each time, up to the largest that a word of 32 bits holds.
-/

theorem toNat_countFailure (n : UInt32) :
    (countFailure n).toNat = min (n.toNat + 1) (UInt32.size - 1) := by
  have hsize : UInt32.size = 4294967296 := rfl
  have hbound := n.toNat_lt
  unfold countFailure
  -- The largest count stays as it is; below it the sum does not wrap around.
  split
  case isTrue hlast =>
    subst hlast
    rfl
  case isFalse hlast =>
    have hnat : n.toNat ≠ 4294967295 := fun heq => hlast (UInt32.toNat_inj.mp heq)
    have hadd : (n + 1).toNat = (n.toNat + 1) % 4294967296 := UInt32.toNat_add n 1
    omega

/-- Counting one failure more and stopping at the largest count may be done in either order. -/
theorem toNat_countFailure_of_min {n : UInt32} {m : Nat} (h : n.toNat = min m (UInt32.size - 1)) :
    (countFailure n).toNat = min (m + 1) (UInt32.size - 1) := by
  rw [toNat_countFailure, h]
  omega

/-! ## Calls and events -/

inductive Call where
  | request
  | success (now : Int64)
  | failure (error : String)

def Call.isRequest : Call → Bool
  | .request => true
  | _ => false

/-- A call on a gate, and the answer if it was a request. A history is a list of events, and what a
gate should know is read off it without the gate. -/
inductive Event where
  | granted
  | refused
  | succeeded (now : Int64)
  | failed (error : String)

namespace Event

def call : Event → Call
  | .granted | .refused => .request
  | .succeeded now => .success now
  | .failed error => .failure error

def isRefusal : Event → Bool
  | .refused => true
  | _ => false

/-- The end of a fetch, good or bad. -/
def isEnd : Event → Bool
  | .succeeded _ | .failed _ => true
  | _ => false

def time? : Event → Option Int64
  | .succeeded now => some now
  | _ => none

def error? : Event → Option String
  | .failed error => some error
  | _ => none

end Event

/-- What becomes of a call, and what becomes of the gate. -/
def answer (g : Gate) : Call → Event × Gate
  | .request => (if g.begin?.1 then .granted else .refused, g.begin?.2)
  | .success now => (.succeeded now, g.succeed now)
  | .failure error => (.failed error, g.fail error)

theorem call_answer (g : Gate) (call : Call) : (g.answer call).1.call = call := by
  cases call with
  | request =>
    simp only [answer]
    split <;> rfl
  | success now => rfl
  | failure error => rfl

/-- The events of a run that begins with a new gate, the latest first, and the gate at its end. -/
def run (calls : List Call) : List Event × Gate :=
  calls.foldl (fun r call => ((r.2.answer call).1 :: r.1, (r.2.answer call).2)) ([], initial)

theorem run_concat (calls : List Call) (call : Call) :
    run (calls ++ [call]) =
      (((run calls).2.answer call).1 :: (run calls).1, ((run calls).2.answer call).2) := by
  simp only [run, List.foldl_append, List.foldl_cons, List.foldl_nil]

/-! ## What a history tells -/

/-- A granted request has not come to its end. Refused requests in between make no difference. -/
def IsPending (history : List Event) : Prop :=
  ∃ since before, history = since ++ .granted :: before ∧ ∀ e ∈ since, e.isEnd = false

/-- The texts of the failures since the last success, the latest first. -/
def failuresSince (history : List Event) : List String :=
  (history.takeWhile fun e => e.time?.isNone).filterMap (·.error?)

def lastSuccess? (history : List Event) : Option Int64 :=
  history.findSome? (·.time?)

/-- Every request was granted or refused as it should be: granted if no earlier one was pending. -/
def IsFair (history : List Event) : Prop :=
  ∀ e earlier, (e :: earlier) <:+ history → e.call = .request →
    (e = .granted ↔ ¬ IsPending earlier)

theorem not_isPending_nil : ¬ IsPending [] := by
  rintro ⟨since, before, h, -⟩
  simp at h

/-- A request is pending if it was granted just now, or was pending before and has not ended now. -/
theorem isPending_cons (e : Event) (history : List Event) :
    IsPending (e :: history) ↔ e = .granted ∨ e.isEnd = false ∧ IsPending history := by
  constructor
  · rintro ⟨since, before, h, hsince⟩
    -- The event that granted it is the latest, or lies among the earlier ones.
    rcases since with _ | ⟨latest, since⟩
    · left
      simpa using (List.cons.inj h).1
    · right
      obtain ⟨rfl, rfl⟩ := List.cons.inj h
      exact ⟨hsince e List.mem_cons_self,
        since, before, rfl, fun f hf => hsince f (List.mem_cons_of_mem e hf)⟩
  · rintro (rfl | ⟨hend, since, before, rfl, hsince⟩)
    · exact ⟨[], history, rfl, by simp⟩
    · exact ⟨e :: since, before, rfl, List.forall_mem_cons.mpr ⟨hend, hsince⟩⟩

/-- What is neither a success nor a failure does not count. -/
theorem failuresSince_cons_of_request {e : Event} (h : e.call = .request) (history : List Event) :
    failuresSince (e :: history) = failuresSince history := by
  cases e with
  | granted => simp [failuresSince, Event.time?, Event.error?]
  | refused => simp [failuresSince, Event.time?, Event.error?]
  | _ => cases h

theorem failuresSince_cons_succeeded (now : Int64) (history : List Event) :
    failuresSince (.succeeded now :: history) = [] := by
  simp [failuresSince, Event.time?]

theorem failuresSince_cons_failed (error : String) (history : List Event) :
    failuresSince (.failed error :: history) = error :: failuresSince history := by
  simp [failuresSince, Event.time?, Event.error?]

/-! ## The invariant -/

/-- What the gate knows is what its history tells. This is the invariant of a run: every call adds
its event and keeps it. -/
structure Records (history : List Event) (g : Gate) : Prop where
  inFlight : g.inFlight = true ↔ IsPending history
  /-- A word counts the refusals, as far as it can. -/
  skipped : g.skipped = UInt64.ofNat (history.countP (·.isRefusal))
  /-- The count stops at its largest value. -/
  failures : g.failures.toNat = min (failuresSince history).length (UInt32.size - 1)
  lastError : g.lastError = (failuresSince history).head?
  lastSuccess : g.lastSuccess = lastSuccess? history

theorem records_initial : Records [] initial where
  inFlight := by simp [initial, not_isPending_nil]
  skipped := rfl
  failures := rfl
  lastError := rfl
  lastSuccess := rfl

namespace Records

variable {history : List Event} {g : Gate}

/-- A request that is granted is pending from now on. -/
theorem granted (h : Records history g) :
    Records (.granted :: history) { g with inFlight := true } where
  inFlight := by simp [isPending_cons]
  skipped := by simpa [Event.isRefusal] using h.skipped
  failures := by
    rw [failuresSince_cons_of_request rfl]
    exact h.failures
  lastError := by
    rw [failuresSince_cons_of_request rfl]
    exact h.lastError
  lastSuccess := h.lastSuccess

/-- A request that is refused leaves the pending one as it is. -/
theorem refused (h : Records history g) :
    Records (.refused :: history) { g with skipped := g.skipped + 1 } where
  inFlight := by
    rw [isPending_cons]
    simpa [Event.isEnd] using h.inFlight
  skipped := by
    have hcount : (Event.refused :: history).countP (·.isRefusal) =
        history.countP (·.isRefusal) + 1 := List.countP_cons_of_pos rfl
    rw [hcount, UInt64.ofNat_add, h.skipped]
    rfl
  failures := by
    rw [failuresSince_cons_of_request rfl]
    exact h.failures
  lastError := by
    rw [failuresSince_cons_of_request rfl]
    exact h.lastError
  lastSuccess := h.lastSuccess

/-- A success clears the failures, whether or not anything was pending. -/
theorem succeeded (h : Records history g) (now : Int64) :
    Records (.succeeded now :: history) (g.succeed now) where
  inFlight := by simp [isPending_cons, Event.isEnd, succeed]
  skipped := by simpa [Event.isRefusal, succeed] using h.skipped
  failures := by
    rw [failuresSince_cons_succeeded]
    rfl
  lastError := by
    rw [failuresSince_cons_succeeded]
    rfl
  lastSuccess := rfl

/-- A failure is one failure more, and does not touch the last success. -/
theorem failed (h : Records history g) (error : String) :
    Records (.failed error :: history) (g.fail error) where
  inFlight := by simp [isPending_cons, Event.isEnd, fail]
  skipped := by simpa [Event.isRefusal, fail] using h.skipped
  failures := by
    rw [failuresSince_cons_failed, List.length_cons]
    exact toNat_countFailure_of_min h.failures
  lastError := by
    rw [failuresSince_cons_failed]
    rfl
  lastSuccess := h.lastSuccess

theorem answer (h : Records history g) (call : Call) :
    Records ((g.answer call).1 :: history) (g.answer call).2 := by
  cases call with
  | request =>
    -- The gate answers by what it believes to be pending, and there it is right.
    cases hgate : g.inFlight with
    | false =>
      have hgranted : g.answer .request = (.granted, { g with inFlight := true }) := by
        simp [Gate.answer, begin?, hgate]
      rw [hgranted]
      exact h.granted
    | true =>
      have hrefused : g.answer .request = (.refused, { g with skipped := g.skipped + 1 }) := by
        simp [Gate.answer, begin?, hgate]
      rw [hrefused]
      exact h.refused
  | success now => exact h.succeeded now
  | failure error => exact h.failed error

end Records

/-! ## Runs -/

theorem records_run (calls : List Call) : Records (run calls).1 (run calls).2 := by
  induction calls using List.reverseRecOn with
  | nil => exact records_initial
  | append_singleton calls call ih =>
    rw [run_concat]
    exact ih.answer call

/-- The history holds the calls, and nothing but the calls. -/
theorem calls_run (calls : List Call) : (run calls).1.reverse.map (·.call) = calls := by
  induction calls using List.reverseRecOn with
  | nil => rfl
  | append_singleton calls call ih =>
    rw [run_concat, List.reverse_cons, List.map_append, ih, List.map_singleton, call_answer]

theorem isFair_run (calls : List Call) : IsFair (run calls).1 := by
  induction calls using List.reverseRecOn with
  | nil =>
    intro e earlier h
    simp [run] at h
  | append_singleton calls call ih =>
    rw [run_concat]
    intro e earlier hsuffix hrequest
    rcases List.suffix_cons_iff.mp hsuffix with heq | hbefore
    · -- The latest request is answered by the gate that the earlier calls have led to.
      obtain ⟨rfl, rfl⟩ := List.cons.inj heq
      rw [call_answer] at hrequest
      subst hrequest
      rw [← (records_run calls).inFlight]
      cases hgate : (run calls).2.inFlight <;> simp [answer, begin?, hgate]
    · exact ih e earlier hbefore hrequest

/-- There are no more refusals than requests, so a word counts them if it can count the requests. -/
theorem toNat_skipped_run {calls : List Call}
    (h : calls.countP (·.isRequest) < UInt64.size) :
    (run calls).2.skipped.toNat = (run calls).1.countP (·.isRefusal) := by
  -- Each refusal is an event of a call that requests, and the events are those of the calls in
  -- order.
  have hle : (run calls).1.countP (·.isRefusal) ≤ calls.countP (·.isRequest) := by
    calc (run calls).1.countP (·.isRefusal)
      _ ≤ (run calls).1.countP (·.call.isRequest) := by
        apply List.countP_mono_left
        intro e _ hrefusal
        cases e with
        | refused => rfl
        | _ => cases hrefusal
      _ = ((run calls).1.reverse.map (·.call)).countP (·.isRequest) := by
        rw [List.countP_map, List.countP_reverse]
        rfl
      _ = calls.countP (·.isRequest) := by rw [calls_run]
  rw [(records_run calls).skipped, UInt64.toNat_ofNat_of_lt' (Nat.lt_of_le_of_lt hle h)]

/-! ## The line in the header -/

/-- The line that tells of failures. -/
def failureLine (count : Nat) (error : String) : String := s!"Fetch failed ({count}x): {error}"

/-- No other line reads like one that tells of failures. -/
theorem ne_failureLine {line : String} (h : line.toList.take 7 ≠ "Fetch f".toList) (count : Nat)
    (error : String) : line ≠ failureLine count error := by
  rintro rfl
  apply h
  have hline : failureLine count error = "Fetch failed (" ++ toString count ++ "x): " ++ error := rfl
  simp [hline]

/-- Without a failure the line tells what the gate does. -/
def quietLine (inFlight autoRefresh : Bool) : String :=
  if inFlight then "Fetching..." else if autoRefresh then "Live" else "Paused"

theorem quietLine_ne_failureLine (inFlight autoRefresh : Bool) (count : Nat) (error : String) :
    quietLine inFlight autoRefresh ≠ failureLine count error := by
  apply ne_failureLine
  cases inFlight <;> cases autoRefresh <;> decide

namespace Records

variable {history : List Event} {g : Gate}

/-- While there are failures to tell of, the count is not zero, and nothing else has a say. -/
theorem text_status_of_failures (h : Records history g) {error : String} {earlier : List String}
    (hfailures : failuresSince history = error :: earlier) (autoRefresh : Bool) :
    0 < g.failures.toNat ∧
      (g.status autoRefresh).text = failureLine g.failures.toNat error := by
  -- There is an error text exactly if there are failures, and the status asks for the text first.
  have hcount := h.failures
  have hlast := h.lastError
  rw [hfailures, List.length_cons] at hcount
  rw [hfailures, List.head?_cons] at hlast
  have hsize : UInt32.size = 4294967296 := rfl
  constructor
  · omega
  · rw [status, hlast]
    rfl

theorem text_status_of_no_failure (h : Records history g) (hnone : failuresSince history = [])
    (autoRefresh : Bool) : (g.status autoRefresh).text = quietLine g.inFlight autoRefresh := by
  have hlast := h.lastError
  rw [hnone, List.head?_nil] at hlast
  rw [status, hlast]
  cases hgate : g.inFlight <;> cases autoRefresh <;> simp [quietLine, PollStatus.text]

theorem exists_failureLine_iff (h : Records history g) (autoRefresh : Bool) :
    (∃ count error, (g.status autoRefresh).text = failureLine count error) ↔
      failuresSince history ≠ [] := by
  cases hfailures : failuresSince history with
  | nil =>
    rw [h.text_status_of_no_failure hfailures]
    simp [quietLine_ne_failureLine]
  | cons error earlier =>
    obtain ⟨-, htext⟩ := h.text_status_of_failures hfailures autoRefresh
    simp [htext]

end Records

/-! ## Main statement -/

/-- **A gate knows what has happened to it.** Whatever the calls on a new gate, a request is granted
exactly if no earlier one is pending; the gate has counted the refusals, as long as a word can count
the requests, and the failures since the last success, as far as its counter goes; it remembers the
latest of these failures, and the last success whatever has failed since.

So the header tells of a failure exactly if there was one since the last success, with a count that
is not zero and the latest text, and otherwise whether the gate is fetching, live or paused. -/
theorem records_of_run (calls : List Call) :
    let history := (run calls).1
    let g := (run calls).2
    history.reverse.map (·.call) = calls ∧ IsFair history ∧
      (g.inFlight = true ↔ IsPending history) ∧
      (calls.countP (·.isRequest) < UInt64.size →
        g.skipped.toNat = history.countP (·.isRefusal)) ∧
      g.failures.toNat = min (failuresSince history).length (UInt32.size - 1) ∧
      g.lastError = (failuresSince history).head? ∧
      g.lastSuccess = lastSuccess? history ∧
      ∀ autoRefresh,
        let line := (g.status autoRefresh).text
        ((∃ count error, line = failureLine count error) ↔ failuresSince history ≠ []) ∧
          (∀ error earlier, failuresSince history = error :: earlier →
            0 < g.failures.toNat ∧ line = failureLine g.failures.toNat error) ∧
          (failuresSince history = [] → line = quietLine g.inFlight autoRefresh) := by
  intro history g
  -- The invariant says all of it but two things: the order of the calls, and the count without
  -- wrapping around.
  have h : Records history g := records_run calls
  refine ⟨calls_run calls, isFair_run calls, h.inFlight, toNat_skipped_run, h.failures, h.lastError,
    h.lastSuccess, ?_⟩
  intro autoRefresh line
  refine ⟨h.exists_failureLine_iff autoRefresh, ?_, ?_⟩
  · intro error earlier hfailures
    exact h.text_status_of_failures hfailures autoRefresh
  · intro hnone
    exact h.text_status_of_no_failure hnone autoRefresh

end Gate

end TrafficMap
