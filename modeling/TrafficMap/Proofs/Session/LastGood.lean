import TrafficMap.Proofs.Endpoint.Answer
import TrafficMap.Proofs.Poll.Bookkeeping
import TrafficMap.Proofs.Session.Exchange

/-!
# Sessions: The Last Good Answer

What a session that polls an endpoint shows is told by the answers it has handled. The snapshot is
that of the latest good answer, whole; the gate knows how many bad answers have come since and what
was wrong with the latest of them. Nothing else that happens in between has a say.
-/

namespace TrafficMap

/-! ## Answers in a row -/

namespace Answer

variable (url : String) (registry : Registry Float32)

/-- The snapshot of the latest good answer. The latest answer stands first. -/
def lastGood? (answers : List Answer) : Option (Snapshot Float32 Float) :=
  answers.findSome? fun answer => answer.snapshot? registry

/-- The answers after the latest good one, or all answers if none is good. -/
def failuresSince (answers : List Answer) : List Answer :=
  answers.takeWhile fun answer => (answer.snapshot? registry).isNone

variable {url registry} {answer : Answer} {answers : List Answer}

theorem lastGood?_of_good {snapshot : Snapshot Float32 Float}
    (h : answer.snapshot? registry = some snapshot) :
    lastGood? registry (answer :: answers) = some snapshot := by
  simp [lastGood?, h]

theorem failuresSince_of_good {snapshot : Snapshot Float32 Float}
    (h : answer.snapshot? registry = some snapshot) :
    failuresSince registry (answer :: answers) = [] := by
  simp [failuresSince, h]

theorem lastGood?_of_bad (h : answer.snapshot? registry = none) :
    lastGood? registry (answer :: answers) = lastGood? registry answers := by
  simp [lastGood?, h]

theorem failuresSince_of_bad (h : answer.snapshot? registry = none) :
    failuresSince registry (answer :: answers) = answer :: failuresSince registry answers := by
  simp [failuresSince, h]

/-- There is always a text to tell of the latest failure. -/
theorem lastError_eq_none_iff (url : String) (registry : Registry Float32) (answers : List Answer) :
    ((failuresSince registry answers).head?.bind fun answer => answer.errorText? url) = none ↔
      failuresSince registry answers = [] := by
  cases answers with
  | nil => simp [failuresSince]
  | cons latest earlier =>
    cases hlatest : latest.snapshot? registry with
    | some snapshot => simp [failuresSince_of_good hlatest]
    | none =>
      obtain ⟨text, htext, -⟩ := result_of_not_snapshot? Generator.chance url registry hlatest
      simp [failuresSince_of_bad hlatest, htext]

end Answer

/-! ## What a session shows of its answers -/

/-- What the session shows and what its gate knows is told by the answers, the latest first. It is
kept by every step of an exchange, since only a delivery changes what it speaks of. -/
structure Session.ShowsLastGood (url : String) (registry : Registry Float32)
    (answers : List Answer) (s : Session Float32 Float) : Prop where
  snapshot : s.map.snapshot = Answer.lastGood? registry answers
  /-- The count stops at its largest value. -/
  failures :
    s.gate.failures.toNat = min (Answer.failuresSince registry answers).length (UInt32.size - 1)
  lastError : s.gate.lastError =
    (Answer.failuresSince registry answers).head?.bind fun answer => answer.errorText? url

namespace Session.ShowsLastGood

variable {σ : Type} {chance : Chance σ Float} {url : String} {registry : Registry Float32}
  {answers : List Answer} {s : Session Float32 Float}

theorem boot (interval : UInt64) (autoRefresh : Bool) :
    ShowsLastGood url registry [] (Session.boot interval autoRefresh).1 where
  snapshot := rfl
  failures := rfl
  lastError := rfl

/-- Asking for a fetch shows nowhere, whether or not it is granted. -/
theorem askForFetch (h : s.ShowsLastGood url registry answers) :
    s.askForFetch.1.ShowsLastGood url registry answers := by
  obtain ⟨hsnapshot, hfailures, hlast⟩ := h
  cases hgate : s.gate.inFlight with
  | false =>
    rw [askForFetch_of_idle hgate]
    exact ⟨hsnapshot, hfailures, hlast⟩
  | true =>
    rw [askForFetch_of_inFlight hgate]
    exact ⟨hsnapshot, hfailures, hlast⟩

/-- Nothing but a result changes what shows. -/
theorem update_other (h : s.ShowsLastGood url registry answers) (now : Int64)
    {message : Message Float32 Float} (hother : message.isResult = false) :
    (s.update now message).1.ShowsLastGood url registry answers := by
  cases hasks : message.asks with
  | true =>
    rw [update_of_asks hasks]
    exact h.askForFetch
  | false =>
    rw [update_of_view hasks hother]
    exact ⟨(snapshot_updateMap hother s.map).trans h.snapshot, h.failures, h.lastError⟩

/-- A good answer replaces the snapshot and clears the failures; a bad one keeps the snapshot and is
one failure more. -/
theorem update_result (h : s.ShowsLastGood url registry answers) (now : Int64) (answer : Answer) :
    (s.update now (.fetched (answer.result chance url registry))).1.ShowsLastGood url registry
      (answer :: answers) := by
  -- Only whether the answer holds a snapshot decides; why it does not is left to `errorText?`.
  cases hanswer : answer.snapshot? registry with
  | some snapshot =>
    rw [Answer.result_of_snapshot? chance url registry hanswer, update_success]
    refine ⟨?_, ?_, ?_⟩
    · rw [Answer.lastGood?_of_good hanswer]
      rfl
    · rw [Answer.failuresSince_of_good hanswer]
      rfl
    · rw [Answer.failuresSince_of_good hanswer]
      rfl
  | none =>
    obtain ⟨text, htext, hresult⟩ := Answer.result_of_not_snapshot? chance url registry hanswer
    rw [hresult, update_failure]
    refine ⟨?_, ?_, ?_⟩
    · rw [Answer.lastGood?_of_bad hanswer]
      exact h.snapshot
    · rw [Answer.failuresSince_of_bad hanswer, List.length_cons]
      -- The count stops at the largest word, as the minimum in `ShowsLastGood` does.
      exact Gate.toNat_countFailure_of_min h.failures
    · rw [Answer.failuresSince_of_bad hanswer, List.head?_cons, Option.bind_some, htext]
      rfl

end Session.ShowsLastGood

/-! ## Runs against an endpoint -/

namespace Exchange

variable {σ : Type} {chance : Chance σ Float} {url : String} {registry : Registry Float32}

theorem Step.showsLastGood {x y : Exchange Float32 Float Answer}
    {event : Event Float32 Float Answer} {request : Request}
    (hstep : Step (Answer.result chance url registry) x event request y)
    {history : History Float32 Float Answer}
    (h : x.session.ShowsLastGood url registry (handled history)) :
    y.session.ShowsLastGood url registry (handled ((event, request) :: history)) := by
  rw [handled_cons]
  cases hstep with
  | handle hother => exact h.update_other _ hother
  | finish _ => exact h
  | deliver _ => exact h.update_result _ _

theorem Run.showsLastGood {interval : UInt64} {autoRefresh : Bool}
    {history : History Float32 Float Answer} {x : Exchange Float32 Float Answer}
    (h : Run (Answer.result chance url registry) interval autoRefresh history x) :
    x.session.ShowsLastGood url registry (handled history) := by
  induction h with
  | boot => exact .boot interval autoRefresh
  | step _ hstep ih => exact hstep.showsLastGood ih

/-! ## Main statement -/

/-- **What shows is the last good answer.** Whatever the answers of the endpoint and the order of
events, the snapshot is what normalization makes of the latest handled report, or nothing before the
first one; the gate has counted the answers handled since, as far as its counter goes, and remembers
the text of the latest of them.

Only a delivery changes what is shown, so the invariant `Session.ShowsLastGood` speaks of the
answers that have been handled and of nothing else in the history. -/
theorem shows_last_good_of_run {interval : UInt64} {autoRefresh : Bool}
    {history : History Float32 Float Answer} {x : Exchange Float32 Float Answer}
    (h : Run (Answer.result chance url registry) interval autoRefresh history x) :
    x.session.map.snapshot = Answer.lastGood? registry (handled history) ∧
      x.session.gate.failures.toNat =
        min (Answer.failuresSince registry (handled history)).length (UInt32.size - 1) ∧
      (x.session.gate.lastError =
        (Answer.failuresSince registry (handled history)).head?.bind fun answer =>
          answer.errorText? url) ∧
      (x.session.gate.lastError = none ↔
        Answer.failuresSince registry (handled history) = []) := by
  obtain ⟨hsnapshot, hfailures, hlast⟩ := h.showsLastGood
  refine ⟨hsnapshot, hfailures, hlast, ?_⟩
  rw [hlast]
  exact Answer.lastError_eq_none_iff url registry (handled history)

/-- The endpoint reports a link, and at the next poll it answers with status 503: the link still
shows. -/
theorem shows_last_good_after_failure :
    let url := "http://localhost/traffic"
    let text := "\x7b\"links\":[\x7b\"source\":\"a\",\"target\":\"b\"\x7d]\x7d"
    let report : Report Float32 Float := ⟨none, [⟨some "a", some "b", none, none⟩], none, none⟩
    let good : Answer := ⟨.answered 200 (.whole text.toUTF8.toList), 7⟩
    let bad : Answer := ⟨.answered 503 (.whole []), 16⟩
    let history : History Float32 Float Answer :=
      [(.deliver 17 bad, .nothing), (.finish bad, .nothing), (.handle 15 .refreshNow, .fetch),
       (.deliver 8 good, .nothing), (.finish good, .nothing), (.boot, .fetch)]
    ∃ x, Run (Answer.result Generator.chance url .empty) 2000 true history x ∧
      x.session.map.snapshot = some (report.normalize .empty 7) ∧
      x.session.gate.failures = 1 ∧
      x.session.gate.lastError =
        some "Snapshot endpoint http://localhost/traffic returned HTTP 503" := by
  intro url text report good bad history
  have hgood : good.snapshot? .empty = some (report.normalize .empty 7) := by
    have hreply : good.reply.report? = some report := by decide +kernel
    rw [Answer.snapshot?, hreply]
    rfl
  have hbad : bad.snapshot? .empty = none := rfl
  have htext : bad.errorText? url =
      some "Snapshot endpoint http://localhost/traffic returned HTTP 503" := rfl
  -- The run is put together step by step, from boot to the second delivery.
  have hbegun : Run (Answer.result Generator.chance url .empty) 2000 true [(.boot, .fetch)]
      (boot 2000 true) := .boot
  have hanswered := hbegun.step (.finish rfl : Step _ _ (.finish good) .nothing _)
  have hfirst : [good] = [] ++ good :: [] := rfl
  have hshown := hanswered.step (.deliver hfirst : Step _ _ (.deliver 8 good) .nothing _)
  rw [Answer.result_of_snapshot? Generator.chance url .empty hgood] at hshown
  have hasked := hshown.step (.handle rfl : Step _ _ (.handle 15 .refreshNow) .fetch _)
  have hfailed := hasked.step (.finish rfl : Step _ _ (.finish bad) .nothing _)
  have hsecond : [bad] = [] ++ bad :: [] := rfl
  have hrun : Run (Answer.result Generator.chance url .empty) 2000 true history _ :=
    hfailed.step (.deliver hsecond : Step _ _ (.deliver 17 bad) .nothing _)
  obtain ⟨hsnapshot, hfailures, hlast, -⟩ := shows_last_good_of_run hrun
  have hhandled : handled history = [bad, good] := rfl
  -- The bad answer is the latest, the good one before it the last that was good.
  rw [hhandled, Answer.lastGood?_of_bad hbad, Answer.lastGood?_of_good hgood] at hsnapshot
  rw [hhandled, Answer.failuresSince_of_bad hbad,
    Answer.failuresSince_of_good hgood] at hfailures hlast
  exact ⟨_, hrun, hsnapshot, UInt32.toNat_inj.mp hfailures, hlast.trans htext⟩

end Exchange

end TrafficMap
