import TrafficMap.Session.Source

/-!
# The Endpoint: Good and Bad Answers

Which replies of the endpoint count as good, said without the order in which a fetch looks at them:
a reply is good when its status is one of success and its body, come in whole, is a report. Every
other reply has a problem, and the fetch reports it.
-/

namespace TrafficMap

/-! ## Replies -/

theorem isSuccess_iff (status : Nat) : isSuccess status = true ↔ 200 ≤ status ∧ status ≤ 299 := by
  simp [isSuccess]

namespace Reply

/-- The report in a good reply. The status decides before the body is looked at, as it does when the
reply is turned into a snapshot. -/
def report? : Reply → Option (Report Float32 Float)
  | .answered status (.whole bytes) =>
    if 200 ≤ status ∧ status ≤ 299 then (Report.ofBytes bytes).toOption else none
  | _ => none

/-- The problem with a reply that is not good. Nothing is said about the body of a reply without
success. -/
def problem? (url : String) : Reply → Option Problem
  | .failed description => some (.transport description)
  | .answered status body =>
    if 200 ≤ status ∧ status ≤ 299 then
      match body with
      | .broken description => some (.transport description)
      | .whole bytes =>
        match Report.ofBytes bytes with
        | .error fault => some (.document fault)
        | .ok _ => none
    else some (.status status url)

theorem snapshot_of_report? {reply : Reply} {report : Report Float32 Float}
    (h : reply.report? = some report) (url : String) (registry : Registry Float32)
    (fetchedAt : Int64) :
    reply.snapshot url registry fetchedAt = .ok (report.normalize registry fetchedAt) := by
  unfold report? at h
  split at h
  case h_1 status bytes =>
    split at h
    case isTrue hsuccess =>
      cases hread : Report.ofBytes bytes with
      | error fault =>
        rw [hread] at h
        cases h
      | ok found =>
        rw [hread] at h
        cases h
        simp [snapshot, (isSuccess_iff status).mpr hsuccess, hread]
    case isFalse => cases h
  case h_2 => cases h

/-- A reply that is not good has a problem, and that is what the fetch fails with. -/
theorem snapshot_of_not_report? {reply : Reply} (h : reply.report? = none) (url : String)
    (registry : Registry Float32) (fetchedAt : Int64) :
    ∃ problem, reply.problem? url = some problem ∧
      reply.snapshot url registry fetchedAt = .error problem := by
  cases reply with
  | failed description => exact ⟨.transport description, rfl, rfl⟩
  | answered status body =>
    by_cases hsuccess : 200 ≤ status ∧ status ≤ 299
    · have hstatus := (isSuccess_iff status).mpr hsuccess
      cases body with
      | broken description =>
        -- A body that breaks off is a failure of the transport, in spite of the status.
        exact ⟨.transport description, if_pos hsuccess, by simp [snapshot, hstatus]⟩
      | whole bytes =>
        cases hread : Report.ofBytes bytes with
        | error fault =>
          exact ⟨.document fault, by simp [problem?, hsuccess, hread],
            by simp [snapshot, hstatus, hread]⟩
        | ok found => simp [report?, hsuccess, hread, Except.toOption] at h
    · have hstatus : isSuccess status = false := by
        rw [← Bool.not_eq_true, isSuccess_iff]
        exact hsuccess
      exact ⟨.status status url, if_neg hsuccess, by simp [snapshot, hstatus]⟩

end Reply

/-! ## Answers -/

/-- A reply and the time at which it is turned into a snapshot. Time enters a snapshot only where
the report does not tell its own. -/
structure Answer where
  reply : Reply
  fetchedAt : Int64

namespace Answer

/-- The snapshot in a good answer. -/
def snapshot? (registry : Registry Float32) (a : Answer) : Option (Snapshot Float32 Float) :=
  a.reply.report?.map (·.normalize registry a.fetchedAt)

/-- The text of the problem with an answer that is not good. -/
def errorText? (url : String) (a : Answer) : Option String :=
  (a.reply.problem? url).map (·.message)

/-- What a fetch from the endpoint makes of an answer. -/
def result {σ : Type} (chance : Chance σ Float) (url : String) (registry : Registry Float32)
    (a : Answer) : Except String (Snapshot Float32 Float) :=
  ((Source.endpoint url registry).fetch chance a.reply a.fetchedAt).1

variable {σ : Type} (chance : Chance σ Float) (url : String) (registry : Registry Float32)

theorem result_of_snapshot? {a : Answer} {snapshot : Snapshot Float32 Float}
    (h : a.snapshot? registry = some snapshot) : a.result chance url registry = .ok snapshot := by
  obtain ⟨report, hreport, rfl⟩ := Option.map_eq_some_iff.mp h
  rw [result, Source.fetch, Reply.snapshot_of_report? hreport]
  rfl

theorem result_of_not_snapshot? {a : Answer} (h : a.snapshot? registry = none) :
    ∃ text, a.errorText? url = some text ∧ a.result chance url registry = .error text := by
  have hreport : a.reply.report? = none := Option.map_eq_none_iff.mp h
  obtain ⟨problem, hproblem, hsnapshot⟩ :=
    Reply.snapshot_of_not_report? hreport url registry a.fetchedAt
  refine ⟨problem.message, ?_, ?_⟩
  · rw [errorText?, hproblem]
    rfl
  · rw [result, Source.fetch, hsnapshot]
    rfl

end Answer

end TrafficMap
