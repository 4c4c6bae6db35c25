import Mathlib.Data.List.Nodup
import TrafficMap.Proofs.Topology.FirstOccurrence
import TrafficMap.Simulation.Simulator

/-!
# Simulation: Outages

When a service of a simulation is down. An outage is stored from the tick that draws it to the last
tick that it covers, and as long as one is stored no other is drawn. `Simulator.IsSound` is what
every tick keeps of that, and `Simulator.mem_after_iff` follows one outage through all ticks.

The draws are any draws whatever: their ranges are in the types, and nothing else is used of them.
-/

namespace TrafficMap

/-! ## Runs

A simulation tick after tick. `Simulator.after` is its state after so many ticks and
`Simulator.reportAfter` what the next tick reports; the draws may be any, and the time of a tick
goes into the report only.

What a tick does to the outages is said once, and so is what it reports.
-/

namespace Simulator

variable {σ ν κ : Type} [Scalar ν]

/-! ### Ticks -/

def next (chance : Chance σ ν) (m : Simulator σ ν) : Simulator σ ν :=
  (m.advance chance 0 : Report ν ν × Simulator σ ν).2

def after (chance : Chance σ ν) (source : σ) : Nat → Simulator σ ν
  | 0 => start chance source
  | n + 1 => (after chance source n).next chance

/-- The report of the tick that follows `n` ticks, if it happens at time `now`. -/
def reportAfter (chance : Chance σ ν) (source : σ) (n : Nat) (now : Int64) : Report κ ν :=
  ((after chance source n).advance chance now).1

@[simp]
theorem tick_next (chance : Chance σ ν) (m : Simulator σ ν) :
    (m.next chance).tick = m.tick + 1 := by
  simp only [next, advance, schedule]
  split <;> rfl

@[simp]
theorem phases_next (chance : Chance σ ν) (m : Simulator σ ν) :
    (m.next chance).phases = m.phases := by
  simp only [next, advance, schedule]
  split <;> rfl

@[simp]
theorem tick_after (chance : Chance σ ν) (source : σ) (n : Nat) :
    (after chance source n).tick = n := by
  induction n with
  | zero => rfl
  | succ n ih => rw [after, tick_next, ih]

/-! ### Outages -/

/-- What a tick does to the outages: those that are not over by then are kept, and where there are
none, one may be drawn. -/
theorem outages_next (chance : Chance σ ν) (m : Simulator σ ν) :
    (m.next chance).outages =
      let left := m.outages.filter (!·.isOver (m.tick + 1))
      if left.isEmpty then (drawOutage? chance (m.tick + 1) m.source).1.toList else left := by
  simp only [next, advance, schedule]
  split <;> rfl

omit [Scalar ν] in
/-- What is drawn begins at once, and lasts for three to nine ticks. -/
theorem of_drawOutage?_eq_some {chance : Chance σ ν} {tick : Nat} {s : σ} {o : Outage}
    (h : (drawOutage? chance tick s).1 = some o) :
    o.service ∈ Simulation.services ∧ o.start = tick ∧ 3 ≤ o.duration ∧ o.duration ≤ 9 := by
  unfold drawOutage? at h
  simp only at h
  split at h
  · cases h
    have hextension := (chance.extension (chance.victim (chance.strike s).2).2).1.isLt
    exact ⟨List.getElem_mem _, rfl, Nat.le_add_right 3 _, by simp only; omega⟩
  · cases h

/-! ### Reports -/

/-- A tick reports every service, and those as down that are down when it ends. -/
theorem services_reportAfter (chance : Chance σ ν) (source : σ) (n : Nat) (now : Int64) :
    (reportAfter chance source n now : Report κ ν).services =
      some (Simulation.services.map (serviceOf (after chance source (n + 1)).down)) := rfl

/-- The ids of the services that are reported. -/
theorem ids_map_serviceOf (down : List String) : ((Simulation.services.map fun id =>
    (serviceOf down id : ReportedService κ)).map (·.id)) = Simulation.services := by
  rw [List.map_map]
  exact List.map_id' _

/-- A tick goes through the routes when the outages are settled. -/
theorem links_reportAfter (chance : Chance σ ν) (source : σ) (n : Nat) (now : Int64) :
    (reportAfter chance source n now : Report κ ν).links =
      let m := after chance source (n + 1)
      (links chance m.tick m.down (Simulation.routes.zip m.phases)
        ((after chance source n).schedule chance).source).1 := rfl

end Simulator

/-! ## Time -/

theorem Outage.isOver_iff (o : Outage) (tick : Nat) :
    o.isOver tick = true ↔ o.start + o.duration ≤ tick := decide_eq_true_iff

theorem Outage.covers_iff (o : Outage) (tick : Nat) :
    o.covers tick = true ↔ o.start ≤ tick ∧ tick < o.start + o.duration := by
  simp [covers, isOver]

namespace Simulator

variable {σ ν κ : Type}

/-! ## One tick -/

/-- At most one outage is stored; it covers the present tick, it is as long as an outage may be, and
it is an outage of a service that there is. A simulation begins with no outage, and each tick keeps
this whatever is drawn. -/
structure IsSound (m : Simulator σ ν) : Prop where
  single : m.outages.length ≤ 1
  covers : ∀ o ∈ m.outages, o.covers m.tick = true
  bounded : ∀ o ∈ m.outages, 3 ≤ o.duration ∧ o.duration ≤ 9
  known : ∀ o ∈ m.outages, o.service ∈ Simulation.services

/-- A stored outage is the only one. -/
theorem IsSound.outages_eq {m : Simulator σ ν} (h : m.IsSound) {o : Outage} (ho : o ∈ m.outages) :
    m.outages = [o] := by
  obtain ⟨other, hother⟩ := List.length_eq_one_iff.mp
    (Nat.le_antisymm h.single (List.length_pos_of_mem ho))
  rw [hother] at ho ⊢
  rw [List.mem_singleton.mp ho]

theorem isSound_start (chance : Chance σ ν) (source : σ) : (start chance source).IsSound where
  single := Nat.zero_le 1
  covers := List.forall_mem_nil _
  bounded := List.forall_mem_nil _
  known := List.forall_mem_nil _

variable [Scalar ν]

section Tick

variable {chance : Chance σ ν} {m : Simulator σ ν} {o : Outage}

/-- An outage that is not over by the next tick is kept, and no other is drawn. -/
theorem IsSound.outages_next_of_not_isOver (h : m.IsSound) (ho : o ∈ m.outages)
    (hover : o.isOver (m.tick + 1) = false) : (m.next chance).outages = [o] := by
  rw [outages_next, h.outages_eq ho]
  simp [hover]

/-- Where no outage is left for the next tick, one may be drawn. -/
theorem IsSound.outages_next_of_isOver (hover : ∀ o ∈ m.outages, o.isOver (m.tick + 1) = true) :
    (m.next chance).outages = (drawOutage? chance (m.tick + 1) m.source).1.toList := by
  have hleft : m.outages.filter (!·.isOver (m.tick + 1)) = [] := by
    rw [List.filter_eq_nil_iff]
    intro o ho
    simp [hover o ho]
  rw [outages_next]
  simp [hleft]

/-- What is stored after a tick was stored before it and is not over, or the tick has drawn it. -/
theorem mem_outages_next (h : o ∈ (m.next chance).outages) :
    o ∈ m.outages ∧ o.isOver (m.tick + 1) = false ∨
      (drawOutage? chance (m.tick + 1) m.source).1 = some o := by
  rw [outages_next] at h
  simp only at h
  split at h
  · exact .inr (Option.mem_toList.mp h)
  · obtain ⟨hmem, hleft⟩ := List.mem_filter.mp h
    exact .inl ⟨hmem, by simpa using hleft⟩

theorem IsSound.next (h : m.IsSound) : (m.next chance).IsSound where
  single := by
    rw [outages_next]
    simp only
    split
    · cases (drawOutage? chance (m.tick + 1) m.source).1 <;> simp
    · exact Nat.le_trans (List.length_filter_le ..) h.single
  covers o ho := by
    rw [tick_next, Outage.covers_iff]
    -- What is stored after a tick was stored before and is not over, or has just been drawn.
    obtain ⟨hmem, hleft⟩ | hdrawn := mem_outages_next ho
    · have hbefore := (o.covers_iff m.tick).mp (h.covers o hmem)
      rw [← Bool.not_eq_true, Outage.isOver_iff] at hleft
      omega
    · obtain ⟨-, hstart, hshort, -⟩ := of_drawOutage?_eq_some hdrawn
      omega
  bounded o ho := by
    obtain ⟨hmem, -⟩ | hdrawn := mem_outages_next ho
    · exact h.bounded o hmem
    · exact (of_drawOutage?_eq_some hdrawn).2.2
  known o ho := by
    obtain ⟨hmem, -⟩ | hdrawn := mem_outages_next ho
    · exact h.known o hmem
    · exact (of_drawOutage?_eq_some hdrawn).1

end Tick

/-! ## All ticks -/

section Run

variable (chance : Chance σ ν) (source : σ)

theorem isSound_after (n : Nat) : (after chance source n).IsSound := by
  induction n with
  | zero => exact isSound_start chance source
  | succ n ih => exact ih.next

variable {chance source}

theorem covers_of_mem_after {n : Nat} {o : Outage} (h : o ∈ (after chance source n).outages) :
    o.start ≤ n ∧ n < o.start + o.duration := by
  have hcovers := (isSound_after chance source n).covers o h
  rwa [tick_after, Outage.covers_iff] at hcovers

/-- A stored outage has been stored since it began. -/
theorem mem_after_start {n : Nat} {o : Outage} (h : o ∈ (after chance source n).outages) :
    o ∈ (after chance source o.start).outages := by
  induction n with
  | zero => cases h
  | succ n ih =>
    obtain ⟨hmem, -⟩ | hdrawn := mem_outages_next h
    · exact ih hmem
    · rw [tick_after] at hdrawn
      rwa [(of_drawOutage?_eq_some hdrawn).2.1]

/-- An outage stays stored as long as it lasts. With the converse, that what is stored covers the
tick, it tells exactly when an outage is stored. -/
theorem mem_after_of_covers {o : Outage} (h : o ∈ (after chance source o.start).outages) {k : Nat}
    (hstart : o.start ≤ k) (hend : k < o.start + o.duration) :
    o ∈ (after chance source k).outages := by
  induction hstart with
  | refl => exact h
  | @step k hstart ih =>
    have hmem := ih (Nat.lt_of_succ_lt hend)
    -- Not over at the next tick, hence kept, and no other one is drawn beside it.
    have hleft : o.isOver ((after chance source k).tick + 1) = false := by
      rw [tick_after, ← Bool.not_eq_true, Outage.isOver_iff]
      omega
    rw [after, (isSound_after chance source k).outages_next_of_not_isOver hmem hleft]
    exact List.mem_singleton_self o

/-- An outage that is stored at some time is stored in exactly the ticks that it covers. -/
theorem mem_after_iff {n : Nat} {o : Outage} (h : o ∈ (after chance source n).outages) (k : Nat) :
    o ∈ (after chance source k).outages ↔ o.start ≤ k ∧ k < o.start + o.duration :=
  ⟨covers_of_mem_after, fun hk => mem_after_of_covers (mem_after_start h) hk.1 hk.2⟩

/-- With the end of an outage it is again a matter of chance whether there is one. There may be
another one at once: nothing keeps a service up for a while. -/
theorem outages_after_end {n : Nat} {o : Outage} (h : o ∈ (after chance source n).outages) {k : Nat}
    (hend : k + 1 = o.start + o.duration) :
    (after chance source (k + 1)).outages =
      (drawOutage? chance (k + 1) (after chance source k).source).1.toList := by
  have hsound := isSound_after chance source k
  have hlong := ((isSound_after chance source n).bounded o h).1
  have hmem : o ∈ (after chance source k).outages := (mem_after_iff h k).mpr (by omega)
  -- The outage was the only one, so with its end all are over, and only then is another one drawn.
  have hover : ∀ other ∈ (after chance source k).outages,
      other.isOver ((after chance source k).tick + 1) = true := by
    rw [hsound.outages_eq hmem, List.forall_mem_singleton, tick_after, Outage.isOver_iff]
    omega
  rw [after, IsSound.outages_next_of_isOver hover, tick_after]

end Run

end Simulator

/-! ## Reports -/

/-- Ids of the services that are reported with the given word for their status. -/
def Report.idsWith {κ ν : Type} (r : Report κ ν) (word : String) : List String :=
  ((r.services.getD []).filter (·.status == some word)).map (·.id)

namespace Simulation

theorem nodup_services : services.Nodup := by
  have hnodup := nodup_map_distinctOn id (routes.flatMap fun r => [r.source, r.target])
  rwa [List.map_id] at hnodup

/-- Of the services one is left if a single one is looked for. -/
theorem filter_services_contains {down : List String} (hlength : down.length ≤ 1)
    (hknown : ∀ id ∈ down, id ∈ services) : services.filter (down.contains ·) = down := by
  match down, hlength with
  | [], _ => simp
  | [id], _ =>
    have hcontains : (fun x => [id].contains x) = (· == id) := by
      funext x
      simp [Bool.beq_eq_decide_eq]
    rw [hcontains, List.filter_beq, List.count_eq_one_of_mem nodup_services
      (hknown id (List.mem_singleton_self id))]
    rfl

end Simulation

namespace Simulator

variable {σ ν κ : Type} [Scalar ν] (chance : Chance σ ν) (source : σ)

omit [Scalar ν] in
/-- The services of a simulation that a report calls down, and those that it calls up. -/
theorem idsWith_of_services {r : Report κ ν} {down : List String}
    (h : r.services = some (Simulation.services.map (serviceOf down))) :
    r.idsWith "down" = Simulation.services.filter (down.contains ·) ∧
      r.idsWith "up" = Simulation.services.filter (!down.contains ·) := by
  -- Both words at once; what differs is only which of the two texts is compared.
  have hwords (word : String) : r.idsWith word = Simulation.services.filter fun id =>
      (if down.contains id then "down" else "up") == word := by
    rw [Report.idsWith, h, Option.getD_some, List.filter_map, List.map_map]
    exact List.map_id' _
  rw [hwords, hwords]
  constructor
  · apply List.filter_congr
    intro id _
    cases down.contains id <;> rfl
  · apply List.filter_congr
    intro id _
    cases down.contains id <;> rfl

/-- In every tick the services with a stored outage are down. -/
theorem down_after (n : Nat) :
    (after chance source n).down = (after chance source n).outages.map (·.service) := by
  rw [down, List.filter_eq_self.mpr (isSound_after chance source n).covers]

/-- What a tick reports as down, and what as up. -/
theorem idsWith_reportAfter (n : Nat) (now : Int64) :
    let r : Report κ ν := reportAfter chance source n now
    let down := (after chance source (n + 1)).outages.map (·.service)
    r.idsWith "down" = down ∧ r.idsWith "up" = Simulation.services.filter (!down.contains ·) := by
  intro r down
  have hsound := isSound_after chance source (n + 1)
  have hservices := services_reportAfter (κ := κ) chance source n now
  rw [down_after] at hservices
  obtain ⟨hdown, hup⟩ := idsWith_of_services hservices
  refine ⟨hdown.trans ?_, hup⟩
  apply Simulation.filter_services_contains
  · rw [List.length_map]
    exact hsound.single
  · exact List.forall_mem_map.mpr hsound.known

/-! ## Main statement -/

/-- **One outage at a time.** After any number of ticks, whatever the draws, at most one outage is
stored; it covers the present tick and lasts for three to nine. A tick reports exactly the service
of the outage that is stored then as down, and every other one as up. An outage that is stored at
some time is stored in the ticks that it covers and in no others; in these ticks no other service is
down; and with the first tick behind them it is gone, and only the draws of that tick tell whether
there is an outage again, which then begins there.

The invariant `IsSound` says that an outage which is stored covers the present tick. So it is stored
from its start on, by induction over the ticks, and since there is one at most, nothing else is. -/
theorem outages_of_run :
    (∀ n, (after chance source n).tick = n ∧ (after chance source n).outages.length ≤ 1) ∧
      (∀ n, ∀ o ∈ (after chance source n).outages,
        o.start ≤ n ∧ n < o.start + o.duration ∧ 3 ≤ o.duration ∧ o.duration ≤ 9) ∧
      (∀ n now, let r : Report κ ν := reportAfter chance source n now
        let down := (after chance source (n + 1)).outages.map (·.service)
        (r.services.getD []).map (·.id) = Simulation.services ∧ r.idsWith "down" = down ∧
          r.idsWith "up" = Simulation.services.filter (!down.contains ·)) ∧
      ∀ n, ∀ o ∈ (after chance source n).outages,
        (∀ k, o ∈ (after chance source k).outages ↔ o.start ≤ k ∧ k < o.start + o.duration) ∧
          (∀ k now, o.start ≤ k + 1 → k + 1 < o.start + o.duration →
            (reportAfter chance source k now : Report κ ν).idsWith "down" = [o.service]) ∧
          ∀ k, k + 1 = o.start + o.duration →
            (after chance source (k + 1)).outages =
                (drawOutage? chance (k + 1) (after chance source k).source).1.toList ∧
              ∀ next ∈ (after chance source (k + 1)).outages, next.start = k + 1 := by
  refine ⟨?_, ?_, ?_, ?_⟩
  · intro n
    exact ⟨tick_after chance source n, (isSound_after chance source n).single⟩
  · intro n o ho
    -- From here on all is read off the invariant, `isSound_after`, and off what it says of two
    -- ticks.
    obtain ⟨hstart, hend⟩ := covers_of_mem_after ho
    exact ⟨hstart, hend, (isSound_after chance source n).bounded o ho⟩
  · intro n now r down
    exact ⟨ids_map_serviceOf (after chance source (n + 1)).down,
      idsWith_reportAfter chance source n now⟩
  · intro n o ho
    refine ⟨mem_after_iff ho, ?_, ?_⟩
    · intro k now hstart hend
      have hmem : o ∈ (after chance source (k + 1)).outages :=
        (mem_after_iff ho (k + 1)).mpr ⟨hstart, hend⟩
      -- Stored in tick `k + 1`, the outage is the only one, so the list of what is down is settled.
      rw [(idsWith_reportAfter chance source k now).1,
        (isSound_after chance source (k + 1)).outages_eq hmem, List.map_singleton]
    · intro k hend
      -- The outage ends, and nothing else was stored beside it, so the draw decides alone.
      have hdrawn := outages_after_end ho hend
      refine ⟨hdrawn, ?_⟩
      intro next hnext
      rw [hdrawn, Option.mem_toList] at hnext
      exact (of_drawOutage?_eq_some hnext).2.1

theorem services_pos : 0 < Simulation.services.length := by
  rw [Simulation.length_services]
  exact Nat.succ_pos 14

/-- Where chance never spares a service, one outage follows upon the other without a pause. -/
theorem outages_of_run_without_pause :
    let chance : Chance Unit Rat :=
      { phase := fun s => (0, s)
        noise := fun s => (0, s)
        strike := fun s => (0, s)
        victim := fun s => (⟨0, services_pos⟩, s)
        extension := fun s => (0, s)
        wave := id }
    let m := after chance ()
    let first : Outage := ⟨"web-app", 1, 3⟩
    (m 1).outages = [first] ∧ (∀ k, first ∈ (m k).outages ↔ 1 ≤ k ∧ k < 4) ∧
      (m 4).outages = [⟨"web-app", 4, 3⟩] := by
  intro chance m first
  have hfirst : (m 1).outages = [first] := by decide +kernel
  have hstored : first ∈ (m 1).outages := by
    rw [hfirst]
    exact List.mem_singleton_self first
  -- All ticks at once; no computation reaches that far.
  obtain ⟨hticks, -, -⟩ := (outages_of_run (κ := Rat) chance ()).2.2.2 1 first hstored
  exact ⟨hfirst, hticks, by decide +kernel⟩

end Simulator

end TrafficMap
