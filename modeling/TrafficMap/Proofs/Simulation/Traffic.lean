import TrafficMap.Proofs.Simulation.Outages
import TrafficMap.Proofs.Simulation.Rates

/-!
# Simulation: Traffic

What becomes of the reports of a simulation when they are normalized. Every tick reports one link
for each route, in order, and a rate that may be reported for it; `exists_rates` reads that off the
loop over the routes. All ends are services of the simulation, so normalization drops nothing, and
its volumes are the reported rates.
-/

namespace TrafficMap

namespace Simulation

/-- The ends of the routes, source before target. -/
theorem isFirstOccurrences_services :
    IsFirstOccurrences services (routes.flatMap fun r => [r.source, r.target]) := by
  have hfirst := isFirstOccurrences_distinctOn id (routes.flatMap fun r => [r.source, r.target])
  rwa [List.map_id, List.map_id] at hfirst

theorem ends_mem_services {r : Route} (hr : r ∈ routes) :
    r.source ∈ services ∧ r.target ∈ services := by
  simp only [isFirstOccurrences_services.mem_iff, List.mem_flatMap]
  exact ⟨⟨r, hr, by simp⟩, ⟨r, hr, by simp⟩⟩

end Simulation

/-- The link of a route with a volume. -/
def Route.link {ν : Type} (r : Route) (volume : ν) : Link ν := ⟨r.source, r.target, volume, r.kind⟩

namespace Simulator

variable {σ κ ν : Type}

/-! ## Draws -/

/-- One draw for each element, and nothing but draws. -/
theorem forall₂_drawEach {α : Type} (draw : σ → ν × σ) (xs : List α) (s : σ) :
    List.Forall₂ (fun _ y => ∃ t, y = (draw t).1) xs (drawEach draw xs s).1 := by
  induction xs generalizing s with
  | nil => exact .nil
  | cons x xs ih => exact .cons ⟨s, rfl⟩ (ih (draw s).2)

variable [Scalar ν] (chance : Chance σ ν) (source : σ)

/-- The phases stay those that were drawn before the first tick. -/
theorem phases_after (n : Nat) :
    (after chance source n).phases = (start chance source).phases := by
  induction n with
  | zero => rfl
  | succ n ih => rw [after, phases_next, ih]

/-! ## Links of a tick -/

/-- The loop over the routes gives each of them a rate that may be reported. Nothing is assumed
about where the draws lie, and the routes may be any list. -/
theorem exists_rates_links (tick : Nat) (down : List String) {routes : List Route} {phases : List ν}
    (h : List.Forall₂ (fun _ phase => ∃ t, phase = (chance.phase t).1) routes phases) (s : σ) :
    ∃ rates, List.Forall₂ (MayReport chance tick down) routes rates ∧
      (links chance tick down (routes.zip phases) s).1 = List.zipWith linkOf routes rates := by
  -- The generator's state differs from route to route: the noise is drawn only for a route that is
  -- up.
  induction h generalizing s with
  | nil => exact ⟨[], .nil, rfl⟩
  | @cons route phase routes phases hphase _ ih =>
    obtain ⟨t, rfl⟩ := hphase
    -- A route to a service that is down reports a twentieth of its rate and draws nothing.
    by_cases hdown : down.contains route.target = true
    · obtain ⟨rates, hrates, hlinks⟩ := ih s
      refine ⟨Scalar.ofCount route.rate * 0.05 :: rates, .cons ?_ hrates, ?_⟩
      · rw [MayReport, if_pos (List.contains_iff_mem.mp hdown)]
      · rw [List.zip_cons_cons, links, List.zipWith_cons_cons, ← hlinks]
        simp only [hdown, if_true]
    · obtain ⟨rates, hrates, hlinks⟩ := ih (chance.noise s).2
      refine ⟨rateOf (Scalar.ofCount route.rate) (swing chance tick t) (chance.noise s).1 :: rates,
        .cons ?_ hrates, ?_⟩
      · rw [MayReport, if_neg (mt List.contains_iff_mem.mpr hdown)]
        exact ⟨t, s, rfl⟩
      · rw [List.zip_cons_cons, links, List.zipWith_cons_cons, ← hlinks]
        simp only [hdown]
        rfl

/-- Every tick reports a link for each route, in their order, with a rate that may be reported. -/
theorem exists_rates (n : Nat) (now : Int64) :
    ∃ rates, List.Forall₂ (MayReport chance (n + 1) (after chance source (n + 1)).down)
        Simulation.routes rates ∧
      (reportAfter chance source n now : Report κ ν).links =
        List.zipWith linkOf Simulation.routes rates := by
  have hphases : List.Forall₂ (fun _ phase => ∃ t, phase = (chance.phase t).1) Simulation.routes
      (after chance source (n + 1)).phases := by
    rw [phases_after]
    exact forall₂_drawEach chance.phase Simulation.routes source
  simp only [links_reportAfter, tick_after]
  exact exists_rates_links chance (n + 1) _ hphases _

/-! ## Normalized reports -/

section Normalized

variable [Scalar κ] (registry : Registry κ) (fetchedAt : Int64)

/-- A tick describes every service once, so its snapshot has these services and no others. -/
theorem ids_normalize_reportAfter (n : Nat) (now : Int64) :
    ((reportAfter chance source n now : Report κ ν).normalize registry fetchedAt).services.map
      (·.id) = Simulation.services := by
  -- A report with an empty list of services would be resolved from the ends of its links.
  have hne : Simulation.services.map
      (serviceOf (κ := κ) (after chance source (n + 1)).down) ≠ [] := by
    rw [Ne, List.map_eq_nil_iff, ← List.length_eq_zero_iff, Simulation.length_services]
    decide
  rw [Report.normalize, Report.resolveServices_of_described
    (services_reportAfter chance source n now) hne, ids_describedServices, distinctOn_eq_self,
    ids_map_serviceOf]
  rw [ids_map_serviceOf]
  exact Simulation.nodup_services

omit [Scalar κ] in
theorem complete?_linkOf (r : Route) (value : ν) :
    (linkOf r value).complete? = some (r.link (usableVolume (some value))) := by
  simp [linkOf, ReportedLink.complete?, Route.link, TrafficKind.ofText_text]

omit [Scalar κ] in
theorem filterMap_complete?_zipWith (routes : List Route) (rates : List ν) :
    (List.zipWith linkOf routes rates).filterMap (·.complete?) =
      List.zipWith (fun r v => r.link (usableVolume (some v))) routes rates := by
  induction routes generalizing rates with
  | nil => rfl
  | cons r routes ih =>
    cases rates with
    | nil => rfl
    | cons v rates =>
      rw [List.zipWith_cons_cons, List.zipWith_cons_cons,
        List.filterMap_cons_some (complete?_linkOf r v), ih]

/-- Normalization drops no link of a tick, and keeps each rate that is usable. All ends are services
of the simulation, whatever the rates are. -/
theorem links_normalize_reportAfter {R : Route → ν → Prop} {n : Nat} {now : Int64} {rates : List ν}
    (hrates : List.Forall₂ R Simulation.routes rates)
    (h : (reportAfter chance source n now : Report κ ν).links =
      List.zipWith linkOf Simulation.routes rates) :
    ((reportAfter chance source n now : Report κ ν).normalize registry fetchedAt).links =
      List.zipWith (fun r v => r.link (usableVolume (some v))) Simulation.routes rates := by
  have hids := ids_normalize_reportAfter (κ := κ) chance source registry fetchedAt n now
  -- What the filter asks of a link depends on its ends alone, so the volumes may be anything.
  have hjoins : List.Forall (fun e : Link ν => e.joins Simulation.services = true)
      (List.zipWith (fun r v => r.link (usableVolume (some v))) Simulation.routes rates) := by
    have hroutes := (List.forall₂_and_left _ _).mpr ⟨fun _ hr => hr, hrates⟩
    rw [List.forall_zipWith hrates.length_eq]
    refine hroutes.imp ?_
    intro r v ⟨hr, _⟩
    exact (Link.joins_iff _ _).mpr (Simulation.ends_mem_services hr)
  simp only [Report.normalize] at hids ⊢
  rw [hids, Report.completeLinks, h, filterMap_complete?_zipWith]
  exact List.filter_eq_self.mpr (List.forall_iff_forall_mem.mp hjoins)

/-- Where every rate that may be reported is usable, the snapshot of a tick has a link for each
route, with the rate that was reported for it. -/
theorem exists_rates_normalize (n : Nat) (now : Int64)
    (husable : ∀ r ∈ Simulation.routes, ∀ v,
      MayReport chance (n + 1) (after chance source (n + 1)).down r v → usableVolume (some v) = v) :
    ∃ rates, List.Forall₂ (fun r v => r ∈ Simulation.routes ∧
        MayReport chance (n + 1) (after chance source (n + 1)).down r v) Simulation.routes rates ∧
      (reportAfter chance source n now : Report κ ν).links =
        List.zipWith linkOf Simulation.routes rates ∧
      ((reportAfter chance source n now : Report κ ν).normalize registry fetchedAt).links =
        List.zipWith Route.link Simulation.routes rates := by
  obtain ⟨rates, hrates, hlinks⟩ := exists_rates (κ := κ) chance source n now
  have hroutes := (List.forall₂_and_left _ _).mpr ⟨fun _ hr => hr, hrates⟩
  refine ⟨rates, hroutes, hlinks, ?_⟩
  -- Normalization replaces each rate by its usable part, which is the rate itself.
  rw [links_normalize_reportAfter chance source registry fetchedAt hrates hlinks]
  refine List.zipWith_congr _ _ _ _ (hroutes.imp ?_)
  intro r v ⟨hr, hv⟩
  rw [husable r hr v hv]

end Normalized

/-! ## Main statement -/

theorem forall₂_zipWith {α β γ : Type} {R : α → β → Prop} {S : α → γ → Prop} {f : α → β → γ}
    {as : List α} {bs : List β} (h : List.Forall₂ R as bs) (hS : ∀ a b, R a b → S a (f a b)) :
    List.Forall₂ S as (List.zipWith f as bs) := by
  induction h with
  | nil => exact .nil
  | cons hab _ ih => exact .cons (hS _ _ hab) ih

theorem forall₂_getElem? {α β : Type} {R : α → β → Prop} {as : List α} {bs : List β}
    (h : List.Forall₂ R as bs) {i : Nat} {b : β} (hb : bs[i]? = some b) :
    ∃ a, as[i]? = some a ∧ R a b := by
  induction h generalizing i with
  | nil => cases hb
  | @cons a b' as bs hab _ ih =>
    cases i with
    | zero =>
      cases hb
      exact ⟨a, rfl, hab⟩
    | succ i => exact ih hb

/-- What is reported as down is what is down. A report shows the state after its tick, not the one
before. -/
theorem idsWith_down_reportAfter (n : Nat) (now : Int64) :
    (reportAfter chance source n now : Report κ ν).idsWith "down" =
      (after chance source (n + 1)).down := by
  rw [(idsWith_reportAfter chance source n now).1, down_after]

/-- **Simulated traffic is bounded and comes through normalization without a loss.** The snapshot of
a tick has the services of the simulation, each once and in the order in which the routes name them,
and for each route in order one link; it was taken at the time of the tick. As long as all draws are
in their ranges, the volume of each link is the rate that was reported, in floats as in real
numbers.

In real numbers, with any wave between minus one and one, that is a twentieth of the route's rate
while the target is reported as down; otherwise it is from half to one and a half times that rate,
and nothing was cut off at zero. So at no time does a route to a service that is down have as much
traffic as at any time at which the service is up.

The loop over the routes draws as it goes along, so a rate depends on all draws before it. What it
keeps is that every rate is one that may be reported, and all bounds are read off that. -/
theorem traffic_of_run [Scalar κ] (registry : Registry κ) (fetchedAt : Int64) :
    (∀ {ν : Type} [Scalar ν] (chance : Chance σ ν) (source : σ) (n : Nat) (now : Int64),
        let s := (reportAfter chance source n now : Report κ ν).normalize registry fetchedAt
        s.services.map (·.id) = Simulation.services ∧
          List.Forall₂ (fun r e => e.source = r.source ∧ e.target = r.target ∧ e.kind = r.kind)
            Simulation.routes s.links ∧
          s.capturedAt = now) ∧
      IsFirstOccurrences Simulation.services
        (Simulation.routes.flatMap fun r => [r.source, r.target]) ∧
      (∀ chance : Chance σ Float, chance.IsInRange → ∀ source n now,
        let r : Report κ Float := reportAfter chance source n now
        (r.normalize registry fetchedAt).links.map (some ·.volume) = r.links.map (·.value)) ∧
      ∀ chance : Chance σ ℝ, chance.IsInRange → ∀ source,
        let r n now : Report κ ℝ := reportAfter chance source n now
        let links n now := ((r n now).normalize registry fetchedAt).links
        let down n now := (r n now).idsWith "down"
        (∀ n now, (links n now).map (some ·.volume) = (r n now).links.map (·.value) ∧
            List.Forall₂ (fun r e => IsExactVolume chance (n + 1) (down n now) r e.volume)
              Simulation.routes (links n now)) ∧
          ∀ (n n' : Nat) (now now' : Int64) (i : Nat), ∀ e ∈ (links n now)[i]?,
            ∀ e' ∈ (links n' now')[i]?, e.target ∈ down n now → e'.target ∉ down n' now' →
              e.volume < e'.volume := by
  -- Any scalars, then floats, then real numbers: only the last two say that the rates are usable.
  refine ⟨?_, Simulation.isFirstOccurrences_services, ?_, ?_⟩
  · intro ν _ chance source n now s
    -- No range is assumed here, so a volume may have been cut off at zero; its ends were not.
    obtain ⟨rates, hrates, hlinks⟩ := exists_rates (κ := κ) chance source n now
    refine ⟨ids_normalize_reportAfter chance source registry fetchedAt n now, ?_, rfl⟩
    show List.Forall₂ _ _ s.links
    rw [links_normalize_reportAfter chance source registry fetchedAt hrates hlinks]
    exact forall₂_zipWith hrates fun _ _ _ => ⟨rfl, rfl, rfl⟩
  · intro chance hrange source n now r
    obtain ⟨rates, -, hreported, hlinks⟩ :=
      exists_rates_normalize chance source registry fetchedAt n now
        fun _ hr _ hv => usableVolume_of_mayReport hrange hr hv
    rw [hlinks, hreported, List.map_zipWith, List.map_zipWith]
    rfl
  · intro chance hrange source r links down
    -- Membership in the routes and the target are kept beside the volume: the comparison of two
    -- ticks has to know that both links are of one route.
    have htick (n : Nat) (now : Int64) :
        (links n now).map (some ·.volume) = (r n now).links.map (·.value) ∧
          List.Forall₂ (fun route e => route ∈ Simulation.routes ∧ e.target = route.target ∧
            IsExactVolume chance (n + 1) (down n now) route e.volume)
            Simulation.routes (links n now) := by
      have hdown : down n now = (after chance source (n + 1)).down :=
        idsWith_down_reportAfter chance source n now
      obtain ⟨rates, hrates, hreported, hlinks⟩ :=
        exists_rates_normalize (κ := κ) chance source registry fetchedAt n now
          fun _ hr _ hv => (isExactVolume_of_mayReport hrange hr hv).usable hr
      refine ⟨?_, ?_⟩
      · show List.map _ (Report.normalize _ _ _).links = List.map _ (Report.links _)
        rw [hlinks, hreported, List.map_zipWith, List.map_zipWith]
        rfl
      · rw [hdown]
        show List.Forall₂ _ _ (Report.normalize _ _ _).links
        rw [hlinks]
        refine forall₂_zipWith hrates ?_
        intro route v ⟨hmem, hv⟩
        exact ⟨hmem, rfl, isExactVolume_of_mayReport hrange hmem hv⟩
    refine ⟨?_, ?_⟩
    · intro n now
      exact ⟨(htick n now).1, (htick n now).2.imp fun _ _ h => h.2.2⟩
    · intro n n' now now' i e he e' he' hdown hup
      -- One position means one route, so the volumes differ only by what the target's outage does.
      obtain ⟨route, hroute, hmem, htarget, hlow⟩ := forall₂_getElem? (htick n now).2 he
      obtain ⟨route', hroute', -, htarget', hhigh⟩ := forall₂_getElem? (htick n' now').2 he'
      obtain rfl : route = route' := Option.some_inj.mp (hroute.symm.trans hroute')
      rw [htarget] at hdown
      rw [htarget'] at hup
      exact hlow.lt hmem hhigh hdown hup

/-- The sine swings in range, and with an outage of the first target its first caller, with a rate
of 180 on average, is down to nine. -/
theorem traffic_of_run_of_sine :
    let chance : Chance Unit ℝ :=
      { phase := fun s => (0, s)
        noise := fun s => (0, s)
        strike := fun s => (0, s)
        victim := fun s => (⟨1, by decide +kernel⟩, s)
        extension := fun s => (0, s)
        wave := Real.sin }
    let r : Report ℝ ℝ := reportAfter chance () 0 0
    chance.IsInRange ∧ r.idsWith "down" = ["api-gateway"] ∧
      ∃ e ∈ (r.normalize .empty 0).links, e.target = "api-gateway" ∧ e.volume = 9 := by
  intro chance r
  have hrange : chance.IsInRange := {
    phase := fun _ => ⟨by norm_num, by norm_num⟩
    noise := fun _ => ⟨by norm_num, by norm_num⟩
    wave := by
      intro x _
      norm_num
      exact ⟨Real.neg_one_le_sin x, Real.sin_le_one x⟩ }
  have hdown : r.idsWith "down" = ["api-gateway"] := by decide +kernel
  refine ⟨hrange, hdown, ?_⟩
  obtain ⟨hends, -, -, hexact⟩ := traffic_of_run (κ := ℝ) (σ := Unit) .empty 0
  obtain ⟨-, hlinks, -⟩ := hends chance () 0 0
  have hvolumes : List.Forall₂
      (fun route e => IsExactVolume chance 1 ["api-gateway"] route e.volume)
      Simulation.routes (r.normalize .empty 0).links := by
    rw [← hdown]
    exact ((hexact chance hrange ()).1 0 0).2
  -- The first link by its ends and the first link by its volume are one link.
  obtain ⟨e, rest, htarget, -, hcons⟩ := List.forall₂_cons_left_iff.mp hlinks
  obtain ⟨e', rest', hvolume, -, hcons'⟩ := List.forall₂_cons_left_iff.mp hvolumes
  obtain rfl : e = e' := (List.cons.inj (hcons.symm.trans hcons')).1
  have hmem : e ∈ (r.normalize .empty 0).links := hcons ▸ List.mem_cons_self
  have hlow : e.volume = 0.05 * (180 : Nat) := by
    rw [IsExactVolume, if_pos (List.mem_singleton.mpr rfl)] at hvolume
    exact hvolume
  refine ⟨e, hmem, htarget.2.1, ?_⟩
  rw [hlow]
  norm_num

end Simulator

end TrafficMap
