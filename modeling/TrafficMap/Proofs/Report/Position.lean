import Mathlib
import TrafficMap.Proofs.Number.Overflow
import TrafficMap.Proofs.Report.Entries
import TrafficMap.Proofs.Report.ServiceSelection
import TrafficMap.Proofs.Topology.Registration
import TrafficMap.Report.Reader
import TrafficMap.Settings.Check
import TrafficMap.Settings.Reader

/-!
# Reports: Which Positions Are Points

A coordinate of a service comes from the metadata, or else from the configured placement, or else
from the built-in one, or else it is that of the center. Nothing on the way looks at its value: what
the first two give is passed on even if it is infinite or no number at all, and the last two are
always finite. So a coordinate is finite exactly if the one that was given is, or none was.

What a document gives is a number that may be too great for a 32-bit float, and what a configuration
gives may be any float; both are infinite from the limit of 32-bit floats on.
-/

namespace TrafficMap

/-! ## Numbers that are given -/

/-- The exact number in a document. -/
def Json.Number.toRat? : Json.Number → Option ℚ
  | .natural n => some n.toNat
  | .negative n => some n.toInt
  | .float x => (Binary.ofFloat x).toRat?

/-- A number in a document is a finite coordinate exactly if it is below the limit. -/
theorem Json.Number.isFinite_toFloat32_iff (n : Json.Number) :
    n.toFloat32.isFinite = true ↔ ∃ q, n.toRat? = some q ∧ |q| < float32Limit := by
  -- Words are far below the limit, so only a float can reach it.
  have hword {z : ℤ} (hz : z.natAbs ≤ 2 ^ 64) : |(z : ℚ)| < float32Limit := by
    have hcast : ((z.natAbs : Nat) : ℚ) ≤ ((2 ^ 64 : Nat) : ℚ) := Nat.cast_le.mpr hz
    rw [Nat.cast_natAbs, Int.cast_abs] at hcast
    push_cast at hcast
    calc |(z : ℚ)| ≤ 2 ^ 64 := hcast
      _ < float32Limit := by rw [float32Limit]; norm_num
  cases n with
  | natural n =>
    have hn := n.toNat_lt
    exact iff_of_true (isFinite_float32_of_natural n)
      ⟨_, rfl, hword (z := n.toNat) (by omega)⟩
  | negative n =>
    have hlow := n.le_toInt
    have hhigh := n.toInt_lt
    exact iff_of_true (isFinite_float32OfInt64 n) ⟨_, rfl, hword (z := n.toInt) (by omega)⟩
  | float x => exact isFinite_narrow_iff x

/-- A coordinate in an entry of the metadata is finite exactly if its number is below the limit. -/
theorem isFinite_reported_iff {entry : Json.Value} {key : String} {reported : Option Float32}
    (h : ∀ x, reported = some x ↔ ∃ n, Holds serviceKeys entry key (.number n) ∧ n.toFloat32 = x) :
    (∀ x ∈ reported, x.isFinite = true) ↔
      ∀ n, Holds serviceKeys entry key (.number n) → ∃ q, n.toRat? = some q ∧ |q| < float32Limit := by
  constructor
  · intro hfinite n hn
    exact n.isFinite_toFloat32_iff.mp (hfinite _ ((h _).mpr ⟨n, hn, rfl⟩))
  · intro hlimit x hx
    obtain ⟨n, hn, rfl⟩ := (h x).mp hx
    exact n.isFinite_toFloat32_iff.mpr (hlimit n hn)

/-- A coordinate in a configuration is finite exactly if its number is below the limit. -/
theorem Json5.isFinite_coordinate_iff {node : Json5.Node} {x : Float32}
    (h : Json5.coordinate node = .ok x) :
    x.isFinite = true ↔
      ∃ v q, Json5.float node = .ok v ∧ (Binary.ofFloat v).toRat? = some q ∧ |q| < float32Limit := by
  -- A coordinate is read with 64 bits and narrowed, so there are two roundings.
  rw [Json5.coordinate] at h
  cases hv : Json5.float node with
  | error fault =>
    rw [hv] at h
    cases h
  | ok v =>
    rw [hv] at h
    cases h
    simp [isFinite_narrow_iff]

/-! ## Coordinates that nobody gives -/

theorem isFinite_of_mem_builtinServices :
    ∀ s ∈ (Registry.builtinServices : List (ServicePlacement Float32)),
      s.x.isFinite = true ∧ s.y.isFinite = true := by
  decide +kernel

theorem isFinite_center :
    (Position.center : Position Float32).x.isFinite = true ∧
      (Position.center : Position Float32).y.isFinite = true := by
  decide +kernel

/-! ## Coordinates that are given -/

/-- The first entry of the metadata for an id. -/
def Report.metadata? {κ ν : Type} (r : Report κ ν) (id : String) : Option (ReportedService κ) :=
  (r.services.getD []).find? (·.id == id)

/-- A coordinate that the metadata give, or else the configuration. The places that are built in
come after both, and they are finite. -/
def Report.given? (r : Report Float32 Float) (layout : LayoutSettings)
    (reported : ReportedService Float32 → Option Float32)
    (placed : ServicePlacement Float32 → Float32) (id : String) : Option Float32 :=
  ((r.metadata? id).bind reported).or ((Registry.last? layout.services id).map placed)

/-- Where a coordinate is not given, it is finite. -/
theorem isFinite_getD_iff {given builtin : Option Float32} {fallback : Float32}
    (hbuiltin : ∀ x ∈ builtin, x.isFinite = true) (hfallback : fallback.isFinite = true) :
    ((given.or builtin).getD fallback).isFinite = true ↔ ∀ x ∈ given, x.isFinite = true := by
  cases given with
  | some x => simp
  | none =>
    cases builtin with
    | some x => simpa using hbuiltin x rfl
    | none => simpa using hfallback

theorem Report.completes_metadata {κ ν : Type} [Scalar κ] [Scalar ν] (r : Report κ ν)
    (registry : Registry κ) (fetchedAt : Int64) {s : Service κ}
    (hs : s ∈ (r.normalize registry fetchedAt).services) :
    s.Completes ((r.metadata? s.id).getD (.ofId s.id)) (registry.get? s.id) := by
  have hs' : s ∈ r.resolveServices registry := hs
  -- Without metadata the services are those that links name, and no entry is found for any.
  by_cases hnone : r.services = none ∨ r.services = some []
  · have hentry : r.metadata? s.id = none := by
      obtain h | h := hnone <;> simp [metadata?, h]
    rw [hentry]
    rw [Report.resolveServices_of_empty hnone] at hs'
    exact completes_of_mem_namedServices hs'
  · obtain ⟨entries, hentries⟩ := Option.ne_none_iff_exists'.mp fun h => hnone (Or.inl h)
    have hne : entries ≠ [] := by
      rintro rfl
      exact hnone (Or.inr hentries)
    rw [Report.resolveServices_of_described hentries hne] at hs'
    obtain ⟨entry, hfind, hcompletes⟩ := completes_of_mem_describedServices hs'
    have hentry : r.metadata? s.id = some entry := by simp [metadata?, hentries, hfind]
    rwa [hentry]

/-- One coordinate of a service, on its way through metadata, placements and defaults. -/
theorem Report.isFinite_coordinate_iff (r : Report Float32 Float) (layout : LayoutSettings)
    (id : String) {reported : ReportedService Float32 → Option Float32}
    {placed : ServicePlacement Float32 → Float32} {coordinate : Placement Float32 → Float32}
    {fallback : Float32} (hsilent : reported (.ofId id) = none)
    (hplaced : ∀ s, coordinate s.placement = placed s)
    (hbuiltin : ∀ s ∈ Registry.builtinServices, (placed s).isFinite = true)
    (hfallback : fallback.isFinite = true) :
    (((reported ((r.metadata? id).getD (.ofId id))).or
        ((layout.registry.get? id).map coordinate)).getD fallback).isFinite = true ↔
      ∀ x ∈ r.given? layout reported placed id, x.isFinite = true := by
  have hreported : reported ((r.metadata? id).getD (.ofId id)) = (r.metadata? id).bind reported := by
    cases r.metadata? id <;> simp [hsilent]
  have hcoordinate : coordinate ∘ ServicePlacement.placement = placed := funext hplaced
  rw [LayoutSettings.registry, Registry.get?_ofServices, hreported, Option.map_or, Option.map_map,
    hcoordinate, ← Option.or_assoc]
  refine isFinite_getD_iff ?_ hfallback
  -- Where the builtin services count, they are the last to say where a service is.
  intro x hx
  split at hx
  case isTrue => cases hx
  case isFalse =>
    rw [Option.map_map, hcoordinate] at hx
    obtain ⟨s, hs, rfl⟩ := Option.map_eq_some_iff.mp hx
    exact hbuiltin s (Registry.mem_of_last?_eq_some hs)

/-- **A position is a point unless somebody says otherwise.** Whatever the report and the settings,
a coordinate of a service in the snapshot is finite exactly if the one that the metadata give for it
is, or, where they give none, the one that the configuration gives. Where neither gives one, it is
always finite.

What is given is finite exactly if the number that is written is below the limit of 32-bit floats.
In metadata every number is one; a configuration may also have an infinity, or what is no number. -/
theorem Report.isFinite_position_normalize (r : Report Float32 Float) (layout : LayoutSettings)
    (fetchedAt : Int64) {s : Service Float32}
    (hs : s ∈ (r.normalize layout.registry fetchedAt).services) :
    (s.position.x.isFinite = true ↔
        ∀ x ∈ r.given? layout (·.x) (·.x) s.id, x.isFinite = true) ∧
      (s.position.y.isFinite = true ↔
        ∀ y ∈ r.given? layout (·.y) (·.y) s.id, y.isFinite = true) ∧
      (∀ entry e, ReadsAsService entry e →
        ((∀ x ∈ e.x, x.isFinite = true) ↔ ∀ n, Holds serviceKeys entry "x" (.number n) →
          ∃ q, n.toRat? = some q ∧ |q| < float32Limit) ∧
        ((∀ y ∈ e.y, y.isFinite = true) ↔ ∀ n, Holds serviceKeys entry "y" (.number n) →
          ∃ q, n.toRat? = some q ∧ |q| < float32Limit)) ∧
      ∀ node x, Json5.coordinate node = .ok x →
        (x.isFinite = true ↔ ∃ v q, Json5.float node = .ok v ∧
          (Binary.ofFloat v).toRat? = some q ∧ |q| < float32Limit) := by
  have hcompletes := r.completes_metadata layout.registry fetchedAt hs
  -- What is given may be infinite; the places that are built in and the center are finite.
  refine ⟨?x, ?y, fun entry e he => ⟨isFinite_reported_iff he.x, isFinite_reported_iff he.y⟩,
    fun _ _ => Json5.isFinite_coordinate_iff⟩
  case x =>
    rw [hcompletes.x]
    exact r.isFinite_coordinate_iff layout s.id rfl (fun _ => rfl)
      (fun placed hplaced => (isFinite_of_mem_builtinServices placed hplaced).1) isFinite_center.1
  case y =>
    rw [hcompletes.y]
    exact r.isFinite_coordinate_iff layout s.id rfl (fun _ => rfl)
      (fun placed hplaced => (isFinite_of_mem_builtinServices placed hplaced).2) isFinite_center.2

theorem Report.isFinite_position_of_half :
    let r : Report Float32 Float :=
      ⟨some [⟨"a", none, none, some 0.5, none, none⟩], [], none, none⟩
    ∃ s ∈ (r.normalize LayoutSettings.default.registry 0).services,
      s.position.x.isFinite = true ∧ s.position.y.isFinite = true := by
  intro r
  have hs : (ReportedService.mk "a" none none (some 0.5) none none).resolve
      LayoutSettings.default.registry ∈
        (r.normalize LayoutSettings.default.registry 0).services := List.mem_cons_self
  obtain ⟨hx, hy, -⟩ := r.isFinite_position_normalize LayoutSettings.default 0 hs
  refine ⟨_, hs, hx.mpr ?_, hy.mpr ?_⟩
  · rintro x ⟨rfl⟩
    decide
  · rintro y ⟨⟩

/-- A number that a 64-bit float holds and a 32-bit float does not makes an infinite position, and a
configuration may ask for such a one itself, or for one that is no number. -/
theorem Report.exists_position_not_isFinite :
    (Settings.ofText "\x7b\x7d" = .ok Settings.default ∧ Settings.default.check = .ok () ∧
      ∃ r, Report.ofBytes
          "\x7b\"nodes\":[\x7b\"id\":\"a\",\"x\":1e39,\"y\":-1e39\x7d],\"links\":[]\x7d".toUTF8.toList =
            .ok r ∧
        ∃ s ∈ (r.normalize Settings.default.layout.registry 0).services,
          s.position.x.isFinite = false ∧ s.position.y.isFinite = false) ∧
    ∃ settings, Settings.ofText
        "\x7b layout: \x7b services: [\x7b id: 'a', x: NaN, y: -Infinity \x7d] \x7d \x7d" = .ok settings ∧
      settings.check = .ok () ∧
      ∃ s ∈ ((⟨none, [⟨some "a", some "a", none, none⟩], none, none⟩ :
          Report Float32 Float).normalize settings.layout.registry 0).services,
        s.position.x.isFinite = false ∧ s.position.y.isFinite = false := by
  -- The records that the two documents are read as, written out: reading them is left to the
  -- kernel.
  let entry : ReportedService Float32 :=
    ⟨"a", none, none, some (1.0 / 0.0), some (-1.0 / 0.0), none⟩
  let settings : Settings :=
    { Settings.default with layout := ⟨false, [⟨"a", 0.0 / 0.0, -1.0 / 0.0, .unknown⟩]⟩ }
  constructor
  · refine ⟨by decide +kernel, by decide +kernel, ⟨some [entry], [], none, none⟩,
      by decide +kernel, entry.resolve Settings.default.layout.registry, List.mem_cons_self, ?_⟩
    decide +kernel
  · refine ⟨settings, by decide +kernel, by decide +kernel,
      (ReportedService.ofId "a").resolve settings.layout.registry, ?_, ?_⟩
    · exact List.mem_cons_self
    · decide +kernel

end TrafficMap
