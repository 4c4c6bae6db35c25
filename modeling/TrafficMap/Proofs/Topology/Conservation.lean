import TrafficMap.Proofs.Number.Comparison
import TrafficMap.Proofs.Report.LinkSelection
import TrafficMap.Session.Panel

/-!
# Topology: Conservation of Traffic

Every link of a normal snapshot ends at exactly one service and starts at exactly one. So whether
links are summed up service by service, at either end, or all at once is the same, for their number
and for their volume. `sum_filter_key` is that argument for elements with a key of any kind; it
needs that no key repeats and that no element has a key of its own.

Volumes are floats, and sums of floats depend on their order. `Snapshot.exactly` has the same
volumes as rational numbers, where sums are exact.
-/

namespace TrafficMap

variable {κ ν : Type}

/-! ## Summing by key -/

/-- Where every element has one of the keys and no key repeats, summing key by key is summing all
at once. -/
theorem sum_filter_key {α β M : Type} [DecidableEq β] [AddCommMonoid M] {keys : List β}
    (hnodup : keys.Nodup) (key : α → β) (f : α → M) {xs : List α} (hkeys : ∀ x ∈ xs, key x ∈ keys) :
    (keys.map fun k => ((xs.filter (key · == k)).map f).sum).sum = (xs.map f).sum := by
  induction xs with
  | nil => simp
  | cons x xs ih =>
    have hx : key x ∈ keys := hkeys x List.mem_cons_self
    have hrest : ∀ y ∈ xs, key y ∈ keys := fun y hy => hkeys y (List.mem_cons_of_mem x hy)
    -- The first element counts for its own key and for no other.
    have hsplit (k : β) : (((x :: xs).filter (key · == k)).map f).sum =
        (if key x = k then f x else 0) + ((xs.filter (key · == k)).map f).sum := by
      by_cases hk : key x = k <;> simp [hk]
    have hfirst : (keys.map fun k => if key x = k then f x else 0).sum = f x := by
      rw [List.sum_map_eq_nsmul_single (key x), List.count_eq_one_of_mem hnodup hx]
      · simp
      · intro k hk _
        rw [if_neg (Ne.symm hk)]
    calc (keys.map fun k => (((x :: xs).filter (key · == k)).map f).sum).sum
      _ = (keys.map fun k => if key x = k then f x else 0).sum +
          (keys.map fun k => ((xs.filter (key · == k)).map f).sum).sum := by
        simp only [hsplit, List.sum_map_add]
      _ = ((x :: xs).map f).sum := by rw [hfirst, ih hrest, List.map_cons, List.sum_cons]

/-- What satisfies one of two conditions, and what satisfies both. -/
theorem countP_add_countP {α : Type} (p q : α → Bool) (xs : List α) :
    xs.countP p + xs.countP q = xs.countP (fun x => p x || q x) + xs.countP fun x => p x && q x := by
  induction xs with
  | nil => rfl
  | cons x xs ih =>
    simp only [List.countP_cons]
    cases p x <;> cases q x <;> simp <;> omega

/-! ## Links at the services of a normal snapshot -/

namespace Snapshot.IsNormal

variable [Scalar ν] {s : Snapshot κ ν}

/-- A key of links that is the id of a service is the id of exactly one. -/
theorem existsUnique_service (h : s.IsNormal) {id : String} (hid : id ∈ s.services.map (·.id)) :
    ∃! i : Fin s.services.length, s.services[i].id = id := by
  obtain ⟨service, hmem, rfl⟩ := List.mem_map.mp hid
  obtain ⟨n, hn, rfl⟩ := List.getElem_of_mem hmem
  refine ⟨⟨n, hn⟩, rfl, ?_⟩
  intro i hi
  -- Two positions with the same id are the same position.
  have hids := h.nodup
  rw [List.nodup_iff_injective_getElem] at hids
  have hinj := @hids ⟨i, by simp⟩ ⟨n, by simpa using hn⟩ (by simpa using hi)
  exact Fin.ext (Fin.mk.inj hinj)

theorem source_mem (h : s.IsNormal) {e : Link ν} (he : e ∈ s.links) :
    e.source ∈ s.services.map (·.id) :=
  ((Link.joins_iff e _).mp (h.joined e he)).1

theorem target_mem (h : s.IsNormal) {e : Link ν} (he : e ∈ s.links) :
    e.target ∈ s.services.map (·.id) :=
  ((Link.joins_iff e _).mp (h.joined e he)).2

/-- A link is among the links of exactly one service, where its key is an id. -/
theorem existsUnique_filter (h : s.IsNormal) (key : Link ν → String) {e : Link ν}
    (he : e ∈ s.links) (hkey : key e ∈ s.services.map (·.id)) :
    ∃! i : Fin s.services.length, e ∈ s.links.filter (key · == s.services[i].id) := by
  have hiff (i : Fin s.services.length) :
      e ∈ s.links.filter (key · == s.services[i].id) ↔ s.services[i].id = key e := by
    rw [List.mem_filter, beq_iff_eq, eq_comm]
    exact and_iff_right he
  simpa only [hiff] using h.existsUnique_service hkey

/-- A link reaches exactly one service. -/
theorem existsUnique_inbound (h : s.IsNormal) {e : Link ν} (he : e ∈ s.links) :
    ∃! i : Fin s.services.length, e ∈ s.inbound s.services[i].id :=
  h.existsUnique_filter (·.target) he (h.target_mem he)

/-- A link leaves exactly one service. -/
theorem existsUnique_outbound (h : s.IsNormal) {e : Link ν} (he : e ∈ s.links) :
    ∃! i : Fin s.services.length, e ∈ s.outbound s.services[i].id :=
  h.existsUnique_filter (·.source) he (h.source_mem he)

/-- What links add up to, service by service at their targets. -/
theorem sum_inbound {M : Type} [AddCommMonoid M] (h : s.IsNormal) (f : Link ν → M) :
    (s.services.map fun x => ((s.inbound x.id).map f).sum).sum = (s.links.map f).sum := by
  have hsum := sum_filter_key h.nodup (·.target) f fun e he => h.target_mem he
  rwa [List.map_map] at hsum

/-- What links add up to, service by service at their sources. -/
theorem sum_outbound {M : Type} [AddCommMonoid M] (h : s.IsNormal) (f : Link ν → M) :
    (s.services.map fun x => ((s.outbound x.id).map f).sum).sum = (s.links.map f).sum := by
  have hsum := sum_filter_key h.nodup (·.source) f fun e he => h.source_mem he
  rwa [List.map_map] at hsum

theorem sum_length_inbound (h : s.IsNormal) :
    (s.services.map fun x => (s.inbound x.id).length).sum = s.links.length := by
  have hsum := h.sum_inbound fun _ => 1
  simpa using hsum

theorem sum_length_outbound (h : s.IsNormal) :
    (s.services.map fun x => (s.outbound x.id).length).sum = s.links.length := by
  have hsum := h.sum_outbound fun _ => 1
  simpa using hsum

end Snapshot.IsNormal

/-- A link between a service and itself counts at both ends, but it is one link of the service. -/
theorem Snapshot.length_inbound_add_length_outbound (s : Snapshot κ ν) (id : String) :
    (s.inbound id).length + (s.outbound id).length =
      (s.linksOf id).length + (s.linksOf id).countP (·.isLoop) := by
  have htouches : s.links.countP (·.touches id) =
      s.links.countP fun e => e.target == id || e.source == id := by
    apply List.countP_congr
    intro e _
    rw [Link.touches, Bool.or_comm]
  have hloops : (s.linksOf id).countP (·.isLoop) =
      s.links.countP fun e => e.target == id && e.source == id := by
    rw [linksOf, List.countP_filter]
    apply List.countP_congr
    intro e _
    simp only [Link.isLoop, Link.touches, Bool.and_eq_true, Bool.or_eq_true, beq_iff_eq]
    grind
  -- With lengths as counts it is the rule for two conditions on the list of all links.
  rw [hloops, inbound, outbound, linksOf, ← List.countP_eq_length_filter,
    ← List.countP_eq_length_filter, ← List.countP_eq_length_filter, htouches]
  exact countP_add_countP _ _ s.links

/-! ## Exact volumes -/

/-- The rational number that a float is, or zero if it is none. -/
def exactValue (v : Float) : ℚ := (Binary.ofFloat v).toRat?.getD 0

/-- A finite float is a rational number. -/
theorem toRat?_eq_exactValue {v : Float} (h : v.isFinite = true) :
    (Binary.ofFloat v).toRat? = some (exactValue v) := by
  obtain ⟨p, hp⟩ := exists_isExactly h
  rw [IsExactly] at hp
  rw [exactValue, hp, Option.getD_some]

/-- The link with its exact volume. -/
def Link.exactly (e : Link Float) : Link ℚ := ⟨e.source, e.target, exactValue e.volume, e.kind⟩

namespace Snapshot

/-- The snapshot with exact volumes, of which sums can be taken in any order. Rounding is left out
of account in this way: in floats the two totals may differ in their last digits. -/
def exactly (s : Snapshot κ Float) : Snapshot κ ℚ :=
  ⟨s.services, s.links.map .exactly, s.capturedAt, s.origin⟩

theorem inbound_exactly (s : Snapshot κ Float) (id : String) :
    s.exactly.inbound id = (s.inbound id).map .exactly := by
  rw [inbound, inbound, exactly, List.filter_map]
  rfl

theorem outbound_exactly (s : Snapshot κ Float) (id : String) :
    s.exactly.outbound id = (s.outbound id).map .exactly := by
  rw [outbound, outbound, exactly, List.filter_map]
  rfl

/-- Rational volumes are summed from zero, in the order of the links. -/
theorem volumeOf_eq_sum (links : List (Link ℚ)) : volumeOf links = (links.map (·.volume)).sum :=
  List.sum_eq_foldl.symm

theorem volumeOf_map_exactly (links : List (Link Float)) :
    volumeOf (links.map .exactly) = (links.map fun e => exactValue e.volume).sum := by
  rw [volumeOf_eq_sum, List.map_map]
  rfl

theorem IsNormal.sum_volumeInto {s : Snapshot κ Float} (h : s.IsNormal) :
    (s.services.map fun x => s.exactly.volumeInto x.id).sum = s.exactly.totalVolume := by
  simp only [volumeInto, inbound_exactly, volumeOf_map_exactly]
  rw [h.sum_inbound, totalVolume, exactly, volumeOf_map_exactly]

theorem IsNormal.sum_volumeOutOf {s : Snapshot κ Float} (h : s.IsNormal) :
    (s.services.map fun x => s.exactly.volumeOutOf x.id).sum = s.exactly.totalVolume := by
  simp only [volumeOutOf, outbound_exactly, volumeOf_map_exactly]
  rw [h.sum_outbound, totalVolume, exactly, volumeOf_map_exactly]

end Snapshot

/-! ## Normalized reports -/

/-- The info panel of a service has a line for each direction. -/
theorem trafficText_mem_infoTexts [Scalar ν] (s : Snapshot κ ν) (service : Service κ) :
    .plain (trafficText "In" (s.inbound service.id)) ∈ infoTexts s service ∧
      .plain (trafficText "Out" (s.outbound service.id)) ∈ infoTexts s service := by
  simp [infoTexts]

/-- **Traffic is conserved across services.** Each link of a normalized snapshot reaches one service
and leaves one service. So the numbers of links that the info panels of all services show for one
direction add up to the number of links, and their volumes, as rational numbers, to the total. At
any id, loops are what both directions count and the links of the id only once.

It is counting by keys: the ids of the services are all different, and every link has its target,
and its source, among them. -/
theorem Report.traffic_conserved [Scalar κ] (r : Report κ Float) (registry : Registry κ)
    (fetchedAt : Int64) :
    let s := r.normalize registry fetchedAt
    (∀ e ∈ s.links, (∃! i : Fin s.services.length, e ∈ s.inbound s.services[i].id) ∧
        ∃! i : Fin s.services.length, e ∈ s.outbound s.services[i].id) ∧
      (s.services.map fun x => (s.inbound x.id).length).sum = s.links.length ∧
      (s.services.map fun x => (s.outbound x.id).length).sum = s.links.length ∧
      (∀ e ∈ s.links, (Binary.ofFloat e.volume).toRat? = some e.exactly.volume) ∧
      (s.services.map fun x => s.exactly.volumeInto x.id).sum = s.exactly.totalVolume ∧
      (s.services.map fun x => s.exactly.volumeOutOf x.id).sum = s.exactly.totalVolume ∧
      (∀ id, (s.inbound id).length + (s.outbound id).length =
        (s.linksOf id).length + (s.linksOf id).countP (·.isLoop)) ∧
      ∀ service ∈ s.services,
        .plain (trafficText "In" (s.inbound service.id)) ∈ infoTexts s service ∧
          .plain (trafficText "Out" (s.outbound service.id)) ∈ infoTexts s service := by
  intro s
  -- Nothing of the report is needed but that its snapshot is normal.
  have hnormal : s.IsNormal := r.isNormal_normalize registry fetchedAt
  refine ⟨?_, hnormal.sum_length_inbound, hnormal.sum_length_outbound, ?_,
    hnormal.sum_volumeInto, hnormal.sum_volumeOutOf, s.length_inbound_add_length_outbound, ?_⟩
  · intro e he
    exact ⟨hnormal.existsUnique_inbound he, hnormal.existsUnique_outbound he⟩
  · intro e he
    have hrate : IsRate e.volume := isRate_of_usable (hnormal.usable e he)
    exact toRat?_eq_exactValue hrate.isFinite
  · intro service _
    exact trafficText_mem_infoTexts s service

end TrafficMap
