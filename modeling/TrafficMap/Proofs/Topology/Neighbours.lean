import TrafficMap.Proofs.Report.NormalForm
import TrafficMap.Report.Normal

/-!
# Topology: Neighbours

Which services the info panel of a service lists as connected. `Snapshot.Linked` is the relation
behind it: some link runs between the two ids, in whatever direction. A link of a normal snapshot
ends at services only, so there being a neighbour is symmetric; loops make no neighbour, and further
links between the same two services make no further one.
-/

namespace TrafficMap

variable {κ ν : Type}

/-! ## Look-up -/

theorem Snapshot.contains_iff (s : Snapshot κ ν) (id : String) :
    s.contains id = true ↔ ∃ service ∈ s.services, service.id = id := by
  simp [Snapshot.contains, Snapshot.service?]

theorem Snapshot.contains_eq_contains_map (s : Snapshot κ ν) (id : String) :
    s.contains id = (s.services.map (·.id)).contains id := by
  rw [Bool.eq_iff_iff, s.contains_iff, List.contains_iff_mem, List.mem_map]

/-- Both ends of a link are found exactly if the link joins two services. -/
theorem Link.joins_ids (e : Link ν) (s : Snapshot κ ν) :
    e.joins (s.services.map (·.id)) = (s.contains e.source && s.contains e.target) := by
  rw [Link.joins, s.contains_eq_contains_map, s.contains_eq_contains_map]

namespace Snapshot

/-! ## Links between two services -/

/-- A link runs from one of the ids to the other. -/
def Linked (s : Snapshot κ ν) (a b : String) : Prop :=
  ∃ e ∈ s.links, e.source = a ∧ e.target = b ∨ e.source = b ∧ e.target = a

theorem Linked.symm {s : Snapshot κ ν} {a b : String} (h : s.Linked a b) : s.Linked b a := by
  obtain ⟨e, he, hends⟩ := h
  exact ⟨e, he, hends.symm⟩

/-- A link that touches two different ids runs between them. -/
theorem linked_iff_touches {s : Snapshot κ ν} {a b : String} (hne : b ≠ a) :
    s.Linked a b ↔ ∃ e ∈ s.linksOf a, e.touches b = true := by
  simp only [linksOf, List.mem_filter, Link.touches, Bool.or_eq_true, beq_iff_eq]
  constructor
  · rintro ⟨e, he, ⟨hsource, htarget⟩ | ⟨hsource, htarget⟩⟩
    · exact ⟨e, ⟨he, .inl hsource⟩, .inr htarget⟩
    · exact ⟨e, ⟨he, .inr htarget⟩, .inl hsource⟩
  · rintro ⟨e, ⟨he, ha | ha⟩, hb | hb⟩
    -- One end cannot be both ids.
    · exact absurd (hb.symm.trans ha) hne
    · exact ⟨e, he, .inl ⟨ha, hb⟩⟩
    · exact ⟨e, he, .inr ⟨hb, ha⟩⟩
    · exact absurd (hb.symm.trans ha) hne

/-! ## The list of neighbours -/

/-- The list has every service that is linked with the id, except the one that has the id itself:
each once, and in the order of the snapshot. How many links there are between the two, and in which
direction, makes no difference. -/
structure ListsNeighbours (s : Snapshot κ ν) (id : String) (peers : List (Service κ)) : Prop where
  ordered : peers.Sublist s.services
  once : (peers.map (·.id)).Nodup
  mem_iff : ∀ peer, peer ∈ peers ↔ peer ∈ s.services ∧ peer.id ≠ id ∧ s.Linked id peer.id

theorem mem_connected_iff {s : Snapshot κ ν} {id : String} {peer : Service κ} :
    peer ∈ s.connected id ↔ peer ∈ s.services ∧ peer.id ≠ id ∧ s.Linked id peer.id := by
  rw [connected, List.mem_filter, List.mem_filter, bne_iff_ne, List.any_eq_true, and_assoc]
  refine and_congr_right fun _ => and_congr_right fun hne => ?_
  exact (linked_iff_touches hne).symm

theorem connected_sublist (s : Snapshot κ ν) (id : String) :
    (s.connected id).Sublist s.services :=
  List.filter_sublist.trans List.filter_sublist

namespace IsNormal

variable [Scalar ν] {s : Snapshot κ ν}

theorem listsNeighbours (h : s.IsNormal) (id : String) :
    s.ListsNeighbours id (s.connected id) where
  ordered := s.connected_sublist id
  once := h.nodup.sublist ((s.connected_sublist id).map _)
  mem_iff _ := mem_connected_iff

/-- What is linked is a service. -/
theorem mem_ids_of_linked (h : s.IsNormal) {a b : String} (hlinked : s.Linked a b) :
    b ∈ s.services.map (·.id) := by
  obtain ⟨e, he, hends⟩ := hlinked
  obtain ⟨hsource, htarget⟩ := (Link.joins_iff e _).mp (h.joined e he)
  obtain ⟨-, rfl⟩ | ⟨rfl, -⟩ := hends
  · exact htarget
  · exact hsource

/-- An id is listed for another one exactly if the two are linked. -/
theorem mem_ids_connected_iff (h : s.IsNormal) {a b : String} :
    b ∈ (s.connected a).map (·.id) ↔ b ≠ a ∧ s.Linked a b := by
  simp only [List.mem_map, mem_connected_iff]
  constructor
  · rintro ⟨peer, ⟨-, hne, hlinked⟩, rfl⟩
    exact ⟨hne, hlinked⟩
  · rintro ⟨hne, hlinked⟩
    obtain ⟨peer, hmem, rfl⟩ := List.mem_map.mp (h.mem_ids_of_linked hlinked)
    exact ⟨peer, ⟨hmem, hne, hlinked⟩, rfl⟩

/-- Neighbours list each other. -/
theorem mem_ids_connected_comm (h : s.IsNormal) (a b : String) :
    b ∈ (s.connected a).map (·.id) ↔ a ∈ (s.connected b).map (·.id) := by
  rw [h.mem_ids_connected_iff, h.mem_ids_connected_iff]
  exact and_congr ne_comm ⟨Linked.symm, Linked.symm⟩

end IsNormal

end Snapshot

end TrafficMap
