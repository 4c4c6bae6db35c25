import TrafficMap.Proofs.Json.Members
import TrafficMap.Proofs.Number.Packing
import TrafficMap.Proofs.Report.Entries
import TrafficMap.Proofs.Report.Gathering
import TrafficMap.Report.Writer

/-!
# Reports: Written and Read Again

A report comes back from its own document as it was, as long as its floats are finite: JSON has no
form for the others. What is absent is left out and found absent, and what is there is of the kind
that is read there, so leniency never has anything to forgive.
-/

namespace TrafficMap

open Json (Value)

/-! ## Finite reports -/

def Moment.IsFinite : Moment → Prop
  | .fractional ms => ms.isFinite = true
  | _ => True

def ReportedService.IsFinite (r : ReportedService Float32) : Prop :=
  (∀ x ∈ r.x, x.isFinite = true) ∧ ∀ y ∈ r.y, y.isFinite = true

def ReportedLink.IsFinite (e : ReportedLink Float) : Prop :=
  ∀ v ∈ e.value, v.isFinite = true

/-- Every float of the report is finite. -/
structure Report.IsFinite (r : Report Float32 Float) : Prop where
  services : ∀ entries ∈ r.services, ∀ entry ∈ entries, entry.IsFinite
  links : ∀ e ∈ r.links, e.IsFinite
  timestamp : ∀ t ∈ r.timestamp, t.IsFinite

/-! ## Values -/

/-- A whole number comes back as a whole number, and no other number does. -/
theorem Moment.moment?_toValue {t : Moment} (h : t.IsFinite) : t.toValue.moment? = some t := by
  rw [moment?_eq_some_iff]
  cases t with
  | millis ms =>
    -- Only a word below zero is written as a negative number; the others fit the word again.
    rw [Moment.toValue, Value.ofInt64, Json.Number.ofInt64]
    split
    · exact .negative ms
    · next hsign =>
      have hnonneg : 0 ≤ ms := Int64.not_lt.mp hsign
      refine .natural ?_
      rw [Int64.toNat_toUInt64_of_le hnonneg, Int64.cast_toNatClampNeg ms hnonneg]
  | fractional ms =>
    have hfinite : ms.isFinite = true := h
    rw [Moment.toValue, Value.ofFloat, if_pos hfinite]
    exact .float ms
  | text s => exact .text s

theorem bind_text?_map_string (o : Option String) :
    (o.map Value.string).bind (·.text?) = o := by
  cases o <;> rfl

theorem bind_volume?_map_ofFloat {o : Option Float} (h : ∀ x ∈ o, x.isFinite = true) :
    (o.map Value.ofFloat).bind (·.volume?) = o := by
  cases o with
  | none => rfl
  | some x => simp [Value.ofFloat, h x rfl, Value.volume?, Json.Number.toFloat]

/-- A 32-bit float is written at full width and comes back bit by bit. -/
theorem bind_coordinate?_map_ofFloat32 {o : Option Float32} (h : ∀ x ∈ o, x.isFinite = true) :
    (o.map Value.ofFloat32).bind (·.coordinate?) = o := by
  cases o with
  | none => rfl
  | some x =>
    have hfinite : (widen x).isFinite = true := (isFinite_widen x).trans (h x rfl)
    simp [Value.ofFloat32, Value.ofFloat, hfinite, Value.coordinate?, Json.Number.toFloat32]

/-! ## Entries -/

theorem ReportedLink.ofValue_toValue {e : ReportedLink Float} (h : e.IsFinite) :
    ofValue e.toValue = e := by
  have hfound := Json.member?_presentFields
    [("source", e.source.map .string),
     ("target", e.target.map .string),
     ("value", e.value.map .ofFloat),
     ("type", e.kind.map .string)] (by decide : linkKeys.Nodup)
  simp only [List.forall_mem_cons] at hfound
  obtain ⟨hsource, htarget, hvalue, hkind, -⟩ := hfound
  show ofFields (objectFields (Json.presentFields _)) = e
  simp only [ofFields, objectFields, hsource, htarget, hvalue, hkind, bind_text?_map_string,
    bind_volume?_map_ofFloat h]

theorem ReportedService.ofValue?_toValue {r : ReportedService Float32} (h : r.IsFinite) :
    ofValue? r.toValue = some r := by
  -- The fields as they are written, each found under its key since no key comes twice.
  have hfound := Json.member?_presentFields
    [("id", some (.string r.id)),
     ("name", r.name.map .string),
     ("status", r.status.map .string),
     ("x", r.x.map .ofFloat32),
     ("y", r.y.map .ofFloat32),
     ("layer", r.layer.map .string)] (by decide : serviceKeys.Nodup)
  simp only [List.forall_mem_cons] at hfound
  obtain ⟨hid, hname, hstatus, hx, hy, hlayer, -⟩ := hfound
  show ofFields? (objectFields (Json.presentFields _)) = some r
  simp only [ofFields?, objectFields, hid, hname, hstatus, hx, hy, hlayer, bind_text?_map_string,
    bind_coordinate?_map_ofFloat32 h.1, bind_coordinate?_map_ofFloat32 h.2]
  rfl

/-! ## The document -/

namespace Report

/-- A field that was left out has no value, and every other field has the one that was written. -/
theorem valuesOf_presentFields (f : Field) (fields : List (String × Option Value)) :
    valuesOf f (Json.presentFields fields) =
      fields.flatMap fun field => if Field.ofKey? field.1 = some f then field.2.toList else [] := by
  induction fields with
  | nil => rfl
  | cons field fields ih =>
    obtain ⟨key, v⟩ := field
    rw [List.flatMap_cons, ← ih]
    cases v with
    | none => simp [Json.presentFields]
    | some v =>
      have hcons : Json.presentFields ((key, some v) :: fields) =
          (key, v) :: Json.presentFields fields := rfl
      rw [hcons]
      cases hkey : Field.ofKey? key with
      | none => simp [valuesOf_cons_of_unknown hkey]
      | some g => by_cases hg : g = f <;> simp [valuesOf_cons_of_known hkey, hg]

/-- The only value of a field is the one that was written, so the field is what that reads as. -/
theorem isOnly_written {α : Type} {read : Value → Option α} {write : α → Value} {written : Option α}
    (h : ∀ a ∈ written, read (write a) = some a) :
    IsOnly ((written.map write).toList.map read) written := by
  cases written with
  | none => exact Or.inr ⟨rfl, rfl⟩
  | some a =>
    refine Or.inl ?_
    simp [h a rfl]

theorem linksOf?_toValue {links : List (ReportedLink Float)} (h : ∀ e ∈ links, e.IsFinite) :
    linksOf? (.array (links.map (·.toValue))) = some links := by
  have hentry : ∀ e ∈ links, ReportedLink.ofValue e.toValue = e := fun e he =>
    ReportedLink.ofValue_toValue (h e he)
  have hmap : links.map (ReportedLink.ofValue ∘ (·.toValue)) = links :=
    (List.map_congr_left hentry).trans (List.map_id' links)
  rw [linksOf?, List.map_map, hmap]

theorem servicesOf_toValue {entries : List (ReportedService Float32)}
    (h : ∀ entry ∈ entries, entry.IsFinite) :
    Draft.servicesOf (.array (entries.map (·.toValue))) = some entries := by
  have hentry : ∀ entry ∈ entries, ReportedService.ofValue? entry.toValue = some entry :=
    fun entry hmem => ReportedService.ofValue?_toValue (h entry hmem)
  simp [Draft.servicesOf, List.filterMap_map, List.filterMap_congr hentry]

/-! ## Main statement -/

/-- **A report survives being written and read.** If its floats are finite, its document is read as
the same report: every field that is there as it was, bit by bit if it is a float, and every other
field as missing.

JSON has no form for an infinity, or for what is no number; this is why the floats have to be
finite. -/
theorem ofValue_toValue_of_isFinite {r : Report Float32 Float} (h : r.IsFinite) :
    ofValue r.toValue = .ok r := by
  have hservices : ∀ entries ∈ r.services,
      Draft.servicesOf (.array (entries.map (·.toValue))) = some entries := fun entries hmem =>
    servicesOf_toValue (h.services entries hmem)
  have htimestamp : ∀ t ∈ r.timestamp, t.toValue.moment? = some t := fun t hmem =>
    Moment.moment?_toValue (h.timestamp t hmem)
  have hsource : ∀ s ∈ r.source, (Value.string s).text? = some s := fun s _ => rfl
  -- What is missing is not written, so a field is told at most once and reads as it was.
  show ofValue (.object (Json.presentFields _)) = .ok r
  rw [ofValue_object_eq_ok_iff]
  constructor
  · simpa [valuesOf_presentFields, Field.ofKey?] using isOnly_written hservices
  · simpa [valuesOf_presentFields, Field.ofKey?] using linksOf?_toValue h.links
  · simpa [valuesOf_presentFields, Field.ofKey?] using isOnly_written htimestamp
  · simpa [valuesOf_presentFields, Field.ofKey?] using isOnly_written hsource

/-- A report with a negative zero, links without ends, and a time that is a float with the value of
a whole number. -/
theorem ofValue_toValue_of_sparse :
    let r : Report Float32 Float :=
      { services := some [⟨"a", none, some "ok", some (-0.0), none, none⟩]
        links := [⟨none, some "a", some 0.5, none⟩, .blank]
        timestamp := some (.fractional 5.0)
        source := none }
    r.IsFinite ∧ ofValue r.toValue = .ok r := by
  intro r
  have hx : (-0.0 : Float32).isFinite = true := by decide
  have hvolume : (0.5 : Float).isFinite = true := by decide
  have htime : (5.0 : Float).isFinite = true := by decide
  -- A negative zero is finite, and so is a time that only looks like a word.
  have hfinite : r.IsFinite := by
    constructor
    · simpa [r, ReportedService.IsFinite] using hx
    · simpa [r, ReportedLink.IsFinite, ReportedLink.blank] using hvolume
    · simpa [r, Moment.IsFinite] using htime
  exact ⟨hfinite, ofValue_toValue_of_isFinite hfinite⟩

end Report

end TrafficMap
