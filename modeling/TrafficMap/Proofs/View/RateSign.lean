import TrafficMap.Proofs.Number.MinusSign
import TrafficMap.Proofs.Report.LinkSelection
import TrafficMap.Report.Reader
import TrafficMap.Session.Panel
import TrafficMap.Settings.Basic

/-!
# Rates With a Minus Sign

Which of the rates in header and info panel are shown with a minus sign. Digits, points and units
have none, so a rate has one exactly if its float has: `minus_mem_rateText_iff`. The volumes of a
normalized snapshot have none, and so the only rate with a minus sign is that of no link at all,
which is shown as `-0/s`.
-/

namespace TrafficMap

variable {κ ν : Type}

/-! ## Texts of numbers -/

@[simp]
theorem minus_notMem_toDigits (n : Nat) : '-' ∉ Nat.toDigits 10 n := by
  intro hmem
  have hdigit := Nat.isDigit_of_mem_toDigits (by decide) (by decide) hmem
  simp at hdigit

theorem minus_notMem_magnitudeText (units places : Nat) :
    '-' ∉ (FixedDecimal.magnitudeText units places).toList := by
  unfold FixedDecimal.magnitudeText zeroPadded
  split
  · simp
  · simp

/-- The printed number has a minus sign. -/
def FixedDecimal.isNegative : FixedDecimal → Bool
  | .notANumber => false
  | .infinite negative => negative
  | .finite negative _ _ => negative

/-- The text of a number has a minus sign exactly if the number has one. -/
theorem FixedDecimal.minus_mem_text_iff (d : FixedDecimal) :
    '-' ∈ d.text.toList ↔ d.isNegative = true := by
  cases d with
  | notANumber => simp [FixedDecimal.text, FixedDecimal.isNegative]
  | infinite negative => cases negative <;> simp [FixedDecimal.text, FixedDecimal.isNegative]
  | finite negative units places =>
    have hmagnitude := minus_notMem_magnitudeText units places
    cases negative <;> simp [FixedDecimal.text, FixedDecimal.isNegative, hmagnitude]

/-- Rounding to decimal places keeps the sign, that of what is rounded to zero too. -/
theorem isNegative_rounded (places : Nat) (v : Float) :
    (Scalar.rounded places v).isNegative = isNegative v := by
  show ((Binary.ofFloat v).rounded places).isNegative = (Binary.ofFloat v).isNegative
  cases Binary.ofFloat v <;> rfl

/-! ## Texts of rates -/

/-- Units are positive numbers. -/
theorem RateUnit.unpack_factor (u : RateUnit) :
    ∃ m e hm, (u.factor : Float).toModel.unpack = .finite .positive m e hm := by
  cases u
  · exact ⟨_, _, _, rfl⟩
  · exact ⟨_, _, _, rfl⟩
  · exact ⟨_, _, _, rfl⟩

theorem RateUnit.minus_notMem_suffix (u : RateUnit) : '-' ∉ u.suffix.toList := by
  cases u <;> decide

/-- Whatever the unit, the number in front of it has the sign of the volume. -/
theorem RateLabel.isNegative_ofVolume (v : Float) :
    (ofVolume v).number.isNegative = isNegative v := by
  have hscaled (u : RateUnit) :
      (Scalar.rounded u.places (v / u.factor)).isNegative = isNegative v := by
    obtain ⟨m, e, hm, hfactor⟩ := u.unpack_factor
    rw [isNegative_rounded, isNegative_div hfactor]
  unfold ofVolume
  -- Below a thousand nothing is divided, and otherwise the unit is the divisor.
  cases unitOf v with
  | one => exact isNegative_rounded _ v
  | thousand => exact hscaled .thousand
  | million => exact hscaled .million

/-- A rate is shown with a minus sign exactly if its float has one. -/
theorem minus_mem_rateText_iff (v : Float) : '-' ∈ (rateText v).toList ↔ isNegative v = true := by
  have hsuffix := RateUnit.minus_notMem_suffix (RateLabel.ofVolume v).unit
  rw [rateText, RateLabel.text, String.toList_append, List.mem_append,
    FixedDecimal.minus_mem_text_iff, RateLabel.isNegative_ofVolume]
  simp [hsuffix]

/-! ## Volumes of links -/

/-- Where all volumes are rates, only having no links makes their rate negative. -/
theorem minus_mem_rateText_volumeOf_iff {links : List (Link Float)}
    (h : ∀ e ∈ links, IsRate e.volume) :
    '-' ∈ (rateText (Snapshot.volumeOf links)).toList ↔ links = [] := by
  have hvolumes : ∀ v ∈ links.map (·.volume), isNegative v = false := by
    intro v hv
    obtain ⟨e, he, rfl⟩ := List.mem_map.mp hv
    exact (h e he).isNegative_eq_false
  rw [minus_mem_rateText_iff, Snapshot.volumeOf, isNegative_sum hvolumes, List.map_eq_nil_iff]

/-- The empty sum is the negative zero. -/
theorem rateText_volumeOf_nil : rateText (Snapshot.volumeOf ([] : List (Link Float))) = "-0/s" := by
  decide +kernel

/-! ## What is shown -/

/-- The rest of a line of the info panel is words and digits. -/
theorem minus_mem_trafficText_iff [Scalar ν] {direction : String}
    (hdirection : '-' ∉ direction.toList) (links : List (Link ν)) :
    '-' ∈ (trafficText direction links).toList ↔
      '-' ∈ (rateText (Snapshot.volumeOf links)).toList := by
  have hline : trafficText direction links = direction ++ ": " ++
      rateText (Snapshot.volumeOf links) ++ " (" ++ toString links.length ++ " edges)" := rfl
  simp [hline, hdirection]

/-- The header shows the total of the snapshot. -/
theorem total_mem_texts [Scalar κ] [Scalar ν] {t : Session κ ν} {s : Snapshot κ ν}
    (h : t.map.snapshot = some s) (now : Int64) :
    .plain (rateText s.totalVolume ++ " total") ∈ t.texts now := by
  simp [Session.texts, headerTexts, snapshotTexts, h]

/-- Without a snapshot the header shows the positive zero. -/
theorem noTotal_mem_texts [Scalar κ] {t : Session κ Float} (h : t.map.snapshot = none)
    (now : Int64) : .plain "0/s total" ∈ t.texts now := by
  have hzero : rateText (0.0 : Float) = "0/s" := by decide +kernel
  simp [Session.texts, headerTexts, snapshotTexts, h, hzero]

/-- With a service selected the info panel shows its rates in both directions. -/
theorem trafficText_mem_texts [Scalar κ] [Scalar ν] {t : Session κ ν} {s : Snapshot κ ν}
    {service : Service κ} (h : t.map.snapshot = some s)
    (hselected : t.map.selectedService? = some service) (now : Int64) :
    .plain (trafficText "In" (s.inbound service.id)) ∈ t.texts now ∧
      .plain (trafficText "Out" (s.outbound service.id)) ∈ t.texts now := by
  simp [Session.texts, infoTexts, h, hselected]

/-- **Only the rate of no links is shown with a minus sign.** Header and info panel show the rates
of a normalized snapshot without one as long as there are links to sum up. Without any they show the
negative zero, while the header without a snapshot shows the positive one. The sum of no volumes is
the negative zero, and it is printed with its sign. -/
theorem Report.minus_in_rates_iff [Scalar κ] (r : Report κ Float) (registry : Registry κ)
    (fetchedAt : Int64) :
    let s := r.normalize registry fetchedAt
    (∀ id, ('-' ∈ (rateText (s.volumeInto id)).toList ↔ s.inbound id = []) ∧
        ('-' ∈ (rateText (s.volumeOutOf id)).toList ↔ s.outbound id = []) ∧
        ('-' ∈ (trafficText "In" (s.inbound id)).toList ↔ s.inbound id = []) ∧
        ('-' ∈ (trafficText "Out" (s.outbound id)).toList ↔ s.outbound id = [])) ∧
      ('-' ∈ (rateText s.totalVolume).toList ↔ s.links = []) ∧
      rateText (Snapshot.volumeOf ([] : List (Link Float))) = "-0/s" ∧
      ∀ (t : Session κ Float) (now : Int64),
        (t.map.snapshot = none → .plain "0/s total" ∈ t.texts now) ∧
        (t.map.snapshot = some s →
          .plain (rateText s.totalVolume ++ " total") ∈ t.texts now ∧
          ∀ service, t.map.selectedService? = some service →
            .plain (trafficText "In" (s.inbound service.id)) ∈ t.texts now ∧
            .plain (trafficText "Out" (s.outbound service.id)) ∈ t.texts now) := by
  intro s
  have hrates : ∀ e ∈ s.links, IsRate e.volume := by
    intro e he
    exact isRate_of_usable ((r.isNormal_normalize registry fetchedAt).usable e he)
  -- Some links of the snapshot have rates for volumes too.
  have hsome (p : Link Float → Bool) :
      '-' ∈ (rateText (Snapshot.volumeOf (s.links.filter p))).toList ↔ s.links.filter p = [] :=
    minus_mem_rateText_volumeOf_iff fun e he => hrates e (List.mem_filter.mp he).1
  refine ⟨?_, minus_mem_rateText_volumeOf_iff hrates, rateText_volumeOf_nil, ?_⟩
  · intro id
    refine ⟨hsome _, hsome _, ?_, ?_⟩
    · exact (minus_mem_trafficText_iff (by decide) _).trans (hsome _)
    · exact (minus_mem_trafficText_iff (by decide) _).trans (hsome _)
  · intro t now
    refine ⟨fun h => noTotal_mem_texts h now, ?_⟩
    intro h
    refine ⟨total_mem_texts h now, ?_⟩
    intro service hselected
    exact trafficText_mem_texts h hselected now

/-- One link is enough: no link reaches the service that it comes from. -/
theorem Report.exists_rate_with_minus :
    ∃ r : Report Float32 Float,
      Report.ofBytes
          "\x7b\"links\":[\x7b\"source\":\"a\",\"target\":\"b\",\"value\":10\x7d]\x7d".toUTF8.toList =
        .ok r ∧
      let s := r.normalize Settings.default.layout.registry 0
      s.contains "a" = true ∧ rateText (s.volumeInto "a") = "-0/s" ∧
        '-' ∈ (rateText (s.volumeInto "a")).toList ∧
        trafficText "In" (s.inbound "a") = "In: -0/s (0 edges)" := by
  refine ⟨⟨none, [⟨some "a", some "b", some 10.0, none⟩], none, none⟩, by decide +kernel, ?_⟩
  decide +kernel

end TrafficMap
