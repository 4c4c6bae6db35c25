import Mathlib
import TrafficMap.Endpoint.Fetch
import TrafficMap.Proofs.Text.Padding
import TrafficMap.Proofs.Url.Trail
import TrafficMap.Settings.Check

/-!
# Settings: The Address of the Endpoint

The check of the settings looks at the endpoint's address without the blanks at its ends, and a
request is made with the address as it is written. The two mean the same URL exactly when the blanks
at the ends are ones of ASCII. With other blanks in front the address is no URL; with other blanks
behind it is another one, or none.
-/

namespace TrafficMap

/-! ## Blanks at the ends -/

namespace Text

/-- The blanks in front of a text. -/
def blanksBefore (s : String) : List Char := s.toList.takeWhile isBlank

/-- The blanks behind a text. Where there is nothing else, all of them are in front. -/
def blanksAfter (s : String) : List Char := (s.toList.dropWhile isBlank).rtakeWhile isBlank

theorem toList_eq_trim_between_blanks (s : String) :
    s.toList = blanksBefore s ++ ((trim s).toList ++ blanksAfter s) := by
  have hback : (trim s).toList ++ blanksAfter s = s.toList.dropWhile isBlank := by
    rw [trim, String.toList_ofList]
    exact List.rdropWhile_append_rtakeWhile
  rw [hback, blanksBefore, List.takeWhile_append_dropWhile]

/-- The blanks at the ends of a text are ones of ASCII. Only these are removed when the address is
requested, while more are removed when it is checked. -/
def HasPlainEnds (s : String) : Prop :=
  ∀ c ∈ blanksBefore s ++ blanksAfter s, c.toNat < 0x80

instance (s : String) : Decidable (HasPlainEnds s) :=
  List.decidableBAll (fun c : Char => c.toNat < 0x80) (blanksBefore s ++ blanksAfter s)

end Text

namespace Url

open Text (isBlank blanksBefore blanksAfter HasPlainEnds trim)

/-- A blank of ASCII does not count at the ends of a URL; another blank does. -/
theorem isEdge_iff_of_isBlank {c : Char} (h : isBlank c = true) :
    isEdge c = true ↔ c.toNat < 0x80 := by
  simp only [isBlank, Bool.or_eq_true, Bool.and_eq_true, decide_eq_true_eq, beq_iff_eq] at h
  simp only [isEdge, decide_eq_true_eq]
  omega

theorem isObscure_of_isBlank {c : Char} (h : isBlank c = true) : isObscure c = true := by
  simp only [isBlank, Bool.or_eq_true, Bool.and_eq_true, decide_eq_true_eq, beq_iff_eq] at h
  rw [isObscure_iff]
  omega

/-- The blanks beyond ASCII. -/
def wideBlanks : List Nat :=
  [0x85, 0xA0, 0x1680, 0x2000, 0x2001, 0x2002, 0x2003, 0x2004, 0x2005, 0x2006, 0x2007, 0x2008,
   0x2009, 0x200A, 0x2028, 0x2029, 0x202F, 0x205F, 0x3000]

/-- No name holds a blank beyond ASCII. -/
theorem form?_of_isBlank {c : Char} (h : isBlank c = true) (hedge : isEdge c = false) :
    form? c = none := by
  have hmem : c.toNat ∈ wideBlanks := by
    have hwide : ¬ c.toNat ≤ 0x20 := by simpa [isEdge] using hedge
    simp only [isBlank, Bool.or_eq_true, Bool.and_eq_true, decide_eq_true_eq, beq_iff_eq] at h
    simp only [wideBlanks, List.mem_cons, List.not_mem_nil, or_false]
    omega
  -- The tables of names are asked for each of them.
  have hnone : ∀ n ∈ wideBlanks, form? (Char.ofNat n) = none := by decide +kernel
  rw [← Char.ofNat_toNat c]
  exact hnone c.toNat hmem

/-! ## What counts of a text -/

theorem rdropWhile_append_of_ne_nil {p : Char → Bool} (cs : List Char) {ds : List Char}
    (h : ds.rdropWhile p ≠ []) : (cs ++ ds).rdropWhile p = cs ++ ds.rdropWhile p := by
  have hback : ds.reverse.dropWhile p ≠ [] := fun hnil => h (by rw [List.rdropWhile, hnil]; rfl)
  rw [List.rdropWhile, List.reverse_append, List.dropWhile_append, if_neg (by simpa using hback),
    List.reverse_append, List.reverse_reverse, List.rdropWhile]

theorem rdropWhile_append_of_pos {p : Char → Bool} (cs : List Char) {ds : List Char}
    (h : ∀ d ∈ ds, p d = true) : (cs ++ ds).rdropWhile p = cs.rdropWhile p := by
  rw [List.rdropWhile, List.reverse_append,
    List.dropWhile_append_of_pos fun d hd => h d (List.mem_reverse.mp hd), List.rdropWhile]

theorem significant_eq (s : String) :
    significant s = ((s.toList.dropWhile isEdge).rdropWhile isEdge).filter (!isBreak ·) := rfl

/-- Blanks of ASCII at the ends do not count. -/
theorem significant_of_hasPlainEnds {s : String} (h : HasPlainEnds s) :
    significant s = significant (trim s) := by
  have hbefore : ∀ c ∈ blanksBefore s, isEdge c = true := fun c hc =>
    (isEdge_iff_of_isBlank (List.mem_takeWhile_imp hc)).mpr (h c (List.mem_append_left _ hc))
  have hafter : ∀ c ∈ blanksAfter s, isEdge c = true := fun c hc =>
    (isEdge_iff_of_isBlank (List.mem_rtakeWhile_imp hc)).mpr (h c (List.mem_append_right _ hc))
  rw [significant_eq, significant_eq, Text.toList_eq_trim_between_blanks s,
    List.dropWhile_append_of_pos hbefore, List.dropWhile_append]
  split
  case isTrue hnil =>
    rw [List.isEmpty_iff.mp hnil, List.dropWhile_eq_nil_iff.mpr hafter]
  case isFalse => rw [rdropWhile_append_of_pos _ hafter]

theorem isBreak_of_not_isEdge {c : Char} (h : isEdge c = false) : isBreak c = false := by
  rw [← Bool.not_eq_true]
  intro hbreak
  simp only [isBreak, Bool.or_eq_true, beq_iff_eq] at hbreak
  obtain (rfl | rfl) | rfl := hbreak <;> cases h

/-- With a blank beyond ASCII in front, the text begins with no letter. -/
theorem parse_of_blank_before {s : String} {c : Char} (hc : c ∈ blanksBefore s)
    (hwide : 0x80 ≤ c.toNat) : parse s = .error .noScheme := by
  have hblank : ∀ d ∈ blanksBefore s, isBlank d = true := fun d => List.mem_takeWhile_imp
  have hwidest : (blanksBefore s).dropWhile isEdge ≠ [] := by
    rw [Ne, List.dropWhile_eq_nil_iff]
    intro hall
    have := (isEdge_iff_of_isBlank (hblank c hc)).mp (hall c hc)
    omega
  -- The first character that counts is a blank.
  obtain ⟨d, rest, hrest⟩ := List.exists_cons_of_ne_nil hwidest
  have hd : isBlank d = true :=
    hblank d ((List.dropWhile_sublist _).subset (hrest ▸ List.mem_cons_self))
  have hdedge : isEdge d = false := by
    have hfirst := List.head?_dropWhile_not isEdge (blanksBefore s)
    simpa [hrest] using hfirst
  obtain ⟨counted, hcounted⟩ : ∃ counted, significant s = d :: counted := by
    rw [significant_eq, Text.toList_eq_trim_between_blanks s, List.dropWhile_append,
      if_neg (by simpa using hwidest), hrest, List.cons_append]
    generalize rest ++ ((trim s).toList ++ blanksAfter s) = behind
    obtain hnil | ⟨kept, hkept, -⟩ :=
      List.prefix_cons_iff.mp (List.rdropWhile_prefix isEdge (d :: behind))
    · have hnone := List.rdropWhile_eq_nil_iff.mp hnil d List.mem_cons_self
      rw [hdedge] at hnone
      cases hnone
    · rw [hkept, List.filter_cons_of_pos (by simp [isBreak_of_not_isEdge hdedge])]
      exact ⟨_, rfl⟩
  have halpha : d.isAlpha = false := by
    have hscheme := isSchemeChar_of_isObscure (isObscure_of_isBlank hd)
    simp only [isSchemeChar, Bool.or_eq_false_iff] at hscheme
    exact hscheme.1.1.1.1
  rw [parse, hcounted, scheme?]
  simp [halpha]

/-- Blanks behind a text up to one beyond ASCII do count. -/
theorem exists_trail_of_blank_after {s : String} (hbefore : ∀ c ∈ blanksBefore s, c.toNat < 0x80)
    (htrim : significant (trim s) ≠ []) {c : Char} (hc : c ∈ blanksAfter s)
    (hwide : 0x80 ≤ c.toNat) :
    ∃ trail, IsTrail trail ∧ significant s = significant (trim s) ++ trail := by
  have hblank : ∀ d ∈ blanksAfter s, isBlank d = true := fun d => List.mem_rtakeWhile_imp
  have hfront : ∀ d ∈ blanksBefore s, isEdge d = true := fun d hd =>
    (isEdge_iff_of_isBlank (List.mem_takeWhile_imp hd)).mpr (hbefore d hd)
  have hback : (blanksAfter s).rdropWhile isEdge ≠ [] := by
    rw [Ne, List.rdropWhile_eq_nil_iff]
    intro hall
    have := (isEdge_iff_of_isBlank (hblank c hc)).mp (hall c hc)
    omega
  have hcore : (trim s).toList.dropWhile isEdge ≠ [] := by
    intro hnil
    rw [significant_eq, hnil] at htrim
    exact htrim rfl
  generalize hcoreEq : (trim s).toList.dropWhile isEdge = core at hcore
  -- The text itself may end in characters of the edge, which count now that more comes behind them.
  refine ⟨(core.rtakeWhile isEdge ++ (blanksAfter s).rdropWhile isEdge).filter (!isBreak ·),
    ⟨?obscure, ?last⟩, ?split⟩
  case obscure =>
    intro d hd
    rw [List.mem_filter, List.mem_append] at hd
    obtain hedge | hbehind := hd.1
    · rw [isObscure, List.mem_rtakeWhile_imp hedge, Bool.true_or]
    · exact isObscure_of_isBlank (hblank d ((List.rdropWhile_prefix isEdge _).subset hbehind))
  case last =>
    have hlast := List.getLast_mem hback
    have hnotedge : isEdge ((blanksAfter s).rdropWhile isEdge |>.getLast hback) = false := by
      simpa using List.rdropWhile_last_not isEdge _ hback
    refine ⟨(core.rtakeWhile isEdge ++ ((blanksAfter s).rdropWhile isEdge).dropLast).filter
      (!isBreak ·), _, ?_, form?_of_isBlank
        (hblank _ ((List.rdropWhile_prefix isEdge _).subset hlast)) hnotedge⟩
    conv_lhs => rw [← List.dropLast_concat_getLast hback, ← List.append_assoc, List.filter_append]
    rw [List.filter_cons_of_pos (by simp [isBreak_of_not_isEdge hnotedge]), List.filter_nil]
  case split =>
    rw [significant_eq, significant_eq, Text.toList_eq_trim_between_blanks s,
      List.dropWhile_append_of_pos hfront, List.dropWhile_append, hcoreEq,
      if_neg (by simpa using hcore), rdropWhile_append_of_ne_nil core hback, ← List.filter_append,
      ← List.append_assoc, List.rdropWhile_append_rtakeWhile]

theorem significant_ne_nil_of_parse {s : String} {u : Url} (h : parse s = .ok u) :
    significant s ≠ [] := by
  intro hnil
  rw [parse, hnil] at h
  cases h

theorem parse_congr {s t : String} (h : significant s = significant t) : parse s = parse t := by
  rw [parse, h, ← parse]

/-- A text is the URL that it is without the blanks at its ends exactly if these are of ASCII. -/
theorem parse_eq_parse_trim_iff {s : String} {u : Url} (h : parse (trim s) = .ok u)
    (hu : u.isRequestable = true) : parse s = .ok u ↔ HasPlainEnds s := by
  constructor
  · intro hs
    -- A blank beyond ASCII in front leaves no scheme, and one behind is kept.
    by_contra hends
    obtain ⟨c, hc, hwide⟩ : ∃ c ∈ blanksBefore s ++ blanksAfter s, 0x80 ≤ c.toNat := by
      simpa [HasPlainEnds] using hends
    by_cases hbefore : ∀ c ∈ blanksBefore s, c.toNat < 0x80
    · have hafter : c ∈ blanksAfter s :=
        (List.mem_append.mp hc).resolve_left fun hmem => by
          have := hbefore c hmem
          omega
      obtain ⟨trail, htrail, hcount⟩ :=
        exists_trail_of_blank_after hbefore (significant_ne_nil_of_parse h) hafter hwide
      have hother := parse_of_significant_append htrail hcount h hu
      rw [hs] at hother
      split at hother
      case isTrue =>
        obtain ⟨fault, hfault⟩ := hother
        cases hfault
      case isFalse =>
        have htail : u.tail = u.tail ++ String.ofList trail :=
          congrArg Url.tail (Except.ok.inj hother)
        have hnil : trail = [] := by
          have hlist := congrArg String.toList htail
          simpa using hlist
        exact htrail.ne_nil hnil
    · obtain ⟨d, hd, hdwide⟩ : ∃ d ∈ blanksBefore s, 0x80 ≤ d.toNat := by simpa using hbefore
      rw [parse_of_blank_before hd hdwide] at hs
      cases hs
  · intro hends
    rw [parse_congr (significant_of_hasPlainEnds hends), h]

end Url

/-! ## The check -/

theorem EndpointSettings.checkUrl_eq_ok_iff (s : EndpointSettings) (u : Url) :
    s.checkUrl = .ok u ↔ Url.parse (Text.trim s.url) = .ok u ∧ u.isRequestable = true := by
  unfold checkUrl
  split
  case h_1 fault hparse =>
    rw [hparse]
    simp
  case h_2 v hparse =>
    rw [hparse]
    -- A parse has one result, so what can be requested is said of the same URL on both sides.
    by_cases hv : v.isRequestable = true
    · rw [if_pos hv]
      constructor
      · rintro ⟨rfl⟩
        exact ⟨rfl, hv⟩
      · rintro ⟨⟨rfl⟩, -⟩
        rfl
    · rw [if_neg hv]
      constructor
      · intro h
        cases h
      · rintro ⟨⟨rfl⟩, hu⟩
        exact absurd hu hv

theorem Settings.exists_checkUrl_of_check {s : Settings} (h : s.check = .ok ()) :
    ∃ u, s.endpoint.checkUrl = .ok u := by
  cases hurl : s.endpoint.checkUrl with
  | error problem =>
    rw [check, hurl] at h
    cases h
  | ok u => exact ⟨u, rfl⟩

/-- Checked settings have the address of a URL that can be requested, as far as the check looks.
What is requested, the address as it is written, is this URL exactly if no other blanks than those
of ASCII stand at its ends.

The check leaves out all blanks of Unicode at the ends of the address, while parsing a URL leaves
out those of ASCII only. A blank beyond ASCII at an end is a trail to the parser, and a trail makes
another URL or none. -/
theorem Settings.requested_url_of_check {s : Settings} (h : s.check = .ok ()) :
    ∃ u, s.endpoint.checkUrl = .ok u ∧ u.isRequestable = true ∧
      (Url.parse s.endpoint.url = .ok u ↔ Text.HasPlainEnds s.endpoint.url) := by
  obtain ⟨u, hu⟩ := exists_checkUrl_of_check h
  obtain ⟨hparse, hrequestable⟩ := (s.endpoint.checkUrl_eq_ok_iff u).mp hu
  exact ⟨u, hu, hrequestable, Url.parse_eq_parse_trim_iff hparse hrequestable⟩

/-- No server is asked for what is no URL. -/
theorem Conduct.reply_of_parse_error {url : String} {fault : Url.Fault}
    (h : Url.parse url = .error fault) (conduct : Conduct) :
    conduct.reply url = .failed "error sending request" := by
  have hreach : isReachable url = false := by simp only [isReachable, h]
  simp [reply, hreach]

/-- The standard settings with another address. -/
def Settings.withUrl (url : String) : Settings :=
  { Settings.default with endpoint := { EndpointSettings.default with url } }

theorem Settings.requested_url_of_plain_ends :
    ∃ u, (Settings.withUrl "\n https://traffic.internal:8443/api/snapshot ").endpoint.checkUrl =
        .ok u ∧
      u.isRequestable = true ∧
      Url.parse "\n https://traffic.internal:8443/api/snapshot " = .ok u := by
  have hcheck :
      (Settings.withUrl "\n https://traffic.internal:8443/api/snapshot ").check = .ok () := by
    decide +kernel
  obtain ⟨u, hu, hrequestable, hsame⟩ := Settings.requested_url_of_check hcheck
  exact ⟨u, hu, hrequestable, hsame.mpr (by decide +kernel)⟩

/-- With a no-break space in front the check finds nothing wrong, and no request can be made. -/
theorem Settings.not_requestable_of_no_break_space :
    (Settings.withUrl "\u00a0http://127.0.0.1/").check = .ok () ∧
      Url.parse (Settings.withUrl "\u00a0http://127.0.0.1/").endpoint.url = .error .noScheme ∧
      ∀ conduct : Conduct, conduct.reply (Settings.withUrl "\u00a0http://127.0.0.1/").endpoint.url =
        .failed "error sending request" := by
  have hparse : Url.parse "\u00a0http://127.0.0.1/" = .error .noScheme :=
    Url.parse_of_blank_before (c := '\u00a0') (by decide +kernel) (by decide)
  exact ⟨by decide +kernel, hparse, Conduct.reply_of_parse_error hparse⟩

end TrafficMap
