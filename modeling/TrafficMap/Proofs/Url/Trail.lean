import Mathlib
import TrafficMap.Proofs.Text.Utf8
import TrafficMap.Url.Reader

/-!
# URLs: Characters Behind

What becomes of the URL of a text when further characters are written behind it that separate
nothing and end in one that no name holds. They belong to path, query or fragment where the text has
one of these. Otherwise they belong to the host or the port, and the text is no URL any more.
-/

namespace TrafficMap.Url

/-! ## Characters that separate nothing -/

/-- The character is not one of ASCII's visible ones. None of these separates parts of a URL. -/
def isObscure (c : Char) : Bool := isEdge c || isBeyondAscii c

theorem isObscure_iff (c : Char) : isObscure c = true ↔ c.toNat ≤ 0x20 ∨ 0x80 ≤ c.toNat := by
  simp [isObscure, isEdge, isBeyondAscii]

theorem ne_of_isObscure {c d : Char} (hc : isObscure c = true) (hd : isObscure d = false) :
    c ≠ d := by
  rintro rfl
  rw [hc] at hd
  cases hd

theorem isSchemeChar_of_isObscure {c : Char} (h : isObscure c = true) :
    isSchemeChar c = false := by
  have hplus := ne_of_isObscure h (d := '+') (by decide)
  have hminus := ne_of_isObscure h (d := '-') (by decide)
  have hpoint := ne_of_isObscure h (d := '.') (by decide)
  -- Letters and digits are ranges of code points, and none of the obscure ones lies in them.
  rw [isObscure_iff, Char.toNat] at h
  simp only [isSchemeChar, Char.isAlpha, Char.isUpper, Char.isLower, Char.isDigit, ge_iff_le,
    UInt32.le_iff_toNat_le, Bool.or_eq_false_iff, Bool.and_eq_false_iff, decide_eq_false_iff_not,
    beq_eq_false_iff_ne]
  have hupper : 'A'.val.toNat = 65 ∧ 'Z'.val.toNat = 90 := ⟨rfl, rfl⟩
  have hlower : 'a'.val.toNat = 97 ∧ 'z'.val.toNat = 122 := ⟨rfl, rfl⟩
  have hdigit : '0'.val.toNat = 48 ∧ '9'.val.toNat = 57 := ⟨rfl, rfl⟩
  refine ⟨⟨⟨⟨⟨?_, ?_⟩, ?_⟩, hplus⟩, hminus⟩, hpoint⟩ <;> omega

theorem isDigit_of_isObscure {c : Char} (h : isObscure c = true) : c.isDigit = false := by
  have hscheme := isSchemeChar_of_isObscure h
  simp only [isSchemeChar, Bool.or_eq_false_iff] at hscheme
  exact hscheme.1.1.1.2

theorem endsAuthority_of_isObscure (kind : SchemeKind) {c : Char} (h : isObscure c = true) :
    endsAuthority kind c = false := by
  have hslash := ne_of_isObscure h (d := '/') (by decide)
  have hquery := ne_of_isObscure h (d := '?') (by decide)
  have hhash := ne_of_isObscure h (d := '#') (by decide)
  have hback := ne_of_isObscure h (d := '\\') (by decide)
  simp [endsAuthority, hslash, hquery, hhash, hback]

theorem hexDigit?_of_isObscure {c : Char} (h : isObscure c = true) : hexDigit? c = none := by
  have hdigit := isDigit_of_isObscure h
  rw [isObscure_iff, Char.toNat] at h
  have hlower : ¬ ('a' ≤ c ∧ c ≤ 'f') := by
    simp only [Char.le_def, UInt32.le_iff_toNat_le]
    have hends : 'a'.val.toNat = 97 ∧ 'f'.val.toNat = 102 := ⟨rfl, rfl⟩
    omega
  have hupper : ¬ ('A' ≤ c ∧ c ≤ 'F') := by
    simp only [Char.le_def, UInt32.le_iff_toNat_le]
    have hends : 'A'.val.toNat = 65 ∧ 'F'.val.toNat = 70 := ⟨rfl, rfl⟩
    omega
  simp [hexDigit?, Text.digitIn?, hdigit, hlower, hupper]

/-! ## What is written behind -/

/-- Where text is cut at the same place, what stands before that place is the same. -/
theorem takeWhile_append_of_dropWhile {p : Char → Bool} {cs ds : List Char}
    (h : (cs ++ ds).dropWhile p = cs.dropWhile p ++ ds) :
    (cs ++ ds).takeWhile p = cs.takeWhile p := by
  have hcut : (cs ++ ds).takeWhile p ++ (cs.dropWhile p ++ ds) =
      cs.takeWhile p ++ (cs.dropWhile p ++ ds) := by
    rw [← h, List.takeWhile_append_dropWhile, h, ← List.append_assoc,
      List.takeWhile_append_dropWhile]
  exact List.append_cancel_right hcut

/-- The characters separate nothing, and no name holds the last of them. A blank beyond ASCII at the
end of an address is one; so what is said of trails holds of all of these at once. -/
structure IsTrail (trail : List Char) : Prop where
  obscure : ∀ c ∈ trail, isObscure c = true
  last : ∃ front c, trail = front ++ [c] ∧ form? c = none

namespace IsTrail

variable {trail : List Char}

theorem ne_nil (h : IsTrail trail) : trail ≠ [] := by
  obtain ⟨front, c, rfl, -⟩ := h.last
  simp

theorem not_mem (h : IsTrail trail) {d : Char} (hd : isObscure d = false) : d ∉ trail :=
  fun hmem => ne_of_isObscure (h.obscure d hmem) hd rfl

/-- Text is cut where it was cut before, if the trail holds no character to cut at. -/
theorem dropWhile_append (h : IsTrail trail) {p : Char → Bool}
    (hp : ∀ c, isObscure c = true → p c = false) (cs : List Char) :
    (cs ++ trail).dropWhile p = cs.dropWhile p ++ trail := by
  rw [List.dropWhile_append]
  split
  case isTrue hnil =>
    rw [List.isEmpty_iff.mp hnil, List.nil_append,
      List.dropWhile_eq_self_iff.mpr fun hpos => by simp [hp _ (h.obscure _ (List.getElem_mem _))]]
  case isFalse => rfl

theorem takeWhile_append (h : IsTrail trail) {p : Char → Bool}
    (hp : ∀ c, isObscure c = true → p c = false) (cs : List Char) :
    (cs ++ trail).takeWhile p = cs.takeWhile p :=
  takeWhile_append_of_dropWhile (h.dropWhile_append hp cs)

end IsTrail

section Parts

variable {trail : List Char}

/-! ## The parts of a URL -/

theorem scheme?_append (htrail : IsTrail trail) {cs scheme rest : List Char}
    (h : scheme? cs = some (scheme, rest)) :
    scheme? (cs ++ trail) = some (scheme, rest ++ trail) := by
  cases cs with
  | nil => cases h
  | cons c cs =>
    simp only [scheme?] at h
    rw [List.cons_append]
    simp only [scheme?]
    -- The scheme ends before the trail, since no character of the trail may be in one.
    rw [← List.cons_append, htrail.dropWhile_append fun _ => isSchemeChar_of_isObscure,
      htrail.takeWhile_append fun _ => isSchemeChar_of_isObscure]
    split at h
    case isTrue => cases h
    case isFalse halpha =>
      rw [if_neg halpha]
      split at h
      case h_1 behind hbehind =>
        rw [hbehind]
        simp only [Option.some.injEq, Prod.mk.injEq] at h
        obtain ⟨rfl, rfl⟩ := h
        rfl
      case h_2 => cases h

theorem splitHost_append_fst_snd (inside : Bool) (cs : List Char) :
    (splitHost inside cs).1 ++ (splitHost inside cs).2 = cs := by
  induction cs generalizing inside with
  | nil => rfl
  | cons c cs ih =>
    rw [splitHost]
    split
    case isTrue => rfl
    case isFalse =>
      rw [List.cons_append, ih]

/-- A trail belongs to the port, where there is a colon for it, and otherwise to the host. -/
theorem splitHost_append (htrail : IsTrail trail) (inside : Bool) (cs : List Char) :
    splitHost inside (cs ++ trail) =
      if (splitHost inside cs).2 = [] then ((splitHost inside cs).1 ++ trail, [])
      else ((splitHost inside cs).1, (splitHost inside cs).2 ++ trail) := by
  induction cs generalizing inside with
  | nil =>
    -- No colon comes any more, so the whole trail is of the host.
    have hcolon := htrail.not_mem (d := ':') (by decide)
    rw [List.nil_append]
    simp only [splitHost, if_pos, List.nil_append]
    clear htrail
    induction trail generalizing inside with
    | nil => rfl
    | cons c trail ih =>
      rw [List.mem_cons, not_or] at hcolon
      rw [splitHost, if_neg fun h => hcolon.1 h.1.symm]
      simp only [ih _ hcolon.2]
  | cons c cs ih =>
    rw [List.cons_append, splitHost, splitHost]
    split
    case isTrue => simp
    case isFalse =>
      -- What the character says about brackets is the same with and without the trail.
      generalize (if c = '[' then true else if c = ']' then false else inside) = within
      simp only [ih within]
      by_cases hnil : (splitHost within cs).2 = []
      · simp [hnil]
      · simp [hnil]

theorem splitCredentials_append (htrail : IsTrail trail) (cs : List Char) :
    splitCredentials (cs ++ trail) =
      ((splitCredentials cs).1, (splitCredentials cs).2 ++ trail) := by
  have hat := htrail.not_mem (d := '@') (by decide)
  by_cases hcs : '@' ∈ cs
  -- The last at sign is looked for from the end, past the trail.
  · have hback : ∀ c ∈ trail.reverse, (c != '@') = true := by
      intro c hc
      rw [bne_iff_ne]
      rintro rfl
      exact hat (List.mem_reverse.mp hc)
    have hrest : cs.reverse.dropWhile (· != '@') ≠ [] := by
      rw [Ne, List.dropWhile_eq_nil_iff]
      intro hall
      simpa using hall '@' (List.mem_reverse.mpr hcs)
    have hshort : (cs.reverse.takeWhile (· != '@')).length < cs.length := by
      have hlength := congrArg List.length
        (List.takeWhile_append_dropWhile (p := (· != '@')) (l := cs.reverse))
      rw [List.length_append, List.length_reverse] at hlength
      have := List.length_pos_iff.mpr hrest
      omega
    simp only [splitCredentials, List.contains_eq_mem, List.mem_append, hcs, hat, or_false,
      decide_true, if_true, List.reverse_append, List.takeWhile_append_of_pos hback,
      List.reverse_reverse, List.length_append, List.length_reverse]
    rw [List.take_append_of_le_length (by omega)]
    congr 2
    omega
  · simp [splitCredentials, hcs, hat]

theorem mem_of_mem_splitCredentials {cs : List Char} {c : Char}
    (h : c ∈ (splitCredentials cs).2) : c ∈ cs := by
  rw [splitCredentials] at h
  split at h
  case isTrue =>
    exact List.mem_reverse.mp ((List.takeWhile_sublist _).subset (List.mem_reverse.mp h))
  case isFalse => exact h

/-- A port is written in digits only, if no backslash ends it. -/
theorem portNumber_eq_error {cs : List Char} {c : Char} (hc : c ∈ cs) (hdigit : c.isDigit = false)
    (hback : '\\' ∉ cs) : portNumber cs = .error .invalidPort := by
  -- The program drops as many characters as it took digits.
  have hdrop : cs.drop (cs.takeWhile Char.isDigit).length = cs.dropWhile Char.isDigit := by
    have hleft : (cs.takeWhile Char.isDigit ++ cs.dropWhile Char.isDigit).drop
        (cs.takeWhile Char.isDigit).length = cs.dropWhile Char.isDigit := List.drop_left
    rwa [List.takeWhile_append_dropWhile] at hleft
  cases hrest : cs.dropWhile Char.isDigit with
  | nil =>
    rw [List.dropWhile_eq_nil_iff] at hrest
    rw [hrest c hc] at hdigit
    cases hdigit
  | cons d rest =>
    have hd : d ≠ '\\' := by
      rintro rfl
      exact hback ((List.dropWhile_sublist _).subset (hrest ▸ List.mem_cons_self))
    simp [portNumber, hdrop, hrest, hd]

/-! ## Hosts -/

/-- Two digits follow a percent sign. -/
def BeginsEscape (cs : List Char) : Prop :=
  ∃ a b x y rest, cs = '%' :: a :: b :: rest ∧ hexDigit? a = some x ∧ hexDigit? b = some y

/-- A character stands for its own bytes where no escape begins. -/
theorem percentDecoded_cons {d : Char} {cs : List Char} (h : ¬ BeginsEscape (d :: cs)) :
    percentDecoded (d :: cs) = String.utf8EncodeChar d ++ percentDecoded cs := by
  rw [percentDecoded.eq_def]
  split
  -- Two characters behind a percent sign are an escape only if both are digits of base 16.
  case h_1 a b rest heq =>
    obtain ⟨rfl, rfl⟩ := List.cons.inj heq
    split
    case h_1 x y hx hy => exact absurd ⟨a, b, x, y, rest, rfl, hx, hy⟩ h
    case h_2 => rfl
  case h_2 e rest hplain heq =>
    obtain ⟨rfl, rfl⟩ := List.cons.inj heq
    rw [Text.toList_toUTF8_singleton]
  case h_3 heq => cases heq

/-- The bytes of a character at the end that is no digit are its own: no escape takes them in. -/
theorem percentDecoded_concat {c : Char} (hc : isObscure c = true) (cs : List Char) :
    percentDecoded (cs ++ [c]) = percentDecoded cs ++ String.utf8EncodeChar c := by
  have hhex := hexDigit?_of_isObscure hc
  -- An escape that begins before the character ends before it.
  have hescape : ∀ d cs, BeginsEscape (d :: cs ++ [c]) → BeginsEscape (d :: cs) := by
    rintro d cs ⟨a, b, x, y, rest, heq, ha, hb⟩
    match cs with
    | [] => simp at heq
    | [a'] =>
      simp only [List.cons_append, List.nil_append, List.cons.injEq] at heq
      rw [← heq.2.2.1, hhex] at hb
      cases hb
    | a' :: b' :: rest' =>
      simp only [List.cons_append, List.cons.injEq] at heq
      obtain ⟨rfl, rfl, rfl, -⟩ := heq
      exact ⟨_, _, x, y, rest', rfl, ha, hb⟩
  have hplain : ∀ d cs, ¬ BeginsEscape (d :: cs) →
      percentDecoded (cs ++ [c]) = percentDecoded cs ++ String.utf8EncodeChar c →
      percentDecoded (d :: cs ++ [c]) = percentDecoded (d :: cs) ++ String.utf8EncodeChar c := by
    intro d cs hd hcs
    rw [percentDecoded_cons hd, List.append_assoc, ← hcs, List.cons_append]
    exact percentDecoded_cons fun h => hd (hescape d cs h)
  induction cs using percentDecoded.induct with
  | case1 a b cs x y hy hx ih => simp [percentDecoded, hx, hy, ih]
  | case2 a b cs hdigits ih =>
    refine hplain '%' (a :: b :: cs) ?_ ih
    rintro ⟨a', b', x, y, rest, heq, ha, hb⟩
    cases heq
    exact hdigits x y ha hb
  | case3 d cs hshort ih =>
    refine hplain d cs ?_ ih
    rintro ⟨a, b, x, y, rest, heq, -, -⟩
    cases heq
    exact hshort a b rest rfl rfl
  | case4 =>
    have hc : ¬ BeginsEscape [c] := by
      rintro ⟨a, b, x, y, rest, heq, -, -⟩
      cases heq
    rw [List.nil_append, percentDecoded_cons hc]
    simp [percentDecoded]

theorem mapM_eq_none {f : Char → Option (List Char)} {cs : List Char} {c : Char} (hc : c ∈ cs)
    (hf : f c = none) : cs.mapM f = none := by
  induction cs with
  | nil => cases hc
  | cons d cs ih =>
    rw [List.mapM_cons]
    cases List.mem_cons.mp hc with
    | inl h => simp [← h, hf]
    | inr h => simp [ih h]

/-- A name with a character that no name holds is none. -/
theorem domain?_eq_none {cs : List Char} {c : Char} (hc : c ∈ cs) (hform : form? c = none) :
    domain? cs = none := by
  simp [domain?, nameForm?, mapM_eq_none hc hform]

/-- No host ends in a trail. -/
theorem webHost_append (htrail : IsTrail trail) (cs : List Char) :
    ∃ fault, webHost (cs ++ trail) = .error fault := by
  obtain ⟨front, c, rfl, hform⟩ := htrail.last
  have hc : isObscure c = true := htrail.obscure c (by simp)
  rw [← List.append_assoc, webHost.eq_def]
  split
  -- An address in brackets would have to end in the closing one.
  case h_1 rest heq =>
    have hclose := ne_of_isObscure hc (d := ']') (by decide)
    exact ⟨.invalidIpv6, by simp [hclose]⟩
  case h_2 =>
    rw [percentDecoded_concat hc]
    split
    case h_1 => exact ⟨.invalidDomain, rfl⟩
    -- The decoded bytes end in those of the last character, and so does their text.
    case h_2 decoded hdecoded =>
      have hmem : c ∈ decoded.toList :=
        Text.mem_of_utf8Bytes_eq_append ((Text.fromUTF8?_eq_some_iff _ _).mp hdecoded)
      exact ⟨.invalidDomain, by rw [domain?_eq_none hmem hform]⟩

/-! ## Authorities -/

theorem hostAndPort_web (cs : List Char) :
    hostAndPort .web cs =
      if (splitHost false cs).1 = [] then .error .emptyHost
      else
        (webHost (splitHost false cs).1).bind fun host =>
          (portNumber ((splitHost false cs).2.drop 1)).map fun port => (some host, port) := by
  rw [hostAndPort]
  by_cases hname : (splitHost false cs).1 = []
  · simp [hname]
  · -- Only the web schemes are considered: they ask for a name, and a port may follow.
    have hempty : (splitHost false cs).1.isEmpty = false := by simpa using hname
    have hkind : (SchemeKind.web == .other) = false := rfl
    simp only [hname, hempty, hkind, Bool.false_and, Bool.false_eq_true, if_false]
    cases webHost (splitHost false cs).1 with
    | error fault => rfl
    | ok host =>
      cases portNumber ((splitHost false cs).2.drop 1) <;> rfl

/-- Neither a host nor a port ends in a trail. -/
theorem hostAndPort_append (htrail : IsTrail trail) {cs : List Char} (hback : '\\' ∉ cs) :
    ∃ fault, hostAndPort .web (cs ++ trail) = .error fault := by
  rw [hostAndPort_web, splitHost_append htrail]
  by_cases hport : (splitHost false cs).2 = []
  · obtain ⟨fault, hfault⟩ := webHost_append htrail (splitHost false cs).1
    exact ⟨fault, by simp [hport, htrail.ne_nil, hfault, Except.bind]⟩
  · obtain ⟨front, c, rfl, -⟩ := htrail.last
    have hc : isObscure c = true := htrail.obscure c (by simp)
    have hnumber : portNumber ((splitHost false cs).2.drop 1 ++ (front ++ [c])) =
        .error .invalidPort := by
      refine portNumber_eq_error (c := c) (by simp) (isDigit_of_isObscure hc) ?_
      rw [List.mem_append, not_or]
      refine ⟨fun hmem => hback ?_, htrail.not_mem (by decide)⟩
      rw [← splitHost_append_fst_snd false cs]
      exact List.mem_append_right _ (List.mem_of_mem_drop hmem)
    rw [if_neg hport]
    -- The host is read first and may be at fault before the port is.
    simp only [List.drop_append_of_le_length (List.length_pos_iff.mpr hport), hnumber]
    split
    case isTrue => exact ⟨_, rfl⟩
    case isFalse =>
      cases webHost (splitHost false cs).1 with
      | error fault => exact ⟨fault, rfl⟩
      | ok host => exact ⟨_, rfl⟩

/-- A trail behind nothing but user, host and port makes them invalid. -/
theorem withAuthority_append_of_nil (htrail : IsTrail trail) {scheme : String}
    (hweb : schemeKind scheme = .web) {cs : List Char}
    (htail : cs.dropWhile (!endsAuthority .web ·) = []) :
    ∃ fault, withAuthority scheme (cs ++ trail) = .error fault := by
  -- Nothing ends the authority, so the trail becomes part of it.
  have hends : ∀ c ∈ cs ++ trail, (!endsAuthority .web c) = true := by
    intro c hc
    cases List.mem_append.mp hc with
    | inl h => exact List.dropWhile_eq_nil_iff.mp htail c h
    | inr h => rw [endsAuthority_of_isObscure .web (htrail.obscure c h)]; rfl
  have hback : '\\' ∉ (splitCredentials cs).2 := by
    intro hmem
    have := hends _ (List.mem_append_left trail (mem_of_mem_splitCredentials hmem))
    simp [endsAuthority] at this
  obtain ⟨fault, hfault⟩ := hostAndPort_append htrail hback
  refine ⟨fault, ?_⟩
  simp only [withAuthority, hweb, List.takeWhile_eq_self_iff.mpr hends,
    List.dropWhile_eq_nil_iff.mpr hends, splitCredentials_append htrail, List.isEmpty_nil,
    Bool.not_true, Bool.false_eq_true, and_false, if_false, hfault]
  rfl

/-- A trail behind a path, a query or a fragment belongs to it. -/
theorem withAuthority_append_of_ne_nil (trail : List Char) {scheme : String}
    (hweb : schemeKind scheme = .web) {cs : List Char}
    (htail : cs.dropWhile (!endsAuthority .web ·) ≠ []) :
    withAuthority scheme (cs ++ trail) =
      (withAuthority scheme cs).map fun u => { u with tail := u.tail ++ String.ofList trail } := by
  -- The authority ends where it ended before, so only the tail gets longer.
  have hdrop : (cs ++ trail).dropWhile (!endsAuthority .web ·) =
      cs.dropWhile (!endsAuthority .web ·) ++ trail := by
    rw [List.dropWhile_append, if_neg (by simpa using htail)]
  simp only [withAuthority, hweb, hdrop, takeWhile_append_of_dropWhile hdrop]
  generalize cs.takeWhile (!endsAuthority .web ·) = authority
  generalize cs.dropWhile (!endsAuthority .web ·) = tail at htail
  have hempty : tail.isEmpty = false := by simpa using htail
  have hlonger : (tail ++ trail).isEmpty = false := by simp [htail]
  rw [hempty, hlonger]
  split
  case isTrue => rfl
  case isFalse =>
    cases hostAndPort .web (splitCredentials authority).2 with
    | error fault => rfl
    | ok found =>
      simp only [Bind.bind, Except.bind]
      split
      case isTrue => rfl
      case isFalse => simp [Except.map]

theorem scheme_tail_of_withAuthority {scheme : String} {cs : List Char} {u : Url}
    (h : withAuthority scheme cs = .ok u) :
    u.scheme = scheme ∧
      u.tail = String.ofList (cs.dropWhile (!endsAuthority (schemeKind scheme) ·)) := by
  simp only [withAuthority] at h
  split at h
  case isTrue => cases h
  case isFalse =>
    cases hfound : hostAndPort (schemeKind scheme)
        (splitCredentials (cs.takeWhile (!endsAuthority (schemeKind scheme) ·))).2 with
    | error fault =>
      rw [hfound] at h
      cases h
    | ok found =>
      rw [hfound] at h
      simp only [Bind.bind, Except.bind] at h
      split at h
      case isTrue => cases h
      case isFalse =>
        cases h
        exact ⟨rfl, rfl⟩

/-! ## URLs -/

theorem scheme_of_fileUrl {cs : List Char} {u : Url} (h : fileUrl cs = .ok u) :
    u.scheme = "file" := by
  -- All ways out of the parser, by its own tests: two slashes, an empty host, a host that is valid.
  unfold fileUrl at h
  split at h
  case h_1 a b rest =>
    dsimp only at h
    split at h
    case isTrue =>
      split at h
      case isTrue =>
        cases h
        rfl
      case isFalse =>
        cases hhost : webHost (rest.takeWhile (!endsAuthority .file ·)) with
        | error fault =>
          rw [hhost] at h
          cases h
        | ok host =>
          rw [hhost] at h
          cases h
          rfl
    case isFalse =>
      cases h
      rfl
  case h_2 =>
    cases h
    rfl

theorem schemeKind_of_isRequestable {u : Url} (h : u.isRequestable = true) :
    schemeKind u.scheme = .web := by
  simp only [isRequestable, Bool.and_eq_true, Bool.or_eq_true, beq_iff_eq] at h
  rcases h.1 with hscheme | hscheme <;> rw [hscheme] <;> decide

/-- A URL that can be requested is a scheme of the web with user, host and port behind it. -/
theorem exists_of_parse_of_isRequestable {s : String} {u : Url} (h : parse s = .ok u)
    (hu : u.isRequestable = true) :
    ∃ scheme rest, scheme? (significant s) = some (scheme, rest) ∧ String.ofList scheme = u.scheme ∧
      withAuthority u.scheme (rest.dropWhile fun c => c == '/' || c == '\\') = .ok u := by
  have hweb := schemeKind_of_isRequestable hu
  unfold parse at h
  split at h
  case h_1 => cases h
  case h_2 scheme rest hscheme =>
    refine ⟨scheme, rest, hscheme, ?_⟩
    -- Schemes of the other kinds keep their name, and none of these can be requested.
    cases hkind : schemeKind (String.ofList scheme) with
    | file =>
      simp only [hkind] at h
      rw [scheme_of_fileUrl h] at hweb
      cases hweb
    | web =>
      simp only [hkind] at h
      have hname := (scheme_tail_of_withAuthority h).1
      exact ⟨hname.symm, hname ▸ h⟩
    | other =>
      simp only [hkind] at h
      have hname : u.scheme = String.ofList scheme := by
        split at h
        case h_1 => exact (scheme_tail_of_withAuthority h).1
        case h_2 =>
          cases h
          rfl
      rw [hname, hkind] at hweb
      cases hweb

/-- A trail makes another URL of a URL that can be requested, or none. Where the address goes on
behind the host, the trail only makes that longer; where it ends with the host, the trail would be
part of it, and no host allows that. -/
theorem parse_of_significant_append (htrail : IsTrail trail) {s t : String}
    (hst : significant s = significant t ++ trail) {u : Url} (ht : parse t = .ok u)
    (hu : u.isRequestable = true) :
    if u.tail = "" then ∃ fault, parse s = .error fault
    else parse s = .ok { u with tail := u.tail ++ String.ofList trail } := by
  have hweb := schemeKind_of_isRequestable hu
  obtain ⟨scheme, rest, hscheme, hname, hauthority⟩ := exists_of_parse_of_isRequestable ht hu
  -- No character of the trail is mistaken for a slash, so the slashes end where they did.
  have hslashes : ∀ c, isObscure c = true → (c == '/' || c == '\\') = false := by
    intro c hc
    simp [ne_of_isObscure hc (d := '/') (by decide), ne_of_isObscure hc (d := '\\') (by decide)]
  have hparse : parse s =
      withAuthority u.scheme ((rest.dropWhile fun c => c == '/' || c == '\\') ++ trail) := by
    rw [parse, hst, scheme?_append htrail hscheme]
    simp only [hname, hweb, htrail.dropWhile_append hslashes]
  have htail := (scheme_tail_of_withAuthority hauthority).2
  rw [hweb] at htail
  -- How the authority begins has no part in what follows.
  generalize (rest.dropWhile fun c => c == '/' || c == '\\') = cs at hauthority hparse htail
  rw [hparse]
  split
  case isTrue hnone =>
    rw [hnone] at htail
    exact withAuthority_append_of_nil htrail hweb (by simpa using htail.symm)
  case isFalse hsome =>
    rw [withAuthority_append_of_ne_nil trail hweb fun hnil => hsome (by rw [htail, hnil]),
      hauthority]
    rfl

end Parts

end TrafficMap.Url
