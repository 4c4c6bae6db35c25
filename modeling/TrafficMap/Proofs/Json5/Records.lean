import Mathlib.Tactic.Simps.Basic
import TrafficMap.Json5.Typed

/-!
# JSON5: What the Members of an Object Say

A record is gathered member by member in a draft. What comes of a field depends on the members with
its name and on nothing else, so the draft and the order of the members can be kept out of sight:
`IsClean` is what is asked of all members, `Tells` what they say for one field.

`RecordType.Keeps` is the one fact that a record has to provide for each of its fields: where the
draft has the field, and that no other field touches it.
-/

namespace TrafficMap.Json5

/-! ## Readings that succeed -/

theorem map_eq_ok_iff {α β : Type} {e : Except Fault α} {f : α → β} {b : β} :
    e.map f = .ok b ↔ ∃ a, e = .ok a ∧ f a = b := by
  cases e <;> simp [Except.map]

theorem bind_eq_ok_iff {α β : Type} {e : Except Fault α} {f : α → Except Fault β} {b : β} :
    e.bind f = .ok b ↔ ∃ a, e = .ok a ∧ f a = .ok b := by
  cases e <;> simp [Except.bind]

/-- A member of an object: its key as it is spelled, and its value. -/
abbrev Member := List Piece × Node

/-! ## Members by name -/

/-- The values of the members with a name, however the name is spelled. -/
def valuesOf (name : String) (members : List Member) : List Node :=
  members.filterMap fun m => if (textOf m.1).toOption = some name then some m.2 else none

/-- Every key can be read, and where it is none of the known ones, so can its value. -/
def IsClean (known : List String) (members : List Member) : Prop :=
  ∀ m ∈ members, ∃ name, textOf m.1 = .ok name ∧ (name ∉ known → check m.2 = .ok ())

section Members

variable {name other : String} {key : List Piece} {node : Node} {members before after : List Member}

theorem valuesOf_append :
    valuesOf name (before ++ after) = valuesOf name before ++ valuesOf name after :=
  List.filterMap_append ..

theorem valuesOf_cons_self (h : textOf key = .ok name) :
    valuesOf name ((key, node) :: members) = node :: valuesOf name members := by
  simp [valuesOf, h, Except.toOption]

theorem valuesOf_cons_of_ne (h : textOf key = .ok other) (hne : other ≠ name) :
    valuesOf name ((key, node) :: members) = valuesOf name members := by
  simp [valuesOf, h, Except.toOption, hne]

theorem isClean_append {known : List String} :
    IsClean known (before ++ after) ↔ IsClean known before ∧ IsClean known after :=
  List.forall_mem_append

theorem isClean_cons {known : List String} :
    IsClean known ((key, node) :: members) ↔
      (∃ name, textOf key = .ok name ∧ (name ∉ known → check node = .ok ())) ∧
        IsClean known members :=
  List.forall_mem_cons

end Members

/-! ## What members say -/

/-- What the values for a field say: a single value what it is read as, no value the default. Two
values for one field tell nothing: the object cannot be read. -/
inductive Tells {α : Type} (read : Node → Except Fault α) (default : Option α) :
    List Node → α → Prop
  | missing {a : α} (h : default = some a) : Tells read default [] a
  | written {node : Node} {a : α} (h : read node = .ok a) : Tells read default [node] a

/-- What becomes of one part of a draft when the given values come for it: one value may come if
there has been none before. -/
inductive Settles {α : Type} (read : Node → Except Fault α) :
    Option α → List Node → Option α → Prop
  | kept (before : Option α) : Settles read before [] before
  | found {node : Node} {a : α} (h : read node = .ok a) : Settles read none [node] (some a)

section Settles

variable {α : Type} {read : Node → Except Fault α} {before after : Option α} {node : Node}
  {values : List Node} {a : α}

theorem Settles.cons (hread : read node = .ok a) (h : Settles read (some a) values after) :
    Settles read none (node :: values) after := by
  cases h
  exact .found hread

/-- A field that may be missing has the default then. -/
theorem Settles.tells_getD (h : Settles read none values after) (default : α) :
    Tells read (some default) values (after.getD default) := by
  cases h with
  | kept => exact .missing rfl
  | found hread => exact .written hread

theorem Settles.getD_eq (h : Settles read none values after) {default : α}
    (htells : Tells read (some default) values a) : after.getD default = a := by
  cases htells with
  | missing hdefault =>
    cases h
    exact Option.some.inj hdefault
  | written hread =>
    cases h with
    | found hread' =>
      rw [hread] at hread'
      exact (Except.ok.inj hread').symm

/-- A field that has to be there is settled with what is told for it. -/
theorem Settles.tells_none_iff (h : Settles read none values after) :
    Tells read none values a ↔ after = some a := by
  constructor
  · rintro (hdefault | hread)
    · cases hdefault
    · cases h with
      | found hread' =>
        rw [hread] at hread'
        rw [Except.ok.inj hread']
  · rintro rfl
    cases h with
    | found hread => exact .written hread

end Settles

/-! ## Gathering -/

/-- The field does not change the part of a draft that `get` gives. -/
def RecordField.Leaves {σ α : Type} (f : RecordField σ) (get : σ → Option α) : Prop :=
  ∀ node d d', f.add node d = .ok d' → get d' = get d

@[simp]
theorem RecordField.name_of {σ α : Type} (name : String) (required : Bool) (get : σ → Option α)
    (set : σ → α → σ) (read : Node → Except Fault α) :
    (RecordField.of name required get set read).name = name := rfl

theorem RecordField.leaves_of {σ α β : Type} {name : String} {required : Bool}
    {get : σ → Option α} {set : σ → α → σ} {read : Node → Except Fault α} {other : σ → Option β}
    (h : ∀ d a, other (set d a) = other d) :
    (RecordField.of name required get set read).Leaves other := by
  intro node d d' hadd
  obtain ⟨a, -, rfl⟩ := map_eq_ok_iff.mp hadd
  exact h d a

namespace RecordType

variable {σ : Type}

def names (t : RecordType σ) : List String := t.fields.map (·.name)

/-- The field with the name is kept in the part of the draft that `get` gives, and no field with
another name changes that part. Fields that are kept apart can be read in any order. -/
structure Keeps (t : RecordType σ) {α : Type} (name : String) (get : σ → Option α)
    (read : Node → Except Fault α) : Prop where
  own : ∃ f, t.fields.find? (·.name == name) = some f ∧ (∀ d, f.isSet d = (get d).isSome) ∧
    ∀ node d, (f.add node d).map get = (read node).map some
  frame : ∀ g ∈ t.fields, g.name = name ∨ g.Leaves get

/-- Every field is kept somewhere. -/
def IsLawful (t : RecordType σ) : Prop :=
  ∀ name ∈ t.names, ∃ (α : Type) (get : σ → Option α) (read : Node → Except Fault α),
    t.Keeps name get read

variable {t : RecordType σ} {α : Type} {f : RecordField σ} {get : σ → Option α}
  {read : Node → Except Fault α} {name : String} {key : List Piece} {node : Node}
  {members : List Member} {d d' : σ}

/-- A field that is kept in one part of a draft, apart from the parts of the others. -/
theorem keeps_of {required : Bool} {set : σ → α → σ}
    (own : t.fields.find? (·.name == name) = some (.of name required get set read))
    (get_set : ∀ d a, get (set d a) = some a)
    (frame : ∀ g ∈ t.fields, g.name = name ∨ g.Leaves get) : t.Keeps name get read where
  own := by
    refine ⟨_, own, fun _ => rfl, ?_⟩
    intro node d
    show ((read node).map (set d)).map get = (read node).map some
    -- A value that cannot be read leaves no draft; otherwise the part that was set is there.
    cases read node with
    | ok a => exact congrArg Except.ok (get_set d a)
    | error fault => rfl
  frame := frame

theorem Keeps.isSet (h : t.Keeps name get read)
    (hfind : t.fields.find? (·.name == name) = some f) (d : σ) : f.isSet d = (get d).isSome := by
  obtain ⟨f', hfind', hset, -⟩ := h.own
  obtain rfl : f' = f := Option.some.inj (hfind'.symm.trans hfind)
  exact hset d

theorem Keeps.add (h : t.Keeps name get read)
    (hfind : t.fields.find? (·.name == name) = some f) (node : Node) (d : σ) :
    (f.add node d).map get = (read node).map some := by
  obtain ⟨f', hfind', -, hadd⟩ := h.own
  obtain rfl : f' = f := Option.some.inj (hfind'.symm.trans hfind)
  exact hadd node d

theorem find?_eq_none_iff :
    t.fields.find? (·.name == name) = none ↔ name ∉ t.names := by
  simp [names]

theorem name_of_find? (h : t.fields.find? (·.name == name) = some f) :
    f.name = name := by
  have hname := List.find?_some h
  exact eq_of_beq hname

@[simp]
theorem draft_object : t.draft d (.object members) = addMembers t d members := rfl

/-- A member is taken in two ways: it names no field and makes sense, or it is read as the value of
a field that is not set. -/
theorem addMember_eq_ok_iff :
    addMember t key node d = .ok d' ↔ ∃ name, textOf key = .ok name ∧
      ((t.fields.find? (·.name == name) = none ∧ check node = .ok () ∧ d = d') ∨
        ∃ f, t.fields.find? (·.name == name) = some f ∧ f.isSet d = false ∧
          f.add node d = .ok d') := by
  refine bind_eq_ok_iff.trans (exists_congr fun name => and_congr_right fun _ => ?_)
  cases t.fields.find? (·.name == name) with
  | none => cases check node <;> simp [Except.map]
  | some f => cases hset : f.isSet d <;> simp [hset]

theorem addMembers_cons_eq_ok_iff :
    addMembers t d ((key, node) :: members) = .ok d' ↔
      ∃ d₁, addMember t key node d = .ok d₁ ∧ addMembers t d₁ members = .ok d' :=
  bind_eq_ok_iff

/-- A field of a draft is settled by the values of the members with its name. -/
theorem Keeps.settles (h : t.Keeps name get read) (hmembers : addMembers t d members = .ok d') :
    Settles read (get d) (valuesOf name members) (get d') := by
  induction members generalizing d with
  | nil =>
    cases hmembers
    exact .kept _
  | cons m members ih =>
    obtain ⟨key, node⟩ := m
    obtain ⟨d₁, hmember, hrest⟩ := addMembers_cons_eq_ok_iff.mp hmembers
    obtain ⟨other, hkey, hother⟩ := addMember_eq_ok_iff.mp hmember
    by_cases hname : other = name
    · -- The member is for this field, so there was none before and there is none behind.
      subst hname
      obtain ⟨hunknown, -⟩ | ⟨f, hfind, hset, hadd⟩ := hother
      · obtain ⟨f, hfind, -⟩ := h.own
        rw [hunknown] at hfind
        cases hfind
      · have hnone : get d = none := by
          rw [h.isSet hfind] at hset
          exact Option.isSome_eq_false_iff.mp hset |> Option.isNone_iff_eq_none.mp
        have hread := h.add hfind node d
        rw [hadd] at hread
        obtain ⟨a, ha, hget⟩ := map_eq_ok_iff.mp hread.symm
        rw [valuesOf_cons_self hkey, hnone]
        refine .cons ha ?_
        rw [hget]
        exact ih hrest
    · have hkept : get d₁ = get d := by
        obtain ⟨-, -, rfl⟩ | ⟨g, hfind, -, hadd⟩ := hother
        · rfl
        · have hne : g.name ≠ name := by
            rwa [name_of_find? hfind]
          exact (h.frame g (List.mem_of_find?_eq_some hfind)).resolve_left hne node d d₁ hadd
      rw [valuesOf_cons_of_ne hkey hname, ← hkept]
      exact ih hrest

theorem isClean_of_addMembers (h : addMembers t d members = .ok d') : IsClean t.names members := by
  induction members generalizing d with
  | nil => exact List.forall_mem_nil _
  | cons m members ih =>
    obtain ⟨key, node⟩ := m
    obtain ⟨d₁, hmember, hrest⟩ := addMembers_cons_eq_ok_iff.mp h
    obtain ⟨name, hkey, hmember⟩ := addMember_eq_ok_iff.mp hmember
    refine isClean_cons.mpr ⟨⟨name, hkey, fun hunknown => ?_⟩, ih hrest⟩
    -- A member is clean if its name is known, or its value makes sense; the draft says which it
    -- was.
    obtain ⟨-, hcheck, -⟩ | ⟨f, hfind, -⟩ := hmember
    · exact hcheck
    · rw [find?_eq_none_iff.mpr hunknown] at hfind
      cases hfind

/-! ## When gathering succeeds -/

/-- The values for a field can be taken: there is none, or a single one that can be read, and the
field is not set. -/
inductive Takes (t : RecordType σ) (d : σ) (name : String) : List Node → Prop
  | missing : Takes t d name []
  | written {f : RecordField σ} {node : Node} {e e' : σ}
    (hfind : t.fields.find? (·.name == name) = some f) (hset : f.isSet d = false)
    (hadd : f.add node e = .ok e') : Takes t d name [node]

/-- What values tell can be taken for a field that is not set. -/
theorem Keeps.takes (h : t.Keeps name get read) {default : Option α} {values : List Node} {a : α}
    (htells : Tells read default values a) (hnone : get d = none) : t.Takes d name values := by
  cases htells with
  | missing => exact .missing
  | @written node _ hread =>
    -- The value is read alike in any draft, so it can be added to this one.
    obtain ⟨f, hfind, hset, hadd⟩ := h.own
    have hnow := hadd node d
    rw [hread] at hnow
    obtain ⟨d', hd', -⟩ := map_eq_ok_iff.mp hnow
    refine .written hfind ?_ hd'
    rw [hset, hnone]
    rfl

section Lawful

variable (h : t.IsLawful)

include h

/-- Whether a value can be taken does not depend on the draft. -/
theorem IsLawful.exists_add_eq_ok (hfind : t.fields.find? (·.name == name) = some f) {e e' : σ}
    (hadd : f.add node e = .ok e') (d : σ) : ∃ d', f.add node d = .ok d' := by
  have hname : name ∈ t.names := by
    rw [← name_of_find? hfind]
    exact List.mem_map_of_mem (List.mem_of_find?_eq_some hfind)
  -- Adding is reading and then setting, and only reading can fail.
  obtain ⟨α, get, read, hkeeps⟩ := h name hname
  have hbefore := hkeeps.add hfind node e
  rw [hadd] at hbefore
  obtain ⟨a, hread, -⟩ := map_eq_ok_iff.mp hbefore.symm
  have hnow := hkeeps.add hfind node d
  rw [hread] at hnow
  obtain ⟨d', hd', -⟩ := map_eq_ok_iff.mp hnow
  exact ⟨d', hd'⟩

/-- A field with another name does not stand in the way. -/
theorem IsLawful.takes_of_add (hname : name ∈ t.names) {g : RecordField σ} (hg : g ∈ t.fields)
    (hne : g.name ≠ name) (hadd : g.add node d = .ok d') {values : List Node}
    (htakes : t.Takes d name values) : t.Takes d' name values := by
  obtain ⟨α, get, read, hkeeps⟩ := h name hname
  cases htakes with
  | missing => exact .missing
  | written hfind hset hread =>
    refine .written hfind ?_ hread
    rw [hkeeps.isSet hfind] at hset ⊢
    rwa [(hkeeps.frame g hg).resolve_left hne node d d' hadd]

/-- Members are taken if keys and unknown values make sense and each field can take its values. -/
theorem IsLawful.exists_addMembers_eq_ok (hclean : IsClean t.names members)
    (htakes : ∀ name ∈ t.names, t.Takes d name (valuesOf name members)) :
    ∃ d', addMembers t d members = .ok d' := by
  induction members generalizing d with
  | nil => exact ⟨d, rfl⟩
  | cons m members ih =>
    obtain ⟨key, node⟩ := m
    obtain ⟨⟨other, hkey, hcheck⟩, hrest⟩ := isClean_cons.mp hclean
    -- The member leaves a draft that can take the values behind it.
    obtain ⟨d₁, hmember, hothers⟩ : ∃ d₁, addMember t key node d = .ok d₁ ∧
        ∀ name ∈ t.names, t.Takes d₁ name (valuesOf name members) := by
      cases hfind : t.fields.find? (·.name == other) with
      | none =>
        have hunknown := find?_eq_none_iff.mp hfind
        refine ⟨d, addMember_eq_ok_iff.mpr ⟨other, hkey, .inl ⟨hfind, hcheck hunknown, rfl⟩⟩, ?_⟩
        intro name hname
        have hne : other ≠ name := by
          rintro rfl
          exact hunknown hname
        rw [← valuesOf_cons_of_ne hkey hne]
        exact htakes name hname
      | some g =>
        have hg : g ∈ t.fields := List.mem_of_find?_eq_some hfind
        obtain rfl := name_of_find? hfind
        have hown := htakes g.name (List.mem_map_of_mem hg)
        rw [valuesOf_cons_self hkey] at hown
        generalize hlast : valuesOf g.name members = values at hown
        cases hown with
        | written hfind' hset hadd =>
          obtain rfl := Option.some.inj (hfind.symm.trans hfind')
          obtain ⟨d₁, hd₁⟩ := h.exists_add_eq_ok hfind hadd d
          refine ⟨d₁, addMember_eq_ok_iff.mpr ⟨_, hkey, .inr ⟨_, hfind, hset, hd₁⟩⟩, ?_⟩
          intro name hname
          by_cases hsame : g.name = name
          · rw [← hsame, hlast]
            exact .missing
          · rw [← valuesOf_cons_of_ne hkey hsame]
            exact h.takes_of_add hname hg hsame hd₁ (htakes name hname)
    obtain ⟨d', hd'⟩ := ih hrest hothers
    exact ⟨d', addMembers_cons_eq_ok_iff.mpr ⟨d₁, hmember, hd'⟩⟩

end Lawful

/-! ## Objects as a whole -/

/-- What is expected of a field: of the part of a draft where it is kept, and of the values for it,
which comes to the same for every draft that members are gathered in. -/
structure Expectation (t : RecordType σ) (empty : σ) where
  name : String
  kept : ∃ (α : Type) (get : σ → Option α) (read : Node → Except Fault α), t.Keeps name get read
  ofDraft : σ → Prop
  ofValues : List Node → Prop
  takes : ∀ values, ofValues values → t.Takes empty name values
  agrees : ∀ members d, addMembers t empty members = .ok d →
    (ofDraft d ↔ ofValues (valuesOf name members))

/-- A field that may be missing is expected to tell `a`. -/
@[simps name ofDraft ofValues]
def Keeps.optional {empty : σ} (h : t.Keeps name get read) (hnone : get empty = none)
    (default a : α) : t.Expectation empty where
  name := name
  kept := ⟨α, get, read, h⟩
  ofDraft d := (get d).getD default = a
  ofValues values := Tells read (some default) values a
  takes _ htells := h.takes htells hnone
  agrees members d hd := by
    have hsettles := h.settles hd
    rw [hnone] at hsettles
    exact ⟨fun ha => ha ▸ hsettles.tells_getD default, hsettles.getD_eq⟩

/-- A field that has to be there is expected to tell `a`. -/
@[simps name ofDraft ofValues]
def Keeps.required {empty : σ} (h : t.Keeps name get read) (hnone : get empty = none) (a : α) :
    t.Expectation empty where
  name := name
  kept := ⟨α, get, read, h⟩
  ofDraft d := get d = some a
  ofValues values := Tells read none values a
  takes _ htells := h.takes htells hnone
  agrees members d hd := by
    have hsettles := h.settles hd
    rw [hnone] at hsettles
    exact hsettles.tells_none_iff.symm

/-- **What an object tells.** With an expectation of each field of a record, members are gathered in
a draft of which all of it holds exactly if they are clean and it holds of the values for each
field. All records of the configuration are read along these lines, so each of them only has to say
where its fields are kept. -/
theorem exists_addMembers_and_iff (empty : σ) (members : List Member)
    (expected : List (t.Expectation empty)) (hnames : t.names = expected.map (·.name)) :
    (∃ d, addMembers t empty members = .ok d ∧ ∀ e ∈ expected, e.ofDraft d) ↔
      IsClean t.names members ∧ ∀ e ∈ expected, e.ofValues (valuesOf e.name members) := by
  constructor
  · rintro ⟨d, hd, hdraft⟩
    exact ⟨isClean_of_addMembers hd, fun e he => (e.agrees members d hd).mp (hdraft e he)⟩
  · rintro ⟨hclean, hvalues⟩
    -- That there is a draft at all needs all expectations together; what it then holds, each of
    -- them alone.
    have hlawful : t.IsLawful := by
      rw [IsLawful, hnames]
      exact List.forall_mem_map.mpr fun e _ => e.kept
    have htakes : ∀ name ∈ t.names, t.Takes empty name (valuesOf name members) := by
      rw [hnames]
      exact List.forall_mem_map.mpr fun e he => e.takes _ (hvalues e he)
    obtain ⟨d, hd⟩ := hlawful.exists_addMembers_eq_ok hclean htakes
    exact ⟨d, hd, fun e he => (e.agrees members d hd).mpr (hvalues e he)⟩

end RecordType

end TrafficMap.Json5
