import TrafficMap.Proofs.Json5.Records
import TrafficMap.Proofs.Json5.Values

/-!
# JSON5: Edits That Say Nothing New

The members of an object may grow without saying anything new: a field that is missing is written
out with its default, or a member comes that names no field. The value of a field may be edited in
its turn, if it is read alike before and after. None of it changes what the members tell, so it
does not change what the object is read as.

What an edit may do is described by `FieldRule`s, one for each field, and an edit knows nothing of
how a record is read: a default is written out as something that means it. `FieldRule.Respects` is
where the two meet, and there the default of the rule has to be what the field has without a value.
-/

namespace TrafficMap.Json5

variable {α : Type}

/-! ## Values that are read alike -/

/-- Two values are read as the same, or neither can be read. Which of several faults is reported
does not matter here. -/
def ReadAlike (read : Node → Except Fault α) (node node' : Node) : Prop :=
  ∀ a, read node = .ok a ↔ read node' = .ok a

instance (read : Node → Except Fault α) : IsEquiv Node (ReadAlike read) where
  refl _ _ := Iff.rfl
  symm _ _ h a := (h a).symm
  trans _ _ _ h h' a := (h a).trans (h' a)

/-- Objects are read by what is asked of all members and what is told by them. -/
def ReadsObjects (read : Node → Except Fault α) (known : List String)
    (told : α → List Member → Prop) : Prop :=
  ∀ members a, read (.object members) = .ok a ↔ IsClean known members ∧ told a members

/-! ## Edits -/

/-- What may be done to the value of a field: which values are its default, and which can be
exchanged for one another. -/
structure FieldRule where
  name : String
  isDefault : Node → Prop
  within : Node → Node → Prop

/-- A field that may be written out with its default. -/
def FieldRule.of (name : String) (means : Node → α → Prop) (default : α) : FieldRule where
  name := name
  isDefault node := means node default
  within _ _ := False

/-- A field whose value may be edited. Its default is written out as `empty`, or as anything that
comes of that by edits. -/
def FieldRule.nested (name : String) (empty : Node) (within : Node → Node → Prop) : FieldRule where
  name := name
  isDefault := Relation.EqvGen within empty
  within := within

/-- An edit of the members of a record with the `known` names. It writes out a field that was
missing, changes the value of one that was there, or adds a key that the record does not know. -/
inductive Edit (known : List String) (rules : List FieldRule) :
    List Member → List Member → Prop
  /-- A field that is missing is written out with its default. -/
  | write (r : FieldRule) (before after : List Member) {key : List Piece} {node : Node}
      (hr : r ∈ rules) (hkey : Spells key r.name.toList)
      (hmissing : valuesOf r.name (before ++ after) = []) (hdefault : r.isDefault node) :
      Edit known rules (before ++ after) (before ++ (key, node) :: after)
  /-- The value of a field is edited. -/
  | change (r : FieldRule) (before after : List Member) {key : List Piece} {node node' : Node}
      (hr : r ∈ rules) (hkey : Spells key r.name.toList) (hwithin : r.within node node') :
      Edit known rules (before ++ (key, node) :: after) (before ++ (key, node') :: after)
  /-- A member comes that names no field; its value makes sense by itself. -/
  | ignore (name : String) (before after : List Member) {key : List Piece} {node : Node}
      (hkey : Spells key name.toList) (hunknown : name ∉ known) (hsound : IsSound node) :
      Edit known rules (before ++ after) (before ++ (key, node) :: after)

inductive ObjectEdit (known : List String) (rules : List FieldRule) : Node → Node → Prop
  | members {members members' : List Member} (h : Edit known rules members members') :
      ObjectEdit known rules (.object members) (.object members')

/-- An edit of one element of a list. -/
inductive ItemEdit (within : Node → Node → Prop) : List Node → List Node → Prop
  | head {node node' : Node} {items : List Node} (h : within node node') :
      ItemEdit within (node :: items) (node' :: items)
  | tail {node : Node} {items items' : List Node} (h : ItemEdit within items items') :
      ItemEdit within (node :: items) (node :: items')

inductive ListEdit (within : Node → Node → Prop) : Node → Node → Prop
  | items {items items' : List Node} (h : ItemEdit within items items') :
      ListEdit within (.array items) (.array items')

/-! ## Members that come -/

section Insert

variable {known : List String} {name other : String} {key : List Piece} {node node' : Node}
  {before after : List Member}

theorem isClean_insert_iff
    (h : ∃ name, textOf key = .ok name ∧ (name ∉ known → check node = .ok ())) :
    IsClean known (before ++ (key, node) :: after) ↔ IsClean known (before ++ after) := by
  rw [isClean_append, isClean_append, isClean_cons, and_iff_right h]

theorem valuesOf_insert_self (h : textOf key = .ok name) :
    valuesOf name (before ++ (key, node) :: after) =
      valuesOf name before ++ node :: valuesOf name after := by
  rw [valuesOf_append, valuesOf_cons_self h]

theorem valuesOf_insert_of_ne (h : textOf key = .ok other) (hne : other ≠ name) :
    valuesOf name (before ++ (key, node) :: after) = valuesOf name (before ++ after) := by
  rw [valuesOf_append, valuesOf_append, valuesOf_cons_of_ne h hne]

end Insert

/-! ## What members tell before and after -/

section Tells

variable {read : Node → Except Fault α} {default : Option α} {node node' : Node}
  {values values' : List Node} {a : α}

@[simp]
theorem tells_nil_iff : Tells read default [] a ↔ default = some a :=
  ⟨fun | .missing h => h, .missing⟩

@[simp]
theorem tells_singleton_iff : Tells read default [node] a ↔ read node = .ok a :=
  ⟨fun | .written h => h, .written⟩

/-- A single value can be exchanged; with others beside it, nothing is told anyway. -/
theorem tells_exchange_iff (h : ReadAlike read node node') :
    Tells read default (values ++ node :: values') a ↔
      Tells read default (values ++ node' :: values') a := by
  match values, values' with
  | [], [] => rw [List.nil_append, List.nil_append, tells_singleton_iff, tells_singleton_iff, h a]
  | [], _ :: _ => exact ⟨nofun, nofun⟩
  | [_], _ => exact ⟨nofun, nofun⟩
  | _ :: _ :: _, _ => exact ⟨nofun, nofun⟩

end Tells

/-- The rule does not change how a field is read that has the given default. A rule that is
respected by the reader of its field is respected by the reader of the whole record. -/
structure FieldRule.Respects (r : FieldRule) (read : Node → Except Fault α) (default : Option α) :
    Prop where
  isDefault : ∀ node, r.isDefault node → ∃ a, default = some a ∧ read node = .ok a
  within : ∀ node node', r.within node node' → ReadAlike read node node'

namespace FieldRule

variable {name : String} {read : Node → Except Fault α} {default : α}

@[simp]
theorem name_of {means : Node → α → Prop} : (FieldRule.of name means default).name = name := rfl

@[simp]
theorem name_nested {empty : Node} {within : Node → Node → Prop} :
    (FieldRule.nested name empty within).name = name := rfl

theorem respects_of {means : Node → α → Prop} (h : Understands read means) :
    (FieldRule.of name means default).Respects read (some default) where
  isDefault node hnode := ⟨default, rfl, h node default hnode⟩
  within _ _ := False.elim

theorem respects_nested {empty : Node} {within : Node → Node → Prop}
    (hempty : read empty = .ok default) (h : within ≤ ReadAlike read) :
    (FieldRule.nested name empty within).Respects read (some default) where
  isDefault _ hnode :=
    ⟨default, rfl, (Relation.EqvGen.eqvGen_le h _ _ hnode default).mp hempty⟩
  within := h

end FieldRule

section Edit

variable {known : List String} {rules : List FieldRule} {members members' : List Member}

theorem Edit.isClean_iff (h : Edit known rules members members')
    (hnames : ∀ r ∈ rules, r.name ∈ known) : IsClean known members ↔ IsClean known members' := by
  cases h with
  | write _ _ _ hr hkey =>
    exact (isClean_insert_iff ⟨_, hkey.textOf, fun hnot => absurd (hnames _ hr) hnot⟩).symm
  | change _ _ _ hr hkey =>
    have hown : ∀ node, ∃ name, textOf _ = .ok name ∧ (name ∉ known → check node = .ok ()) :=
      fun node => ⟨_, hkey.textOf, fun hnot => absurd (hnames _ hr) hnot⟩
    exact (isClean_insert_iff (hown _)).trans (isClean_insert_iff (hown _)).symm
  | ignore _ _ _ hkey _ hsound =>
    exact (isClean_insert_iff ⟨_, hkey.textOf, fun _ => hsound.check⟩).symm

/-- What is told for a field stays the same if the rules with its name respect it. This is the step
for one field; for the record it is applied to each of them. -/
theorem Edit.tells_iff (h : Edit known rules members members') {name : String}
    {read : Node → Except Fault α} {default : Option α} {a : α} (hname : name ∈ known)
    (hrules : ∀ r ∈ rules, r.name = name → r.Respects read default) :
    Tells read default (valuesOf name members) a ↔
      Tells read default (valuesOf name members') a := by
  cases h with
  | write r before after hr hkey hmissing hdefault =>
    by_cases hsame : r.name = name
    · -- Before, nothing is told for the field, hence its default; now one value, which is read as
      -- the default.
      obtain ⟨b, hb, hread⟩ := (hrules r hr hsame).isDefault _ hdefault
      subst hsame
      obtain ⟨hbefore, hafter⟩ : valuesOf r.name before = [] ∧ valuesOf r.name after = [] := by
        rwa [valuesOf_append, List.append_eq_nil_iff] at hmissing
      rw [hmissing, valuesOf_insert_self hkey.textOf, hbefore, hafter, List.nil_append, tells_nil_iff,
        tells_singleton_iff, hb, hread, Option.some.injEq, Except.ok.injEq]
    · rw [valuesOf_insert_of_ne hkey.textOf hsame]
  | change r before after hr hkey hwithin =>
    by_cases hsame : r.name = name
    · -- One value stands for another that is read alike, whatever else is told for the field.
      have halike := (hrules r hr hsame).within _ _ hwithin
      subst hsame
      rw [valuesOf_insert_self hkey.textOf, valuesOf_insert_self hkey.textOf]
      exact tells_exchange_iff halike
    · rw [valuesOf_insert_of_ne hkey.textOf hsame, valuesOf_insert_of_ne hkey.textOf hsame]
  | ignore other before after hkey hunknown =>
    -- A key that the record does not know is never asked for.
    have hne : other ≠ name := by
      rintro rfl
      exact hunknown hname
    rw [valuesOf_insert_of_ne hkey.textOf hne]

/-- Objects are read alike if an edit does not change what is told. -/
theorem ObjectEdit.readAlike {node node' : Node} (h : ObjectEdit known rules node node')
    {read : Node → Except Fault α} {told : α → List Member → Prop}
    (hreads : ReadsObjects read known told) (hnames : ∀ r ∈ rules, r.name ∈ known)
    (htold : ∀ a members members', Edit known rules members members' →
      (told a members ↔ told a members')) : ReadAlike read node node' := by
  obtain ⟨hedit⟩ := h
  intro a
  rw [hreads, hreads]
  exact and_congr (hedit.isClean_iff hnames) (htold a _ _ hedit)

end Edit

/-! ## Lists -/

section List

variable {item : Node → Except Fault α} {items items' : List Node}

/-- A list is read element by element. -/
theorem list_array_eq_ok_iff {values : List α} :
    list item (.array items) = .ok values ↔
      List.Forall₂ (fun node a => item node = .ok a) items values := by
  show items.mapM item = .ok values ↔ _
  induction items generalizing values with
  | nil =>
    rw [List.mapM_nil, List.forall₂_nil_left_iff]
    exact ⟨fun h => (Except.ok.inj h).symm, fun h => h ▸ rfl⟩
  | cons node items ih =>
    -- `mapM` in terms of `bind`, so that success can be taken apart.
    have hcons : (node :: items).mapM item =
        (item node).bind fun a => (items.mapM item).bind fun rest => .ok (a :: rest) :=
      List.mapM_cons
    rw [hcons, bind_eq_ok_iff, List.forall₂_cons_left_iff]
    refine exists_congr fun a => ?_
    simp only [bind_eq_ok_iff, ih, Except.ok.injEq]
    constructor
    · rintro ⟨ha, rest, hrest, rfl⟩
      exact ⟨rest, ha, hrest, rfl⟩
    · rintro ⟨rest, ha, hrest, rfl⟩
      exact ⟨ha, rest, hrest, rfl⟩

theorem ItemEdit.forall₂_iff {within : Node → Node → Prop} (h : ItemEdit within items items')
    (hwithin : ∀ node node', within node node' → ReadAlike item node node') {values : List α} :
    List.Forall₂ (fun node a => item node = .ok a) items values ↔
      List.Forall₂ (fun node a => item node = .ok a) items' values := by
  induction h generalizing values with
  | head hedit =>
    simp only [List.forall₂_cons_left_iff, hwithin _ _ hedit _]
  | tail _ ih =>
    simp only [List.forall₂_cons_left_iff, ih]

theorem ListEdit.readAlike {within : Node → Node → Prop} {node node' : Node}
    (h : ListEdit within node node')
    (hwithin : ∀ node node', within node node' → ReadAlike item node node') :
    ReadAlike (list item) node node' := by
  obtain ⟨hedit⟩ := h
  intro values
  rw [list_array_eq_ok_iff, list_array_eq_ok_iff]
  exact hedit.forall₂_iff hwithin

end List

end TrafficMap.Json5
