import TrafficMap.Proofs.Json5.Edits
import TrafficMap.Proofs.Settings.Sections
import TrafficMap.Settings.File

/-!
# Settings: Defaults

A section that is missing has a default as a whole, and a field that is missing in a section has a
default of its own. Both have to be the same value. Then it makes no difference how much of a
configuration is written out with its default, nor what is noted in it besides.

`SettingsEdit` is a single step of that kind anywhere in a document, one layer of edits for each
layer of the document: all settings, their sections, and the placements in the layout.
-/

namespace TrafficMap

open Json5 (DecimalNumeral Edit FieldRule Fault IsClean IsCoordinate IsCount IsSound IsText IsTruth
  IsVariant ListEdit Member Node Numeral ObjectEdit Piece ReadAlike ReadsObjects Spells Understands
  isCount_toDigits spells_unescaped understands_boolean understands_coordinate understands_count
  understands_text understands_variant unescaped)

/-! ## Words -/

theorem understands_layer : Understands Layer.ofNode (IsVariant Layer.text) := by
  apply understands_variant
  · intro l
    cases l <;> simp
  · intro l l'
    cases l <;> cases l' <;> decide

theorem understands_logFormat : Understands LogFormat.ofNode (IsVariant LogFormat.name) := by
  apply understands_variant
  · intro f
    cases f <;> simp
  · intro f f'
    cases f <;> cases f' <;> decide

/-! ## Edits of the parts -/

/-- The fields of the endpoint settings. -/
def endpointRules : List FieldRule :=
  [.of "url" IsText EndpointSettings.default.url,
    .of "timeout_ms" IsCount EndpointSettings.default.timeoutMs]

/-- An edit of the endpoint settings that says nothing new. -/
def EndpointEdit : Node → Node → Prop := ObjectEdit endpointRecord.names endpointRules

def pollRules : List FieldRule :=
  [.of "interval_ms" IsCount PollSettings.default.intervalMs,
    .of "auto_refresh" IsTruth PollSettings.default.autoRefresh]

def PollEdit : Node → Node → Prop := ObjectEdit pollRecord.names pollRules

/-- The fields of a placement that may be missing. -/
def serviceRules : List FieldRule :=
  [.of "layer" (IsVariant Layer.text) Layer.unknown]

def ServiceEdit : Node → Node → Prop := ObjectEdit serviceRecord.names serviceRules

/-- The fields of the layout settings; a placement in the layout may be edited. -/
def layoutRules : List FieldRule :=
  [.of "replace_defaults" IsTruth LayoutSettings.default.replaceDefaults,
    .nested "services" (.array []) (ListEdit ServiceEdit)]

def LayoutEdit : Node → Node → Prop := ObjectEdit layoutRecord.names layoutRules

def logRules : List FieldRule :=
  [.of "level" IsText LogSettings.default.level,
    .of "format" (IsVariant LogFormat.name) LogSettings.default.format]

def LogEdit : Node → Node → Prop := ObjectEdit logRecord.names logRules

/-- The sections of the settings, each of which may be edited. A section that is written out has any
of its fields in it, each with the default of the field. -/
def settingsRules : List FieldRule :=
  [.nested "endpoint" (.object []) EndpointEdit, .nested "poll" (.object []) PollEdit,
    .nested "layout" (.object []) LayoutEdit, .nested "logging" (.object []) LogEdit]

/-- An edit of a configuration that says nothing new: a section or a field that may be missing is
written out with its default, or an unknown key comes. -/
def SettingsEdit : Node → Node → Prop := ObjectEdit settingsRecord.names settingsRules

/-- The texts are documents that come from each other by edits that say nothing new, and by taking
such edits back. -/
def SaysTheSame (text text' : String) : Prop :=
  ∃ node node', Json5.parse? text = some node ∧ Json5.parse? text' = some node' ∧
    Relation.EqvGen SettingsEdit node node'

/-! ## Parts are read alike -/

section Parts

variable {node node' : Node}

theorem EndpointEdit.readAlike (h : EndpointEdit node node') :
    ReadAlike EndpointSettings.ofNode node node' := by
  refine ObjectEdit.readAlike h (fun _ _ => EndpointSettings.ofNode_object_iff)
    (by simp [endpointRules]) ?_
  intro s members members' hedit
  rw [EndpointSettings.isToldBy_iff, EndpointSettings.isToldBy_iff]
  refine and_congr (hedit.tells_iff ?_ ?_) (hedit.tells_iff ?_ ?_) <;>
    simp [endpointRules, FieldRule.respects_of understands_text,
      FieldRule.respects_of understands_count]

theorem PollEdit.readAlike (h : PollEdit node node') :
    ReadAlike PollSettings.ofNode node node' := by
  refine ObjectEdit.readAlike h (fun _ _ => PollSettings.ofNode_object_iff)
    (by simp [pollRules]) ?_
  intro s members members' hedit
  rw [PollSettings.isToldBy_iff, PollSettings.isToldBy_iff]
  refine and_congr (hedit.tells_iff ?_ ?_) (hedit.tells_iff ?_ ?_) <;>
    simp [pollRules, FieldRule.respects_of understands_count,
      FieldRule.respects_of understands_boolean]

/-- Id and coordinates have no rule, so nothing but an edit of the layer has to be looked at. -/
theorem ServiceEdit.readAlike (h : ServiceEdit node node') :
    ReadAlike ServicePlacement.ofNode node node' := by
  refine ObjectEdit.readAlike h (fun _ _ => ServicePlacement.ofNode_object_iff)
    (by simp [serviceRules]) ?_
  intro s members members' hedit
  rw [ServicePlacement.isToldBy_iff, ServicePlacement.isToldBy_iff]
  refine and_congr (hedit.tells_iff ?_ ?_) (and_congr (hedit.tells_iff ?_ ?_)
    (and_congr (hedit.tells_iff ?_ ?_) (hedit.tells_iff ?_ ?_))) <;>
    simp [serviceRules, FieldRule.respects_of understands_layer]

theorem LayoutEdit.readAlike (h : LayoutEdit node node') :
    ReadAlike LayoutSettings.ofNode node node' := by
  have hservices : (FieldRule.nested "services" (.array []) (ListEdit ServiceEdit)).Respects
      (Json5.list ServicePlacement.ofNode) (some LayoutSettings.default.services) :=
    FieldRule.respects_nested rfl fun _ _ hedit => hedit.readAlike fun _ _ => ServiceEdit.readAlike
  refine ObjectEdit.readAlike h (fun _ _ => LayoutSettings.ofNode_object_iff)
    (by simp [layoutRules]) ?_
  intro s members members' hedit
  rw [LayoutSettings.isToldBy_iff, LayoutSettings.isToldBy_iff]
  refine and_congr (hedit.tells_iff ?_ ?_) (hedit.tells_iff ?_ ?_) <;>
    simp [layoutRules, FieldRule.respects_of understands_boolean, hservices]

theorem LogEdit.readAlike (h : LogEdit node node') : ReadAlike LogSettings.ofNode node node' := by
  refine ObjectEdit.readAlike h (fun _ _ => LogSettings.ofNode_object_iff)
    (by simp [logRules]) ?_
  intro s members members' hedit
  rw [LogSettings.isToldBy_iff, LogSettings.isToldBy_iff]
  refine and_congr (hedit.tells_iff ?_ ?_) (hedit.tells_iff ?_ ?_) <;>
    simp [logRules, FieldRule.respects_of understands_text,
      FieldRule.respects_of understands_logFormat]

/-- Here the two kinds of defaults meet: a section in which nothing is written is the default that
the section has when it is missing. The former has its fields read one by one, each with a default
of its own, and the latter is one value; that they agree is computed here. -/
theorem SettingsEdit.readAlike (h : SettingsEdit node node') :
    ReadAlike Settings.ofNode node node' := by
  have hendpoint : (FieldRule.nested "endpoint" (.object []) EndpointEdit).Respects
      EndpointSettings.ofNode (some Settings.default.endpoint) :=
    FieldRule.respects_nested rfl fun _ _ => EndpointEdit.readAlike
  have hpoll : (FieldRule.nested "poll" (.object []) PollEdit).Respects
      PollSettings.ofNode (some Settings.default.poll) :=
    FieldRule.respects_nested rfl fun _ _ => PollEdit.readAlike
  have hlayout : (FieldRule.nested "layout" (.object []) LayoutEdit).Respects
      LayoutSettings.ofNode (some Settings.default.layout) :=
    FieldRule.respects_nested rfl fun _ _ => LayoutEdit.readAlike
  have hlogging : (FieldRule.nested "logging" (.object []) LogEdit).Respects
      LogSettings.ofNode (some Settings.default.logging) :=
    FieldRule.respects_nested rfl fun _ _ => LogEdit.readAlike
  refine ObjectEdit.readAlike h (fun _ _ => Settings.ofNode_object_iff)
    (by simp [settingsRules]) ?_
  intro s members members' hedit
  -- Four sections, each told by its own values, and the rules of each are the ones above.
  rw [Settings.isToldBy_iff, Settings.isToldBy_iff]
  refine and_congr (hedit.tells_iff ?_ ?_) (and_congr (hedit.tells_iff ?_ ?_)
    (and_congr (hedit.tells_iff ?_ ?_) (hedit.tells_iff ?_ ?_))) <;>
    simp [settingsRules, hendpoint, hpoll, hlayout, hlogging]

end Parts

/-! ## Configurations -/

/-- What a text is read as is what its document is read as. -/
theorem parseSettings_eq_ok_iff {α : Type} {f : Node → Except Fault α} {text : String}
    {node : Node} (h : Json5.parse? text = some node) {a : α} :
    parseSettings f text = .ok a ↔ f node = .ok a := by
  have hdocument : Json5.document f text = f node := by rw [Json5.document, h]
  rw [parseSettings, hdocument]
  cases f node <;> simp

/-- **Defaults agree on every path.** Two texts that differ in what goes without saying, anywhere in
the document, are read as the same configuration, or neither is read: sections and fields that may
be missing are written out with their defaults or left away, and unknown keys come and go.

At every level, what is written keeps its own value and only what is missing has the default. What a
value is, in the end, is told with no regard to the readers: a text is what its pieces spell, a
count the whole part of the number that is written, and so for all kinds of values.

So an empty document is the default configuration. -/
theorem Settings.defaults_agree :
    (∀ text text', SaysTheSame text text' →
      ∀ s, parseSettings Settings.ofNode text = .ok s ↔
        parseSettings Settings.ofNode text' = .ok s) ∧
    (∀ text members, Json5.parse? text = some (.object members) →
      ∀ s, parseSettings Settings.ofNode text = .ok s ↔
        IsClean settingsRecord.names members ∧ s.IsToldBy members) ∧
    ReadsObjects EndpointSettings.ofNode endpointRecord.names EndpointSettings.IsToldBy ∧
    ReadsObjects PollSettings.ofNode pollRecord.names PollSettings.IsToldBy ∧
    ReadsObjects LayoutSettings.ofNode layoutRecord.names LayoutSettings.IsToldBy ∧
    (∀ items places, Json5.list ServicePlacement.ofNode (.array items) = .ok places ↔
      List.Forall₂ (fun item place => ServicePlacement.ofNode item = .ok place) items places) ∧
    ReadsObjects ServicePlacement.ofNode serviceRecord.names ServicePlacement.IsToldBy ∧
    ReadsObjects LogSettings.ofNode logRecord.names LogSettings.IsToldBy ∧
    (∀ key name, Spells key name.toList → Json5.textOf key = .ok name) ∧
    (∀ node, IsSound node → Json5.check node = .ok ()) ∧
    Understands Json5.text IsText ∧
    Understands Json5.boolean IsTruth ∧
    Understands Json5.count IsCount ∧
    (∀ n : UInt64, n.toNat < 2 ^ 53 →
      Json5.count (.number (Nat.toDigits 10 n.toNat)) = .ok n) ∧
    Understands Json5.coordinate IsCoordinate ∧
    Understands Layer.ofNode (IsVariant Layer.text) ∧
    Understands LogFormat.ofNode (IsVariant LogFormat.name) ∧
    parseSettings Settings.ofNode "\x7b\x7d" = .ok Settings.default := by
  refine ⟨?same, ?written, fun _ _ => EndpointSettings.ofNode_object_iff,
    fun _ _ => PollSettings.ofNode_object_iff, fun _ _ => LayoutSettings.ofNode_object_iff,
    fun _ _ => Json5.list_array_eq_ok_iff, fun _ _ => ServicePlacement.ofNode_object_iff,
    fun _ _ => LogSettings.ofNode_object_iff, fun _ _ => Spells.textOf, fun _ => IsSound.check,
    understands_text, understands_boolean, understands_count, ?numerals, understands_coordinate,
    understands_layer, understands_logFormat, ?empty⟩
  case same =>
    rintro text text' ⟨node, node', htext, htext', hedits⟩ s
    rw [parseSettings_eq_ok_iff htext, parseSettings_eq_ok_iff htext']
    have hstep : SettingsEdit ≤ ReadAlike Settings.ofNode := fun _ _ => SettingsEdit.readAlike
    exact Relation.EqvGen.eqvGen_le hstep _ _ hedits s
  case written =>
    intro text members htext s
    rw [parseSettings_eq_ok_iff htext, Settings.ofNode_object_iff]
  case numerals => exact fun n hn => understands_count _ n (isCount_toDigits hn)
  case empty =>
    -- Without members, each section is told by its default.
    have hparse : Json5.parse? "\x7b\x7d" = some (.object []) := by with_unfolding_all rfl
    rw [parseSettings_eq_ok_iff hparse, Settings.ofNode_object_iff]
    exact ⟨List.forall_mem_nil _, ⟨.missing rfl, .missing rfl, .missing rfl, .missing rfl⟩⟩

/-- A configuration with an interval and one placement; `front` stands before the interval, `more`
behind the coordinates, and `notes` behind the layout. -/
def onePlacement (front more notes : List Member) : Node :=
  .object (front ++ (unescaped "poll", .object
    [(unescaped "interval_ms", .number ['1', '5', '0', '0'])]) ::
    (unescaped "layout", .object [(unescaped "services", .array [.object
      ((unescaped "id", .string (unescaped "a")) :: (unescaped "x", .number ['1']) ::
        (unescaped "y", .number ['2']) :: more)])]) :: notes)

/-- The number three, as it is written in a note. -/
def three : DecimalNumeral where
  mark := .absent
  front := ['3']
  fraction := none
  power := none
  isDigit_front := by simp
  isDigit_fraction := nofun
  exists_digit := .inl (List.cons_ne_nil _ _)

set_option maxRecDepth 2000 in
/-- A timeout and a layer that are written out, and a note, change nothing; the interval keeps its
value. -/
theorem Settings.defaults_agree_for_layer :
    parseSettings Settings.ofNode
        "\x7bendpoint:\x7btimeout_ms:5000\x7d,poll:\x7binterval_ms:1500\x7d,layout:\x7bservices:[\x7bid:\"a\",x:1,y:2,layer:\"unknown\"\x7d]\x7d,note:[3]\x7d" =
      .ok { Settings.default with
        poll := ⟨1500, true⟩
        layout := ⟨false, [⟨"a", 1, 2, .unknown⟩]⟩ } := by
  -- The timeout is written out first, then the layer, and the note comes third.
  have htimeout : SettingsEdit (onePlacement [] [] [])
      (onePlacement [(unescaped "endpoint", .object
        [(unescaped "timeout_ms", .number ['5', '0', '0', '0'])])] [] []) := by
    refine .members (.write settingsRules[0] [] _ (List.getElem_mem _) (spells_unescaped _)
      (by decide +kernel) (.rel _ _ (.members (.write endpointRules[1] [] [] (List.getElem_mem _)
        (spells_unescaped _) (by decide +kernel) ?_))))
    exact isCount_toDigits (n := 5000) (by decide)
  have hlayer (front : Member) : SettingsEdit (onePlacement [front] [] [])
      (onePlacement [front] [(unescaped "layer", .string (unescaped "unknown"))] []) := by
    refine .members (.change settingsRules[2] [_, _] [] (List.getElem_mem _) (spells_unescaped _) ?_)
    refine .members (.change layoutRules[1] [] [] (List.getElem_mem _) (spells_unescaped _) ?_)
    exact .items (.head (.members (.write serviceRules[0] [_, _, _] [] (List.getElem_mem _)
      (spells_unescaped _) (by decide +kernel) (.string (spells_unescaped _)))))
  have hnote (front : Member) (more : List Member) : SettingsEdit (onePlacement [front] more [])
      (onePlacement [front] more [(unescaped "note", .array [.number ['3']])]) := by
    have hthree : IsSound (.number ['3']) :=
      .number (n := .decimal three) (.whole (w := 3) rfl rfl rfl)
    exact .members (.ignore "note" [_, _, _] [] (spells_unescaped _) (by decide +kernel)
      (.array (List.forall_mem_singleton.mpr hthree)))
  have hsame : SaysTheSame
      "\x7bpoll:\x7binterval_ms:1500\x7d,layout:\x7bservices:[\x7bid:\"a\",x:1,y:2\x7d]\x7d\x7d"
      "\x7bendpoint:\x7btimeout_ms:5000\x7d,poll:\x7binterval_ms:1500\x7d,layout:\x7bservices:[\x7bid:\"a\",x:1,y:2,layer:\"unknown\"\x7d]\x7d,note:[3]\x7d" :=
    ⟨_, _, by with_unfolding_all rfl, by with_unfolding_all rfl,
      .trans _ _ _ (.rel _ _ htimeout) (.trans _ _ _ (.rel _ _ (hlayer _)) (.rel _ _ (hnote _ _)))⟩
  rw [← Settings.defaults_agree.1 _ _ hsame]
  decide +kernel

end TrafficMap
