import TenantView.Proofs.Document.RecordAgreement
import TenantView.Proofs.Document.Respects
import TenantView.Proofs.Json.ReadValues

/-!
# Order and unknown names make no difference

Every part of a document is taken from a value as from its rearrangements: the order of members
counts for nothing, nor do members that no field is there for, at any depth.  The tag of a rule may
stand anywhere, and decides which names are fields.  Going up from the alerts and rules to the
envelope, each part respects its shape (`Part.codec_respects`), which gives the result for values
(`Part.decode_eq_ok_iff_of_rearranged`) and for the documents that spell them
(`Part.readDocument_eq_ok_iff_of_rearranged`).
-/

namespace TenantView.Document

open TenantView.Json Relation

namespace Codec

/-! ## Alerts -/

/-- The fields of an alert; every name in its labels counts. -/
def alertShapes : List (String × Shape) :=
  [("labels", .plain), ("annotations", .plain), ("state", .plain), ("activeAt", .plain),
    ("keepFiringSince", .plain), ("value", .plain)]

theorem alertFields_respects : alertFields.Respects alertShapes :=
  .field labels_respects <| .field labels_respects <| .field text_respects <|
  .field (nullable_respects timestamp_respects) <|
  .field (nullable_respects timestamp_respects) <| .field text_respects .done

theorem alert_respects : alert.Respects (.record alertShapes) :=
  record_respects alertFields_respects (by decide) ..

/-! ## Rules -/

/-- The fields of an alerting rule. -/
def alertingShapes : List (String × Shape) :=
  [("state", .plain), ("name", .plain), ("query", .plain), ("duration", .plain),
    ("keepFiringFor", .plain), ("labels", .plain), ("annotations", .plain),
    ("alerts", .list (.record alertShapes)), ("health", .plain), ("lastError", .plain),
    ("evaluationTime", .plain), ("lastEvaluation", .plain)]

/-- The fields of a recording rule. -/
def recordingShapes : List (String × Shape) :=
  [("name", .plain), ("query", .plain), ("labels", .plain), ("health", .plain),
    ("lastError", .plain), ("evaluationTime", .plain), ("lastEvaluation", .plain)]

/-- The fields of a rule of the given kind, besides the tag. -/
def kindShapes : RuleKind → List (String × Shape)
  | .alerting => alertingShapes
  | .recording => recordingShapes

/-- A rule, whose fields are known once its tag is found. -/
def ruleShape : Shape :=
  .tagged "type" [("alerting", alertingShapes), ("recording", recordingShapes)]

theorem alertingFields_respects : alertingFields.Respects (kindShapes .alerting) :=
  .field text_respects <| .field text_respects <| .field text_respects <| .field real_respects <|
  .field real_respects <| .field labels_respects <| .field labels_respects <|
  .field (listOrNull_respects alert_respects) <| .field text_respects <| .field text_respects <|
  .field real_respects <| .field timestamp_respects .done

theorem recordingFields_respects : recordingFields.Respects (kindShapes .recording) :=
  .field text_respects <| .field text_respects <| .field labels_respects <| .field text_respects <|
  .field text_respects <| .field real_respects <| .field timestamp_respects .done

/-- Where all records with the fields of a kind are the same, so are the rules of this kind. -/
theorem ruleOfKind_eq_ok_iff_of_records {kind : RuleKind} {v v' : Value}
    (h : ∀ {β σ : Type} {r : Record β σ} (name : String), r.Respects (kindShapes kind) →
      r.names.Nodup → ∀ x, r.decode name .setAside v = .ok x ↔ r.decode name .setAside v' = .ok x)
    {rule : Rule} : ruleOfKind kind v = .ok rule ↔ ruleOfKind kind v' = .ok rule := by
  cases kind with
  | alerting =>
    have hrecord := h "AlertingRule" alertingFields_respects (by decide)
    exact map_eq_ok_congr (fun _ ↦ map_eq_ok_congr hrecord _) _
  | recording =>
    have hrecord := h "RecordingRule" recordingFields_respects (by decide)
    exact map_eq_ok_congr (fun _ ↦ map_eq_ok_congr hrecord _) _

/-- The tag decides on the fields. -/
theorem ruleShape_fields? {said : String → Option Value} {kind : RuleKind}
    (h : said kindField = some (ruleKindText.encode kind)) :
    ruleShape.fields? said = some ((kindField, .plain) :: kindShapes kind) := by
  change some ((kindField, Shape.plain) :: Shape.variantFields _ (said kindField)) = _
  rw [h]
  cases kind <;> rfl

theorem nodup_kindShapes (kind : RuleKind) :
    (((kindField, Shape.plain) :: kindShapes kind).map Prod.fst).Nodup := by
  cases kind <;> decide

/-- The tag says the same kind after a step. -/
theorem lookup_tag_iff {members members' : List (String × Value)}
    (h : Change ruleShape (.object members) (.object members'))
    (hnames : (members.map Prod.fst).Nodup) (kind : RuleKind) :
    members.lookup kindField = some (ruleKindText.encode kind) ↔
      members'.lookup kindField = some (ruleKindText.encode kind) := by
  have hrel : Option.Rel (ReflGen (Change (ruleShape.member members kindField)))
      (members.lookup kindField) (members'.lookup kindField) := by
    refine h.lookup_rel hnames ?_
    rintro _ ⟨⟩
    exact List.mem_cons_self
  cases kind with
  | alerting => exact Change.eq_text_iff_of_rel hrel (some "alerting")
  | recording => exact Change.eq_text_iff_of_rel hrel (some "recording")

/-- A rule that is spelled as a mapping is the same wherever its tag stands. -/
theorem decodeRule_object_iff_of_change {members members' : List (String × Value)}
    (h : Change ruleShape (.object members) (.object members'))
    (hdistinct : (Value.object members).Distinct) (source : Source) (x : Rule) :
    decodeRule source (.object members) = .ok x ↔ decodeRule source (.object members') = .ok x := by
  have hdistinct' := h.distinct_iff.mp hdistinct
  rw [decodeRule_object_eq_ok_iff hdistinct.1, decodeRule_object_eq_ok_iff hdistinct'.1]
  -- Both have the same kind, if any, and it decides which names are fields on both sides.
  refine exists_congr fun kind ↦ ?_
  rw [← lookup_tag_iff h hdistinct.1]
  refine and_congr_right fun hkind ↦ ruleOfKind_eq_ok_iff_of_records fun name hr hnames y ↦ ?_
  refine hr.decode_object_iff_of_rel hnames name hdistinct hdistinct' (fun field hfield ↦ ?_) _ y
  exact h.field_rel hdistinct.1 (ruleShape_fields? hkind) (nodup_kindShapes kind)
    (List.mem_cons_of_mem _ hfield)

/-- A rule that is spelled as a sequence has its tag in front, which does not change. -/
theorem decodeRule_array_iff_of_change {items items' : List Value}
    (h : Change ruleShape (.array items) (.array items'))
    (hdistinct : (Value.array items).Distinct) (source : Source) (x : Rule) :
    decodeRule source (.array items) = .ok x ↔ decodeRule source (.array items') = .ok x := by
  obtain ⟨rfl, rfl⟩ | ⟨v, v', rest, rest', rfl, rfl, hv, hrest⟩ :=
    Change.cases_of_places h.place_rel
  · exact Iff.rfl
  · rw [decodeRule_array_eq_ok_iff, decodeRule_array_eq_ok_iff]
    refine exists_congr fun kind ↦ ?_
    have htag : v = ruleKindText.encode kind ↔ v' = ruleKindText.encode kind := by
      cases kind with
      | alerting => exact Change.eq_string_iff hv "alerting"
      | recording => exact Change.eq_string_iff hv "recording"
    rw [← htag]
    refine and_congr_right fun hkind ↦ ruleOfKind_eq_ok_iff_of_records fun name hr hnames y ↦ ?_
    refine hr.decode_array_iff_of_places name hdistinct.2 (fun place ↦ ?_) _ y
    have hfields : ruleShape.fieldsByPlace? (v :: rest) =
        some ((kindField, .plain) :: kindShapes kind) :=
      ruleShape_fields? (congrArg some hkind)
    have hplace := hrest place
    rw [Shape.item_eq hfields] at hplace
    exact hplace

theorem rule_respects : rule.Respects ruleShape := by
  intro v v' h hdistinct source x
  obtain ⟨_, _, rfl, rfl⟩ | ⟨_, _, rfl, rfl⟩ := h.cases_kind
  · exact decodeRule_object_iff_of_change h hdistinct source x
  · exact decodeRule_array_iff_of_change h hdistinct source x

/-- **The tag of a rule may stand anywhere among its members.** -/
theorem decodeRule_tag_iff {before after : List (String × Value)} {tag : Value}
    (hdistinct : (Value.object (before ++ (kindField, tag) :: after)).Distinct) (source : Source)
    (x : Rule) :
    decodeRule source (.object (before ++ (kindField, tag) :: after)) = .ok x ↔
      decodeRule source (.object ((kindField, tag) :: (before ++ after))) = .ok x :=
  rule_respects (.permute nofun List.perm_middle) hdistinct source x

/-! ## Groups, listings and the envelope -/

/-- The fields of a rule group. -/
def groupShapes : List (String × Shape) :=
  [("name", .plain), ("file", .plain), ("rules", .list ruleShape), ("interval", .plain),
    ("limit", .plain), ("evaluationTime", .plain), ("lastEvaluation", .plain)]

theorem groupFields_respects : groupFields.Respects groupShapes :=
  .field text_respects <| .field text_respects <| .field (listOrNull_respects rule_respects) <|
  .field real_respects <| .field (nullable_respects natural_respects) <|
  .field (nullable_respects real_respects) <| .field (nullable_respects timestamp_respects) .done

theorem ruleGroup_respects : ruleGroup.Respects (.record groupShapes) :=
  record_respects groupFields_respects (by decide) ..

/-- The field of a rule listing. -/
def ruleListingShapes : List (String × Shape) :=
  [("groups", .list (.record groupShapes))]

theorem ruleListing_respects : ruleListing.Respects (.record ruleListingShapes) :=
  record_respects (.field (listOrNull_respects ruleGroup_respects) .done) (by decide) ..

/-- The field of an alert listing. -/
def alertListingShapes : List (String × Shape) :=
  [("alerts", .list (.record alertShapes))]

theorem alertListing_respects : alertListing.Respects (.record alertListingShapes) :=
  record_respects (.field (listOrNull_respects alert_respects) .done) (by decide) ..

/-- The fields of an envelope; its data is kept as it is. -/
def envelopeShapes : List (String × Shape) :=
  [("status", .plain), ("data", .verbatim), ("errorType", .plain), ("error", .plain),
    ("warnings", .list .plain), ("infos", .list .plain)]

theorem envelopeFields_respects : envelopeFields.Respects envelopeShapes :=
  .field text_respects <| .field opaqueValue_respects <| .field text_respects <|
  .field text_respects <| .field (list_respects text_respects) <|
  .field (list_respects text_respects) .done

theorem envelope_respects : envelope.Respects (.record envelopeShapes) :=
  record_respects envelopeFields_respects (by decide) ..

end Codec

/-! ## All parts -/

/-- What is read from a document is taken from the value that it spells. -/
theorem Codec.Agrees.readDocument_iff_decode {α : Type} {c : Codec α} (hc : c.Agrees) {levels : Nat}
    {document : Bytes} {v : Value} (h : readDocument (readTree levels) document = .ok v)
    (hdistinct : v.Distinct) {x : α} :
    readDocument (c.read levels) document = .ok x ↔ c.decode .parsed v = .ok x := by
  obtain ⟨rest, htree, hrest⟩ := Json.readDocument_eq_ok_iff.mp h
  rw [Json.readDocument_eq_ok_iff]
  rcases (hc htree hdistinct).cases with ⟨y, hread, hdecode⟩ | ⟨_, _, _, hread, hdecode⟩
  · rw [hread, hdecode]
    constructor
    · rintro ⟨_, ⟨⟩, -⟩
      rfl
    · rintro ⟨⟩
      exact ⟨rest, rfl, hrest⟩
  · rw [hread, hdecode]
    exact iff_of_false (fun ⟨_, h, _⟩ ↦ nomatch h) nofun

/-- The parts of a document that are records. -/
inductive Part
  | envelope
  | ruleListing
  | alertListing
  | ruleGroup
  | rule
  | alert

namespace Part

/-- What a part stands for. -/
def Content : Part → Type
  | envelope => Envelope
  | ruleListing => RuleListing
  | alertListing => AlertListing
  | ruleGroup => RuleGroup
  | rule => Rule
  | alert => Alert

/-- How a part is read, taken and written. -/
def codec : (part : Part) → Codec part.Content
  | envelope => Codec.envelope
  | ruleListing => Codec.ruleListing
  | alertListing => Codec.alertListing
  | ruleGroup => Codec.ruleGroup
  | rule => Codec.rule
  | alert => Codec.alert

/-- The fields of a part, and of the parts in it. -/
def shape : Part → Shape
  | envelope => .record Codec.envelopeShapes
  | ruleListing => .record Codec.ruleListingShapes
  | alertListing => .record Codec.alertListingShapes
  | ruleGroup => .record Codec.groupShapes
  | rule => Codec.ruleShape
  | alert => .record Codec.alertShapes

theorem codec_respects : (part : Part) → part.codec.Respects part.shape
  | envelope => Codec.envelope_respects
  | ruleListing => Codec.ruleListing_respects
  | alertListing => Codec.alertListing_respects
  | ruleGroup => Codec.ruleGroup_respects
  | rule => Codec.rule_respects
  | alert => Codec.alert_respects

theorem codec_agrees : (part : Part) → part.codec.Agrees
  | envelope => Codec.envelope_agrees
  | ruleListing => Codec.ruleListing_agrees
  | alertListing => Codec.alertListing_agrees
  | ruleGroup => Codec.ruleGroup_agrees
  | rule => Codec.rule_agrees
  | alert => Codec.alert_agrees

/-- A part is taken from a value that is read as from its rearrangements: no mapping of such a value
repeats a name. -/
theorem decode_eq_ok_iff_of_readValue (part : Part) {levels : Nat} {bytes rest : Bytes}
    {v v' : Value} (hread : readValue levels bytes = .done v rest)
    (h : Rearranged part.shape v v') (source : Source) (x : part.Content) :
    part.codec.decode source v = .ok x ↔ part.codec.decode source v' = .ok x :=
  part.codec_respects.decode_iff_of_rearranged h (distinct_of_readValue hread) source x

/-- **A part is taken from a value exactly as from its rearrangements**, in which members are
permuted and unknown ones are added or removed, at any depth outside the data of an envelope.  No
mapping of the value repeats a name, as the last label of a name would be a matter of order. -/
theorem decode_eq_ok_iff_of_rearranged (part : Part) {v v' : Value} (hdistinct : v.Distinct)
    (h : Rearranged part.shape v v') (source : Source) (x : part.Content) :
    part.codec.decode source v = .ok x ↔ part.codec.decode source v' = .ok x :=
  part.codec_respects.decode_iff_of_rearranged h hdistinct source x

/-- A rule that records the number of targets that are up. -/
def targetsUp : RecordingRule where
  name := "job:up:sum"
  query := "sum by (job) (up)"
  labels := .ofList [("team", "core")]
  health := "ok"
  lastError := ""
  evaluationTime := .zero
  lastEvaluation := ⟨⟨2024, 2, 29, 12, 0, 0, 0, 60⟩, by decide, by decide, by decide, by decide⟩

/-- A listing of one group with this rule. -/
def targetsListing : RuleListing where
  groups := [{
    name := "targets"
    file := "targets.yaml"
    rules := [.recording targetsUp]
    interval := .zero
    limit := none
    evaluationTime := none
    lastEvaluation := none }]

/-- The members of the rule as they are written, without its tag. -/
def targetsUpMembers : List (String × Value) :=
  Codec.recordingFields.encodeMembers (targetsUp.name, targetsUp.query, targetsUp.labels,
    targetsUp.health, targetsUp.lastError, targetsUp.evaluationTime, targetsUp.lastEvaluation, ())

/-- The value of a listing whose only rule has the given members. -/
def targetsValue (members : List (String × Value)) : Value :=
  .object [("groups", .array [.object [("name", .string "targets"),
    ("file", .string "targets.yaml"), ("rules", .array [.object members]),
    ("interval", .number (.real .zero))]])]

/-- The listing as it is written, with the tag of its rule in front. -/
def targetsTagFirst : Value :=
  targetsValue (("type", .string "recording") :: targetsUpMembers)

/-- The listing with the tag behind all fields, and with a field of the other kind of rule. -/
def targetsTagLast : Value :=
  targetsValue (targetsUpMembers ++ [("alerts", .boolean true), ("type", .string "recording")])

/-- A step in the members of the rule is a step in the listing. -/
theorem change_targetsValue {members members' : List (String × Value)}
    (h : Change Codec.ruleShape (.object members) (.object members')) :
    Change ruleListing.shape (targetsValue members) (targetsValue members') :=
  @Change.member _ [] [] "groups" _ _ <| @Change.item _ [] [] _ _ <|
    @Change.member _ [("name", .string "targets"), ("file", .string "targets.yaml")]
      [("interval", .number (.real .zero))] "rules" _ _ <| @Change.item _ [] [] _ _ h

theorem rearranged_targetsTagLast :
    Rearranged ruleListing.shape targetsTagFirst targetsTagLast := by
  have hadded : Change Codec.ruleShape (.object (("type", .string "recording") :: targetsUpMembers))
      (.object ([("alerts", .boolean true), ("type", .string "recording")] ++ targetsUpMembers)) :=
    .unknown rfl (by decide) (by decide) trivial
  have hmoved : Change Codec.ruleShape
      (.object ([("alerts", .boolean true), ("type", .string "recording")] ++ targetsUpMembers))
      (.object (targetsUpMembers ++ [("alerts", .boolean true), ("type", .string "recording")])) :=
    .permute nofun List.perm_append_comm
  exact .trans _ _ _ (.rel _ _ (change_targetsValue hadded)) (.rel _ _ (change_targetsValue hmoved))

/-- The rule is found though its tag stands last, behind a name that its kind has no field for. -/
theorem decode_eq_ok_of_tagLast :
    targetsTagFirst.Distinct ∧ Rearranged ruleListing.shape targetsTagFirst targetsTagLast ∧
      ruleListing.codec.decode .parsed targetsTagLast = .ok targetsListing := by
  have hwrites := Codec.ruleListing_writesBack targetsListing
  have hdistinct : targetsTagFirst.Distinct := hwrites.distinct
  exact ⟨hdistinct, rearranged_targetsTagLast,
    (decode_eq_ok_iff_of_rearranged ruleListing hdistinct rearranged_targetsTagLast .parsed
      targetsListing).mp (hwrites.decode_encode .parsed)⟩

/-- **Documents that spell rearranged values are read as the same part.** -/
theorem readDocument_eq_ok_iff_of_rearranged (part : Part) {levels : Nat}
    {document document' : Bytes} {v v' : Value}
    (hv : readDocument (readTree levels) document = .ok v)
    (hv' : readDocument (readTree levels) document' = .ok v') (hdistinct : v.Distinct)
    (h : Rearranged part.shape v v') (x : part.Content) :
    readDocument (part.codec.read levels) document = .ok x ↔
      readDocument (part.codec.read levels) document' = .ok x := by
  rw [part.codec_agrees.readDocument_iff_decode hv hdistinct,
    part.codec_agrees.readDocument_iff_decode hv' (h.distinct_iff.mp hdistinct)]
  exact part.codec_respects.decode_iff_of_rearranged h hdistinct .parsed x

end Part

end TenantView.Document
