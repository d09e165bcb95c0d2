import TenantView.Document.Record
import TenantView.Document.Labels

/-!
# Rule and alert listings

A rule listing is a list of groups; a group is a list of rules that are evaluated together; a
rule either raises alerts or records a series, and says which in its field `type`.  An alert
listing is a list of alerts.  Lists that are missing or null are empty, and parts that say
nothing are left out when a listing is written.  Durations and intervals are finite doubles: a
document has no way to spell any other, so that no listing that is read holds one.
-/

namespace TenantView

/-- An alert that has been raised. -/
structure Alert where
  labels : LabelSet
  annotations : LabelSet
  state : String
  activeAt : Option Timestamp
  keepFiringSince : Option Timestamp
  value : String
deriving DecidableEq

/-- A rule that raises alerts. -/
structure AlertingRule where
  state : String
  name : String
  query : String
  duration : Double
  keepFiringFor : Double
  labels : LabelSet
  annotations : LabelSet
  alerts : List Alert
  health : String
  lastError : String
  evaluationTime : Double
  lastEvaluation : Timestamp
deriving DecidableEq

/-- A rule that records a derived series. -/
structure RecordingRule where
  name : String
  query : String
  labels : LabelSet
  health : String
  lastError : String
  evaluationTime : Double
  lastEvaluation : Timestamp
deriving DecidableEq

/-- A rule of either kind. -/
inductive Rule
  | alerting (rule : AlertingRule)
  | recording (rule : RecordingRule)
deriving DecidableEq

namespace Rule

/-- The labels of the rule itself. -/
def labels : Rule → LabelSet
  | alerting rule => rule.labels
  | recording rule => rule.labels

/-- The name of the rule. -/
def name : Rule → String
  | alerting rule => rule.name
  | recording rule => rule.name

/-- The word for the kind of the rule. -/
def kind : Rule → String
  | alerting _ => "alerting"
  | recording _ => "recording"

end Rule

/-- Rules that are evaluated together. -/
structure RuleGroup where
  name : String
  file : String
  rules : List Rule
  interval : Double
  limit : Option UInt64
  evaluationTime : Option Double
  lastEvaluation : Option Timestamp
deriving DecidableEq

/-- A listing of rule groups. -/
structure RuleListing where
  groups : List RuleGroup
deriving DecidableEq

/-- A listing of alerts. -/
structure AlertListing where
  alerts : List Alert
deriving DecidableEq

namespace Document

open TenantView.Json

namespace Codec

/-- A field that has to be given. -/
def required {α : Type} (name : String) (codec : Codec α) : Field α where
  name
  codec

/-- A field with a default for when it is missing. -/
def defaulting {α : Type} (name : String) (codec : Codec α) (absent : α) : Field α where
  name
  codec
  absent := some absent

/-- A field that may be missing or null, and is left out then. -/
def optional {α : Type} (name : String) (codec : Codec α) : Field (Option α) where
  name
  codec := codec.nullable
  absent := some none
  isLeftOut := Option.isNone

/-- A text that counts as empty when it is missing, and is left out then. -/
def optionalText (name : String) : Field String where
  name
  codec := text
  absent := some ""
  isLeftOut := String.isEmpty

/-- The fields of an alert. -/
def alertFields :=
  Record.field (defaulting "labels" labels .empty) <|
  .field (defaulting "annotations" labels .empty) <|
  .field (required "state" text) <|
  .field (optional "activeAt" timestamp) <|
  .field (optional "keepFiringSince" timestamp) <|
  .field (required "value" text) .done

/-- An alert. -/
def alert : Codec Alert :=
  .record "Alert" alertFields
    (fun (labels, annotations, state, activeAt, keepFiringSince, value, ()) ↦
      { labels, annotations, state, activeAt, keepFiringSince, value })
    (fun a ↦ (a.labels, a.annotations, a.state, a.activeAt, a.keepFiringSince, a.value, ()))

/-- The fields of an alerting rule. -/
def alertingFields :=
  Record.field (required "state" text) <|
  .field (required "name" text) <|
  .field (required "query" text) <|
  .field (required "duration" real) <|
  .field (defaulting "keepFiringFor" real .zero) <|
  .field (defaulting "labels" labels .empty) <|
  .field (defaulting "annotations" labels .empty) <|
  .field (defaulting "alerts" (listOrNull alert) []) <|
  .field (required "health" text) <|
  .field (optionalText "lastError") <|
  .field (required "evaluationTime" real) <|
  .field (required "lastEvaluation" timestamp) .done

/-- An alerting rule without its kind. -/
def alertingRule : Codec AlertingRule :=
  .record "AlertingRule" alertingFields
    (fun (state, name, query, duration, keepFiringFor, labels, annotations, alerts, health,
        lastError, evaluationTime, lastEvaluation, ()) ↦
      { state, name, query, duration, keepFiringFor, labels, annotations, alerts, health,
        lastError, evaluationTime, lastEvaluation })
    (fun r ↦ (r.state, r.name, r.query, r.duration, r.keepFiringFor, r.labels, r.annotations,
      r.alerts, r.health, r.lastError, r.evaluationTime, r.lastEvaluation, ()))

/-- The fields of a recording rule. -/
def recordingFields :=
  Record.field (required "name" text) <|
  .field (required "query" text) <|
  .field { defaulting "labels" labels .empty with isLeftOut := LabelSet.isEmpty } <|
  .field (required "health" text) <|
  .field (optionalText "lastError") <|
  .field (required "evaluationTime" real) <|
  .field (required "lastEvaluation" timestamp) .done

/-- A recording rule without its kind. -/
def recordingRule : Codec RecordingRule :=
  .record "RecordingRule" recordingFields
    (fun (name, query, labels, health, lastError, evaluationTime, lastEvaluation, ()) ↦
      { name, query, labels, health, lastError, evaluationTime, lastEvaluation })
    (fun r ↦ (r.name, r.query, r.labels, r.health, r.lastError, r.evaluationTime,
      r.lastEvaluation, ()))

/-- The two kinds of rule. -/
inductive RuleKind
  | alerting
  | recording
deriving DecidableEq, Repr

/-- The kind of rule that a word stands for. -/
def ruleKind (word : String) : Except Cause RuleKind :=
  if word = "alerting" then .ok .alerting
  else if word = "recording" then .ok .recording
  else .error (.unknownVariant word ["alerting", "recording"])

/-- The word for the kind of a rule. -/
def ruleKindText : Codec RuleKind where
  read _ := readTextAs .variantName ruleKind
  decode _
    | .string word => ruleKind word
    | v => refuse .variantName v
  encode
    | .alerting => .string "alerting"
    | .recording => .string "recording"

/-- The name of the field that says the kind of a rule. -/
def kindField : String := "type"

/-- The rule of a known kind, from the rest of its record, which was set aside. -/
def ruleOfKind (kind : RuleKind) (rest : Value) : Except Cause Rule :=
  match kind with
  | .alerting => (alertingRule.decode .setAside rest).map .alerting
  | .recording => (recordingRule.decode .setAside rest).map .recording

/-- Takes one member of a rule: its kind, or something to be set aside. -/
def splitMember (source : Source) (state : Option RuleKind × List (String × Value))
    (member : String × Value) : Except Cause (Option RuleKind × List (String × Value)) :=
  if member.1 = kindField then
    match state.1 with
    | some _ => .error (.duplicateField kindField)
    | none => (ruleKindText.decode source member.2).map fun kind ↦ (some kind, state.2)
  else .ok (state.1, member :: state.2)

/-- A rule that has been read already. -/
def decodeRule (source : Source) : Value → Except Cause Rule
  | .object members => do
    let (kind, rest) ← members.foldlM (splitMember source) (none, [])
    match kind with
    | none => throw (.missingField kindField)
    | some kind => ruleOfKind kind (.object rest.reverse)
  | .array [] => .error (.missingField kindField)
  | .array (v :: items) => do
    let kind ← ruleKindText.decode source v
    ruleOfKind kind (.array items)
  | v => refuse (.taggedRecord "Rule") v

/-- Reads one member of a rule, behind the opening quote of its name. -/
def readRuleMember (levels : Nat) (state : Option RuleKind × List (String × Value)) :
    Reader (Option RuleKind × List (String × Value)) := fun bytes ↦
  (readText bytes).andThen fun name rest ↦
    if name = kindField then
      match state.1 with
      | some _ => failUnplaced (.duplicateField kindField) rest
      | none =>
        (readColon rest).andThen fun () rest ↦
          (ruleKindText.read levels rest).map fun kind ↦ (some kind, state.2)
    else
      (readColon rest).andThen fun () rest ↦
        (readTree levels rest).map fun v ↦ (state.1, (name, v) :: state.2)

/-- Reads the inside of a rule that is spelled as a mapping: its kind and the rest of it. -/
def readRuleMapping (levels : Nat) : Reader (RuleKind × Value) := fun bytes ↦
  (readMembers (readRuleMember levels) bytes true (none, []) bytes).andThen fun state rest ↦
    match state.1 with
    | none => failUnplaced (.missingField kindField) rest
    | some kind => .done (kind, .object state.2.reverse) rest

/-- Reads the inside of a rule that is spelled as a sequence: its kind and the rest of it. -/
def readRuleItems (levels : Nat) : Reader (RuleKind × Value) := fun bytes ↦
  (readItemStart true bytes).andThen fun follows rest ↦
    if follows then
      (ruleKindText.read levels rest).andThen fun kind rest ↦
        (readItems (readTree levels) rest false [] rest).map fun items ↦ (kind, .array items)
    else failUnplaced (.missingField kindField) rest

/-- Reads a rule: everything but its kind is set aside until the kind is known. -/
def readRule (levels : Nat) : Reader Rule := fun bytes ↦
  let split : Outcome (RuleKind × Value) :=
    match skipBlanks bytes with
    | Ascii.openBracket :: rest =>
      enclosed (nested levels readRuleItems) closeSequence (Ascii.openBracket :: rest)
    | Ascii.openBrace :: rest =>
      enclosed (nested levels readRuleMapping) closeMapping (Ascii.openBrace :: rest)
    | bytes => refuseNext (.taggedRecord "Rule") bytes
  split.andThen fun (kind, body) rest ↦
    match ruleOfKind kind body with
    | .ok rule => .done rule rest
    | .error cause => failUnplaced cause rest

/-- A rule, which is written with its kind first. -/
def rule : Codec Rule where
  read := readRule
  decode := decodeRule
  encode
    | .alerting r =>
      .object ((kindField, ruleKindText.encode .alerting) ::
        alertingFields.encodeMembers (r.state, r.name, r.query, r.duration, r.keepFiringFor,
          r.labels, r.annotations, r.alerts, r.health, r.lastError, r.evaluationTime,
          r.lastEvaluation, ()))
    | .recording r =>
      .object ((kindField, ruleKindText.encode .recording) ::
        recordingFields.encodeMembers (r.name, r.query, r.labels, r.health, r.lastError,
          r.evaluationTime, r.lastEvaluation, ()))

/-- The fields of a rule group. -/
def groupFields :=
  Record.field (required "name" text) <|
  .field (required "file" text) <|
  .field (defaulting "rules" (listOrNull rule) []) <|
  .field (required "interval" real) <|
  .field (optional "limit" natural) <|
  .field (optional "evaluationTime" real) <|
  .field (optional "lastEvaluation" timestamp) .done

/-- A rule group. -/
def ruleGroup : Codec RuleGroup :=
  .record "RuleGroup" groupFields
    (fun (name, file, rules, interval, limit, evaluationTime, lastEvaluation, ()) ↦
      { name, file, rules, interval, limit, evaluationTime, lastEvaluation })
    (fun g ↦ (g.name, g.file, g.rules, g.interval, g.limit, g.evaluationTime,
      g.lastEvaluation, ()))

/-- The fields of a rule listing. -/
def ruleListingFields :=
  Record.field (defaulting "groups" (listOrNull ruleGroup) []) .done

/-- A rule listing. -/
def ruleListing : Codec RuleListing :=
  .record "RulesData" ruleListingFields (fun (groups, ()) ↦ { groups }) (fun l ↦ (l.groups, ()))

/-- The fields of an alert listing. -/
def alertListingFields :=
  Record.field (defaulting "alerts" (listOrNull alert) []) .done

/-- An alert listing. -/
def alertListing : Codec AlertListing :=
  .record "AlertsData" alertListingFields (fun (alerts, ()) ↦ { alerts }) (fun l ↦ (l.alerts, ()))

end Codec

end Document

end TenantView
