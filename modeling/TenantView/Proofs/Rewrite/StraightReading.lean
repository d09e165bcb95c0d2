import TenantView.Proofs.Document.RecordAgreement
import TenantView.Proofs.Rewrite.FirstFailure

/-!
# Documents read straight from text

A listing arrives in the data of an envelope, which has been read as a value before anybody asks
for the listing.  It might as well be read straight from its text: if no mapping in the text gives
a name twice, both ways accept the same documents and come to the same contents
(`readings_agree`), for the envelope, the listings and all their parts.  So filtering what is read
straight from a text shows the same document as transforming the data that the text spells, or both
are refused.
-/

namespace TenantView.Rewrite

open Json Document

/-- The document spells the value, and no mapping in the document gives a name twice. -/
structure SpellsOnce (document : Bytes) (v : Value) : Prop where
  parse_eq : parse document = .ok v
  distinct : ∀ tree, readDocument (readTree nestingLimit) document = .ok tree → tree.Distinct

/-- The value that a document spells is in front of it, with all its members. -/
theorem SpellsOnce.readTree_eq {document : Bytes} {v : Value} (h : SpellsOnce document v) :
    ∃ rest, readTree nestingLimit document = .done v rest ∧ skipBlanks rest = [] ∧
      v.Distinct := by
  obtain ⟨rest, hread, hrest⟩ := readDocument_eq_ok_iff.mp h.parse_eq
  obtain ⟨tree, htree, rfl⟩ := Outcome.map_eq_done hread
  have hdistinct := h.distinct tree (readDocument_eq_ok_iff.mpr ⟨rest, htree, hrest⟩)
  exact ⟨rest, (tree.collapse_of_distinct hdistinct).symm ▸ htree, hrest,
    (tree.collapse_of_distinct hdistinct).symm ▸ hdistinct⟩

/-- The text of a value without repeated names spells it. -/
theorem spellsOnce_emit {v : Value} (hdepth : v.depth ≤ nestingLimit) (hdistinct : v.Distinct) :
    SpellsOnce (v.emit []) v where
  parse_eq := readDocument_eq_ok_iff.mpr
    ⟨[], readValue_emit nestingLimit v hdepth hdistinct [] nofun, rfl⟩
  distinct tree htree := by
    obtain ⟨rest, hread, -⟩ := readDocument_eq_ok_iff.mp htree
    rw [readTree_emit nestingLimit v hdepth [] nofun] at hread
    cases hread
    exact hdistinct

/-- Reading contents straight from the document comes to what is taken from the value. -/
def ReadsAlike {α : Type} (c : Codec α) (document : Bytes) (v : Value) : Prop :=
  ∀ x, readDocument (c.read nestingLimit) document = .ok x ↔ c.decode .parsed v = .ok x

theorem SpellsOnce.readsAlike {α : Type} {c : Codec α} (hc : c.Agrees) {document : Bytes}
    {v : Value} (h : SpellsOnce document v) : ReadsAlike c document v := by
  intro x
  obtain ⟨rest, hread, hrest, hdistinct⟩ := h.readTree_eq
  rw [readDocument_eq_ok_iff]
  rcases (hc hread hdistinct).cases with ⟨y, hy, htake⟩ | ⟨fault, left, cause, hfails, htake⟩
  · rw [hy, htake]
    constructor
    · rintro ⟨_, heq, -⟩
      cases heq
      rfl
    · intro heq
      cases heq
      exact ⟨rest, rfl, hrest⟩
  · rw [hfails, htake]
    exact ⟨fun ⟨_, heq, _⟩ ↦ (nomatch heq), nofun⟩

/-- Every kind of document is read alike. -/
structure AllReadAlike (document : Bytes) (v : Value) : Prop where
  envelope : ReadsAlike Codec.envelope document v
  ruleListing : ReadsAlike Codec.ruleListing document v
  alertListing : ReadsAlike Codec.alertListing document v
  ruleGroup : ReadsAlike Codec.ruleGroup document v
  rule : ReadsAlike Codec.rule document v
  alertingRule : ReadsAlike Codec.alertingRule document v
  recordingRule : ReadsAlike Codec.recordingRule document v
  alert : ReadsAlike Codec.alert document v
  labels : ReadsAlike Codec.labels document v

/-- The visible part of the listing that is read straight from the document is what the data of the
envelope is transformed to, or both are refused because there is no such listing. -/
def FiltersAlike {α : Type} (c : Codec α) (kind : ListingKind) (visible : α → α)
    (settings : Settings) (values : List String) (document : Bytes) (envelope : Envelope) : Prop :=
  (∃ listing events, readDocument (c.read nestingLimit) document = .ok listing ∧
    transform settings kind values envelope = .ok ⟨c.encode (visible listing), events⟩) ∨
  (∃ refusal cause, readDocument (c.read nestingLimit) document = .error refusal ∧
    transform settings kind values envelope = .error (.payloadDecode kind (.ofCause cause)))

theorem ReadsAlike.filtersAlike {α : Type} {c : Codec α} {kind : ListingKind} {visible : α → α}
    {settings : Settings} {values : List String} {document : Bytes} {envelope : Envelope}
    (h : ReadsAlike c document envelope.data)
    (htaken : ∀ listing, payload c kind envelope.data = .ok listing → ∃ events,
      transform settings kind values envelope = .ok ⟨c.encode (visible listing), events⟩)
    (hrefused : ∀ cause, c.decode .parsed envelope.data = .error cause →
      transform settings kind values envelope = .error (.payloadDecode kind (.ofCause cause))) :
    FiltersAlike c kind visible settings values document envelope := by
  cases htake : c.decode .parsed envelope.data with
  | ok listing =>
    have hpayload : payload c kind envelope.data = .ok listing := by
      rw [payload, htake]
      rfl
    obtain ⟨events, htransform⟩ := htaken listing hpayload
    exact .inl ⟨listing, events, (h listing).mpr htake, htransform⟩
  | error cause =>
    cases hread : readDocument (c.read nestingLimit) document with
    | ok listing => cases htake.symm.trans ((h listing).mp hread)
    | error refusal => exact .inr ⟨refusal, cause, hread, hrefused cause htake⟩

/-- **A document is read straight from its text as it is taken from the value that it spells**, if
no mapping in it gives a name twice.  A listing is then filtered alike in both ways. -/
theorem readings_agree {document : Bytes} {v : Value} (h : SpellsOnce document v) :
    AllReadAlike document v ∧
    ∀ (settings : Settings) (values : List String) (matcher : Matcher) (envelope : Envelope),
      Matcher.ofValues settings.mode values = .ok matcher → envelope.data = v →
        FiltersAlike Codec.ruleListing .rules
          (Enforcement.filterRules { label := settings.label, matcher }
            settings.rulesWithActiveAlerts) settings values document envelope ∧
        FiltersAlike Codec.alertListing .alerts
          (Enforcement.filterAlerts { label := settings.label, matcher })
          settings values document envelope := by
  have hrules := h.readsAlike Codec.ruleListing_agrees
  have halerts := h.readsAlike Codec.alertListing_agrees
  refine ⟨⟨h.readsAlike Codec.envelope_agrees, hrules, halerts,
    h.readsAlike Codec.ruleGroup_agrees, h.readsAlike Codec.rule_agrees,
    h.readsAlike Codec.alertingRule_agrees, h.readsAlike Codec.recordingRule_agrees,
    h.readsAlike Codec.alert_agrees, h.readsAlike Codec.labels_agrees⟩, ?_⟩
  rintro settings values matcher envelope hmatcher rfl
  refine ⟨hrules.filtersAlike (fun listing hlisting ↦ transform_rules envelope hlisting hmatcher)
    fun cause hcause ↦ transform_of_undecodable ?_,
    halerts.filtersAlike (fun listing hlisting ↦ transform_alerts envelope hlisting hmatcher)
    fun cause hcause ↦ transform_of_undecodable ?_⟩
  · rw [decoding, hcause]
    rfl
  · rw [decoding, hcause]
    rfl

/-- A listing with a member of an unknown name and two alerts: one is a sequence of its fields, the
other leaves most of its fields out. -/
def mixedAlerts : Value :=
  .object [
    ("more", .array [.object [], .null]),
    ("alerts", .array [
      .array [.object [("tenant", .string "a")], .null, .string "firing", .null, .null,
        .string "1"],
      .object [("value", .string "2"), ("state", .string "pending")]])]

/-- The alert that is spelled as a sequence. -/
def firingAlert : Alert where
  labels := LabelSet.empty.insert "tenant" "a"
  annotations := .empty
  state := "firing"
  activeAt := none
  keepFiringSince := none
  value := "1"

/-- The alert that is spelled as a mapping. -/
def pendingAlert : Alert :=
  { firingAlert with labels := .empty, state := "pending", value := "2" }

theorem readings_agree_mixedAlerts :
    SpellsOnce (mixedAlerts.emit []) mixedAlerts ∧
    readDocument (Codec.alertListing.read nestingLimit) (mixedAlerts.emit []) =
      .ok ⟨[firingAlert, pendingAlert]⟩ ∧
    ∃ events, transform partialSettings .alerts ["a"] (.success mixedAlerts) =
      .ok ⟨Codec.alertListing.encode ⟨[firingAlert]⟩, events⟩ := by
  have hspells : SpellsOnce (mixedAlerts.emit []) mixedAlerts := by
    refine spellsOnce_emit (by decide) ?_
    simp [mixedAlerts, Value.Distinct, Value.DistinctItems, Value.DistinctMembers]
  have hdecode : Codec.alertListing.decode .parsed mixedAlerts =
      .ok ⟨[firingAlert, pendingAlert]⟩ := rfl
  have hread := ((readings_agree hspells).1.alertListing _).mpr hdecode
  refine ⟨hspells, hread, ?_⟩
  rcases ((readings_agree hspells).2 partialSettings ["a"] (.exact ["a"]) (.success mixedAlerts) rfl
    rfl).2 with ⟨listing, events, hlisting, htransform⟩ | ⟨refusal, cause, hrefused, -⟩
  · rw [hread] at hlisting
    cases hlisting
    exact ⟨events, htransform⟩
  · cases hread.symm.trans hrefused

end TenantView.Rewrite
