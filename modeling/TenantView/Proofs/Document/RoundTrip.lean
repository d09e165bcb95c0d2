import TenantView.Proofs.Document.RecordAgreement
import TenantView.Proofs.Timestamp.RoundTrip

/-!
# Listings and envelopes read back

Every shape of a listing writes its contents back: a part is written as a value of the kind that
is asked for, what is left out is what a missing part stands for, labels are written in the order
in which they are kept, and the kind of a rule goes in front of its record.  A listing is nested
at most eight levels deep (`ruleListing_writesBack`, `alertListing_writesBack`).  An envelope
writes its contents back if its data has no name twice, and is then also read from its text
(`envelope_takes`).
-/

namespace TenantView

open Json

namespace Document.Codec

/-! ## Plain shapes -/

theorem text_writesBack (depth : Nat) (s : String) : text.WritesBack depth s where
  decode_encode _ := rfl
  distinct := trivial
  depth_le := Nat.zero_le depth

theorem parseTimestamp_text (t : Timestamp) : parseTimestamp t.text = .ok t := by
  rw [parseTimestamp, Timestamp.parse_text]

theorem timestamp_encode (t : Timestamp) : timestamp.encode t = .string t.text :=
  rfl

theorem timestamp_decode (source : Source) (s : String) :
    timestamp.decode source (.string s) = parseTimestamp s :=
  rfl

theorem timestamp_writesBack (depth : Nat) (t : Timestamp) : timestamp.WritesBack depth t where
  decode_encode source := by
    rw [timestamp_encode, timestamp_decode, parseTimestamp_text]
  distinct := by
    rw [timestamp_encode]
    exact (text_writesBack depth t.text).distinct
  depth_le := by
    rw [timestamp_encode]
    exact (text_writesBack depth t.text).depth_le

theorem real_writesBack (depth : Nat) (d : Double) : real.WritesBack depth d where
  decode_encode _ := rfl
  distinct := trivial
  depth_le := Nat.zero_le depth

theorem natural_writesBack (depth : Nat) (n : UInt64) : natural.WritesBack depth n where
  decode_encode _ := by
    change naturalOf (.ofNat n.toNat n.toNat_lt) = _
    rw [Number.ofNat, naturalOf, if_neg (by omega)]
    simp
  distinct := trivial
  depth_le := Nat.zero_le depth

theorem opaqueValue_writesBack {depth : Nat} {v : Value} (hdistinct : v.Distinct)
    (hdepth : v.depth ≤ depth) : opaqueValue.WritesBack depth v where
  decode_encode _ := rfl
  distinct := hdistinct
  depth_le := hdepth

section Parts

variable {α : Type} {c : Codec α} {depth : Nat}

/-- A part that may be null is written back if null does not stand for a content. -/
theorem nullable_writesBack {x : Option α} (h : ∀ y ∈ x, c.WritesBack depth y)
    (hnull : ∀ y ∈ x, c.encode y ≠ .null) : c.nullable.WritesBack depth x := by
  cases x with
  | none => exact ⟨fun _ ↦ rfl, trivial, Nat.zero_le depth⟩
  | some y =>
    have hy := h y rfl
    refine ⟨fun source ↦ ?_, hy.distinct, hy.depth_le⟩
    have hdecode : c.nullable.decode source (c.encode y) =
        (c.decode source (c.encode y)).map some := by
      generalize hv : c.encode y = v
      cases v with
      | null => exact absurd hv (hnull y rfl)
      | _ => rfl
    exact hdecode.trans (congrArg (Except.map some) (hy.decode_encode source))

/-- The items of a list are taken from their values. -/
theorem decodeItems_encode {source : Source} {xs : List α}
    (h : ∀ x ∈ xs, c.decode source (c.encode x) = .ok x) :
    decodeItems (c.decode source) (xs.map c.encode) = .ok xs := by
  induction xs with
  | nil => rfl
  | cons x xs ih =>
    rw [List.map_cons, decodeItems, h x List.mem_cons_self,
      ih fun y hy ↦ h y (List.mem_cons_of_mem x hy)]
    rfl

/-- A list is written back if its items are. -/
theorem list_writesBack {xs : List α} (h : ∀ x ∈ xs, c.WritesBack depth x) :
    c.list.WritesBack (depth + 1) xs where
  decode_encode source := decodeItems_encode fun x hx ↦ (h x hx).decode_encode source
  distinct := by
    refine Value.distinctItems_iff.mpr fun v hv ↦ ?_
    obtain ⟨x, hx, rfl⟩ := List.mem_map.mp hv
    exact (h x hx).distinct
  depth_le := by
    refine Nat.succ_le_succ (Value.depthItems_le_iff.mpr fun v hv ↦ ?_)
    obtain ⟨x, hx, rfl⟩ := List.mem_map.mp hv
    exact (h x hx).depth_le

theorem listOrNull_writesBack {xs : List α} (h : ∀ x ∈ xs, c.WritesBack depth x) :
    c.listOrNull.WritesBack (depth + 1) xs where
  decode_encode source := by
    have hlist := (list_writesBack h).decode_encode source
    change ((c.list.decode source (c.list.encode xs)).map some).map (·.getD []) = _
    rw [hlist]
    rfl
  distinct := (list_writesBack h).distinct
  depth_le := (list_writesBack h).depth_le

/-! ## Fields -/

variable {name : String}

theorem required_writesBack {x : α} (h : c.WritesBack depth x) :
    (required name c).WritesBack depth x :=
  ⟨h, fun hout ↦ nomatch hout⟩

theorem defaulting_writesBack {x absent : α} (h : c.WritesBack depth x) :
    (defaulting name c absent).WritesBack depth x :=
  ⟨h, fun hout ↦ nomatch hout⟩

theorem optional_writesBack {x : Option α} (h : ∀ y ∈ x, c.WritesBack depth y)
    (hnull : ∀ y ∈ x, c.encode y ≠ .null) : (optional name c).WritesBack depth x :=
  ⟨nullable_writesBack h hnull, fun hout ↦ by rw [Option.isNone_iff_eq_none.mp hout]; rfl⟩

theorem optionalText_writesBack (s : String) : (optionalText name).WritesBack depth s :=
  ⟨text_writesBack depth s, fun hout ↦ by rw [String.isEmpty_iff.mp hout]; rfl⟩

end Parts

/-! ## Label sets -/

/-- A name greater than all others goes behind them. -/
theorem insertEntry_of_greatest {name value : String} {entries : List (String × String)}
    (h : ∀ e ∈ entries, Text.byteLt e.1 name) :
    LabelSet.insertEntry name value entries = entries ++ [(name, value)] := by
  induction entries with
  | nil => rfl
  | cons e entries ih =>
    obtain ⟨other, old⟩ := e
    have hlt : Text.byteLt other name := h (other, old) List.mem_cons_self
    have hne : name ≠ other := by
      rintro rfl
      exact LabelSet.not_byteLt_self name hlt
    have hge : ¬ Text.byteLt name other :=
      fun hgt ↦ LabelSet.not_byteLt_self name (LabelSet.byteLt_trans hgt hlt)
    rw [LabelSet.insertEntry, if_neg hne, if_neg hge,
      ih fun e he ↦ h e (List.mem_cons_of_mem _ he), List.cons_append]

/-- Labels in increasing order are taken as they are. -/
theorem decodeLabels_entries (source : Source) (entries : List (String × String))
    (taken : LabelSet)
    (h : (taken.entries ++ entries).Pairwise fun a b ↦ Text.byteLt a.1 b.1) :
    decodeLabels source (entries.map fun (name, value) ↦ (name, .string value)) taken =
      .ok ⟨taken.entries ++ entries, h⟩ := by
  induction entries generalizing taken with
  | nil => simp [decodeLabels]
  | cons e entries ih =>
    obtain ⟨name, value⟩ := e
    have hgreatest : ∀ e ∈ taken.entries, Text.byteLt e.1 name :=
      fun e he ↦ (List.pairwise_append.mp h).2.2 e he (name, value) List.mem_cons_self
    have hinsert : (taken.insert name value).entries = taken.entries ++ [(name, value)] :=
      insertEntry_of_greatest hgreatest
    have htaken : ((taken.insert name value).entries ++ entries).Pairwise
        fun a b ↦ Text.byteLt a.1 b.1 := by
      rw [hinsert, List.append_assoc]
      exact h
    refine (ih (taken.insert name value) htaken).trans ?_
    simp only [hinsert, List.append_assoc, List.cons_append, List.nil_append]

theorem labels_writesBack (depth : Nat) (l : LabelSet) : labels.WritesBack (depth + 1) l where
  decode_encode source := by
    have hentries := decodeLabels_entries source l.entries .empty l.increasing
    change ((decodeLabels source (l.entries.map _) .empty).map some).map (·.getD .empty) = _
    rw [hentries]
    rfl
  distinct := by
    refine ⟨?_, Value.distinctMembers_iff.mpr fun m hm ↦ ?_⟩
    · rw [List.map_map]
      exact l.nodup_names
    · obtain ⟨e, -, rfl⟩ := List.mem_map.mp hm
      trivial
  depth_le := by
    refine Nat.succ_le_succ (Value.depthMembers_le_iff.mpr fun m hm ↦ ?_)
    obtain ⟨e, -, rfl⟩ := List.mem_map.mp hm
    exact Nat.zero_le depth

/-! ## Listings -/

theorem alert_writesBack (depth : Nat) (a : Alert) : alert.WritesBack (depth + 2) a :=
  record_writesBack rfl (by decide)
    ⟨defaulting_writesBack (labels_writesBack depth a.labels),
      defaulting_writesBack (labels_writesBack depth a.annotations),
      required_writesBack (text_writesBack _ a.state),
      optional_writesBack (fun t _ ↦ timestamp_writesBack _ t) (fun _ _ h ↦ nomatch h),
      optional_writesBack (fun t _ ↦ timestamp_writesBack _ t) (fun _ _ h ↦ nomatch h),
      required_writesBack (text_writesBack _ a.value), trivial⟩

theorem alertingRule_writesBack (depth : Nat) (r : AlertingRule) :
    alertingRule.WritesBack (depth + 4) r :=
  record_writesBack rfl (by decide)
    ⟨required_writesBack (text_writesBack _ r.state),
      required_writesBack (text_writesBack _ r.name),
      required_writesBack (text_writesBack _ r.query),
      required_writesBack (real_writesBack _ r.duration),
      defaulting_writesBack (real_writesBack _ r.keepFiringFor),
      defaulting_writesBack (labels_writesBack _ r.labels),
      defaulting_writesBack (labels_writesBack _ r.annotations),
      defaulting_writesBack (listOrNull_writesBack fun a _ ↦ alert_writesBack depth a),
      required_writesBack (text_writesBack _ r.health),
      optionalText_writesBack r.lastError,
      required_writesBack (real_writesBack _ r.evaluationTime),
      required_writesBack (timestamp_writesBack _ r.lastEvaluation), trivial⟩

theorem empty_of_isEmpty {l : LabelSet} (h : l.isEmpty = true) : LabelSet.empty = l := by
  obtain ⟨entries, increasing⟩ := l
  cases List.isEmpty_iff.mp h
  rfl

theorem recordingRule_writesBack (depth : Nat) (r : RecordingRule) :
    recordingRule.WritesBack (depth + 2) r :=
  record_writesBack rfl (by decide)
    ⟨required_writesBack (text_writesBack _ r.name),
      required_writesBack (text_writesBack _ r.query),
      ⟨labels_writesBack depth r.labels, fun hempty ↦ congrArg some (empty_of_isEmpty hempty)⟩,
      required_writesBack (text_writesBack _ r.health),
      optionalText_writesBack r.lastError,
      required_writesBack (real_writesBack _ r.evaluationTime),
      required_writesBack (timestamp_writesBack _ r.lastEvaluation), trivial⟩

/-- Members that do not name the kind of a rule are set aside in reverse. -/
theorem foldlM_splitMember {source : Source} {kind : Option RuleKind}
    {members : List (String × Value)} (h : kindField ∉ members.map Prod.fst)
    (taken : List (String × Value)) :
    members.foldlM (splitMember source) (kind, taken) = .ok (kind, members.reverse ++ taken) := by
  induction members generalizing taken with
  | nil => rfl
  | cons m members ih =>
    simp only [List.map_cons, List.mem_cons, not_or] at h
    have hsplit : splitMember source (kind, taken) m = .ok (kind, m :: taken) :=
      if_neg (Ne.symm h.1)
    rw [List.foldlM_cons, hsplit]
    refine (ih h.2 (m :: taken)).trans ?_
    rw [List.reverse_cons, List.append_assoc]
    rfl

/-- A rule that is written with its kind in front is taken as a rule of that kind. -/
theorem decodeRule_cons {source : Source} (kind : RuleKind) {members : List (String × Value)}
    (h : kindField ∉ members.map Prod.fst) :
    decodeRule source (.object ((kindField, ruleKindText.encode kind) :: members)) =
      ruleOfKind kind (.object members) := by
  have hkind : splitMember source (none, []) (kindField, ruleKindText.encode kind) =
      .ok (some kind, []) := by
    cases kind <;> rfl
  have hrest : members.foldlM (splitMember source) (some kind, []) =
      .ok (some kind, members.reverse) :=
    (foldlM_splitMember h []).trans (by rw [List.append_nil])
  rw [decodeRule, List.foldlM_cons, hkind]
  change (members.foldlM (splitMember source) (some kind, []) >>= _) = _
  rw [hrest]
  change ruleOfKind kind (.object members.reverse.reverse) = _
  rw [List.reverse_reverse]

/-- The kind in front of a record repeats no name and nests nothing. -/
theorem withKind_bounds (kind : RuleKind) {members : List (String × Value)} {depth : Nat}
    (h : kindField ∉ members.map Prod.fst) (hdistinct : (Value.object members).Distinct)
    (hdepth : (Value.object members).depth ≤ depth) :
    (Value.object ((kindField, ruleKindText.encode kind) :: members)).Distinct ∧
      (Value.object ((kindField, ruleKindText.encode kind) :: members)).depth ≤ depth := by
  have hkind : (ruleKindText.encode kind).Distinct ∧ (ruleKindText.encode kind).depth = 0 := by
    cases kind <;> exact ⟨trivial, rfl⟩
  refine ⟨⟨List.nodup_cons.mpr ⟨h, hdistinct.1⟩, hkind.1, hdistinct.2⟩, ?_⟩
  rw [Value.depth] at hdepth ⊢
  rw [Value.depthMembers, hkind.2, Nat.zero_max]
  exact hdepth

theorem rule_writesBack (depth : Nat) (r : Rule) : rule.WritesBack (depth + 4) r := by
  cases r with
  | alerting r =>
    have hr := alertingRule_writesBack depth r
    have hkind : kindField ∉ (alertingFields.encodeMembers (r.state, r.name, r.query, r.duration,
        r.keepFiringFor, r.labels, r.annotations, r.alerts, r.health, r.lastError,
        r.evaluationTime, r.lastEvaluation, ())).map Prod.fst :=
      fun hmem ↦ absurd ((alertingFields.names_encodeMembers _).subset hmem) (by decide)
    have hbounds := withKind_bounds .alerting hkind hr.distinct hr.depth_le
    refine ⟨fun source ↦ (decodeRule_cons .alerting hkind).trans ?_, hbounds.1, hbounds.2⟩
    exact congrArg (Except.map Rule.alerting) (hr.decode_encode .setAside)
  | recording r =>
    have hr := recordingRule_writesBack (depth + 2) r
    have hkind : kindField ∉ (recordingFields.encodeMembers (r.name, r.query, r.labels, r.health,
        r.lastError, r.evaluationTime, r.lastEvaluation, ())).map Prod.fst :=
      fun hmem ↦ absurd ((recordingFields.names_encodeMembers _).subset hmem) (by decide)
    have hbounds := withKind_bounds .recording hkind hr.distinct hr.depth_le
    refine ⟨fun source ↦ (decodeRule_cons .recording hkind).trans ?_, hbounds.1, hbounds.2⟩
    exact congrArg (Except.map Rule.recording) (hr.decode_encode .setAside)

theorem ruleGroup_writesBack (depth : Nat) (g : RuleGroup) : ruleGroup.WritesBack (depth + 6) g :=
  record_writesBack rfl (by decide)
    ⟨required_writesBack (text_writesBack _ g.name),
      required_writesBack (text_writesBack _ g.file),
      defaulting_writesBack (listOrNull_writesBack fun r _ ↦ rule_writesBack depth r),
      required_writesBack (real_writesBack _ g.interval),
      optional_writesBack (fun n _ ↦ natural_writesBack _ n) (fun _ _ h ↦ nomatch h),
      optional_writesBack (fun d _ ↦ real_writesBack _ d) (fun _ _ h ↦ nomatch h),
      optional_writesBack (fun t _ ↦ timestamp_writesBack _ t) (fun _ _ h ↦ nomatch h), trivial⟩

/-- **A rule listing writes its contents back.** -/
theorem ruleListing_writesBack (l : RuleListing) : ruleListing.WritesBack 8 l :=
  record_writesBack rfl (by decide)
    ⟨defaulting_writesBack (listOrNull_writesBack fun g _ ↦ ruleGroup_writesBack 0 g), trivial⟩

/-- **An alert listing writes its contents back.** -/
theorem alertListing_writesBack (l : AlertListing) : alertListing.WritesBack 4 l :=
  record_writesBack rfl (by decide)
    ⟨defaulting_writesBack (listOrNull_writesBack fun a _ ↦ alert_writesBack 0 a), trivial⟩

/-! ## Envelopes -/

theorem envelopeText_writesBack (depth : Nat) (name s : String) :
    (envelopeText name).WritesBack depth s :=
  ⟨text_writesBack depth s, fun hout ↦ by rw [String.isEmpty_iff.mp hout]; rfl⟩

theorem envelopeNotes_writesBack (depth : Nat) (name : String) (notes : List String) :
    (envelopeNotes name).WritesBack (depth + 1) notes :=
  ⟨list_writesBack fun s _ ↦ text_writesBack depth s,
    fun hout ↦ by rw [List.isEmpty_iff.mp hout]; rfl⟩

theorem envelopeData_writesBack {depth : Nat} {v : Value} (hdistinct : v.Distinct)
    (hdepth : v.depth ≤ depth) : envelopeData.WritesBack depth v := by
  refine ⟨opaqueValue_writesBack hdistinct hdepth, fun hout ↦ ?_⟩
  cases v with
  | null => rfl
  | _ => cases hout

/-- An envelope around data without repeated names writes its contents back. -/
theorem envelope_writesBack {e : Envelope} {depth : Nat} (hdistinct : e.data.Distinct)
    (hdepth : e.data.depth ≤ depth + 1) : envelope.WritesBack (depth + 2) e :=
  record_writesBack rfl (by decide)
    ⟨required_writesBack (text_writesBack _ e.status),
      envelopeData_writesBack hdistinct hdepth,
      envelopeText_writesBack _ "errorType" e.errorType,
      envelopeText_writesBack _ "error" e.error,
      envelopeNotes_writesBack depth "warnings" e.warnings,
      envelopeNotes_writesBack depth "infos" e.infos, trivial⟩

/-- **An envelope is read from its text**, if its data has no name twice and leaves a level for
the envelope itself. -/
theorem envelope_takes {e : Envelope} {levels : Nat} (hdistinct : e.data.Distinct)
    (hdepth : e.data.depth ≤ levels + 1) :
    Takes (envelope.read (levels + 2)) (envelope.encode e) e := by
  have he := envelope_writesBack hdistinct hdepth
  exact envelope_agrees.takes he.depth_le he.distinct (he.decode_encode .parsed)

end Document.Codec

end TenantView
