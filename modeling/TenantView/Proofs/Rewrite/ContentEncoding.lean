import TenantView.Proofs.Rewrite.Faithfulness

/-!
# The encoding of a rewritten answer

A rewritten body is never packed, but the head of the answer may come with several fields that name
an encoding.  The first of them says how the body is to be unpacked.  If it names a packed form, all
of them go; if it names none, all of them stay, whatever the others say.  So a rewritten answer
claims no packing exactly if the first field named a packed form or no field did
(`reply_encodingFields`); a single field is always enough.
-/

namespace TenantView.Rewrite

open Document (Codec)

namespace ContentEncoding

/-- The names of an encoding in their canonical form. -/
def names : ContentEncoding → List String
  | plain => ["", "identity"]
  | gzip => ["gzip", "x-gzip"]

/-- The value of a header field names the encoding. -/
def IsNamedBy (encoding : ContentEncoding) (value : Bytes) : Prop :=
  ∃ name, Text.ofBytes? value = some name ∧ canonical name ∈ encoding.names

theorem ofName_none : ofName none = .ok plain :=
  rfl

/-- An encoding is found by its names. -/
theorem ofName_some_eq_ok_iff {name : String} {encoding : ContentEncoding} :
    ofName (some name) = .ok encoding ↔ canonical name ∈ encoding.names := by
  rw [ofName, Option.map_some]
  generalize canonical name = form
  constructor
  · intro h
    split at h <;> cases h <;> simp_all [names]
  · intro h
    cases encoding <;>
    · simp only [names, List.mem_cons, List.not_mem_nil, or_false] at h
      rcases h with rfl | rfl <;> rfl

/-- No value names two encodings. -/
theorem IsNamedBy.unique {encoding other : ContentEncoding} {value : Bytes}
    (h : encoding.IsNamedBy value) (h' : other.IsNamedBy value) : encoding = other := by
  obtain ⟨name, hname, hnamed⟩ := h
  obtain ⟨name', hname', hnamed'⟩ := h'
  rw [hname] at hname'
  cases hname'
  have hfound := ofName_some_eq_ok_iff.mpr hnamed
  rw [ofName_some_eq_ok_iff.mpr hnamed'] at hfound
  exact (Except.ok.inj hfound).symm

end ContentEncoding

open ContentEncoding (IsNamedBy)

/-- What the first field says is what it spells, if there is one. -/
theorem encodingName_eq_ok {headers : Headers} {name : Option String}
    (h : encodingName headers = .ok name) :
    (headers.first? contentEncoding = none ∧ name = none) ∨
      ∃ value given, headers.first? contentEncoding = some value ∧
        Text.ofBytes? value = some given ∧ name = some given := by
  rw [encodingName] at h
  split at h
  · next hnone =>
    cases h
    exact .inl ⟨hnone, rfl⟩
  · next value hvalue =>
    split at h
    · next given hgiven =>
      split at h
      · cases h
        exact .inr ⟨value, given, hvalue, hgiven, rfl⟩
      · cases h
    · cases h

/-- An answer that is taken apart has no field for its encoding, or the first of them names it. -/
theorem Opens.encoding {limit : Nat} {response : Response} {opened : Opened}
    (h : Opens limit response opened) :
    ∃ encoding : ContentEncoding,
      opened.wasPacked = decide (encoding = .gzip) ∧
      ∀ value ∈ response.headers.first? contentEncoding, encoding.IsNamedBy value := by
  obtain ⟨body, name, -, hname, hopened⟩ := h
  obtain ⟨encoding, document, hencoding, -, -, hpacked⟩ := openBody_eq_ok hopened
  refine ⟨encoding, hpacked, fun value hvalue ↦ ?_⟩
  rcases encodingName_eq_ok hname with ⟨hnone, -⟩ | ⟨first, given, hfirst, hgiven, rfl⟩
  · rw [hnone] at hvalue
    cases hvalue
  · rw [hfirst] at hvalue
    cases hvalue
    exact ⟨given, hgiven, ContentEncoding.ofName_some_eq_ok_iff.mp hencoding⟩

/-- The fields for the encoding go with a packed body, and stay otherwise. -/
theorem values_fitHeaders_contentEncoding (headers : Headers) (wasPacked : Bool) (length : Nat) :
    (fitHeaders headers wasPacked length).values contentEncoding =
      if wasPacked then [] else headers.values contentEncoding := by
  have hlength : contentEncoding ≠ contentLength := by decide
  have htransfer : contentEncoding ≠ transferEncoding := by decide
  rw [fitHeaders, Headers.values_set_of_ne _ _ hlength, Headers.values_erase_of_ne _ htransfer]
  cases wasPacked with
  | true => exact headers.values_erase_self contentEncoding
  | false => rfl

/-- The fields for the encoding of a rewritten answer. -/
theorem encodingFields_of_reply {hook : Hook} {request : Request} {response out : Response}
    (hstatus : response.status = okStatus)
    (h : (hook.reply request response).result = .ok out) :
    ∃ encoding : ContentEncoding,
      (∀ value ∈ response.headers.first? contentEncoding, encoding.IsNamedBy value) ∧
      out.headers.values contentEncoding =
        if encoding = .gzip then [] else response.headers.values contentEncoding := by
  obtain ⟨opened, values, payload, data, hopens, -, -, -, rfl⟩ := reply_eq_ok hstatus h
  obtain ⟨encoding, hpacked, hnamed⟩ := hopens.encoding
  refine ⟨encoding, hnamed, ?_⟩
  rw [answer, values_fitHeaders_contentEncoding, hpacked]
  simp only [decide_eq_true_eq]

/-- **A rewritten answer claims no packing exactly if the first field for the encoding names a
packed form or all fields name none.**  This is so for every answer with one field at most. -/
theorem reply_encodingFields {hook : Hook} {request : Request} {response out : Response}
    (hstatus : response.status = okStatus)
    (h : (hook.reply request response).result = .ok out) :
    ((∀ value ∈ out.headers.values contentEncoding, IsNamedBy .plain value) ↔
      (∃ value ∈ response.headers.first? contentEncoding, IsNamedBy .gzip value) ∨
        ∀ value ∈ response.headers.values contentEncoding, IsNamedBy .plain value) ∧
    ((response.headers.values contentEncoding).length ≤ 1 →
      ∀ value ∈ out.headers.values contentEncoding, IsNamedBy .plain value) := by
  obtain ⟨encoding, hfirst, hfields⟩ := encodingFields_of_reply hstatus h
  rw [Headers.first?] at hfirst ⊢
  rw [hfields]
  cases hvalues : response.headers.values contentEncoding with
  | nil => simp
  | cons first others =>
    have hnamed : encoding.IsNamedBy first := hfirst first (by rw [hvalues, List.head?_cons]; rfl)
    cases encoding with
    | gzip =>
      rw [if_pos rfl]
      exact ⟨iff_of_true nofun (.inl ⟨first, rfl, hnamed⟩), fun _ ↦ nofun⟩
    | plain =>
      rw [if_neg nofun]
      refine ⟨(or_iff_right ?_).symm, fun hone ↦ ?_⟩
      · rintro ⟨value, hvalue, hpacked⟩
        cases hvalue
        cases hpacked.unique hnamed
      · obtain rfl : others = [] := List.eq_nil_of_length_eq_zero (by simpa using hone)
        simpa using hnamed

/-- An answer whose fields name no encoding and then a packed form. -/
def conflictingAnswer : Response :=
  { listingAnswer sharedByBoth with
    headers := .ofList
      [("Content-Encoding", Text.toBytes "identity"), ("Content-Encoding", Text.toBytes "gzip")] }

theorem values_conflictingAnswer :
    conflictingAnswer.headers.values contentEncoding =
      [Text.toBytes "identity", Text.toBytes "gzip"] := by
  decide +kernel

theorem encodingName_conflictingAnswer :
    encodingName conflictingAnswer.headers = .ok (some "identity") := by
  rw [encodingName, Headers.first?, values_conflictingAnswer]
  simp only [List.head?_cons, Text.ofBytes?_toBytes]
  exact if_pos (by decide +kernel)

/-- Behind a field that names no encoding a packed form stays claimed. -/
theorem reply_encodingFields_conflictingAnswer :
    ∃ out,
      ((Hook.ofListings partialSettings (lengthOf sharedByBoth) .rules).reply requestOfA
        conflictingAnswer).result = .ok out ∧
      ¬ ∀ value ∈ out.headers.values contentEncoding, IsNamedBy .plain value := by
  have hwritten := Codec.ruleListing_writesBack sharedByBoth
  have hopens : Opens (lengthOf sharedByBoth) conflictingAnswer
      ⟨.success (Codec.ruleListing.encode sharedByBoth), false⟩ :=
    opens_packed (.success _) rfl le_rfl encodingName_conflictingAnswer rfl rfl
      hwritten.distinct (hwritten.depth_le.trans (by decide))
  have hmatcher : Matcher.ofValues partialSettings.mode ["a"] = .ok (.exact ["a"]) := rfl
  obtain ⟨events, htransform⟩ :=
    transform_rules (.success (Codec.ruleListing.encode sharedByBoth))
      (payload_encode hwritten .rules) hmatcher
  have hvalues : requestOfA.context.values? = some ["a"] := rfl
  have hreply := reply_of_transform rfl hopens hvalues htransform
  have hidentity : IsNamedBy .plain (Text.toBytes "identity") :=
    ⟨"identity", Text.ofBytes?_toBytes _, by decide⟩
  have hgzip : IsNamedBy .gzip (Text.toBytes "gzip") :=
    ⟨"gzip", Text.ofBytes?_toBytes _, by decide⟩
  refine ⟨_, hreply, fun hclaims ↦ ?_⟩
  have hfields := (reply_encodingFields rfl hreply).1.mp hclaims
  rw [Headers.first?, values_conflictingAnswer] at hfields
  rcases hfields with ⟨value, hvalue, hpacked⟩ | hall
  · cases hvalue
    cases hpacked.unique hidentity
  · cases (hall (Text.toBytes "gzip") (.tail _ (.head _))).unique hgzip

end TenantView.Rewrite
