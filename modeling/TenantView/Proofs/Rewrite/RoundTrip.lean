import TenantView.Proofs.Json.ReadValues
import TenantView.Proofs.Rewrite.ContentEncoding

/-!
# Packing up and taking apart

An envelope that reports success can be packed up around any listing, and around any value that is
not nested too deeply, and comes out again when the body is taken apart: with the same texts and
notes, with the data that was put in, and without having been unpacked.  What the data stands for is
the very listing or value (`roundTrips_success`).  Packing up does not fail for any of them.
-/

namespace TenantView.Rewrite

open Document (Codec)

/-- A content is packed up in an envelope and found in it again, whatever limit is set, where no
encoding is claimed. -/
def RoundTrips {α : Type} (codec : Codec α) (envelope : Envelope) (content : α) : Prop :=
  ∀ (limit : Nat) (name : Option String),
    (∀ given ∈ name, ContentEncoding.canonical given ∈ ContentEncoding.plain.names) →
    ∃ packed opened,
      packEnvelope envelope (.ofValue (codec.encode content)) = .ok packed ∧
      openBody limit name packed = .ok opened ∧
      opened.envelope = { envelope with data := codec.encode content } ∧
      opened.wasPacked = false ∧
      ∀ kind, payload codec kind opened.envelope.data = .ok content

/-- A content that is written back, and leaves a level for the envelope, is found again. -/
theorem roundTrips_of_writesBack {α : Type} {codec : Codec α} {depth : Nat} {content : α}
    {envelope : Envelope} (hstatus : envelope.status = Envelope.successStatus)
    (h : codec.WritesBack depth content) (hdepth : depth ≤ 126) :
    RoundTrips codec envelope content := by
  intro limit name hname
  have hplain : ContentEncoding.ofName name = .ok .plain := by
    cases name with
    | none => exact ContentEncoding.ofName_none
    | some given => exact ContentEncoding.ofName_some_eq_ok_iff.mpr (hname given rfl)
  exact ⟨_, _, packEnvelope_ofValue envelope h.distinct,
    openBody_packedEnvelope limit hplain hstatus h.distinct (h.depth_le.trans hdepth), rfl, rfl,
    payload_encode h⟩

/-- A value that is read where an envelope holds its data, a level below the outermost one, has no
name twice and is not nested too deeply.  It can always be packed up again. -/
theorem roundTrips_of_readValue {envelope : Envelope}
    (hstatus : envelope.status = Envelope.successStatus) {bytes rest : Bytes} {data : Json.Value}
    (hread : Json.readValue 126 bytes = .done data rest) :
    RoundTrips Codec.opaqueValue envelope data :=
  roundTrips_of_writesBack hstatus (Codec.opaqueValue_writesBack
    (Json.distinct_of_readValue hread) (Json.depth_le_of_readValue hread)) le_rfl

/-- **What is packed up in an envelope that reports success is found in it again**: every rule
listing, every alert listing, and every value that has no name twice, as all values that are read,
and leaves a level for the envelope. -/
theorem roundTrips_success (envelope : Envelope)
    (hstatus : envelope.status = Envelope.successStatus) :
    (∀ listing, RoundTrips Codec.ruleListing envelope listing) ∧
    (∀ listing, RoundTrips Codec.alertListing envelope listing) ∧
    (∀ data : Json.Value, data.Distinct → data.depth ≤ 126 →
      RoundTrips Codec.opaqueValue envelope data) := by
  refine ⟨fun listing ↦ ?_, fun listing ↦ ?_, fun data hdistinct hdepth ↦ ?_⟩
  · exact roundTrips_of_writesBack hstatus (Codec.ruleListing_writesBack listing) (by decide)
  · exact roundTrips_of_writesBack hstatus (Codec.alertListing_writesBack listing) (by decide)
  · exact roundTrips_of_writesBack hstatus (Codec.opaqueValue_writesBack hdistinct hdepth) le_rfl

/-- A success that comes with a note and an empty one. -/
def notedSuccess : Envelope :=
  { Envelope.success .null with warnings := ["partial response", ""] }

/-- Both a rule that two tenants share and a mapping whose names are not in order are found again
beside the notes. -/
theorem roundTrips_notedSuccess :
    RoundTrips Codec.ruleListing notedSuccess sharedByBoth ∧
    RoundTrips Codec.opaqueValue notedSuccess
      (.object [("b", .array [.null, .number (.real .zero)]), ("a", .string "\u2028\"")]) := by
  obtain ⟨hrules, -, hvalues⟩ := roundTrips_success notedSuccess rfl
  exact ⟨hrules sharedByBoth, hvalues _ ⟨by decide, ⟨trivial, trivial, trivial⟩, trivial, trivial⟩
    (by decide)⟩

end TenantView.Rewrite
