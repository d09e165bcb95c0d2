import TenantView.Proofs.Gzip.Storing
import TenantView.Proofs.Rewrite.Limits

/-!
# Packed bodies

A packed body is taken apart like the document in it, if that meets the limit, and refused for its
length otherwise (`openBody_of_isStream`).  A body that holds no complete stream is always refused,
and for the fault as long as what can be inflated meets the limit (`openBody_of_not_isStream`).
Together this is `openBody_packed`.
-/

namespace TenantView.Rewrite

/-- An answer to which it is added that its body was packed. -/
def Opened.packed (opened : Opened) : Opened :=
  { opened with wasPacked := true }

section Packed

variable {limit : Nat} {name : String} {body : Bytes}

theorem openBody_of_isStream (hlimit : limit + 1 < UInt64.size)
    (hname : ContentEncoding.ofName (some name) = .ok .gzip) {document : Bytes}
    (h : Gzip.IsStream .reader body document) :
    openBody limit (some name) body =
      if limit < document.length then .error (.givenUp (.body (.inflatesTooFar limit)))
      else (openBody limit none document).map Opened.packed := by
  have hplain : openBody limit none document =
      ((readEnvelope document).map fun envelope ↦ ⟨envelope, false⟩).mapError .givenUp :=
    openBody_of_ofName ContentEncoding.ofName_none limit document
  rw [openBody_of_ofName hname, hplain, ContentEncoding.undo, unpackWithin_eq hlimit,
    Gzip.unpack_eq_iff.mpr h]
  split
  · rfl
  · rw [ok_bind]
    cases readEnvelope document <;> rfl

theorem openBody_of_not_isStream (hlimit : limit + 1 < UInt64.size)
    (hname : ContentEncoding.ofName (some name) = .ok .gzip)
    (h : ∀ document, ¬ Gzip.IsStream .reader body document) :
    ∃ fault : Gzip.Fault, openBody limit (some name) body =
      if limit < (Gzip.unpack body).data.length then
        .error (.givenUp (.body (.inflatesTooFar limit)))
      else .error (.givenUp (.decompression fault.message)) := by
  obtain ⟨fault, hfault⟩ : ∃ fault, (Gzip.unpack body).fault = some fault := by
    refine Option.ne_none_iff_exists'.mp fun hnone ↦ ?_
    exact h _ (Gzip.unpack_eq_iff.mp (congrArg (Gzip.Delivery.mk _) hnone))
  refine ⟨fault, ?_⟩
  rw [openBody_of_ofName hname, ContentEncoding.undo, unpackWithin_eq hlimit, hfault]
  split <;> rfl

/-- What is unpacked meets a limit that everything meets that can be inflated. -/
theorem length_unpack_le (h : ∀ data, Gzip.Delivers .reader body data → data.length ≤ limit) :
    (Gzip.unpack body).data.length ≤ limit := by
  obtain ⟨data, hdelivers, hprefix⟩ := Gzip.exists_delivers body
  exact Nat.le_trans hprefix.length_le (h data hdelivers)

end Packed

/-- **The limit on a packed body is exact, and the packing makes no other difference.**  A body that
holds a stream, in a dialect that the reader understands, comes apart like its document, or is
refused for its length if the document exceeds the limit.  A body that holds none is refused for a
fault or for its length, and for a fault if nothing that exceeds the limit can be inflated from
it. -/
theorem openBody_packed (limit : Nat) (hlimit : limit + 1 < UInt64.size) (name : String)
    (hname : ContentEncoding.canonical name = "gzip" ∨ ContentEncoding.canonical name = "x-gzip")
    (body : Bytes) :
    (∀ d ≤ Gzip.Dialect.reader, ∀ document, Gzip.IsStream d body document →
      openBody limit (some name) body =
        if limit < document.length then .error (.givenUp (.body (.inflatesTooFar limit)))
        else (openBody limit none document).map Opened.packed) ∧
    ((∀ document, ¬ Gzip.IsStream .reader body document) →
      ((∃ reason, openBody limit (some name) body = .error (.givenUp (.decompression reason))) ∨
        openBody limit (some name) body = .error (.givenUp (.body (.inflatesTooFar limit)))) ∧
      ((∀ data, Gzip.Delivers .reader body data → data.length ≤ limit) →
        ∃ reason,
          openBody limit (some name) body = .error (.givenUp (.decompression reason)))) := by
  have hnamed : ContentEncoding.ofName (some name) = .ok .gzip :=
    ContentEncoding.ofName_some_eq_ok_iff.mpr (by simpa [ContentEncoding.names] using hname)
  refine ⟨fun d hd document h ↦ openBody_of_isStream hlimit hnamed (h.mono hd), fun hnone ↦ ?_⟩
  obtain ⟨fault, hrefused⟩ := openBody_of_not_isStream hlimit hnamed hnone
  constructor
  · rw [hrefused]
    split
    · exact .inr rfl
    · exact .inl ⟨_, rfl⟩
  · intro hdelivers
    exact ⟨_, hrefused.trans (if_neg (Nat.not_lt.mpr (length_unpack_le hdelivers)))⟩

/-- The packed envelope is a stream in every dialect. -/
theorem isStream_packedNoAlerts (d : Gzip.Dialect) :
    Gzip.IsStream d Attempt.packedNoAlerts Attempt.noAlerts := by
  have hstored : Attempt.packedNoAlerts = Gzip.storedMember Attempt.noAlerts := by decide +kernel
  exact hstored ▸ Gzip.isStream_storedMember d (by decide +kernel)

/-- Bytes that break off within a header are no stream, and nothing can be inflated from them. -/
theorem delivers_of_length_lt {bytes data : Bytes} (hlength : bytes.length < 10)
    (h : Gzip.Delivers .reader bytes data) : data = [] := by
  have hheader : ∀ {header : Gzip.Header} {compressed}, header.WellFormed .reader →
      bytes ≠ header.bytes ++ compressed := by
    rintro header compressed hheader rfl
    have hle := hheader.le_length_bytes
    rw [List.length_append] at hlength
    omega
  cases h with
  | nothing => rfl
  | steps hwellFormed _ => exact absurd rfl (hheader hwellFormed)
  | more hmember _ =>
    obtain ⟨hwellFormed, heq, -⟩ := hmember
    exact absurd heq (hheader hwellFormed)

/-- The packed envelope comes apart under a limit that it just meets, is refused for its length
under the next smaller one, and for a fault if it breaks off. -/
theorem openBody_packed_noAlerts :
    openBody 41 (some " GZip ") Attempt.packedNoAlerts =
      (openBody 41 none Attempt.noAlerts).map Opened.packed ∧
    openBody 40 (some "x-gzip") Attempt.packedNoAlerts =
      .error (.givenUp (.body (.inflatesTooFar 40))) ∧
    ∃ reason, openBody 0 (some "gzip") (Attempt.packedNoAlerts.take 5) =
      .error (.givenUp (.decompression reason)) := by
  have hunpack : Gzip.unpack (Attempt.packedNoAlerts.take 5) = ⟨[], some .endOfFile⟩ := by
    decide +kernel
  have hbroken : ∀ document, ¬ Gzip.IsStream .reader (Attempt.packedNoAlerts.take 5) document := by
    intro document h
    cases hunpack.symm.trans (Gzip.unpack_eq_iff.mpr h)
  have hfits : ¬ 41 < Attempt.noAlerts.length := by decide +kernel
  have hexceeds : 40 < Attempt.noAlerts.length := by decide +kernel
  refine ⟨?_, ?_, ?_⟩
  · exact ((openBody_packed 41 (by decide) " GZip " (.inl (by decide +kernel)) _).1 _
      Gzip.Dialect.common_le_reader _ (isStream_packedNoAlerts _)).trans (if_neg hfits)
  · exact ((openBody_packed 40 (by decide) "x-gzip" (.inr (by decide +kernel)) _).1 _
      Gzip.Dialect.common_le_reader _ (isStream_packedNoAlerts _)).trans (if_pos hexceeds)
  · refine ((openBody_packed 0 (by decide) "gzip" (.inl (by decide +kernel)) _).2 hbroken).2 ?_
    intro data hdelivers
    rw [delivers_of_length_lt (by decide) hdelivers]
    exact Nat.le_refl 0

end TenantView.Rewrite
