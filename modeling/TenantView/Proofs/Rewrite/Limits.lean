import TenantView.Proofs.Rewrite.FirstFailure
import TenantView.Rewrite.Limit

/-!
# Greater limits

What can be taken apart under a limit can be taken apart under a greater one, with the same result
(`openBody_of_le`): a plain body is not measured again, and of a packed one no more is unpacked than
before.  The exception is the greatest number of a machine word.  It has no number above it, so that
the allowance for unpacking overflows, and the call is aborted for every packed body
(`openBody_greatest`).  The environment can set even this limit.
-/

namespace TenantView.Rewrite

open Document (Codec)

/-- A body is taken apart by undoing the encoding that is named and reading what comes of it. -/
theorem openBody_of_ofName {name : Option String} {encoding : ContentEncoding}
    (h : ContentEncoding.ofName name = .ok encoding) (limit : Nat) (body : Bytes) :
    openBody limit name body = (encoding.undo limit body >>= fun document ↦
      ((readEnvelope document).map fun envelope ↦
        ⟨envelope, decide (encoding = .gzip)⟩).mapError .givenUp) := by
  rw [openBody, h]
  change (encoding.undo limit body >>= _) = _
  refine congrArg (encoding.undo limit body >>= ·) (funext fun document ↦ ?_)
  cases readEnvelope document <;> rfl

/-- A packed body under the greatest limit aborts the call. -/
theorem openBody_greatest {name : Option String} {limit : Nat}
    (hname : ContentEncoding.ofName name = .ok .gzip) (hlimit : limit + 1 = UInt64.size)
    (body : Bytes) : openBody limit name body = .error .overflow := by
  rw [openBody_of_ofName hname, ContentEncoding.undo, unpackWithin_greatest hlimit]
  rfl

/-- What is unpacked under a limit is unpacked under a greater one. -/
theorem unpackWithin_of_le {m n : Nat} (hle : m ≤ n) (hn : n + 1 < UInt64.size)
    {body document : Bytes} (h : unpackWithin m body = .ok document) :
    unpackWithin n body = .ok document := by
  rw [unpackWithin_eq (by omega)] at h
  split at h
  · cases h
  · next hfits => rw [unpackWithin_eq hn, if_neg (by omega), h]

/-- A body that is taken apart under a limit comes apart in the same way under a greater one, if it
is not packed or the greater limit has a number above it. -/
theorem openBody_of_le {m n : Nat} (hle : m ≤ n) {name : Option String} {body : Bytes}
    {opened : Opened} (h : openBody m name body = .ok opened)
    (hn : n + 1 < UInt64.size ∨ opened.wasPacked = false) : openBody n name body = .ok opened := by
  obtain ⟨encoding, document, hname, hundo, -, hpacked⟩ := openBody_eq_ok h
  have hundo' : encoding.undo n body = .ok document := by
    cases encoding with
    | plain => exact hundo
    | gzip =>
      have hgreater : n + 1 < UInt64.size := hn.resolve_right (by rw [hpacked]; decide)
      exact unpackWithin_of_le hle hgreater hundo
  rw [openBody_of_ofName hname, hundo] at h
  rw [openBody_of_ofName hname, hundo']
  exact h

/-- A packed body that is taken apart under some limit aborts the call under the greatest one. -/
theorem openBody_greatest_of_packed {m n : Nat} (hn : n + 1 = UInt64.size) {name : Option String}
    {body : Bytes} {opened : Opened} (h : openBody m name body = .ok opened)
    (hpacked : opened.wasPacked = true) : openBody n name body = .error .overflow := by
  obtain ⟨encoding, document, hname, -, -, hencoding⟩ := openBody_eq_ok h
  rw [hencoding, decide_eq_true_eq] at hpacked
  subst hpacked
  exact openBody_greatest hname hn body

/-- The allowance is one more than the limit exactly if that is a number of a machine word. -/
theorem allowance_eq_iff {limit : Nat} :
    allowance limit = .ok (limit + 1) ↔ limit + 1 < UInt64.size := by
  refine ⟨fun heq ↦ by_contra fun hlimit ↦ ?_, fun hlimit ↦ if_pos hlimit⟩
  cases heq.symm.trans (if_neg hlimit)

/-- An environment that sets the limit to the greatest number of a machine word. -/
def greatestEnvironment : Environment where
  value? _ := some "18446744073709551615"

theorem limit_greatestEnvironment : (limit greatestEnvironment).value + 1 = UInt64.size := by
  decide +kernel

/-- **A greater limit breaks nothing that could be taken apart, unless it is the greatest of all and
the body is packed.**  For such a body the call is aborted.  The environment can set every limit,
and the allowance for unpacking is one more than the limit for all of them but this one, where it
overflows. -/
theorem openBody_raise {m n : Nat} (hle : m ≤ n) (hn : n < UInt64.size) {name : Option String}
    {body : Bytes} {opened : Opened} (h : openBody m name body = .ok opened) (env : Environment) :
    (openBody n name body = .ok opened ↔ n + 1 < UInt64.size ∨ opened.wasPacked = false) ∧
    (openBody n name body ≠ .ok opened → openBody n name body = .error .overflow) ∧
    (limit env).value < UInt64.size ∧
    (allowance (limit env).value = .ok ((limit env).value + 1) ↔
      (limit env).value + 1 < UInt64.size) := by
  have hgreatest : ¬ (n + 1 < UInt64.size ∨ opened.wasPacked = false) →
      openBody n name body = .error .overflow := by
    intro hexcept
    obtain ⟨hnext, hpacked⟩ := not_or.mp hexcept
    exact openBody_greatest_of_packed (by omega) h (Bool.eq_true_of_not_eq_false hpacked)
  refine ⟨⟨fun hopened ↦ ?_, openBody_of_le hle h⟩, fun hrefused ↦ ?_, limit_value_lt env,
    allowance_eq_iff⟩
  · by_contra hexcept
    cases hopened.symm.trans (hgreatest hexcept)
  · exact hgreatest fun hopens ↦ hrefused (openBody_of_le hle h hopens)

theorem unpack_packedNoAlerts :
    Gzip.unpack Attempt.packedNoAlerts = ⟨Attempt.noAlerts, none⟩ := by
  decide +kernel

/-- An envelope that just meets its limit in packed form. -/
theorem openBody_packedNoAlerts :
    openBody 41 (some "gzip") Attempt.packedNoAlerts =
      .ok ⟨.success (Codec.alertListing.encode ⟨[]⟩), true⟩ := by
  have hlength : ¬ 41 < Attempt.noAlerts.length := by decide +kernel
  have hname : ContentEncoding.ofName (some "gzip") = .ok .gzip := rfl
  rw [openBody_of_ofName hname, ContentEncoding.undo, unpackWithin_eq (by decide),
    unpack_packedNoAlerts, if_neg hlength]
  rfl

/-- The envelope comes apart under the limit that it meets and under the last but one, and aborts
the call under the greatest, which an environment sets. -/
theorem openBody_raise_packedNoAlerts :
    openBody (UInt64.size - 2) (some "gzip") Attempt.packedNoAlerts =
      .ok ⟨.success (Codec.alertListing.encode ⟨[]⟩), true⟩ ∧
    openBody (UInt64.size - 1) (some "gzip") Attempt.packedNoAlerts = .error .overflow ∧
    allowance (limit greatestEnvironment).value ≠
      .ok ((limit greatestEnvironment).value + 1) := by
  have hbelow := openBody_raise (n := UInt64.size - 2) (by decide) (by decide)
    openBody_packedNoAlerts greatestEnvironment
  have hgreatest := openBody_raise (n := UInt64.size - 1) (by decide) (by decide)
    openBody_packedNoAlerts greatestEnvironment
  refine ⟨hbelow.1.mpr (.inl (by decide)), hgreatest.2.1 fun hopened ↦ ?_, fun heq ↦ ?_⟩
  · exact absurd (hgreatest.1.mp hopened) (by decide)
  · have hlt := hgreatest.2.2.2.mp heq
    rw [limit_greatestEnvironment] at hlt
    exact Nat.lt_irrefl _ hlt

end TenantView.Rewrite
