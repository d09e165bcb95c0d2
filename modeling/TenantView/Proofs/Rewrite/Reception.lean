import TenantView.Proofs.Rewrite.ContentEncoding

/-!
# What arrives of an answer

The first stages of a rewrite in closed form.  The data that counts is what arrives before the
connection fails; it is too long or not, whatever frames it comes in, and only then a failure is
met (`readBody_eq`).  A packed body delivers data and perhaps a fault at its end; again the length
counts first (`unpackWithin_eq`).  With the greatest number of a machine word as the limit the
number behind it overflows, whatever the body is (`unpackWithin_greatest`).  Between the two stands
what the head claims about the encoding (`encoding_of_claims`).
-/

namespace TenantView.Rewrite

/-! ## Frames -/

namespace Frame

/-- The data in a frame. -/
def bytes : Frame → Bytes
  | data bytes => bytes
  | _ => []

/-- Why the connection fails with a frame, if it does. -/
def failure? : Frame → Option Breakage
  | failure breakage => some breakage
  | _ => none

end Frame

/-- The data that arrives before the connection fails. -/
def arrived (frames : List Frame) : Bytes :=
  (frames.takeWhile fun frame ↦ frame.failure?.isNone).flatMap Frame.bytes

/-- Why the connection fails, if it does. -/
def breakage? (frames : List Frame) : Option Breakage :=
  frames.findSome? Frame.failure?

theorem arrived_data (bytes : Bytes) (frames : List Frame) :
    arrived (.data bytes :: frames) = bytes ++ arrived frames :=
  rfl

/-- Frame by frame, data that exceeds the room is noticed before the failure behind it. -/
theorem gather_eq (limit room : Nat) (frames : List Frame) :
    gather limit room frames =
      if room < (arrived frames).length then .error (.tooLong limit)
      else
        match breakage? frames with
        | some breakage => .error (breakage.report limit)
        | none => .ok (arrived frames) := by
  induction frames generalizing room with
  | nil => rfl
  | cons frame frames ih =>
    cases frame with
    | data bytes =>
      have hbreakage : breakage? (.data bytes :: frames) = breakage? frames := rfl
      rw [gather, arrived_data, List.length_append, hbreakage]
      by_cases hroom : room < bytes.length
      · rw [if_pos hroom, if_pos (Nat.lt_add_right _ hroom)]
      · rw [if_neg hroom, ih]
        by_cases hrest : room - bytes.length < (arrived frames).length
        · rw [if_pos hrest, if_pos (by omega)]
          rfl
        · rw [if_neg hrest, if_neg (by omega)]
          cases breakage? frames <;> rfl
    | trailers fields => exact ih room
    | failure breakage => rfl

/-- A body is read if it is not too long and the connection holds. -/
theorem readBody_eq (limit : Nat) (frames : List Frame) :
    readBody limit frames =
      if limit < (arrived frames).length then .error (.body (.tooLong limit))
      else
        match breakage? frames with
        | some breakage => .error (.body (breakage.report limit))
        | none => .ok (arrived frames) := by
  rw [readBody, gather_eq]
  split
  · rfl
  · cases breakage? frames <;> rfl

/-! ## The encoding that is claimed -/

/-- The wording for a field that is no readable text. -/
def unreadableName : String :=
  "Content-Encoding header is not valid ASCII"

/-- The wording for the canonical form of a name that no encoding has. -/
def unknownName (form : String) : String :=
  "unsupported content encoding " ++ Text.quoted form

/-- The head claims the encoding: the first field for it is readable and names it, or there is no
such field and the body is plain. -/
def Claims (headers : Headers) (encoding : ContentEncoding) : Prop :=
  (headers.first? contentEncoding = none ∧ encoding = .plain) ∨
    ∃ value, headers.first? contentEncoding = some value ∧ value.all isReadable = true ∧
      encoding.IsNamedBy value

/-- The head claims no encoding that is known, for the reason that is given. -/
inductive Misclaims (headers : Headers) : (reason : String) → Prop
  | unreadable {value : Bytes} (first : headers.first? contentEncoding = some value)
      (unreadable : value.all isReadable = false) : Misclaims headers unreadableName
  | unknown {value : Bytes} {name : String} (first : headers.first? contentEncoding = some value)
      (readable : value.all isReadable = true) (spells : Text.ofBytes? value = some name)
      (unknown : ∀ encoding : ContentEncoding, ContentEncoding.canonical name ∉ encoding.names) :
      Misclaims headers (unknownName (ContentEncoding.canonical name))

/-- Bytes in the lower half of their range spell a text. -/
theorem ofBytes?_of_lt {bytes : Bytes} (h : ∀ b ∈ bytes, b.toNat < 0x80) :
    ∃ text, Text.ofBytes? bytes = some text := by
  have hone : ∀ n < 0x80, String.utf8EncodeChar (Char.ofNat n) = [n.toUInt8] := by decide
  have hspelled : Text.toBytes (String.ofList (bytes.map fun b ↦ Char.ofNat b.toNat)) = bytes := by
    calc Text.toBytes (String.ofList (bytes.map fun b ↦ Char.ofNat b.toNat))
        = bytes.flatMap fun b ↦ String.utf8EncodeChar (Char.ofNat b.toNat) := by
          simp [Text.toBytes, String.toUTF8, List.utf8Encode, List.flatMap_map]
      _ = bytes.flatMap fun b ↦ [b] := by
          refine List.flatMap_congr fun b hb ↦ ?_
          rw [hone b.toNat (h b hb), Nat.toUInt8_eq, UInt8.ofNat_toNat]
      _ = bytes := bytes.flatMap_singleton'
  exact ⟨_, hspelled ▸ Text.ofBytes?_toBytes _⟩

/-- A value that is readable spells a text. -/
theorem ofBytes?_of_readable {value : Bytes} (h : value.all isReadable = true) :
    ∃ name, Text.ofBytes? value = some name := by
  refine ofBytes?_of_lt fun b hb ↦ ?_
  have hreadable := List.all_eq_true.mp h b hb
  simp only [isReadable, Bool.or_eq_true, Bool.and_eq_true, decide_eq_true_eq] at hreadable
  rcases hreadable with ⟨-, hle⟩ | rfl
  · have hle' : b.toNat ≤ 0x7e := hle
    omega
  · decide

/-- A head claims an encoding or there is a reason why it does not. -/
theorem claims_or_misclaims (headers : Headers) :
    (∃ encoding, Claims headers encoding) ∨ ∃ reason, Misclaims headers reason := by
  cases hfirst : headers.first? contentEncoding with
  | none => exact .inl ⟨.plain, .inl ⟨hfirst, rfl⟩⟩
  | some value =>
    cases hreadable : value.all isReadable with
    | false => exact .inr ⟨_, .unreadable hfirst hreadable⟩
    | true =>
      obtain ⟨name, hname⟩ := ofBytes?_of_readable hreadable
      by_cases hknown : ∃ encoding : ContentEncoding,
          ContentEncoding.canonical name ∈ encoding.names
      · obtain ⟨encoding, hnamed⟩ := hknown
        exact .inl ⟨encoding, .inr ⟨value, hfirst, hreadable, name, hname, hnamed⟩⟩
      · exact .inr ⟨_, .unknown hfirst hreadable hname (not_exists.mp hknown)⟩

/-- The encoding that is claimed is the one that is undone. -/
theorem encoding_of_claims {headers : Headers} {encoding : ContentEncoding}
    (h : Claims headers encoding) :
    ∃ name, encodingName headers = .ok name ∧ ContentEncoding.ofName name = .ok encoding := by
  rcases h with ⟨hnone, rfl⟩ | ⟨value, hfirst, hreadable, name, hname, hnamed⟩
  · refine ⟨none, ?_, ContentEncoding.ofName_none⟩
    rw [encodingName, hnone]
  · refine ⟨some name, ?_, ContentEncoding.ofName_some_eq_ok_iff.mpr hnamed⟩
    rw [encodingName, hfirst]
    simp only [hname, hreadable, if_true]

/-- A name of no encoding is refused. -/
theorem ofName_unknown {name : String}
    (h : ∀ encoding : ContentEncoding, ContentEncoding.canonical name ∉ encoding.names) :
    ContentEncoding.ofName (some name) =
      .error (.decompression (unknownName (ContentEncoding.canonical name))) := by
  have hplain := h .plain
  have hgzip := h .gzip
  rw [ContentEncoding.ofName, Option.map_some]
  generalize ContentEncoding.canonical name = form at hplain hgzip ⊢
  split <;> simp_all [ContentEncoding.names]
  rfl

/-- A head that claims no known encoding is refused, either for its bytes or for the name in it. -/
theorem refused_of_misclaims {headers : Headers} {reason : String} (h : Misclaims headers reason) :
    encodingName headers = .error (.decompression reason) ∨
      ∃ name, encodingName headers = .ok name ∧
        ContentEncoding.ofName name = .error (.decompression reason) := by
  cases h with
  | unreadable hfirst hunreadable =>
    left
    rw [encodingName, hfirst]
    simp only [hunreadable]
    split <;> rfl
  | @unknown value name hfirst hreadable hname hunknown =>
    refine .inr ⟨some name, ?_, ofName_unknown hunknown⟩
    rw [encodingName, hfirst]
    simp only [hname, hreadable, if_true]

/-- No head claims an encoding and is refused for its claim. -/
theorem Misclaims.not_claims {headers : Headers} {reason : String} (h : Misclaims headers reason)
    (encoding : ContentEncoding) : ¬ Claims headers encoding := by
  intro hclaims
  obtain ⟨name, hname, hencoding⟩ := encoding_of_claims hclaims
  rcases refused_of_misclaims h with hrefused | ⟨name', hname', hrefused⟩
  · rw [hname] at hrefused
    cases hrefused
  · rw [hname] at hname'
    cases hname'
    rw [hencoding] at hrefused
    cases hrefused

/-! ## Undoing the encoding -/

/-- The number behind a limit is a number of a machine word, or it overflows. -/
theorem allowance_eq (limit : Nat) :
    (limit + 1 < UInt64.size ∧ allowance limit = .ok (limit + 1)) ∨
      (UInt64.size ≤ limit + 1 ∧ allowance limit = .error .overflow) := by
  by_cases hlimit : limit + 1 < UInt64.size
  · exact .inl ⟨hlimit, if_pos hlimit⟩
  · exact .inr ⟨Nat.le_of_not_lt hlimit, if_neg hlimit⟩

/-- What is delivered is accepted if its data is not too long and no fault ends it. -/
theorem accept_eq (limit : Nat) (delivery : Gzip.Delivery) :
    accept limit (limit + 1) delivery =
      if limit < delivery.data.length then .error (.body (.inflatesTooFar limit))
      else
        match delivery.fault with
        | some fault => .error (.decompression fault.message)
        | none => .ok delivery.data := by
  obtain ⟨data, fault⟩ := delivery
  simp only [accept, List.length_take]
  by_cases hlong : limit < data.length
  · have hcut : limit < min (limit + 1) data.length := by omega
    have hmore : ¬ data.length < limit + 1 := by omega
    rw [if_pos hlong, if_pos hcut]
    cases fault with
    | none => rfl
    | some fault => exact if_neg hmore
  · have hcut : ¬ limit < min (limit + 1) data.length := by omega
    have hwhole : data.take (limit + 1) = data := List.take_of_length_le (by omega)
    have hfits : data.length < limit + 1 := by omega
    rw [if_neg hlong, if_neg hcut, hwhole]
    cases fault with
    | none => rfl
    | some fault => exact if_pos hfits

/-- A packed body is unpacked if its data is not too long and no fault ends it. -/
theorem unpackWithin_eq {limit : Nat} (hlimit : limit + 1 < UInt64.size) (body : Bytes) :
    unpackWithin limit body =
      if limit < (Gzip.unpack body).data.length then
        .error (.givenUp (.body (.inflatesTooFar limit)))
      else
        match (Gzip.unpack body).fault with
        | some fault => .error (.givenUp (.decompression fault.message))
        | none => .ok (Gzip.unpack body).data := by
  rw [unpackWithin, allowance, if_pos hlimit, ok_bind, accept_eq]
  split
  · rfl
  · cases (Gzip.unpack body).fault <;> rfl

/-- With the greatest limit, which has no number above it in a machine word, unpacking overflows,
whatever the body is. -/
theorem unpackWithin_greatest {limit : Nat} (hlimit : limit + 1 = UInt64.size) (body : Bytes) :
    unpackWithin limit body = .error .overflow := by
  rw [unpackWithin, allowance, if_neg (Nat.not_lt.mpr hlimit.ge)]
  rfl

/-- Unpacking overflows only if there is no number above the limit. -/
theorem unpackWithin_eq_overflow_iff {limit : Nat} (body : Bytes) :
    unpackWithin limit body = .error .overflow ↔ UInt64.size ≤ limit + 1 := by
  rcases allowance_eq limit with ⟨hlimit, hallowance⟩ | ⟨hlimit, hallowance⟩
  · refine iff_of_false (fun habort ↦ ?_) (Nat.not_le.mpr hlimit)
    rw [unpackWithin, hallowance, ok_bind] at habort
    cases haccept : accept limit (limit + 1) (Gzip.unpack body) <;>
      rw [haccept] at habort <;> cases habort
  · refine iff_of_true ?_ hlimit
    rw [unpackWithin, hallowance]
    rfl

/-- Taking a body apart aborts the call exactly for a packed body under such a limit. -/
theorem openBody_eq_overflow_iff {limit : Nat} {name : Option String} {body : Bytes} :
    openBody limit name body = .error .overflow ↔
      ContentEncoding.ofName name = .ok .gzip ∧ UInt64.size ≤ limit + 1 := by
  cases hencoding : ContentEncoding.ofName name with
  | error error => simp [openBody, hencoding, Except.mapError, Bind.bind, Except.bind]
  | ok encoding =>
    have hopen : openBody limit name body = (encoding.undo limit body >>= fun document ↦
        (readEnvelope document).mapError .givenUp >>= fun envelope ↦
          .ok ⟨envelope, decide (encoding = .gzip)⟩) := by
      rw [openBody, hencoding]
      rfl
    cases hundo : encoding.undo limit body with
    | ok document =>
      have hfits : ¬ (encoding = .gzip ∧ UInt64.size ≤ limit + 1) := by
        rintro ⟨rfl, hlimit⟩
        cases hundo.symm.trans ((unpackWithin_eq_overflow_iff body).mpr hlimit)
      refine iff_of_false (fun habort ↦ ?_) fun h ↦ hfits ⟨Except.ok.inj h.1, h.2⟩
      rw [hopen, hundo, ok_bind] at habort
      cases hread : readEnvelope document <;> rw [hread] at habort <;> cases habort
    | error stop =>
      have hstop : openBody limit name body = .error stop := by
        rw [hopen, hundo]
        rfl
      rw [hstop]
      cases encoding with
      | plain => cases hundo
      | gzip =>
        have hundo' : unpackWithin limit body = .error stop := hundo
        rw [← unpackWithin_eq_overflow_iff body, hundo', and_iff_right rfl]
        simp only [Except.error.injEq]

end TenantView.Rewrite
