import TenantView.Gzip.Stream
import TenantView.Proofs.Gzip.Inflation

/-!
# Streams and their data

Unpacking goes from member to member, and in each from the header over the compressed data to the
trailer.  What is dropped as a header is one (`dropHeader_eq_ok_iff`), and what is dropped as a
trailer is one for the data (`dropTrailer_eq_ok_iff`).  So unpacking ends without a fault exactly
for the streams that the reader takes, and then delivers their data (`unpack_eq_iff`).  Up to a
fault it delivers the front of what can be inflated, and nothing else (`exists_delivers`).
-/

namespace TenantView.Gzip

/-! ## Numbers in bytes -/

@[simp] theorem length_littleEndian (count n : Nat) : (littleEndian count n).length = count := by
  induction count generalizing n with
  | zero => rfl
  | succ count ih => rw [littleEndian, List.length_cons, ih]

/-- Bytes spell a number exactly if they are its bytes. -/
theorem ofLittleEndian_eq_iff {bytes : Bytes} {count n : Nat} (hcount : bytes.length = count)
    (hn : n < 256 ^ count) : ofLittleEndian bytes = n ↔ bytes = littleEndian count n := by
  induction bytes generalizing count n with
  | nil =>
    cases hcount
    have hzero : n = 0 := by simpa using hn
    simp [ofLittleEndian, littleEndian, hzero]
  | cons b bytes ih =>
    cases hcount
    have hb : b.toNat < 256 := b.toNat_lt
    have hrest : n / 256 < 256 ^ bytes.length := by
      rw [List.length_cons, Nat.pow_succ] at hn
      exact Nat.div_lt_of_lt_mul (by omega)
    have hbyte : b = n.toUInt8 ↔ b.toNat = n % 256 := by
      rw [← UInt8.toNat_inj]
      rfl
    change b.toNat + 256 * ofLittleEndian bytes = n ↔
      b :: bytes = n.toUInt8 :: littleEndian bytes.length (n / 256)
    rw [List.cons.injEq, ← ih rfl hrest, hbyte]
    omega

/-! ## Headers -/

theorem dropField_zero_cons (room : Nat) (bytes : Bytes) :
    dropField room (0 :: bytes) = .ok bytes := by
  cases room <;> rfl

theorem dropField_cons_of_ne {b : UInt8} (hb : b ≠ 0) (room : Nat) (bytes : Bytes) :
    dropField (room + 1) (b :: bytes) = dropField room bytes := by
  rw [dropField]
  exact hb

theorem dropField_no_room {b : UInt8} (hb : b ≠ 0) (bytes : Bytes) :
    dropField 0 (b :: bytes) = .error .fieldTooLong := by
  rw [dropField]
  exact hb

theorem dropField_eq_ok_iff {room : Nat} {bytes rest : Bytes} :
    dropField room bytes = .ok rest ↔
      ∃ text : Bytes, text.length ≤ room ∧ 0 ∉ text ∧ bytes = text ++ 0 :: rest := by
  constructor
  · intro h
    induction bytes generalizing room with
    | nil => cases room <;> cases h
    | cons b bytes ih =>
      by_cases hb : b = 0
      · subst hb
        rw [dropField_zero_cons] at h
        cases h
        exact ⟨[], Nat.zero_le _, List.not_mem_nil, rfl⟩
      · cases room with
        | zero =>
          rw [dropField_no_room hb] at h
          cases h
        | succ room =>
          rw [dropField_cons_of_ne hb] at h
          obtain ⟨text, hlength, hzero, rfl⟩ := ih h
          exact ⟨b :: text, Nat.succ_le_succ hlength,
            List.not_mem_cons_of_ne_of_not_mem (Ne.symm hb) hzero, rfl⟩
  · rintro ⟨text, hlength, hzero, rfl⟩
    induction text generalizing room with
    | nil => exact dropField_zero_cons room rest
    | cons b text ih =>
      cases room with
      | zero => exact absurd hlength (Nat.not_succ_le_zero _)
      | succ room =>
        rw [List.cons_append, dropField_cons_of_ne (List.ne_of_not_mem_cons hzero).symm]
        exact ih (Nat.le_of_succ_le_succ hlength) (List.not_mem_of_not_mem_cons hzero)

/-- A number in two bytes. -/
theorem pair_eq_littleEndian_iff {a b : UInt8} {n : Nat} (hn : n < 2 ^ 16) :
    [a, b] = littleEndian 2 n ↔ n = a.toNat + 256 * b.toNat := by
  have hspelled : ofLittleEndian [a, b] = a.toNat + 256 * b.toNat := by
    simp [ofLittleEndian]
  have hlt : n < 256 ^ 2 := Nat.lt_of_lt_of_eq hn (by decide)
  rw [← hspelled, eq_comm (a := n)]
  exact (ofLittleEndian_eq_iff rfl hlt).symm

/-- Two bytes are gone from the front if they spell the number that is expected. -/
theorem eq_littleEndian_append_iff {bytes rest : Bytes} {n : Nat} (hn : n < 2 ^ 16) :
    bytes = littleEndian 2 n ++ rest ↔
      ∃ a b, bytes = a :: b :: rest ∧ n = a.toNat + 256 * b.toNat := by
  constructor
  · intro h
    exact ⟨_, _, h, (pair_eq_littleEndian_iff hn).mp rfl⟩
  · rintro ⟨a, b, rfl, heq⟩
    rw [← (pair_eq_littleEndian_iff hn).mpr heq]
    rfl

theorem dropExtra_eq_ok_iff {bytes rest : Bytes} :
    dropExtra bytes = .ok rest ↔
      ∃ extra : Bytes, extra.length < 2 ^ 16 ∧ bytes = Header.extraBytes extra ++ rest := by
  constructor
  · intro h
    match bytes with
    | a :: b :: bytes =>
      rw [dropExtra] at h
      split at h
      · cases h
      · next hlength =>
        cases h
        have ha : a.toNat < 256 := a.toNat_lt
        have hb : b.toNat < 256 := b.toNat_lt
        have hlt : a.toNat + 256 * b.toNat < 2 ^ 16 := by
          change _ < 65536
          omega
        have htake : (bytes.take (a.toNat + 256 * b.toNat)).length = a.toNat + 256 * b.toNat :=
          List.length_take_of_le (Nat.le_of_not_lt hlength)
        refine ⟨bytes.take (a.toNat + 256 * b.toNat), htake.symm ▸ hlt, ?_⟩
        rw [Header.extraBytes, htake, ← (pair_eq_littleEndian_iff hlt).mpr rfl, List.append_assoc,
          List.take_append_drop]
        rfl
    | [_] | [] => cases h
  · rintro ⟨extra, hlt, heq⟩
    rw [Header.extraBytes, List.append_assoc, eq_littleEndian_append_iff hlt] at heq
    obtain ⟨a, b, rfl, hlength⟩ := heq
    rw [dropExtra, ← hlength]
    simp

theorem dropHeaderChecksum_eq_ok_iff {header bytes rest : Bytes} :
    dropHeaderChecksum header bytes = .ok rest ↔
      bytes = littleEndian 2 ((checksum header).toNat % 2 ^ 16) ++ rest := by
  rw [eq_littleEndian_append_iff (Nat.mod_lt _ (by decide))]
  constructor
  · intro h
    match bytes with
    | a :: b :: bytes =>
      rw [dropHeaderChecksum] at h
      split at h
      · next heq =>
        cases h
        exact ⟨a, b, rfl, heq⟩
      · cases h
    | [_] | [] => cases h
  · rintro ⟨a, b, rfl, heq⟩
    exact if_pos heq

/-- What a flag announces is there, and otherwise nothing. -/
theorem announced_eq_ok_iff {announced : Bool} {drop next : Bytes → Except Fault Bytes}
    {form : Bytes → Bytes} {ok : Bytes → Prop}
    (hdrop : ∀ {bytes rest}, drop bytes = .ok rest ↔ ∃ field, ok field ∧ bytes = form field ++ rest)
    {bytes rest : Bytes} :
    (if announced then drop bytes >>= next else pure bytes >>= next) = .ok rest ↔
      ∃ field : Option Bytes, field.isSome = announced ∧ (∀ content ∈ field, ok content) ∧
        ∃ behind, bytes = field.elim [] form ++ behind ∧ next behind = .ok rest := by
  cases announced with
  | false =>
    constructor
    · intro h
      exact ⟨none, rfl, nofun, bytes, rfl, h⟩
    · rintro ⟨field, hnone, -, behind, rfl, h⟩
      rw [Option.isSome_eq_false_iff, Option.isNone_iff_eq_none] at hnone
      subst hnone
      exact h
  | true =>
    rw [if_pos rfl, bind_eq_ok_iff]
    constructor
    · rintro ⟨behind, hbehind, h⟩
      obtain ⟨field, hok, rfl⟩ := hdrop.mp hbehind
      refine ⟨some field, rfl, ?_, behind, rfl, h⟩
      rintro _ ⟨rfl⟩
      exact hok
    · rintro ⟨field, hsome, hok, behind, rfl, h⟩
      obtain ⟨content, rfl⟩ := Option.isSome_iff_exists.mp hsome
      exact ⟨behind, hdrop.mpr ⟨content, hok content rfl, rfl⟩, h⟩

theorem dropText_eq_ok_iff {bytes rest : Bytes} :
    dropField fieldLimit bytes = .ok rest ↔
      ∃ text, Header.IsText .reader text ∧ bytes = Header.textBytes text ++ rest := by
  rw [dropField_eq_ok_iff]
  refine exists_congr fun text ↦ ?_
  have htext : Header.IsText .reader text ↔ 0 ∉ text ∧ text.length ≤ fieldLimit :=
    and_congr_right fun _ ↦ ⟨fun h ↦ h _ rfl, by rintro h _ ⟨rfl⟩; exact h⟩
  rw [htext, Header.textBytes, List.append_assoc, List.singleton_append]
  tauto

theorem dropSeal_eq_ok_iff {flags : UInt8} {header bytes rest : Bytes} :
    (if hasFlag flags 1 then dropHeaderChecksum header bytes else pure bytes) = .ok rest ↔
      ∃ sealBytes, Header.IsSeal flags header sealBytes ∧ bytes = sealBytes ++ rest := by
  have hflag : hasFlag flags 1 = flags.toNat.testBit 1 := rfl
  simp only [Header.IsSeal, hflag]
  split
  · simp only [dropHeaderChecksum_eq_ok_iff, isChecksum_iff, exists_eq_left]
  · simp only [exists_eq_left, List.nil_append]
    exact ⟨fun h ↦ Except.ok.inj h, congrArg Except.ok⟩

theorem dropFields_eq_ok_iff (front : Bytes) {bytes rest : Bytes} {flags : UInt8} :
    dropFields (front ++ bytes) flags bytes = .ok rest ↔
      ∃ (fields : Header.Fields) (sealBytes : Bytes), fields.WellFormed .reader flags ∧
        Header.IsSeal flags (front ++ fields.bytes) sealBytes ∧
        bytes = fields.bytes ++ (sealBytes ++ rest) := by
  have hbytes : ∀ (fields : Header.Fields) behind, fields.extra.elim [] Header.extraBytes ++
      (fields.name.elim [] Header.textBytes ++
        (fields.comment.elim [] Header.textBytes ++ behind)) = fields.bytes ++ behind := by
    simp [Header.Fields.bytes]
  have hcut : ∀ (fields : Header.Fields) (behind : Bytes),
      (front ++ (fields.bytes ++ behind)).take
        ((front ++ (fields.bytes ++ behind)).length - behind.length) = front ++ fields.bytes := by
    intro fields behind
    rw [← List.append_assoc, List.length_append, Nat.add_sub_cancel, List.take_left]
  rw [dropFields]
  simp only
  rw [announced_eq_ok_iff dropExtra_eq_ok_iff]
  simp only [announced_eq_ok_iff dropText_eq_ok_iff, dropSeal_eq_ok_iff]
  constructor
  · rintro ⟨extra, hextra, hextraOk, _, rfl, name, hname, hnameOk, _, rfl, comment, hcomment,
      hcommentOk, behind, rfl, sealBytes, hseal, rfl⟩
    rw [hbytes ⟨extra, name, comment⟩, hcut] at hseal
    exact ⟨⟨extra, name, comment⟩, sealBytes,
      ⟨hextra, hname, hcomment, hextraOk, hnameOk, hcommentOk⟩, hseal,
      hbytes ⟨extra, name, comment⟩ _⟩
  · rintro ⟨fields, sealBytes, hfields, hseal, rfl⟩
    refine ⟨fields.extra, hfields.extra_isSome, hfields.extra_lt, _, (hbytes fields _).symm,
      fields.name, hfields.name_isSome, hfields.isText_name, _, rfl,
      fields.comment, hfields.comment_isSome, hfields.isText_comment, _, rfl, sealBytes, ?_, rfl⟩
    rwa [hcut]

theorem exists_eq_of_length_eq_six {bytes : Bytes} (h : bytes.length = 6) :
    ∃ u v w x y z, bytes = [u, v, w, x, y, z] := by
  match bytes, h with
  | [u, v, w, x, y, z], _ => exact ⟨u, v, w, x, y, z, rfl⟩

theorem dropHeader_eq_ok_iff {bytes compressed : Bytes} :
    dropHeader bytes = .ok compressed ↔
      ∃ header : Header, header.WellFormed .reader ∧ bytes = header.bytes ++ compressed := by
  constructor
  · intro h
    rw [dropHeader.eq_def] at h
    split at h
    · next a b method flags u v w x y z behind =>
      split at h
      · next hformat =>
        obtain ⟨rfl, rfl, rfl, hflags⟩ := hformat
        obtain ⟨fields, sealBytes, hfields, hseal, rfl⟩ :=
          (dropFields_eq_ok_iff [0x1f, 0x8b, 8, flags, u, v, w, x, y, z]).mp h
        refine ⟨⟨flags, [u, v, w, x, y, z], fields, sealBytes⟩, ⟨hflags, rfl, hfields, hseal⟩, ?_⟩
        simp [Header.bytes, Header.checkedBytes]
      · cases h
    · cases h
  · rintro ⟨⟨flags, unread, fields, sealBytes⟩, ⟨hflags, hunread, hfields, hseal⟩, rfl⟩
    obtain ⟨u, v, w, x, y, z, rfl⟩ := exists_eq_of_length_eq_six hunread
    refine (if_pos ⟨rfl, rfl, rfl, hflags⟩).trans ?_
    refine (dropFields_eq_ok_iff [0x1f, 0x8b, 8, flags, u, v, w, x, y, z]).mpr
      ⟨fields, sealBytes, hfields, hseal, ?_⟩
    simp

/-! ## Trailers -/

theorem dropTrailer_eq_ok_iff {data bytes rest : Bytes} :
    dropTrailer data bytes = .ok rest ↔
      ∃ trailer, IsTrailer data trailer ∧ bytes = trailer ++ rest := by
  have hsum_lt : (checksum data).toNat < 256 ^ 4 := (checksum data).toNat_lt
  have hsize_lt : data.length % 2 ^ 32 < 256 ^ 4 := Nat.mod_lt _ (by decide)
  have htrailer : ∀ trailer, IsTrailer data trailer ↔
      trailer = littleEndian 4 (checksum data).toNat ++ littleEndian 4 (data.length % 2 ^ 32) := by
    simp only [IsTrailer, isChecksum_iff, exists_eq_left, implies_true]
  simp only [htrailer, exists_eq_left]
  rw [dropTrailer]
  constructor
  · intro h
    split at h
    · cases h
    · next hlength =>
      split at h
      · next hnumbers =>
        cases h
        have hfirst : (bytes.take 4).length = 4 := List.length_take_of_le (by omega)
        have hsecond : ((bytes.drop 4).take 4).length = 4 := by
          rw [List.length_take, List.length_drop]
          omega
        have hrest : bytes.drop 8 = (bytes.drop 4).drop 4 := by rw [List.drop_drop]
        rw [← (ofLittleEndian_eq_iff hfirst hsum_lt).mp hnumbers.1,
          ← (ofLittleEndian_eq_iff hsecond hsize_lt).mp hnumbers.2, hrest, List.append_assoc,
          List.take_append_drop, List.take_append_drop]
      · cases h
  · intro h
    have hlength : ¬ bytes.length < 8 := by
      rw [h]
      simp only [List.length_append, length_littleEndian]
      omega
    have hfirst : bytes.take 4 = littleEndian 4 (checksum data).toNat := by
      rw [h, List.append_assoc, List.take_left' (length_littleEndian _ _)]
    have hsecond : (bytes.drop 4).take 4 = littleEndian 4 (data.length % 2 ^ 32) := by
      rw [h, List.append_assoc, List.drop_left' (length_littleEndian _ _),
        List.take_left' (length_littleEndian _ _)]
    have hrest : bytes.drop 8 = rest := by
      rw [h]
      exact List.drop_left' (by simp)
    rw [if_neg hlength, hfirst, hsecond, hrest]
    exact if_pos ⟨(ofLittleEndian_eq_iff (length_littleEndian _ _) hsum_lt).mpr rfl,
      (ofLittleEndian_eq_iff (length_littleEndian _ _) hsize_lt).mpr rfl⟩

/-! ## Members -/

theorem isMember_iff {bytes data rest : Bytes} :
    IsMember .reader bytes data rest ↔ ∃ compressed trailer,
      dropHeader bytes = .ok compressed ∧ inflate compressed = (data.toArray, .ok trailer) ∧
        dropTrailer data trailer = .ok rest := by
  simp only [dropHeader_eq_ok_iff, inflate_eq_ok_iff, dropTrailer_eq_ok_iff]
  constructor
  · rintro ⟨hheader, hbytes, hinflates, htrailer⟩
    exact ⟨_, _, ⟨_, hheader, hbytes⟩, hinflates, _, htrailer, rfl⟩
  · rintro ⟨compressed, _, ⟨header, hheader, hbytes⟩, hinflates, trailer, htrailer, rfl⟩
    exact .intro hheader hbytes hinflates htrailer

namespace IsMember

variable {bytes data data' rest rest' : Bytes}

theorem unique (h : IsMember .reader bytes data rest) (h' : IsMember .reader bytes data' rest') :
    data = data' ∧ rest = rest' := by
  obtain ⟨compressed, trailer, hheader, hinflate, htrailer⟩ := isMember_iff.mp h
  obtain ⟨compressed', trailer', hheader', hinflate', htrailer'⟩ := isMember_iff.mp h'
  cases hheader.symm.trans hheader'
  obtain ⟨hdata, htrailers⟩ := Prod.mk.inj (hinflate.symm.trans hinflate')
  obtain rfl : data = data' := congrArg Array.toList hdata
  cases htrailers
  cases htrailer.symm.trans htrailer'
  exact ⟨rfl, rfl⟩

theorem length_lt {d : Dialect} (h : IsMember d bytes data rest) : rest.length < bytes.length := by
  obtain ⟨hheader, rfl, hinflates, -⟩ := h
  have hheaderLength := hheader.le_length_bytes
  have hle := hinflates.length_le
  rw [List.length_append] at hle
  rw [List.length_append]
  omega

end IsMember

/-! ## Streams -/

/-- The first member of some bytes is unpacked, or the unpacking ends within it. -/
theorem unpackMembers_cons (round : UInt8) (rounds bytes : Bytes) :
    (∃ data rest, IsMember .reader bytes data rest ∧ unpackMembers (round :: rounds) bytes =
      if rest = [] then ⟨data, none⟩ else (unpackMembers rounds rest).after data) ∨
    (∀ data rest, ¬ IsMember .reader bytes data rest) ∧
      (unpackMembers (round :: rounds) bytes).fault.isSome ∧
      ∃ data, Delivers .reader bytes data ∧
        (unpackMembers (round :: rounds) bytes).data <+: data := by
  rw [unpackMembers]
  cases hheader : dropHeader bytes with
  | error fault =>
    refine .inr ⟨fun data rest h ↦ ?_, rfl, [], .nothing, List.prefix_rfl⟩
    obtain ⟨_, _, hheader', -⟩ := isMember_iff.mp h
    cases hheader.symm.trans hheader'
  | ok compressed =>
    obtain ⟨header, hwellFormed, rfl⟩ := dropHeader_eq_ok_iff.mp hheader
    obtain ⟨⟨output, result⟩, hinflate⟩ : ∃ x, inflate compressed = x := ⟨_, rfl⟩
    have hdelivers : Delivers .reader (header.bytes ++ compressed) output.toList := by
      obtain ⟨s, hsteps, houtput⟩ := steps_of_inflate hinflate
      exact houtput ▸ .steps hwellFormed hsteps
    have hruns : ∀ {data rest}, IsMember .reader (header.bytes ++ compressed) data rest →
        ∃ trailer, (output, result) = (data.toArray, .ok trailer) ∧
          dropTrailer data trailer = .ok rest := by
      intro data rest h
      obtain ⟨_, trailer, hheader', hinflate', htrailer⟩ := isMember_iff.mp h
      cases hheader.symm.trans hheader'
      exact ⟨trailer, hinflate.symm.trans hinflate', htrailer⟩
    have hnone : ∀ {fault}, result = .error fault →
        ∀ data rest, ¬ IsMember .reader (header.bytes ++ compressed) data rest := by
      rintro fault rfl data rest h
      obtain ⟨trailer, heq, -⟩ := hruns h
      cases heq
    simp only [hinflate]
    match result with
    | .error .truncated => exact .inr ⟨hnone rfl, rfl, _, hdelivers, List.prefix_rfl⟩
    | .error .corrupt => exact .inr ⟨hnone rfl, rfl, _, hdelivers, List.take_prefix _ _⟩
    | .ok trailer =>
      simp only
      cases htrailer : dropTrailer output.toList trailer with
      | error fault =>
        refine .inr ⟨fun data rest h ↦ ?_, rfl, _, hdelivers, List.prefix_rfl⟩
        obtain ⟨trailer', heq, htrailer'⟩ := hruns h
        cases heq
        cases htrailer.symm.trans htrailer'
      | ok rest =>
        have hmember : IsMember .reader (header.bytes ++ compressed) output.toList rest :=
          isMember_iff.mpr ⟨compressed, trailer, hheader, hinflate, htrailer⟩
        refine .inl ⟨_, rest, hmember, ?_⟩
        cases rest <;> rfl

/-- A stream has a member. -/
theorem IsStream.ne_nil {d : Dialect} {bytes data : Bytes} (h : IsStream d bytes data) :
    bytes ≠ [] := by
  rintro rfl
  cases h with
  | last hmember | more hmember _ => exact absurd hmember.length_lt (Nat.not_lt_zero _)

theorem after_eq_iff {delivery : Delivery} {front data : Bytes} :
    delivery.after front = ⟨data, none⟩ ↔
      ∃ further, delivery = ⟨further, none⟩ ∧ front ++ further = data := by
  obtain ⟨further, fault⟩ := delivery
  constructor
  · intro h
    cases h
    exact ⟨further, rfl, rfl⟩
  · rintro ⟨_, ⟨rfl, rfl⟩, rfl⟩
    rfl

/-- Unpacking ends without a fault exactly for a stream, if there is a round for every member. -/
theorem unpackMembers_eq_iff {rounds bytes data : Bytes} (hrounds : bytes.length ≤ rounds.length) :
    unpackMembers rounds bytes = ⟨data, none⟩ ↔ IsStream .reader bytes data := by
  induction rounds generalizing bytes data with
  | nil =>
    refine ⟨nofun, fun h ↦ ?_⟩
    exact absurd (List.eq_nil_of_length_eq_zero (Nat.le_zero.mp hrounds)) h.ne_nil
  | cons round rounds ih =>
    rcases unpackMembers_cons round rounds bytes with ⟨data', rest, hmember, hunpack⟩ |
      ⟨hnone, hfault, -⟩
    · have hrest : rest.length ≤ rounds.length :=
        Nat.le_of_lt_succ (Nat.lt_of_lt_of_le hmember.length_lt hrounds)
      rw [hunpack]
      constructor
      · intro h
        split at h
        · next hnil =>
          cases h
          exact .last (hnil ▸ hmember)
        · obtain ⟨further, hfurther, rfl⟩ := after_eq_iff.mp h
          exact .more hmember ((ih hrest).mp hfurther)
      · intro h
        cases h with
        | last hmember' =>
          obtain ⟨rfl, rfl⟩ := hmember.unique hmember'
          rfl
        | more hmember' hstream =>
          obtain ⟨rfl, rfl⟩ := hmember.unique hmember'
          rw [if_neg hstream.ne_nil, (ih hrest).mpr hstream]
          rfl
    · constructor
      · intro h
        rw [h] at hfault
        cases hfault
      · intro h
        cases h with
        | last hmember | more hmember _ => exact absurd hmember (hnone _ _)

/-- What is unpacked is the front of something that can be inflated. -/
theorem exists_delivers_members (rounds bytes : Bytes) :
    ∃ data, Delivers .reader bytes data ∧ (unpackMembers rounds bytes).data <+: data := by
  induction rounds generalizing bytes with
  | nil => exact ⟨[], .nothing, List.prefix_rfl⟩
  | cons round rounds ih =>
    rcases unpackMembers_cons round rounds bytes with ⟨data, rest, hmember, hunpack⟩ |
      ⟨-, -, hdelivers⟩
    · rw [hunpack]
      split
      · exact ⟨_, .more hmember .nothing, List.prefix_append _ _⟩
      · obtain ⟨further, hfurther, hprefix⟩ := ih rest
        exact ⟨_, .more hmember hfurther, List.prefix_append_right_inj data |>.mpr hprefix⟩
    · exact hdelivers

/-- **Unpacking ends without a fault exactly for a stream, and delivers the data of the stream.** -/
theorem unpack_eq_iff {bytes data : Bytes} :
    unpack bytes = ⟨data, none⟩ ↔ IsStream .reader bytes data :=
  unpackMembers_eq_iff (Nat.le_refl _)

/-- **What is unpacked is the front of something that can be inflated.** -/
theorem exists_delivers (bytes : Bytes) :
    ∃ data, Delivers .reader bytes data ∧ (unpack bytes).data <+: data :=
  exists_delivers_members bytes bytes

end TenantView.Gzip
