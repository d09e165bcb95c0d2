import TenantView.Proofs.Gzip.Stream

/-!
# Data has streams

Data can be stored in a stream as it is, in every dialect.  A member of such a stream has one block
with no more than its count can tell (`isMember_storedMember`), and data that is longer goes over
several members (`exists_isStream`).  This follows from the format alone, so that the format is not
empty whatever the decoder makes of it.
-/

namespace TenantView.Gzip

/-! ## One block -/

/-- A block, the last one, that stores data as it is. -/
def storedBlock (data : Bytes) : Bytes :=
  1 :: (littleEndian 2 data.length ++ (littleEndian 2 (0xffff - data.length) ++ data))

section Block

variable {d : Dialect} {data : Bytes}

/-- Stored bytes are put out one after the other. -/
theorem steps_stored (isLast : Bool) (data : Bytes) (bits : List Bool) (output : Bytes) :
    Steps d (.stored isLast data.length (bitsOf data ++ bits) output)
      (.stored isLast 0 bits (output ++ data)) := by
  induction data generalizing output with
  | nil =>
    rw [List.append_nil]
    exact .refl
  | cons b data ih =>
    have hrest := ih (output ++ [b])
    rw [List.append_assoc, List.singleton_append] at hrest
    rw [bitsOf_cons, List.append_assoc]
    exact hrest.head .storedByte

/-- A number of two bytes is found in front of others. -/
theorem number_littleEndian {n : Nat} (hn : n < 2 ^ 16) (bytes : Bytes) :
    Number 16 n (bitsOf (littleEndian 2 n ++ bytes)) (bitsOf bytes) := by
  obtain ⟨low, high, hbytes, hnumber⟩ := (eq_littleEndian_append_iff hn).mp rfl
  rw [hbytes]
  exact number_bitsOf_iff.mpr ⟨low, high, bytes, rfl, hnumber, rfl⟩

theorem bitsOf_append (bytes rest : Bytes) : bitsOf (bytes ++ rest) = bitsOf bytes ++ bitsOf rest :=
  List.flatMap_append

theorem wholeBytes_bitsOf (bytes : Bytes) : wholeBytes (bitsOf bytes) = bitsOf bytes := by
  rw [wholeBytes, length_bitsOf, Nat.mul_mod_right, List.drop_zero]

/-- Behind the three bits of the head the first byte has five bits that mean nothing. -/
theorem bitsOf_storedBlock (data rest : Bytes) : ∃ unread,
    bitsOf (storedBlock data ++ rest) = true :: false :: false :: unread ∧
      wholeBytes unread = bitsOf (littleEndian 2 data.length ++
        (littleEndian 2 (0xffff - data.length) ++ (data ++ rest))) := by
  have hone : bitsOfByte 1 = true :: false :: false :: List.replicate 5 false := by decide
  refine ⟨List.replicate 5 false ++ bitsOf (littleEndian 2 data.length ++
    (littleEndian 2 (0xffff - data.length) ++ (data ++ rest))), ?_, ?_⟩
  · simp only [storedBlock, List.cons_append, List.append_assoc, bitsOf_cons, hone]
  · rw [wholeBytes, List.length_append, List.length_replicate, length_bitsOf,
      Nat.add_mul_mod_self_left]
    exact List.drop_left' List.length_replicate

/-- What a block stores is what it inflates to. -/
theorem inflates_storedBlock (hdata : data.length < 2 ^ 16) (rest : Bytes) :
    Inflates d (storedBlock data ++ rest) data rest := by
  obtain ⟨unread, hbits, hwhole⟩ := bitsOf_storedBlock data rest
  have hopen : Step d (.start (bitsOf (storedBlock data ++ rest)) [])
      (.stored true data.length (bitsOf (data ++ rest)) []) := by
    rw [hbits]
    refine .openStored (hwhole ▸ number_littleEndian hdata _) (number_littleEndian ?_ _)
    omega
  have hsteps : Steps d (.stored true data.length (bitsOf (data ++ rest)) [])
      (.stored true 0 (bitsOf rest) data) := by
    rw [bitsOf_append]
    exact steps_stored true data (bitsOf rest) []
  have hclose : Step d (.stored true 0 (bitsOf rest) data) (.finished (bitsOf rest) data) := by
    have hbehind : State.behind true (bitsOf rest) data = .finished (bitsOf rest) data := by
      rw [State.behind, if_pos rfl, wholeBytes_bitsOf]
    exact hbehind ▸ .storedEnd
  exact (hsteps.head hopen).tail hclose

end Block

/-! ## Members and streams -/

/-- A header without fields, of an unknown origin. -/
def plainHeader : Header where
  flags := 0
  unread := [0, 0, 0, 0, 0, 0xff]
  fields := ⟨none, none, none⟩
  sealBytes := []

/-- The trailer for some data. -/
def trailerOf (data : Bytes) : Bytes :=
  littleEndian 4 (checksum data).toNat ++ littleEndian 4 (data.length % 2 ^ 32)

/-- A member that stores data as it is. -/
def storedMember (data : Bytes) : Bytes :=
  plainHeader.bytes ++ (storedBlock data ++ trailerOf data)

theorem plainHeader_wellFormed (d : Dialect) : plainHeader.WellFormed d where
  flags_lt := by decide
  length_unread := rfl
  fields := ⟨rfl, rfl, rfl, nofun, nofun, nofun⟩
  isSeal := rfl

theorem isTrailer_trailerOf (data : Bytes) : IsTrailer data (trailerOf data) :=
  ⟨_, isChecksum_iff.mpr rfl, rfl⟩

/-- A member holds the data that it stores. -/
theorem isMember_storedMember (d : Dialect) {data : Bytes} (hdata : data.length < 2 ^ 16)
    (rest : Bytes) : IsMember d (storedMember data ++ rest) data rest := by
  have hbytes : storedMember data ++ rest =
      plainHeader.bytes ++ (storedBlock data ++ (trailerOf data ++ rest)) := by
    simp only [storedMember, List.append_assoc]
  exact .intro (plainHeader_wellFormed d) hbytes (inflates_storedBlock hdata _)
    (isTrailer_trailerOf data)

theorem isStream_storedMember (d : Dialect) {data : Bytes} (hdata : data.length < 2 ^ 16) :
    IsStream d (storedMember data) data := by
  have hmember := isMember_storedMember d hdata []
  rw [List.append_nil] at hmember
  exact .last hmember

/-- **All data has a stream in every dialect.** -/
theorem exists_isStream (d : Dialect) (data : Bytes) : ∃ bytes, IsStream d bytes data := by
  by_cases hdata : data.length < 2 ^ 16
  · exact ⟨_, isStream_storedMember d hdata⟩
  · have hfront : (data.take 0xffff).length < 2 ^ 16 := by
      rw [List.length_take]
      omega
    obtain ⟨bytes, hrest⟩ := exists_isStream d (data.drop 0xffff)
    refine ⟨storedMember (data.take 0xffff) ++ bytes, ?_⟩
    have hstream := IsStream.more (isMember_storedMember d hfront bytes) hrest
    rwa [List.take_append_drop] at hstream
termination_by data.length
decreasing_by
  rw [List.length_drop]
  omega

end TenantView.Gzip
