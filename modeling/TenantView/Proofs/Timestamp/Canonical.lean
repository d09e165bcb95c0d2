import TenantView.Document.Codec
import TenantView.Proofs.Timestamp.RoundTrip

/-!
# The canonical text of a timestamp

However a timestamp is written in a document that is read, it is written in one way only in the
document that is sent on.  The text there keeps the instant and the offset, says `Z` if and only if
the offset is zero, and has the fewest digits of a fraction (`timestamp_canonical`).
-/

namespace TenantView.Timestamp

open Document (Codec)

/-- Digits behind the point come in none, three, six or nine, the fewest of these that stand for
their nanoseconds. -/
def HasFewestDigits (fraction : List Nat) : Prop :=
  fraction.length ∈ [0, 3, 6, 9] ∧
    ∀ ds : List Nat, ds.length ∈ [0, 3, 6, 9] → nanoseconds ds = nanoseconds fraction →
      fraction.length ≤ ds.length

theorem length_fractionDigits {n : Nat} (h : n < 1000000000) :
    (fractionDigits n).length =
      if n = 0 then 0 else if n % 1000000 = 0 then 3 else if n % 1000 = 0 then 6 else 9 := by
  have hthree : Decimal.scale 3 = 1000 := rfl
  have hsix : Decimal.scale 6 = 1000000 := rfl
  rw [fractionDigits]
  split_ifs
  · rfl
  · exact length_paddedDigits (by decide) (by omega)
  · exact length_paddedDigits (by decide) (by omega)
  · exact length_paddedDigits (by decide) h

/-- The fraction is printed with the fewest digits. -/
theorem hasFewestDigits_fractionDigits {n : Nat} (h : n < 1000000000) :
    HasFewestDigits (fractionDigits n) := by
  have hlength := length_fractionDigits h
  refine ⟨?_, fun ds hds hvalue ↦ ?_⟩
  · rw [hlength]
    split_ifs <;> decide
  · simp only [List.mem_cons, List.not_mem_nil, or_false] at hds
    have hdvd : Decimal.scale (9 - ds.length) ∣ n := by
      rw [← nanoseconds_fractionDigits h, ← hvalue, nanoseconds_of_length_le (by omega)]
      exact Nat.dvd_mul_left _ _
    rw [hlength]
    rcases hds with hzero | hthree | hsix | hnine
    · obtain rfl := List.eq_nil_of_length_eq_zero hzero
      rw [nanoseconds_fractionDigits h] at hvalue
      have hn : n = 0 := hvalue.symm
      rw [if_pos hn]
      exact Nat.zero_le _
    · rw [hthree] at hdvd
      have hmillis : n % 1000000 = 0 := Nat.mod_eq_zero_of_dvd hdvd
      split_ifs <;> omega
    · rw [hsix] at hdvd
      have hmicros : n % 1000 = 0 := Nat.mod_eq_zero_of_dvd hdvd
      split_ifs <;> omega
    · split_ifs <;> omega

/-- An offset ends in the letter of universal time if and only if it is zero. -/
theorem getLast?_printOffset (minutes : Int) :
    (printOffset minutes).getLast? = some 'Z' ↔ minutes = 0 := by
  rw [printOffset]
  split
  · next hzero => exact iff_of_true rfl hzero
  · next hzero =>
    refine iff_of_false (fun hlast ↦ ?_) hzero
    rw [padded_two (by omega : minutes.natAbs % 60 < 100), ← List.cons_append,
      List.getLast?_append_of_ne_nil _ (List.cons_ne_nil _ _)] at hlast
    have hletter : digitChar (minutes.natAbs % 60 % 10) = 'Z' := Option.some.inj hlast
    have hdigit := (digitChar_spec (by omega : minutes.natAbs % 60 % 10 < 10)).1
    rw [hletter] at hdigit
    exact absurd hdigit (by decide)

/-- A text ends in the letter of universal time if and only if its offset is zero. -/
theorem getLast?_print (t : Timestamp) : t.print.getLast? = some 'Z' ↔ t.offsetMinutes = 0 := by
  have hne : printOffset t.offsetMinutes ≠ [] := by
    rw [printOffset]
    split <;> exact List.cons_ne_nil _ _
  rw [print, List.getLast?_append_of_ne_nil _ hne, getLast?_printOffset]

/-- What a text says of a time is kept in another text, which is written in the canonical way. -/
structure IsCanonicalFor (out s : String) : Prop where
  exists_given : ∃ given : Reading, given.Spells s
  exists_written : ∃ written : Reading, written.Spells out ∧ HasFewestDigits written.fraction
  same : ∀ given written : Reading, given.Spells s → written.Spells out →
    written.instant = given.instant ∧ written.offsetMinutes = given.offsetMinutes
  zulu_iff : ∀ written : Reading, written.Spells out →
    (out.toList.getLast? = some 'Z' ↔ written.offsetMinutes = 0)

/-- The instant of a text is that of the timestamp that is read from it. -/
theorem instant_of_spells {s : String} {t : Timestamp} {r : Reading} (h : parse s = .ok t)
    (hspells : r.Spells s) : r.instant = t.instant :=
  congrArg Fields.instant (fields_eq_of_spells h hspells)

theorem isCanonicalFor_text {s : String} {t : Timestamp} (h : parse s = .ok t) :
    IsCanonicalFor t.text s where
  exists_given := by
    obtain ⟨given, hgiven, -⟩ := parse_eq_ok_iff.mp h
    exact ⟨given, hgiven⟩
  exists_written :=
    ⟨t.reading, t.spells_text, hasFewestDigits_fractionDigits t.timeExists.2.2.2⟩
  same given written hgiven hwritten := by
    have hfields : written.fields = given.fields :=
      (fields_eq_of_spells t.parse_text hwritten).trans (fields_eq_of_spells h hgiven).symm
    exact ⟨(instant_of_spells t.parse_text hwritten).trans (instant_of_spells h hgiven).symm,
      congrArg Fields.offsetMinutes hfields⟩
  zulu_iff written hwritten := by
    have hoffset : written.offsetMinutes = t.offsetMinutes :=
      congrArg Fields.offsetMinutes (fields_eq_of_spells t.parse_text hwritten)
    rw [text, String.toList_ofList, getLast?_print, hoffset]

theorem decode_timestamp_eq_ok_iff {source : Document.Source} {s : String} {t : Timestamp} :
    Codec.timestamp.decode source (.string s) = .ok t ↔ parse s = .ok t := by
  change Codec.parseTimestamp s = .ok t ↔ parse s = .ok t
  rw [Codec.parseTimestamp]
  cases parse s <;> simp

/-- **Whatever text a timestamp is decoded from, the text that is written for it is canonical for
that one**, and is decoded as the same timestamp and written again as it is. -/
theorem timestamp_canonical {source : Document.Source} {s : String} {t : Timestamp}
    (h : Codec.timestamp.decode source (.string s) = .ok t) :
    ∃ out, Codec.timestamp.encode t = .string out ∧ IsCanonicalFor out s ∧
      Codec.timestamp.decode source (.string out) = .ok t ∧
      ∀ again, Codec.timestamp.decode source (.string out) = .ok again →
        Codec.timestamp.encode again = .string out := by
  have hback : Codec.timestamp.decode source (.string t.text) = .ok t :=
    decode_timestamp_eq_ok_iff.mpr t.parse_text
  refine ⟨t.text, rfl, isCanonicalFor_text (decode_timestamp_eq_ok_iff.mp h), hback,
    fun again hagain ↦ ?_⟩
  rw [Except.ok.inj (hagain.symm.trans hback)]
  rfl

/-- The leap second at the end of a year, at a place behind universal time: with a signed year,
blanks, ten digits of a fraction and the minus sign, and no colon in the offset. -/
theorem timestamp_canonical_leapSecond :
    ∃ t, Codec.timestamp.decode .parsed
        (.string "+2016-12 -31t 18:29:60.1239999999 \u22120530") = .ok t ∧
      Codec.timestamp.encode t = .string "2016-12-31T18:29:60.123999999-05:30" ∧
      IsCanonicalFor "2016-12-31T18:29:60.123999999-05:30"
        "+2016-12 -31t 18:29:60.1239999999 \u22120530" := by
  have htext : (Codec.timestamp.decode .parsed
      (.string "+2016-12 -31t 18:29:60.1239999999 \u22120530")).toOption.map text =
        some "2016-12-31T18:29:60.123999999-05:30" := by
    decide +kernel
  obtain ⟨t, hoption, ht⟩ := Option.map_eq_some_iff.mp htext
  have hdecode := toOption_eq_some_iff.mp hoption
  obtain ⟨out, hencode, hcanonical, -⟩ := timestamp_canonical hdecode
  have hout : .string t.text = Json.Value.string out := hencode
  rw [ht] at hout
  cases hout
  exact ⟨t, hdecode, hencode, hcanonical⟩

end TenantView.Timestamp
