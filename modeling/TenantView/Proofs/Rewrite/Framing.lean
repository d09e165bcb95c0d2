import TenantView.Proofs.Rewrite.Reception

/-!
# The frames of a body do not matter

A body is gathered frame by frame under a budget that shrinks with every block of data.  This comes
to one comparison of all the data with the limit, so that nothing depends on how the data is cut
into frames, on empty frames or on trailing fields (`reply_framing`).  Where the connection fails,
the data in front of the first failure is compared with the limit, and the answer is given up in
any case.  The failure is reported in its own words, unless it is the complaint of the source about
a limit of its own: this is taken for a complaint about the limit here.
-/

namespace TenantView.Rewrite

/-! ## Data and failures -/

/-- All data of a body, one block behind the other. -/
def dataOf (frames : List Frame) : Bytes :=
  frames.flatMap Frame.bytes

/-- No frame is a failure of the connection. -/
def Unbroken (frames : List Frame) : Prop :=
  ∀ frame ∈ frames, frame.failure? = none

/-- The data of frames that do not fail arrives in front of what arrives behind them. -/
theorem arrived_append {frames : List Frame} (h : Unbroken frames) (rest : List Frame) :
    arrived (frames ++ rest) = dataOf frames ++ arrived rest := by
  have hall : ∀ frame ∈ frames, (fun frame : Frame ↦ frame.failure?.isNone) frame = true :=
    fun frame hframe ↦ by simp only [h frame hframe, Option.isNone_none]
  rw [arrived, List.takeWhile_append_of_pos hall, List.flatMap_append]
  rfl

/-- Frames that do not fail leave it to those behind them to fail. -/
theorem breakage?_append {frames : List Frame} (h : Unbroken frames) (rest : List Frame) :
    breakage? (frames ++ rest) = breakage? rest := by
  have hnone : frames.findSome? Frame.failure? = none := List.findSome?_eq_none_iff.mpr h
  rw [breakage?, List.findSome?_append, hnone]
  rfl

/-- Frames that fail somewhere have a first failure. -/
theorem unbroken_or_first_failure (frames : List Frame) :
    Unbroken frames ∨
      ∃ before breakage after, frames = before ++ .failure breakage :: after ∧ Unbroken before := by
  induction frames with
  | nil => exact .inl fun frame hframe ↦ nomatch hframe
  | cons frame frames ih =>
    cases hfailure : frame.failure? with
    | some breakage =>
      cases frame with
      | failure breakage =>
        exact .inr ⟨[], breakage, frames, rfl, fun frame hframe ↦ nomatch hframe⟩
      | data | trailers => cases hfailure
    | none =>
      rcases ih with hrest | ⟨before, breakage, after, rfl, hbefore⟩
      · exact .inl (List.forall_mem_cons.mpr ⟨hfailure, hrest⟩)
      · exact .inr ⟨frame :: before, breakage, after, rfl,
          List.forall_mem_cons.mpr ⟨hfailure, hbefore⟩⟩

/-! ## Gathering -/

/-- Data without failures is gathered exactly if all of it together is within the limit. -/
theorem readBody_of_unbroken (limit : Nat) {frames : List Frame} (h : Unbroken frames) :
    readBody limit frames =
      if (dataOf frames).length ≤ limit then .ok (dataOf frames)
      else .error (.body (.tooLong limit)) := by
  have harrived := arrived_append h []
  have hbreakage := breakage?_append h []
  rw [List.append_nil] at harrived hbreakage
  have hall : arrived frames = dataOf frames := harrived.trans (List.append_nil _)
  rw [readBody_eq, hall, hbreakage]
  by_cases hlong : limit < (dataOf frames).length
  · rw [if_pos hlong, if_neg (Nat.not_le.mpr hlong)]
  · rw [if_neg hlong, if_pos (Nat.not_lt.mp hlong)]
    rfl

theorem readBody_eq_ok_iff {limit : Nat} {frames : List Frame} (h : Unbroken frames)
    (body : Bytes) :
    readBody limit frames = .ok body ↔ (dataOf frames).length ≤ limit ∧ body = dataOf frames := by
  rw [readBody_of_unbroken limit h]
  split
  · next hfits =>
    exact ⟨fun heq ↦ ⟨hfits, (Except.ok.inj heq).symm⟩, fun heq ↦ congrArg Except.ok heq.2.symm⟩
  · next hlong => exact ⟨nofun, fun heq ↦ absurd heq.1 hlong⟩

/-- Why a body is given up whose connection fails behind some data. -/
def brokenBehind (limit : Nat) (data : Bytes) (breakage : Breakage) : BodyError :=
  if limit < data.length then .tooLong limit else breakage.report limit

/-- A failure is reported in its own words exactly if it is none of a limit of the source. -/
theorem Breakage.report_eq_broken_iff {limit : Nat} {breakage : Breakage} :
    breakage.report limit = .broken breakage.text ↔ breakage ≠ .overrun := by
  cases breakage <;> simp [report, text]

/-- Data in front of a failure is not gathered: it is too long, or the failure is met. -/
theorem readBody_of_broken (limit : Nat) {before : List Frame} (h : Unbroken before)
    (breakage : Breakage) (after : List Frame) :
    readBody limit (before ++ .failure breakage :: after) =
      .error (.body (brokenBehind limit (dataOf before) breakage)) := by
  have harrived : arrived (before ++ .failure breakage :: after) = dataOf before :=
    (arrived_append h _).trans (List.append_nil _)
  have hbreakage : breakage? (before ++ .failure breakage :: after) = some breakage :=
    breakage?_append h _
  rw [readBody_eq, harrived, hbreakage, brokenBehind]
  split <;> rfl

/-! ## Answers -/

/-- What a hook makes of an answer depends on the frames only through what is gathered. -/
theorem reply_congr_body (hook : Hook) (request : Request) {response : Response}
    (hok : response.status = okStatus) {frames frames' : List Frame}
    (h : readBody hook.limit frames = readBody hook.limit frames') :
    hook.reply request { response with body := frames } =
      hook.reply request { response with body := frames' } := by
  have hprepare : hook.prepare request { response with body := frames } =
      hook.prepare request { response with body := frames' } := by
    rw [Hook.prepare, Hook.prepare, h]
  have hrewrite : hook.rewrite request { response with body := frames } =
      hook.rewrite request { response with body := frames' } := by
    rw [Hook.rewrite, Hook.rewrite, hprepare]
  rw [Hook.reply, Hook.reply, if_neg (not_not.mpr hok), if_neg (not_not.mpr hok), hrewrite]

/-- The answer is given up with an error, and nothing of it is rewritten. -/
def GivenUp (reply : Reply) (error : Error) : Prop :=
  reply.outcome = some .failed ∧ reply.result = .error (.givenUp error)

/-- A body that cannot be read is reported. -/
theorem givenUp_of_unread {hook : Hook} {request : Request} {response : Response} {error : Error}
    (hok : response.status = okStatus) (h : readBody hook.limit response.body = .error error) :
    GivenUp (hook.reply request response) error := by
  have hresult : (hook.reply request response).result = .error (.givenUp error) :=
    reply_of_stopped hok (prepare_of_unread h)
  exact ⟨outcome_eq_failed_iff.mpr ⟨error, hresult⟩, hresult⟩

/-- Without failures the call is aborted exactly for packed data that has been read under a limit
with no number above it. -/
theorem result_eq_overflow_iff_of_unbroken {hook : Hook} {request : Request} {response : Response}
    (hok : response.status = okStatus) {frames : List Frame} (h : Unbroken frames) :
    (hook.reply request { response with body := frames }).result = .error .overflow ↔
      (dataOf frames).length ≤ hook.limit ∧ UInt64.size ≤ hook.limit + 1 ∧
        ∃ name, encodingName response.headers = .ok name ∧
          ContentEncoding.ofName name = .ok .gzip := by
  rw [reply_eq_overflow_iff, and_iff_right hok, prepare_eq_overflow_iff]
  simp only [readBody_eq_ok_iff h, openBody_eq_overflow_iff]
  constructor
  · rintro ⟨_, name, ⟨hfits, -⟩, hname, hencoding, hlimit⟩
    exact ⟨hfits, hlimit, name, hname, hencoding⟩
  · rintro ⟨hfits, hlimit, name, hname, hencoding⟩
    exact ⟨_, name, ⟨hfits, rfl⟩, hname, hencoding, hlimit⟩

/-- **What becomes of an answer depends on the data of its body, and not on the frames it comes
in.**  The data is read exactly if all of it is within the limit; the call is aborted then exactly
if the data is packed and there is no number above the limit.  If the connection fails, the data in
front of the first failure is reported for its length, or else the failure is: in its own words
exactly if it is not the complaint of the source about a limit, which is reported as if the limit
here had been exceeded. -/
theorem reply_framing (hook : Hook) (request : Request) (response : Response)
    (hok : response.status = okStatus) :
    (∀ frames frames', Unbroken frames → Unbroken frames' → dataOf frames = dataOf frames' →
      hook.reply request { response with body := frames } =
        hook.reply request { response with body := frames' }) ∧
    (∀ frames, Unbroken frames →
      (∀ body, readBody hook.limit frames = .ok body ↔
        (dataOf frames).length ≤ hook.limit ∧ body = dataOf frames) ∧
      (hook.limit < (dataOf frames).length →
        GivenUp (hook.reply request { response with body := frames })
          (.body (.tooLong hook.limit))) ∧
      ((hook.reply request { response with body := frames }).result = .error .overflow ↔
        (dataOf frames).length ≤ hook.limit ∧ UInt64.size ≤ hook.limit + 1 ∧
          ∃ name, encodingName response.headers = .ok name ∧
            ContentEncoding.ofName name = .ok .gzip)) ∧
    (∀ before breakage after, Unbroken before →
      GivenUp (hook.reply request { response with body := before ++ .failure breakage :: after })
        (.body (brokenBehind hook.limit (dataOf before) breakage))) ∧
    ((∀ breakage : Breakage,
        breakage.report hook.limit = .broken breakage.text ↔ breakage ≠ .overrun) ∧
      Breakage.overrun.report hook.limit = .tooLong hook.limit) ∧
    (∀ frames, Unbroken frames ∨
      ∃ before breakage after,
        frames = before ++ .failure breakage :: after ∧ Unbroken before) := by
  refine ⟨fun frames frames' hframes hframes' hdata ↦ ?_, fun frames hframes ↦
    ⟨readBody_eq_ok_iff hframes, fun hlong ↦ ?_, result_eq_overflow_iff_of_unbroken hok hframes⟩,
    fun before breakage after hbefore ↦
      givenUp_of_unread hok (readBody_of_broken hook.limit hbefore breakage after),
    ⟨fun _ ↦ Breakage.report_eq_broken_iff, rfl⟩, unbroken_or_first_failure⟩
  · refine reply_congr_body hook request hok ?_
    rw [readBody_of_unbroken _ hframes, readBody_of_unbroken _ hframes', hdata]
  · have hread := readBody_of_unbroken hook.limit hframes
    rw [if_neg (Nat.not_le.mpr hlong)] at hread
    exact givenUp_of_unread hok hread

/-- A listing in two blocks, with an empty block and trailing fields between them. -/
def piecesOf (listing : RuleListing) : List Frame :=
  let bytes := packedEnvelope (.success (Document.Codec.ruleListing.encode listing))
    (Document.Codec.ruleListing.encode listing)
  [.data (bytes.take 20), .data [], .trailers .empty, .data (bytes.drop 20)]

/-- The plain answer with the listing in pieces, and further frames behind them. -/
def answerInPieces (listing : RuleListing) (behind : List Frame) : Response where
  status := okStatus
  version := "HTTP/1.1"
  headers := .empty
  body := piecesOf listing ++ behind

theorem unbroken_piecesOf (listing : RuleListing) : Unbroken (piecesOf listing) := by
  simp [Unbroken, piecesOf, Frame.failure?]

theorem dataOf_piecesOf (listing : RuleListing) :
    dataOf (piecesOf listing) = dataOf (listingAnswer listing).body := by
  simp [dataOf, piecesOf, listingAnswer, plainAnswer, Frame.bytes]

theorem length_dataOf_piecesOf (listing : RuleListing) :
    (dataOf (piecesOf listing)).length = lengthOf listing := by
  rw [dataOf_piecesOf]
  exact congrArg List.length (List.append_nil _)

/-- The listing in pieces is rewritten under the limit that it meets, as it is in one piece; with a
failure behind it the failure is reported, and under a limit that is too small the length is.  A
source that exceeds a limit of its own is reported as if the limit here were exceeded. -/
theorem reply_framing_pieces :
    (∃ out, ((Hook.ofListings partialSettings (lengthOf sharedByBoth) .rules).reply requestOfA
      (answerInPieces sharedByBoth [])).result = .ok out) ∧
    GivenUp ((Hook.ofListings partialSettings (lengthOf sharedByBoth) .rules).reply requestOfA
      (answerInPieces sharedByBoth [.failure (.other "reset")])) (.body (.broken "reset")) ∧
    GivenUp ((Hook.ofListings partialSettings 20 .rules).reply requestOfA
      (answerInPieces sharedByBoth [.failure (.other "reset")])) (.body (.tooLong 20)) ∧
    GivenUp ((Hook.ofListings partialSettings 100 .rules).reply requestOfA
      { listingAnswer sharedByBoth with body := [] ++ [.failure .overrun] })
      (.body (.tooLong 100)) := by
  have hwhole : Unbroken (listingAnswer sharedByBoth).body := by
    simp [Unbroken, listingAnswer, plainAnswer, Frame.failure?]
  have hpieces := unbroken_piecesOf sharedByBoth
  have hdata := dataOf_piecesOf sharedByBoth
  have hlength := length_dataOf_piecesOf sharedByBoth
  have hlong : 20 < lengthOf sharedByBoth := by decide +kernel
  have hmet : brokenBehind (lengthOf sharedByBoth) (dataOf (piecesOf sharedByBoth))
      (.other "reset") = .broken "reset" := if_neg (hlength ▸ Nat.lt_irrefl _)
  have hexceeded : brokenBehind 20 (dataOf (piecesOf sharedByBoth)) (.other "reset") =
      .tooLong 20 := if_pos (hlength ▸ hlong)
  obtain ⟨out, hout⟩ := reply_listingAnswer sharedByBoth le_rfl
  refine ⟨⟨out, ?_⟩, hmet ▸ ?_, hexceeded ▸ ?_, ?_⟩
  · have hsame := (reply_framing (.ofListings partialSettings (lengthOf sharedByBoth) .rules)
      requestOfA (listingAnswer sharedByBoth) rfl).1 _ _ hpieces hwhole hdata
    exact (congrArg Reply.result hsame).trans hout
  · exact (reply_framing (.ofListings partialSettings (lengthOf sharedByBoth) .rules) requestOfA
      (listingAnswer sharedByBoth) rfl).2.2.1 _ (.other "reset") [] hpieces
  · exact (reply_framing (.ofListings partialSettings 20 .rules) requestOfA
      (listingAnswer sharedByBoth) rfl).2.2.1 _ (.other "reset") [] hpieces
  · exact (reply_framing (.ofListings partialSettings 100 .rules) requestOfA
      (listingAnswer sharedByBoth) rfl).2.2.1 [] .overrun [] fun frame hframe ↦ nomatch hframe

end TenantView.Rewrite
