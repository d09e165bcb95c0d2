import TenantView.Proofs.Document.RoundTrip
import TenantView.Proofs.Labels.FiniteMap

/-!
# Labels that a document spells

A document spells labels if it is null or a mapping whose contents are all texts; the labels are its
members in their order, and a name may come up more than once.  Reading a label set succeeds on
exactly these documents, and gives the set that is collected from the labels they spell
(`readDocument_labels_eq_ok_iff`).  The text of a label set spells its entries in increasing order
of names (`spelledLabels?_text`), so that it is read back as that set and no other set has it
(`text_injective`).
-/

namespace TenantView

open Json Document

namespace LabelSet

/-! ## Labels as members -/

/-- The members that spell some labels. -/
def members (pairs : List (String × String)) : List (String × Value) :=
  pairs.map fun (name, value) ↦ (name, .string value)

/-- The labels that some members spell: all of their contents have to be texts. -/
def ofMembers? : List (String × Value) → Option (List (String × String))
  | [] => some []
  | (name, .string value) :: rest => (ofMembers? rest).map ((name, value) :: ·)
  | _ :: _ => none

/-- The labels that a value spells, one after the other; null spells none. -/
def ofValue? : Value → Option (List (String × String))
  | .null => some []
  | .object members => ofMembers? members
  | _ => none

/-- The labels that a document spells, one after the other. -/
def spelledLabels? (document : Bytes) : Option (List (String × String)) :=
  match readDocument (readTree nestingLimit) document with
  | .ok v => ofValue? v
  | .error _ => none

theorem ofMembers?_members (pairs : List (String × String)) :
    ofMembers? (members pairs) = some pairs := by
  induction pairs with
  | nil => rfl
  | cons pair pairs ih =>
    change (ofMembers? (members pairs)).map (pair :: ·) = _
    rw [ih, Option.map_some]

theorem eq_members_of_ofMembers? {content : List (String × Value)}
    {pairs : List (String × String)} (h : ofMembers? content = some pairs) :
    content = members pairs := by
  fun_induction ofMembers? content generalizing pairs with
  | case1 =>
    cases h
    rfl
  | case2 name value rest ih =>
    obtain ⟨pairs, hrest, rfl⟩ := Option.map_eq_some_iff.mp h
    rw [ih hrest]
    rfl
  | case3 => cases h

/-- The values that spell some labels. -/
theorem ofValue?_eq_some_iff {v : Value} {pairs : List (String × String)} :
    ofValue? v = some pairs ↔ (v = .null ∧ pairs = []) ∨ v = .object (members pairs) := by
  constructor
  · intro h
    cases v with
    | null =>
      cases h
      exact .inl ⟨rfl, rfl⟩
    | object content => exact .inr (congrArg Value.object (eq_members_of_ofMembers? h))
    | _ => cases h
  · rintro (⟨rfl, rfl⟩ | rfl)
    · rfl
    · exact ofMembers?_members pairs

/-! ## Reading labels -/

/-- Labels are taken one after the other. -/
theorem foldlM_takeLabel (pairs : List (String × String)) (labels : LabelSet) :
    (members pairs).foldlM (Codec.takeLabel .parsed) labels = .ok (labels.insertAll pairs) := by
  induction pairs generalizing labels with
  | nil => rfl
  | cons pair pairs ih => exact ih (labels.insert pair.1 pair.2)

theorem distinctMembers_members (pairs : List (String × String)) :
    Value.DistinctMembers (members pairs) := by
  refine Value.distinctMembers_iff.mpr fun m hm ↦ ?_
  obtain ⟨pair, -, rfl⟩ := List.mem_map.mp hm
  trivial

/-- Nothing is read where a part is refused. -/
theorem refuseNext_ne_done {α : Type} {expected : Expected} {bytes rest : Bytes} {x : α} :
    refuseNext expected bytes ≠ .done x rest := by
  rcases (refuseNext_agrees (α := α) expected bytes .null rest).cases with
    ⟨_, -, hnone⟩ | ⟨fault, left, cause, hfails, -⟩
  · cases hnone
  · rw [hfails]
    exact nofun

/-- A text that is read is the value at the front. -/
theorem readTree_of_readText {levels : Nat} {bytes rest : Bytes} {s : String}
    (h : Codec.text.read levels bytes = .done s rest) :
    readTree levels bytes = .done (.string s) rest := by
  change Codec.readTextAs .text .ok bytes = _ at h
  rw [Codec.readTextAs] at h
  rw [readTree_eq, readNode]
  split at h
  · next heq =>
    obtain ⟨_, behind, htext, hdone⟩ := Outcome.andThen_eq_done h
    cases hdone
    rw [heq]
    simp only [htext, Outcome.map_done]
  · exact absurd h refuseNext_ne_done

theorem readLabel_eq_done {levels : Nat} {labels all : LabelSet} {bytes rest : Bytes}
    (h : Codec.readLabel levels labels bytes = .done all rest) :
    ∃ name value colon content, readText bytes = .done name colon ∧
      readColon colon = .done () content ∧ readTree levels content = .done (.string value) rest ∧
      all = labels.insert name value := by
  obtain ⟨name, colon, hname, h⟩ := Outcome.andThen_eq_done h
  obtain ⟨_, content, hcolon, h⟩ := Outcome.andThen_eq_done h
  obtain ⟨value, hvalue, rfl⟩ := Outcome.map_eq_done h
  exact ⟨name, value, colon, content, hname, hcolon, readTree_of_readText hvalue, rfl⟩

/-- What is read as labels are the members at the front, and all of their contents are texts. -/
theorem membersAt_of_readLabels {levels : Nat} {rounds : Bytes} {first : Bool}
    {labels all : LabelSet} {bytes rest : Bytes}
    (h : readMembers (Codec.readLabel levels) rounds first labels bytes = .done all rest) :
    ∃ pairs, all = labels.insertAll pairs ∧
      MembersAt (readTree levels) first bytes (members pairs) rest := by
  fun_induction readMembers (Codec.readLabel levels) rounds first labels bytes with
  | case2 rounds first labels bytes rest hcloses =>
    cases h
    exact ⟨[], rfl, .stop hcloses⟩
  | case5 first labels bytes start hfollows state next hread b rounds ih =>
    obtain ⟨name, value, colon, content, hname, hcolon, hvalue, rfl⟩ := readLabel_eq_done hread
    obtain ⟨pairs, rfl, hpairs⟩ := ih h
    exact ⟨(name, value) :: pairs, rfl, .member hfollows hname hcolon hvalue hpairs⟩
  | _ => cases h

/-- A mapping is read from the brace in front and the members behind it. -/
theorem readTree_of_membersAt {inner : Nat} {bytes tail rest : Bytes}
    {content : List (String × Value)} (hfront : skipBlanks bytes = Ascii.openBrace :: tail)
    (h : MembersAt (readTree inner) true tail content (Ascii.closeBrace :: rest)) :
    readTree (inner + 1) bytes = .done (.object content) rest := by
  have hrounds := h.length_le length_lt_of_readTree
  have hread : readMembers (readMember (readTree inner)) tail true [] tail =
      .done (content.reverse ++ []) (Ascii.closeBrace :: rest) :=
    readMembers_of_membersAt h (by omega) []
  rw [List.append_nil] at hread
  rw [readTree, readNode, hfront]
  change ((((readMembers (readMember (readTree inner)) tail true [] tail).map
    fun ms ↦ Value.object ms.reverse).closedBy closeMapping).placed) = _
  rw [hread, Outcome.map_done, List.reverse_reverse]
  rfl

/-- A label set that is read is collected from the labels that the value at the front spells. -/
theorem readTree_of_readLabels {levels : Nat} {bytes rest : Bytes} {labels : LabelSet}
    (h : Codec.labels.read levels bytes = .done labels rest) :
    ∃ v pairs, readTree levels bytes = .done v rest ∧ ofValue? v = some pairs ∧
      labels = ofList pairs := by
  obtain ⟨part, hpart, rfl⟩ := Outcome.map_eq_done h
  rw [Codec.nullable] at hpart
  simp only at hpart
  split at hpart
  · next heq =>
    obtain ⟨_, hkeyword, rfl⟩ := Outcome.map_eq_done hpart
    refine ⟨.null, [], ?_, rfl, rfl⟩
    rw [readTree_eq, readNode, heq]
    simp only [hkeyword, Outcome.map_done]
  · obtain ⟨labels, hlabels, rfl⟩ := Outcome.map_eq_done hpart
    rw [Codec.labelMapping] at hlabels
    simp only [skipBlanks_skipBlanks] at hlabels
    split at hlabels
    · next tail heq =>
      obtain ⟨inside, behind, hinner, hinside, hclose⟩ := enclosed_eq_done hlabels
      cases levels with
      | zero => cases hinner
      | succ inner =>
        cases hinner
        obtain ⟨pairs, rfl, hpairs⟩ := membersAt_of_readLabels hinside
        obtain ⟨after, rfl⟩ := hpairs.exists_rest
        cases hclose
        exact ⟨_, pairs, readTree_of_membersAt heq hpairs, ofMembers?_members pairs, rfl⟩
    · exact absurd hlabels refuseNext_ne_done

/-- Where the value at the front spells labels, the set that is collected from them is read. -/
theorem readLabels_of_readTree {levels : Nat} {bytes rest : Bytes} {v : Value}
    {pairs : List (String × String)} (h : readTree levels bytes = .done v rest)
    (hv : ofValue? v = some pairs) :
    Codec.labels.read levels bytes = .done (ofList pairs) rest := by
  rcases ofValue?_eq_some_iff.mp hv with ⟨rfl, rfl⟩ | rfl
  · rcases (Codec.labels_agrees h trivial).cases with ⟨_, hread, hdecode⟩ | ⟨_, _, _, -, hdecode⟩
    · cases hdecode
      exact hread
    · cases hdecode
  · have hfront := valueAt_of_readTree h
    generalize hbytes : skipBlanks bytes = front at hfront
    cases hfront with
    | @object inner tail rest content hmembers =>
      have hagrees := Codec.readMapping_agrees Codec.readLabel_agrees hmembers
        (distinctMembers_members pairs) empty
      rw [foldlM_takeLabel] at hagrees
      rcases hagrees.cases with ⟨_, hread, hdecode⟩ | ⟨_, _, _, -, hdecode⟩
      · cases hdecode
        change Outcome.map _ ((Codec.nullable Codec.labelMapping).read (inner + 1) bytes) = _
        rw [Codec.nullable]
        simp only [hbytes]
        change Outcome.map _ (Outcome.map some ((((readMembers (Codec.readLabel inner) tail true
          empty tail).closedBy closeMapping).placed))) = _
        rw [hread]
        rfl
      · cases hdecode

/-- **Reading a label set succeeds on the documents that spell labels, and collects them.** -/
theorem readDocument_labels_eq_ok_iff {document : Bytes} {labels : LabelSet} :
    readDocument (Codec.labels.read nestingLimit) document = .ok labels ↔
      ∃ pairs, spelledLabels? document = some pairs ∧ labels = ofList pairs := by
  constructor
  · intro h
    obtain ⟨rest, hread, hrest⟩ := readDocument_eq_ok_iff.mp h
    obtain ⟨v, pairs, htree, hv, rfl⟩ := readTree_of_readLabels hread
    have hdocument := readDocument_eq_ok_iff.mpr ⟨rest, htree, hrest⟩
    refine ⟨pairs, ?_, rfl⟩
    rw [spelledLabels?, hdocument]
    exact hv
  · rintro ⟨pairs, hspelled, rfl⟩
    rw [spelledLabels?] at hspelled
    split at hspelled
    · next v hdocument =>
      obtain ⟨rest, htree, hrest⟩ := readDocument_eq_ok_iff.mp hdocument
      exact readDocument_eq_ok_iff.mpr ⟨rest, readLabels_of_readTree htree hspelled, hrest⟩
    · cases hspelled

/-! ## The text of a set -/

/-- The text of a label set. -/
def text (labels : LabelSet) : Bytes :=
  (Codec.labels.encode labels).bytes

/-- The text of a set is the mapping of its entries in their order. -/
theorem readDocument_text (labels : LabelSet) :
    readDocument (readTree nestingLimit) labels.text = .ok (.object (members labels.toList)) := by
  have hdepth : (Codec.labels.encode labels).depth ≤ nestingLimit :=
    (Codec.labels_writesBack 0 labels).depth_le.trans (by decide)
  exact readDocument_eq_ok_iff.mpr
    ⟨[], readTree_emit nestingLimit (Codec.labels.encode labels) hdepth [] nofun, rfl⟩

/-- The text of a set spells its entries in their order. -/
theorem spelledLabels?_text (labels : LabelSet) :
    spelledLabels? labels.text = some labels.toList := by
  rw [spelledLabels?, readDocument_text]
  exact ofMembers?_members labels.toList

/-- **A label set is read back from its text.** -/
theorem readDocument_labels_text (labels : LabelSet) :
    readDocument (Codec.labels.read nestingLimit) labels.text = .ok labels := by
  have hwrites := Codec.labels_writesBack 0 labels
  have hdepth : (Codec.labels.encode labels).depth ≤ nestingLimit :=
    hwrites.depth_le.trans (by decide)
  have htakes := Codec.labels_agrees.takes hdepth hwrites.distinct (hwrites.decode_encode .parsed)
  exact readDocument_eq_ok_iff.mpr ⟨[], htakes [] nofun, rfl⟩

/-- **Sets with the same text are the same.** -/
theorem text_injective : Function.Injective text := fun labels others h ↦ by
  have hread := readDocument_labels_text labels
  rw [h, readDocument_labels_text] at hread
  exact (Except.ok.inj hread).symm

end LabelSet

end TenantView
