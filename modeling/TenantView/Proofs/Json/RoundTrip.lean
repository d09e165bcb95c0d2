import Mathlib.Data.List.Forall2
import TenantView.Json.Parser
import TenantView.Proofs.Json.NumberRoundTrip
import TenantView.Proofs.Json.TextRoundTrip

/-!
# Values read back

The text of a value is read as the value in front of anything that does not go on with a number
(`readTree_emit`), if it is not nested more deeply than is allowed.  A value with no name twice in
one of its mappings is not changed by collapsing names, so that it is read as itself also where
names are collapsed (`readValue_emit`).
-/

namespace TenantView.Json

namespace Value

mutual

/-- How deeply the parts of a value are nested. -/
def depth : Value → Nat
  | array items => depthItems items + 1
  | object members => depthMembers members + 1
  | _ => 0

/-- How deeply the items of a sequence are nested. -/
def depthItems : List Value → Nat
  | [] => 0
  | value :: rest => max value.depth (depthItems rest)

/-- How deeply the members of a mapping are nested. -/
def depthMembers : List (String × Value) → Nat
  | [] => 0
  | (_, value) :: rest => max value.depth (depthMembers rest)

end

mutual

/-- No mapping in the value has a name twice. -/
def Distinct : Value → Prop
  | array items => DistinctItems items
  | object members => (members.map Prod.fst).Nodup ∧ DistinctMembers members
  | _ => True

/-- No mapping in the items has a name twice. -/
def DistinctItems : List Value → Prop
  | [] => True
  | value :: rest => value.Distinct ∧ DistinctItems rest

/-- No mapping in the contents of the members has a name twice. -/
def DistinctMembers : List (String × Value) → Prop
  | [] => True
  | (_, value) :: rest => value.Distinct ∧ DistinctMembers rest

end

theorem depthItems_le_iff {items : List Value} {n : Nat} :
    depthItems items ≤ n ↔ ∀ v ∈ items, v.depth ≤ n := by
  induction items with
  | nil => simp [depthItems]
  | cons v items ih => simp [depthItems, ih]

theorem depthMembers_le_iff {members : List (String × Value)} {n : Nat} :
    depthMembers members ≤ n ↔ ∀ m ∈ members, m.2.depth ≤ n := by
  induction members with
  | nil => simp [depthMembers]
  | cons m members ih =>
    obtain ⟨name, v⟩ := m
    simp [depthMembers, ih]

theorem distinctItems_iff {items : List Value} :
    DistinctItems items ↔ ∀ v ∈ items, v.Distinct := by
  induction items with
  | nil => simp [DistinctItems]
  | cons v items ih => simp [DistinctItems, ih]

theorem distinctMembers_iff {members : List (String × Value)} :
    DistinctMembers members ↔ ∀ m ∈ members, m.2.Distinct := by
  induction members with
  | nil => simp [DistinctMembers]
  | cons m members ih =>
    obtain ⟨name, v⟩ := m
    simp [DistinctMembers, ih]

/-! ## Collapsing -/

/-- A new name is put behind the others. -/
theorem putMember_of_notMem {members : List (String × Value)} {name : String}
    (h : name ∉ members.map Prod.fst) (value : Value) :
    putMember members name value = members ++ [(name, value)] := by
  induction members with
  | nil => rfl
  | cons m members ih =>
    obtain ⟨other, old⟩ := m
    simp only [List.map_cons, List.mem_cons, not_or] at h
    rw [putMember, if_neg (Ne.symm h.1), ih h.2, List.cons_append]

mutual

/-- A value without repeated names is left as it is. -/
theorem collapse_of_distinct : (v : Value) → v.Distinct → v.collapse = v
  | null, _ => rfl
  | boolean _, _ => rfl
  | number _, _ => rfl
  | string _, _ => rfl
  | array items, h => congrArg array (collapseItems_of_distinct items h)
  | object members, h => by
    rw [collapse, collapseMembers_of_distinct members [] h.2 (by simpa using h.1),
      List.nil_append]

theorem collapseItems_of_distinct : (items : List Value) → DistinctItems items →
    collapseItems items = items
  | [], _ => rfl
  | v :: items, h => by
    rw [collapseItems, collapse_of_distinct v h.1, collapseItems_of_distinct items h.2]

theorem collapseMembers_of_distinct : (members kept : List (String × Value)) →
    DistinctMembers members → ((kept ++ members).map Prod.fst).Nodup →
      collapseMembers kept members = kept ++ members
  | [], kept, _, _ => by rw [collapseMembers, List.append_nil]
  | (name, v) :: members, kept, h, hnames => by
    have hnew : name ∉ kept.map Prod.fst := by
      rw [List.map_append, List.nodup_append] at hnames
      exact fun hmem ↦ hnames.2.2 name hmem name (by simp) rfl
    rw [collapseMembers, collapse_of_distinct v h.1, putMember_of_notMem hnew,
      collapseMembers_of_distinct members _ h.2 (by simpa using hnames), List.append_assoc]
    rfl

end

/-- A member put into a mapping takes the place of the one with its name, or goes behind all. -/
theorem names_putMember (members : List (String × Value)) (name : String) (value : Value) :
    (putMember members name value).map Prod.fst =
      if name ∈ members.map Prod.fst then members.map Prod.fst
      else members.map Prod.fst ++ [name] := by
  induction members with
  | nil => simp [putMember]
  | cons m members ih =>
    obtain ⟨other, old⟩ := m
    by_cases hname : other = name
    · simp [putMember, hname]
    · rw [putMember, if_neg hname, List.map_cons, ih]
      split <;> simp_all [Ne.symm hname]

theorem distinct_putMember {members : List (String × Value)} (name : String) {value : Value}
    (h : (object members).Distinct) (hvalue : value.Distinct) :
    (object (putMember members name value)).Distinct := by
  refine ⟨?_, ?_⟩
  · rw [names_putMember]
    split
    · exact h.1
    · next hnew =>
      refine List.nodup_append.mpr ⟨h.1, List.pairwise_singleton _ name, ?_⟩
      intro other hother last hlast heq
      obtain rfl := List.mem_singleton.mp hlast
      exact hnew (heq ▸ hother)
  · have hmembers := h.2
    clear h
    induction members with
    | nil => exact ⟨hvalue, trivial⟩
    | cons m members ih =>
      obtain ⟨other, old⟩ := m
      rw [putMember]
      split
      · exact ⟨hvalue, hmembers.2⟩
      · exact ⟨hmembers.1, ih hmembers.2⟩

mutual

/-- Collapsing leaves one member of each name. -/
theorem distinct_collapse : (v : Value) → v.collapse.Distinct
  | null => trivial
  | boolean _ => trivial
  | number _ => trivial
  | string _ => trivial
  | array items => distinct_collapseItems items
  | object members => distinct_collapseMembers members ⟨List.nodup_nil, trivial⟩

theorem distinct_collapseItems : (items : List Value) → DistinctItems (collapseItems items)
  | [] => trivial
  | v :: items => ⟨distinct_collapse v, distinct_collapseItems items⟩

theorem distinct_collapseMembers : (members : List (String × Value)) →
    {kept : List (String × Value)} → (object kept).Distinct →
      (object (collapseMembers kept members)).Distinct
  | [], _, h => h
  | (name, v) :: members, _, h =>
    distinct_collapseMembers members (distinct_putMember name h (distinct_collapse v))

end

end Value

/-! ## Where a value begins -/

/-- The bytes begin like a value: neither with a blank nor with the end of a sequence. -/
def BeginsValue (bytes : Bytes) : Prop :=
  ∃ b tail, bytes = b :: tail ∧ isBlankByte b = false ∧ b ≠ Ascii.closeBracket

theorem beginsValue_cons {b : UInt8} (tail : Bytes) (hblank : isBlankByte b = false)
    (hclose : b ≠ Ascii.closeBracket) : BeginsValue (b :: tail) :=
  ⟨b, tail, rfl, hblank, hclose⟩

/-- A byte that starts a number is neither a blank nor a bracket, nor does it start anything
else. -/
theorem beginsValue_number {b : UInt8} (h : b = Ascii.minus ∨ Ascii.isDigit b = true)
    (tail : Bytes) : BeginsValue (b :: tail) := by
  refine beginsValue_cons tail ?_ ?_
  · by_contra hblank
    simp only [Bool.not_eq_false, isBlankByte, Bool.or_eq_true, beq_iff_eq] at hblank
    rcases hblank with ((rfl | rfl) | rfl) | rfl <;> exact absurd h (by decide)
  · rintro rfl
    exact absurd h (by decide)

/-- The text of a number begins with the minus sign or with a digit. -/
theorem start_of_bytes (n : Number) :
    ∃ b tail, n.bytes = b :: tail ∧ (b = Ascii.minus ∨ Ascii.isDigit b = true) := by
  have hends : EndsNumber [] := fun b hb ↦ nomatch hb
  have hstart := start_of_readNumber (readNumber_bytes n hends)
  rwa [List.append_nil] at hstart

theorem skipBlanks_of_beginsValue {bytes : Bytes} (h : BeginsValue bytes) :
    skipBlanks bytes = bytes := by
  obtain ⟨b, tail, rfl, hblank, -⟩ := h
  rw [skipBlanks, List.dropWhile_cons_of_neg (by simp [hblank])]

namespace Value

/-- The text of a value begins like a value. -/
theorem beginsValue_emit (v : Value) (rest : Bytes) : BeginsValue (v.emit rest) := by
  cases v with
  | null => exact beginsValue_cons _ rfl (by decide)
  | boolean value => cases value <;> exact beginsValue_cons _ rfl (by decide)
  | number n =>
    obtain ⟨b, tail, heq, hstart⟩ := start_of_bytes n
    rw [emit, heq]
    exact beginsValue_number hstart _
  | string s => exact beginsValue_cons _ rfl (by decide)
  | array items => cases items <;> exact beginsValue_cons _ rfl (by decide)
  | object members =>
    cases members with
    | nil => exact beginsValue_cons _ rfl (by decide)
    | cons m members => exact beginsValue_cons _ rfl (by decide)

end Value

/-! ## Sequences -/

/-- What follows an item or a member does not go on with a number. -/
theorem endsNumber_cons {b : UInt8} (h : b = Ascii.comma ∨ b = Ascii.closeBracket ∨
    b = Ascii.closeBrace) (rest : Bytes) : EndsNumber (b :: rest) := by
  intro c hc
  cases hc
  rcases h with rfl | rfl | rfl <;> decide

/-- Further items end in front of whatever ends their sequence. -/
theorem endsNumber_emitItems (items : List Value) {rest : Bytes} (h : EndsNumber rest) :
    EndsNumber (Value.emitItems items rest) := by
  cases items with
  | nil => exact h
  | cons v items => exact endsNumber_cons (.inl rfl) _

theorem readItemStart_first {bytes : Bytes} (h : BeginsValue bytes) :
    readItemStart true bytes = .done true bytes := by
  have hskip := skipBlanks_of_beginsValue h
  obtain ⟨b, tail, rfl, -, hclose⟩ := h
  unfold readItemStart
  rw [hskip]
  split
  · next heq => cases heq
  · next heq =>
    cases heq
    exact absurd rfl hclose
  · next heq =>
    cases heq
    rfl

theorem readItemStart_comma {bytes : Bytes} (h : BeginsValue bytes) :
    readItemStart false (Ascii.comma :: bytes) = .done true bytes := by
  have hskip := skipBlanks_of_beginsValue h
  obtain ⟨b, tail, rfl, -, hclose⟩ := h
  have hcomma : skipBlanks (Ascii.comma :: b :: tail) = Ascii.comma :: b :: tail := rfl
  rw [readItemStart]
  simp only [hcomma, Bool.false_eq_true, if_false]
  split
  · next heq => cases heq
  · next heq => cases heq
  · next heq =>
    cases heq
    rw [if_pos rfl, hskip]
    split
    · next heq => cases heq
    · next heq =>
      cases heq
      exact absurd rfl hclose
    · rfl

/-- The reader takes the text of the value off the front and yields `x`. -/
def Takes {α : Type} (item : Reader α) (v : Value) (x : α) : Prop :=
  ∀ rest, EndsNumber rest → item (v.emit rest) = .done x rest

/-- One round of reading items takes one item. -/
theorem readItems_step {α : Type} {item : Reader α} {first : Bool} {bytes start rest : Bytes}
    {x : α} (hstart : readItemStart first bytes = .done true start)
    (hitem : item start = .done x rest) (b : UInt8) (rounds : Bytes) (taken : List α) :
    readItems item (b :: rounds) first taken bytes =
      readItems item rounds false (x :: taken) rest := by
  rw [readItems.eq_def]
  simp only [hstart, hitem]

/-- The items behind the first are read from the texts of their values, in order. -/
theorem readItems_emitItems {α : Type} {item : Reader α} {values : List Value} {xs : List α}
    (h : List.Forall₂ (Takes item) values xs) (rounds : Bytes)
    (hrounds : values.length ≤ rounds.length) (taken : List α) (rest : Bytes) :
    readItems item rounds false taken (Value.emitItems values (Ascii.closeBracket :: rest)) =
      .done (taken.reverse ++ xs) (Ascii.closeBracket :: rest) := by
  induction h generalizing rounds taken with
  | nil =>
    rw [readItems.eq_def, List.append_nil]
    rfl
  | @cons v x values xs hv _ ih =>
    obtain ⟨b, rounds, rfl⟩ := List.exists_cons_of_length_pos (l := rounds)
      (Nat.lt_of_lt_of_le (by simp) hrounds)
    have hitem := hv _ (endsNumber_emitItems values (endsNumber_cons (.inr (.inl rfl)) rest))
    rw [Value.emitItems, readItems_step (readItemStart_comma (v.beginsValue_emit _)) hitem,
      ih rounds (by simpa using hrounds)]
    simp

mutual

/-- The text of a value takes at least one byte. -/
theorem lt_length_emit : (v : Value) → (rest : Bytes) → rest.length < (v.emit rest).length
  | .null, rest => by simp [Value.emit]; omega
  | .boolean true, rest => by simp [Value.emit]; omega
  | .boolean false, rest => by simp [Value.emit]; omega
  | .number n, rest => by
    obtain ⟨b, tail, heq, -⟩ := start_of_bytes n
    simp only [Value.emit, heq, List.cons_append, List.length_cons, List.length_append]
    omega
  | .string s, rest => by simp [Value.emit, emitText]; omega
  | .array [], rest => by
    simp only [Value.emit, List.length_cons]
    omega
  | .array (v :: items), rest => by
    have hv := lt_length_emit v (Value.emitItems items (Ascii.closeBracket :: rest))
    have hitems := length_add_le_emitItems items (Ascii.closeBracket :: rest)
    simp only [Value.emit, List.length_cons] at hv hitems ⊢
    omega
  | .object [], rest => by
    simp only [Value.emit, List.length_cons]
    omega
  | .object ((name, v) :: members), rest => by
    have hv := lt_length_emit v (Value.emitMembers members (Ascii.closeBrace :: rest))
    have hmembers := length_add_le_emitMembers members (Ascii.closeBrace :: rest)
    simp only [Value.emit, emitText, List.length_cons, List.length_append] at hv hmembers ⊢
    omega

/-- The text of further items takes at least one byte for each of them. -/
theorem length_add_le_emitItems : (items : List Value) → (rest : Bytes) →
    items.length + rest.length ≤ (Value.emitItems items rest).length
  | [], rest => by simp [Value.emitItems]
  | v :: items, rest => by
    have hv := lt_length_emit v (Value.emitItems items rest)
    have hitems := length_add_le_emitItems items rest
    simp only [Value.emitItems, List.length_cons] at hv hitems ⊢
    omega

/-- The text of further members takes at least one byte for each of them. -/
theorem length_add_le_emitMembers : (members : List (String × Value)) → (rest : Bytes) →
    members.length + rest.length ≤ (Value.emitMembers members rest).length
  | [], rest => by simp [Value.emitMembers]
  | (name, v) :: members, rest => by
    have hv := lt_length_emit v (Value.emitMembers members rest)
    have hmembers := length_add_le_emitMembers members rest
    simp only [Value.emitMembers, emitText, List.length_cons, List.length_append] at hv hmembers ⊢
    omega

end

/-- The inside of a sequence is read from the texts of its items. -/
theorem readItems_emit {α : Type} {item : Reader α} {values : List Value} {xs : List α}
    (h : List.Forall₂ (Takes item) values xs) (rest : Bytes) :
    readItems item ((Value.array values).emit rest).tail true []
      ((Value.array values).emit rest).tail = .done xs (Ascii.closeBracket :: rest) := by
  cases h with
  | nil => rfl
  | @cons v x values xs hv hvalues =>
    have hitem := hv _ (endsNumber_emitItems values (endsNumber_cons (.inr (.inl rfl)) rest))
    have hlength := lt_length_emit v (Value.emitItems values (Ascii.closeBracket :: rest))
    have hitems := length_add_le_emitItems values (Ascii.closeBracket :: rest)
    have hbegins := v.beginsValue_emit (Value.emitItems values (Ascii.closeBracket :: rest))
    rw [Value.emit, List.tail_cons]
    obtain ⟨b, tail, heq, -⟩ := id hbegins
    have hread := readItems_step (readItemStart_first hbegins) hitem b tail []
    rw [← heq] at hread
    refine hread.trans ((readItems_emitItems hvalues tail ?_ [x] rest).trans rfl)
    rw [heq] at hlength
    simp only [List.length_cons] at hlength hitems
    omega

/-- What is read between brackets is read with them. -/
theorem enclosed_sequence {α : Type} {inside : Reader α} {opened rest : Bytes} {x : α}
    (h : inside opened.tail = .done x (Ascii.closeBracket :: rest)) :
    enclosed (some inside) closeSequence opened = .done x rest := by
  rw [enclosed, h]
  rfl

/-! ## Mappings -/

/-- Further members end in front of whatever ends their mapping. -/
theorem endsNumber_emitMembers (members : List (String × Value)) {rest : Bytes}
    (h : EndsNumber rest) : EndsNumber (Value.emitMembers members rest) := by
  cases members with
  | nil => exact h
  | cons m members => exact endsNumber_cons (.inl rfl) _

/-- The text of a member behind the opening quote of its name. -/
def emitMember (m : String × Value) (rest : Bytes) : Bytes :=
  (Text.toBytes m.1).flatMap escapeByte ++ Ascii.quote :: Ascii.colon :: m.2.emit rest

/-- The reader takes members off the front one after the other, and their texts lead from one
state to another. -/
inductive TakesMembers {σ : Type} (member : σ → Reader σ) : σ → List (String × Value) → σ → Prop
  | nil (state : σ) : TakesMembers member state [] state
  | cons {state state' final : σ} {m : String × Value} {members : List (String × Value)}
      (head : ∀ rest, EndsNumber rest → member state (emitMember m rest) = .done state' rest)
      (tail : TakesMembers member state' members final) :
      TakesMembers member state (m :: members) final

/-- One round of reading members takes one member. -/
theorem readMembers_step {σ : Type} {member : σ → Reader σ} {first : Bool}
    {bytes start rest : Bytes} {state state' : σ}
    (hstart : readMemberStart first bytes = .done true start)
    (hmember : member state start = .done state' rest) (b : UInt8) (rounds : Bytes) :
    readMembers member (b :: rounds) first state bytes =
      readMembers member rounds false state' rest := by
  rw [readMembers.eq_def]
  simp only [hstart, hmember]

/-- The members behind the first are read from their texts, in order. -/
theorem readMembers_emitMembers {σ : Type} {member : σ → Reader σ} {state final : σ}
    {members : List (String × Value)} (h : TakesMembers member state members final)
    (rounds : Bytes) (hrounds : members.length ≤ rounds.length) (rest : Bytes) :
    readMembers member rounds false state (Value.emitMembers members (Ascii.closeBrace :: rest)) =
      .done final (Ascii.closeBrace :: rest) := by
  induction h generalizing rounds with
  | nil state =>
    rw [readMembers.eq_def]
    rfl
  | @cons state state' final m members hm _ ih =>
    obtain ⟨b, rounds, rfl⟩ := List.exists_cons_of_length_pos (l := rounds)
      (Nat.lt_of_lt_of_le (by simp) hrounds)
    have hmember := hm _ (endsNumber_emitMembers members (endsNumber_cons (.inr (.inr rfl)) rest))
    refine (readMembers_step rfl hmember b rounds).trans ?_
    exact ih rounds (by simpa using hrounds)

/-- The inside of a mapping is read from the texts of its members. -/
theorem readMembers_emit {σ : Type} {member : σ → Reader σ} {state final : σ}
    {members : List (String × Value)} (h : TakesMembers member state members final)
    (rest : Bytes) :
    readMembers member ((Value.object members).emit rest).tail true state
      ((Value.object members).emit rest).tail = .done final (Ascii.closeBrace :: rest) := by
  cases h with
  | nil =>
    rw [readMembers.eq_def]
    rfl
  | @cons _ state' _ m members hm hmembers =>
    have hmember := hm _ (endsNumber_emitMembers members (endsNumber_cons (.inr (.inr rfl)) rest))
    have hlength : members.length ≤
        (emitMember m (Value.emitMembers members (Ascii.closeBrace :: rest))).length := by
      have hv := lt_length_emit m.2 (Value.emitMembers members (Ascii.closeBrace :: rest))
      have hrest := length_add_le_emitMembers members (Ascii.closeBrace :: rest)
      simp only [emitMember, List.length_append, List.length_cons] at hv hrest ⊢
      omega
    have hstart : readMemberStart true (Ascii.quote ::
        emitMember m (Value.emitMembers members (Ascii.closeBrace :: rest))) =
          .done true (emitMember m (Value.emitMembers members (Ascii.closeBrace :: rest))) := rfl
    exact (readMembers_step hstart hmember Ascii.quote _).trans
      (readMembers_emitMembers hmembers _ hlength rest)

/-- What is read between braces is read with them. -/
theorem enclosed_mapping {α : Type} {inside : Reader α} {opened rest : Bytes} {x : α}
    (h : inside opened.tail = .done x (Ascii.closeBrace :: rest)) :
    enclosed (some inside) closeMapping opened = .done x rest := by
  rw [enclosed, h]
  rfl

/-! ## Values -/

/-- A member of a mapping is read from its text. -/
theorem readMember_emitMember {value : Reader Value} {m : String × Value}
    (h : Takes value m.2 m.2) (members : List (String × Value)) {rest : Bytes}
    (hrest : EndsNumber rest) :
    readMember value members (emitMember m rest) = .done (m :: members) rest := by
  rw [readMember, emitMember, readText_emit, Outcome.andThen_done]
  change (value (m.2.emit rest)).map _ = _
  rw [h rest hrest]
  rfl

/-- The members of a mapping are read from their texts, and gathered in reverse. -/
theorem takesMembers_readMember {value : Reader Value} (members taken : List (String × Value))
    (h : ∀ m ∈ members, Takes value m.2 m.2) :
    TakesMembers (readMember value) taken members (members.reverse ++ taken) := by
  induction members generalizing taken with
  | nil => exact .nil taken
  | cons m members ih =>
    rw [List.reverse_cons, List.append_assoc]
    refine .cons (fun rest hrest ↦ readMember_emitMember (h m List.mem_cons_self) taken hrest) ?_
    exact ih (m :: taken) fun m' hm' ↦ h m' (List.mem_cons_of_mem m hm')

/-- A number is read by the reader of values. -/
theorem readNode_number (inner : Option (Reader Value)) (n : Number) :
    Takes (readNode inner) (.number n) (.number n) := by
  intro rest hrest
  have hread := readNumber_bytes n hrest
  obtain ⟨b, tail, heq, hstart⟩ := start_of_readNumber hread
  rw [Value.emit, readNode, heq, skipBlanks_of_beginsValue (beginsValue_number hstart tail)]
  rw [heq] at hread
  split
  case h_8 h =>
    cases h
    rw [if_pos hstart, hread]
    rfl
  case h_1 h => cases h
  all_goals
    next h =>
      cases h
      exact absurd hstart (by decide)

/-- A value without parts is read, whatever there is to read parts with. -/
theorem readNode_leaf (inner : Option (Reader Value)) {v : Value} (h : v.depth = 0) :
    Takes (readNode inner) v v := by
  cases v with
  | null => exact fun rest _ ↦ rfl
  | boolean value => cases value <;> exact fun rest _ ↦ rfl
  | number n => exact readNode_number inner n
  | string s =>
    intro rest _
    change (readText _).map _ = _
    rw [readText_emit]
    rfl
  | array items => cases h
  | object members => cases h

/-- A sequence is read if its items are. -/
theorem readNode_array {value : Reader Value} {items : List Value}
    (h : ∀ v ∈ items, Takes value v v) :
    Takes (readNode (some value)) (.array items) (.array items) := by
  intro rest _
  have hitems : List.Forall₂ (Takes value) items items := List.forall₂_same.mpr h
  have hnode : readNode (some value) ((Value.array items).emit rest) =
      enclosed (some fun bytes ↦ (readItems value bytes true [] bytes).map Value.array)
        closeSequence ((Value.array items).emit rest) := by
    cases items <;> rfl
  rw [hnode]
  refine enclosed_sequence ?_
  rw [readItems_emit hitems rest]
  rfl

/-- A mapping is read if the contents of its members are. -/
theorem readNode_object {value : Reader Value} {members : List (String × Value)}
    (h : ∀ m ∈ members, Takes value m.2 m.2) :
    Takes (readNode (some value)) (.object members) (.object members) := by
  intro rest _
  have hmembers := takesMembers_readMember members [] h
  have hnode : readNode (some value) ((Value.object members).emit rest) =
      enclosed
        (some fun bytes ↦
          (readMembers (readMember value) bytes true [] bytes).map fun ms ↦ .object ms.reverse)
        closeMapping ((Value.object members).emit rest) := by
    cases members <;> rfl
  rw [hnode]
  refine enclosed_mapping ?_
  rw [readMembers_emit hmembers rest, List.append_nil, Outcome.map_done, List.reverse_reverse]

/-- **A value is read from its text.**  It may be nested as deeply as there are levels. -/
theorem readTree_emit (levels : Nat) (v : Value) (hdepth : v.depth ≤ levels) :
    Takes (readTree levels) v v := by
  induction levels generalizing v with
  | zero => exact readNode_leaf none (Nat.le_zero.mp hdepth)
  | succ levels ih =>
    cases v with
    | array items =>
      have hitems := Value.depthItems_le_iff.mp (Nat.le_of_succ_le_succ hdepth)
      exact readNode_array fun v hv ↦ ih v (hitems v hv)
    | object members =>
      have hmembers := Value.depthMembers_le_iff.mp (Nat.le_of_succ_le_succ hdepth)
      exact readNode_object fun m hm ↦ ih m.2 (hmembers m hm)
    | _ => exact readNode_leaf _ rfl

/-- A value without repeated names is read from its text also where names are collapsed. -/
theorem readValue_emit (levels : Nat) (v : Value) (hdepth : v.depth ≤ levels)
    (hdistinct : v.Distinct) : Takes (readValue levels) v v := by
  intro rest hrest
  rw [readValue, readTree_emit levels v hdepth rest hrest, Outcome.map_done,
    Value.collapse_of_distinct v hdistinct]

end TenantView.Json
