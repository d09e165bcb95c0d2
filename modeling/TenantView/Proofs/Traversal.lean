import Mathlib.Data.List.Forall2

/-!
# Computations that may fail

What is computed in two stages succeeds if both do (`bind_eq_ok_iff`).  A list is traversed by a
function that may fail.  The traversal goes through if the function does at every element
(`exists_mapM_iff`), and then its results are those of the elements, in their order.  Otherwise it
fails as the first element does that fails (`mapM_eq_error_iff`).
-/

namespace TenantView

/-! ## Stages -/

section Stages

variable {ε α β : Type} {x : Except ε α} {a : α} {b : β}

/-- What is computed in two stages succeeds if both do. -/
theorem bind_eq_ok_iff {f : α → Except ε β} :
    x >>= f = .ok b ↔ ∃ a, x = .ok a ∧ f a = .ok b := by
  cases x with
  | error e => exact ⟨nofun, fun ⟨_, h, _⟩ ↦ nomatch h⟩
  | ok a => exact ⟨fun h ↦ ⟨a, rfl, h⟩, fun ⟨_, rfl, h⟩ ↦ h⟩

theorem bind_eq_ok {f : α → Except ε β} (h : x >>= f = .ok b) : ∃ a, x = .ok a ∧ f a = .ok b :=
  bind_eq_ok_iff.mp h

theorem ok_bind (a : α) (f : α → Except ε β) : (.ok a >>= f) = f a :=
  rfl

theorem map_eq_ok_iff {f : α → β} : x.map f = .ok b ↔ ∃ a, x = .ok a ∧ f a = b := by
  cases x with
  | error e => exact ⟨nofun, fun ⟨_, h, _⟩ ↦ nomatch h⟩
  | ok a => exact ⟨fun h ↦ ⟨a, rfl, Except.ok.inj h⟩, fun ⟨_, rfl, h⟩ ↦ congrArg Except.ok h⟩

theorem map_eq_ok {f : α → β} (h : x.map f = .ok b) : ∃ a, x = .ok a ∧ f a = b :=
  map_eq_ok_iff.mp h

theorem map_eq_ok_congr {x' : Except ε α} (h : ∀ a, x = .ok a ↔ x' = .ok a) (f : α → β) :
    x.map f = .ok b ↔ x'.map f = .ok b := by
  simp only [map_eq_ok_iff, h]

theorem map_eq_error {f : α → β} {e : ε} (h : x.map f = .error e) : x = .error e := by
  cases x with
  | error e' =>
    cases h
    rfl
  | ok a => cases h

theorem mapError_eq_ok {ε' : Type} {f : ε → ε'} {a : α} (h : x.mapError f = .ok a) :
    x = .ok a := by
  cases x with
  | error e => cases h
  | ok b =>
    cases h
    rfl

theorem toOption_eq_some_iff : x.toOption = some a ↔ x = .ok a := by
  cases x <;> simp [Except.toOption]

end Stages

/-! ## Traversals -/

variable {ε α β : Type} {f : α → Except ε β} {xs : List α} {ys : List β}

theorem mapM_cons_of_ok {x : α} {y : β} (h : f x = .ok y) :
    (x :: xs).mapM f = (xs.mapM f).map (y :: ·) := by
  rw [List.mapM_cons, h]
  cases xs.mapM f <;> rfl

theorem mapM_cons_of_error {x : α} {e : ε} (h : f x = .error e) :
    (x :: xs).mapM f = .error e := by
  rw [List.mapM_cons, h]
  rfl

/-- Functions that agree on the elements are traversed alike. -/
theorem mapM_eq_mapM {g : α → Except ε β} (h : ∀ x ∈ xs, f x = g x) : xs.mapM f = xs.mapM g := by
  induction xs with
  | nil => rfl
  | cons x xs ih =>
    obtain ⟨hx, hxs⟩ := List.forall_mem_cons.mp h
    rw [List.mapM_cons, List.mapM_cons, hx, ih hxs]

/-- A traversal ends with an error if the first element that fails does so with this error. -/
theorem mapM_eq_error_iff {e : ε} :
    xs.mapM f = .error e ↔ ∃ before x after, xs = before ++ x :: after ∧
      (∀ z ∈ before, ∃ y, f z = .ok y) ∧ f x = .error e := by
  induction xs with
  | nil =>
    refine iff_of_false nofun ?_
    rintro ⟨before, x, after, hnil, -⟩
    exact List.append_ne_nil_of_right_ne_nil before (List.cons_ne_nil x after) hnil.symm
  | cons x xs ih =>
    cases hx : f x with
    | error e' =>
      rw [mapM_cons_of_error hx]
      constructor
      · rintro ⟨⟩
        exact ⟨[], x, xs, rfl, nofun, hx⟩
      · rintro ⟨_ | ⟨_, before⟩, _, after, ⟨⟩, hbefore, herror⟩
        · cases hx.symm.trans herror
          rfl
        · obtain ⟨y, hy⟩ := hbefore x List.mem_cons_self
          cases hx.symm.trans hy
    | ok y =>
      have htail : (xs.mapM f).map (y :: ·) = .error e ↔ xs.mapM f = .error e := by
        cases xs.mapM f <;> simp [Except.map]
      rw [mapM_cons_of_ok hx, htail, ih]
      constructor
      · rintro ⟨before, z, after, rfl, hbefore, herror⟩
        exact ⟨x :: before, z, after, rfl, List.forall_mem_cons.mpr ⟨⟨y, hx⟩, hbefore⟩, herror⟩
      · rintro ⟨_ | ⟨_, before⟩, z, after, ⟨⟩, hbefore, herror⟩
        · cases hx.symm.trans herror
        · exact ⟨before, z, after, rfl, (List.forall_mem_cons.mp hbefore).2, herror⟩

/-- A traversal goes through with the results of the elements. -/
theorem mapM_eq_ok_iff : xs.mapM f = .ok ys ↔ List.Forall₂ (fun x y ↦ f x = .ok y) xs ys := by
  constructor
  · intro h
    induction xs generalizing ys with
    | nil =>
      cases h
      exact .nil
    | cons x xs ih =>
      cases hx : f x with
      | error e => cases (mapM_cons_of_error hx).symm.trans h
      | ok y =>
        rw [mapM_cons_of_ok hx] at h
        cases htail : xs.mapM f with
        | error e =>
          rw [htail] at h
          cases h
        | ok tail =>
          rw [htail] at h
          cases h
          exact .cons hx (ih htail)
  · intro h
    induction h with
    | nil => rfl
    | cons hx _ ih =>
      rw [mapM_cons_of_ok hx, ih]
      rfl

/-- A traversal goes through if no element fails. -/
theorem exists_mapM_iff : (∃ ys, xs.mapM f = .ok ys) ↔ ∀ x ∈ xs, ∃ y, f x = .ok y := by
  constructor
  · rintro ⟨ys, h⟩
    exact (mapM_eq_ok_iff.mp h).rec nofun
      fun hx _ ih ↦ List.forall_mem_cons.mpr ⟨⟨_, hx⟩, ih⟩
  · intro hall
    cases h : xs.mapM f with
    | ok ys => exact ⟨ys, rfl⟩
    | error e =>
      obtain ⟨before, x, after, rfl, -, hx⟩ := mapM_eq_error_iff.mp h
      obtain ⟨y, hy⟩ := hall x (List.mem_append_right before List.mem_cons_self)
      cases hx.symm.trans hy

theorem mem_iff_of_mapM (h : xs.mapM f = .ok ys) {y : β} : y ∈ ys ↔ ∃ x ∈ xs, f x = .ok y := by
  have hall := mapM_eq_ok_iff.mp h
  clear h
  induction hall with
  | nil => simp
  | cons hx _ ih => simp [List.mem_cons, ih, hx, eq_comm (a := y)]

end TenantView
