import TenantView.Proofs.Visibility.Absorption
import TenantView.Proofs.Visibility.Exactness

/-!
# What a filter takes away

A group or a rule is lost if it leaves nothing in the filtered listing (`Loses`).  The filter only
ever makes a listing smaller, and its numbers of groups and of rules stay the same exactly if
nothing is lost (`size_filterRules_eq_iff`).  They are then the same for a reason: the groups and
their rules correspond one to one to those of the filtered listing, where each rule stands as it is
or in part (`forall₂_keeps_iff`).  A group without rules is lost although no rule is.

The rules of the filtered listing are what may be seen of all the rules, whatever groups they stand
in (`rules_filterRules`), so that groups and rules can be counted independently of each other.
-/

namespace TenantView

/-- All rules of a listing, in the order of groups and rules. -/
def RuleListing.rules (listing : RuleListing) : List Rule :=
  listing.groups.flatMap RuleGroup.rules

/-- The numbers of groups and of rules in a listing. -/
def RuleListing.size (listing : RuleListing) : ListingSize where
  groups := listing.groups.length
  rules := listing.rules.length

/-- What is picked of a group holds what is picked of its rules, also if that is nothing. -/
theorem RuleGroup.rules_pick? (pick : Rule → Option Rule) (group : RuleGroup) :
    (group.pick? pick).toList.flatMap RuleGroup.rules = group.rules.filterMap pick := by
  rw [pick?]
  split
  · next hnone => rw [hnone, Option.toList_none, List.flatMap_nil]
  · rw [Option.toList_some, List.flatMap_singleton]

/-- Whatever groups they stand in, the rules that are picked are picked from all the rules. -/
theorem RuleListing.rules_pick (pick : Rule → Option Rule) (listing : RuleListing) :
    (listing.pick pick).rules = listing.rules.filterMap pick := by
  rw [rules, RuleListing.pick, rules, List.filterMap_flatMap]
  induction listing.groups with
  | nil => rfl
  | cons group groups ih =>
    rw [List.flatMap_cons, ← group.rules_pick? pick, ← ih]
    cases hpick : group.pick? pick <;> simp [hpick]

/-- If each element of a list gives something to which it is related, the list is related to what
it gives, position by position. -/
theorem forall₂_filterMap {α β : Type} {f : α → Option β} {R : α → β → Prop} {l : List α}
    (h : ∀ x ∈ l, ∃ y, f x = some y ∧ R x y) : List.Forall₂ R l (l.filterMap f) := by
  induction l with
  | nil => exact .nil
  | cons x l ih =>
    obtain ⟨y, hy, hrel⟩ := h x List.mem_cons_self
    rw [List.filterMap_cons_some hy]
    exact .cons hrel (ih fun x hx ↦ h x (List.mem_cons_of_mem _ hx))

namespace Enforcement

variable (e : Enforcement) (inPart : Bool)

/-- Some group or some rule of the listing leaves nothing. -/
def Loses (listing : RuleListing) : Prop :=
  ∃ group ∈ listing.groups,
    e.GroupYields inPart group [] ∨ ∃ rule ∈ group.rules, e.Yields inPart rule []

/-- A group stays with as many rules as it had, each of them as it is or in part. -/
structure Keeps (group shown : RuleGroup) : Prop where
  same_head : shown = { group with rules := shown.rules }
  has_rules : shown.rules ≠ []
  rules : List.Forall₂ (fun rule left ↦ e.Yields inPart rule [left]) group.rules shown.rules

theorem rules_filterRules (listing : RuleListing) :
    (e.filterRules inPart listing).rules = listing.rules.filterMap (e.visibleRule? inPart) := by
  rw [filterRules_eq_pick, RuleListing.rules_pick]

theorem groups_filterRules_le (listing : RuleListing) :
    (e.filterRules inPart listing).size.groups ≤ listing.size.groups := by
  rw [filterRules_eq]
  exact List.length_filterMap_le _ _

theorem rules_filterRules_le (listing : RuleListing) :
    (e.filterRules inPart listing).size.rules ≤ listing.size.rules := by
  simp only [RuleListing.size, rules_filterRules]
  exact List.length_filterMap_le _ _

variable {e inPart}

/-! ## What leaves nothing -/

/-- A rule leaves nothing exactly if nothing may be seen of it. -/
theorem yields_nil_iff {rule : Rule} :
    e.Yields inPart rule [] ↔ e.visibleRule? inPart rule = none := by
  constructor
  · rintro (_ | _ | ⟨hidden, unseen⟩)
    cases rule with
    | recording rule => exact e.visibleRule?_recording inPart hidden
    | alerting rule =>
      rw [e.visibleRule?_alerting inPart hidden]
      rcases unseen with rfl | hnone
      · rfl
      · rw [e.visiblePart?_eq_none_iff.mpr hnone, Option.map_none, ite_self]
  · intro hnone
    simpa [hnone] using e.yields_visibleRule? inPart rule

/-- A group leaves nothing exactly if nothing may be seen of it. -/
theorem groupYields_nil_iff {group : RuleGroup} :
    e.GroupYields inPart group [] ↔ e.visibleGroup? inPart group = none := by
  constructor
  · rintro (_ | ⟨hrules⟩)
    have hnone : group.rules.filterMap (e.visibleRule? inPart) = [] :=
      List.filterMap_eq_nil_iff.mpr fun rule hrule ↦ yields_nil_iff.mp (hrules rule hrule)
    rw [visibleGroup?_eq_pick?, RuleGroup.pick?, if_pos hnone]
  · intro hnone
    simpa [hnone] using e.groupYields_visibleGroup? inPart group

theorem not_loses_iff {listing : RuleListing} :
    ¬ e.Loses inPart listing ↔
      (∀ group ∈ listing.groups, (e.visibleGroup? inPart group).isSome) ∧
        ∀ rule ∈ listing.rules, (e.visibleRule? inPart rule).isSome := by
  simp only [Loses, groupYields_nil_iff, yields_nil_iff, not_exists, not_and, not_or,
    ← Option.isSome_iff_ne_none, RuleListing.rules, List.forall_mem_flatMap]
  exact forall₂_and

/-! ## As many groups and rules as before -/

/-- There are as many groups and rules as before exactly if none is lost. -/
theorem size_filterRules_eq_iff {listing : RuleListing} :
    (e.filterRules inPart listing).size = listing.size ↔ ¬ e.Loses inPart listing := by
  simp only [RuleListing.size, ListingSize.mk.injEq, rules_filterRules, not_loses_iff]
  rw [filterRules_eq]
  exact and_congr List.filterMap_length_eq_length List.filterMap_length_eq_length

instance (listing : RuleListing) : Decidable (e.Loses inPart listing) :=
  decidable_of_iff (¬ (e.filterRules inPart listing).size = listing.size)
    (not_iff_comm.mp size_filterRules_eq_iff.symm)

/-- A group of which all rules may be seen stays with all of them. -/
theorem keeps_of_isSome {group shown : RuleGroup} (h : e.visibleGroup? inPart group = some shown)
    (hrules : ∀ rule ∈ group.rules, (e.visibleRule? inPart rule).isSome) :
    e.Keeps inPart group shown := by
  have hne := (e.of_visibleGroup?_eq_some h).1
  rw [visibleGroup?_eq_pick?, RuleGroup.pick?] at h
  split at h
  · cases h
  · cases h
    refine ⟨rfl, hne, forall₂_filterMap fun rule hrule ↦ ?_⟩
    obtain ⟨left, hleft⟩ := Option.isSome_iff_exists.mp (hrules rule hrule)
    refine ⟨left, hleft, ?_⟩
    simpa [hleft] using e.yields_visibleRule? inPart rule

/-- Groups that correspond one to one and keep their rules have as many rules as before. -/
theorem length_rules_of_keeps {groups shown : List RuleGroup}
    (h : List.Forall₂ (e.Keeps inPart) groups shown) :
    (shown.flatMap RuleGroup.rules).length = (groups.flatMap RuleGroup.rules).length := by
  induction h with
  | nil => rfl
  | cons hkeeps _ ih =>
    rw [List.flatMap_cons, List.flatMap_cons, List.length_append, List.length_append, ih,
      hkeeps.rules.length_eq]

theorem size_eq_of_keeps {listing shown : RuleListing}
    (h : List.Forall₂ (e.Keeps inPart) listing.groups shown.groups) :
    shown.size = listing.size := by
  have hrules : shown.rules.length = listing.rules.length := length_rules_of_keeps h
  rw [RuleListing.size, RuleListing.size, h.length_eq, hrules]

/-- Nothing is lost exactly if the groups and rules of the filtered listing correspond one to one to
those of the listing. -/
theorem forall₂_keeps_iff {listing : RuleListing} :
    List.Forall₂ (e.Keeps inPart) listing.groups (e.filterRules inPart listing).groups ↔
      ¬ e.Loses inPart listing := by
  -- a correspondence leaves the sizes as they are, which rules out a loss wherever it is
  refine ⟨fun h ↦ size_filterRules_eq_iff.mp (size_eq_of_keeps h), fun h ↦ ?_⟩
  obtain ⟨hgroups, hrules⟩ := not_loses_iff.mp h
  rw [filterRules_eq]
  refine forall₂_filterMap fun group hgroup ↦ ?_
  obtain ⟨shown, hshown⟩ := Option.isSome_iff_exists.mp (hgroups group hgroup)
  exact ⟨shown, hshown, keeps_of_isSome hshown fun rule hrule ↦
    hrules rule (List.mem_flatMap_of_mem hgroup hrule)⟩

/-! ## Alerts -/

variable (e)

/-- The number of alerts in the listing that may not be seen. -/
def hiddenCount (listing : AlertListing) : Nat :=
  listing.alerts.countP fun alert ↦ !e.allows alert.labels

/-- Each alert is either hidden or left. -/
theorem hiddenCount_add_length (listing : AlertListing) :
    e.hiddenCount listing + (e.filterAlerts listing).alerts.length = listing.alerts.length := by
  rw [hiddenCount, filterAlerts, visibleAlerts, List.countP_eq_length_filter, Nat.add_comm,
    ← List.length_eq_length_filter_add]

/-- An alert listing is left as it is exactly if none of its alerts is hidden. -/
theorem filterAlerts_eq_self_iff {listing : AlertListing} :
    e.filterAlerts listing = listing ↔ e.hiddenCount listing = 0 := by
  have hsame : e.filterAlerts listing = listing ↔ e.visibleAlerts listing.alerts = listing.alerts :=
    ⟨congrArg AlertListing.alerts, congrArg AlertListing.mk⟩
  rw [hsame, visibleAlerts, List.filter_eq_self, hiddenCount, List.countP_eq_zero]
  simp

end Enforcement

end TenantView
