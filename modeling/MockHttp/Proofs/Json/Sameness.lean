import Mathlib.Data.List.Forall2
import MockHttp.Json.Basic
import MockHttp.Proofs.Numeric.Representation

/-! # Sameness of values

Two values are the same if they are equal up to the signs of the zeros in them, at whatever depth.
An integer and a floating-point number are never the same. Lists are the same element by element,
and objects member by member.
-/

namespace MockHttp

/-! ## Numbers -/

namespace Binary64

variable {x y : Binary64}

/-- The number itself, but zero without a sign. -/
def unsignZero (x : Binary64) : Binary64 := if x.magnitude = 0 then zero false else x

theorem units_eq_zero_iff : x.units = 0 ↔ x.magnitude = 0 := by
  rw [← Int.natAbs_eq_zero, natAbs_units]

theorem negative_iff (hx : x.magnitude ≠ 0) : x.negative = true ↔ x.units < 0 := by
  unfold units
  split
  · next hneg => exact iff_of_true hneg (by omega)
  · next hpos => exact iff_of_false hpos (by omega)

/-- Each value apart from zero has one representation. -/
theorem eq_of_units_eq (h : x.units = y.units) (hx : x.magnitude ≠ 0) : x = y := by
  have hmagnitude : x.magnitude = y.magnitude := by rw [← natAbs_units, h, natAbs_units]
  have hnegative : x.negative = y.negative := by
    rw [Bool.eq_iff_iff, negative_iff hx, h, negative_iff (hmagnitude ▸ hx)]
  exact eq_of_magnitude_eq hnegative hmagnitude

theorem units_unsignZero (x : Binary64) : x.unsignZero.units = x.units := by
  unfold unsignZero
  split
  · next h => exact (units_eq_zero_iff.mpr h).symm
  · rfl

theorem sameValue_iff : x.sameValue y = true ↔ x.unsignZero = y.unsignZero := by
  rw [sameValue, beq_iff_eq]
  constructor
  · intro h
    by_cases hx : x.magnitude = 0
    · have hy : y.magnitude = 0 := units_eq_zero_iff.mp (h ▸ units_eq_zero_iff.mpr hx)
      rw [unsignZero, unsignZero, if_pos hx, if_pos hy]
    · rw [eq_of_units_eq h hx]
  · intro h
    rw [← units_unsignZero x, h, units_unsignZero]

end Binary64

namespace Number

def unsignZero : Number → Number
  | int n => .int n
  | float x => .float x.unsignZero

theorem same_iff {m n : Number} : m.same n = true ↔ m.unsignZero = n.unsignZero := by
  cases m <;> cases n <;> simp [same, unsignZero, Binary64.sameValue_iff]

end Number

namespace Json

/-! ## Values -/

mutual

def unsignZeros : Json → Json
  | number n => .number n.unsignZero
  | array items => .array (unsignItems items)
  | object members => .object (unsignMembers members)
  | v => v
termination_by structural v => v

def unsignItems : List Json → List Json
  | [] => []
  | v :: vs => unsignZeros v :: unsignItems vs
termination_by structural vs => vs

def unsignMembers : List (String × Json) → List (String × Json)
  | [] => []
  | (k, v) :: vs => (k, unsignZeros v) :: unsignMembers vs
termination_by structural vs => vs

end

mutual

theorem same_iff : ∀ a b : Json, a.same b = true ↔ a.unsignZeros = b.unsignZeros
  | null, b | bool _, b | string _, b => by cases b <;> simp [same, unsignZeros]
  | number _, b => by cases b <;> simp [same, unsignZeros, Number.same_iff]
  | array as, b => by cases b <;> simp [same, unsignZeros, sameItems_iff as]
  | object as, b => by cases b <;> simp [same, unsignZeros, sameMembers_iff as]

theorem sameItems_iff : ∀ as bs : List Json,
    sameItems as bs = true ↔ unsignItems as = unsignItems bs
  | [], bs => by cases bs <;> simp [sameItems, unsignItems]
  | a :: as, bs => by cases bs <;> simp [sameItems, unsignItems, same_iff a, sameItems_iff as]

theorem sameMembers_iff : ∀ as bs : List (String × Json),
    sameMembers as bs = true ↔ unsignMembers as = unsignMembers bs
  | [], bs => by cases bs <;> simp [sameMembers, unsignMembers]
  | (_, a) :: as, bs => by
    cases bs <;> simp [sameMembers, unsignMembers, same_iff a, sameMembers_iff as, and_assoc]

end

theorem same_equivalence : Equivalence fun a b : Json => a.same b = true where
  refl a := (same_iff a a).mpr rfl
  symm {a b} h := (same_iff b a).mpr ((same_iff a b).mp h).symm
  trans {a b c} h h' := (same_iff a c).mpr (((same_iff a b).mp h).trans ((same_iff b c).mp h'))

/-! ## Lists and objects -/

theorem sameItems_iff_forall₂ {as bs : List Json} :
    sameItems as bs = true ↔ List.Forall₂ (fun a b => a.same b = true) as bs := by
  induction as generalizing bs with
  | nil => cases bs <;> simp [sameItems]
  | cons a as ih => cases bs <;> simp [sameItems, ih]

theorem sameMembers_iff_forall₂ {as bs : List (String × Json)} :
    sameMembers as bs = true ↔
      List.Forall₂ (fun p q => p.1 = q.1 ∧ p.2.same q.2 = true) as bs := by
  induction as generalizing bs with
  | nil => cases bs <;> simp [sameMembers]
  | cons a as ih => cases bs <;> simp [sameMembers, ih]

end Json

section Members

variable {κ α : Type} [Ord κ] [DecidableEq κ] {R : α → α → Prop} {xs ys : List (κ × α)}

omit [Ord κ] in
theorem Assoc.rel_of_forall₂ (h : List.Forall₂ (fun p q => p.1 = q.1 ∧ R p.2 q.2) xs ys) {k : κ}
    {v w : α} (hv : get? k xs = some v) (hw : get? k ys = some w) : R v w := by
  induction h with
  | nil => cases hv
  | @cons p q _ _ hpq _ ih =>
    obtain ⟨l, v'⟩ := p
    obtain ⟨m, w'⟩ := q
    obtain ⟨rfl, hR⟩ := hpq
    unfold get? at hv hw
    split at hv
    · next hk =>
      cases hv
      rw [if_pos hk] at hw
      cases hw
      exact hR
    · next hk =>
      rw [if_neg hk] at hw
      exact ih hv hw

theorem Assoc.forall₂_of_rel [Std.TransOrd κ] (hx : Ordered xs) (hy : Ordered ys)
    (hkeys : xs.map (·.1) = ys.map (·.1))
    (h : ∀ k v w, get? k xs = some v → get? k ys = some w → R v w) :
    List.Forall₂ (fun p q => p.1 = q.1 ∧ R p.2 q.2) xs ys := by
  have hpairs : List.Forall₂ (fun p q : κ × α => p.1 = q.1) xs ys := by
    rwa [← List.forall₂_eq_eq_eq, List.forall₂_map_left_iff, List.forall₂_map_right_iff] at hkeys
  rw [List.forall₂_iff_zip] at hpairs ⊢
  refine ⟨hpairs.1, fun {p q} hmem => ?_⟩
  obtain ⟨k, v⟩ := p
  obtain ⟨l, w⟩ := q
  obtain rfl : k = l := hpairs.2 hmem
  obtain ⟨hv, hw⟩ := List.of_mem_zip hmem
  exact ⟨rfl, h k v w ((get?_eq_some_iff_mem hx).mpr hv) ((get?_eq_some_iff_mem hy).mpr hw)⟩

theorem Dict.forall₂_entries_iff [Std.TransOrd κ] {d e : Dict κ α} :
    List.Forall₂ (fun p q => p.1 = q.1 ∧ R p.2 q.2) d.entries e.entries ↔
      d.keys = e.keys ∧ ∀ k v w, d.get? k = some v → e.get? k = some w → R v w := by
  constructor
  · intro h
    refine ⟨?_, fun k v w => Assoc.rel_of_forall₂ h⟩
    have hkeys : List.Forall₂ (fun p q : κ × α => p.1 = q.1) d.entries e.entries :=
      h.imp fun _ _ hpq => hpq.1
    rwa [← List.forall₂_map_right_iff, ← List.forall₂_map_left_iff, List.forall₂_eq_eq_eq] at hkeys
  · rintro ⟨hkeys, h⟩
    exact Assoc.forall₂_of_rel d.ordered e.ordered hkeys h

end Members

end MockHttp
