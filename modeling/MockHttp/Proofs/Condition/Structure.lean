import MockHttp.Proofs.Condition.Coherence

/-! # Equality inside lists and objects

Lists are equal if their elements are, and objects if they have the same keys and the values under
each are. Inside, however, numbers have to be alike as well: the same integer on both sides, or a
floating-point number on both sides. Alone, `5` and `5.0` are equal; the lists of them are not.
-/

namespace MockHttp

inductive Number.Alike : Number → Number → Prop where
  | int (n : Int) : Alike (.int n) (.int n)
  | float (x y : Binary64) : Alike (.float x) (.float y)

namespace Condition

/-- Equal as the elements of lists and the values of objects have to be. -/
structure EqualInside (a b : Json) : Prop where
  equal : equal.holds a b = true
  alike : ∀ m n, a = .number m → b = .number n → m.Alike n

variable {a b : Json} {m n : Number}

theorem same_number_iff : m.same n = true ↔
    equal.holds (.number m) (.number n) = true ∧ m.Alike n := by
  rw [(comparesAs_units m n).equal]
  cases m with
  | int i =>
    cases n with
    | int j =>
      constructor
      · intro h
        obtain rfl := beq_iff_eq.mp h
        exact ⟨rfl, .int i⟩
      · rintro ⟨-, ⟨_⟩⟩
        exact beq_self_eq_true i
    | float y => exact ⟨nofun, nofun⟩
  | float x =>
    cases n with
    | int j => exact ⟨nofun, nofun⟩
    | float y =>
      constructor
      · intro h
        exact ⟨beq_iff_eq.mp h, .float x y⟩
      · rintro ⟨h, -⟩
        exact beq_iff_eq.mpr h

theorem holds_equal_eq_same (h : ∀ m n, a = .number m → b ≠ .number n) :
    equal.holds a b = a.same b := by
  cases a with
  | number m =>
    cases b with
    | number n => exact (h m n rfl rfl).elim
    | null | bool _ | string _ | array _ | object _ => rfl
  | null | bool _ | string _ | array _ | object _ => cases b <;> rfl

theorem equalInside_iff_same : EqualInside a b ↔ a.same b = true := by
  by_cases hnumbers : ∃ m n, a = .number m ∧ b = .number n
  · obtain ⟨m, n, rfl, rfl⟩ := hnumbers
    rw [Json.same, same_number_iff]
    constructor
    · intro h
      exact ⟨h.equal, h.alike m n rfl rfl⟩
    · rintro ⟨hequal, halike⟩
      refine ⟨hequal, ?_⟩
      rintro _ _ ⟨rfl⟩ ⟨rfl⟩
      exact halike
  · have hnot : ∀ m n, a = .number m → b ≠ .number n := fun m n ha hb =>
      hnumbers ⟨m, n, ha, hb⟩
    rw [← holds_equal_eq_same hnot]
    constructor
    · exact EqualInside.equal
    · intro h
      exact ⟨h, fun m n ha hb => (hnot m n ha hb).elim⟩

theorem holds_equal_array_iff {as bs : List Json} :
    equal.holds (.array as) (.array bs) = true ↔ List.Forall₂ EqualInside as bs := by
  have hinside : EqualInside = fun a b => a.same b = true := by
    ext a b
    exact equalInside_iff_same
  rw [hinside, ← Json.sameItems_iff_forall₂]
  rfl

theorem holds_equal_object_iff {d e : Dict String Json} :
    equal.holds (.ofDict d) (.ofDict e) = true ↔ d.keys = e.keys ∧
      ∀ k v w, d.get? k = some v → e.get? k = some w → EqualInside v w := by
  simp only [equalInside_iff_same]
  rw [← Dict.forall₂_entries_iff, ← Json.sameMembers_iff_forall₂]
  rfl

/-- One level of lists and objects, and what it comes to at every depth: nothing may differ but the
sign of a zero. -/
theorem equal_structures_iff (as bs : List Json) (d e : Dict String Json) (a b : Json) :
    (equal.holds (.array as) (.array bs) = true ↔ List.Forall₂ EqualInside as bs) ∧
    (equal.holds (.ofDict d) (.ofDict e) = true ↔ d.keys = e.keys ∧
      ∀ k v w, d.get? k = some v → e.get? k = some w → EqualInside v w) ∧
    (EqualInside a b ↔ a.unsignZeros = b.unsignZeros) :=
  ⟨holds_equal_array_iff, holds_equal_object_iff, equalInside_iff_same.trans (Json.same_iff a b)⟩

/-- Equal elements in unequal lists. -/
theorem unequal_lists_of_equal_numbers :
    let five : Json := .float (.ofInt 5)
    equal.holds (.int 5) five = true ∧ equal.holds (.array [.int 5]) (.array [five]) = false ∧
      ¬ (equal.holds (.array [.int 5]) (.array [five]) = true ↔
        List.Forall₂ (fun a b => equal.holds a b = true) [.int 5] [five]) := by
  intro five
  have helements : equal.holds (.int 5) five = true := by decide +kernel
  have hlists : equal.holds (.array [.int 5]) (.array [five]) = false := rfl
  refine ⟨helements, hlists, fun h => ?_⟩
  have htrue := h.mpr (.cons helements .nil)
  rw [hlists] at htrue
  cases htrue

end Condition

end MockHttp
