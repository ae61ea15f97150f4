/-! # Finite maps in key order

A map is a list of pairs in strictly ascending order of their keys, so that two maps with the
same look-ups are equal (`Dict.ext_get?`) and listing a map needs no sorting.
-/

namespace MockHttp

open Std

namespace Assoc

variable {κ α : Type}

def get? [DecidableEq κ] (k : κ) : List (κ × α) → Option α
  | [] => none
  | (l, v) :: rest => if k = l then some v else get? k rest

def insert [Ord κ] (k : κ) (v : α) : List (κ × α) → List (κ × α)
  | [] => [(k, v)]
  | (l, w) :: rest =>
    match compare k l with
    | .lt => (k, v) :: (l, w) :: rest
    | .eq => (k, v) :: rest
    | .gt => (l, w) :: insert k v rest

def Ordered [Ord κ] (entries : List (κ × α)) : Prop :=
  entries.Pairwise fun a b => compare a.1 b.1 = .lt

/-- Later pairs replace earlier pairs of the same key. -/
def ofList [Ord κ] (pairs : List (κ × α)) : List (κ × α) :=
  pairs.foldl (fun entries p => insert p.1 p.2 entries) []

variable [Ord κ] [TransOrd κ] [LawfulEqOrd κ]

omit [TransOrd κ] in
theorem fst_mem_insert {k : κ} {v : α} {entries : List (κ × α)} {p : κ × α}
    (h : p ∈ insert k v entries) : p.1 = k ∨ p ∈ entries := by
  induction entries with
  | nil => simp_all [insert]
  | cons e rest ih =>
    obtain ⟨l, w⟩ := e
    simp only [insert] at h
    split at h <;> simp only [List.mem_cons] at h ⊢
    · rcases h with rfl | h | h <;> simp_all
    · rcases h with rfl | h <;> simp_all
    · rcases h with h | h
      · exact .inr (.inl h)
      · rcases ih h with h | h
        · exact .inl h
        · exact .inr (.inr h)

theorem ordered_insert (k : κ) (v : α) {entries : List (κ × α)} (h : Ordered entries) :
    Ordered (insert k v entries) := by
  induction entries with
  | nil => simp [insert, Ordered]
  | cons e rest ih =>
    obtain ⟨l, w⟩ := e
    obtain ⟨hl, hrest⟩ := List.pairwise_cons.1 h
    simp only [insert]
    split <;> rename_i hc
    · refine List.pairwise_cons.2 ⟨fun p hp => ?_, h⟩
      rcases List.mem_cons.1 hp with rfl | hp
      · exact hc
      · exact TransCmp.lt_trans hc (hl p hp)
    · obtain rfl := LawfulEqCmp.eq_of_compare hc
      exact List.pairwise_cons.2 ⟨hl, hrest⟩
    · refine List.pairwise_cons.2 ⟨fun p hp => ?_, ih hrest⟩
      rcases fst_mem_insert hp with hp | hp
      · simpa [hp] using OrientedCmp.lt_of_gt hc
      · exact hl p hp

theorem ordered_ofList (pairs : List (κ × α)) : Ordered (ofList pairs) := by
  suffices ∀ entries : List (κ × α), Ordered entries →
      Ordered (pairs.foldl (fun entries p => insert p.1 p.2 entries) entries) from
    this [] List.Pairwise.nil
  induction pairs with
  | nil => exact fun _ h => h
  | cons p rest ih => exact fun _ h => ih _ (ordered_insert p.1 p.2 h)

variable [DecidableEq κ]

omit [TransOrd κ] in
theorem get?_insert (k l : κ) (v : α) (entries : List (κ × α)) :
    get? l (insert k v entries) = if l = k then some v else get? l entries := by
  induction entries with
  | nil => simp [insert, get?]
  | cons e rest ih =>
    obtain ⟨m, w⟩ := e
    simp only [insert]
    split <;> rename_i hc
    · simp [get?]
    · obtain rfl := LawfulEqCmp.eq_of_compare hc
      by_cases h : l = k <;> simp [get?, h]
    · by_cases h : l = m
      · subst h
        have : l ≠ k := by rintro rfl; simp at hc
        simp [get?, this]
      · simp [get?, h, ih]

omit [LawfulEqOrd κ] in
theorem get?_eq_some_iff_mem {entries : List (κ × α)} (h : Ordered entries) {k : κ} {v : α} :
    get? k entries = some v ↔ (k, v) ∈ entries := by
  induction entries with
  | nil => simp [get?]
  | cons e rest ih =>
    obtain ⟨l, w⟩ := e
    obtain ⟨hl, hrest⟩ := List.pairwise_cons.1 h
    simp only [get?]
    split <;> rename_i hk
    · subst hk
      constructor
      · rintro ⟨rfl⟩; simp
      · intro hm
        rcases List.mem_cons.1 hm with hm | hm
        · simp_all
        · have := hl _ hm
          simp at this
    · rw [ih hrest]
      simp [hk]

omit [LawfulEqOrd κ] [DecidableEq κ] in
theorem Ordered.eq_of_mem_iff {xs ys : List (κ × α)} (hx : Ordered xs) (hy : Ordered ys)
    (h : ∀ p, p ∈ xs ↔ p ∈ ys) : xs = ys := by
  induction xs generalizing ys with
  | nil => cases ys with
    | nil => rfl
    | cons y ys => simpa using h y
  | cons x xs ih =>
    cases ys with
    | nil => simpa using h x
    | cons y ys =>
      obtain ⟨hx1, hx2⟩ := List.pairwise_cons.1 hx
      obtain ⟨hy1, hy2⟩ := List.pairwise_cons.1 hy
      have hxy : x = y := by
        rcases List.mem_cons.1 ((h x).1 (.head _)) with hm | hm
        · exact hm
        · rcases List.mem_cons.1 ((h y).2 (.head _)) with hn | hn
          · exact hn.symm
          · have := TransCmp.lt_trans (hy1 x hm) (hx1 y hn)
            simp at this
      subst hxy
      refine congrArg (x :: ·) (ih hx2 hy2 fun p => ?_)
      constructor
      · intro hp
        rcases List.mem_cons.1 ((h p).1 (.tail _ hp)) with hq | hq
        · subst hq
          have := hx1 p hp
          simp at this
        · exact hq
      · intro hp
        rcases List.mem_cons.1 ((h p).2 (.tail _ hp)) with hq | hq
        · subst hq
          have := hy1 p hp
          simp at this
        · exact hq

end Assoc

structure Dict (κ α : Type) [Ord κ] where
  entries : List (κ × α) := []
  ordered : Assoc.Ordered entries := by exact List.Pairwise.nil

namespace Dict

variable {κ α : Type} [Ord κ]

def empty : Dict κ α := {}

instance : EmptyCollection (Dict κ α) := ⟨empty⟩

def keys (d : Dict κ α) : List κ := d.entries.map (·.1)

def values (d : Dict κ α) : List α := d.entries.map (·.2)

def filter (p : κ → α → Bool) (d : Dict κ α) : Dict κ α where
  entries := d.entries.filter fun e => p e.1 e.2
  ordered := d.ordered.sublist List.filter_sublist

def get? [DecidableEq κ] (d : Dict κ α) (k : κ) : Option α := Assoc.get? k d.entries

def contains [DecidableEq κ] (d : Dict κ α) (k : κ) : Bool := (d.get? k).isSome

def erase [DecidableEq κ] (d : Dict κ α) (k : κ) : Dict κ α := d.filter fun l _ => l ≠ k

variable [TransOrd κ] [LawfulEqOrd κ]

def insert (d : Dict κ α) (k : κ) (v : α) : Dict κ α where
  entries := Assoc.insert k v d.entries
  ordered := Assoc.ordered_insert k v d.ordered

def ofList (pairs : List (κ × α)) : Dict κ α where
  entries := Assoc.ofList pairs
  ordered := Assoc.ordered_ofList pairs

variable [DecidableEq κ]

omit [TransOrd κ] [LawfulEqOrd κ] in
@[simp] theorem get?_empty (k : κ) : (∅ : Dict κ α).get? k = none := rfl

@[simp] theorem get?_insert (d : Dict κ α) (k l : κ) (v : α) :
    (d.insert k v).get? l = if l = k then some v else d.get? l :=
  Assoc.get?_insert k l v d.entries

omit [LawfulEqOrd κ] in
theorem get?_eq_some_iff {d : Dict κ α} {k : κ} {v : α} :
    d.get? k = some v ↔ (k, v) ∈ d.entries :=
  Assoc.get?_eq_some_iff_mem d.ordered

omit [TransOrd κ] [LawfulEqOrd κ] in
theorem contains_iff {d : Dict κ α} {k : κ} : d.contains k = true ↔ ∃ v, d.get? k = some v :=
  Option.isSome_iff_exists

omit [LawfulEqOrd κ] in
theorem mem_keys_iff {d : Dict κ α} {k : κ} : k ∈ d.keys ↔ d.contains k = true := by
  simp [keys, contains_iff, get?_eq_some_iff]

omit [TransOrd κ] [LawfulEqOrd κ] [DecidableEq κ] in
theorem pairwise_keys (d : Dict κ α) : d.keys.Pairwise fun k l => compare k l = .lt :=
  List.pairwise_map.mpr d.ordered

omit [LawfulEqOrd κ] [DecidableEq κ] in
theorem nodup_keys (d : Dict κ α) : d.keys.Nodup := by
  refine d.pairwise_keys.imp fun h he => ?_
  subst he
  rw [compare_self] at h
  cases h

omit [LawfulEqOrd κ] in
@[simp] theorem get?_filter (d : Dict κ α) (p : κ → α → Bool) (k : κ) :
    (d.filter p).get? k = (d.get? k).filter (p k) := by
  apply Option.ext
  intro v
  rw [get?_eq_some_iff, Option.filter_eq_some_iff, get?_eq_some_iff]
  simp [filter]

omit [LawfulEqOrd κ] in
@[simp] theorem get?_erase (d : Dict κ α) (k l : κ) :
    (d.erase k).get? l = if l = k then none else d.get? l := by
  rw [erase, get?_filter]
  by_cases h : l = k <;> cases d.get? l <;> simp [h]

omit [LawfulEqOrd κ] in
/-- Maps with the same look-ups are equal. -/
theorem ext_get? {d e : Dict κ α} (h : ∀ k, d.get? k = e.get? k) : d = e := by
  have key : ∀ p, p ∈ d.entries ↔ p ∈ e.entries := fun p => by
    rw [← get?_eq_some_iff (k := p.1), h, get?_eq_some_iff]
  have lists : d.entries = e.entries := d.ordered.eq_of_mem_iff e.ordered key
  cases d; cases e; simp_all

omit [LawfulEqOrd κ] in
theorem erase_of_get?_eq_none {d : Dict κ α} {k : κ} (h : d.get? k = none) : d.erase k = d := by
  apply ext_get?
  intro l
  rw [get?_erase]
  split
  · next hl => rw [hl, h]
  · rfl

theorem insert_insert (d : Dict κ α) (k : κ) (v w : α) :
    (d.insert k v).insert k w = d.insert k w := by
  apply ext_get?
  intro l
  simp only [get?_insert]
  split <;> rfl

end Dict

end MockHttp
