/-! # Looking inside texts

Occurrences of one list of characters in another, and splitting at a separator.
-/

namespace MockHttp.Text

def contains (cs part : List Char) : Bool :=
  part.isPrefixOf cs || match cs with
    | [] => false
    | _ :: rest => contains rest part

theorem contains_iff {cs part : List Char} : contains cs part = true ↔ part <:+: cs := by
  induction cs with
  | nil => simp [contains]
  | cons c rest ih =>
    rw [contains, Bool.or_eq_true, List.isPrefixOf_iff_prefix, List.infix_cons_iff]
    simp only [ih]

/-- The text before the first occurrence of a two-character mark, and the text after it. -/
def cutAtPair (a b : Char) : List Char → Option (List Char × List Char)
  | [] => none
  | [_] => none
  | c :: d :: rest =>
    if c = a ∧ d = b then some ([], rest)
    else (cutAtPair a b (d :: rest)).map fun (before, after) => (c :: before, after)

/-- The mark stands between the two texts, and nowhere further to the left. -/
structure IsFirstCut (mark cs before after : List Char) : Prop where
  eq : cs = before ++ mark ++ after
  leftmost : ∀ p q, cs = p ++ mark ++ q → before.length ≤ p.length

theorem IsFirstCut.not_infix {mark cs before after : List Char}
    (h : IsFirstCut mark cs before after) (hmark : mark ≠ []) : ¬ mark <:+: before := by
  rintro ⟨p, q, hpq⟩
  have hcs : cs = p ++ mark ++ (q ++ mark ++ after) := by rw [h.eq, ← hpq]; simp
  have hle := h.leftmost _ _ hcs
  have hlength := congrArg List.length hpq
  have hpos := List.length_pos_iff.mpr hmark
  simp only [List.length_append] at hlength
  omega

theorem pair_prefix_cons_iff {a b c d : Char} {rest : List Char} :
    [a, b] <+: c :: d :: rest ↔ c = a ∧ d = b := by
  simp only [List.cons_prefix_cons, List.nil_prefix, and_true]
  exact and_congr eq_comm eq_comm

theorem isFirstCut_cons_iff {a b c d : Char} {rest before after : List Char}
    (h : ¬ (c = a ∧ d = b)) : IsFirstCut [a, b] (c :: d :: rest) (c :: before) after ↔
      IsFirstCut [a, b] (d :: rest) before after := by
  constructor
  · intro hcut
    have heq := hcut.eq
    simp only [List.cons_append, List.cons.injEq, true_and] at heq
    refine ⟨heq, fun p q hpq => ?_⟩
    have hle := hcut.leftmost (c :: p) q (by rw [hpq]; rfl)
    exact Nat.le_of_succ_le_succ hle
  · intro hcut
    refine ⟨by rw [hcut.eq]; rfl, fun p q hpq => ?_⟩
    cases p with
    | nil =>
      have hprefix : [a, b] <+: c :: d :: rest := ⟨q, hpq.symm⟩
      exact (h (pair_prefix_cons_iff.mp hprefix)).elim
    | cons e p =>
      simp only [List.cons_append, List.cons.injEq] at hpq
      exact Nat.succ_le_succ (hcut.leftmost p q hpq.2)

theorem cutAtPair_eq_none_iff {a b : Char} {cs : List Char} :
    cutAtPair a b cs = none ↔ ¬ [a, b] <:+: cs := by
  fun_induction cutAtPair a b cs with
  | case1 => simp
  | case2 c => simp [List.infix_cons_iff, List.cons_prefix_cons]
  | case3 c d rest h =>
    obtain ⟨rfl, rfl⟩ := h
    simp [List.infix_cons_iff]
  | case4 c d rest h ih =>
    have hcons : [a, b] <:+: c :: d :: rest ↔
        [a, b] <+: c :: d :: rest ∨ [a, b] <:+: d :: rest := List.infix_cons_iff
    rw [Option.map_eq_none_iff, ih, hcons, pair_prefix_cons_iff]
    simp [h]

theorem cutAtPair_eq_some_iff {a b : Char} {cs before after : List Char} :
    cutAtPair a b cs = some (before, after) ↔ IsFirstCut [a, b] cs before after := by
  fun_induction cutAtPair a b cs generalizing before with
  | case1 =>
    refine ⟨nofun, fun hcut => ?_⟩
    simpa using hcut.eq
  | case2 c =>
    refine ⟨nofun, fun hcut => ?_⟩
    have hlength := congrArg List.length hcut.eq
    simp only [List.length_append, List.length_cons, List.length_nil] at hlength
    omega
  | case3 c d rest h =>
    obtain ⟨rfl, rfl⟩ := h
    simp only [Option.some.injEq, Prod.mk.injEq]
    constructor
    · rintro ⟨rfl, rfl⟩
      exact ⟨rfl, fun _ _ _ => Nat.zero_le _⟩
    · intro hcut
      obtain rfl := List.length_eq_zero_iff.mp (Nat.le_zero.mp (hcut.leftmost [] rest rfl))
      exact ⟨rfl, by simpa using hcut.eq⟩
  | case4 c d rest h ih =>
    simp only [Option.map_eq_some_iff, Prod.exists, Prod.mk.injEq]
    constructor
    · rintro ⟨p, q, hpq, rfl, rfl⟩
      exact (isFirstCut_cons_iff h).mpr (ih.mp hpq)
    · intro hcut
      cases before with
      | nil =>
        have hprefix : [a, b] <+: c :: d :: rest := ⟨after, hcut.eq.symm⟩
        exact (h (pair_prefix_cons_iff.mp hprefix)).elim
      | cons e before =>
        have heq := hcut.eq
        simp only [List.cons_append, List.cons.injEq] at heq
        obtain ⟨rfl, -⟩ := heq
        exact ⟨before, after, ih.mpr ((isFirstCut_cons_iff h).mp hcut), rfl, rfl⟩

/-- Without its first character, a text cannot hold the mark. -/
theorem cutAtPair_append {a b : Char} {cs : List Char} (h : a ∉ cs) (rest : List Char) :
    cutAtPair a b (cs ++ a :: b :: rest) = some (cs, rest) := by
  induction cs with
  | nil => simp [cutAtPair]
  | cons c cs ih =>
    have hc : c ≠ a := fun hc => h (hc ▸ List.mem_cons_self)
    have hcs := ih fun hm => h (List.mem_cons_of_mem c hm)
    cases cs with
    | nil =>
      simp only [List.cons_append, List.nil_append] at hcs ⊢
      rw [cutAtPair, if_neg fun hp => hc hp.1, hcs, Option.map_some]
    | cons d cs =>
      simp only [List.cons_append] at hcs ⊢
      rw [cutAtPair, if_neg fun hp => hc hp.1, hcs, Option.map_some]

def cutAt (a : Char) : List Char → Option (List Char × List Char)
  | [] => none
  | c :: rest =>
    if c = a then some ([], rest)
    else (cutAt a rest).map fun (before, after) => (c :: before, after)

theorem cutAt_eq_none_iff {a : Char} {cs : List Char} : cutAt a cs = none ↔ a ∉ cs := by
  induction cs with
  | nil => simp [cutAt]
  | cons c rest ih =>
    rw [cutAt]
    split
    · next h => simp [h]
    · next h => simp [ih, Ne.symm h]

theorem cutAt_append {a : Char} {before : List Char} (h : a ∉ before) (after : List Char) :
    cutAt a (before ++ a :: after) = some (before, after) := by
  induction before with
  | nil => simp [cutAt]
  | cons c before ih =>
    have hc := List.ne_of_not_mem_cons h
    rw [List.cons_append, cutAt, if_neg hc.symm, ih (List.not_mem_of_not_mem_cons h)]
    rfl

theorem cutAt_eq_some_iff {a : Char} {cs before after : List Char} :
    cutAt a cs = some (before, after) ↔ cs = before ++ a :: after ∧ a ∉ before := by
  constructor
  · intro h
    induction cs generalizing before with
    | nil => cases h
    | cons c rest ih =>
      rw [cutAt] at h
      split at h
      · next hc =>
        cases h
        exact ⟨by rw [hc]; rfl, List.not_mem_nil⟩
      · next hc =>
        obtain ⟨⟨p, q⟩, hcut, heq⟩ := Option.map_eq_some_iff.mp h
        cases heq
        obtain ⟨rfl, hp⟩ := ih hcut
        exact ⟨rfl, List.not_mem_cons_of_ne_of_not_mem (Ne.symm hc) hp⟩
  · rintro ⟨rfl, h⟩
    exact cutAt_append h after

/-- The pieces between the separators: one more than there are separators. -/
def splitAt (sep : Char) : List Char → List (List Char)
  | [] => [[]]
  | c :: rest =>
    match splitAt sep rest with
    | [] => [[]]
    | piece :: pieces => if c = sep then [] :: piece :: pieces else (c :: piece) :: pieces

theorem splitAt_ne_nil (sep : Char) (cs : List Char) : splitAt sep cs ≠ [] := by
  cases cs with
  | nil => simp [splitAt]
  | cons c rest =>
    rw [splitAt]
    split
    · simp
    · split <;> simp

theorem splitAt_sep (sep : Char) (rest : List Char) :
    splitAt sep (sep :: rest) = [] :: splitAt sep rest := by
  rw [splitAt]
  split
  · next h => exact (splitAt_ne_nil sep rest h).elim
  · next h => rw [if_pos rfl, h]

theorem splitAt_cons {sep c : Char} {rest piece : List Char} {pieces : List (List Char)}
    (hc : c ≠ sep) (h : splitAt sep rest = piece :: pieces) :
    splitAt sep (c :: rest) = (c :: piece) :: pieces := by
  simp [splitAt, h, hc]

theorem splitAt_of_not_mem {sep : Char} {cs : List Char} (h : sep ∉ cs) :
    splitAt sep cs = [cs] := by
  induction cs with
  | nil => rfl
  | cons c cs ih =>
    have hc := List.ne_of_not_mem_cons h
    exact splitAt_cons hc.symm (ih (List.not_mem_of_not_mem_cons h))

theorem splitAt_append {sep : Char} {cs : List Char} (h : sep ∉ cs) (rest : List Char) :
    splitAt sep (cs ++ sep :: rest) = cs :: splitAt sep rest := by
  induction cs with
  | nil => exact splitAt_sep sep rest
  | cons c cs ih =>
    have hc := List.ne_of_not_mem_cons h
    exact splitAt_cons hc.symm (ih (List.not_mem_of_not_mem_cons h))

/-- A separator parts the pieces in front of it from those behind it. -/
theorem splitAt_append_sep (sep : Char) (cs ds : List Char) :
    splitAt sep (cs ++ sep :: ds) = splitAt sep cs ++ splitAt sep ds := by
  induction cs with
  | nil => exact splitAt_sep sep ds
  | cons c cs ih =>
    by_cases hc : c = sep
    · subst hc
      rw [List.cons_append, splitAt_sep, splitAt_sep, ih, List.cons_append]
    · obtain ⟨piece, pieces, hpieces⟩ := List.exists_cons_of_ne_nil (splitAt_ne_nil sep cs)
      rw [hpieces, List.cons_append] at ih
      rw [List.cons_append, splitAt_cons hc ih, splitAt_cons hc hpieces, List.cons_append]

end MockHttp.Text
