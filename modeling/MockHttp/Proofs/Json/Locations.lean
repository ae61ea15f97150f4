import MockHttp.Proofs.Json.Grammar

/-! # Locations as paths

Every location of a value has a path: its keys and indices with dots between them, as long as no
key holds a dot or a bracket and the indices fit. The path leads to the value at the location, or
fails at the first step that does not apply. A key and an index behind it may share a segment.
-/

namespace MockHttp.Json

namespace Step

/-- A step that can be written. -/
def IsPlain : Step → Prop
  | key k => '.' ∉ k ∧ '[' ∉ k ∧ ']' ∉ k
  | index i => i < Segment.indexBound

instance : DecidablePred IsPlain
  | key k => inferInstanceAs (Decidable ('.' ∉ k ∧ '[' ∉ k ∧ ']' ∉ k))
  | index i => inferInstanceAs (Decidable (i < Segment.indexBound))

def segment : Step → Segment
  | key k => ⟨k, none⟩
  | index i => ⟨[], some i⟩

theorem steps_segment (s : Step) : s.segment.steps = [s] := by
  cases s with
  | key k => cases k <;> rfl
  | index i => rfl

end Step

namespace Segment

def text : Segment → List Char
  | ⟨k, none⟩ => k
  | ⟨k, some i⟩ => k ++ (Step.index i).text

theorem text_segment (s : Step) : s.segment.text = s.text := by
  cases s <;> rfl

def IsPlain (s : Segment) : Prop := ∀ step ∈ s.steps, step.IsPlain

variable {s : Segment} {k : List Char} {i : Nat}

theorem isPlain_segment {s : Step} : s.segment.IsPlain ↔ s.IsPlain := by
  rw [IsPlain, s.steps_segment]
  exact List.forall_mem_singleton

theorem IsPlain.key (h : s.IsPlain) : '.' ∉ s.key ∧ '[' ∉ s.key ∧ ']' ∉ s.key := by
  obtain ⟨k, index⟩ := s
  cases k with
  | nil => exact ⟨List.not_mem_nil, List.not_mem_nil, List.not_mem_nil⟩
  | cons c k => cases index <;> exact h (.key (c :: k)) List.mem_cons_self

theorem IsPlain.index (h : IsPlain ⟨k, some i⟩) : i < indexBound := by
  cases k with
  | nil => exact h (.index i) List.mem_cons_self
  | cons c k => exact h (.index i) (List.mem_cons_of_mem _ List.mem_cons_self)

theorem isIndex_ofNat (h : i < indexBound) : IsIndex (Digits.ofNat i) i where
  ne_nil := Digits.ofNat_ne_nil i
  isDigit _ := Digits.isDigit_of_mem_ofNat
  value := Digits.valueOf_ofNat i
  lt := h

theorem isProper_text (h : s.IsPlain) : IsProper s s.text := by
  obtain ⟨-, hopen, hclose⟩ := h.key
  obtain ⟨k, index⟩ := s
  cases index with
  | none => exact .key hopen hclose
  | some i => exact .index hopen hclose (isIndex_ofNat h.index)

theorem not_mem_dot_text (h : s.IsPlain) : '.' ∉ s.text := by
  obtain ⟨hdot, -⟩ := h.key
  obtain ⟨k, index⟩ := s
  cases index with
  | none => exact hdot
  | some i =>
    intro hmem
    have hdigit : '.' ∉ Digits.ofNat i := fun hd =>
      absurd (Digits.isDigit_of_mem_ofNat hd) (by decide)
    simp only [text, Step.text, List.mem_append, List.mem_cons, List.not_mem_nil, or_false] at hmem
    rcases hmem with hmem | hmem | hmem | hmem
    · exact hdot hmem
    · cases hmem
    · exact hdigit hmem
    · cases hmem

end Segment

variable {v w : Json} {segments : List Segment} {steps : List Step} {e : PathError}

def segmentsText (segments : List Segment) : String :=
  String.ofList (joinSegments (segments.map Segment.text))

theorem pathText_eq (steps : List Step) :
    pathText steps = segmentsText (steps.map Step.segment) := by
  rw [pathText, segmentsText, List.map_map]
  congr 3
  funext s
  exact (Segment.text_segment s).symm

theorem isPlain_segments (h : ∀ s ∈ steps, s.IsPlain) :
    ∀ s ∈ steps.map Step.segment, s.IsPlain :=
  List.forall_mem_map.mpr fun s hs => Segment.isPlain_segment.mpr (h s hs)

theorem flatMap_steps_segment (steps : List Step) :
    (steps.map Step.segment).flatMap Segment.steps = steps := by
  induction steps with
  | nil => rfl
  | cons s steps ih =>
    rw [List.map_cons, List.flatMap_cons, ih, s.steps_segment, List.singleton_append]

theorem areSegments_text (hne : segments ≠ []) (h : ∀ s ∈ segments, s.IsPlain) :
    AreSegments (segments.map Segment.text) (segmentsText segments) where
  ne_nil := by simpa using hne
  not_mem_dot := by
    intro cs hcs
    obtain ⟨s, hs, rfl⟩ := List.mem_map.mp hcs
    exact Segment.not_mem_dot_text (h s hs)
  join := String.toList_ofList.symm

theorem follow?_append (v : Json) (before after : List Step) :
    v.follow? (before ++ after) = (v.follow? before).bind fun u => u.follow? after :=
  List.foldlM_append

theorem leads_text_iff (h : ∀ s ∈ segments, s.IsPlain) :
    Leads (segments.map Segment.text) v w ↔
      v.follow? (segments.flatMap Segment.steps) = some w := by
  induction segments generalizing v with
  | nil =>
    constructor
    · rintro ⟨⟩
      rfl
    · rintro ⟨⟩
      exact .nil _
  | cons s segments ih =>
    have hs := Segment.isProper_text (h s List.mem_cons_self)
    have hsegments := fun t ht => h t (List.mem_cons_of_mem _ ht)
    rw [List.map_cons, List.flatMap_cons, follow?_append, Option.bind_eq_some_iff]
    constructor
    · rintro ⟨⟩
      next t u hspells hfollow hleads =>
      obtain rfl := Segment.Spells.unique hspells (.inl hs)
      exact ⟨u, hfollow, (ih hsegments).mp hleads⟩
    · rintro ⟨u, hfollow, hrest⟩
      exact .cons (.inl hs) hfollow ((ih hsegments).mpr hrest)

theorem stops_text_iff {s : Segment} {path : String} (h : s.IsPlain) :
    Stops path s.text v e ↔
      v.follow? s.steps = none ∧ e = .notFound path (String.ofList s.text) := by
  have hs := Segment.isProper_text h
  constructor
  · rintro (hnone | ⟨hspells, hfollow⟩)
    · exact (hnone s (.inl hs)).elim
    · obtain rfl := Segment.Spells.unique hspells (.inl hs)
      exact ⟨hfollow, rfl⟩
  · rintro ⟨hfollow, rfl⟩
    exact .notFound (.inl hs) hfollow

theorem resolve_segmentsText_eq_ok_iff (hne : segments ≠ []) (h : ∀ s ∈ segments, s.IsPlain) :
    resolve v (segmentsText segments) = .ok w ↔
      v.follow? (segments.flatMap Segment.steps) = some w := by
  rw [resolve_eq_walk (areSegments_text hne h), walk_eq_ok_iff, leads_text_iff h]

theorem resolve_segmentsText_eq_error_iff (hne : segments ≠ []) (h : ∀ s ∈ segments, s.IsPlain) :
    resolve v (segmentsText segments) = .error e ↔ ∃ before s after u,
      segments = before ++ s :: after ∧ v.follow? (before.flatMap Segment.steps) = some u ∧
        u.follow? s.steps = none ∧
        e = .notFound (segmentsText segments) (String.ofList s.text) := by
  rw [resolve_eq_walk (areSegments_text hne h), walk_eq_error_iff]
  constructor
  · rintro ⟨_, _, _, u, hsplit, hleads, hstops⟩
    obtain ⟨before, rest, rfl, rfl, hrest⟩ := List.map_eq_append_iff.mp hsplit
    obtain ⟨s, after, rfl, rfl, rfl⟩ := List.map_eq_cons_iff.mp hrest
    have hs : s.IsPlain := h s (by simp)
    have hbefore : ∀ t ∈ before, t.IsPlain := fun t ht => h t (List.mem_append_left _ ht)
    obtain ⟨hfollow, he⟩ := (stops_text_iff hs).mp hstops
    exact ⟨before, s, after, u, rfl, (leads_text_iff hbefore).mp hleads, hfollow, he⟩
  · rintro ⟨before, s, after, u, rfl, hleads, hfollow, rfl⟩
    have hs : s.IsPlain := h s (by simp)
    have hbefore : ∀ t ∈ before, t.IsPlain := fun t ht => h t (List.mem_append_left _ ht)
    exact ⟨before.map Segment.text, s.text, after.map Segment.text, u, by simp,
      (leads_text_iff hbefore).mpr hleads, (stops_text_iff hs).mpr ⟨hfollow, rfl⟩⟩

theorem follow?_singleton (v : Json) (step : Step) : v.follow? [step] = step.follow? v := by
  rw [follow?, List.foldlM_cons]
  cases step.follow? v <;> rfl

theorem resolve_pathText_eq_ok_iff (hne : steps ≠ []) (h : ∀ s ∈ steps, s.IsPlain) :
    resolve v (pathText steps) = .ok w ↔ v.follow? steps = some w := by
  rw [pathText_eq, resolve_segmentsText_eq_ok_iff (by simpa using hne) (isPlain_segments h),
    flatMap_steps_segment]

theorem resolve_pathText_eq_error_iff (hne : steps ≠ []) (h : ∀ s ∈ steps, s.IsPlain) :
    resolve v (pathText steps) = .error e ↔ ∃ before step after u,
      steps = before ++ step :: after ∧ v.follow? before = some u ∧ step.follow? u = none ∧
        e = .notFound (pathText steps) (String.ofList step.text) := by
  rw [pathText_eq, resolve_segmentsText_eq_error_iff (by simpa using hne) (isPlain_segments h)]
  constructor
  · rintro ⟨_, _, _, u, hsplit, hfollow, hstop, he⟩
    obtain ⟨before, rest, rfl, rfl, hrest⟩ := List.map_eq_append_iff.mp hsplit
    obtain ⟨step, after, rfl, rfl, rfl⟩ := List.map_eq_cons_iff.mp hrest
    rw [flatMap_steps_segment] at hfollow
    rw [step.steps_segment, follow?_singleton] at hstop
    rw [Segment.text_segment] at he
    exact ⟨before, step, after, u, rfl, hfollow, hstop, he⟩
  · rintro ⟨before, step, after, u, rfl, hfollow, hstop, rfl⟩
    refine ⟨before.map Step.segment, step.segment, after.map Step.segment, u, by simp, ?_, ?_, ?_⟩
    · rwa [flatMap_steps_segment]
    · rwa [step.steps_segment, follow?_singleton]
    · rw [Segment.text_segment]

/-- The path of some steps leads where they lead, and where they do not, the first one that does
not apply is not found. A path with fewer segments for the same steps has the same values. -/
theorem resolve_pathText (hne : steps ≠ []) (h : ∀ s ∈ steps, s.IsPlain) (v : Json) :
    (∀ w, resolve v (pathText steps) = .ok w ↔ v.follow? steps = some w) ∧
    (∀ e, resolve v (pathText steps) = .error e ↔ ∃ before step after u,
      steps = before ++ step :: after ∧ v.follow? before = some u ∧ step.follow? u = none ∧
        e = .notFound (pathText steps) (String.ofList step.text)) ∧
    ∀ segments : List Segment, segments.flatMap Segment.steps = steps → ∀ w,
      resolve v (segmentsText segments) = .ok w ↔ resolve v (pathText steps) = .ok w := by
  refine ⟨fun w => resolve_pathText_eq_ok_iff hne h,
    fun e => resolve_pathText_eq_error_iff hne h, ?_⟩
  rintro segments rfl w
  have hsegments : segments ≠ [] := by
    rintro rfl
    exact hne rfl
  have hplain : ∀ s ∈ segments, s.IsPlain := fun s hs step hstep =>
    h step (List.mem_flatMap_of_mem hs hstep)
  rw [resolve_segmentsText_eq_ok_iff hsegments hplain, resolve_pathText_eq_ok_iff hne h]

/-- An item of a member, and in it the member with the empty key. -/
theorem resolve_pathText_fused :
    let v := ofMembers [("a", .array [.null, ofMembers [("", .int 7)]])]
    let steps := [Step.key ['a'], .index 1, .key []]
    (steps ≠ [] ∧ ∀ s ∈ steps, s.IsPlain) ∧ pathText steps = "a.[1]." ∧
      resolve v "a.[1]." = .ok (.int 7) ∧ resolve v "a[1]." = .ok (.int 7) := by
  intro v steps
  have hplain : ∀ s ∈ steps, s.IsPlain := by decide
  obtain ⟨hok, -, hfused⟩ := resolve_pathText (List.cons_ne_nil _ _) hplain v
  have hvalue : resolve v "a.[1]." = .ok (.int 7) := (hok _).mpr rfl
  refine ⟨⟨List.cons_ne_nil _ _, hplain⟩, rfl, hvalue, ?_⟩
  exact (hfused [⟨['a'], some 1⟩, ⟨[], none⟩] rfl _).mpr hvalue

end MockHttp.Json
