import Mathlib.Logic.ExistsUnique
import MockHttp.Json.Path

/-! # The grammar of paths

The segments of a path are its parts between the dots. A segment is proper if it is a key, an index
in brackets, or a key with an index behind it, and no bracket stands in the key. More than that is
accepted: a plus sign in front of the digits of an index, and closing brackets in a key with an
index behind it, though not in a key alone.
-/

namespace MockHttp.Json

def follow? (v : Json) (steps : List Step) : Option Json :=
  steps.foldlM (fun w step => step.follow? w) v

structure AreSegments (segments : List (List Char)) (path : String) : Prop where
  ne_nil : segments ≠ []
  not_mem_dot : ∀ cs ∈ segments, '.' ∉ cs
  join : joinSegments segments = path.toList

namespace Segment

/-- The steps that a segment stands for: to a member, to an item of it, or both. -/
def steps : Segment → List Step
  | ⟨k, none⟩ => [.key k]
  | ⟨[], some i⟩ => [.index i]
  | ⟨k, some i⟩ => [.key k, .index i]

structure IsIndex (digits : List Char) (i : Nat) : Prop where
  ne_nil : digits ≠ []
  isDigit : ∀ c ∈ digits, c.isDigit = true
  value : Digits.valueOf digits = i
  lt : i < indexBound

/-- The segment is written like this: as `key`, `key[digits]` or `[digits]`. -/
inductive IsProper : Segment → List Char → Prop where
  | key {k : List Char} : '[' ∉ k → ']' ∉ k → IsProper ⟨k, none⟩ k
  | index {k digits : List Char} {i : Nat} : '[' ∉ k → ']' ∉ k → IsIndex digits i →
      IsProper ⟨k, some i⟩ (k ++ '[' :: (digits ++ [']']))

/-- The segment is read from this as well, although it is not written so. -/
inductive IsLax : Segment → List Char → Prop where
  | bracket {k digits : List Char} {i : Nat} : '[' ∉ k → ']' ∈ k → IsIndex digits i →
      IsLax ⟨k, some i⟩ (k ++ '[' :: (digits ++ [']']))
  | plus {k digits : List Char} {i : Nat} : '[' ∉ k → IsIndex digits i →
      IsLax ⟨k, some i⟩ (k ++ '[' :: ('+' :: digits ++ [']']))

def Spells (s : Segment) (cs : List Char) : Prop := IsProper s cs ∨ IsLax s cs

variable {s : Segment} {cs k text : List Char} {i : Nat}

theorem follow?_eq (s : Segment) (v : Json) : s.follow? v = v.follow? s.steps := by
  obtain ⟨k, index⟩ := s
  cases index with
  | none => cases k <;> simp [Segment.follow?, member?, steps, Json.follow?, Step.follow?]
  | some i =>
    cases k <;> simp [Segment.follow?, member?, steps, Json.follow?, Step.follow?]

theorem number?_iff : Digits.number? text = some i ∧ i < indexBound ↔ IsIndex text i := by
  rw [Digits.number?_eq_some_iff]
  constructor
  · rintro ⟨⟨hne, hdigits, hvalue⟩, hlt⟩
    exact ⟨hne, hdigits, hvalue, hlt⟩
  · rintro ⟨hne, hdigits, hvalue, hlt⟩
    exact ⟨⟨hne, hdigits, hvalue⟩, hlt⟩

theorem unsigned?_iff : Digits.unsigned? indexBound text = some i ↔
    IsIndex text i ∨ ∃ digits, text = '+' :: digits ∧ IsIndex digits i := by
  rw [Digits.unsigned?_eq_some_iff]
  simp only [← number?_iff]
  constructor
  · rintro ⟨hlt, hplain | ⟨digits, rfl, hdigits⟩⟩
    · exact .inl ⟨hplain, hlt⟩
    · exact .inr ⟨digits, rfl, hdigits, hlt⟩
  · rintro (⟨hplain, hlt⟩ | ⟨digits, rfl, hdigits, hlt⟩)
    · exact ⟨hlt, .inl hplain⟩
    · exact ⟨hlt, .inr ⟨digits, rfl, hdigits⟩⟩

theorem ofText?_key (hopen : '[' ∉ k) (hclose : ']' ∉ k) : ofText? k = some ⟨k, none⟩ := by
  rw [ofText?, Text.cutAt_eq_none_iff.mpr hopen]
  exact if_neg hclose

theorem ofText?_index (hopen : '[' ∉ k) (h : Digits.unsigned? indexBound text = some i) :
    ofText? (k ++ '[' :: (text ++ [']'])) = some ⟨k, some i⟩ := by
  simp [ofText?, Text.cutAt_append hopen, h]

theorem ofText?_eq_some_iff : ofText? cs = some s ↔ Spells s cs := by
  constructor
  · intro h
    rw [ofText?] at h
    split at h
    · next hcut =>
      split at h
      · cases h
      · next hclose =>
        cases h
        exact .inl (.key (Text.cutAt_eq_none_iff.mp hcut) hclose)
    · next k rest hcut =>
      obtain ⟨rfl, hopen⟩ := Text.cutAt_eq_some_iff.mp hcut
      split at h
      · next hlast =>
        obtain ⟨i, hindex, rfl⟩ := Option.map_eq_some_iff.mp h
        obtain ⟨text, rfl⟩ := List.getLast?_eq_some_iff.mp hlast
        rw [List.dropLast_concat] at hindex
        rcases unsigned?_iff.mp hindex with hplain | ⟨digits, rfl, hdigits⟩
        · by_cases hclose : ']' ∈ k
          · exact .inr (.bracket hopen hclose hplain)
          · exact .inl (.index hopen hclose hplain)
        · exact .inr (.plus hopen hdigits)
      · cases h
  · rintro ((⟨hopen, hclose⟩ | ⟨hopen, -, hindex⟩) | (⟨hopen, -, hindex⟩ | ⟨hopen, hindex⟩))
    · exact ofText?_key hopen hclose
    · exact ofText?_index hopen (unsigned?_iff.mpr (.inl hindex))
    · exact ofText?_index hopen (unsigned?_iff.mpr (.inl hindex))
    · exact ofText?_index hopen (unsigned?_iff.mpr (.inr ⟨_, rfl, hindex⟩))

theorem ofText?_eq_none_iff : ofText? cs = none ↔ ∀ s, ¬ Spells s cs := by
  simp only [Option.eq_none_iff_forall_ne_some, ne_eq, ofText?_eq_some_iff]

theorem Spells.unique {t : Segment} (hs : s.Spells cs) (ht : t.Spells cs) : s = t := by
  have heq := (ofText?_eq_some_iff.mpr hs).symm.trans (ofText?_eq_some_iff.mpr ht)
  exact Option.some.inj heq

theorem IsIndex.not_mem_plus (h : IsIndex text i) : '+' ∉ text := by
  intro hmem
  exact absurd (h.isDigit '+' hmem) (by decide)

theorem IsProper.index_inv (h : IsProper ⟨k, some i⟩ cs) :
    ']' ∉ k ∧ ∃ digits, cs = k ++ '[' :: (digits ++ [']']) ∧ IsIndex digits i := by
  cases h with
  | index _ hclose hindex => exact ⟨hclose, _, rfl, hindex⟩

theorem IsLax.not_isProper (h : IsLax s cs) (t : Segment) : ¬ IsProper t cs := by
  intro h'
  obtain rfl : s = t := Spells.unique (.inr h) (.inl h')
  cases h with
  | bracket _ hclose _ =>
    obtain ⟨hnot, -⟩ := h'.index_inv
    exact hnot hclose
  | plus _ _ =>
    obtain ⟨-, digits, heq, hindex⟩ := h'.index_inv
    rw [List.append_cancel_left_eq, List.cons.injEq, List.append_cancel_right_eq] at heq
    exact hindex.not_mem_plus (heq.2 ▸ List.mem_cons_self)

end Segment

/-! ## Walks -/

inductive Leads : List (List Char) → Json → Json → Prop where
  | nil (v : Json) : Leads [] v v
  | cons {s : Segment} {cs : List Char} {rest : List (List Char)} {u v w : Json} :
      s.Spells cs → v.follow? s.steps = some u → Leads rest u w → Leads (cs :: rest) v w

/-- The segment does not lead on from the value, and this is the error. -/
inductive Stops (path : String) (cs : List Char) (v : Json) : PathError → Prop where
  | malformed : (∀ s, ¬ Segment.Spells s cs) → Stops path cs v (.malformed path (String.ofList cs))
  | notFound {s : Segment} : s.Spells cs → v.follow? s.steps = none →
      Stops path cs v (.notFound path (String.ofList cs))

variable {path : String} {segments : List (List Char)} {v w : Json} {e : PathError}

theorem Leads.spells (h : Leads segments v w) : ∀ cs ∈ segments, ∃ s, Segment.Spells s cs := by
  induction h with
  | nil => exact fun _ hcs => (List.not_mem_nil hcs).elim
  | cons hspells _ _ ih =>
    intro cs hcs
    rcases List.mem_cons.mp hcs with rfl | hcs
    · exact ⟨_, hspells⟩
    · exact ih cs hcs

theorem walk_cons {s : Segment} {cs : List Char} (h : s.Spells cs) (rest : List (List Char)) :
    walk path (cs :: rest) v =
      (v.follow? s.steps).elim (.error (.notFound path (String.ofList cs))) (walk path rest) := by
  rw [walk, Segment.ofText?_eq_some_iff.mpr h]
  dsimp only
  rw [Segment.follow?_eq]
  cases v.follow? s.steps <;> rfl

theorem walk_malformed {cs : List Char} (h : ∀ s, ¬ Segment.Spells s cs)
    (rest : List (List Char)) :
    walk path (cs :: rest) v = .error (.malformed path (String.ofList cs)) := by
  rw [walk, Segment.ofText?_eq_none_iff.mpr h]

theorem walk_append {before : List (List Char)} (h : Leads before v w)
    (rest : List (List Char)) : walk path (before ++ rest) v = walk path rest w := by
  induction h with
  | nil => rfl
  | cons hspells hfollow _ ih => rw [List.cons_append, walk_cons hspells, hfollow, Option.elim, ih]

theorem walk_of_stops {cs : List Char} (h : Stops path cs v e) (rest : List (List Char)) :
    walk path (cs :: rest) v = .error e := by
  cases h with
  | malformed h => exact walk_malformed h rest
  | notFound hspells hfollow => rw [walk_cons hspells, hfollow, Option.elim]

/-- A walk reaches its end or stops at a segment. -/
theorem leads_or_stops (path : String) (segments : List (List Char)) (v : Json) :
    (∃ w, Leads segments v w) ∨ ∃ before cs after u e,
      segments = before ++ cs :: after ∧ Leads before v u ∧ Stops path cs u e := by
  induction segments generalizing v with
  | nil => exact .inl ⟨v, .nil v⟩
  | cons cs rest ih =>
    by_cases hspells : ∃ s, Segment.Spells s cs
    · obtain ⟨s, hspells⟩ := hspells
      cases hfollow : v.follow? s.steps with
      | none => exact .inr ⟨[], cs, rest, v, _, rfl, .nil v, .notFound hspells hfollow⟩
      | some u =>
        rcases ih u with ⟨w, h⟩ | ⟨before, ds, after, u', e, rfl, h, hstops⟩
        · exact .inl ⟨w, .cons hspells hfollow h⟩
        · exact .inr ⟨cs :: before, ds, after, u', e, rfl, .cons hspells hfollow h, hstops⟩
    · have hnone : ∀ s, ¬ Segment.Spells s cs := fun s h => hspells ⟨s, h⟩
      exact .inr ⟨[], cs, rest, v, _, rfl, .nil v, .malformed hnone⟩

theorem walk_eq_ok_iff : walk path segments v = .ok w ↔ Leads segments v w := by
  have hok {u : Json} (h : Leads segments v u) : walk path segments v = .ok u := by
    have hwalk : walk path (segments ++ []) v = walk path [] u := walk_append h []
    rwa [List.append_nil] at hwalk
  constructor
  · intro h
    rcases leads_or_stops path segments v with ⟨u, hu⟩ | ⟨before, cs, after, u, e, rfl, hu, hstops⟩
    · cases (hok hu).symm.trans h
      exact hu
    · rw [walk_append hu, walk_of_stops hstops] at h
      cases h
  · exact hok

theorem walk_eq_error_iff : walk path segments v = .error e ↔ ∃ before cs after u,
    segments = before ++ cs :: after ∧ Leads before v u ∧ Stops path cs u e := by
  constructor
  · intro h
    rcases leads_or_stops path segments v with ⟨u, hu⟩ | ⟨before, cs, after, u, e', rfl, hu, hstops⟩
    · rw [walk_eq_ok_iff.mpr hu] at h
      cases h
    · rw [walk_append hu, walk_of_stops hstops] at h
      cases h
      exact ⟨before, cs, after, u, rfl, hu, hstops⟩
  · rintro ⟨before, cs, after, u, rfl, hu, hstops⟩
    rw [walk_append hu, walk_of_stops hstops]

/-! ## Paths -/

theorem joinSegments_cons (cs : List Char) (hne : segments ≠ []) :
    joinSegments (cs :: segments) = cs ++ '.' :: joinSegments segments := by
  cases segments with
  | nil => exact (hne rfl).elim
  | cons => rfl

theorem joinSegments_cons_cons (c : Char) (cs : List Char) (rest : List (List Char)) :
    joinSegments ((c :: cs) :: rest) = c :: joinSegments (cs :: rest) := by
  cases rest <;> rfl

theorem splitAt_joinSegments (hne : segments ≠ []) (h : ∀ cs ∈ segments, '.' ∉ cs) :
    Text.splitAt '.' (joinSegments segments) = segments := by
  induction segments with
  | nil => exact (hne rfl).elim
  | cons cs rest ih =>
    have hcs := h cs List.mem_cons_self
    by_cases hrest : rest = []
    · subst hrest
      exact Text.splitAt_of_not_mem hcs
    · rw [joinSegments_cons cs hrest, Text.splitAt_append hcs,
        ih hrest fun ds hds => h ds (List.mem_cons_of_mem _ hds)]

theorem AreSegments.splitAt_eq (h : AreSegments segments path) :
    Text.splitAt '.' path.toList = segments := by
  rw [← h.join, splitAt_joinSegments h.ne_nil h.not_mem_dot]

theorem exists_joinSegments_eq (cs : List Char) :
    ∃ segments ≠ [], (∀ ds ∈ segments, '.' ∉ ds) ∧ joinSegments segments = cs := by
  induction cs with
  | nil => exact ⟨[[]], List.cons_ne_nil _ _, List.forall_mem_singleton.mpr List.not_mem_nil, rfl⟩
  | cons c cs ih =>
    obtain ⟨segments, hne, hdot, rfl⟩ := ih
    by_cases hc : c = '.'
    · subst hc
      refine ⟨[] :: segments, List.cons_ne_nil _ _, ?_, joinSegments_cons [] hne⟩
      exact List.forall_mem_cons.mpr ⟨List.not_mem_nil, hdot⟩
    · obtain ⟨ds, rest, rfl⟩ := List.exists_cons_of_ne_nil hne
      obtain ⟨hds, hrest⟩ := List.forall_mem_cons.mp hdot
      have hcons : '.' ∉ c :: ds := List.not_mem_cons_of_ne_of_not_mem (Ne.symm hc) hds
      exact ⟨(c :: ds) :: rest, List.cons_ne_nil _ _, List.forall_mem_cons.mpr ⟨hcons, hrest⟩,
        joinSegments_cons_cons c ds rest⟩

theorem existsUnique_areSegments (path : String) : ∃! segments, AreSegments segments path := by
  obtain ⟨segments, hne, hdot, hjoin⟩ := exists_joinSegments_eq path.toList
  have h : AreSegments segments path := ⟨hne, hdot, hjoin⟩
  exact ⟨segments, h, fun _ h' => h'.splitAt_eq.symm.trans h.splitAt_eq⟩

theorem resolve_eq_walk (h : AreSegments segments path) (v : Json) :
    resolve v path = walk path segments v := by
  rw [resolve, h.splitAt_eq]

theorem resolve_eq_malformed_iff (h : AreSegments segments path) {p segment : String} :
    resolve v path = .error (.malformed p segment) ↔
      p = path ∧ ∃ before cs after u, segments = before ++ cs :: after ∧ Leads before v u ∧
        (∀ s, ¬ Segment.Spells s cs) ∧ segment = String.ofList cs := by
  rw [resolve_eq_walk h, walk_eq_error_iff]
  constructor
  · rintro ⟨before, cs, after, u, hsplit, hleads, ⟨hnone⟩⟩
    exact ⟨rfl, before, cs, after, u, hsplit, hleads, hnone, rfl⟩
  · rintro ⟨rfl, before, cs, after, u, hsplit, hleads, hnone, rfl⟩
    exact ⟨before, cs, after, u, hsplit, hleads, .malformed hnone⟩

/-- The first segment that does not lead on decides. The path is malformed if that segment is
neither proper nor lax, and it has a value only if all segments are one or the other. -/
theorem malformed_iff_not_spelled (path : String) (v : Json) :
    (∃! segments, AreSegments segments path) ∧ ∀ segments, AreSegments segments path →
      (∀ p segment, resolve v path = .error (.malformed p segment) ↔
        p = path ∧ ∃ before cs after u, segments = before ++ cs :: after ∧ Leads before v u ∧
          (∀ s, ¬ Segment.IsProper s cs ∧ ¬ Segment.IsLax s cs) ∧ segment = String.ofList cs) ∧
      ∀ w, resolve v path = .ok w →
        ∀ cs ∈ segments, ∃ s, Segment.IsProper s cs ∨ Segment.IsLax s cs := by
  refine ⟨existsUnique_areSegments path, fun segments h => ⟨fun p segment => ?_, fun w hw => ?_⟩⟩
  · simp only [← not_or]
    exact resolve_eq_malformed_iff h
  · rw [resolve_eq_walk h] at hw
    exact (walk_eq_ok_iff.mp hw).spells

theorem malformed_text_as_index :
    let v := ofMembers [("d", .int 3)]
    AreSegments [['d'], ['d', '[', 'x', ']']] "d.d[x]" ∧
      resolve v "d.d[x]" = .error (.malformed "d.d[x]" "d[x]") := by
  intro v
  have hsegments : AreSegments [['d'], ['d', '[', 'x', ']']] "d.d[x]" :=
    ⟨by decide, by decide, by decide⟩
  have hleads : Leads [['d']] v (.int 3) :=
    .cons (Segment.ofText?_eq_some_iff.mp rfl) rfl (.nil _)
  have hnone : ∀ s, ¬ Segment.Spells s ['d', '[', 'x', ']'] :=
    Segment.ofText?_eq_none_iff.mp (by decide)
  obtain ⟨hmalformed, -⟩ := (malformed_iff_not_spelled _ v).2 _ hsegments
  refine ⟨hsegments, (hmalformed _ _).mpr ⟨rfl, ?_⟩⟩
  exact ⟨[['d']], _, [], _, rfl, hleads, fun s => not_or.mp (hnone s), by decide⟩

/-- A key that is malformed alone leads to items, and an index may have a plus sign. -/
theorem lax_segments_lead_on :
    let v := ofMembers [("a]b", .array [.int 7])]
    resolve v "a]b" = .error (.malformed "a]b" "a]b") ∧
      resolve v "a]b[0]" = .ok (.int 7) ∧ (∀ s, ¬ Segment.IsProper s "a]b[0]".toList) ∧
      resolve (.array [.int 7]) "[+0]" = .ok (.int 7) ∧
      ∀ s, ¬ Segment.IsProper s "[+0]".toList := by
  intro v
  have hindex : Segment.IsIndex ['0'] 0 :=
    ⟨List.cons_ne_nil _ _, List.forall_mem_singleton.mpr rfl, rfl, by decide⟩
  have hbracket : Segment.IsLax ⟨['a', ']', 'b'], some 0⟩ "a]b[0]".toList :=
    .bracket (by decide) (by decide) hindex
  have hplus : Segment.IsLax ⟨[], some 0⟩ "[+0]".toList := .plus (by decide) hindex
  exact ⟨rfl, rfl, hbracket.not_isProper, rfl, hplus.not_isProper⟩

end MockHttp.Json
