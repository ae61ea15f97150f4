import MockHttp.Proofs.Json.Grammar

/-! # Paths one behind the other

Two paths with a dot between them are one path. It is taken by resolving the first path, and the
second one from the value that this leads to. What fails is the first segment of the two that does
not lead on; the error names the joined path.
-/

namespace MockHttp.Json

/-- The same failure at the same segment, of a path that the segment is part of. -/
def PathError.within (path : String) : PathError → PathError
  | notFound _ segment => .notFound path segment
  | malformed _ segment => .malformed path segment

variable {path path' : String} {cs : List Char} {v : Json} {e : PathError}

theorem Stops.within (h : Stops path cs v e) : Stops path' cs v (e.within path') := by
  cases h with
  | malformed hnone => exact .malformed hnone
  | notFound hspells hfollow => exact .notFound hspells hfollow

/-- The path that is walked matters to the error only. -/
theorem walk_within (path path' : String) (segments : List (List Char)) (v : Json) :
    walk path' segments v = (walk path segments v).mapError (PathError.within path') := by
  rcases leads_or_stops path segments v with
    ⟨w, hleads⟩ | ⟨before, cs, after, u, e, rfl, hleads, hstops⟩
  · rw [walk_eq_ok_iff.mpr hleads, walk_eq_ok_iff.mpr hleads]
    rfl
  · rw [walk_append hleads, walk_append hleads, walk_of_stops hstops, walk_of_stops hstops.within]
    rfl

theorem walk_append_bind (path : String) (segments rest : List (List Char)) (v : Json) :
    walk path (segments ++ rest) v = (walk path segments v).bind (walk path rest) := by
  rcases leads_or_stops path segments v with
    ⟨w, hleads⟩ | ⟨before, cs, after, u, e, rfl, hleads, hstops⟩
  · rw [walk_append hleads, walk_eq_ok_iff.mpr hleads]
    rfl
  · rw [List.append_assoc, List.cons_append, walk_append hleads, walk_append hleads,
      walk_of_stops hstops, walk_of_stops hstops]
    rfl

theorem resolve_append_dot (v : Json) (p q : String) :
    resolve v (p ++ "." ++ q) =
      ((resolve v p).bind fun u => resolve u q).mapError (PathError.within (p ++ "." ++ q)) := by
  have hchars : (p ++ "." ++ q).toList = p.toList ++ '.' :: q.toList := by simp
  generalize p ++ "." ++ q = joined at *
  rw [resolve, hchars, Text.splitAt_append_sep, walk_append_bind, walk_within p joined]
  simp only [resolve]
  cases walk p (Text.splitAt '.' p.toList) v with
  | error e => rfl
  | ok u => exact walk_within q joined _ u

/-- The joined path has the value that the second path has from the value of the first, and it
fails as the first path does, or as the second does from there. -/
theorem resolve_joined (v : Json) (p q : String) :
    (∀ w, resolve v (p ++ "." ++ q) = .ok w ↔
      ∃ u, resolve v p = .ok u ∧ resolve u q = .ok w) ∧
    ∀ e, resolve v (p ++ "." ++ q) = .error e ↔
      ∃ e', e = e'.within (p ++ "." ++ q) ∧
        (resolve v p = .error e' ∨ ∃ u, resolve v p = .ok u ∧ resolve u q = .error e') := by
  rw [resolve_append_dot]
  generalize p ++ "." ++ q = joined
  cases resolve v p with
  | error e' =>
    have hfirst : ((Except.error e').bind fun u => resolve u q).mapError (PathError.within joined) =
      .error (e'.within joined) := rfl
    simp [hfirst, eq_comm]
  | ok u =>
    have hsecond : ((Except.ok u).bind fun u => resolve u q).mapError (PathError.within joined) =
      (resolve u q).mapError (PathError.within joined) := rfl
    rw [hsecond]
    cases hq : resolve u q with
    | error e' =>
      have hfails : (Except.error e' : Except PathError Json).mapError (PathError.within joined) =
        .error (e'.within joined) := rfl
      simp [hfails, hq, eq_comm]
    | ok w =>
      have hleads : (Except.ok w).mapError (PathError.within joined) = .ok w := rfl
      simp [hleads, hq]

end MockHttp.Json
