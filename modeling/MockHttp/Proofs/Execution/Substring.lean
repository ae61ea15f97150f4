import MockHttp.Proofs.Execution.Components
import MockHttp.Proofs.Execution.Reference

/-! # Cutting a text and joining the parts

The substring of a variable is cut out of its text by the positions of characters. A text that is
cut in two is had again by joining references to both parts, whatever it contains: the values of
references are not rendered once more.
-/

namespace MockHttp

namespace VariableOp

variable {cs : List Char} {start stop cut : Nat}

theorem slice_of_le (h : start ≤ Nat.min stop cs.length) :
    slice cs start stop = some ((cs.take stop).drop start) := by
  have htake : cs.take (Nat.min stop cs.length) = cs.take stop :=
    List.take_eq_take_iff.mpr (Nat.min_eq_left (Nat.min_le_right stop cs.length))
  rw [slice, if_neg (Nat.not_lt.mpr h), htake]

theorem slice_front (cs : List Char) (cut : Nat) : slice cs 0 cut = some (cs.take cut) :=
  slice_of_le (Nat.zero_le _)

theorem slice_back (hcut : cut ≤ cs.length) (hstop : cs.length ≤ stop) :
    slice cs cut stop = some (cs.drop cut) := by
  rw [slice_of_le (Nat.le_min.mpr ⟨hcut.trans hstop, hcut⟩), List.take_of_length_le hstop]

/-- The slice has the characters of the text from `start` up to `stop` or the end. -/
structure IsSlice (cs : List Char) (start stop : Nat) (part : List Char) : Prop where
  length : part.length = Nat.min stop cs.length - start
  chars : ∀ p < part.length, part[p]? = cs[start + p]?

theorem exists_slice (h : start ≤ Nat.min stop cs.length) :
    ∃ part, slice cs start stop = some part ∧ IsSlice cs start stop part := by
  refine ⟨_, slice_of_le h, ?_, fun p hp => ?_⟩
  · rw [List.length_drop, List.length_take]
  · rw [List.length_drop, List.length_take] at hp
    rw [List.getElem?_drop, List.getElem?_take_of_lt (by omega)]

end VariableOp

namespace Execution

variable {e : Execution} {source left right : String} {v : Json}

theorem substring_of_slice {start stop : Nat} {part : List Char} (target : String)
    (hv : e.vars.get? source = some v)
    (h : VariableOp.slice v.displayChars start stop = some part) :
    e.manipulate (.substring source start stop target) =
      e.bind target (.string (String.ofList part)) := by
  rw [manipulate, hv, Option.bind_some, h]

theorem substring_of_lt {start stop : Nat} (target : String) (hv : e.vars.get? source = some v)
    (h : Nat.min stop v.displayChars.length < start) :
    e.manipulate (.substring source start stop target) = e := by
  rw [manipulate, hv, Option.bind_some, VariableOp.slice_eq_none_iff.mpr h]

theorem join_references {s t : String} (target : String) (hleft : Template.IsName left)
    (hright : Template.IsName right) (hs : e.vars.get? left = some (.string s))
    (ht : e.vars.get? right = some (.string t)) :
    e.manipulate
        (.join target (.string "") ([.variable left, .variable right].map Operand.toJson)) =
      e.bind target (.string (s ++ t)) := by
  have hseparator : (e.resolve (.string "")).display = "" := by
    rw [resolve, Template.render_empty, Json.display_string]
  have hjoin : "".intercalate [s, t] = s ++ t := by
    rw [String.intercalate_cons_cons, String.append_empty, String.intercalate_singleton]
  simp only [manipulate, hseparator, List.map_cons, List.map_nil, resolve_reference hleft hs,
    resolve_reference hright ht, Json.display_string, hjoin]

/-- The text is cut in two, and both parts are joined again. -/
def cutAndJoin (source left right target : String) (cut stop : Nat) : Script :=
  [.manipulate (.substring source 0 cut left), .manipulate (.substring source cut stop right),
    .manipulate (.join target (.string "") ([.variable left, .variable right].map Operand.toJson))]

theorem run_cutAndJoin {cut stop : Nat} (hv : e.vars.get? source = some v)
    (hleft : Template.IsName left) (hright : Template.IsName right) (hne : left ≠ right)
    (hsource : left ≠ source) (hcut : cut ≤ v.displayChars.length)
    (hstop : v.displayChars.length ≤ stop) (target : String) (draws : Draws) :
    e.run draws (cutAndJoin source left right target cut stop) =
      ((e.bind left (.string (String.ofList (v.displayChars.take cut)))).bind right
        (.string (String.ofList (v.displayChars.drop cut)))).bind target (.string v.display) := by
  let front : Json := .string (String.ofList (v.displayChars.take cut))
  let back : Json := .string (String.ofList (v.displayChars.drop cut))
  have hfront : e.manipulate (.substring source 0 cut left) = e.bind left front :=
    substring_of_slice left hv (VariableOp.slice_front ..)
  have hkept : (e.bind left front).vars.get? source = some v := by
    rw [bind, Dict.get?_insert, if_neg hsource.symm, hv]
  have hback : (e.bind left front).manipulate (.substring source cut stop right) =
      (e.bind left front).bind right back :=
    substring_of_slice right hkept (VariableOp.slice_back hcut hstop)
  have hbound : ((e.bind left front).bind right back).vars.get? left = some front := by
    rw [bind, Dict.get?_insert, if_neg hne, get?_bind]
  have hjoin := join_references target hleft hright hbound (get?_bind _ right back)
  rw [cutAndJoin, run, step, hfront, run, step, hback, run, step, hjoin, run,
    ← String.ofList_append, List.take_append_drop, Json.display]

theorem decode_cutAndJoin {cut stop : Nat} (source left right target : String)
    (hcut : cut ≤ 2 ^ 53) (hstop : stop ≤ 2 ^ 53) :
    Script.decode [(Draft.substring source 0 cut left).entry,
        (Draft.substring source cut stop right).entry,
        (Draft.join target "" [.variable left, .variable right]).entry] =
      cutAndJoin source left right target cut stop := by
  rw [Script.decode, List.map_cons, List.map_cons, List.map_cons, List.map_nil, cutAndJoin,
    Instruction.decode_entry_of_denotes .substring ⟨Nat.zero_le _, hcut⟩,
    Instruction.decode_entry_of_denotes .substring ⟨hcut, hstop⟩,
    Instruction.decode_entry_of_denotes .join trivial]

/-- Two cuts at one position and a join of references give back the text of any value. A single
substring has the characters between its ends, and if it starts beyond them there is none. -/
theorem join_substrings (hv : e.vars.get? source = some v) (hleft : Template.IsName left)
    (hright : Template.IsName right) (hne : left ≠ right) (hsource : left ≠ source)
    (target : String) (draws : Draws) :
    let n := v.displayChars.length
    (∀ cut stop, cut ≤ n → n ≤ stop →
      let script := cutAndJoin source left right target cut stop
      (e.run draws script).vars.get? target = some (.string v.display) ∧
        (cut ≤ 2 ^ 53 → stop ≤ 2 ^ 53 →
          Script.decode [(Draft.substring source 0 cut left).entry,
            (Draft.substring source cut stop right).entry,
            (Draft.join target "" [.variable left, .variable right]).entry] = script)) ∧
    ∀ start stop d,
      (start ≤ Nat.min stop n → ∃ part, VariableOp.IsSlice v.displayChars start stop part ∧
        e.step d (.manipulate (.substring source start stop target)) =
          e.bind target (.string (String.ofList part))) ∧
      (Nat.min stop n < start →
        e.step d (.manipulate (.substring source start stop target)) = e) := by
  intro n
  refine ⟨fun cut stop hcut hstop => ⟨?_, decode_cutAndJoin _ _ _ _⟩, fun start stop d =>
    ⟨fun h => ?_, substring_of_lt target hv⟩⟩
  · rw [run_cutAndJoin hv hleft hright hne hsource hcut hstop, get?_bind]
  · obtain ⟨part, hpart, hslice⟩ := VariableOp.exists_slice h
    exact ⟨part, hslice, substring_of_slice target hv hpart⟩

/-- The text is cut between the braces of what looks like a reference to one of the parts. From its
end on there is an empty text, and behind it nothing. -/
theorem join_substrings_of_marker :
    let v : Json := .string "\u00e9\x7b\x7b.A\x7d\x7d"
    let e := (start ⟨"GET", "/", [], [], []⟩).bind "S" v
    let draws : Draws := fun _ => ⟨id, 0, .zero false⟩
    let script := Script.decode [(Draft.substring "S" 0 2 "A").entry,
      (Draft.substring "S" 2 99 "B").entry,
      (Draft.join "C" "" [.variable "A", .variable "B"]).entry]
    e.vars.get? "S" = some v ∧ Template.IsName "A" ∧ Template.IsName "B" ∧
      (e.run draws script).vars.get? "C" = some v ∧
      e.step (draws 0) (.manipulate (.substring "S" 7 99 "C")) = e.bind "C" (.string "") ∧
      e.step (draws 0) (.manipulate (.substring "S" 8 99 "C")) = e := by
  intro v e draws script
  have hv : e.vars.get? "S" = some v := get?_bind ..
  have hA : Template.IsName "A" := ⟨by decide, List.all_eq_true.mp (by decide)⟩
  have hB : Template.IsName "B" := ⟨by decide, List.all_eq_true.mp (by decide)⟩
  obtain ⟨hjoin, hcut⟩ := join_substrings hv hA hB (by decide) (by decide) "C" draws
  obtain ⟨hrun, hdecode⟩ := hjoin 2 99 (by decide) (by decide)
  obtain ⟨part, hpart, hstep⟩ := (hcut 7 99 (draws 0)).1 (by decide)
  have hempty : part = [] := List.eq_nil_of_length_eq_zero hpart.length
  refine ⟨hv, hA, hB, ?_, ?_, (hcut 8 99 (draws 0)).2 (by decide)⟩
  · have hscript := hdecode (by decide) (by decide)
    rw [Json.display_string] at hrun
    rw [← hscript] at hrun
    exact hrun
  · rw [hstep, hempty]

end Execution

end MockHttp
