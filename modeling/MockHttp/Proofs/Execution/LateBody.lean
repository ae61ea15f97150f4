import MockHttp.Proofs.Execution.Components
import MockHttp.Proofs.Execution.Conversion
import MockHttp.Proofs.Template.Reference

/-! # The body is bound late

A body is set as a template and rendered when the script is done. No instruction looks at the
template that is pending, so setting it commutes with everything but another such instruction and
a switch of the case.
-/

namespace MockHttp

/-- The block neither switches the case nor sets a body, not even where this does not apply. -/
structure Script.KeepsBody (block : Script) : Prop where
  noSwitch : ∀ source measure c expected label,
    Instruction.test source measure c expected (.switchCase label) ∉ block
  noBody : ∀ label template, Instruction.respond label (.body template) ∉ block

namespace Script.KeepsBody

variable {block : Script}

theorem activeCase_not_mem (h : block.KeepsBody) : .activeCase ∉ block.components := by
  intro hmem
  obtain ⟨i, hi, hc⟩ := List.mem_filterMap.mp hmem
  cases i with
  | test source measure c expected effect =>
    cases effect with
    | switchCase label => exact h.noSwitch _ _ _ _ _ hi
    | bind name v => cases hc
  | respond label op => cases op <;> cases hc
  | extract | generate | manipulate | invalid => cases hc

theorem body_not_mem (h : block.KeepsBody) : .body ∉ block.components := by
  intro hmem
  obtain ⟨i, hi, hc⟩ := List.mem_filterMap.mp hmem
  cases i with
  | test source measure c expected effect => cases effect <;> cases hc
  | respond label op =>
    cases op with
    | body template => exact h.noBody _ _ hi
    | status | wait | randomWait | header | copyHeader => cases hc
  | extract | generate | manipulate | invalid => cases hc

end Script.KeepsBody

namespace Execution

variable {e : Execution}

theorem write?_write_body (e : Execution) (template : String) (d : Draw) (i : Instruction) :
    (e.write (.body template)).write? d i = e.write? d i := by
  cases i with
  | manipulate op => cases op <;> rfl
  | respond label op => cases op <;> rfl
  | test source measure c expected effect => cases effect <;> rfl
  | extract | generate | invalid => rfl

theorem write_write_body (template : String) {w : Write} (h : w.component ≠ .body) :
    (e.write (.body template)).write w = (e.write w).write (.body template) := by
  cases w with
  | body => exact (h rfl).elim
  | bind | unbind | switchCase | status | header | delay | randomDelay => rfl

theorem step_write_body (template : String) (d : Draw) {i : Instruction}
    (h : i.component? ≠ some .body) :
    (e.write (.body template)).step d i = (e.step d i).write (.body template) := by
  rw [step_eq_write, step_eq_write, write?_write_body]
  cases hw : e.write? d i with
  | none => rfl
  | some w =>
    refine write_write_body template fun hc => h ?_
    rw [component_of_write? hw, hc]

theorem run_write_body (template : String) {block : Script} (h : .body ∉ block.components)
    (draws : Draws) (e : Execution) :
    (e.write (.body template)).run draws block = (e.run draws block).write (.body template) := by
  induction block generalizing draws e with
  | nil => rfl
  | cons i block ih =>
    rw [Script.components_cons, List.mem_append, not_or, Option.mem_toList] at h
    rw [run, run, step_write_body template _ h.1, ih h.2]

theorem step_body (e : Execution) (d : Draw) (label template : String) :
    e.step d (.respond label (.body template)) =
      if label = e.activeCase then e.write (.body template) else e :=
  rfl

section Blocks

variable {block : Script}

/-- The block can run on either side of the instruction that sets the body. -/
theorem run_step_body (h : block.KeepsBody) (draws : Draws) (d d' : Draw) (e : Execution)
    (label template : String) :
    (e.step d (.respond label (.body template))).run draws block =
      (e.run draws block).step d' (.respond label (.body template)) := by
  have hcase : (e.run draws block).activeCase = e.activeCase :=
    (agreesOff_run draws e block).activeCase h.activeCase_not_mem
  rw [step_body, step_body, hcase]
  split
  · exact run_write_body template h.body_not_mem draws e
  · rfl

theorem run_move_body (h : block.KeepsBody) (draws : Draws) (e : Execution)
    (label template : String) (after : Script) :
    e.run draws (.respond label (.body template) :: (block ++ after)) =
      e.run draws (block ++ .respond label (.body template) :: after) := by
  have hdraws (draws : Draws) : draws.after (.respond label (.body template)) = draws := rfl
  rw [run_append, run, run, hdraws, hdraws, run_append, run_step_body h]

/-- The body can be set at either end of such a block without any difference in the outcome. If it
is set for the active case, its template is rendered with the variables that the block leaves
behind. -/
theorem outcome_move_body (h : block.KeepsBody) (r : Request) (bindings : List (String × Json))
    (draws : Draws) (chance : Nat) (before after : Script) (label template : String) :
    let i := Instruction.respond label (.body template)
    let state := reached r bindings draws
    (state (before ++ i :: (block ++ after))).outcome chance =
        (state (before ++ (block ++ i :: after))).outcome chance ∧
      (label = (state before).activeCase →
        let e := state (before ++ i :: block)
        (e.finish chance).body = Template.render template e.vars) := by
  intro i state
  refine ⟨?_, fun hlabel => ?_⟩
  · have hstate : state (before ++ i :: (block ++ after)) =
        state (before ++ (block ++ i :: after)) := by
      simp only [state, reached]
      rw [run_append, run_move_body h, ← run_append]
    rw [hstate]
  · intro e
    have hbody : e.pending.body = template := by
      have hstep : (state before).step (draws.afterAll before 0) i =
          (state before).write (.body template) := if_pos hlabel
      have he : e = ((state before).step (draws.afterAll before 0) i).run
          ((draws.afterAll before).after i) block := run_append draws _ before (i :: block)
      rw [he, hstep, run_write_body template h.body_not_mem]
      rfl
    rw [finish, hbody]

/-- The variable is bound and converted behind the body that refers to it. -/
theorem outcome_move_body_before_binding :
    let r : Request := ⟨"GET", "/", [], [], []⟩
    let draws : Draws := fun _ => ⟨id, 2, .zero false⟩
    let i := Instruction.respond "" (.body (Template.referenceTo "V"))
    let block : Script := [.generate (.randomInt 3 7 "V"), .manipulate (.toText "V"),
      .manipulate (.delete "W")]
    let state := reached r [("W", .null)] draws
    block.KeepsBody ∧
      (state (i :: block)).outcome 0 = (state (block ++ [i])).outcome 0 ∧
      (state [i]).vars.get? "V" = none ∧ ((state (i :: block)).finish 0).body = "5" := by
  intro r draws i block state
  have hblock : block.KeepsBody := ⟨by simp [block], by simp [block]⟩
  obtain ⟨houtcome, hbody⟩ :=
    outcome_move_body hblock r [("W", .null)] draws 0 [] [] "" (Template.referenceTo "V")
  have hname : Template.IsName "V" := ⟨by decide, List.all_eq_true.mp (by decide)⟩
  have hvalue : (state (i :: block)).vars.get? "V" = some (.string "5") := by
    have hrun (e : Execution) :
        e.run draws block = (e.bind "V" (.string "5")).write (.unbind "W") := by
      have hgenerate : e.step (draws 0) (.generate (.randomInt 3 7 "V")) =
          e.bind "V" (.int 5) := rfl
      have hconvert : (e.bind "V" (.int 5)).manipulate (.toText "V") =
          e.bind "V" (.string "5") := toText_bind e "V" (.int 5)
      rw [run, hgenerate, run, step, hconvert]
      rfl
    have hstate : state (i :: block) =
        ((prepare r [("W", .null)]).step (draws 0) i).run draws block := rfl
    rw [hstate, hrun, write, Dict.get?_erase, get?_bind]
    rfl
  refine ⟨hblock, ?_, rfl, ?_⟩
  · simpa using houtcome
  · rw [← Json.display_string "5", ← Template.render_referenceTo hname hvalue]
    exact hbody rfl

end Blocks

end Execution

end MockHttp
