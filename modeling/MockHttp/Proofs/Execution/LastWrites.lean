import MockHttp.Proofs.Execution.Run
import MockHttp.Proofs.Instruction.Decode
import MockHttp.Proofs.LastWrite
import MockHttp.Proofs.Template.Reference

/-! # The last matching write wins

The active case, the status, the body, each header and the delay of a response are what the last
instruction wrote that applied when it was reached. Header values are rendered where they are set
and the body when the script is done.
-/

namespace MockHttp

namespace Execution

def SwitchesTo (e : Execution) (i : Instruction) (label : String) : Prop :=
  ∃ source measure c expected, i = .test source measure c expected (.switchCase label) ∧
    e.passes source measure c expected = true

def SetsUp (e : Execution) (i : Instruction) (op : ResponseOp) : Prop :=
  i = .respond e.activeCase op

/-- A header is set to a legal value, or copied from a request where it is not empty. -/
inductive WritesHeader (r : Request) (name : HeaderName) (e : Execution) (i : Instruction) :
    Option Bytes → Prop where
  | set {value : String} : SetsUp e i (.header name value) →
      IsHeaderValue (Text.bytes (Template.render value e.vars)) →
      WritesHeader r name e i (some (Text.bytes (Template.render value e.vars)))
  | copied {bytes : Bytes} : SetsUp e i (.copyHeader name) → r.headerBytes? name = some bytes →
      bytes ≠ [] → WritesHeader r name e i (some bytes)

/-- The share of a random delay: nothing if it is at most zero, and else a number in its range. -/
def drawnDelay (min max chance : Nat) : Nat :=
  if max = 0 then 0 else Nat.min min max + chance % (max - Nat.min min max + 1)

theorem drawnDelay_mem {max : Nat} (min chance : Nat) (h : 0 < max) :
    Nat.min min max ≤ drawnDelay min max chance ∧ drawnDelay min max chance ≤ max := by
  have hlow : Nat.min min max ≤ max := Nat.min_le_right ..
  have hmod := Nat.mod_lt chance (show 0 < max - Nat.min min max + 1 by omega)
  rw [drawnDelay, if_neg (by omega)]
  omega

variable {r : Request} {bindings : List (String × Json)} {draws : Draws}

section Observations

variable {α : Type} {writes : Execution → Instruction → α → Prop}

/-- What one step writes or keeps, a script leaves as it was written last. -/
theorem lastWrite_reached (observe : Execution → α)
    (step : ∀ e d i, e.request = r → writes e i (observe (e.step d i)) ∨
      (∀ v, ¬ writes e i v) ∧ observe (e.step d i) = observe e) (script : Script) :
    LastWrite (WritesAt (reached r bindings draws) writes script)
      (observe (prepare r bindings)) (observe (reached r bindings draws script)) := by
  refine lastWrite_of_step observe (fun script i => ?_) script
  unfold reached
  rw [run_concat]
  exact step _ _ i (request_reached r bindings draws script)

theorem lastWrite_pending (field : Pending → α)
    (guarded : ∀ e i v, writes e i v → ∃ op, SetsUp e i op)
    (setUp : ∀ e op, e.request = r →
      writes e (.respond e.activeCase op) (field (e.setUp op)) ∨
        (∀ v, ¬ writes e (.respond e.activeCase op) v) ∧ field (e.setUp op) = field e.pending)
    (script : Script) :
    LastWrite (WritesAt (reached r bindings draws) writes script) (field {})
      (field (reached r bindings draws script).pending) := by
  have hstart : (prepare r bindings).pending = {} := (sameButVars_prepare r bindings).pending
  rw [← hstart]
  refine lastWrite_reached (fun e => field e.pending) (fun e d i hr => ?_) script
  simp only [pending_step]
  by_cases hi : ∃ op, SetsUp e i op
  · obtain ⟨op, rfl⟩ := hi
    simp only [if_pos]
    exact setUp e op hr
  · refine .inr ⟨fun v hv => hi (guarded e i v hv), ?_⟩
    split
    · rename_i label op
      rw [if_neg]
      rintro rfl
      exact hi ⟨op, rfl⟩
    · rfl

end Observations

theorem lastWrite_activeCase (script : Script) :
    LastWrite (WritesAt (reached r bindings draws) SwitchesTo script) ""
      (reached r bindings draws script).activeCase := by
  have hstart : (prepare r bindings).activeCase = "" := (sameButVars_prepare r bindings).activeCase
  rw [← hstart]
  refine lastWrite_reached (·.activeCase) (fun e d i _ => ?_) script
  simp only [activeCase_step]
  split
  · rename_i source measure c expected label
    split
    · rename_i hp
      exact .inl ⟨source, measure, c, expected, rfl, hp⟩
    · rename_i hp
      refine .inr ⟨?_, rfl⟩
      rintro v ⟨_, _, _, _, he, hp'⟩
      cases he
      exact hp hp'
  · rename_i hi
    refine .inr ⟨?_, rfl⟩
    rintro v ⟨source, measure, c, expected, rfl, _⟩
    exact hi _ _ _ _ _ rfl

theorem lastWrite_status (script : Script) :
    LastWrite
      (WritesAt (reached r bindings draws)
        (fun e i code => SetsUp e i (.status code) ∧ IsStatusCode code) script)
      defaultStatus ((reached r bindings draws script).pending.status.getD defaultStatus) := by
  refine lastWrite_pending (fun p => p.status.getD defaultStatus) (fun _ _ _ h => ⟨_, h.1⟩) ?_
    script
  intro e op _
  simp only [status_setUp]
  cases op with
  | status code =>
    by_cases hcode : IsStatusCode code
    · simp only [if_pos hcode]
      exact .inl ⟨rfl, hcode⟩
    · simp only [if_neg hcode, and_true]
      right
      rintro v ⟨hv, hlegal⟩
      cases hv
      exact hcode hlegal
  | _ =>
    refine .inr ⟨?_, rfl⟩
    rintro v ⟨hv, -⟩
    cases hv

theorem lastWrite_status_decode (entries : List Entry) :
    LastWrite
      (WritesAt (reached r bindings draws) (fun e i code => SetsUp e i (.status code))
        (Script.decode entries))
      defaultStatus
      ((reached r bindings draws (Script.decode entries)).pending.status.getD defaultStatus) := by
  have hlegal : ∀ (e : Execution), ∀ i ∈ Script.decode entries, ∀ code,
      SetsUp e i (.status code) ∧ IsStatusCode code ↔ SetsUp e i (.status code) := by
    refine fun e i hi code => and_iff_left_of_imp ?_
    rintro rfl
    obtain ⟨entry, -, hentry⟩ := List.mem_map.mp hi
    exact Instruction.isStatusCode_of_decode hentry
  rw [← writesAt_congr hlegal]
  exact lastWrite_status (Script.decode entries)

theorem lastWrite_body (vars : Variables) (script : Script) :
    LastWrite
      (WritesAt (reached r bindings draws)
        (fun e i text => ∃ template, SetsUp e i (.body template) ∧
          text = Template.render template vars) script)
      "" (Template.render (reached r bindings draws script).pending.body vars) := by
  rw [← Template.render_empty vars]
  refine lastWrite_pending (fun p => Template.render p.body vars) ?_ ?_ script
  · rintro e i text ⟨template, h, -⟩
    exact ⟨_, h⟩
  · intro e op _
    simp only [body_setUp]
    cases op with
    | body template => exact .inl ⟨template, rfl, rfl⟩
    | _ =>
      refine .inr ⟨?_, rfl⟩
      rintro v ⟨_, hv, -⟩
      cases hv

theorem lastWrite_delay (script : Script) :
    LastWrite
      (WritesAt (reached r bindings draws) (fun e i millis => SetsUp e i (.wait millis)) script)
      0 (reached r bindings draws script).pending.delay := by
  refine lastWrite_pending (·.delay) (fun _ _ _ h => ⟨_, h⟩) ?_ script
  intro e op _
  simp only [delay_setUp]
  cases op with
  | wait millis => exact .inl rfl
  | _ =>
    refine .inr ⟨?_, rfl⟩
    rintro v hv
    cases hv

def extraDelay (chance : Nat) : Option (Nat × Nat) → Nat
  | some (min, max) => drawnDelay min max chance
  | none => 0

theorem totalDelay_eq (p : Pending) (chance : Nat) :
    p.totalDelay chance = p.delay + extraDelay chance p.randomDelay := by
  unfold Pending.totalDelay extraDelay drawnDelay
  cases p.randomDelay with
  | none => rfl
  | some range =>
    obtain ⟨min, max⟩ := range
    by_cases h : max = 0
    · simp only [if_pos h, Nat.add_zero]
    · simp only [if_neg h, Nat.add_assoc]

theorem lastWrite_extraDelay (chance : Nat) (script : Script) :
    LastWrite
      (WritesAt (reached r bindings draws)
        (fun e i extra => ∃ min max, SetsUp e i (.randomWait min max) ∧
          extra = drawnDelay min max chance) script)
      0 (extraDelay chance (reached r bindings draws script).pending.randomDelay) := by
  refine lastWrite_pending (fun p => extraDelay chance p.randomDelay) ?_ ?_ script
  · rintro e i extra ⟨min, max, h, -⟩
    exact ⟨_, h⟩
  · intro e op _
    simp only [randomDelay_setUp]
    cases op with
    | randomWait min max => exact .inl ⟨min, max, rfl, rfl⟩
    | _ =>
      refine .inr ⟨?_, rfl⟩
      rintro v ⟨_, _, hv, -⟩
      cases hv

theorem writesHeader_iff {name : HeaderName} {e : Execution} {op : ResponseOp} {v : Option Bytes} :
    WritesHeader e.request name e (.respond e.activeCase op) v ↔
      ∃ bytes, e.headerWrite? op = some (name, bytes) ∧ v = some bytes := by
  constructor
  · intro h
    cases h with
    | set h hlegal =>
      cases h
      exact ⟨_, if_pos hlegal, rfl⟩
    | @copied bytes h hb hne =>
      cases h
      refine ⟨bytes, ?_, rfl⟩
      simp [headerWrite?, Request.copied?_eq_some_iff.mpr ⟨hb, hne⟩]
  · rintro ⟨bytes, h, rfl⟩
    cases op with
    | header name' value =>
      simp only [headerWrite?, Option.ite_none_right_eq_some, Option.some.injEq,
        Prod.mk.injEq] at h
      obtain ⟨hlegal, rfl, rfl⟩ := h
      exact .set rfl hlegal
    | copyHeader name' =>
      simp only [headerWrite?, Option.map_eq_some_iff, Prod.mk.injEq] at h
      obtain ⟨_, hc, rfl, rfl⟩ := h
      obtain ⟨hb, hne⟩ := Request.copied?_eq_some_iff.mp hc
      exact .copied rfl hb hne
    | _ => cases h

theorem lastWrite_header (name : HeaderName) (script : Script) :
    LastWrite (WritesAt (reached r bindings draws) (WritesHeader r name) script) none
      ((reached r bindings draws script).pending.headers.get? name) := by
  refine lastWrite_pending (·.headers.get? name) ?_ ?_ script
  · intro e i v hv
    cases hv with
    | set h _ => exact ⟨_, h⟩
    | copied h _ _ => exact ⟨_, h⟩
  · rintro e op rfl
    simp only [headers_setUp, writesHeader_iff]
    cases hw : e.headerWrite? op with
    | none =>
      refine .inr ⟨?_, rfl⟩
      rintro v ⟨_, h, -⟩
      cases h
    | some write =>
      obtain ⟨name', bytes⟩ := write
      simp only [Dict.get?_insert]
      by_cases hn : name = name'
      · subst hn
        exact .inl ⟨bytes, rfl, if_pos rfl⟩
      · refine .inr ⟨?_, if_neg hn⟩
        rintro v ⟨_, h, -⟩
        cases h
        exact hn rfl

/-- Each part of a response is what was written last while its case was active. The delay has a
fixed share and one that is drawn from the range that was set last. -/
theorem rendered_eq_lastWrite (r : Request) (bindings : List (String × Json)) (draws : Draws)
    (entries : List Entry) (chance : Nat) :
    let script := Script.decode entries
    let state := reached r bindings draws
    let rendered := (state script).finish chance
    LastWrite (WritesAt state SwitchesTo script) "" (state script).activeCase ∧
    LastWrite (WritesAt state (fun e i code => SetsUp e i (.status code)) script) 200
      rendered.status ∧
    LastWrite
      (WritesAt state (fun e i text => ∃ template, SetsUp e i (.body template) ∧
        text = Template.render template (state script).vars) script)
      "" rendered.body ∧
    (∀ name, LastWrite (WritesAt state (WritesHeader r name) script) none
      (rendered.headers.get? name)) ∧
    (∃ millis extra, rendered.delay = millis + extra ∧
      LastWrite (WritesAt state (fun e i millis => SetsUp e i (.wait millis)) script) 0 millis ∧
      LastWrite
        (WritesAt state (fun e i extra => ∃ min max, SetsUp e i (.randomWait min max) ∧
          extra = drawnDelay min max chance) script)
        0 extra) ∧
    ∀ min max, 0 < max →
      Nat.min min max ≤ drawnDelay min max chance ∧ drawnDelay min max chance ≤ max := by
  intro script state rendered
  refine ⟨lastWrite_activeCase script, lastWrite_status_decode entries, lastWrite_body _ script,
    fun name => lastWrite_header name script, ?_, fun min _ h => drawnDelay_mem min chance h⟩
  exact ⟨_, _, totalDelay_eq .., lastWrite_delay script, lastWrite_extraDelay chance script⟩

end Execution

end MockHttp
