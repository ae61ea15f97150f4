import MockHttp.Proofs.Execution.Run
import MockHttp.Proofs.Execution.Sampler
import MockHttp.Proofs.Instruction.Range

/-! # Where a script fails

Strict execution of decoded instructions is what execution is, in every state that can be reached
and whatever is drawn, unless an instruction has bounds that the sampler of decimals refuses. All
other operations are in their domain: the numbers of the instructions are in range because decoding
has checked them, and so are the delays that are pending when a script is done.
-/

namespace MockHttp

/-- The sampler refuses the bounds. -/
def Generator.isRefused : Generator → Bool
  | .randomDecimal low high _ _ => Sampler.Refuses low high
  | _ => false

def Instruction.isRefused : Instruction → Bool
  | .generate g => g.isRefused
  | _ => false

def Script.isRefused (script : Script) : Bool := script.any Instruction.isRefused

/-- The delays are below `2 ^ 63` milliseconds. -/
structure Pending.Bounded (p : Pending) : Prop where
  delay : p.delay < 0x8000000000000000
  randomDelay {min max : Nat} :
    p.randomDelay = some (min, max) → min < 0x8000000000000000 ∧ max < 0x8000000000000000

namespace Strict

/-! ## Operations in their domain -/

theorem isInt64_pow {n : Nat} (h : n ≤ maxDigits) : IsInt64 ((Nat.pow 10 n : Nat) : Int) := by
  have hpow : Nat.pow 10 n ≤ Nat.pow 10 18 := Nat.pow_le_pow_right (by decide) h
  have h18 : Nat.pow 10 18 ≤ 0x7FFFFFFFFFFFFFFF := by decide
  unfold IsInt64
  omega

theorem powerOfTen_of_le {n : Nat} (h : n ≤ maxDigits) :
    powerOfTen n = .ok (Nat.pow 10 n : Nat) :=
  if_pos (isInt64_pow h)

theorem predecessor_of_pos {n : Nat} (h : 1 ≤ n) : predecessor n = .ok (n - 1) := by
  cases n with
  | zero => omega
  | succ n => rfl

theorem pow_pred_lt {n : Nat} (h : 1 ≤ n) : Nat.pow 10 (n - 1) < Nat.pow 10 n :=
  Nat.pow_lt_pow_right (by decide) (Nat.sub_one_lt_of_lt h)

theorem draw_of_between {d : Draw} {low high n : Int} (h : d.between low high = some n) :
    draw d.offset low high = .ok n := by
  unfold Draw.between at h
  unfold draw
  split at h
  · cases h
  · next hle =>
    cases h
    exact if_neg hle

theorem exists_between {low high : Int} (h : low ≤ high) (d : Draw) :
    ∃ n, d.between low high = some n :=
  ⟨_, if_neg (Int.not_lt.mpr h)⟩

theorem slice_of_le {cs : List Char} {start stop : Nat} (h : start ≤ stop)
    (hstop : stop ≤ cs.length) : slice cs start stop = .ok ((cs.take stop).drop start) :=
  if_pos ⟨h, hstop⟩

/-! ## Instructions -/

theorem value?_of_inRange {g : Generator} (h : g.InRange) (vars : Variables) (d : Draw) :
    value? vars d g =
      if g.isRefused then .error .rangeOverflow else .ok (g.value? vars d) := by
  cases g with
  | randomInt min max target =>
    simp only [value?, Generator.value?, Generator.isRefused]
    split
    · next hempty => rw [Draw.between, if_pos hempty]; rfl
    · next hle =>
      obtain ⟨n, hn⟩ := exists_between (Int.not_lt.mp hle) d
      rw [hn, draw_of_between hn]
      rfl
  | randomDigits digits target =>
    obtain ⟨hlow, hhigh⟩ := h
    have hpred : digits - 1 ≤ maxDigits := Nat.le_trans (Nat.sub_le ..) hhigh
    have hpow := isInt64_pow hhigh
    have hnines : int64 ((Nat.pow 10 digits : Nat) - 1) = .ok ((Nat.pow 10 digits : Nat) - 1) :=
      if_pos (by unfold IsInt64 at hpow ⊢; omega)
    have hle : ((Nat.pow 10 (digits - 1) : Nat) : Int) ≤ (Nat.pow 10 digits : Nat) - 1 :=
      Int.le_sub_one_of_lt (Int.ofNat_lt.mpr (pow_pred_lt hlow))
    obtain ⟨n, hn⟩ := exists_between hle d
    simp only [value?, predecessor_of_pos hlow, powerOfTen_of_le hpred, powerOfTen_of_le hhigh,
      bind, Except.bind, hnines, draw_of_between hn]
    simp only [Generator.value?, Generator.isRefused]
    exact congrArg (fun v => Except.ok (Option.map Json.int v)) hn.symm
  | randomDecimal low high decimals target =>
    simp only [value?, Generator.value?, Generator.isRefused, decimal_eq, decide_eq_true_eq]
    split <;> rfl
  | randomString | hash => rfl

theorem generate_of_inRange {g : Generator} (h : g.InRange) (e : Execution) (d : Draw) :
    generate e d g =
      if g.isRefused then .error .rangeOverflow else .ok (e.generate d g) := by
  simp only [generate, value?_of_inRange h, Execution.generate]
  split
  · rfl
  · simp only [bind, Except.bind]
    cases g.value? e.vars d <;> rfl

theorem manipulate_eq (e : Execution) (op : VariableOp) :
    manipulate e op = .ok (e.manipulate op) := by
  cases op with
  | substring source start stop target =>
    simp only [manipulate, Execution.manipulate]
    cases e.vars.get? source with
    | none => rfl
    | some v =>
      simp only [Option.bind_some, VariableOp.slice]
      split
      · rfl
      · next hle =>
        rw [slice_of_le (Nat.not_lt.mp hle) (Nat.min_le_right ..)]
        rfl
  | toText | toInteger | delete | join => rfl

theorem setUp_of_inRange {op : ResponseOp} (h : op.InRange) (e : Execution) :
    setUp e op = .ok (e.setUp op) := by
  cases op with
  | status code =>
    have hcode : status code = .ok code := if_pos h
    simp only [setUp, hcode, Execution.setUp, if_pos (show IsStatusCode code from h)]
    rfl
  | body | wait | randomWait | header | copyHeader => rfl

theorem step_of_inRange {i : Instruction} (h : i.InRange) (d : Draw) (e : Execution) :
    step d e i = if i.isRefused then .error .rangeOverflow else .ok (e.step d i) := by
  cases i with
  | generate g => exact generate_of_inRange h e d
  | manipulate op => exact manipulate_eq e op
  | respond label op =>
    simp only [step, Execution.step, setUp_of_inRange h e, Instruction.isRefused]
    split <;> rfl
  | extract | test | invalid => rfl

example (d : Draw) (e : Execution) :
    step d e (.generate (.randomDigits 0 "N")) = .error .underflow ∧
      step d e (.generate (.randomDigits 19 "N")) = .error .overflow :=
  ⟨rfl, rfl⟩

theorem run_of_inRange {script : Script} (h : ∀ i ∈ script, i.InRange) (draws : Draws)
    (e : Execution) :
    run draws e script =
      if script.isRefused then .error .rangeOverflow else .ok (e.run draws script) := by
  induction script generalizing draws e with
  | nil => rfl
  | cons i rest ih =>
    have hi := step_of_inRange (h i List.mem_cons_self) (draws 0) e
    have hrest := ih (fun j hj => h j (List.mem_cons_of_mem i hj)) (draws.after i)
      (e.step (draws 0) i)
    have hrefused : Script.isRefused (i :: rest) = (i.isRefused || Script.isRefused rest) := rfl
    rw [run, hi, Execution.run, hrefused]
    cases i.isRefused with
    | true => rfl
    | false => exact hrest

/-! ## Delays -/

theorem addMillis_of_lt {a b : Nat} (ha : a < 0x8000000000000000) (hb : b < 0x8000000000000000) :
    addMillis a b = .ok (a + b) :=
  if_pos (by omega)

theorem totalDelay_of_bounded {p : Pending} (h : p.Bounded) (chance : Nat) :
    totalDelay p chance = .ok (p.totalDelay chance) := by
  unfold totalDelay Pending.totalDelay
  cases hr : p.randomDelay with
  | none => rfl
  | some bounds =>
    obtain ⟨min, max⟩ := bounds
    have hmax := (h.randomDelay hr).2
    simp only
    split
    · rfl
    · next hpos =>
      have hlow : Nat.min min max ≤ max := Nat.min_le_right ..
      have hspan : ((max : Int) - (Nat.min min max : Nat) + 1).toNat =
          max - Nat.min min max + 1 := by
        omega
      have hmod := Nat.mod_lt chance (show 0 < max - Nat.min min max + 1 by omega)
      have hdraw : draw chance (Nat.min min max : Nat) max =
          .ok (Nat.min min max + (chance % (max - Nat.min min max + 1) : Nat) : Nat) := by
        rw [draw, if_neg (by omega), hspan]
        rfl
      have hmillis : Nat.min min max + chance % (max - Nat.min min max + 1) <
          0x8000000000000000 := by omega
      simp only [hdraw, bind, Except.bind, Int.toNat_natCast, addMillis_of_lt h.delay hmillis,
        Nat.add_assoc]

theorem finish_of_bounded {e : Execution} (h : e.pending.Bounded) (chance : Nat) :
    finish e chance = .ok (e.finish chance) := by
  simp only [finish, totalDelay_of_bounded h chance]
  rfl

end Strict

namespace Execution

variable {e : Execution}

theorem bounded_start (r : Request) : (start r).pending.Bounded where
  delay := Nat.zero_lt_succ _
  randomDelay h := by cases h

theorem bounded_setUp {op : ResponseOp} (hop : op.InRange) (h : e.pending.Bounded) :
    (e.setUp op).Bounded where
  delay := by
    rw [delay_setUp]
    split
    · exact hop
    · exact h.delay
  randomDelay hr := by
    rw [randomDelay_setUp] at hr
    split at hr
    · cases hr
      exact hop
    · exact h.randomDelay hr

theorem bounded_step {i : Instruction} (hi : i.InRange) (h : e.pending.Bounded) (d : Draw) :
    (e.step d i).pending.Bounded := by
  rw [pending_step]
  split
  · split
    · exact bounded_setUp hi h
    · exact h
  · exact h

theorem bounded_run {script : Script} (hs : ∀ i ∈ script, i.InRange) (h : e.pending.Bounded)
    (draws : Draws) : (e.run draws script).pending.Bounded := by
  induction script generalizing draws e with
  | nil => exact h
  | cons i rest ih =>
    have hi := bounded_step (hs i List.mem_cons_self) h (draws 0)
    exact ih (fun j hj => hs j (List.mem_cons_of_mem i hj)) hi (draws.after i)

/-- The states that decoded instructions and bindings lead to from a request. -/
inductive Reachable : Execution → Prop where
  | start (r : Request) : Reachable (start r)
  | bind {e : Execution} (name : String) (v : Json) : Reachable e → Reachable (e.bind name v)
  | step {e : Execution} (d : Draw) (entry : Entry) :
      Reachable e → Reachable (e.step d (.decode entry))

theorem bounded_of_reachable (h : Reachable e) : e.pending.Bounded := by
  induction h with
  | start r => exact bounded_start r
  | bind name v _ ih => exact ih
  | step d entry _ ih => exact bounded_step (Instruction.inRange_decode entry) ih d

/-- From any state that can be reached, each strict step, the strict run of any entries and the
strict end of the script give what execution gives. Of all operations only the sampler of decimals
can fail, and it fails where it refuses the bounds of an instruction. -/
theorem strict_of_reachable (h : Reachable e) (entries : List Entry) (draws : Draws)
    (chance : Nat) :
    (∀ entry ∈ entries, (Instruction.decode entry).InRange ∧
        ∀ d, Strict.step d e (.decode entry) =
          if (Instruction.decode entry).isRefused then .error .rangeOverflow
          else .ok (e.step d (.decode entry))) ∧
      Strict.run draws e (Script.decode entries) =
        (if (Script.decode entries).isRefused then .error .rangeOverflow
        else .ok (e.run draws (Script.decode entries))) ∧
      Strict.finish (e.run draws (Script.decode entries)) chance =
        .ok ((e.run draws (Script.decode entries)).finish chance) := by
  have hrange : ∀ i ∈ Script.decode entries, i.InRange := by
    intro i hi
    obtain ⟨entry, -, rfl⟩ := List.mem_map.mp hi
    exact Instruction.inRange_decode entry
  have hbounded := bounded_run hrange (bounded_of_reachable h) draws
  refine ⟨fun entry _ => ?_, Strict.run_of_inRange hrange draws e,
    Strict.finish_of_bounded hbounded chance⟩
  have hentry := Instruction.inRange_decode entry
  exact ⟨hentry, fun d => Strict.step_of_inRange hentry d e⟩

/-- Numbers at their bounds: the most digits, an empty range, a slice at the end of its text, the
last legal code, the longest delay that decoding lets through, and bounds in reverse order. -/
theorem strict_at_bounds :
    let e := (start ⟨"GET", "/", [], [], []⟩).bind "S" (.string "añb")
    let draws : Draws := fun _ => ⟨id, 0, .zero false⟩
    let entries : List Entry :=
      [⟨"Generator", "GenerateRandomIntFixLength", [.string " 18 ", .string "D"]⟩,
        ⟨"Generator", "GenerateRandomInt", [.int 7, .int 3, .string "N"]⟩,
        ⟨"Generator", "GenerateRandomDecimal", [.int 0, .int 1, .int 2, .string "X"]⟩,
        ⟨"DynamicVariable", "DynamicVarSubstring",
          [.string "S", .nat 3, .nat 9223372036854774784, .string "T"]⟩,
        ⟨"SetupResponse", "SetStatusCode", [.string "", .string "999"]⟩,
        ⟨"SetupResponse", "SetWait", [.string "", .nat 9223372036854774784]⟩,
        ⟨"SetupResponse", "SetRandomWait", [.string "", .nat 7, .nat 5]⟩]
    Reachable e ∧ (∀ entry ∈ entries, (Instruction.decode entry).isValid = true) ∧
      Strict.run draws e (Script.decode entries) = .ok (e.run draws (Script.decode entries)) ∧
      Strict.finish (e.run draws (Script.decode entries)) 3 =
        .ok ((e.run draws (Script.decode entries)).finish 3) ∧
      ((e.run draws (Script.decode entries)).finish 3).delay = 9223372036854774784 + 5 := by
  intro e draws entries
  have he : Reachable e := .bind "S" _ (.start _)
  have haccepted : (Script.decode entries).isRefused = false := by decide +kernel
  obtain ⟨-, hrun, hfinish⟩ := strict_of_reachable he entries draws 3
  simp only [haccepted, Bool.false_eq_true, if_false] at hrun
  exact ⟨he, by decide +kernel, hrun, hfinish, by decide +kernel⟩

end Execution

end MockHttp
