import MockHttp.Proofs.Execution.Headers
import MockHttp.Proofs.Http.Authority
import MockHttp.Proofs.Instruction.Denotation
import MockHttp.Proofs.Template.SinglePass

/-! # The announced length

Headers are written while a script runs and the body when it is done, and no one compares them. A
response that announces the length of its body therefore announces what the last instruction wrote
that set or copied that header, and one entry more makes it any number.
-/

namespace MockHttp

namespace Response

def lengthText (r : Response) : Bytes := Text.bytes (Digits.text r.body.length)

/-- A length that is announced is the length of the body. -/
def IsFramed (r : Response) : Prop :=
  ∀ value, r.headers.get? .contentLength = some value → value = r.lengthText

theorem isFramed_iff_of_get? {r : Response} {value : Bytes}
    (h : r.headers.get? .contentLength = some value) : r.IsFramed ↔ value = r.lengthText := by
  constructor
  · exact fun hframed => hframed value h
  · rintro rfl value hvalue
    exact Option.some.inj (hvalue.symm.trans h)

theorem eq_lengthText_iff {r : Response} {n : Nat} :
    Text.bytes (Digits.text n) = r.lengthText ↔ n = r.body.length := by
  constructor
  · intro h
    have htext : Digits.text n = Digits.text r.body.length := by
      rw [← Text.ofBytesLossy_bytes (Digits.text n), h, lengthText, Text.ofBytesLossy_bytes]
    exact Digits.text_injective htext
  · rintro rfl
    rfl

end Response

/-! ## Numbers as header values -/

theorem Template.render_digits (n : Nat) (vars : Variables) :
    Template.render (Digits.text n) vars = Digits.text n := by
  refine Template.render_of_not_mem_brace (fun hbrace => ?_) vars
  exact absurd (Digits.isDigit_of_mem_text hbrace) (by decide)

theorem isHeaderValue_digits (n : Nat) : IsHeaderValue (Text.bytes (Digits.text n)) := by
  refine isHeaderValue_bytes fun c hc => isVisible_of_isAlphanum ?_
  exact Bool.or_eq_true_iff.mpr (.inr (Digits.isDigit_of_mem_text hc))

namespace Execution

variable {r : Request} {bindings : List (String × Json)} {draws : Draws}

section Steps

variable {e : Execution} {i : Instruction} {name : HeaderName} {bytes : Bytes}

/-- Whatever instruction writes a header sets it in the pending response and does nothing else. -/
theorem step_of_writesHeader (hr : e.request = r) (h : WritesHeader r name e i (some bytes))
    (d : Draw) :
    e.step d i =
      { e with pending :=
        { e.pending with headers := e.pending.headers.insert name bytes } } := by
  cases h with
  | set hset hlegal =>
    cases hset
    simp only [step, setUp, if_pos hlegal, if_true]
  | copied hset hbytes hne =>
    cases hset
    have hcopied : e.request.copied? name = some bytes :=
      Request.copied?_eq_some_iff.mpr ⟨hr ▸ hbytes, hne⟩
    simp only [step, setUp_copyHeader, hcopied, if_true]

theorem WritesHeader.unique {v w : Option Bytes} (hv : WritesHeader r name e i v)
    (hw : WritesHeader r name e i w) : v = w := by
  cases hv with
  | set hset _ =>
    cases hset
    cases hw with
    | set hset' _ =>
      cases hset'
      rfl
    | copied hset' _ _ => cases hset'
  | copied hset hbytes _ =>
    cases hset
    cases hw with
    | set hset' _ => cases hset'
    | copied hset' hbytes' _ =>
      cases hset'
      exact hbytes.symm.trans hbytes'

end Steps

variable {chance : Nat}

def responseTo (r : Request) (bindings : List (String × Json)) (draws : Draws) (chance : Nat)
    (entries : List Entry) : Response :=
  ((reached r bindings draws (Script.decode entries)).finish chance).response

theorem responseTo_concat {entries : List Entry} {entry : Entry} {name : HeaderName}
    {bytes : Bytes}
    (h : WritesHeader r name (reached r bindings draws (Script.decode entries)) (.decode entry)
      (some bytes)) :
    responseTo r bindings draws chance (entries ++ [entry]) =
      { responseTo r bindings draws chance entries with
        headers := (responseTo r bindings draws chance entries).headers.insert name bytes } := by
  have hscript : Script.decode (entries ++ [entry]) =
      Script.decode entries ++ [.decode entry] := List.map_append
  unfold responseTo
  rw [hscript, reached, run_concat, ← reached,
    step_of_writesHeader (request_reached r bindings draws _) h]
  rfl

/-- What is announced behind a script is right if it is the length of the body before. -/
theorem isFramed_concat_iff (chance : Nat) {entries : List Entry} {entry : Entry} {bytes : Bytes}
    (h : WritesHeader r .contentLength (reached r bindings draws (Script.decode entries))
      (.decode entry) (some bytes)) :
    let response := responseTo r bindings draws chance
    (response (entries ++ [entry])).body = (response entries).body ∧
      (response (entries ++ [entry])).headers.get? .contentLength = some bytes ∧
      ((response (entries ++ [entry])).IsFramed ↔ bytes = (response entries).lengthText) := by
  intro response
  have hresponse : response (entries ++ [entry]) = _ := responseTo_concat h
  have hbody : (response (entries ++ [entry])).body = (response entries).body := by rw [hresponse]
  have hget : (response (entries ++ [entry])).headers.get? .contentLength = some bytes := by
    rw [hresponse, Dict.get?_insert, if_pos rfl]
  refine ⟨hbody, hget, ?_⟩
  rw [Response.isFramed_iff_of_get? hget, Response.lengthText, hbody]
  rfl

theorem isLegalText_contentLength : HeaderName.IsLegalText "Content-Length" :=
  ⟨by decide, by decide, List.all_eq_true.mp (by decide)⟩

theorem writesHeader_digits (r : Request) (e : Execution) (n : Nat) :
    WritesHeader r .contentLength e
      (.decode (Draft.header e.activeCase "Content-Length" (Digits.text n)).entry)
      (some (Text.bytes (Digits.text n))) := by
  rw [Instruction.decode_entry_of_denotes (.header (h := .contentLength) (by decide))
    isLegalText_contentLength]
  have hrender := Template.render_digits n e.vars
  have hwrites := @WritesHeader.set r .contentLength e _ (Digits.text n) rfl
  rw [hrender] at hwrites
  exact hwrites (isHeaderValue_digits n)

theorem writesHeader_copied {e : Execution} {value : Bytes}
    (h : r.headerBytes? .contentLength = some value) (hne : value ≠ []) :
    WritesHeader r .contentLength e
      (.decode (Draft.copyHeader e.activeCase "Content-Length").entry) (some value) := by
  rw [Instruction.decode_entry_of_denotes (.copyHeader (h := .contentLength) (by decide))
    isLegalText_contentLength]
  exact .copied rfl h hne

/-- The length that a response announces is that of its body exactly if the last instruction that
set or copied the header wrote that number. No length is announced unless an entry names the
header, and one entry behind any script has it announce any number, or the length of the request,
with the body as before. -/
theorem isFramed_iff_last_announcement (r : Request) (bindings : List (String × Json))
    (draws : Draws) (chance : Nat) (entries : List Entry) :
    let state := reached r bindings draws
    let response := responseTo r bindings draws chance
    let announces := WritesAt state (WritesHeader r .contentLength) (Script.decode entries)
    let label := (state (Script.decode entries)).activeCase
    ((response entries).IsFramed ↔ ∀ k value, announces k (some value) →
      (∀ j, k < j → ∀ w, ¬ announces j w) → value = (response entries).lengthText) ∧
    ((response entries).headers.get? .contentLength = none ∨
      ∃ entry ∈ entries, entry.NamesHeader .contentLength) ∧
    (∀ n,
      let longer :=
        response (entries ++ [(Draft.header label "Content-Length" (Digits.text n)).entry])
      longer.body = (response entries).body ∧
        longer.headers.get? .contentLength = some (Text.bytes (Digits.text n)) ∧
        (longer.IsFramed ↔ n = (response entries).body.length)) ∧
    ∀ value, r.headerBytes? .contentLength = some value → value ≠ [] →
      let longer := response (entries ++ [(Draft.copyHeader label "Content-Length").entry])
      longer.body = (response entries).body ∧
        longer.headers.get? .contentLength = some value ∧
        (longer.IsFramed ↔ value = (response entries).lengthText) := by
  intro state response announces label
  have hlast : LastWrite announces none ((response entries).headers.get? .contentLength) :=
    lastWrite_header .contentLength (Script.decode entries)
  refine ⟨⟨?_, ?_⟩, ?_, fun n => ?_, fun value hvalue hne => ?_⟩
  · intro hframed k value hwrites hlater
    refine hframed value (LastWrite.unique ?_ hlast (.written hwrites hlater))
    rintro k v w ⟨i, hi, hv⟩ ⟨i', hi', hw⟩
    obtain rfl := Option.some.inj (hi.symm.trans hi')
    exact hv.unique hw
  · intro h value hvalue
    rw [hvalue] at hlast
    cases hlast with
    | written hwrites hlater => exact h _ value hwrites hlater
  · cases hget : (response entries).headers.get? .contentLength with
    | none => exact .inl rfl
    | some value =>
      obtain ⟨i, hi, e, hwrites⟩ := exists_writesHeader hget
      obtain ⟨entry, hentry, rfl⟩ := List.mem_map.mp hi
      exact .inr ⟨entry, hentry, hwrites.namesHeader⟩
  · have hwrites := writesHeader_digits r (state (Script.decode entries)) n
    obtain ⟨hbody, hget, hframed⟩ := isFramed_concat_iff chance hwrites
    exact ⟨hbody, hget, hframed.trans Response.eq_lengthText_iff⟩
  · exact isFramed_concat_iff chance (writesHeader_copied hvalue hne)

/-- The length of the request is copied to a response without a body, and a number from the query
is announced in front of a body of another length. -/
theorem not_isFramed_copied_or_set :
    let draws : Draws := fun _ => ⟨id, 0, .zero false⟩
    let posted : Request := ⟨"POST", "/", [], [(.contentLength, Text.bytes "5")],
      Text.bytes "hello"⟩
    let asked : Request := ⟨"GET", "/", [("n", "3")], [], []⟩
    let copying : List Entry :=
      [⟨"SetupResponse", "CopyHeaderFromRequest", [.string "", .string "Content-Length"]⟩]
    let setting : List Entry :=
      [⟨"PrepareData", "ExtractRequestQuery", [.string "n", .string "N"]⟩,
        ⟨"SetupResponse", "SetHeader",
          [.string "", .string "Content-Length", .string "\x7b\x7b.N\x7d\x7d"]⟩,
        ⟨"SetupResponse", "SetJsonBody", [.string "", .string "hello"]⟩]
    ¬ (responseTo posted [] draws 0 copying).IsFramed ∧
      ¬ (responseTo asked [] draws 0 setting).IsFramed := by
  intro draws posted asked copying setting
  have hcopied : (responseTo posted [] draws 0 copying).headers.get? .contentLength =
      some (Text.bytes "5") := by decide +kernel
  have hset : (responseTo asked [] draws 0 setting).headers.get? .contentLength =
      some (Text.bytes "3") := by decide +kernel
  rw [Response.isFramed_iff_of_get? hcopied, Response.isFramed_iff_of_get? hset]
  decide +kernel

end Execution

end MockHttp
