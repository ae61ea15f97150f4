import MockHttp.Proofs.Execution.LastWrites

/-! # No header is smuggled in

Texts of the request may end up in the value of a header by way of variables and templates. Each
header of a response is still named by an entry of the script, and its value cannot end the line
that it stands on: set-up refuses what could, and what is copied was legal in the request.
-/

namespace MockHttp

/-- The entry sets a header or copies one, and the argument behind its label is the name, in
letters of either case. -/
structure Entry.NamesHeader (entry : Entry) (name : HeaderName) : Prop where
  group : entry.group ∈ Group.responses.names
  function : entry.function = ResponseWord.header.name ∨
    entry.function = ResponseWord.copyHeader.name
  argument : ∃ v, entry.args[1]? = some v ∧ name.chars = v.display.toList.map Char.toLower

/-! ## Names come from entries -/

theorem ResponseWord.name_eq_of_ofName? {s : String} {w : ResponseWord} (h : ofName? s = some w) :
    w.name = s := by
  have hname := List.find?_some h
  exact beq_iff_eq.mp hname

namespace Arguments

variable {args : Arguments} {i : Nat}

theorem name_eq_ok_iff {s : String} :
    name args i = .ok s ↔ ∃ v, args[i]? = some v ∧ v.display = s := by
  unfold name value
  cases args[i]? <;> simp [Except.map]

theorem headerName_eq_ok {header : HeaderName} (h : headerName args i = .ok header) :
    ∃ v, args[i]? = some v ∧ header.chars = v.display.toList.map Char.toLower := by
  obtain ⟨text, htext, h⟩ := bind_eq_ok_iff.mp h
  obtain ⟨v, hv, rfl⟩ := name_eq_ok_iff.mp htext
  split at h
  · next found hfound =>
    cases h
    exact ⟨v, hv, HeaderName.ofText?_eq_some_iff.mp hfound⟩
  · cases h

end Arguments

namespace Instruction

variable {entry : Entry} {label : String} {op : ResponseOp} {header : HeaderName}

theorem exists_word_of_decode (h : decode entry = .respond label op) :
    entry.group ∈ Group.responses.names ∧
      ∃ w : ResponseWord, entry.function = w.name ∧ decodeResponse w entry.args = .ok op := by
  have hdecode : decode? entry = .ok (.respond label op) := by
    unfold decode at h
    split at h
    · next hi => rw [hi, h]
    · cases h
  unfold decode? at hdecode
  split at hdecode
  · cases hdecode
  · obtain ⟨w, -, hi⟩ := bind_eq_ok_iff.mp hdecode
    rcases condition_of_decodeCondition hi with ⟨_, _, he⟩ | ⟨_, _, _, _, _, he⟩
    · cases he
    · cases he
  · obtain ⟨_, -, hi⟩ := bind_eq_ok_iff.mp hdecode
    obtain ⟨_, -, hi⟩ := bind_eq_ok_iff.mp hi
    cases hi
  · obtain ⟨_, -, hi⟩ := bind_eq_ok_iff.mp hdecode
    obtain ⟨_, -, hi⟩ := bind_eq_ok_iff.mp hi
    cases hi
  · next hgroup =>
    obtain ⟨_, -, hi⟩ := bind_eq_ok_iff.mp hdecode
    obtain ⟨w, hw, hi⟩ := bind_eq_ok_iff.mp hi
    obtain ⟨_, hop, hi⟩ := bind_eq_ok_iff.mp hi
    cases hi
    refine ⟨Group.ofName?_eq_some_iff.mp hgroup, w, ?_, hop⟩
    unfold wordOf at hw
    split at hw
    · next hname =>
      cases hw
      exact (ResponseWord.name_eq_of_ofName? hname).symm
    · cases hw

theorem word_of_decodeResponse {w : ResponseWord} {args : Arguments}
    (h : decodeResponse w args = .ok op)
    (hop : (∃ value, op = .header header value) ∨ op = .copyHeader header) :
    (w = .header ∨ w = .copyHeader) ∧ Arguments.headerName args 1 = .ok header := by
  cases w with
  | header =>
    obtain ⟨_, hname, h⟩ := bind_eq_ok_iff.mp h
    obtain ⟨_, -, h⟩ := bind_eq_ok_iff.mp h
    cases h
    rcases hop with ⟨_, he⟩ | he
    · cases he
      exact ⟨.inl rfl, hname⟩
    · cases he
  | copyHeader =>
    obtain ⟨_, hname, h⟩ := bind_eq_ok_iff.mp h
    cases h
    rcases hop with ⟨_, he⟩ | he
    · cases he
    · cases he
      exact ⟨.inr rfl, hname⟩
  | body | status | wait =>
    obtain ⟨_, -, h⟩ := bind_eq_ok_iff.mp h
    cases h
    rcases hop with ⟨_, he⟩ | he
    · cases he
    · cases he
  | randomWait =>
    obtain ⟨_, -, h⟩ := bind_eq_ok_iff.mp h
    obtain ⟨_, -, h⟩ := bind_eq_ok_iff.mp h
    cases h
    rcases hop with ⟨_, he⟩ | he
    · cases he
    · cases he

theorem namesHeader_of_decode (h : decode entry = .respond label op)
    (hop : (∃ value, op = .header header value) ∨ op = .copyHeader header) :
    entry.NamesHeader header := by
  obtain ⟨hgroup, w, hfunction, hdecode⟩ := exists_word_of_decode h
  obtain ⟨hword, hname⟩ := word_of_decodeResponse hdecode hop
  refine ⟨hgroup, ?_, Arguments.headerName_eq_ok hname⟩
  rcases hword with rfl | rfl
  · exact .inl hfunction
  · exact .inr hfunction

end Instruction

/-! ## Values are legal -/

theorem isHeaderValue_iff {bytes : Bytes} :
    IsHeaderValue bytes ↔ ∀ b ∈ bytes, b = 9 ∨ 0x20 ≤ b ∧ b ≠ 0x7F := by
  simp [IsHeaderValue, isHeaderByte]

theorem Request.isHeaderValue_of_headerBytes? {r : Request}
    (hr : ∀ h ∈ r.headers, IsHeaderValue h.2) {name : HeaderName} {bytes : Bytes}
    (h : r.headerBytes? name = some bytes) : IsHeaderValue bytes := by
  obtain ⟨header, hfind, rfl⟩ := Option.map_eq_some_iff.mp h
  exact hr header (List.mem_of_find?_eq_some hfind)

namespace Execution

variable {r : Request} {bindings : List (String × Json)} {draws : Draws}

theorem WritesHeader.isHeaderValue (hr : ∀ h ∈ r.headers, IsHeaderValue h.2) {name : HeaderName}
    {e : Execution} {i : Instruction} {bytes : Bytes}
    (h : WritesHeader r name e i (some bytes)) : IsHeaderValue bytes := by
  cases h with
  | set _ hlegal => exact hlegal
  | copied _ hbytes _ => exact Request.isHeaderValue_of_headerBytes? hr hbytes

theorem WritesHeader.namesHeader {name : HeaderName} {e : Execution} {entry : Entry}
    {v : Option Bytes} (h : WritesHeader r name e (.decode entry) v) : entry.NamesHeader name := by
  cases h with
  | set hset _ => exact Instruction.namesHeader_of_decode hset (.inl ⟨_, rfl⟩)
  | copied hset _ _ => exact Instruction.namesHeader_of_decode hset (.inr rfl)

/-- A header that is pending was written by some instruction of the script. -/
theorem exists_writesHeader {script : Script} {name : HeaderName} {bytes : Bytes}
    (h : (reached r bindings draws script).pending.headers.get? name = some bytes) :
    ∃ i ∈ script, ∃ e, WritesHeader r name e i (some bytes) := by
  have hlast := @lastWrite_header r bindings draws name script
  rw [h] at hlast
  cases hlast with
  | written hwrites _ =>
    obtain ⟨i, hi, hw⟩ := hwrites
    exact ⟨i, List.mem_of_getElem? hi, _, hw⟩

theorem step_of_not_isHeaderValue {e : Execution} {name : HeaderName} {value : String}
    (h : ¬ IsHeaderValue (Text.bytes (Template.render value e.vars))) (d : Draw) (label : String) :
    e.step d (.respond label (.header name value)) = e := by
  have hpending : e.setUp (.header name value) = e.pending := by
    simp only [setUp, if_neg h]
  simp only [step, hpending, ite_self]

/-- Whatever the variables hold, each header of the response occurs once and bears a legal name in
lower case that an entry names, and its value holds no control character but the tab. Setting a
header to any other value does nothing. -/
theorem headers_well_formed (hr : ∀ h ∈ r.headers, IsHeaderValue h.2)
    (bindings : List (String × Json)) (draws : Draws) (entries : List Entry) (chance : Nat) :
    let e := reached r bindings draws (Script.decode entries)
    let headers := (e.finish chance).response.headers
    headers.keys.Nodup ∧
    (∀ name value, headers.get? name = some value →
      HeaderName.IsLegalText name.text ∧ (∀ c ∈ name.chars, c.isUpper = false) ∧
      (∃ entry ∈ entries, entry.NamesHeader name) ∧
      (∀ b ∈ value, b = 9 ∨ 0x20 ≤ b ∧ b ≠ 0x7F) ∧ 13 ∉ value ∧ 10 ∉ value ∧ 0 ∉ value) ∧
    ∀ (e : Execution) (d : Draw) entry label name value,
      Instruction.decode entry = .respond label (.header name value) →
      ¬ IsHeaderValue (Text.bytes (Template.render value e.vars)) →
      e.step d (Instruction.decode entry) = e := by
  intro e headers
  refine ⟨headers.nodup_keys, fun name value hvalue => ?_, ?_⟩
  · obtain ⟨i, hi, e, hw⟩ := exists_writesHeader hvalue
    obtain ⟨entry, hentry, rfl⟩ := List.mem_map.mp hi
    have hbytes := isHeaderValue_iff.mp (hw.isHeaderValue hr)
    have habsent (b : UInt8) (hb : ¬ (b = 9 ∨ 0x20 ≤ b ∧ b ≠ 0x7F)) : b ∉ value :=
      fun hmem => hb (hbytes b hmem)
    exact ⟨name.isLegalText, fun c => name.isUpper_eq_false, ⟨entry, hentry, hw.namesHeader⟩,
      hbytes, habsent 13 (by decide), habsent 10 (by decide), habsent 0 (by decide)⟩
  · intro e d entry label name value hdecode hillegal
    rw [hdecode]
    exact step_of_not_isHeaderValue hillegal d label

/-- A line break in the query does not get into a header, and other headers are set and copied. -/
theorem headers_well_formed_query_with_break :
    let r : Request :=
      ⟨"GET", "/", [("q", "a\r\nSet-Cookie: b")], [(.host, Text.bytes "mock\ttest")], []⟩
    let entries : List Entry :=
      [⟨"PrepareData", "ExtractRequestQuery", [.string "q", .string "Q"]⟩,
        ⟨"SetupResponse", "SetHeader", [.string "", .string "X-Q", .string "\x7b\x7b.Q\x7d\x7d"]⟩,
        ⟨"SetupResponse", "SetHeader", [.string "", .string "X-Ok", .string "é"]⟩,
        ⟨"ResponseSetup", "CopyHeaderFromRequest", [.string "", .string "HOST"]⟩]
    let draws : Draws := fun _ => ⟨id, 0, .zero false⟩
    let headers := ((reached r [] draws (Script.decode entries)).finish 0).response.headers
    (∀ h ∈ r.headers, IsHeaderValue h.2) ∧ headers.keys.map HeaderName.text = ["host", "x-ok"] ∧
      headers.get? .host = some (Text.bytes "mock\ttest") ∧ 10 ∉ Text.bytes "mock\ttest" := by
  intro r entries draws headers
  have hr : ∀ h ∈ r.headers, IsHeaderValue h.2 := by
    intro h hh
    cases List.mem_singleton.mp hh
    decide +kernel
  have hhost : headers.get? .host = some (Text.bytes "mock\ttest") := by decide +kernel
  obtain ⟨-, hheaders, -⟩ := headers_well_formed hr [] draws entries 0
  obtain ⟨-, -, -, -, -, hbreak, -⟩ := hheaders .host _ hhost
  exact ⟨hr, by decide +kernel, hhost, hbreak⟩

end Execution

end MockHttp
