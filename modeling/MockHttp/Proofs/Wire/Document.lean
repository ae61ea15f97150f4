import MockHttp.Proofs.Wire.RoundTrip

/-! # Messages as documents

A message is one JSON document. What is asked of its text, that it holds no floating-point number
and does not lie too deep, is asked of this document; then the text is read back both as the
message and as the document.
-/

namespace MockHttp

open Json (IsTextOf TakesAll)

/-! ## What is plain -/

namespace Json

variable {depth : Nat}

theorem isPlain_array_iff {items : List Json} :
    (Json.array items).IsPlain (depth + 1) ↔ ∀ v ∈ items, v.IsPlain depth := by
  constructor
  · rintro ⟨hwf, hfloat, hdepth⟩ v hv
    cases hfloat with
    | array hitems =>
      exact ⟨wellFormedItems_iff.mp hwf v hv, hitems v hv,
        depthItems_le_iff.mp (Nat.le_of_succ_le_succ hdepth) v hv⟩
  · intro h
    exact ⟨wellFormedItems_iff.mpr fun v hv => (h v hv).wellFormed,
      .array fun v hv => (h v hv).floatFree,
      Nat.succ_le_succ (depthItems_le_iff.mpr fun v hv => (h v hv).depth_le)⟩

theorem isPlain_object_iff {members : List (String × Json)} :
    (Json.object members).IsPlain (depth + 1) ↔
      Assoc.Ordered members ∧ ∀ m ∈ members, m.2.IsPlain depth := by
  constructor
  · rintro ⟨⟨hordered, hwf⟩, hfloat, hdepth⟩
    cases hfloat with
    | object hmembers =>
      exact ⟨hordered, fun m hm => ⟨wellFormedMembers_iff.mp hwf m hm, hmembers m hm,
        depthMembers_le_iff.mp (Nat.le_of_succ_le_succ hdepth) m hm⟩⟩
  · rintro ⟨hordered, h⟩
    exact ⟨⟨hordered, wellFormedMembers_iff.mpr fun m hm => (h m hm).wellFormed⟩,
      .object fun m hm => (h m hm).floatFree,
      Nat.succ_le_succ (depthMembers_le_iff.mpr fun m hm => (h m hm).depth_le)⟩

theorem isPlain_null : Json.null.IsPlain depth := ⟨trivial, .null, Nat.zero_le _⟩

theorem isPlain_int {n : Int} (h : Number.IsExact n) : (Json.int n).IsPlain depth :=
  ⟨h, .int n, Nat.zero_le _⟩

theorem isPlain_string (s : String) : (Json.string s).IsPlain depth :=
  ⟨trivial, .string s, Nat.zero_le _⟩

theorem isPlain_port (port : Port) : (Json.nat port.toNat).IsPlain depth := by
  have hlt : port.toNat < 65536 := port.toNat_lt
  refine isPlain_int ?_
  unfold Number.IsExact
  omega

end Json

theorem Entry.toJson_eq (e : Entry) : e.toJson = .object
    [("args", .array e.args), ("func", .string e.function), ("group", .string e.group)] := by
  have hfunc : compare "func" "group" = .lt := by decide
  have hargs : compare "args" "func" = .lt := by decide
  simp [toJson, fields, Json.ofMembers, Assoc.ofList, Assoc.insert, hfunc, hargs]

theorem Registration.toJson_eq (r : Registration) : r.toJson =
    .object [("method", .string r.method), ("path", .string r.path), ("port", .nat r.port.toNat),
      ("responseFunc", .array (r.entries.map Entry.toJson))] := by
  have hmethod : compare "method" "port" = .lt := by decide
  have hpath : compare "path" "method" = .gt ∧ compare "path" "port" = .lt := by decide
  have hentries : compare "responseFunc" "method" = .gt ∧ compare "responseFunc" "path" = .gt ∧
      compare "responseFunc" "port" = .gt := by decide
  simp [toJson, fields, Json.ofMembers, Assoc.ofList, Assoc.insert, hmethod, hpath, hentries]

theorem Entry.isPlain_toJson_iff {depth : Nat} {e : Entry} :
    e.toJson.IsPlain (depth + 2) ↔ e.IsPlain depth := by
  rw [toJson_eq, Json.isPlain_object_iff]
  constructor
  · rintro ⟨-, h⟩
    exact Json.isPlain_array_iff.mp (h ("args", .array e.args) (.head _))
  · intro h
    refine ⟨Json.object.inj e.toJson_eq ▸ Assoc.ordered_ofList e.fields, ?_⟩
    simp only [List.mem_cons, List.not_mem_nil, or_false]
    rintro m (rfl | rfl | rfl)
    · exact Json.isPlain_array_iff.mpr h
    · exact Json.isPlain_string _
    · exact Json.isPlain_string _

theorem Registration.isPlain_toJson_iff {depth : Nat} {r : Registration} :
    r.toJson.IsPlain (depth + 4) ↔ r.IsPlain depth := by
  have hentries : (Json.array (r.entries.map Entry.toJson)).IsPlain (depth + 3) ↔
      r.IsPlain depth := by
    simp [Json.isPlain_array_iff, Entry.isPlain_toJson_iff, IsPlain]
  rw [toJson_eq, Json.isPlain_object_iff, ← hentries]
  constructor
  · rintro ⟨-, h⟩
    exact h ("responseFunc", _) (.tail _ (.tail _ (.tail _ (.head _))))
  · intro h
    refine ⟨Json.object.inj r.toJson_eq ▸ Assoc.ordered_ofList r.fields, ?_⟩
    simp only [List.mem_cons, List.not_mem_nil, or_false]
    rintro m (rfl | rfl | rfl | rfl)
    · exact Json.isPlain_string _
    · exact Json.isPlain_string _
    · exact Json.isPlain_port _
    · exact h

namespace Wire

/-- Members in any order are collected by their keys. -/
theorem takesAll_inserted {depth : Nat} {members : List (String × Json × List Char)}
    (h : ∀ m ∈ members, Json.Reads (Json.readValue depth) m.2.2 m.2.1)
    (known : List (String × Json)) :
    TakesAll (Json.takeMember depth) known (members.map fun m => (m.1, m.2.2))
      (members.foldl (fun known m => Assoc.insert m.1 m.2.1 known) known) := by
  induction members generalizing known with
  | nil => exact .nil known
  | cons m members ih =>
    exact .cons (Json.reads_takeMember (h m (.head _)) m.1 known)
      (ih (fun m hm => h m (.tail _ hm)) _)

theorem readValue_members {depth : Nat} {members : List (String × Json × List Char)}
    (h : ∀ m ∈ members, IsTextOf (Json.readValue depth) m.2.2 m.2.1) :
    IsTextOf (Json.readValue (depth + 1)) (Json.printObject (members.map fun m => (m.1, m.2.2)))
      (.ofMembers (members.map fun m => (m.1, m.2.1))) := by
  have htakes := takesAll_inserted (fun m hm => (h m hm).reads) []
  have hobject := Json.readMembers_printed htakes
  rw [Json.ofMembers, Assoc.ofList, List.foldl_map]
  exact .opened (by decide) (Json.readValue_brace depth) hobject

theorem readValue_array {depth : Nat} {α : Type} {text : α → List Char} {value : α → Json}
    {vs : List α} (h : ∀ v ∈ vs, IsTextOf (Json.readValue depth) (text v) (value v)) :
    IsTextOf (Json.readValue (depth + 1)) (Json.printList (vs.map text))
      (.array (vs.map value)) :=
  .opened (by decide) (Json.readValue_bracket depth) (Json.readList_texts h)

theorem readValue_entry {depth : Nat} {e : Entry} (h : e.IsPlain depth) :
    IsTextOf (Json.readValue (depth + 2)) e.print e.toJson := by
  have hargs : IsTextOf (Json.readValue (depth + 1)) (Json.array e.args).print
      (.array e.args) := by
    rw [Json.print, Json.printItems_eq_map]
    exact .opened (by decide) (Json.readValue_bracket depth)
      (Json.readList_printed fun v hv => readValue_plain (h v hv))
  have hmembers : ∀ m ∈ [("group", Json.string e.group, (Json.string e.group).print),
      ("func", .string e.function, (Json.string e.function).print),
      ("args", .array e.args, (Json.array e.args).print)],
      IsTextOf (Json.readValue (depth + 1)) m.2.2 m.2.1 := by
    simp only [List.mem_cons, List.not_mem_nil, or_false]
    rintro m (rfl | rfl | rfl)
    · exact readValue_plain (Json.isPlain_string _)
    · exact readValue_plain (Json.isPlain_string _)
    · exact hargs
  have hobject := readValue_members hmembers
  exact hobject

theorem readValue_registration {depth : Nat} {r : Registration} (h : r.IsPlain depth) :
    IsTextOf (Json.readValue (depth + 4)) r.print r.toJson := by
  have hentries : IsTextOf (Json.readValue (depth + 3)) (Json.printList (r.entries.map Entry.print))
      (.array (r.entries.map Entry.toJson)) :=
    readValue_array fun e he => readValue_entry (h e he)
  have hmembers : ∀ m ∈ [("port", Json.nat r.port.toNat, (Json.nat r.port.toNat).print),
      ("method", .string r.method, (Json.string r.method).print),
      ("path", .string r.path, (Json.string r.path).print),
      ("responseFunc", .array (r.entries.map Entry.toJson),
        Json.printList (r.entries.map Entry.print))],
      IsTextOf (Json.readValue (depth + 3)) m.2.2 m.2.1 := by
    simp only [List.mem_cons, List.not_mem_nil, or_false]
    rintro m (rfl | rfl | rfl | rfl)
    · exact readValue_plain (Json.isPlain_port _)
    · exact readValue_plain (Json.isPlain_string _)
    · exact readValue_plain (Json.isPlain_string _)
    · exact hentries
  have hobject := readValue_members hmembers
  exact hobject

/-! ## Texts -/

def received (text : List Char) : Json.Input := Utf8.scan (Utf8.encode text)

/-- Every message is read back from its text, and so is the document that the text holds. A text
may have its fields in any order and leave out a list that is empty. -/
theorem parse_spelled :
    (∀ r : Registration, r.toJson.IsPlain 127 →
      parse readRegistration (received r.print) = .ok r ∧
      (∀ text, r.IsSpelled text → parse readRegistration (received text) = .ok r) ∧
      Json.ofPieces (received r.print) = .ok (.object
        [("method", .string r.method), ("path", .string r.path), ("port", .nat r.port.toNat),
          ("responseFunc", .array (r.entries.map Entry.toJson))])) ∧
    (∀ e : Entry, e.toJson.IsPlain 127 →
      parse readEntry (received e.print) = .ok e ∧
      (∀ text, e.IsSpelled text → parse readEntry (received text) = .ok e) ∧
      Json.ofPieces (received e.print) = .ok (.object
        [("args", .array e.args), ("func", .string e.function), ("group", .string e.group)])) ∧
    (∀ r : PortReset, parse readPortReset (received r.print) = .ok r) ∧
    (∀ s : Status, parse readStatus (received s.print) = .ok s) ∧
    (∀ port method path, (Registration.mk port method path []).IsSpelled (Json.printObject
      [("port", (Json.nat port.toNat).print), ("method", (Json.string method).print),
        ("path", (Json.string path).print)])) ∧
    ∀ group function, (Entry.mk group function []).IsSpelled (Json.printObject
      [("group", (Json.string group).print), ("func", (Json.string function).print)]) := by
  refine ⟨fun r h => ?_, fun e h => ?_, fun r => parse_print (readPortReset_print _ r),
    fun s => parse_print (readStatus_print _ s), Registration.isSpelled_bare, Entry.isSpelled_bare⟩
  · have hplain : r.IsPlain 123 := Registration.isPlain_toJson_iff.mp h
    rw [← r.toJson_eq]
    exact ⟨parse_print (readRegistration_print hplain),
      fun _ hspelled => parse_print (readRegistration_spelled hplain hspelled),
      parse_print (readValue_registration hplain)⟩
  · have hplain : e.IsPlain 125 := Entry.isPlain_toJson_iff.mp h
    rw [← e.toJson_eq]
    exact ⟨parse_print (readEntry_spelled hplain e.isSpelled_print),
      fun _ hspelled => parse_print (readEntry_spelled hplain hspelled),
      parse_print (readValue_entry hplain)⟩

/-- Fields out of order, one entry with all kinds of arguments and one that leaves its out. -/
theorem parse_spelled_out_of_order :
    let entry : Entry := ⟨"Generator", "HashedString",
      [.string "\n", .int (-0x8000000000000000), .array [.object [("a", .null)]]]⟩
    let r : Registration := ⟨65535, "GET", "/\"é", [entry, ⟨"Control", "Wait", []⟩]⟩
    let text := ["\x7b\"responseFunc\":[", "\x7b\"args\":[\"\\n\",",
      "-9223372036854775808,", "[\x7b\"a\":null\x7d]],", "\"func\":\"HashedString\",",
      "\"group\":\"Generator\"\x7d,", "\x7b\"func\":\"Wait\",", "\"group\":\"Control\"\x7d],",
      "\"path\":\"/\\\"é\",", "\"port\":65535,", "\"method\":\"GET\"\x7d"].flatMap String.toList
    r.toJson.IsPlain 127 ∧ r.IsSpelled text ∧
      parse readRegistration (received r.print) = .ok r ∧
      parse readRegistration (received text) = .ok r := by
  intro entry r text
  have hentry : entry.IsPlain 123 := by
    simp only [Entry.IsPlain, entry, List.mem_cons, List.not_mem_nil, or_false]
    rintro v (rfl | rfl | rfl)
    · exact Json.isPlain_string _
    · exact Json.isPlain_int (by decide)
    · simp [Json.isPlain_array_iff, Json.isPlain_object_iff, Json.isPlain_null, Assoc.Ordered]
  have hplain : r.toJson.IsPlain 127 := by
    refine Registration.isPlain_toJson_iff.mpr ?_
    simp only [Registration.IsPlain, r, List.mem_cons, List.not_mem_nil, or_false]
    rintro e (rfl | rfl)
    · exact hentry
    · exact fun v hv => (List.not_mem_nil hv).elim
  have hspelled : r.IsSpelled text := by
    let texts := [Json.printObject entry.written.reverse, Json.printObject
      [("func", (Json.string "Wait").print), ("group", (Json.string "Control").print)]]
    refine ⟨r.entries.zip texts, rfl, ?_, [("responseFunc", Json.printList texts),
      ("path", (Json.string r.path).print), ("port", (Json.nat r.port.toNat).print),
      ("method", (Json.string r.method).print)], ⟨?_, by simp, ?_⟩, by decide +kernel⟩
    · simp only [r, texts, List.zip_cons_cons, List.zip_nil_right, List.mem_cons,
        List.not_mem_nil, or_false]
      rintro p (rfl | rfl)
      · exact ⟨_, ⟨by simp, by simp [Entry.written, Entry.fields], by
          simp [Entry.required, Entry.written, Entry.fields, entry]⟩, rfl⟩
      · exact ⟨_, ⟨by simp [Entry.written, Entry.fields], by simp, by simp [Entry.required]⟩, rfl⟩
    · simp [r, texts, Registration.written]
    · simp [r, Registration.required]
  obtain ⟨hprint, htexts, -⟩ := parse_spelled.1 r hplain
  exact ⟨hplain, hspelled, hprint, htexts text hspelled⟩

end Wire

end MockHttp
