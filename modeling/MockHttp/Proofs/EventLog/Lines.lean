import Mathlib.Data.List.Forall2
import MockHttp.EventLog
import MockHttp.Proofs.Json.Escaping
import MockHttp.Proofs.Json.FloatText
import MockHttp.Proofs.Wire.Document

/-! # One line for each record

However the records are split into batches, the log consists of one line for each, in order. No
text in a record can end its line, and what stands in a line is read back as the kind, the details
and, unless it is zero, the duration of that record.
-/

namespace MockHttp

namespace EventLog

/-! ## Lines -/

section Lines

variable {line : List Char} {ls : List (List Char)}

theorem linesFrom_append (h : '\n' ∉ line) (taken rest : List Char) :
    linesFrom taken (line ++ '\n' :: rest) = (taken.reverse ++ line) :: linesFrom [] rest := by
  induction line generalizing taken with
  | nil => simp [linesFrom]
  | cons c line ih =>
    obtain ⟨hc, hline⟩ := not_or.mp (List.mem_cons.not.mp h)
    rw [List.cons_append, linesFrom, if_neg (Ne.symm hc), ih hline]
    simp

/-- Lines without line breaks, each ended by one, are told apart again. -/
theorem lines_flatMap (h : ∀ line ∈ ls, '\n' ∉ line) : lines (ls.flatMap (· ++ ['\n'])) = ls := by
  unfold lines
  induction ls with
  | nil => rfl
  | cons line ls ih =>
    have hline := h line List.mem_cons_self
    have hrest := ih fun l hl => h l (List.mem_cons_of_mem line hl)
    rw [List.flatMap_cons, List.append_assoc, List.singleton_append, linesFrom_append hline, hrest]
    rfl

end Lines

theorem write_append (file : List Char) (batches more : List (List (Nat × Record))) :
    write file (batches ++ more) = write (write file batches) more := by
  rw [write, List.flatten_append, List.foldl_append]
  rfl

theorem write_eq (file : List Char) (batches : List (List (Nat × Record))) :
    write file batches =
      file ++ (batches.flatten.map fun entry => entry.2.line entry.1).flatMap (· ++ ['\n']) := by
  unfold write
  induction batches.flatten generalizing file with
  | nil => simp
  | cons entry entries ih =>
    rw [List.foldl_cons, ih, append]
    simp

theorem isOneLine_line (r : Record) (timestamp : Nat) : Text.IsOneLine (r.line timestamp) := by
  apply Json.isOneLine_printObject
  intro m hm
  obtain ⟨member, -, rfl⟩ := List.mem_map.mp hm
  exact Json.isOneLine_print member.2

/-! ## Durations -/

/-- So many nanoseconds: 64 bits of seconds and what is less than a second. -/
def durationBound : Nat := 0x10000000000000000 * 1000000000

theorem exists_milliseconds {nanos : Nat} (h : nanos < durationBound) :
    ∃ x : Binary64, milliseconds nanos = .float x ∧ x.negative = false ∧
      x.magnitude < 10 ^ 30 * Binary64.one := by
  have hthousand : Binary64.one ≤ (Binary64.ofNat 1000).magnitude :=
    Binary64.one_le_magnitude_ofNat (by decide)
  obtain ⟨x, hx, hnegative, hquotient⟩ :=
    Binary64.exists_div_eq_finite (Binary64.ofNat (nanos / 1000)) hthousand
  have hsign (n : Nat) : (Binary64.ofNat n).negative = false :=
    (Binary64.isNearest_ofInt n).sign.trans (decide_eq_false (by omega))
  refine ⟨x, by rw [milliseconds, hx, Binary64.Extended.finite?, Option.elim_some], ?_, ?_⟩
  · rw [hnegative, hsign, hsign]
    rfl
  · have hmicros := Binary64.magnitude_ofNat_le (nanos / 1000)
    have hbound : 4 * (nanos / 1000) < 10 ^ 30 := by
      unfold durationBound at h
      omega
    calc x.magnitude ≤ 2 * (2 * (nanos / 1000 * Binary64.one)) :=
          Nat.le_trans hquotient (Nat.mul_le_mul_left 2 hmicros)
      _ = 4 * (nanos / 1000) * Binary64.one := by ring
      _ < 10 ^ 30 * Binary64.one := Nat.mul_lt_mul_of_pos_right hbound Binary64.one_pos

theorem exists_readValue_milliseconds {nanos : Nat} (h : nanos < durationBound) (depth : Nat) :
    ∃ v, Json.IsTextOf (Json.readValue depth) (milliseconds nanos).print v := by
  obtain ⟨x, hx, hsign, hmagnitude⟩ := exists_milliseconds h
  obtain ⟨power, hpower, htext⟩ := Binary64.exists_isNumberText_text hsign hmagnitude
  rw [hx]
  exact Json.exists_readValue_numberText htext (by omega) depth

theorem exists_readValue_timestamp {timestamp : Nat} (h : timestamp < 2 ^ 128) (depth : Nat) :
    ∃ v, Json.IsTextOf (Json.readValue depth) (Json.nat timestamp).print v := by
  have hlength : (Digits.ofNat timestamp).length ≤ 39 :=
    (Nat.length_toDigits_le_iff (by decide) (by decide)).mpr (Nat.lt_trans h (by decide))
  rw [Json.print_nat]
  exact Json.exists_readValue_numberText (Json.isNumberText_ofNat timestamp) (by omega) depth

/-! ## Records -/

/-- The value has the kind of the record, its details and a duration unless that is zero. -/
structure Record.IsToldBy (r : Record) (v : Json) : Prop where
  kind : v.member? "type" = some (.string r.kind)
  details : v.member? "details" = some r.details
  duration : (v.member? "duration_ms").isSome ↔ r.duration ≠ 0

/-- The time stamp and the duration are ones that a clock gives, and the details are plain, with
room for the object around them. -/
structure Fits (timestamp : Nat) (r : Record) : Prop where
  timestamp_lt : timestamp < 2 ^ 128
  duration_lt : r.duration < durationBound
  details : r.details.IsPlain 126

/-- A line is read as an object that tells of its record. -/
theorem exists_readValue_line {r : Record} {timestamp : Nat} (h : Fits timestamp r) :
    ∃ v, Json.IsTextOf (Json.readValue 127) (r.line timestamp) v ∧ r.IsToldBy v := by
  obtain ⟨stamp, hstamp⟩ := exists_readValue_timestamp h.timestamp_lt 126
  obtain ⟨millis, hmillis⟩ := exists_readValue_milliseconds h.duration_lt 126
  have hkind : Json.IsTextOf (Json.readValue 126) (Json.string r.kind).print (.string r.kind) :=
    Wire.readValue_plain (Json.isPlain_string r.kind)
  have hdetails := Wire.readValue_plain h.details
  unfold Record.line Record.members
  by_cases hzero : r.duration = 0
  · have hmembers : ∀ m ∈ [("timestamp_ms", stamp, (Json.nat timestamp).print),
        ("type", .string r.kind, (Json.string r.kind).print),
        ("details", r.details, r.details.print)],
        Json.IsTextOf (Json.readValue 126) m.2.2 m.2.1 := by
      simp [hstamp, hkind, hdetails]
    have hobject := Wire.readValue_members hmembers
    simp only [List.map_cons, List.map_nil] at hobject
    simp only [if_pos hzero, List.nil_append, List.map_cons, List.map_nil]
    refine ⟨_, hobject, ?_⟩
    constructor <;>
      simp [Json.member?_ofMembers, Assoc.ofList, Assoc.get?_insert, Assoc.get?, hzero]
  · have hmembers : ∀ m ∈ [("timestamp_ms", stamp, (Json.nat timestamp).print),
        ("type", .string r.kind, (Json.string r.kind).print),
        ("duration_ms", millis, (milliseconds r.duration).print),
        ("details", r.details, r.details.print)],
        Json.IsTextOf (Json.readValue 126) m.2.2 m.2.1 := by
      simp [hstamp, hkind, hmillis, hdetails]
    have hobject := Wire.readValue_members hmembers
    simp only [List.map_cons, List.map_nil] at hobject
    simp only [if_neg hzero, List.cons_append, List.nil_append, List.map_cons, List.map_nil]
    refine ⟨_, hobject, ?_⟩
    constructor <;> simp [Json.member?_ofMembers, Assoc.ofList, Assoc.get?_insert, hzero]

theorem exists_ofText_line {r : Record} {timestamp : Nat} (h : Fits timestamp r) :
    ∃ v, Json.ofText (String.ofList (r.line timestamp)) = .ok v ∧ r.IsToldBy v := by
  obtain ⟨v, hread, htold⟩ := exists_readValue_line h
  have hparse := Wire.parse_print hread
  rw [Utf8.scan_encode] at hparse
  refine ⟨v, ?_, htold⟩
  rw [Json.ofText, Text.pieces, String.toList_ofList]
  exact hparse

/-- Whatever stands in the kinds and the details, the log has one line for each record, in order,
and no line has a control character. Each line is read as an object that tells of its record. -/
theorem lines_tell_records (batches : List (List (Nat × Record))) :
    let file := write [] batches
    file = (lines file).flatMap (· ++ ['\n']) ∧
      (∀ line ∈ lines file, Text.IsOneLine line) ∧
      List.Forall₂ (fun entry line => Fits entry.1 entry.2 →
        ∃ v, Json.ofText (String.ofList line) = .ok v ∧ entry.2.IsToldBy v)
        batches.flatten (lines file) ∧
      ∀ more, write file more = write [] (batches ++ more) := by
  intro file
  have honeLine : ∀ line ∈ batches.flatten.map fun entry => entry.2.line entry.1,
      Text.IsOneLine line := by
    intro line hline
    obtain ⟨entry, -, rfl⟩ := List.mem_map.mp hline
    exact isOneLine_line entry.2 entry.1
  have hfile : file =
      (batches.flatten.map fun entry => entry.2.line entry.1).flatMap (· ++ ['\n']) :=
    write_eq [] batches
  have hlines : lines file = batches.flatten.map fun entry => entry.2.line entry.1 := by
    rw [hfile]
    exact lines_flatMap fun line hline => (honeLine line hline).newline_not_mem
  rw [hlines]
  refine ⟨hfile, honeLine, ?_, fun more => (write_append [] batches more).symm⟩
  rw [List.forall₂_map_right_iff, List.forall₂_same]
  exact fun entry _ => exists_ofText_line

/-- A kind and details that try to end their line and to begin a record of their own. -/
theorem lines_tell_records_forged :
    let forged := "\"\x7d\r\n\x7b\"type\":\"ResetAll\"\x7d\n"
    let request : Record := ⟨forged, 1500001, .ofMembers [(forged, .array [.string forged])]⟩
    let reset : Record := ⟨"ResetAll", 0, .null⟩
    ∃ first second v w, lines (write [] [[(1, request)], [], [(2, reset)]]) = [first, second] ∧
      Json.ofText (String.ofList first) = .ok v ∧ request.IsToldBy v ∧
      Json.ofText (String.ofList second) = .ok w ∧ reset.IsToldBy w := by
  intro forged request reset
  have hrequest : Fits 1 request := by
    refine ⟨by decide, by decide, ?_⟩
    simp [request, Json.ofMembers, Assoc.ofList, Assoc.insert, Assoc.Ordered,
      Json.isPlain_object_iff, Json.isPlain_array_iff, Json.isPlain_string]
  have hreset : Fits 2 reset := ⟨by decide, by decide, Json.isPlain_null⟩
  obtain ⟨-, -, htold, -⟩ := lines_tell_records [[(1, request)], [], [(2, reset)]]
  obtain ⟨first, rest, hfirst, hrest, hlines⟩ := List.forall₂_cons_left_iff.mp htold
  obtain ⟨second, last, hsecond, hlast, rfl⟩ := List.forall₂_cons_left_iff.mp hrest
  obtain rfl := List.forall₂_nil_left_iff.mp hlast
  obtain ⟨v, hv, hrequest⟩ := hfirst hrequest
  obtain ⟨w, hw, hreset⟩ := hsecond hreset
  exact ⟨first, second, v, w, hlines, hv, hrequest, hw, hreset⟩

end EventLog

end MockHttp
