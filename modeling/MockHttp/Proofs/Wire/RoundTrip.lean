import MockHttp.Proofs.Json.RoundTrip
import MockHttp.Wire.Reader

/-! # Reading printed messages

A message is read back from its text if the arguments of its entries are. The depth that is left
for an argument is what the brackets around it leave over. The fields of a message may stand in
any order, and lists that are empty may be left out.
-/

namespace MockHttp

open Utf8 (Piece)
open Json (Input Error Reads IsTextOf TakesAll)

/-- Values that a text can denote, without floating-point numbers and at most so deep. -/
structure Json.IsPlain (depth : Nat) (v : Json) : Prop where
  wellFormed : v.WellFormed
  floatFree : v.FloatFree
  depth_le : v.depth ≤ depth

def Entry.IsPlain (depth : Nat) (e : Entry) : Prop := ∀ v ∈ e.args, v.IsPlain depth

def Registration.IsPlain (depth : Nat) (r : Registration) : Prop :=
  ∀ e ∈ r.entries, e.IsPlain depth

namespace Wire

/-! ## Fields -/

section Fields

variable {α : Type} {read : Input → Except Error (α × Input)} {text : List Char} {v : α}

theorem reads_complete {β : Type} {complete : α → Except Error β} {w : β} (h : Reads read text v)
    (hw : complete v = .ok w) :
    Reads (fun s => do let (v, s) ← read s; return (← complete v, s)) text w := by
  intro rest hrest
  simp [h rest hrest, hw, bind, Except.bind, pure, Except.pure]

theorem readText_print (s : String) : IsTextOf readText (Json.string s).print s where
  starts := ⟨'"', _, rfl, rfl, by decide⟩
  reads := Json.scanString_escaped s

theorem portOf_toNat (port : Port) : portOf (.int port.toNat) = .ok port := by
  have hlt : port.toNat < 65536 := port.toNat_lt
  have hle : (port.toNat : Int) < 65536 := by omega
  simp [portOf, hle]

theorem readPort_digit {c : Char} (h : c.isDigit = true) (rest : Input) :
    readPort (.char c :: rest) = (do
      let (n, s) ← Json.scanNumber false (.char c :: rest)
      return (← portOf n, s)) := by
  have hdigit : (Json.digit? (.char c)).isSome = true := by simp [Json.digit?_char h]
  unfold readPort
  rw [Json.skipSpace_char (Json.isSpace_of_isDigit h)]
  split
  · next heq => cases heq
  · next heq =>
    cases heq
    cases h
  · next heq =>
    cases heq
    rw [if_pos hdigit]

theorem readPort_print (port : Port) : IsTextOf readPort (Json.nat port.toNat).print port := by
  have hport : port.toNat < 65536 := port.toNat_lt
  have hlt : port.toNat < 0x10000000000000000 := by omega
  have hnumber : portOf (Json.wholeNumber false port.toNat) = .ok port := portOf_toNat port
  obtain ⟨c, cs, hcs, hdigit⟩ := Digits.exists_ofNat_eq_cons port.toNat
  rw [Json.print_nat]
  refine ⟨Json.startsValue_ofNat _, fun rest hrest => ?_⟩
  have hread := reads_complete (Json.scanNumber_ofNat hlt false) hnumber rest hrest
  rw [hcs] at hread ⊢
  exact (readPort_digit hdigit _).trans hread

theorem readSequence_texts {β : Type} {read : (depth : Nat) → Input → Except Error (α × Input)}
    {text : β → List Char} {value : β → α} {depth : Nat} {bs : List β}
    (h : ∀ b ∈ bs, IsTextOf (read depth) (text b) (value b)) :
    IsTextOf (readSequence (depth + 1) read) (Json.printList (bs.map text)) (bs.map value) where
  starts := ⟨'[', _, rfl, rfl, by decide⟩
  reads := Json.readList_texts h

theorem readValue_plain {depth : Nat} {v : Json} (h : v.IsPlain depth) :
    IsTextOf (Json.readValue depth) v.print v :=
  Json.readValue_print h.wellFormed h.floatFree h.depth_le

theorem readArgs_print {depth : Nat} {args : List Json} (h : ∀ v ∈ args, v.IsPlain depth) :
    IsTextOf (readSequence (depth + 1) Json.readValue) (Json.array args).print args where
  starts := ⟨'[', _, rfl, rfl, by decide⟩
  reads := by
    rw [Json.print, Json.printItems_eq_map]
    exact Json.readList_printed fun v hv => readValue_plain (h v hv)

theorem reads_field {σ : Type} {name : String} {known : Option α} {p : σ} (f : Option α → σ)
    (hknown : known = none) (h : Reads read text v) (hp : f (some v) = p) :
    Reads (fun s => do
      let (v, s) ← readField name known read s
      return (f v, s)) (':' :: text) p := by
  intro rest hrest
  subst hknown hp
  simp [readField, Json.colon_cons, h rest hrest, bind, Except.bind, pure, Except.pure]

theorem readStructure_printed {wanted : String}
    {ofList : (depth : Nat) → Input → Except Error (α × Input)}
    (ofObject : (depth : Nat) → Input → Except Error (α × Input)) {depth : Nat}
    (h : Reads (ofObject depth) text v) :
    IsTextOf (readStructure (depth + 1) wanted ofList ofObject) ('\x7b' :: text) v where
  starts := ⟨'\x7b', _, rfl, rfl, by decide⟩
  reads := h

end Fields

/-! ## Fields in any order -/

/-- Some of the fields in any order, the required ones among them. -/
structure IsChoice (all : List (String × List Char)) (required : List String)
    (fields : List (String × List Char)) : Prop where
  subset : fields ⊆ all
  nodup : (fields.map Prod.fst).Nodup
  required_subset : required ⊆ fields.map Prod.fst

section Choice

variable {σ α : Type} {take : String → σ → Input → Except Error (σ × Input)}
  {all fields : List (String × List Char)} {state : List String → σ}

/-- Fields are taken one after the other if each of them can be taken whatever else is known. -/
theorem takesAll_of_step
    (hstep : ∀ known, ∀ f ∈ all, f.1 ∉ known →
      Reads (take f.1 (state known)) (':' :: f.2) (state (f.1 :: known)))
    (hsubset : fields ⊆ all) (hnodup : (fields.map Prod.fst).Nodup) {known : List String}
    (hnew : ∀ f ∈ fields, f.1 ∉ known) :
    TakesAll take (state known) fields (state ((fields.map Prod.fst).reverse ++ known)) := by
  induction fields generalizing known with
  | nil => exact .nil _
  | cons f fields ih =>
    obtain ⟨hf, hsubset⟩ := List.cons_subset.mp hsubset
    obtain ⟨hfresh, hnodup⟩ := List.nodup_cons.mp hnodup
    have hnew' : ∀ g ∈ fields, g.1 ∉ f.1 :: known := by
      intro g hg hmem
      rcases List.mem_cons.mp hmem with he | hmem
      · exact hfresh (he ▸ List.mem_map_of_mem hg)
      · exact hnew g (.tail _ hg) hmem
    have heq : ((f :: fields).map Prod.fst).reverse ++ known =
        (fields.map Prod.fst).reverse ++ f.1 :: known := by simp
    rw [heq]
    exact .cons (hstep known f hf (hnew f (.head _))) (ih hsubset hnodup hnew')

/-- The value is read if the required fields make it complete. -/
theorem readMembers_choice {required : List String} {complete : σ → Except Error α} {v : α}
    (h : IsChoice all required fields)
    (hstep : ∀ known, ∀ f ∈ all, f.1 ∉ known →
      Reads (take f.1 (state known)) (':' :: f.2) (state (f.1 :: known)))
    (hcomplete : ∀ known, required ⊆ known → complete (state known) = .ok v) :
    Reads (fun s => do
      let (p, s) ← Json.readMembers take (state []) s
      return (← complete p, s))
      (Json.commaSeparated (fields.map fun m => Json.printMember m.1 m.2) ++ ['\x7d']) v := by
  have hnew : ∀ f ∈ fields, f.1 ∉ ([] : List String) := fun _ _ => List.not_mem_nil
  have htakes := takesAll_of_step hstep h.subset h.nodup hnew
  refine reads_complete (Json.readMembers_printed htakes) (hcomplete _ fun name hname => ?_)
  simpa using h.required_subset hname

theorem getD_known {known : List String} {name : String} {vs : List α}
    (h : vs.isEmpty = false → name ∈ known) :
    (if name ∈ known then some vs else none).getD [] = vs := by
  split
  · rfl
  · next hnot =>
    cases vs with
    | nil => rfl
    | cons v vs => exact (hnot (h rfl)).elim

end Choice

/-! ## Entries -/

end Wire

def Entry.written (e : Entry) : List (String × List Char) :=
  e.fields.map fun f => (f.1, f.2.print)

def Entry.required (e : Entry) : List String :=
  if e.args.isEmpty then ["group", "func"] else ["group", "func", "args"]

/-- A text of the entry. -/
def Entry.IsSpelled (e : Entry) (text : List Char) : Prop :=
  ∃ fields, Wire.IsChoice e.written e.required fields ∧ text = Json.printObject fields

theorem Entry.isSpelled_print (e : Entry) : e.IsSpelled e.print := by
  refine ⟨e.written, ⟨List.Subset.refl _, by simp [written, fields], ?_⟩, rfl⟩
  unfold required
  split <;> simp [written, fields]

theorem Entry.isSpelled_bare (group function : String) :
    (Entry.mk group function []).IsSpelled (Json.printObject
      [("group", (Json.string group).print), ("func", (Json.string function).print)]) :=
  ⟨_, ⟨by simp [written, fields], by simp, by simp [required]⟩, rfl⟩

namespace Wire

/-- What is known of an entry when the fields with these names are read. -/
def PartialEntry.upTo (e : Entry) (known : List String) : PartialEntry where
  group := if "group" ∈ known then some e.group else none
  function := if "func" ∈ known then some e.function else none
  args := if "args" ∈ known then some e.args else none

theorem reads_takeEntry {depth : Nat} {e : Entry} (h : e.IsPlain depth) (known : List String) :
    ∀ f ∈ e.written, f.1 ∉ known →
      Reads (PartialEntry.take (depth + 1) f.1 (.upTo e known)) (':' :: f.2)
        (.upTo e (f.1 :: known)) := by
  simp only [Entry.written, Entry.fields, List.map_cons, List.map_nil, List.mem_cons,
    List.not_mem_nil, or_false]
  rintro f (rfl | rfl | rfl) hnew
  · refine reads_field (fun group => { PartialEntry.upTo e known with group }) (if_neg hnew)
      (readText_print e.group).reads ?_
    simp [PartialEntry.upTo]
  · refine reads_field (fun function => { PartialEntry.upTo e known with function })
      (if_neg hnew) (readText_print e.function).reads ?_
    simp [PartialEntry.upTo]
  · refine reads_field (fun args => { PartialEntry.upTo e known with args }) (if_neg hnew)
      (readArgs_print h).reads ?_
    simp [PartialEntry.upTo]

theorem complete_entry {e : Entry} {known : List String} (h : e.required ⊆ known) :
    (PartialEntry.upTo e known).complete = .ok e := by
  have hgroup : "group" ∈ known := h (by unfold Entry.required; split <;> simp)
  have hfunction : "func" ∈ known := h (by unfold Entry.required; split <;> simp)
  have hargs := getD_known fun hne : e.args.isEmpty = false =>
    h (show "args" ∈ e.required by simp [Entry.required, hne])
  simp [PartialEntry.complete, PartialEntry.upTo, hgroup, hfunction, hargs, required, bind,
    Except.bind, pure, Except.pure]

theorem readEntry_spelled {depth : Nat} {e : Entry} {text : List Char} (h : e.IsPlain depth)
    (hspelled : e.IsSpelled text) : IsTextOf (readEntry (depth + 2)) text e := by
  obtain ⟨fields, hchoice, rfl⟩ := hspelled
  unfold readEntry
  exact readStructure_printed _
    (readMembers_choice hchoice (reads_takeEntry h) fun _ => complete_entry)

/-! ## Registrations -/

end Wire

def Registration.written (r : Registration) (texts : List (List Char)) :
    List (String × List Char) :=
  [("port", (Json.nat r.port.toNat).print), ("method", (Json.string r.method).print),
    ("path", (Json.string r.path).print), ("responseFunc", Json.printList texts)]

def Registration.required (r : Registration) : List String :=
  if r.entries.isEmpty then ["port", "method", "path"]
  else ["port", "method", "path", "responseFunc"]

def Registration.IsSpelled (r : Registration) (text : List Char) : Prop :=
  ∃ entries : List (Entry × List Char), entries.map Prod.fst = r.entries ∧
    (∀ p ∈ entries, p.1.IsSpelled p.2) ∧
    ∃ fields, Wire.IsChoice (r.written (entries.map Prod.snd)) r.required fields ∧
      text = Json.printObject fields

theorem Registration.isSpelled_print (r : Registration) : r.IsSpelled r.print := by
  refine ⟨r.entries.map fun e => (e, e.print), ?_, ?_, r.written (r.entries.map Entry.print),
    ⟨?_, by simp [written], ?_⟩, rfl⟩
  · rw [List.map_map]
    exact List.map_id r.entries
  · intro p hp
    obtain ⟨e, -, rfl⟩ := List.mem_map.mp hp
    exact e.isSpelled_print
  · rw [List.map_map]
    exact List.Subset.refl _
  · unfold required
    split <;> simp [written]

theorem Registration.isSpelled_bare (port : Port) (method path : String) :
    (Registration.mk port method path []).IsSpelled (Json.printObject
      [("port", (Json.nat port.toNat).print), ("method", (Json.string method).print),
        ("path", (Json.string path).print)]) :=
  ⟨[], rfl, by simp, _, ⟨by simp [written], by simp, by simp [required]⟩, rfl⟩

namespace Wire

def PartialRegistration.upTo (r : Registration) (known : List String) : PartialRegistration where
  port := if "port" ∈ known then some r.port else none
  method := if "method" ∈ known then some r.method else none
  path := if "path" ∈ known then some r.path else none
  entries := if "responseFunc" ∈ known then some r.entries else none

theorem reads_takeRegistration {depth : Nat} {r : Registration} {texts : List (List Char)}
    (h : IsTextOf (readSequence (depth + 1) readEntry) (Json.printList texts) r.entries)
    (known : List String) : ∀ f ∈ r.written texts, f.1 ∉ known →
      Reads (PartialRegistration.take (depth + 1) f.1 (.upTo r known)) (':' :: f.2)
        (.upTo r (f.1 :: known)) := by
  simp only [Registration.written, List.mem_cons, List.not_mem_nil, or_false]
  rintro f (rfl | rfl | rfl | rfl) hnew
  · refine reads_field (fun port => { PartialRegistration.upTo r known with port })
      (if_neg hnew) (readPort_print r.port).reads ?_
    simp [PartialRegistration.upTo]
  · refine reads_field (fun method => { PartialRegistration.upTo r known with method })
      (if_neg hnew) (readText_print r.method).reads ?_
    simp [PartialRegistration.upTo]
  · refine reads_field (fun path => { PartialRegistration.upTo r known with path })
      (if_neg hnew) (readText_print r.path).reads ?_
    simp [PartialRegistration.upTo]
  · refine reads_field (fun entries => { PartialRegistration.upTo r known with entries })
      (if_neg hnew) h.reads ?_
    simp [PartialRegistration.upTo]

theorem complete_registration {r : Registration} {known : List String} (h : r.required ⊆ known) :
    (PartialRegistration.upTo r known).complete = .ok r := by
  have hport : "port" ∈ known := h (by unfold Registration.required; split <;> simp)
  have hmethod : "method" ∈ known := h (by unfold Registration.required; split <;> simp)
  have hpath : "path" ∈ known := h (by unfold Registration.required; split <;> simp)
  have hentries := getD_known fun hne : r.entries.isEmpty = false =>
    h (show "responseFunc" ∈ r.required by simp [Registration.required, hne])
  simp [PartialRegistration.complete, PartialRegistration.upTo, hport, hmethod, hpath, hentries,
    required, bind, Except.bind, pure, Except.pure]

theorem readRegistration_spelled {depth : Nat} {r : Registration} {text : List Char}
    (h : r.IsPlain depth) (hspelled : r.IsSpelled text) :
    IsTextOf (readRegistration (depth + 4)) text r := by
  obtain ⟨entries, heq, hentries, fields, hchoice, rfl⟩ := hspelled
  have hlist : IsTextOf (readSequence (depth + 3) readEntry)
      (Json.printList (entries.map Prod.snd)) r.entries := by
    rw [← heq]
    exact readSequence_texts fun p hp =>
      readEntry_spelled (h p.1 (heq ▸ List.mem_map_of_mem hp)) (hentries p hp)
  unfold readRegistration
  exact readStructure_printed _
    (readMembers_choice hchoice (reads_takeRegistration hlist) fun _ => complete_registration)

theorem readRegistration_print {depth : Nat} {r : Registration} (h : r.IsPlain depth) :
    IsTextOf (readRegistration (depth + 4)) r.print r :=
  readRegistration_spelled h r.isSpelled_print

/-! ## Resets and answers -/

theorem readPortReset_print (depth : Nat) (r : PortReset) :
    IsTextOf (readPortReset (depth + 1)) r.print r := by
  have htake : Reads (takePort "port" none) (':' :: (Json.nat r.port.toNat).print)
      (some r.port) := by
    intro rest hrest
    simp [takePort, readField, Json.colon_cons, (readPort_print r.port).reads rest hrest, bind,
      Except.bind, pure, Except.pure]
  have htakes : TakesAll takePort none (r.fields.map fun f => (f.1, f.2.print)) (some r.port) :=
    .cons htake (.nil _)
  unfold readPortReset
  refine readStructure_printed _ fun rest hrest => ?_
  simp only [Json.readMembers_printed htakes rest hrest, bind, Except.bind]
  rfl

theorem readStatus_print (depth : Nat) (s : Status) :
    IsTextOf (readStatus (depth + 1)) s.print s := by
  have hstatus : Reads (PartialStatus.take "status" {}) (':' :: (Json.string s.status).print)
      { status := some s.status } :=
    reads_field (PartialStatus.mk · none) rfl (readText_print s.status).reads rfl
  have hmessage : Reads (PartialStatus.take "message" { status := some s.status })
      (':' :: (Json.string s.message).print)
      { status := some s.status, message := some s.message } :=
    reads_field (PartialStatus.mk _ ·) rfl (readText_print s.message).reads rfl
  have htakes : TakesAll PartialStatus.take {} (s.fields.map fun f => (f.1, f.2.print))
      { status := some s.status, message := some s.message } :=
    .cons hstatus (.cons hmessage (.nil _))
  have hobject := reads_complete (Json.readMembers_printed htakes)
    (show PartialStatus.complete _ = .ok s from rfl)
  unfold readStatus
  exact readStructure_printed _ hobject

/-- A message that arrives as it was printed is the message that was sent. -/
theorem parse_print {α : Type} {read : (depth : Nat) → Input → Except Error (α × Input)}
    {text : List Char} {v : α} (h : IsTextOf (read Json.maxDepth) text v) :
    parse read (Utf8.scan (Utf8.encode text)) = .ok v := by
  have hread := h.reads [] Json.endsNumber_nil
  rw [List.append_nil] at hread
  rw [Utf8.scan_encode, parse, hread]
  rfl

end Wire

end MockHttp
