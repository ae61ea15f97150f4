import MockHttp.Proofs.Json.Words

/-! # Reading printed values

A value without floating-point numbers is read back from its text. Lists and objects are read in
general first: what is known of their elements decides what is known of them.
-/

namespace MockHttp.Json

open Utf8 (Piece)

def StartsValue (text : List Char) : Prop :=
  ∃ c cs, text = c :: cs ∧ isSpace (.char c) = false ∧ c ≠ ']'

/-- The reader takes the text for the value wherever it stands. -/
structure IsTextOf {α : Type} (read : Input → Except Error (α × Input)) (text : List Char)
    (v : α) : Prop where
  starts : StartsValue text
  reads : Reads read text v

theorem IsTextOf.opened {α β : Type} {read : Input → Except Error (α × Input)}
    {readRest : Input → Except Error (β × Input)} {f : β → α} {c : Char} {text : List Char} {v : β}
    (hc : isSpace (.char c) = false ∧ c ≠ ']')
    (hread : ∀ rest, read (.char c :: rest) = (readRest rest).map fun (v, s) => (f v, s))
    (h : Reads readRest text v) : IsTextOf read (c :: text) (f v) := by
  refine ⟨⟨c, text, rfl, hc⟩, fun rest hrest => ?_⟩
  rw [List.map_cons, List.cons_append, hread, h rest hrest]
  rfl

theorem skipSpace_char {c : Char} (h : isSpace (.char c) = false) (rest : Input) :
    skipSpace (.char c :: rest) = .char c :: rest := by
  simp [skipSpace, h]

def delimiters : List Char := [',', ':', ']', '\x7d']

theorem endsNumber_cons {c : Char} (h : c ∈ delimiters) (rest : Input) :
    EndsNumber (.char c :: rest) := by
  simp only [delimiters, List.mem_cons, List.not_mem_nil, or_false] at h
  rcases h with rfl | rfl | rfl | rfl <;>
    simp [EndsNumber, startsWithDigit, startsExponent, digit?, Char.isDigit]

def partsTail (close : Char) (parts : List (List Char)) : List Char :=
  parts.flatMap (',' :: ·) ++ [close]

theorem partsTail_cons (close : Char) (part : List Char) (parts : List (List Char)) :
    partsTail close (part :: parts) = ',' :: (part ++ partsTail close parts) := by
  simp [partsTail]

theorem commaSeparated_append (close : Char) (part : List Char) (parts : List (List Char)) :
    commaSeparated (part :: parts) ++ [close] = part ++ partsTail close parts := by
  induction parts generalizing part with
  | nil => rfl
  | cons next parts ih =>
    have hcons : commaSeparated (part :: next :: parts) =
        part ++ ',' :: commaSeparated (next :: parts) := rfl
    rw [hcons, List.append_assoc, List.cons_append, ih, partsTail_cons]

theorem endsNumber_partsTail {close : Char} (h : close ∈ delimiters) (parts : List (List Char))
    (rest : Input) : EndsNumber ((partsTail close parts).map Piece.char ++ rest) := by
  cases parts with
  | nil => exact endsNumber_cons h rest
  | cons part parts => exact endsNumber_cons (by decide) _

theorem length_lt_partsTail {β : Type} (close : Char) (text : β → List Char) (vs : List β) :
    vs.length < (partsTail close (vs.map text)).length := by
  induction vs with
  | nil => simp [partsTail]
  | cons v vs ih =>
    rw [List.map_cons, partsTail_cons, List.length_cons, List.length_cons, List.length_append]
    omega

/-! ## Lists -/

section Lists

variable {α β : Type} {read : Input → Except Error (α × Input)} {text : β → List Char}
  {value : β → α}

theorem readElements_close (fuel : Nat) (first : Bool) (rest : Input) :
    readElements read (fuel + 1) first (.char ']' :: rest) = .ok ([], rest) := by
  simp [readElements, nextElement, skipSpace_char, isSpace, bind, Except.bind, pure, Except.pure]

theorem readElements_more {s rest rest' : Input} {text : List Char} {v : α} {vs : List α}
    {first : Bool} {fuel : Nat} (h : IsTextOf read text v)
    (hnext : nextElement first s = .ok (true, text.map Piece.char ++ rest))
    (hrest : EndsNumber rest) (hvs : readElements read fuel false rest = .ok (vs, rest')) :
    readElements read (fuel + 1) first s = .ok (v :: vs, rest') := by
  simp [readElements, hnext, h.reads rest hrest, hvs, bind, Except.bind, pure, Except.pure]

theorem nextElement_first {text : List Char} (h : StartsValue text) (rest : Input) :
    nextElement true (text.map Piece.char ++ rest) = .ok (true, text.map Piece.char ++ rest) := by
  obtain ⟨c, cs, rfl, hc, hne⟩ := h
  simp [nextElement, skipSpace_char, hc, hne]

theorem nextElement_comma {text : List Char} (h : StartsValue text) (rest : Input) :
    nextElement false (.char ',' :: (text.map Piece.char ++ rest)) =
      .ok (true, text.map Piece.char ++ rest) := by
  obtain ⟨c, cs, rfl, hc, hne⟩ := h
  have hcomma : isSpace (.char ',') = false := rfl
  simp [nextElement, skipSpace_char, hc, hne, hcomma]

theorem readElements_partsTail {bs : List β} (h : ∀ b ∈ bs, IsTextOf read (text b) (value b))
    {fuel : Nat} (hfuel : bs.length < fuel) (rest : Input) :
    readElements read fuel false ((partsTail ']' (bs.map text)).map Piece.char ++ rest) =
      .ok (bs.map value, rest) := by
  induction bs generalizing fuel with
  | nil =>
    cases fuel with
    | zero => simp at hfuel
    | succ fuel => exact readElements_close fuel false rest
  | cons b bs ih =>
    cases fuel with
    | zero => simp at hfuel
    | succ fuel =>
      have hb := h b (.head _)
      have hbs := ih (fun c hc => h c (.tail _ hc)) (Nat.lt_of_succ_lt_succ hfuel)
      rw [List.map_cons, partsTail_cons, List.map_cons, List.map_append, List.cons_append,
        List.append_assoc]
      exact readElements_more hb (nextElement_comma hb.starts _)
        (endsNumber_partsTail (by decide) _ _) hbs

/-- A list is read if its elements are, each from a text of its own. -/
theorem readList_texts {bs : List β} (h : ∀ b ∈ bs, IsTextOf read (text b) (value b)) :
    Reads (readList read) (commaSeparated (bs.map text) ++ [']']) (bs.map value) := by
  intro rest _
  unfold readList
  cases bs with
  | nil => exact readElements_close _ true rest
  | cons b bs =>
    have hb := h b (.head _)
    have hlength := length_lt_partsTail ']' text bs
    rw [List.map_cons, commaSeparated_append, List.map_append, List.append_assoc]
    refine readElements_more hb (nextElement_first hb.starts _)
      (endsNumber_partsTail (by decide) _ _) ?_
    refine readElements_partsTail (fun c hc => h c (.tail _ hc)) ?_ rest
    simp only [List.length_append, List.length_map]
    omega

theorem readList_printed {vs : List α} {text : α → List Char}
    (h : ∀ v ∈ vs, IsTextOf read (text v) v) :
    Reads (readList read) (commaSeparated (vs.map text) ++ [']']) vs := by
  have hvalues : ∀ v ∈ vs, IsTextOf read (text v) (id v) := h
  have hlist := readList_texts hvalues
  rwa [List.map_id] at hlist

end Lists

/-! ## Objects -/

section Objects

variable {σ : Type} {take : String → σ → Input → Except Error (σ × Input)}

/-- Members take one state into another, each from the text of its value. -/
inductive TakesAll (take : String → σ → Input → Except Error (σ × Input)) :
    σ → List (String × List Char) → σ → Prop where
  | nil (state : σ) : TakesAll take state [] state
  | cons {state state' state'' : σ} {key : String} {text : List Char}
      {members : List (String × List Char)} :
      Reads (take key state) (':' :: text) state' → TakesAll take state' members state'' →
      TakesAll take state ((key, text) :: members) state''

def memberTail (m : String × List Char) : List Char :=
  m.1.toList.flatMap escapedChar ++ '"' :: ':' :: m.2

theorem printMember_eq (m : String × List Char) : printMember m.1 m.2 = '"' :: memberTail m := by
  simp [printMember, printString, memberTail]

theorem readMembersFrom_close (fuel : Nat) (first : Bool) (state : σ) (rest : Input) :
    readMembersFrom take (fuel + 1) first state (.char '\x7d' :: rest) = .ok (state, rest) := by
  simp [readMembersFrom, nextMember, skipSpace_char, isSpace, bind, Except.bind, pure,
    Except.pure]

theorem readMembersFrom_more {s rest rest' : Input} {state state' state'' : σ} {key : String}
    {text : List Char} {first : Bool} {fuel : Nat}
    (htake : Reads (take key state) (':' :: text) state')
    (hnext : nextMember first s = .ok (true, (memberTail (key, text)).map Piece.char ++ rest))
    (hrest : EndsNumber rest)
    (hmembers : readMembersFrom take fuel false state' rest = .ok (state'', rest')) :
    readMembersFrom take (fuel + 1) first state s = .ok (state'', rest') := by
  have hkey := scanString_escaped key ((':' :: text).map Piece.char ++ rest)
    (endsNumber_cons (by decide) _)
  have heq : (memberTail (key, text)).map Piece.char ++ rest =
      (key.toList.flatMap escapedChar ++ ['"']).map Piece.char ++
        ((':' :: text).map Piece.char ++ rest) := by
    simp [memberTail]
  rw [heq] at hnext
  unfold readMembersFrom
  simp only [hnext, bind, Except.bind, if_true]
  rw [hkey]
  simp only
  rw [htake rest hrest]
  exact hmembers

theorem nextMember_first (m : String × List Char) (rest : Input) :
    nextMember true ((printMember m.1 m.2).map Piece.char ++ rest) =
      .ok (true, (memberTail m).map Piece.char ++ rest) := by
  simp [printMember_eq, nextMember, skipSpace_char, isSpace]

theorem nextMember_comma (m : String × List Char) (rest : Input) :
    nextMember false (.char ',' :: ((printMember m.1 m.2).map Piece.char ++ rest)) =
      .ok (true, (memberTail m).map Piece.char ++ rest) := by
  simp [printMember_eq, nextMember, skipSpace_char, isSpace]

theorem readMembersFrom_partsTail {members : List (String × List Char)} {state state' : σ}
    (h : TakesAll take state members state') {fuel : Nat} (hfuel : members.length < fuel)
    (rest : Input) :
    readMembersFrom take fuel false state
      ((partsTail '\x7d' (members.map fun m => printMember m.1 m.2)).map Piece.char ++ rest) =
        .ok (state', rest) := by
  induction h generalizing fuel with
  | nil state =>
    cases fuel with
    | zero => simp at hfuel
    | succ fuel => exact readMembersFrom_close fuel false state rest
  | @cons _ _ _ key text members htake _ ih =>
    cases fuel with
    | zero => simp at hfuel
    | succ fuel =>
      have hmembers := ih (Nat.lt_of_succ_lt_succ hfuel)
      rw [List.map_cons, partsTail_cons, List.map_cons, List.map_append, List.cons_append,
        List.append_assoc]
      exact readMembersFrom_more htake (nextMember_comma (key, text) _)
        (endsNumber_partsTail (by decide) _ _) hmembers

/-- An object is read if its members can be taken one after the other. -/
theorem readMembers_printed {members : List (String × List Char)} {state state' : σ}
    (h : TakesAll take state members state') :
    Reads (readMembers take state)
      (commaSeparated (members.map fun m => printMember m.1 m.2) ++ ['\x7d']) state' := by
  intro rest _
  unfold readMembers
  cases h with
  | nil => exact readMembersFrom_close _ true state rest
  | @cons _ _ _ key text members htake hmembers =>
    have hlength := length_lt_partsTail '\x7d' (fun m => printMember m.1 m.2) members
    rw [List.map_cons, commaSeparated_append, List.map_append, List.append_assoc]
    refine readMembersFrom_more htake (nextMember_first (key, text) _)
      (endsNumber_partsTail (by decide) _ _) ?_
    refine readMembersFrom_partsTail hmembers ?_ rest
    simp only [List.length_append, List.length_map]
    omega

end Objects

/-! ## Values -/

inductive FloatFree : Json → Prop where
  | null : FloatFree .null
  | bool (b : Bool) : FloatFree (.bool b)
  | int (n : Int) : FloatFree (.int n)
  | string (s : String) : FloatFree (.string s)
  | array {items : List Json} : (∀ v ∈ items, FloatFree v) → FloatFree (.array items)
  | object {members : List (String × Json)} : (∀ m ∈ members, FloatFree m.2) →
      FloatFree (.object members)

theorem print_nat (n : Nat) : (Json.nat n).print = Digits.ofNat n := by
  simp [Json.nat, Json.int, print, printNumber, Digits.ofInt]

theorem printItems_eq_map (items : List Json) : printItems items = items.map print := by
  induction items with
  | nil => rfl
  | cons v vs ih => simp [printItems, ih]

theorem printMembers_eq_map (members : List (String × Json)) :
    printMembers members = members.map fun m => (m.1, m.2.print) := by
  induction members with
  | nil => rfl
  | cons m ms ih => simp [printMembers, ih]

theorem wellFormedItems_iff {items : List Json} :
    WellFormedItems items ↔ ∀ v ∈ items, v.WellFormed := by
  induction items with
  | nil => simp [WellFormedItems]
  | cons v vs ih => simp [WellFormedItems, ih]

theorem wellFormedMembers_iff {members : List (String × Json)} :
    WellFormedMembers members ↔ ∀ m ∈ members, m.2.WellFormed := by
  induction members with
  | nil => simp [WellFormedMembers]
  | cons m ms ih => simp [WellFormedMembers, ih]

theorem depthItems_le_iff {items : List Json} {n : Nat} :
    depthItems items ≤ n ↔ ∀ v ∈ items, v.depth ≤ n := by
  induction items with
  | nil => simp [depthItems]
  | cons v vs ih =>
    rw [depthItems, Nat.max_le, ih]
    simp

theorem depthMembers_le_iff {members : List (String × Json)} {n : Nat} :
    depthMembers members ≤ n ↔ ∀ m ∈ members, m.2.depth ≤ n := by
  induction members with
  | nil => simp [depthMembers]
  | cons m ms ih =>
    rw [depthMembers, Nat.max_le, ih]
    simp

theorem ne_of_isDigit {c : Char} (h : c.isDigit = true) :
    ∀ d : Char, d.isDigit = false → c ≠ d := by
  rintro d hd rfl
  rw [hd] at h
  cases h

theorem isSpace_of_isDigit {c : Char} (h : c.isDigit = true) : isSpace (.char c) = false := by
  have hne := ne_of_isDigit h
  simp [isSpace, hne ' ' rfl, hne '\n' rfl, hne '\t' rfl, hne '\r' rfl]

theorem startsValue_ofNat (n : Nat) : StartsValue (Digits.ofNat n) := by
  obtain ⟨c, cs, hcs, hdigit⟩ := Digits.exists_ofNat_eq_cons n
  exact ⟨c, cs, hcs, isSpace_of_isDigit hdigit, ne_of_isDigit hdigit ']' rfl⟩

theorem readValue_digit {c : Char} {cs : List Char} {x : Number} (hc : c.isDigit = true)
    (h : Reads (scanNumber false) (c :: cs) x) (depth : Nat) :
    IsTextOf (readValue depth) (c :: cs) (.number x) := by
  have hne := ne_of_isDigit hc
  refine ⟨⟨c, cs, rfl, isSpace_of_isDigit hc, hne ']' rfl⟩, fun rest hrest => ?_⟩
  have hscan := h rest hrest
  simp only [List.map_cons, List.cons_append] at hscan ⊢
  unfold readValue
  simp [skipSpace_char (isSpace_of_isDigit hc), hne 'n' rfl, hne 't' rfl, hne 'f' rfl,
    hne '-' rfl, hc, hscan, Except.map]

theorem readValue_printInt {n : Int} (h : Number.IsExact n) (depth : Nat) :
    IsTextOf (readValue depth) (Digits.ofInt n) (.int n) := by
  have hfit := h
  obtain ⟨hlow, hhigh⟩ := hfit
  unfold Digits.ofInt
  split
  · next hn =>
    have hnat : n.natAbs < 0x10000000000000000 := by omega
    have hnumber : wholeNumber true n.natAbs = .int n := by
      have hne : n.natAbs ≠ 0 := by omega
      have hle : n.natAbs ≤ 0x8000000000000000 := by omega
      have habs : -(n.natAbs : Int) = n := by omega
      rw [wholeNumber, if_pos rfl, if_neg (not_or.mpr ⟨hne, Nat.not_lt.mpr hle⟩), habs]
    refine ⟨⟨'-', _, rfl, rfl, by decide⟩, fun rest hrest => ?_⟩
    have hscan := scanNumber_ofNat hnat true rest hrest
    unfold readValue
    simp [skipSpace_char, isSpace, hscan, hnumber, Except.map, Json.int]
  · next hn =>
    have hnat : n.natAbs < 0x10000000000000000 := by omega
    have hnumber : wholeNumber false n.natAbs = .int n := by
      have habs : (n.natAbs : Int) = n := by omega
      rw [wholeNumber, if_neg Bool.false_ne_true, habs]
    obtain ⟨c, cs, hcs, hdigit⟩ := Digits.exists_ofNat_eq_cons n.natAbs
    have hscan := scanNumber_ofNat hnat false
    rw [hnumber, hcs] at hscan
    rw [hcs]
    exact readValue_digit hdigit hscan depth

theorem insert_append {members : List (String × Json)} {key : String} {v : Json}
    (h : ∀ m ∈ members, compare m.1 key = .lt) :
    Assoc.insert key v members = members ++ [(key, v)] := by
  induction members with
  | nil => rfl
  | cons m members ih =>
    obtain ⟨l, w⟩ := m
    have hl : compare key l = .gt := Std.OrientedCmp.gt_of_lt (h _ (.head _))
    simp only [Assoc.insert, hl, List.cons_append]
    rw [ih fun m hm => h m (.tail _ hm)]

theorem colon_cons (rest : Input) : colon (.char ':' :: rest) = .ok rest := by
  simp [colon, skipSpace_char, isSpace]

def takeMember (depth : Nat) (key : String) (members : List (String × Json)) (s : Input) :
    Except Error (List (String × Json) × Input) := do
  let s ← colon s
  let (v, s) ← readValue depth s
  return (Assoc.insert key v members, s)

theorem reads_takeMember {depth : Nat} {text : List Char} {v : Json}
    (h : Reads (readValue depth) text v) (key : String) (members : List (String × Json)) :
    Reads (takeMember depth key members) (':' :: text) (Assoc.insert key v members) := by
  intro rest hrest
  simp [takeMember, colon_cons, h rest hrest, bind, Except.bind, pure, Except.pure]

theorem takesAll_members {depth : Nat} {members : List (String × Json)}
    (h : ∀ m ∈ members, Reads (readValue depth) m.2.print m.2)
    {known : List (String × Json)} (hordered : Assoc.Ordered (known ++ members)) :
    TakesAll (takeMember depth) known (members.map fun m => (m.1, m.2.print))
      (known ++ members) := by
  induction members generalizing known with
  | nil => simpa using TakesAll.nil known
  | cons m members ih =>
    have hinsert : Assoc.insert m.1 m.2 known = known ++ [m] :=
      insert_append fun l hl => (List.pairwise_append.mp hordered).2.2 l hl m (.head _)
    have hordered' : Assoc.Ordered ((known ++ [m]) ++ members) := by simpa using hordered
    have htail := ih (fun m hm => h m (.tail _ hm)) hordered'
    rw [List.append_assoc, List.singleton_append, ← hinsert] at htail
    exact .cons (reads_takeMember (h m (.head _)) m.1 known) htail

theorem readValue_word {c : Char} {cs : List Char} {v : Json}
    (h : (c, cs, v) ∈ [('n', ['u', 'l', 'l'], null), ('t', ['r', 'u', 'e'], .bool true),
      ('f', ['a', 'l', 's', 'e'], .bool false)]) (depth : Nat) :
    IsTextOf (readValue depth) (c :: cs) v := by
  simp only [List.mem_cons, List.not_mem_nil, or_false, Prod.mk.injEq] at h
  rcases h with ⟨rfl, rfl, rfl⟩ | ⟨rfl, rfl, rfl⟩ | ⟨rfl, rfl, rfl⟩
  all_goals
    refine ⟨⟨_, _, rfl, rfl, by decide⟩, fun rest _ => ?_⟩
    unfold readValue
    simp [skipSpace_char, isSpace, readWord, scanWord, Except.map]

theorem readValue_quote (depth : Nat) (rest : Input) :
    readValue depth (.char '"' :: rest) = (scanString rest).map fun (t, s) => (.string t, s) := by
  unfold readValue
  simp [skipSpace_char, isSpace]

theorem readValue_bracket (depth : Nat) (rest : Input) :
    readValue (depth + 1) (.char '[' :: rest) =
      (readList (readValue depth) rest).map fun (vs, s) => (.array vs, s) := by
  unfold readValue
  simp [skipSpace_char, isSpace]

theorem readValue_brace (depth : Nat) (rest : Input) :
    readValue (depth + 1) (.char '\x7b' :: rest) =
      (readMembers (takeMember depth) [] rest).map fun (members, s) => (.object members, s) := rfl

/-- A value without floating-point numbers is read back from its text, if the reader may go as
deep as it lies. -/
theorem readValue_print {depth : Nat} {v : Json} (hwf : v.WellFormed) (hfloat : v.FloatFree)
    (hdepth : v.depth ≤ depth) : IsTextOf (readValue depth) v.print v := by
  induction hfloat generalizing depth with
  | null => exact readValue_word (by simp) depth
  | bool b => cases b <;> exact readValue_word (by simp) depth
  | int n => exact readValue_printInt hwf depth
  | string s => exact .opened (by decide) (readValue_quote depth) (scanString_escaped s)
  | @array items _ ih =>
    cases depth with
    | zero => simp [Json.depth] at hdepth
    | succ depth =>
      have hitems : ∀ v ∈ items, IsTextOf (readValue depth) v.print v := fun v hv =>
        ih v hv (wellFormedItems_iff.mp hwf v hv)
          (depthItems_le_iff.mp (Nat.le_of_succ_le_succ hdepth) v hv)
      rw [print, printItems_eq_map]
      exact .opened (by decide) (readValue_bracket depth) (readList_printed hitems)
  | @object members _ ih =>
    cases depth with
    | zero => simp [Json.depth] at hdepth
    | succ depth =>
      obtain ⟨hordered, hmembers⟩ := hwf
      have hvalues : ∀ m ∈ members, Reads (readValue depth) m.2.print m.2 := fun m hm =>
        (ih m hm (wellFormedMembers_iff.mp hmembers m hm)
          (depthMembers_le_iff.mp (Nat.le_of_succ_le_succ hdepth) m hm)).reads
      have htakes := takesAll_members hvalues (List.nil_append members ▸ hordered)
      rw [print, printMembers_eq_map]
      exact .opened (by decide) (readValue_brace depth) (readMembers_printed htakes)

end MockHttp.Json
