import MockHttp.Instruction.Decode
import MockHttp.Instruction.Draft
import MockHttp.Proofs.Instruction.Arguments
import MockHttp.Proofs.Instruction.Decode

/-! # What a draft denotes

Each draft stands for one instruction. Its entry is written and read back through two tables of
names and positions; for a draft whose numbers and header name are admissible the two agree, and
decoding its entry gives the instruction that the draft denotes and no other.
-/

namespace MockHttp

def Outcome.effect : Outcome → Effect
  | bind name value => .bind name value.toJson
  | switchCase label => .switchCase label

namespace Draft

/-- The instruction for which a draft stands. -/
inductive Denotes : Draft → Instruction → Prop where
  | test {source c expected outcome} : Denotes (test source c expected outcome)
      (.test source .value c expected.toJson outcome.effect)
  | arrayLength {path c length outcome} : Denotes (arrayLength path c length outcome)
      (.test (.request (.body path)) .arrayLength c (.nat length) outcome.effect)
  | objectLength {path c length outcome} : Denotes (objectLength path c length outcome)
      (.test (.request (.body path)) .objectLength c (.nat length) outcome.effect)
  | kind {path k outcome} : Denotes (kind path k outcome)
      (.test (.request (.body path)) .kind .equal (.string k.name) outcome.effect)
  | extract {part target} : Denotes (extract part target) (.extract part target)
  | randomString {length target} : Denotes (randomString length target)
      (.generate (.randomString length target))
  | randomInt {min max target} : Denotes (randomInt min max target)
      (.generate (.randomInt min max target))
  | randomDigits {digits target} : Denotes (randomDigits digits target)
      (.generate (.randomDigits digits target))
  | randomDecimal {min max decimals target} :
      Denotes (randomDecimal (.finite min) (.finite max) decimals target)
        (.generate (.randomDecimal min max (Nat.min decimals 15) target))
  | hash {source algorithm target} : Denotes (hash source algorithm target)
      (.generate (.hash source algorithm target))
  | toText {name} : Denotes (toText name) (.manipulate (.toText name))
  | toInteger {name} : Denotes (toInteger name) (.manipulate (.toInteger name))
  | delete {name} : Denotes (delete name) (.manipulate (.delete name))
  | substring {source start stop target} : Denotes (substring source start stop target)
      (.manipulate (.substring source start stop target))
  | join {target separator parts} : Denotes (join target separator parts)
      (.manipulate (.join target (.string separator) (parts.map Operand.toJson)))
  | body {label template} : Denotes (body label template) (.respond label (.body template))
  | status {label code} : Denotes (status label code) (.respond label (.status code))
  | wait {label millis} : Denotes (wait label millis) (.respond label (.wait millis))
  | randomWait {label min max} : Denotes (randomWait label min max)
      (.respond label (.randomWait min max))
  | header {label name value} {h : HeaderName} : h.chars = name.toList.map Char.toLower →
      Denotes (header label name value) (.respond label (.header h value))
  | copyHeader {label name} {h : HeaderName} : h.chars = name.toList.map Char.toLower →
      Denotes (copyHeader label name) (.respond label (.copyHeader h))

/-- The numbers are within their bounds and the name of a header is legal. -/
def Admissible : Draft → Prop
  | randomString length _ => length ≤ 2 ^ 20
  | randomInt min max _ => min.natAbs ≤ 2 ^ 53 ∧ max.natAbs ≤ 2 ^ 53
  | randomDigits digits _ => 1 ≤ digits ∧ digits ≤ 18
  | randomDecimal min max decimals _ => decimals ≤ 2 ^ 53 ∧
      ∃ x y z, min = .finite x ∧ max = .finite y ∧ y.sub x = .finite z
  | substring _ start stop _ => start ≤ 2 ^ 53 ∧ stop ≤ 2 ^ 53
  | status _ code => 100 ≤ code ∧ code ≤ 999
  | wait _ millis => millis ≤ 2 ^ 53
  | randomWait _ min max => min ≤ 2 ^ 53 ∧ max ≤ 2 ^ 53
  | header _ name _ | copyHeader _ name => HeaderName.IsLegalText name
  | _ => True

theorem Denotes.isValid {d : Draft} {i : Instruction} (h : Denotes d i) : i.isValid = true := by
  cases h <;> rfl

end Draft

/-! ## Groups and words -/

namespace Instruction

open Arguments

theorem decode_of_ok {e : Entry} {i : Instruction} (h : decode? e = .ok i) : decode e = i := by
  simp only [decode, h]

theorem decode_of_error {e : Entry} {reason : DecodeError} (h : decode? e = .error reason) :
    decode e = .invalid e.group e.function reason := by
  simp only [decode, h]

variable {args : Arguments}

theorem decode?_condition (w : ConditionWord) :
    decode? ⟨Group.conditions.name, w.name, args⟩ = decodeCondition w args := by
  have hg : Group.ofName? Group.conditions.name = some .conditions := by decide
  simp only [decode?, hg, ConditionWord.ofName?_name]
  rfl

theorem decode?_generator (w : GeneratorWord) :
    decode? (Draft.generatorEntry w args) = (decodeGenerator w args).map .generate := by
  have hg : Group.ofName? Group.generators.name = some .generators := by decide
  simp only [decode?, Draft.generatorEntry, hg, GeneratorWord.ofName?_name]
  rfl

theorem decode?_variable (w : VariableWord) :
    decode? (Draft.variableEntry w args) = (decodeVariable w args).map .manipulate := by
  have hg : Group.ofName? Group.manipulations.name = some .manipulations := by decide
  simp only [decode?, Draft.variableEntry, hg, VariableWord.ofName?_name]
  rfl

theorem decode?_response (w : ResponseWord) (label : String) :
    decode? (Draft.responseEntry w label args) =
      (decodeResponse w (.string label :: args)).map (.respond label) := by
  have hg : Group.ofName? Group.responses.name = some .responses := by decide
  have hl : name (.string label :: args) 0 = .ok label := name_of_string rfl
  simp only [decode?, Draft.responseEntry, hg, ResponseWord.ofName?_name, hl]
  rfl

theorem decode_generatorEntry {w : GeneratorWord} {g : Generator}
    (h : decodeGenerator w args = .ok g) :
    decode (Draft.generatorEntry w args) = .generate g := by
  apply decode_of_ok
  rw [decode?_generator, h]
  rfl

theorem decode_generatorEntry_of_error {w : GeneratorWord} {reason : DecodeError}
    (h : decodeGenerator w args = .error reason) :
    decode (Draft.generatorEntry w args) = .invalid Group.generators.name w.name reason := by
  apply decode_of_error
  rw [decode?_generator, h]
  rfl

theorem decode_variableEntry {w : VariableWord} {op : VariableOp}
    (h : decodeVariable w args = .ok op) :
    decode (Draft.variableEntry w args) = .manipulate op := by
  apply decode_of_ok
  rw [decode?_variable, h]
  rfl

theorem decode_responseEntry {w : ResponseWord} {label : String} {op : ResponseOp}
    (h : decodeResponse w (.string label :: args) = .ok op) :
    decode (Draft.responseEntry w label args) = .respond label op := by
  apply decode_of_ok
  rw [decode?_response, h]
  rfl

theorem decode_responseEntry_of_error {w : ResponseWord} {label : String} {reason : DecodeError}
    (h : decodeResponse w (.string label :: args) = .error reason) :
    decode (Draft.responseEntry w label args) = .invalid Group.responses.name w.name reason := by
  apply decode_of_error
  rw [decode?_response, h]
  rfl

/-! ## Conditions -/

open Draft

theorem decodePart_partArgs (part : RequestPart) (rest : Arguments) :
    decodePart (partWord part).1 (partArgs part ++ rest) = .ok (part, (partArgs part).length) := by
  have first (s : String) : name (.string s :: rest) 0 = .ok s := name_of_string rfl
  cases part with
  | path => rfl
  | header n | body n | query n =>
    simp only [partWord, partArgs, decodePart, List.cons_append, List.nil_append, first]
    rfl

theorem decodePart_body (path : String) (rest : Arguments) :
    decodePart .body (.string path :: rest) = .ok (.body path, 1) :=
  decodePart_partArgs (.body path) rest

theorem decodeTested_sourceArgs (source : Source) (rest : Arguments) :
    decodeTested (sourceWord source) (sourceArgs source ++ rest) =
      .ok (source, (sourceArgs source).length, .value) := by
  rcases source with part | n
  · have hp := decodePart_partArgs part rest
    cases part <;> simp only [sourceWord, sourceArgs, partWord, decodeTested] at hp ⊢ <;>
      rw [hp] <;> rfl
  · have first : name (.string n :: rest) 0 = .ok n := name_of_string rfl
    simp only [sourceWord, sourceArgs, decodeTested, List.cons_append, List.nil_append, first]
    rfl

theorem decodeComparison_of_ne {m : Measure} {c : Condition} {i : Nat} (hm : m ≠ .kind)
    (hc : condition args i = .ok c) : decodeComparison m args i = .ok (c, i + 1) := by
  cases m with
  | kind => exact (hm rfl).elim
  | value | arrayLength | objectLength =>
    simp only [decodeComparison, hc]
    rfl

theorem decodeEffect_outcomeArgs (outcome : Outcome) (before : Arguments) :
    decodeEffect outcome.switchesCase (before ++ outcomeArgs outcome) before.length =
      .ok outcome.effect := by
  cases outcome with
  | bind n v =>
    have hn : name (before ++ outcomeArgs (.bind n v)) before.length = .ok n :=
      name_of_string (by simp [outcomeArgs])
    have hv : value (before ++ outcomeArgs (.bind n v)) (before.length + 1) = .ok v.toJson :=
      value_of_getElem? (by simp [outcomeArgs])
    simp only [decodeEffect, Outcome.switchesCase, hn, hv]
    rfl
  | switchCase label =>
    have hn : name (before ++ outcomeArgs (.switchCase label)) before.length = .ok label :=
      name_of_string (by simp [outcomeArgs])
    simp only [decodeEffect, Outcome.switchesCase, hn]
    rfl

theorem decode_testEntry {t : Tested} {outcome : Outcome} {source : Source} {m : Measure}
    {c : Condition} {expected : Json} (k next : Nat)
    (ht : decodeTested t (args ++ outcomeArgs outcome) = .ok (source, k, m))
    (hc : decodeComparison m (args ++ outcomeArgs outcome) k = .ok (c, next))
    (hv : (args ++ outcomeArgs outcome)[next]? = some expected) (hlen : args.length = next + 1) :
    decode (testEntry t args outcome) = .test source m c expected outcome.effect := by
  apply decode_of_ok
  rw [testEntry, decode?_condition]
  have he := decodeEffect_outcomeArgs outcome args
  rw [hlen] at he
  simp only [decodeCondition, ht, hc, value_of_getElem? hv, he, bind, Except.bind]
  rfl

theorem decode_test (source : Source) (c : Condition) (expected : Operand) (outcome : Outcome) :
    decode (Draft.test source c expected outcome).entry =
      .test source .value c expected.toJson outcome.effect := by
  refine decode_testEntry (sourceArgs source).length ((sourceArgs source).length + 1) ?_ ?_ ?_ ?_
  · rw [List.append_assoc]
    exact decodeTested_sourceArgs source _
  · have hc : condition (sourceArgs source ++ [.string c.name, expected.toJson] ++
        outcomeArgs outcome) (sourceArgs source).length = .ok c := condition_of_name (by simp)
    exact decodeComparison_of_ne (by decide) hc
  · simp
  · simp

theorem decode_size {t : Tested} {m : Measure} (path : String) (c : Condition) (length : Nat)
    (outcome : Outcome)
    (ht : ∀ args, decodeTested t args =
      (decodePart .body args).map fun (p, next) => (.request p, next, m)) (hm : m ≠ .kind) :
    decode (testEntry t [.string path, .string c.name, .nat length] outcome) =
      .test (.request (.body path)) m c (.nat length) outcome.effect := by
  refine decode_testEntry 1 2 ?_ ?_ rfl rfl
  · rw [ht, List.cons_append, decodePart_body]
    rfl
  · exact decodeComparison_of_ne hm (condition_of_name rfl)

theorem decode_kind (path : String) (k : Json.Kind) (outcome : Outcome) :
    decode (Draft.kind path k outcome).entry =
      .test (.request (.body path)) .kind .equal (.string k.name) outcome.effect := by
  refine decode_testEntry 1 1 ?_ rfl rfl rfl
  dsimp only [decodeTested]
  rw [List.cons_append, decodePart_body]
  rfl

theorem decode_extract (part : RequestPart) (target : String) :
    decode (Draft.extract part target).entry = .extract part target := by
  apply decode_of_ok
  have ht : name (partArgs part ++ [.string target]) (partArgs part).length = .ok target :=
    name_of_string (by simp)
  rw [entry, decode?_condition]
  simp only [decodeCondition, decodePart_partArgs, ht, bind, Except.bind]
  rfl

theorem decode_condition {d : Draft} {source : Source} {m : Measure} {c : Condition}
    {expected : Json} {effect : Effect} (h : Denotes d (.test source m c expected effect)) :
    decode d.entry = .test source m c expected effect := by
  cases h with
  | test => exact decode_test ..
  | arrayLength => exact decode_size _ _ _ _ (fun _ => rfl) (by decide)
  | objectLength => exact decode_size _ _ _ _ (fun _ => rfl) (by decide)
  | kind => exact decode_kind ..

/-! ## Generators, variables and responses -/

theorem maxRandomLength_le : maxRandomLength ≤ 2 ^ 53 := by
  unfold maxRandomLength
  omega

theorem decode_generator {d : Draft} {g : Generator} (h : Denotes d (.generate g))
    (ha : d.Admissible) : decode d.entry = .generate g := by
  cases h with
  | @randomString length target =>
    have hl : within [.nat length, .string target] 0 0 maxRandomLength = .ok length :=
      within_of_le rfl ⟨Nat.zero_le _, ha⟩ maxRandomLength_le
    have ht : name [.nat length, .string target] 1 = .ok target := name_of_string rfl
    exact decode_generatorEntry
      (bind_eq_ok_iff.mpr ⟨length, hl, bind_eq_ok_iff.mpr ⟨target, ht, rfl⟩⟩)
  | @randomInt min max target =>
    have hmin : integer [.int min, .int max, .string target] 0 = .ok min :=
      integer_of_le rfl ha.1
    have hmax : integer [.int min, .int max, .string target] 1 = .ok max :=
      integer_of_le rfl ha.2
    have ht : name [.int min, .int max, .string target] 2 = .ok target := name_of_string rfl
    exact decode_generatorEntry (bind_eq_ok_iff.mpr
      ⟨min, hmin, bind_eq_ok_iff.mpr ⟨max, hmax, bind_eq_ok_iff.mpr ⟨target, ht, rfl⟩⟩⟩)
  | @randomDigits digits target =>
    have hd : within [.nat digits, .string target] 0 1 maxDigits = .ok digits :=
      within_of_le rfl ha (by decide)
    have ht : name [.nat digits, .string target] 1 = .ok target := name_of_string rfl
    exact decode_generatorEntry
      (bind_eq_ok_iff.mpr ⟨digits, hd, bind_eq_ok_iff.mpr ⟨target, ht, rfl⟩⟩)
  | @randomDecimal min max decimals target =>
    obtain ⟨hdecimals, x, y, z, hx, hy, hsub⟩ := ha
    cases hx
    cases hy
    let args : Arguments := [.float min, .float max, .nat decimals, .string target]
    have hmin : number args 0 = .ok min := number_of_number (n := .float min) rfl
    have hmax : number args 1 = .ok max := number_of_number (n := .float max) rfl
    have hd : unsigned args 2 = .ok decimals := unsigned_of_le rfl hdecimals
    have ht : name args 3 = .ok target := name_of_string rfl
    have hfinite : (max.sub min).finite?.isNone = false := by rw [hsub]; rfl
    refine decode_generatorEntry (bind_eq_ok_iff.mpr
      ⟨min, hmin, bind_eq_ok_iff.mpr ⟨max, hmax, ?_⟩⟩)
    rw [hfinite]
    exact bind_eq_ok_iff.mpr ⟨decimals, hd, bind_eq_ok_iff.mpr ⟨target, ht, rfl⟩⟩
  | @hash source algorithm target =>
    have hs : name [.string source, .string algorithm.name, .string target] 0 = .ok source :=
      name_of_string rfl
    have halgorithm :
        Arguments.algorithm [.string source, .string algorithm.name, .string target] 1 =
          .ok algorithm := algorithm_of_name rfl
    have ht : name [.string source, .string algorithm.name, .string target] 2 = .ok target :=
      name_of_string rfl
    exact decode_generatorEntry (bind_eq_ok_iff.mpr
      ⟨source, hs, bind_eq_ok_iff.mpr ⟨algorithm, halgorithm,
        bind_eq_ok_iff.mpr ⟨target, ht, rfl⟩⟩⟩)

theorem decode_variable {d : Draft} {op : VariableOp} (h : Denotes d (.manipulate op))
    (ha : d.Admissible) : decode d.entry = .manipulate op := by
  cases h with
  | @toText n | @toInteger n | @delete n =>
    have hn : name [.string n] 0 = .ok n := name_of_string rfl
    exact decode_variableEntry (bind_eq_ok_iff.mpr ⟨n, hn, rfl⟩)
  | @substring source start stop target =>
    let args : Arguments := [.string source, .nat start, .nat stop, .string target]
    have hs : name args 0 = .ok source := name_of_string rfl
    have hstart : unsigned args 1 = .ok start := unsigned_of_le rfl ha.1
    have hstop : unsigned args 2 = .ok stop := unsigned_of_le rfl ha.2
    have ht : name args 3 = .ok target := name_of_string rfl
    exact decode_variableEntry (bind_eq_ok_iff.mpr ⟨source, hs, bind_eq_ok_iff.mpr
      ⟨start, hstart, bind_eq_ok_iff.mpr ⟨stop, hstop, bind_eq_ok_iff.mpr ⟨target, ht, rfl⟩⟩⟩⟩)
  | @join target separator parts =>
    let args : Arguments := .string target :: .string separator :: parts.map Operand.toJson
    have ht : name args 0 = .ok target := name_of_string rfl
    have hs : value args 1 = .ok (.string separator) := value_of_getElem? rfl
    exact decode_variableEntry
      (bind_eq_ok_iff.mpr ⟨target, ht, bind_eq_ok_iff.mpr ⟨.string separator, hs, rfl⟩⟩)

theorem decode_response {d : Draft} {label : String} {op : ResponseOp}
    (h : Denotes d (.respond label op)) (ha : d.Admissible) :
    decode d.entry = .respond label op := by
  cases h with
  | @body _ template =>
    have ht : name [.string label, .string template] 1 = .ok template := name_of_string rfl
    exact decode_responseEntry (bind_eq_ok_iff.mpr ⟨template, ht, rfl⟩)
  | @status _ code =>
    have hc : within [.string label, .nat code] 1 100 999 = .ok code :=
      within_of_le rfl ha (by decide)
    exact decode_responseEntry (bind_eq_ok_iff.mpr ⟨code, hc, rfl⟩)
  | @wait _ millis =>
    have hm : unsigned [.string label, .nat millis] 1 = .ok millis := unsigned_of_le rfl ha
    exact decode_responseEntry (bind_eq_ok_iff.mpr ⟨millis, hm, rfl⟩)
  | @randomWait _ min max =>
    have hmin : unsigned [.string label, .nat min, .nat max] 1 = .ok min :=
      unsigned_of_le rfl ha.1
    have hmax : unsigned [.string label, .nat min, .nat max] 2 = .ok max :=
      unsigned_of_le rfl ha.2
    exact decode_responseEntry
      (bind_eq_ok_iff.mpr ⟨min, hmin, bind_eq_ok_iff.mpr ⟨max, hmax, rfl⟩⟩)
  | @header _ n text header hchars =>
    have hh : headerName [.string label, .string n, .string text] 1 = .ok header :=
      headerName_of_string rfl (HeaderName.ofText?_eq_some_iff.mpr hchars)
    have ht : name [.string label, .string n, .string text] 2 = .ok text := name_of_string rfl
    exact decode_responseEntry
      (bind_eq_ok_iff.mpr ⟨header, hh, bind_eq_ok_iff.mpr ⟨text, ht, rfl⟩⟩)
  | @copyHeader _ n header hchars =>
    have hh : headerName [.string label, .string n] 1 = .ok header :=
      headerName_of_string rfl (HeaderName.ofText?_eq_some_iff.mpr hchars)
    exact decode_responseEntry (bind_eq_ok_iff.mpr ⟨header, hh, rfl⟩)

theorem decode_entry_of_denotes {d : Draft} {i : Instruction} (h : Denotes d i)
    (ha : d.Admissible) : decode d.entry = i := by
  cases i with
  | extract part target =>
    cases h
    exact decode_extract part target
  | test source m c expected effect => exact decode_condition h
  | generate g => exact decode_generator h ha
  | manipulate op => exact decode_variable h ha
  | respond label op => exact decode_response h ha
  | invalid group function reason => cases h

end Instruction

namespace Draft

theorem exists_denotes {d : Draft} (ha : d.Admissible) : ∃ i, Denotes d i := by
  cases d with
  | randomDecimal min max decimals target =>
    obtain ⟨-, _, _, _, rfl, rfl, -⟩ := ha
    exact ⟨_, .randomDecimal⟩
  | header label name value =>
    obtain ⟨h, hh⟩ := HeaderName.exists_ofText? ha
    exact ⟨_, .header (HeaderName.ofText?_eq_some_iff.mp hh)⟩
  | copyHeader label name =>
    obtain ⟨h, hh⟩ := HeaderName.exists_ofText? ha
    exact ⟨_, .copyHeader (HeaderName.ofText?_eq_some_iff.mp hh)⟩
  | _ => exact ⟨_, by constructor⟩

/-- Decoding the entry of an admissible draft gives the instruction that the draft denotes. -/
theorem decode_entry_eq_iff_denotes {d : Draft} (ha : d.Admissible) :
    (Instruction.decode d.entry).isValid = true ∧
      ∀ i, Instruction.decode d.entry = i ↔ Denotes d i := by
  obtain ⟨i, hi⟩ := exists_denotes ha
  have he : Instruction.decode d.entry = i := Instruction.decode_entry_of_denotes hi ha
  refine ⟨he ▸ hi.isValid, fun j => ⟨?_, fun hj => Instruction.decode_entry_of_denotes hj ha⟩⟩
  rintro rfl
  exact he.symm ▸ hi

theorem decode_header_vip :
    (header "vip" "X-Tier" "gold").Admissible ∧
      Instruction.decode (header "vip" "X-Tier" "gold").entry =
        .respond "vip" (.header ⟨"x-tier".toList, by decide⟩ "gold") := by
  have ha : (header "vip" "X-Tier" "gold").Admissible :=
    ⟨by decide, by decide, List.all_eq_true.mp (by decide)⟩
  exact ⟨ha, ((decode_entry_eq_iff_denotes ha).2 _).mpr (.header (by decide))⟩

end Draft

end MockHttp
