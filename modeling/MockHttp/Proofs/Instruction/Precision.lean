import MockHttp.Proofs.Instruction.Denotation

/-! # Numbers that decoding keeps

A draft may hold any integer of 64 bits, and its entry has all the digits. Decoding passes them
through a floating-point number, so an integer of more than 53 binary digits comes out as another
one, and from half a step below `2 ^ 63` on the instruction is lost. The numbers that come out as
they went in are those of 53 binary digits below `2 ^ 63`.
-/

namespace MockHttp

open Binary64

/-- At most 53 binary digits in front of the zeros at its end, and less than `2 ^ 63`. -/
def Survives (n : Int) : Prop := n.natAbs < 2 ^ 63 ∧ Has53Digits n.natAbs

theorem survives_iff {n : Int} : Survives n ↔ n.natAbs < integerLimit ∧ roundInt n = n := by
  rw [roundInt_eq_self_iff, Survives]
  constructor
  · rintro ⟨hlt, hdigits⟩
    have hself : roundNat n.natAbs = n.natAbs := roundNat_eq_self_iff.mpr hdigits
    refine ⟨Nat.lt_of_not_le fun hle => ?_, hdigits⟩
    have hreach := le_roundNat_iff.mpr hle
    omega
  · rintro ⟨hlt, hdigits⟩
    exact ⟨by unfold integerLimit at hlt; omega, hdigits⟩

theorem survives_natCast_iff {n : Nat} :
    Survives n ↔ n < integerLimit ∧ roundNat n = n := by
  rw [survives_iff, roundInt_natCast, Int.natAbs_natCast]
  norm_cast

namespace Instruction

open Arguments

variable {label target : String}

/-! ## What decoding makes of a number -/

theorem decode_randomInt {min max : Int} (hmin : min.natAbs ≤ 2 ^ 64) (hmax : max.natAbs ≤ 2 ^ 64) :
    decode (Draft.randomInt min max target).entry =
      if integerLimit ≤ min.natAbs then
        .invalid Group.generators.name GeneratorWord.randomInt.name (.outOfRange 0)
      else if integerLimit ≤ max.natAbs then
        .invalid Group.generators.name GeneratorWord.randomInt.name (.outOfRange 1)
      else .generate (.randomInt (roundInt min) (roundInt max) target) := by
  let args : Arguments := [.int min, .int max, .string target]
  have hlow := @integer_of_int args 0 min rfl (log2_lt_of_le hmin)
  have hhigh := @integer_of_int args 1 max rfl (log2_lt_of_le hmax)
  have ht : name args 2 = .ok target := name_of_string rfl
  split
  · next hout =>
    rw [if_pos hout] at hlow
    exact decode_generatorEntry_of_error (bind_of_error hlow _)
  · next hin =>
    rw [if_neg hin] at hlow
    split
    · next hout =>
      rw [if_pos hout] at hhigh
      exact decode_generatorEntry_of_error
        ((bind_of_ok hlow _).trans (bind_of_error hhigh _))
    · next hin' =>
      rw [if_neg hin'] at hhigh
      exact decode_generatorEntry
        ((bind_of_ok hlow _).trans ((bind_of_ok hhigh _).trans (bind_of_ok ht _)))

theorem decode_wait {millis : Nat} (h : millis ≤ 2 ^ 64) :
    decode (Draft.wait label millis).entry =
      if integerLimit ≤ millis then
        .invalid Group.responses.name ResponseWord.wait.name (.outOfRange 1)
      else .respond label (.wait (roundNat millis)) := by
  have hread := @unsigned_of_nat [.string label, .nat millis] 1 millis rfl (log2_lt_of_le h)
  split
  · next hout =>
    rw [if_pos hout] at hread
    exact decode_responseEntry_of_error (bind_of_error hread _)
  · next hin =>
    rw [if_neg hin] at hread
    exact decode_responseEntry (bind_of_ok hread _)

theorem decode_randomWait {min max : Nat} (hmin : min ≤ 2 ^ 64) (hmax : max ≤ 2 ^ 64) :
    decode (Draft.randomWait label min max).entry =
      if integerLimit ≤ min then
        .invalid Group.responses.name ResponseWord.randomWait.name (.outOfRange 1)
      else if integerLimit ≤ max then
        .invalid Group.responses.name ResponseWord.randomWait.name (.outOfRange 2)
      else .respond label (.randomWait (roundNat min) (roundNat max)) := by
  let args : Arguments := [.string label, .nat min, .nat max]
  have hlow := @unsigned_of_nat args 1 min rfl (log2_lt_of_le hmin)
  have hhigh := @unsigned_of_nat args 2 max rfl (log2_lt_of_le hmax)
  split
  · next hout =>
    rw [if_pos hout] at hlow
    exact decode_responseEntry_of_error (bind_of_error hlow _)
  · next hin =>
    rw [if_neg hin] at hlow
    split
    · next hout =>
      rw [if_pos hout] at hhigh
      exact decode_responseEntry_of_error
        ((bind_of_ok hlow _).trans (bind_of_error hhigh _))
    · next hin' =>
      rw [if_neg hin'] at hhigh
      exact decode_responseEntry ((bind_of_ok hlow _).trans (bind_of_ok hhigh _))

/-! ## What decoding keeps -/

theorem decode_randomInt_eq_iff {min max : Int} (hmin : min.natAbs ≤ 2 ^ 64)
    (hmax : max.natAbs ≤ 2 ^ 64) :
    decode (Draft.randomInt min max target).entry = .generate (.randomInt min max target) ↔
      Survives min ∧ Survives max := by
  rw [decode_randomInt hmin hmax, survives_iff, survives_iff]
  split
  · next hout => simp [Nat.not_lt.mpr hout]
  · next hin =>
    split
    · next hout => simp [Nat.not_lt.mpr hout]
    · next hin' => simp [Nat.lt_of_not_le hin, Nat.lt_of_not_le hin']

theorem decode_wait_eq_iff {millis : Nat} (h : millis ≤ 2 ^ 64) :
    decode (Draft.wait label millis).entry = .respond label (.wait millis) ↔
      Survives millis := by
  rw [decode_wait h, survives_natCast_iff]
  split
  · next hout => simp [Nat.not_lt.mpr hout]
  · next hin => simp [Nat.lt_of_not_le hin]

theorem decode_randomWait_eq_iff {min max : Nat} (hmin : min ≤ 2 ^ 64) (hmax : max ≤ 2 ^ 64) :
    decode (Draft.randomWait label min max).entry = .respond label (.randomWait min max) ↔
      Survives min ∧ Survives max := by
  rw [decode_randomWait hmin hmax, survives_natCast_iff, survives_natCast_iff]
  split
  · next hout => simp [Nat.not_lt.mpr hout]
  · next hin =>
    split
    · next hout => simp [Nat.not_lt.mpr hout]
    · next hin' => simp [Nat.lt_of_not_le hin, Nat.lt_of_not_le hin']

theorem natAbs_toInt_le (n : Int64) : n.toInt.natAbs ≤ 2 ^ 64 := by
  have hlow := n.le_toInt
  have hhigh := n.toInt_lt
  omega

theorem toNat_le (n : UInt64) : n.toNat ≤ 2 ^ 64 := n.toNat_lt.le

/-- Of the integers of 64 bits, decoding keeps those that survive and no others. -/
theorem decode_eq_self_iff_survives (min max : Int64) (millis shortest longest : UInt64)
    (label target : String) :
    (decode (Draft.randomInt min.toInt max.toInt target).entry =
        .generate (.randomInt min.toInt max.toInt target) ↔
      Survives min.toInt ∧ Survives max.toInt) ∧
    (decode (Draft.wait label millis.toNat).entry = .respond label (.wait millis.toNat) ↔
      Survives millis.toNat) ∧
    (decode (Draft.randomWait label shortest.toNat longest.toNat).entry =
        .respond label (.randomWait shortest.toNat longest.toNat) ↔
      Survives shortest.toNat ∧ Survives longest.toNat) :=
  ⟨decode_randomInt_eq_iff (natAbs_toInt_le min) (natAbs_toInt_le max),
    decode_wait_eq_iff (toNat_le millis),
    decode_randomWait_eq_iff (toNat_le shortest) (toNat_le longest)⟩

/-- The bounds of the draft are `2 ^ 53 + 1`, and those of the instruction `2 ^ 53`. -/
theorem decode_randomInt_rounds :
    decode (Draft.randomInt 9007199254740993 9007199254740993 "V").entry =
        .generate (.randomInt 9007199254740992 9007199254740992 "V") ∧
      decode (Draft.randomInt 9007199254740993 9007199254740993 "V").entry ≠
        .generate (.randomInt 9007199254740993 9007199254740993 "V") := by
  have hround : decode (Draft.randomInt 9007199254740993 9007199254740993 "V").entry =
      .generate (.randomInt 9007199254740992 9007199254740992 "V") := by
    rw [decode_randomInt (by decide) (by decide), if_neg (by decide), if_neg (by decide)]
    have hr : roundInt 9007199254740993 = 9007199254740992 := by decide +kernel
    rw [hr]
  refine ⟨hround, fun h => ?_⟩
  rw [hround] at h
  injection h with h
  injection h with hmin
  exact absurd hmin (by decide)

end Instruction

end MockHttp
