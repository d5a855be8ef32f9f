/-
Numbers from nought to one, narrowed to single precision.

* `encode_le_one` — the number nearest to a fraction that is one at most is one at most;
* `bits_of_mem_unit` — the bits of a double from nought to one are those of a minus nought, or at
  most those of one;
* `ofBits_mem_unit` — bits that are at most those of one are a single from nought to one;
* `narrow_mem_unit` — so a number from nought to one is narrowed to one from nought to one.

Design notes: the bits of numbers without a sign are in the order of the numbers, so both sides
are compared by their bits.  Nothing is said about which of the numbers of 32 bits is the nearest,
as only the ends of the interval matter.
-/
import SourceRetrieval.Number.Binary
import SourceRetrieval.Proofs.Ranking.Share

namespace SourceRetrieval.Number

open Float.Model (UnpackedFloat)
open Float.Model.UnpackedFloat

/-! ### Rounding a fraction -/

theorem roundDiv_le {num den k : Nat} (hden : 0 < den) (h : num ≤ k * den) :
    roundDiv num den ≤ k := by
  have hquotient : num / den ≤ k := Nat.div_le_of_le_mul (by rwa [Nat.mul_comm])
  rw [roundDiv]
  rcases Nat.lt_or_eq_of_le hquotient with hlt | heq
  · split <;> omega
  · -- A quotient that is all of `k` leaves nothing over, and is not rounded up.
    have hmod : num % den = 0 := by
      have hdivision := Nat.div_add_mod num den
      rw [heq, Nat.mul_comm] at hdivision
      omega
    rw [if_pos (by simp [hmod, hden])]
    exact hquotient

section Encode

variable {num den : Nat}

theorem scale_neg (num den : Nat) {a : Nat} (ha : 0 < a) :
    scale num den (-(a : Int)) = (num, den * 2 ^ a) := by
  rw [scale, if_neg (by omega)]
  simp

theorem scale_natCast (num den a : Nat) : scale num den (a : Int) = (num * 2 ^ a, den) := by
  rw [scale, if_pos (by omega)]
  simp

/-- The mantissa of a fraction that is one at most has no more than twenty-four bits. -/
theorem exists_exponentFor (hnum : 0 < num) (h : num ≤ den) :
    ∃ a : Nat, single.exponentFor num den = -(a : Int) ∧ 23 ≤ a ∧ a ≤ 149
      ∧ num * 2 ^ a ≤ 2 ^ 24 * den := by
  have hden : 0 < den := Nat.lt_of_lt_of_le hnum h
  have hlog : num.log2 ≤ den.log2 :=
    (Nat.le_log2 (Nat.ne_of_gt hden)).mpr (Nat.le_trans (Nat.log2_self_le (Nat.ne_of_gt hnum)) h)
  obtain ⟨g, hg⟩ : ∃ g : Nat, g = den.log2 - num.log2 + 23 := ⟨_, rfl⟩
  have hguess : (num.log2 : Int) - den.log2 - single.fractionBits = -(g : Int) := by
    show (num.log2 : Int) - den.log2 - (23 : Nat) = _
    omega
  -- The guess is at most one too large, as it goes by the lengths alone.
  have hlong : num * 2 ^ g ≤ 2 ^ 24 * den := by
    have hupper : num < 2 ^ (num.log2 + 1) := Nat.lt_log2_self
    have hlower : 2 ^ den.log2 ≤ den := Nat.log2_self_le (Nat.ne_of_gt hden)
    calc num * 2 ^ g ≤ 2 ^ (num.log2 + 1) * 2 ^ g := Nat.mul_le_mul_right _ (Nat.le_of_lt hupper)
      _ = 2 ^ 24 * 2 ^ den.log2 := by
        rw [← Nat.pow_add, ← Nat.pow_add]
        congr 1
        omega
      _ ≤ 2 ^ 24 * den := Nat.mul_le_mul_left _ hlower
  have hleast : single.minExponent = -149 := by decide
  have hexponent : single.exponentFor num den
      = max (if num * 2 ^ g / den < 2 ^ 23 then -(g : Int) - 1 else -(g : Int)) (-149) := by
    rw [Format.exponentFor, hguess, Int.neg_neg, scale_natCast, hleast]
    rfl
  have hless : ∀ {a b : Nat}, a ≤ b → num * 2 ^ b ≤ 2 ^ 24 * den → num * 2 ^ a ≤ 2 ^ 24 * den :=
    fun hab hb => Nat.le_trans
      (Nat.mul_le_mul_left _ (Nat.pow_le_pow_right (by decide) hab)) hb
  by_cases hshort : num * 2 ^ g / den < 2 ^ 23
  · have hlong' : num * 2 ^ (g + 1) ≤ 2 ^ 24 * den := by
      have hlt := (Nat.div_lt_iff_lt_mul hden).mp hshort
      rw [Nat.pow_succ, ← Nat.mul_assoc]
      omega
    rw [if_pos hshort] at hexponent
    exact ⟨min (g + 1) 149, by rw [hexponent]; omega, by omega, by omega,
      hless (Nat.min_le_left _ _) hlong'⟩
  · rw [if_neg hshort] at hexponent
    exact ⟨min g 149, by rw [hexponent]; omega, by omega, by omega,
      hless (Nat.min_le_left _ _) hlong⟩

theorem Format.encode_zero (format : Format) (den : Nat) : format.encode 0 den = 0 := if_pos rfl

/-- The number nearest to a fraction that is one at most is one at most. -/
theorem encode_le_one (hden : 0 < den) (h : num ≤ den) : single.encode num den ≤ 127 * 2 ^ 23 := by
  rcases Nat.eq_zero_or_pos num with rfl | hnum
  · exact Nat.zero_le _
  · obtain ⟨a, hexponent, hlow, hhigh, hlong⟩ := exists_exponentFor hnum h
    have hleast : single.minExponent = -149 := by decide
    have hbits : single.encode num den
        ≤ (149 - a) * 2 ^ 23 + roundDiv (num * 2 ^ a) den := by
      have hplace : (-(a : Int) - -149).toNat = 149 - a := by omega
      rw [Format.encode, if_neg (Nat.ne_of_gt hnum)]
      simp only [hexponent, Int.neg_neg, scale_natCast, hleast, hplace]
      exact Nat.min_le_left _ _
    rcases Nat.lt_or_eq_of_le hlow with hlt | heq
    · have hround : roundDiv (num * 2 ^ a) den ≤ 2 ^ 24 := roundDiv_le hden hlong
      omega
    · have hround : roundDiv (num * 2 ^ a) den ≤ 2 ^ 23 := by
        refine roundDiv_le hden ?_
        rw [← heq, Nat.mul_comm]
        exact Nat.mul_le_mul_left _ h
      omega

end Encode

/-! ### The fields of bits -/

section Fields

variable {spec : Float.Model.Format}

theorem toNat_unpackMantissa (b : BitVec spec.numBits) :
    (unpackMantissa b).toNat = b.toNat % 2 ^ spec.mantissaBitsWithoutImplicit := by
  have hmantissa := spec.hm
  rw [unpackMantissa, BitVec.toNat_cast, BitVec.extractLsb_toNat, Nat.shiftRight_zero,
    Nat.sub_zero, Nat.sub_add_cancel hmantissa]

theorem toNat_unpackExponent (b : BitVec spec.numBits) :
    (unpackExponent b).toNat
      = b.toNat / 2 ^ spec.mantissaBitsWithoutImplicit % 2 ^ spec.exponentBits := by
  have hmantissa := spec.hm
  have hexponent := spec.he
  rw [unpackExponent, BitVec.toNat_cast, BitVec.extractLsb_toNat, Nat.shiftRight_eq_div_pow]
  congr 2
  omega

theorem toNat_unpackSign (b : BitVec spec.numBits) :
    (unpackSign b).toNat
      = b.toNat / 2 ^ (spec.mantissaBitsWithoutImplicit + spec.exponentBits) % 2 := by
  rw [unpackSign, BitVec.toNat_cast, BitVec.extractLsb_toNat, Nat.shiftRight_eq_div_pow,
    Nat.sub_self, Nat.zero_add, Nat.pow_one]

end Fields

/-! ### Doubles from nought to one -/

/-- Positive numbers are compared by their exponents first. -/
theorem le_positive_iff {m m' : Nat} {e e' : Int} {hm : 0 < m} {hm' : 0 < m'} :
    UnpackedFloat.le (.finite .positive m e hm) (.finite .positive m' e' hm') = true ↔
      e < e' ∨ e = e' ∧ m ≤ m' := by
  show ((compare e e').then (compare m m')).isLE = true ↔ _
  rcases Int.lt_trichotomy e e' with hlt | heq | hgt
  · rw [Int.compare_eq_lt.mpr hlt]
    exact iff_of_true rfl (.inl hlt)
  · rw [heq, Std.compare_self]
    show (compare m m').isLE = true ↔ _
    rw [Nat.isLE_compare]
    exact ⟨fun h => .inr ⟨rfl, h⟩, fun h => h.elim (absurd · (Int.lt_irrefl e')) And.right⟩
  · rw [Int.compare_eq_gt.mpr hgt]
    refine iff_of_false Bool.false_ne_true ?_
    omega

theorem not_zero_le_negative {m : Nat} {e : Int} {hm : 0 < m} :
    ¬UnpackedFloat.le (.zero .positive) (.finite .negative m e hm) = true :=
  Bool.false_ne_true

theorem float_le_iff {x y : Float} :
    x ≤ y ↔ UnpackedFloat.le x.toModel.unpack y.toModel.unpack = true :=
  decide_eq_true_iff

/-- The bits of a double from nought to one are those of a minus nought, or at most those of
one. -/
theorem bits_of_mem_unit {x : Float} (hlow : 0 ≤ x) (hhigh : x ≤ 1) :
    x.toBits.toNat = 2 ^ 63 ∨ x.toBits.toNat ≤ 1023 * 2 ^ 52 := by
  obtain ⟨b, hb⟩ : ∃ b : BitVec Float.Model.Format.binary64.numBits,
      b = x.toModel.toBits.toBitVec := ⟨_, rfl⟩
  have hunit : UnpackedFloat.le (.zero .positive) (unpack .binary64 b) = true
      ∧ UnpackedFloat.le (unpack .binary64 b) (.finite .positive (2 ^ 52) (-52) (by decide))
        = true := by
    rw [hb]
    exact ⟨float_le_iff.mp hlow, float_le_iff.mp hhigh⟩
  have hbits : x.toBits.toNat = b.toNat := by rw [hb]; rfl
  have hlt : b.toNat < 2 ^ 64 := b.isLt
  have hmantissa : (unpackMantissa b).toNat = b.toNat % 2 ^ 52 := toNat_unpackMantissa b
  have hexponent : (unpackExponent b).toNat = b.toNat / 2 ^ 52 % 2 ^ 11 := toNat_unpackExponent b
  have hsign : Sign.ofBitVec (unpackSign b) = .positive → b.toNat < 2 ^ 63 := by
    intro hpositive
    have hbit : (unpackSign b).toNat = b.toNat / 2 ^ 63 % 2 := toNat_unpackSign b
    rw [Sign.ofBitVec] at hpositive
    split at hpositive
    next hzero =>
      rw [hzero] at hbit
      have hzero : 0 = b.toNat / 2 ^ 63 % 2 := hbit
      omega
    next => cases hpositive
  rw [hbits]
  rw [unpack] at hunit
  generalize Sign.ofBitVec (unpackSign b) = sign at hunit hsign
  split at hunit
  · -- Neither an infinity nor what is no number is between the two.
    split at hunit
    · cases sign with
      | positive => exact absurd hunit.2 (by decide)
      | negative => exact absurd hunit.1 (by decide)
    · exact absurd hunit.1 (by decide)
  · split at hunit
    next hzero =>
      have hplace : 0 = b.toNat / 2 ^ 52 % 2 ^ 11 := by
        rw [← hexponent, hzero]
        rfl
      split at hunit
      next hnothing =>
        have hfraction : 0 = b.toNat % 2 ^ 52 := by
          rw [← hmantissa, hnothing]
          rfl
        omega
      next =>
        cases sign with
        | negative => exact absurd hunit.1 not_zero_le_negative
        | positive =>
          have hpositive := hsign rfl
          omega
    next =>
      cases sign with
      | negative => exact absurd hunit.1 not_zero_le_negative
      | positive =>
        have hpositive := hsign rfl
        have hle := le_positive_iff.mp hunit.2
        rw [Single.Normal.append_implicit, hmantissa, hexponent] at hle
        have hbias : (Float.Model.Format.binary64.exponentBias : Int) = 1023 := rfl
        have hlength : (Float.Model.Format.binary64.mantissaBitsWithoutImplicit : Int) = 52 := rfl
        rw [hbias, hlength] at hle
        have hpower : 2 ^ Float.Model.Format.binary64.mantissaBitsWithoutImplicit = 2 ^ 52 := rfl
        rw [hpower] at hle
        omega

/-! ### Singles from nought to one -/

/-- Nothing is lost when a number is packed that has the least exponent and a short mantissa. -/
theorem unpack_pack_least {m : Nat} (hm : 0 < m) (hshort : m < 2 ^ 23) :
    unpack .binary32 (pack .binary32 (.finite .positive m (-149) hm))
      = .finite .positive m (-149) hm := by
  have hpack : pack .binary32 (.finite .positive m (-149) hm)
      = packComponents .binary32 .positive 0#8 (BitVec.ofNat 23 m) := by
    have hlog : m.log2 < 23 := (Nat.log2_lt (Nat.ne_of_gt hm)).mpr hshort
    have hlength : ¬m.log2 + 1 = Float.Model.Format.binary32.mantissaBits := by
      show ¬m.log2 + 1 = 24
      omega
    rw [pack]
    exact (if_neg (by decide)).trans (if_neg hlength)
  have hmantissa : (BitVec.ofNat 23 m).toNat = m :=
    (BitVec.toNat_ofNat _ _).trans (Nat.mod_eq_of_lt hshort)
  have hne : BitVec.ofNat 23 m ≠ 0#23 := by
    intro hzero
    rw [hzero] at hmantissa
    have hnothing : 0 = m := hmantissa
    omega
  rw [hpack, unpack]
  simp only [unpackMantissa_packComponents, unpackExponent_packComponents,
    unpackSign_packComponents, hmantissa]
  rw [if_neg (by decide), if_pos (by decide), dif_neg hne]
  rfl

/-- What bits stand for that are at most those of one. -/
theorem unpack_cases {b : BitVec Float.Model.Format.binary32.numBits}
    (h : b.toNat ≤ 127 * 2 ^ 23) :
    unpack .binary32 b = .zero .positive
      ∨ (∃ (m : Nat) (hm : 0 < m), m < 2 ^ 23
        ∧ unpack .binary32 b = .finite .positive m (-149) hm)
      ∨ ∃ x : Single.Normal, unpack .binary32 b = x.unpacked ∧ x ≤ Single.Normal.one
        ∧ -149 ≤ x.exponent := by
  have hmantissa : (unpackMantissa b).toNat = b.toNat % 2 ^ 23 := toNat_unpackMantissa b
  have hexponent : (unpackExponent b).toNat = b.toNat / 2 ^ 23 % 2 ^ 8 := toNat_unpackExponent b
  have hsign : Sign.ofBitVec (unpackSign b) = .positive := by
    have hbit : (unpackSign b).toNat = b.toNat / 2 ^ 31 % 2 := toNat_unpackSign b
    have hzero : (unpackSign b).toNat = (0#1).toNat := by
      show (unpackSign b).toNat = 0
      omega
    rw [Sign.ofBitVec, if_pos (BitVec.eq_of_toNat_eq hzero)]
  have hfinite : unpackExponent b ≠ -1#8 := by
    intro hall
    rw [hall] at hexponent
    have hall : 255 = b.toNat / 2 ^ 23 % 2 ^ 8 := hexponent
    omega
  have hbias : (Float.Model.Format.binary32.exponentBias : Int) = 127 := rfl
  have hlength : (Float.Model.Format.binary32.mantissaBitsWithoutImplicit : Int) = 23 := rfl
  by_cases hzero : unpackExponent b = 0#8
  · by_cases hnothing : unpackMantissa b = 0#23
    · refine .inl ?_
      rw [unpack, if_neg hfinite, if_pos hzero, dif_pos hnothing, hsign]
    · have hpos : 0 < (unpackMantissa b).toNat := by
        refine Nat.pos_of_ne_zero fun h0 => hnothing (BitVec.eq_of_toNat_eq h0)
      refine .inr (.inl ⟨(unpackMantissa b).toNat, hpos, (unpackMantissa b).isLt, ?_⟩)
      rw [unpack, if_neg hfinite, if_pos hzero, dif_neg hnothing, hsign]
      simp only [hzero]
      rfl
  · have hplace : (unpackExponent b).toNat ≠ 0 := fun h0 => hzero (BitVec.eq_of_toNat_eq h0)
    have hlong : (1#1 ++ unpackMantissa b).toNat = 2 ^ 23 + b.toNat % 2 ^ 23 := by
      rw [Single.Normal.append_implicit, hmantissa]
    refine .inr (.inr ⟨⟨(1#1 ++ unpackMantissa b).toNat,
      (unpackExponent b).toNat - (127 + 23), by omega, by omega⟩, ?_, ?_, ?_⟩)
    · rw [unpack, if_neg hfinite, if_neg hzero, hsign]
      rfl
    · refine Single.Normal.le_iff.mpr ?_
      show ((unpackExponent b).toNat : Int) - (127 + 23) < -23
        ∨ ((unpackExponent b).toNat : Int) - (127 + 23) = -23
          ∧ (1#1 ++ unpackMantissa b).toNat ≤ 2 ^ 23
      omega
    · show -149 ≤ ((unpackExponent b).toNat : Int) - (127 + 23)
      omega

/-- Bits that are at most those of one are a number from nought to one. -/
theorem ofBits_mem_unit {n : Nat} (h : n ≤ 127 * 2 ^ 23) :
    0 ≤ Float32.ofBits n.toUInt32 ∧ Float32.ofBits n.toUInt32 ≤ 1 := by
  obtain ⟨b, hb⟩ : ∃ b : BitVec Float.Model.Format.binary32.numBits,
      b = n.toUInt32.toBitVec := ⟨_, rfl⟩
  have hbits : b.toNat ≤ 127 * 2 ^ 23 := by
    have hmod : b.toNat = n % 2 ^ 32 := by
      rw [hb]
      exact BitVec.toNat_ofNat n 32
    omega
  have hread : (Float32.ofBits n.toUInt32).toModel.unpack
      = unpack .binary32 (pack .binary32 (unpack .binary32 b)) := by
    rw [hb]
    rfl
  have hnought : (0 : Float32).toModel.unpack = .zero .positive := rfl
  rw [Single.le_iff_unpack, Single.le_iff_unpack, hread, hnought, Single.unpack_one]
  rcases unpack_cases hbits with hzero | ⟨m, hm, hshort, hleast⟩ | ⟨x, hx, hone, hsmall⟩
  · rw [hzero]
    exact ⟨rfl, rfl⟩
  · rw [hleast, unpack_pack_least hm hshort]
    exact ⟨rfl, rfl⟩
  · have hlarge : x.exponent ≤ -23 := by
      rcases Single.Normal.le_iff.mp hone with hlt | ⟨heq, -⟩
      · exact Int.le_of_lt hlt
      · exact Int.le_of_eq heq
    rw [hx, Single.Normal.unpack_pack hsmall (by omega)]
    exact ⟨rfl, Single.Normal.le_unpacked hone⟩

/-! ### Narrowing -/

/-- What the bits of a double that is one at most stand for. -/
theorem exists_decode_double {bits : Nat} (h : bits ≤ 1023 * 2 ^ 52) :
    ∃ m a : Nat, double.decode bits = .finite false m (-(a : Int)) ∧ 0 < a ∧ m ≤ 2 ^ a := by
  obtain ⟨least, hleast, hvalue⟩ : ∃ least : Nat,
      double.minExponent = -(least : Int) ∧ least = 1074 := ⟨1074, by decide, rfl⟩
  have hpositive : (bits / 2 ^ 63 % 2 == 1) = false := by
    rw [beq_eq_false_iff_ne]
    omega
  have hmagnitude : bits % 2 ^ 63 = bits := Nat.mod_eq_of_lt (by omega)
  have hinfinity : double.infinityBits = 2047 * 2 ^ 52 := by decide
  have hsign : double.signBit = 2 ^ 63 := by decide
  have hlength : Nat.pow 2 double.fractionBits = 2 ^ 52 := by decide
  have hdecode : double.decode bits
      = if bits / 2 ^ 52 = 0 then .finite false (bits % 2 ^ 52) (-(least : Int))
        else .finite false (bits % 2 ^ 52 + 2 ^ 52)
          (-(least : Int) + (bits / 2 ^ 52 : Nat) - 1) := by
    rw [Format.decode]
    simp only [hsign, hlength, hpositive, hmagnitude, hinfinity, hleast]
    rw [if_neg (by omega), if_neg (by omega)]
  by_cases hplace : bits / 2 ^ 52 = 0
  · rw [if_pos hplace] at hdecode
    refine ⟨bits % 2 ^ 52, least, hdecode, by omega, ?_⟩
    have hpower : 2 ^ 52 ≤ 2 ^ least := Nat.pow_le_pow_right (by decide) (by omega)
    refine Nat.le_trans ?_ hpower
    omega
  · rw [if_neg hplace] at hdecode
    have hexponent : -(least : Int) + ((bits / 2 ^ 52 : Nat) : Int) - 1
        = -((least + 1 - bits / 2 ^ 52 : Nat) : Int) := by omega
    rw [hexponent] at hdecode
    refine ⟨bits % 2 ^ 52 + 2 ^ 52, least + 1 - bits / 2 ^ 52, hdecode, by omega, ?_⟩
    rcases Nat.lt_or_ge (bits / 2 ^ 52) 1023 with hlt | hge
    · have hpower : 2 ^ 53 ≤ 2 ^ (least + 1 - bits / 2 ^ 52) :=
        Nat.pow_le_pow_right (by decide) (by omega)
      refine Nat.le_trans ?_ hpower
      omega
    · -- Only one itself has this exponent.
      have heq : least + 1 - bits / 2 ^ 52 = 52 := by omega
      rw [heq]
      omega

/-- A minus nought is a nought with whatever exponent. -/
theorem exists_decode_minusNought :
    ∃ a : Nat, double.decode (2 ^ 63) = .finite true 0 (-(a : Int)) ∧ 0 < a :=
  ⟨1074, by decide, by decide⟩

theorem nearest_zero (format : Format) (negative : Bool) {a : Nat} (ha : 0 < a) :
    format.nearest (.finite negative 0 (-(a : Int))) = format.withSign negative 0 := by
  rw [Format.nearest, scale_neg 0 1 ha]
  exact congrArg (format.withSign negative) (format.encode_zero _)

/-- A minus nought counts as nought. -/
theorem minusNought_mem_unit :
    0 ≤ Float32.ofBits (2 ^ 31 : Nat).toUInt32 ∧ Float32.ofBits (2 ^ 31 : Nat).toUInt32 ≤ 1 := by
  rw [Single.le_iff_unpack, Single.le_iff_unpack]
  exact ⟨rfl, rfl⟩

/-- A number from nought to one is narrowed to one from nought to one. -/
theorem narrow_mem_unit {x : Float} (hlow : 0 ≤ x) (hhigh : x ≤ 1) :
    0 ≤ narrow x ∧ narrow x ≤ 1 := by
  rcases bits_of_mem_unit hlow hhigh with hminus | hbits
  · have hnearest : single.nearest (ofFloat x) = 2 ^ 31 := by
      obtain ⟨a, hdecode, ha⟩ := exists_decode_minusNought
      rw [ofFloat, hminus, hdecode, nearest_zero single true ha]
      decide
    rw [narrow, hnearest]
    exact minusNought_mem_unit
  · obtain ⟨m, a, hdecode, ha, hle⟩ := exists_decode_double hbits
    have hnearest : single.nearest (ofFloat x) = single.encode m (2 ^ a) := by
      rw [ofFloat, hdecode, Format.nearest, scale_neg m 1 ha, Nat.one_mul]
      exact if_neg Bool.false_ne_true
    rw [narrow, hnearest]
    exact ofBits_mem_unit (encode_le_one (Nat.two_pow_pos a) hle)

end SourceRetrieval.Number
