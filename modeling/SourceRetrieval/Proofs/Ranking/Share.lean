/-
The share that one count is of another, in single precision.

* `roundWithAccuracy_eq` — a mantissa that is long enough is rounded to a normal number;
* `ofCount_mono` — so a larger count is no smaller when it is rounded;
* `div_le_one` — the quotient of a number by one that is no smaller is one at most;
* `unpack_pack` — nothing is lost when a normal number is packed;
* `share_le_one` — so the share of a count that is no larger is one at most.

Design notes: counts and their quotients are normal numbers, which are compared by their
exponents first.  Rounding may lengthen a mantissa by a bit and then raises the exponent, so
rounded numbers are compared through `Normal.ofRounded`, before the bit is dropped.
-/
import Mathlib
import SourceRetrieval.Ranking.EditDistance

namespace SourceRetrieval.Single

open Float.Model UnpackedFloat

/-! ### Rounding -/

section Rounding

variable {em em' : ExtendedMantissa}

/-- A mantissa and the bits behind it as one number. -/
def code (em : ExtendedMantissa) : Nat :=
  4 * em.mantissa + 2 * em.roundBit.toNat + em.stickyBit.toNat

theorem code_shiftRightOne_le (h : code em ≤ code em') :
    code em.shiftRightOne ≤ code em'.shiftRightOne := by
  obtain ⟨m, r, s⟩ := em
  obtain ⟨m', r', s'⟩ := em'
  have hbit : ∀ n : Nat, (n % 2 != 0).toNat = n % 2 := by
    intro n
    rcases Nat.mod_two_eq_zero_or_one n with hn | hn <;> simp [hn]
  simp only [code, ExtendedMantissa.shiftRightOne, hbit] at h ⊢
  cases r <;> cases s <;> cases r' <;> cases s' <;> simp at h ⊢ <;> omega

theorem code_shiftRight_le (h : code em ≤ code em') (k : Nat) :
    code (em >>> k) ≤ code (em' >>> k) := by
  induction k with
  | zero => exact h
  | succ k ih => exact code_shiftRightOne_le ih

theorem roundedMantissa_le (h : code em ≤ code em') :
    em.roundedMantissa ≤ em'.roundedMantissa := by
  obtain ⟨m, r, s⟩ := em
  obtain ⟨m', r', s'⟩ := em'
  simp only [code] at h
  cases r <;> cases s <;> cases r' <;> cases s' <;>
    simp [ExtendedMantissa.roundedMantissa, ExtendedMantissa.accuracy, Accuracy.roundToNearestEven]
      at h ⊢ <;> omega

theorem roundedMantissa_bounds (em : ExtendedMantissa) :
    em.mantissa ≤ em.roundedMantissa ∧ em.roundedMantissa ≤ em.mantissa + 1 := by
  obtain ⟨m, r, s⟩ := em
  cases r <;> cases s <;>
    simp [ExtendedMantissa.roundedMantissa, ExtendedMantissa.accuracy, Accuracy.roundToNearestEven]
  omega

theorem mantissa_shiftRight (em : ExtendedMantissa) (k : Nat) :
    (em >>> k).mantissa = em.mantissa / 2 ^ k := by
  induction k with
  | zero => exact (Nat.div_one _).symm
  | succ k ih =>
    have hstep : (em >>> (k + 1)).mantissa = (em >>> k).mantissa / 2 := rfl
    rw [hstep, ih, Nat.div_div_eq_div_mul, Nat.pow_succ]

theorem mantissa_ofMantissaAndAccuracy (m : Nat) (accuracy : Accuracy) :
    (ExtendedMantissa.ofMantissaAndAccuracy m accuracy).mantissa = m := by
  match accuracy with
  | .exact | .inexact .lt | .inexact .eq | .inexact .gt => rfl

end Rounding

/-- The mantissa of twenty-four bits that a longer one is rounded to. -/
def rounded (m : Nat) (accuracy : Accuracy) : Nat :=
  (ExtendedMantissa.ofMantissaAndAccuracy m accuracy >>> (m.log2 - 23)).roundedMantissa

section Rounded

variable {m m' : Nat}

theorem rounded_bounds (m : Nat) (accuracy : Accuracy) :
    m / 2 ^ (m.log2 - 23) ≤ rounded m accuracy
      ∧ rounded m accuracy ≤ m / 2 ^ (m.log2 - 23) + 1 := by
  have hbounds := roundedMantissa_bounds
    (ExtendedMantissa.ofMantissaAndAccuracy m accuracy >>> (m.log2 - 23))
  rwa [mantissa_shiftRight, mantissa_ofMantissaAndAccuracy] at hbounds

theorem div_bounds (hm : 23 ≤ m.log2) :
    2 ^ 23 ≤ m / 2 ^ (m.log2 - 23) ∧ m / 2 ^ (m.log2 - 23) < 2 ^ 24 := by
  have hne : m ≠ 0 := by
    rintro rfl
    simp at hm
  obtain ⟨hlower, hupper⟩ := (Nat.log2_eq_iff hne).mp rfl
  have hpos : 0 < 2 ^ (m.log2 - 23) := Nat.two_pow_pos _
  refine ⟨(Nat.le_div_iff_mul_le hpos).mpr ?_, (Nat.div_lt_iff_lt_mul hpos).mpr ?_⟩
  · rwa [← Nat.pow_add, Nat.add_sub_cancel' hm]
  · rwa [← Nat.pow_add, show 24 + (m.log2 - 23) = m.log2 + 1 by omega]

theorem rounded_lower (hm : 23 ≤ m.log2) (accuracy : Accuracy) : 2 ^ 23 ≤ rounded m accuracy :=
  Nat.le_trans (div_bounds hm).1 (rounded_bounds m accuracy).1

theorem rounded_upper (hm : 23 ≤ m.log2) (accuracy : Accuracy) : rounded m accuracy ≤ 2 ^ 24 :=
  Nat.le_trans (rounded_bounds m accuracy).2 (div_bounds hm).2

theorem rounded_mono (h : m ≤ m') (hlog : m.log2 = m'.log2) :
    rounded m .exact ≤ rounded m' .exact := by
  rw [rounded, rounded, hlog]
  refine roundedMantissa_le (code_shiftRight_le ?_ _)
  simp only [code, ExtendedMantissa.ofMantissaAndAccuracy]
  omega

end Rounded

/-! ### Normal numbers -/

/-- A positive number with all twenty-four bits of its mantissa. -/
structure Normal where
  mantissa : Nat
  exponent : Int
  lower : 2 ^ 23 ≤ mantissa
  upper : mantissa < 2 ^ 24

namespace Normal

variable {x y : Normal}

theorem mantissa_pos (x : Normal) : 0 < x.mantissa := Nat.lt_of_lt_of_le (by decide) x.lower

theorem log2_mantissa (x : Normal) : x.mantissa.log2 = 23 :=
  (Nat.log2_eq_iff (Nat.ne_of_gt x.mantissa_pos)).mpr ⟨x.lower, x.upper⟩

/-- The number as the operations take and give it. -/
def unpacked (x : Normal) : UnpackedFloat := .finite .positive x.mantissa x.exponent x.mantissa_pos

/-- Numbers are compared by their exponents first. -/
instance : LE Normal where
  le x y := x.exponent < y.exponent ∨ x.exponent = y.exponent ∧ x.mantissa ≤ y.mantissa

theorem le_iff :
    x ≤ y ↔ x.exponent < y.exponent ∨ x.exponent = y.exponent ∧ x.mantissa ≤ y.mantissa := Iff.rfl

theorem le_unpacked (h : x ≤ y) : UnpackedFloat.le x.unpacked y.unpacked = true := by
  have hcompare : UnpackedFloat.compare x.unpacked y.unpacked
      = some ((compare x.exponent y.exponent).then (compare x.mantissa y.mantissa)) := rfl
  rw [UnpackedFloat.le, hcompare, Option.any_some]
  rcases le_iff.mp h with hlt | ⟨heq, hle⟩
  · rw [Int.compare_eq_lt.mpr hlt]
    rfl
  · rw [heq, Std.compare_self]
    exact Nat.isLE_compare.mpr hle

/-- The number with a rounded mantissa, which may have become one bit too long. -/
def ofRounded (r : Nat) (e : Int) (lower : 2 ^ 23 ≤ r) (upper : r ≤ 2 ^ 24) : Normal :=
  if h : r = 2 ^ 24 then ⟨2 ^ 23, e + 1, Nat.le_refl _, by decide⟩
  else ⟨r, e, lower, Nat.lt_of_le_of_ne upper h⟩

section OfRounded

variable {r r' : Nat} {e e' : Int} {lower : 2 ^ 23 ≤ r} {upper : r ≤ 2 ^ 24}
  {lower' : 2 ^ 23 ≤ r'} {upper' : r' ≤ 2 ^ 24}

theorem exponent_ofRounded :
    e ≤ (ofRounded r e lower upper).exponent
      ∧ (ofRounded r e lower upper).exponent ≤ e + 1 := by
  rw [ofRounded]
  split <;> simp only <;> omega

theorem ofRounded_mono (h : r ≤ r') :
    ofRounded r e lower upper ≤ ofRounded r' e lower' upper' := by
  rw [le_iff, ofRounded, ofRounded]
  by_cases hr : r = 2 ^ 24
  · have hr' : r' = 2 ^ 24 := Nat.le_antisymm upper' (hr ▸ h)
    rw [dif_pos hr, dif_pos hr']
    exact .inr ⟨rfl, Nat.le_refl _⟩
  · rw [dif_neg hr]
    split
    · exact .inl (Int.lt_succ e)
    · exact .inr ⟨rfl, h⟩

theorem ofRounded_le_of_lt (h : e < e') :
    ofRounded r e lower upper ≤ ofRounded r' e' lower' upper' := by
  obtain ⟨hlow, -⟩ := @exponent_ofRounded r' e' lower' upper'
  rw [le_iff, ofRounded]
  split
  · -- A mantissa that is one bit too long becomes the least one of the next exponent.
    rcases Int.lt_or_eq_of_le (Int.le_trans (Int.add_one_le_of_lt h) hlow) with hlt | heq
    · exact .inl hlt
    · exact .inr ⟨heq, (ofRounded r' e' lower' upper').lower⟩
  · exact .inl (Int.lt_of_lt_of_le h hlow)

end OfRounded

end Normal

section Shifting

variable {m : Nat} {e : Int}

theorem targetExponent_eq (he : -126 ≤ m.log2 + e) :
    Format.binary32.targetExponent (totalExponent m e) = m.log2 + e - 23 := by
  simp only [Format.targetExponent, totalExponent, Format.mantissaBits, Format.minExponent]
  omega

theorem shiftToTargetExponent_eq (accuracy : Accuracy) (hm : 23 ≤ m.log2)
    (he : -126 ≤ m.log2 + e) :
    shiftToTargetExponent .binary32 m e accuracy
      = (ExtendedMantissa.ofMantissaAndAccuracy m accuracy >>> (m.log2 - 23), m.log2 + e - 23) := by
  have hshift : (m.log2 + e - 23 - e).toNat = m.log2 - 23 := by omega
  have hexponent : e + (m.log2 - 23 : Nat) = m.log2 + e - 23 := by omega
  rw [shiftToTargetExponent, targetExponent_eq he, shiftToExponent]
  simp only [hshift, hexponent]

/-- A rounded mantissa that has become too long is shifted once more, and nothing is lost. -/
theorem shiftToTargetExponent_exact {r : Nat} (lower : 2 ^ 23 ≤ r) (upper : r ≤ 2 ^ 24)
    (he : -149 ≤ e) :
    (shiftToTargetExponent .binary32 r e .exact).1.mantissa
        = (Normal.ofRounded r e lower upper).mantissa
      ∧ (shiftToTargetExponent .binary32 r e .exact).2
        = (Normal.ofRounded r e lower upper).exponent := by
  have hne : r ≠ 0 := Nat.ne_of_gt (Nat.lt_of_lt_of_le (by decide) lower)
  have hlog : 23 ≤ r.log2 := (Nat.le_log2 hne).mpr lower
  rw [shiftToTargetExponent_eq .exact hlog (by omega), mantissa_shiftRight,
    mantissa_ofMantissaAndAccuracy, Normal.ofRounded]
  by_cases hr : r = 2 ^ 24
  · rw [dif_pos hr, hr, Nat.log2_two_pow]
    refine ⟨rfl, ?_⟩
    show ((24 : Nat) : Int) + e - 23 = e + 1
    omega
  · have hshort : r.log2 = 23 :=
      (Nat.log2_eq_iff hne).mpr ⟨lower, Nat.lt_of_le_of_ne upper hr⟩
    rw [dif_neg hr, hshort]
    refine ⟨Nat.div_one r, ?_⟩
    show ((23 : Nat) : Int) + e - 23 = e
    omega

theorem roundWithAccuracy_eq (accuracy : Accuracy) (hm : 23 ≤ m.log2) (he : -126 ≤ m.log2 + e) :
    roundWithAccuracy .binary32 .positive m e accuracy
      = (Normal.ofRounded (rounded m accuracy) (m.log2 + e - 23) (rounded_lower hm accuracy)
          (rounded_upper hm accuracy)).unpacked := by
  have hfirst : (ExtendedMantissa.ofMantissaAndAccuracy m accuracy
      >>> (m.log2 - 23)).roundedMantissa = rounded m accuracy := rfl
  obtain ⟨hmantissa, hexponent⟩ := @shiftToTargetExponent_exact (m.log2 + e - 23) _
    (rounded_lower hm accuracy) (rounded_upper hm accuracy) (by omega)
  rw [roundWithAccuracy]
  simp only [shiftToTargetExponent_eq accuracy hm he, hfirst, hmantissa, hexponent]
  exact dif_neg (Nat.ne_of_gt (Normal.mantissa_pos _))

end Shifting

/-! ### Counts -/

section Counts

variable {n n' : Nat}

/-- The mantissa that a count is rounded from: the count itself, if it is long enough. -/
def countMantissa (n : Nat) : Nat := n <<< (23 - n.log2)

theorem log2_shiftLeft (hn : 0 < n) (k : Nat) : (n <<< k).log2 = n.log2 + k := by
  obtain ⟨hlower, hupper⟩ := (Nat.log2_eq_iff (Nat.ne_of_gt hn)).mp rfl
  rw [Nat.shiftLeft_eq]
  refine (Nat.log2_eq_iff (Nat.ne_of_gt (Nat.mul_pos hn (Nat.two_pow_pos k)))).mpr ⟨?_, ?_⟩
  · rw [Nat.pow_add]
    exact Nat.mul_le_mul_right _ hlower
  · rw [Nat.add_right_comm, Nat.pow_add]
    exact Nat.mul_lt_mul_of_pos_right hupper (Nat.two_pow_pos k)

theorem log2_countMantissa (hn : 0 < n) : (countMantissa n).log2 = max n.log2 23 := by
  rw [countMantissa, log2_shiftLeft hn]
  omega

theorem le_log2_countMantissa (hn : 0 < n) : 23 ≤ (countMantissa n).log2 :=
  log2_countMantissa hn ▸ Nat.le_max_right _ _

/-- The number that a count is rounded to. -/
def ofCount (n : Nat) (hn : 0 < n) : Normal :=
  .ofRounded (rounded (countMantissa n) .exact) (n.log2 - 23)
    (rounded_lower (le_log2_countMantissa hn) .exact)
    (rounded_upper (le_log2_countMantissa hn) .exact)

theorem ofNat_eq (hn : 0 < n) : UnpackedFloat.ofNat .binary32 n = (ofCount n hn).unpacked := by
  have hpos : compare (n : Int) 0 = .gt := Int.compare_eq_gt.mpr (Int.natCast_pos.mpr hn)
  have hlog := log2_countMantissa hn
  have hshift : (0 - ((n.log2 : Int) + 0 - 23)).toNat = 23 - n.log2 := by omega
  have hexponent : ((countMantissa n).log2 : Int) + (0 - (23 - n.log2 : Nat)) - 23
      = n.log2 - 23 := by omega
  have hround := @roundWithAccuracy_eq (countMantissa n) (0 - (23 - n.log2 : Nat)) .exact
    (le_log2_countMantissa hn) (by omega)
  simp only [hexponent] at hround
  rw [UnpackedFloat.ofNat, UnpackedFloat.ofInt, UnpackedFloat.normalize, hpos]
  simp only [UnpackedFloat.round, Int.toNat_natCast, decreaseExponent]
  rw [targetExponent_eq (by omega), hshift]
  exact hround

/-- A larger count is no smaller when it is rounded. -/
theorem ofCount_mono (hn : 0 < n) (h : n ≤ n') :
    ofCount n hn ≤ ofCount n' (Nat.lt_of_lt_of_le hn h) := by
  have hn' : 0 < n' := Nat.lt_of_lt_of_le hn h
  have hlog : n.log2 ≤ n'.log2 :=
    (Nat.le_log2 (Nat.ne_of_gt hn')).mpr (Nat.le_trans (Nat.log2_self_le (Nat.ne_of_gt hn)) h)
  rcases Nat.lt_or_eq_of_le hlog with hlt | heq
  · exact Normal.ofRounded_le_of_lt (by omega)
  · have hmantissa : countMantissa n ≤ countMantissa n' := by
      rw [countMantissa, countMantissa, heq, Nat.shiftLeft_eq, Nat.shiftLeft_eq]
      exact Nat.mul_le_mul_right _ h
    have hrounded := rounded_mono hmantissa
      (by rw [log2_countMantissa hn, log2_countMantissa hn', heq])
    rw [ofCount, ofCount]
    simp only [heq]
    exact Normal.ofRounded_mono hrounded

theorem exponent_ofCount (hn : 0 < n) (h : n < 2 ^ 64) :
    -23 ≤ (ofCount n hn).exponent ∧ (ofCount n hn).exponent ≤ 41 := by
  have hlog : n.log2 < 64 := (Nat.log2_lt (Nat.ne_of_gt hn)).mpr h
  obtain ⟨hlower, hupper⟩ := @Normal.exponent_ofRounded _ (n.log2 - 23)
    (rounded_lower (le_log2_countMantissa hn) .exact)
    (rounded_upper (le_log2_countMantissa hn) .exact)
  rw [ofCount]
  omega

end Counts

/-! ### Quotients -/

namespace Normal

variable {x y : Normal}

/-- The number one. -/
def one : Normal := ⟨2 ^ 23, -23, Nat.le_refl _, by decide⟩

theorem ofRounded_le_one {r : Nat} {e : Int} {lower : 2 ^ 23 ≤ r} {upper : r ≤ 2 ^ 24}
    (h : e < -23) : ofRounded r e lower upper ≤ one :=
  @ofRounded_le_of_lt r (2 ^ 23) e (-23) lower upper (Nat.le_refl _) (by decide) h

theorem divCore_eq (hnear : -100 ≤ x.exponent - y.exponent) :
    divCore .binary32 x.mantissa x.exponent y.mantissa y.exponent
      = (x.mantissa * 2 ^ 24 / y.mantissa, x.exponent - y.exponent - 24,
        accuracyOfFraction (x.mantissa * 2 ^ 24 % y.mantissa) y.mantissa) := by
  have htarget : min (x.exponent - y.exponent) (Format.binary32.targetExponent
      (totalExponent x.mantissa x.exponent - totalExponent y.mantissa y.exponent))
        = x.exponent - y.exponent - 24 := by
    simp only [Format.targetExponent, totalExponent, Format.mantissaBits, Format.minExponent,
      log2_mantissa]
    omega
  have hshift : (x.exponent - y.exponent - (x.exponent - y.exponent - 24)).toNat = 24 := by omega
  rw [divCore]
  simp only [htarget, hshift, Nat.shiftLeft_eq]

theorem quotient_bounds (x y : Normal) :
    2 ^ 23 ≤ x.mantissa * 2 ^ 24 / y.mantissa ∧ x.mantissa * 2 ^ 24 / y.mantissa < 2 ^ 25 := by
  have hx := x.lower
  have hx' := x.upper
  have hy := y.lower
  have hy' := y.upper
  rw [Nat.le_div_iff_mul_le y.mantissa_pos, Nat.div_lt_iff_lt_mul y.mantissa_pos]
  omega

/-- The quotient of a number by one that is no smaller is one at most. -/
theorem div_le_one (h : x ≤ y) (hnear : -100 ≤ x.exponent - y.exponent) :
    ∃ z : Normal, UnpackedFloat.div .binary32 x.unpacked y.unpacked = z.unpacked ∧ z ≤ one
      ∧ -149 ≤ z.exponent := by
  obtain ⟨hlower, hupper⟩ := quotient_bounds x y
  generalize hq : x.mantissa * 2 ^ 24 / y.mantissa = q at hlower hupper
  generalize haccuracy : accuracyOfFraction (x.mantissa * 2 ^ 24 % y.mantissa) y.mantissa = accuracy
  have hne : q ≠ 0 := Nat.ne_of_gt (Nat.lt_of_lt_of_le (by decide) hlower)
  have hlog : 23 ≤ q.log2 := (Nat.le_log2 hne).mpr hlower
  have hlog' : q.log2 < 25 := (Nat.log2_lt hne).mpr hupper
  have hround := @roundWithAccuracy_eq q (x.exponent - y.exponent - 24) accuracy hlog (by omega)
  have hdiv : UnpackedFloat.div .binary32 x.unpacked y.unpacked
      = roundWithAccuracy .binary32 .positive q (x.exponent - y.exponent - 24) accuracy := by
    show (match divCore .binary32 x.mantissa x.exponent y.mantissa y.exponent with
      | (m, e, accuracy) => roundWithAccuracy .binary32 (Sign.positive / Sign.positive) m e
          accuracy) = _
    rw [divCore_eq hnear, hq, haccuracy]
    rfl
  refine ⟨_, hdiv.trans hround, ?_, Int.le_trans (by omega) exponent_ofRounded.1⟩
  by_cases hexponent : q.log2 + (x.exponent - y.exponent - 24) - 23 < -23
  · exact ofRounded_le_one hexponent
  · -- A quotient that is not smaller than one is that of two equal numbers.
    have hle := le_iff.mp h
    have hlong : 2 ^ 24 ≤ q := (Nat.le_log2 hne).mp (by omega)
    rw [← hq, Nat.le_div_iff_mul_le y.mantissa_pos, Nat.mul_comm] at hlong
    have hexponents : x.exponent = y.exponent := by omega
    have hmantissas : x.mantissa = y.mantissa := by omega
    have hquotient : q = 2 ^ 24 := by
      rw [← hq, hmantissas]
      exact Nat.mul_div_cancel_left _ y.mantissa_pos
    have hexact : accuracy = .exact := by
      rw [← haccuracy, hmantissas, Nat.mul_mod_right]
      rfl
    have hrounded : rounded q accuracy = 2 ^ 23 := by
      rw [hquotient, hexact]
      rfl
    have htop : (q.log2 : Int) + (x.exponent - y.exponent - 24) - 23 = -23 := by
      rw [hquotient, Nat.log2_two_pow, hexponents]
      omega
    simp only [hrounded, htop]
    exact .inr ⟨rfl, Nat.le_refl _⟩

/-! ### Packing -/

theorem append_implicit {bits : Nat} (mantissa : BitVec bits) :
    (1#1 ++ mantissa).toNat = 2 ^ bits + mantissa.toNat := by
  rw [BitVec.toNat_append, ← Nat.shiftLeft_add_eq_or_of_lt mantissa.isLt]
  simp [Nat.shiftLeft_eq]

theorem ofNat_ne {biased : Nat} (h : biased < 2 ^ 8) {e : BitVec 8} (hne : e.toNat ≠ biased) :
    BitVec.ofNat 8 biased ≠ e := by
  rintro rfl
  exact hne ((BitVec.toNat_ofNat _ _).trans (Nat.mod_eq_of_lt h))

/-- Nothing is lost when a number is packed that is neither too small nor too large. -/
theorem unpack_pack (hlower : -149 ≤ x.exponent) (hupper : x.exponent ≤ 104) :
    UnpackedFloat.unpack .binary32 (UnpackedFloat.pack .binary32 x.unpacked) = x.unpacked := by
  have hbiased : x.exponent + 150 = ((x.exponent + 150).toNat : Int) := by omega
  generalize (x.exponent + 150).toNat = biased at hbiased
  have hbias : (Format.binary32.exponentBias : Int) = 127 := rfl
  have hfraction : (Format.binary32.mantissaBitsWithoutImplicit : Int) = 23 := rfl
  have hlog : x.mantissa.log2 + 1 = Format.binary32.mantissaBits := by
    rw [log2_mantissa]
    rfl
  have hpack : UnpackedFloat.pack .binary32 x.unpacked
      = packComponents .binary32 .positive (BitVec.ofNat 8 biased) (BitVec.ofNat 23 x.mantissa) := by
    have hsum : (x.exponent + (Format.binary32.exponentBias : Int)
        + (Format.binary32.mantissaBitsWithoutImplicit : Int)).toNat = biased := by
      rw [hbias, hfraction]
      omega
    rw [unpacked, UnpackedFloat.pack]
    simp only [hsum]
    rw [if_neg (by omega), if_pos hlog]
  have hfinite : BitVec.ofNat 8 biased ≠ -1#8 := ofNat_ne (by omega) (by simp; omega)
  have hnormal : BitVec.ofNat 8 biased ≠ 0#8 := ofNat_ne (by omega) (by simp; omega)
  have hexponent : ((BitVec.ofNat 8 biased).toNat : Int)
      - (Format.binary32.exponentBias + Format.binary32.mantissaBitsWithoutImplicit)
        = x.exponent := by
    rw [BitVec.toNat_ofNat, hbias, hfraction]
    omega
  have hmantissa : (1#1 ++ BitVec.ofNat 23 x.mantissa).toNat = x.mantissa := by
    have hshort := x.lower
    have hlong := x.upper
    rw [append_implicit, BitVec.toNat_ofNat]
    omega
  rw [hpack, UnpackedFloat.unpack]
  simp only [unpackMantissa_packComponents, unpackExponent_packComponents,
    unpackSign_packComponents, hexponent, hmantissa]
  rw [if_neg hfinite, if_neg hnormal]
  rfl

end Normal

theorem le_iff_unpack {a b : Float32} :
    a ≤ b ↔ UnpackedFloat.le a.toModel.unpack b.toModel.unpack = true :=
  decide_eq_true_iff

theorem unpack_div (a b : Float32) :
    (a / b).toModel.unpack = UnpackedFloat.unpack .binary32 (UnpackedFloat.pack .binary32
      (UnpackedFloat.div .binary32 a.toModel.unpack b.toModel.unpack)) := rfl

theorem unpack_one : (1 : Float32).toModel.unpack = Normal.one.unpacked := rfl

theorem unpack_count {n : Nat} (hn : 0 < n) (h : n < 2 ^ 64) :
    (UInt64.ofNat n).toFloat32.toModel.unpack = (ofCount n hn).unpacked := by
  have hcount : UnpackedFloat.ofUInt64 .binary32 (UInt64.ofNat n) = (ofCount n hn).unpacked := by
    rw [UnpackedFloat.ofUInt64, UInt64.toNat_ofNat_of_lt' h, ofNat_eq hn]
  obtain ⟨hlower, hupper⟩ := exponent_ofCount hn h
  show UnpackedFloat.unpack .binary32 (UnpackedFloat.pack .binary32
    (UnpackedFloat.ofUInt64 .binary32 (UInt64.ofNat n))) = _
  rw [hcount]
  exact Normal.unpack_pack (by omega) (by omega)

end SourceRetrieval.Single

namespace SourceRetrieval.Ranking

open Float.Model UnpackedFloat Single

/-- The share of a count that is no larger is one at most. -/
theorem share_le_one {part whole : Nat} (h : part ≤ whole) (hpos : 0 < whole)
    (hsize : whole < 2 ^ 64) : share part whole ≤ 1 := by
  rw [le_iff_unpack, unpack_one, share, unpack_div, unpack_count hpos hsize]
  rcases Nat.eq_zero_or_pos part with rfl | hpart
  · have hzero : (UInt64.ofNat 0).toFloat32.toModel.unpack = .zero .positive := rfl
    have hdiv : UnpackedFloat.div .binary32 (.zero .positive) (ofCount whole hpos).unpacked
        = .zero .positive := rfl
    rw [hzero, hdiv]
    rfl
  · obtain ⟨hlower, hupper⟩ := exponent_ofCount hpart (Nat.lt_of_le_of_lt h hsize)
    obtain ⟨hlower', hupper'⟩ := exponent_ofCount hpos hsize
    obtain ⟨z, hdiv, hone, hsmall⟩ := Normal.div_le_one (ofCount_mono hpart h) (by omega)
    have hlarge : z.exponent ≤ -23 := by
      rcases Normal.le_iff.mp hone with hlt | ⟨heq, -⟩
      · exact Int.le_of_lt hlt
      · exact Int.le_of_eq heq
    rw [unpack_count hpart (Nat.lt_of_le_of_lt h hsize), hdiv,
      Normal.unpack_pack hsmall (by omega)]
    exact Normal.le_unpacked hone

end SourceRetrieval.Ranking
