/-
Which characters are in a set.

* `search_iff` — in ranges that are in order and apart, halving finds the one that holds a code
  point;
* `has_iff` — so a character is in a set if its bit is set or one of the ranges beyond ASCII holds
  it;
* `holds_ofRanges_iff` and `has_unions_iff` — a set made of ranges holds what these hold, and a
  union has what one of its parts holds.
-/
import SourceRetrieval.Proofs.Stretches
import SourceRetrieval.Unicode.CodeSet

namespace SourceRetrieval.Unicode.CodeSet

variable {ranges : Array (Nat × Nat)} {set : CodeSet} {sets : List CodeSet} {c : Char} {code : Nat}

/-- Ranges in order, none of which reaches the next one. -/
def AreOrdered (ranges : List (Nat × Nat)) : Prop :=
  ranges.Pairwise fun s t => s.1 ≤ t.1 ∧ s.2 < t.1

/-! ### Search -/

section Search

variable (h : AreOrdered ranges.toList) {i mid : Nat} (hi : i < ranges.size)
  (hmid : mid < ranges.size) (hholds : Span.Holds ranges[i] code)

include h hholds

/-- A range that begins after a code point comes after the one that holds it. -/
theorem lt_of_lt_first (hlt : code < ranges[mid].1) : i < mid := by
  obtain ⟨hfirst, -⟩ := hholds
  refine Nat.lt_of_not_le fun hle => ?_
  rcases Nat.lt_or_eq_of_le hle with hlater | rfl
  · have hpair := List.pairwise_iff_getElem.mp h mid i hmid hi hlater
    rw [Array.getElem_toList, Array.getElem_toList] at hpair
    omega
  · omega

/-- A range that ends before a code point, but does not begin after it, comes before the one that
holds it. -/
theorem lt_of_last_lt (hle : ranges[mid].1 ≤ code) (hlt : ranges[mid].2 < code) : mid < i := by
  obtain ⟨-, hlast⟩ := hholds
  refine Nat.lt_of_not_le fun hle' => ?_
  rcases Nat.lt_or_eq_of_le hle' with hearlier | rfl
  · have hpair := List.pairwise_iff_getElem.mp h i mid hi hmid hearlier
    rw [Array.getElem_toList, Array.getElem_toList] at hpair
    omega
  · omega

end Search

/-- The search finds a range between its bounds that holds the code point if there is one. -/
theorem search_iff (h : AreOrdered ranges.toList) {fuel lo hi : Nat} (hfuel : hi ≤ lo + fuel)
    (hsize : hi ≤ ranges.size) :
    search ranges code fuel lo hi = true
      ↔ ∃ i, ∃ hi' : i < ranges.size, lo ≤ i ∧ i < hi ∧ Span.Holds ranges[i] code := by
  have hnone : ∀ {lo hi}, hi ≤ lo →
      ¬∃ i, ∃ hi' : i < ranges.size, lo ≤ i ∧ i < hi ∧ Span.Holds ranges[i] code := by
    rintro lo hi hempty ⟨i, -, hlo, hhi, -⟩
    omega
  induction fuel generalizing lo hi with
  | zero =>
    rw [search]
    exact iff_of_false Bool.false_ne_true (hnone hfuel)
  | succ fuel ih =>
    rw [search]
    by_cases hempty : hi ≤ lo
    · rw [if_pos hempty]
      exact iff_of_false Bool.false_ne_true (hnone hempty)
    · obtain ⟨mid, hmid⟩ : ∃ mid, (lo + hi) / 2 = mid := ⟨_, rfl⟩
      have hlt : mid < ranges.size := by omega
      rw [if_neg hempty]
      dsimp only
      rw [hmid, Array.getElem?_eq_getElem hlt]
      dsimp only
      split
      next hbelow =>
        refine (ih (by omega) (by omega)).trans ?_
        refine exists_congr fun i => exists_congr fun hi' => and_congr_right fun hlo => ?_
        refine and_congr_left fun hholds => ⟨fun hhi => by omega, fun _ => ?_⟩
        exact lt_of_lt_first h hi' hlt hholds hbelow
      next hbelow =>
        split
        next habove =>
          refine (ih (by omega) hsize).trans ?_
          refine exists_congr fun i => exists_congr fun hi' => ?_
          refine and_congr_left fun hrest => ⟨fun hlo => by omega, fun _ => ?_⟩
          exact lt_of_last_lt h hi' hlt hrest.2 (Nat.le_of_not_lt hbelow) habove
        next habove =>
          exact iff_of_true rfl ⟨mid, hlt, by omega, by omega, by omega, by omega⟩

/-- The bit of an ASCII code point is set, or one of the ranges beyond holds the code point. -/
def Holds (set : CodeSet) (code : Nat) : Prop :=
  if code < asciiEnd then set.ascii.testBit code = true else InSome set.beyond.toList code

theorem has_iff (h : AreOrdered set.beyond.toList) : set.has c = true ↔ set.Holds c.toNat := by
  rw [has, hasCode, Holds]
  split
  · rfl
  · rw [search_iff h (Nat.le_of_eq (Nat.zero_add _).symm) (Nat.le_refl _)]
    constructor
    · rintro ⟨i, hi, -, -, hholds⟩
      exact ⟨set.beyond[i], Array.getElem_mem_toList hi, hholds⟩
    · rintro ⟨r, hr, hholds⟩
      obtain ⟨i, hi, rfl⟩ := List.getElem_of_mem hr
      exact ⟨i, hi, Nat.zero_le i, hi, hholds⟩

/-! ### Bits -/

theorem testBit_foldl_or {α : Type} (bits : α → Nat) (list : List α) (start code : Nat) :
    (list.foldl (fun all x => all ||| bits x) start).testBit code
      = (start.testBit code || list.any fun x => (bits x).testBit code) := by
  induction list generalizing start with
  | nil => rw [List.foldl_nil, List.any_nil, Bool.or_false]
  | cons x list ih => rw [List.foldl_cons, ih, Nat.testBit_or, List.any_cons, Bool.or_assoc]

theorem testBit_bitsBelow (n code : Nat) : (bitsBelow n).testBit code = decide (code < n) := by
  rw [bitsBelow, Nat.one_shiftLeft]
  exact Nat.testBit_two_pow_sub_one n code

/-- A range has the bits of the ASCII code points that it holds. -/
theorem testBit_rangeBits {range : Nat × Nat} (hcode : code < asciiEnd) :
    (rangeBits range).testBit code = true ↔ Span.Holds range code := by
  rw [rangeBits, Nat.testBit_xor, testBit_bitsBelow, testBit_bitsBelow, bne_iff_ne, Ne,
    decide_eq_decide, Span.Holds]
  omega

/-- Beyond ASCII, what is left of a range holds what the range does. -/
theorem exists_rangeBeyond?_iff {range : Nat × Nat} (hcode : asciiEnd ≤ code) :
    (∃ rest, rangeBeyond? range = some rest ∧ Span.Holds rest code) ↔ Span.Holds range code := by
  rw [rangeBeyond?]
  split
  next hlow =>
    refine iff_of_false (by nofun) fun hholds => ?_
    have hlast := hholds.2
    omega
  next hlow =>
    constructor
    · rintro ⟨rest, hrest, hfirst, hlast⟩
      cases hrest
      exact ⟨Nat.le_trans (Nat.le_max_left _ _) hfirst, hlast⟩
    · rintro ⟨hfirst, hlast⟩
      exact ⟨_, rfl, Nat.max_le.mpr ⟨hfirst, hcode⟩, hlast⟩

/-! ### Sets of ranges -/

theorem joinRanges_eq_mergeSpans (ranges : List (Nat × Nat)) :
    joinRanges ranges = mergeSpans ranges := by
  fun_induction mergeSpans ranges with
  | case1 a b c d rest htouch ih => rw [joinRanges, if_pos htouch, ih]
  | case2 a b c d rest happart ih => rw [joinRanges, if_neg happart, ih]
  | case3 ranges hshort => rw [joinRanges]; exact hshort

theorem pairwise_mergeSort_beginsFirst (ranges : List (Nat × Nat)) :
    (ranges.mergeSort beginsFirst).Pairwise fun s t => s.1 ≤ t.1 := by
  refine (List.pairwise_mergeSort ?_ ?_ ranges).imp of_decide_eq_true
  · intro r s t hrs hst
    exact decide_eq_true (Nat.le_trans (of_decide_eq_true hrs) (of_decide_eq_true hst))
  · intro s t
    rw [Bool.or_eq_true]
    exact (Nat.le_total s.1 t.1).imp decide_eq_true decide_eq_true

theorem areOrdered_joinRanges (ranges : List (Nat × Nat)) :
    AreOrdered (joinRanges (ranges.mergeSort beginsFirst)) := by
  rw [joinRanges_eq_mergeSpans]
  refine (pairwise_mergeSpans (pairwise_mergeSort_beginsFirst ranges)).imp fun h => ?_
  exact ⟨h.1, Nat.lt_of_succ_lt h.2⟩

theorem inSome_joinRanges_iff {ranges : List (Nat × Nat)} :
    InSome (joinRanges (ranges.mergeSort beginsFirst)) code ↔ InSome ranges code := by
  rw [joinRanges_eq_mergeSpans, inSome_mergeSpans (pairwise_mergeSort_beginsFirst ranges)]
  exact exists_congr fun s => and_congr_left fun _ => List.mem_mergeSort

theorem holds_ofRanges_iff {ranges : List (Nat × Nat)} :
    (ofRanges ranges).Holds code ↔ InSome ranges code := by
  rw [Holds]
  split
  next hcode =>
    show (ranges.foldl (fun bits range => bits ||| rangeBits range) 0).testBit code = true ↔ _
    rw [testBit_foldl_or, Nat.zero_testBit, Bool.false_or, List.any_eq_true]
    exact exists_congr fun range => and_congr_right fun _ => testBit_rangeBits hcode
  next hcode =>
    refine inSome_joinRanges_iff.trans ?_
    constructor
    · rintro ⟨rest, hrest, hholds⟩
      obtain ⟨range, hrange, hrest⟩ := List.mem_filterMap.mp hrest
      exact ⟨range, hrange, (exists_rangeBeyond?_iff (Nat.le_of_not_lt hcode)).mp
        ⟨rest, hrest, hholds⟩⟩
    · rintro ⟨range, hrange, hholds⟩
      obtain ⟨rest, hrest, hholds⟩ :=
        (exists_rangeBeyond?_iff (Nat.le_of_not_lt hcode)).mpr hholds
      exact ⟨rest, List.mem_filterMap.mpr ⟨range, hrange, hrest⟩, hholds⟩

theorem holds_unions_iff : (unions sets).Holds code ↔ ∃ set ∈ sets, set.Holds code := by
  rw [Holds]
  split
  next hcode =>
    show (sets.foldl (fun bits (set : CodeSet) => bits ||| set.ascii) 0).testBit code = true ↔ _
    rw [testBit_foldl_or, Nat.zero_testBit, Bool.false_or, List.any_eq_true]
    exact exists_congr fun set => and_congr_right fun _ => by rw [Holds, if_pos hcode]
  next hcode =>
    refine inSome_joinRanges_iff.trans ?_
    constructor
    · rintro ⟨r, hr, hholds⟩
      obtain ⟨set, hset, hr⟩ := List.mem_flatMap.mp hr
      refine ⟨set, hset, ?_⟩
      rw [Holds, if_neg hcode]
      exact ⟨r, hr, hholds⟩
    · rintro ⟨set, hset, hholds⟩
      rw [Holds, if_neg hcode] at hholds
      obtain ⟨r, hr, hholds⟩ := hholds
      exact ⟨r, List.mem_flatMap.mpr ⟨set, hset, hr⟩, hholds⟩

theorem has_unions_iff : (unions sets).has c = true ↔ ∃ set ∈ sets, set.Holds c.toNat :=
  (has_iff (areOrdered_joinRanges _)).trans holds_unions_iff

end SourceRetrieval.Unicode.CodeSet
