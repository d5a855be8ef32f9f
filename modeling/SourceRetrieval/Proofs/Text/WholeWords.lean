/-
Whole words among the occurrences of a text.

* `mem_wordOccurrences_append` — an occurrence is a whole word if it is one that the scan
  reports, and no character of an identifier is next to it;
* `mem_wordOccurrences_of_separated` — a name made of such characters is reported wherever it
  stands so, as an occurrence that reaches into it would have to begin with its neighbour;
* `isWordAt_utf8_iff` — to ask for the bytes before and after it is to ask for the characters;
* `wordOccurrences_exact` — so the whole words are found by their bytes, each once and in order.

Design notes: the two scans are compared at a position that is given as a cut of the text, so
that the induction is on what comes before it.
-/
import SourceRetrieval.Proofs.Text.Bytes
import SourceRetrieval.Proofs.Text.Occurrences

namespace SourceRetrieval.Text

variable {needle cs front rest before after : List Char} {skip start offset : Nat}

/-! ### Occurrences with nothing next to them -/

theorem not_mem_occurrencesFrom (h : offset < start) :
    offset ∉ occurrencesFrom needle skip start cs := fun hmem =>
  absurd (le_of_mem_occurrencesFrom hmem) (Nat.not_le_of_lt h)

theorem not_mem_wordOccurrencesFrom {previous : Option Char} (h : offset < start) :
    offset ∉ wordOccurrencesFrom needle skip start previous cs := fun hmem =>
  not_mem_occurrencesFrom h ((sublist_wordOccurrencesFrom _ _ _ _ _).mem hmem)

/-- At a place given by what comes before and after it, a whole word is reported just if the
occurrence is and the characters next to it separate it. -/
theorem mem_wordOccurrencesFrom_append (needle front rest : List Char) (skip start : Nat)
    (previous : Option Char) :
    start + byteLength front ∈ wordOccurrencesFrom needle skip start previous (front ++ rest)
      ↔ start + byteLength front ∈ occurrencesFrom needle skip start (front ++ rest)
        ∧ separates (front.getLast?.or previous) = true
        ∧ separates (rest.drop needle.length).head? = true := by
  induction front generalizing skip start previous with
  | nil =>
    rw [byteLength_nil, Nat.add_zero, List.nil_append, List.getLast?_nil, Option.none_or]
    cases rest with
    | nil => exact iff_of_false List.not_mem_nil fun h => List.not_mem_nil h.1
    | cons c cs =>
      have hlt : start < start + c.utf8Size := Nat.lt_add_of_pos_right c.utf8Size_pos
      cases skip with
      | succ skip =>
        rw [wordOccurrencesFrom, occurrencesFrom]
        exact iff_of_false (not_mem_wordOccurrencesFrom hlt) fun h =>
          not_mem_occurrencesFrom hlt h.1
      | zero =>
        rw [wordOccurrencesFrom, occurrencesFrom]
        split
        · dsimp only
          rw [← Bool.and_eq_true]
          split
          next hseparated => exact iff_of_true List.mem_cons_self ⟨List.mem_cons_self, hseparated⟩
          next hseparated =>
            exact iff_of_false (not_mem_wordOccurrencesFrom hlt) fun h => hseparated h.2
        · exact iff_of_false (not_mem_wordOccurrencesFrom hlt) fun h =>
            not_mem_occurrencesFrom hlt h.1
  | cons b front ih =>
    have hprevious : (b :: front).getLast?.or previous = front.getLast?.or (some b) := by
      rw [List.getLast?_cons]
      cases front.getLast? <;> rfl
    have hlater := fun skip => ih skip (start + b.utf8Size) (some b)
    have hne : start + b.utf8Size + byteLength front ≠ start := by
      have hb := b.utf8Size_pos
      omega
    rw [hprevious, byteLength_cons, ← Nat.add_assoc, List.cons_append]
    cases skip with
    | succ skip => exact hlater skip
    | zero =>
      rw [wordOccurrencesFrom, occurrencesFrom]
      split
      · dsimp only
        rw [List.mem_cons, or_iff_right hne, ← hlater (needle.length - 1)]
        split
        · rw [List.mem_cons, or_iff_right hne]
        · rfl
      · exact hlater 0

theorem mem_wordOccurrences_append (needle front rest : List Char) :
    byteLength front ∈ wordOccurrences needle (front ++ rest)
      ↔ byteLength front ∈ occurrences needle (front ++ rest)
        ∧ separates front.getLast? = true
        ∧ separates (rest.drop needle.length).head? = true := by
  rw [wordOccurrences, occurrences]
  split
  · exact iff_of_false List.not_mem_nil fun h => List.not_mem_nil h.1
  · have hmem := mem_wordOccurrencesFrom_append needle front rest 0 0 none
    rwa [Nat.zero_add, Option.or_none] at hmem

/-- The text stands in another one at an offset, with no character of an identifier next to it. -/
def StandsApart (needle cs : List Char) (offset : Nat) : Prop :=
  ∃ before after, cs = before ++ needle ++ after ∧ offset = byteLength before
    ∧ separates before.getLast? = true ∧ separates after.head? = true

theorem mem_wordOccurrences_iff :
    offset ∈ wordOccurrences needle cs
      ↔ offset ∈ occurrences needle cs ∧ StandsApart needle cs offset := by
  constructor
  · intro h
    have hmem := (sublist_wordOccurrences needle cs).mem h
    obtain ⟨-, before, after, rfl, rfl⟩ := standsAt_of_mem_occurrences hmem
    rw [List.append_assoc, mem_wordOccurrences_append, List.drop_left] at h
    exact ⟨hmem, before, after, rfl, rfl, h.2⟩
  · rintro ⟨hmem, before, after, rfl, rfl, hseparated⟩
    rw [List.append_assoc] at hmem
    rw [List.append_assoc, mem_wordOccurrences_append, List.drop_left]
    exact ⟨hmem, hseparated⟩

/-! ### Names made of identifier characters -/

/-- A name made of identifier characters is reported wherever it stands apart. -/
theorem mem_wordOccurrences_of_standsApart (hne : needle ≠ [])
    (hneedle : ∀ c ∈ needle, isIdentChar c = true) (h : StandsApart needle cs offset) :
    offset ∈ wordOccurrences needle cs := by
  refine mem_wordOccurrences_iff.mpr ⟨?_, h⟩
  obtain ⟨before, after, rfl, rfl, hbefore, -⟩ := h
  obtain ⟨found, hfound, hle, hlt⟩ :=
    exists_occurrence_covering hne ⟨before, after, rfl, rfl⟩
  obtain ⟨-, front, back, hcs, rfl⟩ := standsAt_of_mem_occurrences hfound
  -- The occurrence that was found reaches into this one, which begins inside it or with it.
  rw [List.append_assoc, List.append_assoc] at hcs
  obtain ⟨part, rfl⟩ : front <+: before :=
    isPrefix_of_byteLength_le ⟨needle ++ back, rfl⟩ ⟨needle ++ after, hcs⟩ hle
  rw [byteLength_append] at hlt
  have hpart : part <+: needle := by
    rw [List.append_assoc, List.append_cancel_left_eq] at hcs
    refine isPrefix_of_byteLength_le ⟨needle ++ after, hcs⟩ (List.prefix_append needle back) ?_
    omega
  by_cases hnil : part = []
  · rwa [hnil, List.append_nil] at hfound ⊢
  · have hlast := hneedle _ (hpart.subset (List.getLast_mem hnil))
    rw [List.getLast?_append, List.getLast?_eq_some_getLast hnil, Option.some_or, separates,
      hlast] at hbefore
    cases hbefore

/-! ### Neighbours as bytes -/

/-- A byte of an ASCII identifier: a letter, a digit, `_` or `$`. -/
def isIdentByte (b : UInt8) : Bool :=
  (0x30 ≤ b && b ≤ 0x39) || (0x41 ≤ b && b ≤ 0x5a) || (0x61 ≤ b && b ≤ 0x7a) || b == 0x5f
    || b == 0x24

/-- Whether a neighbour, if there is one, is no byte of an identifier. -/
def separatesByte : Option UInt8 → Bool
  | some b => !isIdentByte b
  | none => true

/-- The number of an ASCII letter, a digit, `_` or `$`. -/
def IsIdentCode (n : Nat) : Prop :=
  48 ≤ n ∧ n ≤ 57 ∨ 65 ≤ n ∧ n ≤ 90 ∨ 97 ≤ n ∧ n ≤ 122 ∨ n = 95 ∨ n = 36

theorem IsIdentCode.lt {n : Nat} (h : IsIdentCode n) : n < 128 := by
  rw [IsIdentCode] at h
  omega

theorem isIdentChar_iff {c : Char} : isIdentChar c = true ↔ IsIdentCode c.toNat := by
  have hval : c.val.toNat = c.toNat := rfl
  have hclasses : isIdentChar c
      = (decide ('A'.val ≤ c.val ∧ c.val ≤ 'Z'.val) || ('a'.val ≤ c.val && c.val ≤ 'z'.val)
        || ('0'.val ≤ c.val && c.val ≤ '9'.val) || c == '_' || c == '$') := rfl
  simp only [hclasses, Bool.or_eq_true, Bool.and_eq_true, decide_eq_true_eq, beq_iff_eq,
    UInt32.le_iff_toNat_le, ← Char.toNat_inj, Char.reduceToNat, Char.reduceVal, UInt32.reduceToNat,
    hval, IsIdentCode]
  omega

theorem isIdentByte_iff {b : UInt8} : isIdentByte b = true ↔ IsIdentCode b.toNat := by
  simp only [isIdentByte, Bool.or_eq_true, Bool.and_eq_true, decide_eq_true_eq, beq_iff_eq,
    UInt8.le_iff_toNat_le, ← UInt8.toNat_inj, UInt8.reduceToNat, IsIdentCode]
  omega

/-- A byte of a character is one of an identifier just if the character is. -/
theorem isIdentByte_of_mem {c : Char} {b : UInt8} (h : b ∈ String.utf8EncodeChar c) :
    isIdentByte b = isIdentChar c := by
  rw [Bool.eq_iff_iff, isIdentByte_iff, isIdentChar_iff]
  by_cases hc : c.toNat < 128
  · rw [utf8EncodeChar_of_lt hc, List.mem_singleton] at h
    rw [h, toNat_asciiByte hc]
  · have hb := le_of_mem_utf8EncodeChar (Nat.le_of_not_lt hc) h
    exact iff_of_false (fun h => absurd h.lt (by omega)) fun h => hc h.lt

theorem separatesByte_head? (cs : List Char) :
    separatesByte (utf8 cs).head? = separates cs.head? := by
  cases cs with
  | nil => rfl
  | cons c cs =>
    obtain ⟨b, bs, hc⟩ := List.exists_cons_of_ne_nil (@String.utf8EncodeChar_ne_nil c)
    have hb : isIdentByte b = isIdentChar c := isIdentByte_of_mem (hc ▸ List.mem_cons_self)
    rw [utf8_cons, hc, List.cons_append, List.head?_cons, List.head?_cons, separatesByte, separates,
      hb]

theorem separatesByte_getLast? (cs : List Char) :
    separatesByte (utf8 cs).getLast? = separates cs.getLast? := by
  by_cases hcs : cs = []
  · rw [hcs]
    rfl
  · have hne := @String.utf8EncodeChar_ne_nil (cs.getLast hcs)
    have hb := isIdentByte_of_mem (List.getLast_mem hne)
    have hbytes : utf8 cs = utf8 cs.dropLast ++ String.utf8EncodeChar (cs.getLast hcs) := by
      conv => lhs; rw [← List.dropLast_concat_getLast hcs, utf8_append, utf8_cons, utf8_nil,
        List.append_nil]
    rw [hbytes, List.getLast?_append, List.getLast?_eq_some_getLast hne, Option.some_or,
      List.getLast?_eq_some_getLast hcs, separatesByte, separates, hb]

/-- Some bytes stand in others at an offset, with no byte of an identifier next to them. -/
def IsWordAt (needle text : List UInt8) (offset : Nat) : Prop :=
  ∃ before after, text = before ++ needle ++ after ∧ offset = before.length
    ∧ separatesByte before.getLast? = true ∧ separatesByte after.head? = true

/-- A name made of identifier characters stands apart just where its bytes do. -/
theorem isWordAt_utf8_iff (hne : needle ≠ []) (hneedle : ∀ c ∈ needle, isIdentChar c = true) :
    IsWordAt (utf8 needle) (utf8 cs) offset ↔ StandsApart needle cs offset := by
  constructor
  · rintro ⟨bs, as, hcs, rfl, hbefore, hafter⟩
    have hascii : ∀ c ∈ needle, c.toNat < 128 := fun c hc =>
      (isIdentChar_iff.mp (hneedle c hc)).lt
    obtain ⟨before, after, rfl, rfl, rfl⟩ := exists_of_utf8_eq_append_utf8_append hne hascii hcs
    rw [separatesByte_getLast?] at hbefore
    rw [separatesByte_head?] at hafter
    exact ⟨before, after, rfl, length_utf8 before, hbefore, hafter⟩
  · rintro ⟨before, after, rfl, rfl, hbefore, hafter⟩
    refine ⟨utf8 before, utf8 after, ?_, (length_utf8 before).symm, ?_, ?_⟩
    · rw [utf8_append, utf8_append]
    · rwa [separatesByte_getLast?]
    · rwa [separatesByte_head?]

/-- The whole words of a text are found in increasing order, and are just the places where the bytes
of the name are and no byte of an identifier comes right before or after them. -/
theorem wordOccurrences_exact (needle cs : List Char) (hne : needle ≠ [])
    (hneedle : ∀ c ∈ needle, isIdentChar c = true) :
    (wordOccurrences needle cs).Pairwise (· < ·)
      ∧ ∀ offset, offset ∈ wordOccurrences needle cs
          ↔ IsWordAt (utf8 needle) (utf8 cs) offset := by
  refine ⟨(pairwise_occurrences needle cs).sublist (sublist_wordOccurrences needle cs), ?_⟩
  intro offset
  rw [isWordAt_utf8_iff hne hneedle]
  exact ⟨fun h => (mem_wordOccurrences_iff.mp h).2, mem_wordOccurrences_of_standsApart hne hneedle⟩

/-- In this text the scan passes over an occurrence that overlaps the first one, and finds the last
one behind a letter that is not ASCII. -/
theorem wordOccurrences_exact_overlapping :
    ['a', '$', 'a'] ≠ [] ∧ (∀ c ∈ ['a', '$', 'a'], isIdentChar c = true)
      ∧ IsWordAt (utf8 ['a', '$', 'a']) (utf8 "a$a$a éa$a".toList) 8 := by
  have hneedle : ∀ c ∈ ['a', '$', 'a'], isIdentChar c = true := List.all_eq_true.mp (by decide)
  refine ⟨by decide, hneedle, ?_⟩
  exact ((wordOccurrences_exact ['a', '$', 'a'] "a$a$a éa$a".toList (by decide) hneedle).2 8).mp
    (by decide)

end SourceRetrieval.Text
