/-
Bytes that are UTF-8.

* `characterForms` — the forms of a character: the bounds of each of its bytes;
* `isCharacter_iff` — bytes have one of these forms just if they are the bytes of a character;
* `isUtf8_iff` — so some bytes can be cut into such forms just if they are the bytes of a text;
* `decode?_eq_some_iff` — and the text they are decoded to is the one whose bytes they are.

Design notes: a form with continuing bytes is a number in base 64.  That a longer form is not used
where a shorter one would do, that surrogates are no characters and that there is a last code
point shows in the bounds of the second byte alone, which is why there are nine forms for four
lengths.
-/
import Mathlib.Data.List.Forall2
import SourceRetrieval.Proofs.Text.Bytes
import SourceRetrieval.Text.Utf8
import SourceRetrieval.Unicode.ByteRanges

namespace SourceRetrieval.Text

variable {bytes rest : List UInt8} {a b d e : UInt8} {c : Char} {cs : List Char} {n : Nat}

/-! ### Forms of a character -/

/-- The forms of a character, each with the bounds of its bytes. -/
def characterForms : List (List Unicode.ByteRange) :=
  [[(0x00, 0x7F)],
    [(0xC2, 0xDF), (0x80, 0xBF)],
    [(0xE0, 0xE0), (0xA0, 0xBF), (0x80, 0xBF)],
    [(0xE1, 0xEC), (0x80, 0xBF), (0x80, 0xBF)],
    [(0xED, 0xED), (0x80, 0x9F), (0x80, 0xBF)],
    [(0xEE, 0xEF), (0x80, 0xBF), (0x80, 0xBF)],
    [(0xF0, 0xF0), (0x90, 0xBF), (0x80, 0xBF), (0x80, 0xBF)],
    [(0xF1, 0xF3), (0x80, 0xBF), (0x80, 0xBF), (0x80, 0xBF)],
    [(0xF4, 0xF4), (0x80, 0x8F), (0x80, 0xBF), (0x80, 0xBF)]]

/-- A byte lies between bounds. -/
def InRange (b : UInt8) (range : Unicode.ByteRange) : Prop := range.1 ≤ b.toNat ∧ b.toNat ≤ range.2

/-- Some bytes have one of the forms of a character. -/
def IsCharacter (bytes : List UInt8) : Prop :=
  ∃ form ∈ characterForms, List.Forall₂ InRange bytes form

/-- Some bytes are well-formed UTF-8: they can be cut into bytes that have the form of a character
each. -/
inductive IsUtf8 : List UInt8 → Prop
  | nil : IsUtf8 []
  | append {first rest : List UInt8} (hfirst : IsCharacter first) (hrest : IsUtf8 rest) :
    IsUtf8 (first ++ rest)

/-- The characters of all code points are encoded in these forms. -/
example : Unicode.byteSequences 0 0x10FFFF = characterForms := by decide

theorem inRange_ofNat {low high : Nat} (hlow : low ≤ n) (hhigh : n ≤ high) (h : high ≤ 0xFF) :
    InRange (UInt8.ofNat n) (low, high) := by
  rw [InRange, UInt8.toNat_ofNat_of_lt' (Nat.lt_succ_of_le (Nat.le_trans hhigh h))]
  exact ⟨hlow, hhigh⟩

/-- The bytes behind the first one hold six bits each. -/
theorem inRange_continuation (n : Nat) : InRange (UInt8.ofNat (n % 64 + 0x80)) (0x80, 0xBF) :=
  inRange_ofNat (by omega) (by omega) (by omega)

/-! ### Characters by the number of their bytes -/

theorem utf8EncodeChar_of_le_two (hlow : 0x7f < c.toNat) (hhigh : c.toNat ≤ 0x7ff) :
    String.utf8EncodeChar c
      = [UInt8.ofNat (c.toNat / 64 + 0xc0), UInt8.ofNat (c.toNat % 64 + 0x80)] := by
  have hval : c.val.toNat = c.toNat := rfl
  rw [String.utf8EncodeChar, hval, if_neg (by omega), if_pos hhigh, Nat.mod_eq_of_lt (by omega)]

theorem utf8EncodeChar_of_le_three (hlow : 0x7ff < c.toNat) (hhigh : c.toNat ≤ 0xffff) :
    String.utf8EncodeChar c
      = [UInt8.ofNat (c.toNat / 4096 + 0xe0), UInt8.ofNat (c.toNat / 64 % 64 + 0x80),
        UInt8.ofNat (c.toNat % 64 + 0x80)] := by
  have hval : c.val.toNat = c.toNat := rfl
  rw [String.utf8EncodeChar, hval, if_neg (by omega), if_neg (by omega), if_pos hhigh,
    Nat.mod_eq_of_lt (show c.toNat / 4096 < 16 by omega)]

theorem utf8EncodeChar_of_four (hlow : 0xffff < c.toNat) :
    String.utf8EncodeChar c
      = [UInt8.ofNat (c.toNat / 262144 + 0xf0), UInt8.ofNat (c.toNat / 4096 % 64 + 0x80),
        UInt8.ofNat (c.toNat / 64 % 64 + 0x80), UInt8.ofNat (c.toNat % 64 + 0x80)] := by
  have hval : c.val.toNat = c.toNat := rfl
  have hlast : c.toNat < 0x110000 := by
    rcases c.valid with h | h
    · exact Nat.lt_trans h (by decide)
    · exact h.2
  rw [String.utf8EncodeChar, hval, if_neg (by omega), if_neg (by omega), if_neg (by omega),
    Nat.mod_eq_of_lt (show c.toNat / 262144 < 8 by omega)]

/-! ### Each character has a form -/

theorem isCharacter_of_one (h : n ≤ 0x7f) : IsCharacter [UInt8.ofNat n] :=
  ⟨[(0x00, 0x7F)], by decide, .cons (inRange_ofNat (Nat.zero_le n) h (by omega)) .nil⟩

theorem isCharacter_of_two (hlow : 0x7f < n) (hhigh : n ≤ 0x7ff) :
    IsCharacter [UInt8.ofNat (n / 64 + 0xc0), UInt8.ofNat (n % 64 + 0x80)] :=
  ⟨[(0xC2, 0xDF), (0x80, 0xBF)], by decide,
    .cons (inRange_ofNat (by omega) (by omega) (by omega)) (.cons (inRange_continuation n) .nil)⟩

theorem isCharacter_of_three (hlow : 0x7ff < n) (hhigh : n ≤ 0xffff)
    (hvalid : n < 0xd800 ∨ 0xdfff < n) :
    IsCharacter [UInt8.ofNat (n / 4096 + 0xe0), UInt8.ofNat (n / 64 % 64 + 0x80),
      UInt8.ofNat (n % 64 + 0x80)] := by
  have hsecond := inRange_continuation (n / 64)
  have hlast := inRange_continuation n
  -- The first byte decides about the bounds of the second one.
  have hlead : n / 4096 = 0 ∨ 1 ≤ n / 4096 ∧ n / 4096 ≤ 12 ∨ n / 4096 = 13
      ∨ 14 ≤ n / 4096 ∧ n / 4096 ≤ 15 := by omega
  rcases hlead with hleast | hbelow | hsurrogates | habove
  · exact ⟨[(0xE0, 0xE0), (0xA0, 0xBF), (0x80, 0xBF)], by decide,
      .cons (inRange_ofNat (by omega) (by omega) (by omega))
        (.cons (inRange_ofNat (by omega) (by omega) (by omega)) (.cons hlast .nil))⟩
  · exact ⟨[(0xE1, 0xEC), (0x80, 0xBF), (0x80, 0xBF)], by decide,
      .cons (inRange_ofNat (by omega) (by omega) (by omega)) (.cons hsecond (.cons hlast .nil))⟩
  · exact ⟨[(0xED, 0xED), (0x80, 0x9F), (0x80, 0xBF)], by decide,
      .cons (inRange_ofNat (by omega) (by omega) (by omega))
        (.cons (inRange_ofNat (by omega) (by omega) (by omega)) (.cons hlast .nil))⟩
  · exact ⟨[(0xEE, 0xEF), (0x80, 0xBF), (0x80, 0xBF)], by decide,
      .cons (inRange_ofNat (by omega) (by omega) (by omega)) (.cons hsecond (.cons hlast .nil))⟩

theorem isCharacter_of_four (hlow : 0xffff < n) (hhigh : n < 0x110000) :
    IsCharacter [UInt8.ofNat (n / 262144 + 0xf0), UInt8.ofNat (n / 4096 % 64 + 0x80),
      UInt8.ofNat (n / 64 % 64 + 0x80), UInt8.ofNat (n % 64 + 0x80)] := by
  have hsecond := inRange_continuation (n / 4096)
  have hlater : List.Forall₂ InRange [UInt8.ofNat (n / 64 % 64 + 0x80), UInt8.ofNat (n % 64 + 0x80)]
      [(0x80, 0xBF), (0x80, 0xBF)] :=
    .cons (inRange_continuation (n / 64)) (.cons (inRange_continuation n) .nil)
  have hlead : n / 262144 = 0 ∨ 1 ≤ n / 262144 ∧ n / 262144 ≤ 3 ∨ n / 262144 = 4 := by omega
  rcases hlead with hleast | hmiddle | hgreatest
  · exact ⟨[(0xF0, 0xF0), (0x90, 0xBF), (0x80, 0xBF), (0x80, 0xBF)], by decide,
      .cons (inRange_ofNat (by omega) (by omega) (by omega))
        (.cons (inRange_ofNat (by omega) (by omega) (by omega)) hlater)⟩
  · exact ⟨[(0xF1, 0xF3), (0x80, 0xBF), (0x80, 0xBF), (0x80, 0xBF)], by decide,
      .cons (inRange_ofNat (by omega) (by omega) (by omega)) (.cons hsecond hlater)⟩
  · exact ⟨[(0xF4, 0xF4), (0x80, 0x8F), (0x80, 0xBF), (0x80, 0xBF)], by decide,
      .cons (inRange_ofNat (by omega) (by omega) (by omega))
        (.cons (inRange_ofNat (by omega) (by omega) (by omega)) hlater)⟩

theorem isCharacter_utf8EncodeChar (c : Char) : IsCharacter (String.utf8EncodeChar c) := by
  have hvalid : c.toNat < 0xd800 ∨ 0xdfff < c.toNat ∧ c.toNat < 0x110000 := c.valid
  by_cases hone : c.toNat ≤ 0x7f
  · rw [utf8EncodeChar_of_lt (by omega)]
    exact isCharacter_of_one hone
  by_cases htwo : c.toNat ≤ 0x7ff
  · rw [utf8EncodeChar_of_le_two (by omega) htwo]
    exact isCharacter_of_two (by omega) htwo
  by_cases hthree : c.toNat ≤ 0xffff
  · rw [utf8EncodeChar_of_le_three (by omega) hthree]
    exact isCharacter_of_three (by omega) hthree (by omega)
  · rw [utf8EncodeChar_of_four (by omega)]
    exact isCharacter_of_four (by omega) (by omega)

/-! ### Each form is that of a character -/

theorem exists_toNat_eq (h : n.isValidChar) : ∃ c : Char, c.toNat = n := ⟨Char.ofNatAux n h, rfl⟩

theorem ofNat_eq (b : UInt8) (h : n = b.toNat) : UInt8.ofNat n = b := by rw [h, UInt8.ofNat_toNat]

theorem exists_char_of_one (ha : a.toNat ≤ 0x7F) : ∃ c, String.utf8EncodeChar c = [a] := by
  obtain ⟨c, hc⟩ := exists_toNat_eq (show a.toNat.isValidChar from .inl (by omega))
  exact ⟨c, by rw [utf8EncodeChar_of_lt (by omega), ofNat_eq a hc]⟩

theorem exists_char_of_two (ha : 0xC2 ≤ a.toNat ∧ a.toNat ≤ 0xDF)
    (hb : 0x80 ≤ b.toNat ∧ b.toNat ≤ 0xBF) : ∃ c, String.utf8EncodeChar c = [a, b] := by
  obtain ⟨n, hn⟩ : ∃ n, n = (a.toNat - 0xc0) * 64 + (b.toNat - 0x80) := ⟨_, rfl⟩
  obtain ⟨c, rfl⟩ := exists_toNat_eq (show n.isValidChar from .inl (by omega))
  refine ⟨c, ?_⟩
  rw [utf8EncodeChar_of_le_two (by omega) (by omega), ofNat_eq a (by omega),
    ofNat_eq b (by omega)]

theorem exists_char_of_three (ha : 0xE0 ≤ a.toNat ∧ a.toNat ≤ 0xEF)
    (hb : 0x80 ≤ b.toNat ∧ b.toNat ≤ 0xBF) (hd : 0x80 ≤ d.toNat ∧ d.toNat ≤ 0xBF)
    (hshort : a.toNat = 0xE0 → 0xA0 ≤ b.toNat) (hsurrogate : a.toNat = 0xED → b.toNat ≤ 0x9F) :
    ∃ c, String.utf8EncodeChar c = [a, b, d] := by
  obtain ⟨n, hn⟩ : ∃ n, n = (a.toNat - 0xe0) * 4096 + (b.toNat - 0x80) * 64 + (d.toNat - 0x80) :=
    ⟨_, rfl⟩
  have hvalid : n < 0xd800 ∨ 0xdfff < n ∧ n < 0x110000 := by omega
  obtain ⟨c, rfl⟩ := exists_toNat_eq hvalid
  refine ⟨c, ?_⟩
  rw [utf8EncodeChar_of_le_three (by omega) (by omega), ofNat_eq a (by omega),
    ofNat_eq b (by omega), ofNat_eq d (by omega)]

theorem exists_char_of_four (ha : 0xF0 ≤ a.toNat ∧ a.toNat ≤ 0xF4)
    (hb : 0x80 ≤ b.toNat ∧ b.toNat ≤ 0xBF) (hd : 0x80 ≤ d.toNat ∧ d.toNat ≤ 0xBF)
    (he : 0x80 ≤ e.toNat ∧ e.toNat ≤ 0xBF) (hshort : a.toNat = 0xF0 → 0x90 ≤ b.toNat)
    (hlast : a.toNat = 0xF4 → b.toNat ≤ 0x8F) : ∃ c, String.utf8EncodeChar c = [a, b, d, e] := by
  obtain ⟨n, hn⟩ : ∃ n, n = (a.toNat - 0xf0) * 262144 + (b.toNat - 0x80) * 4096
      + (d.toNat - 0x80) * 64 + (e.toNat - 0x80) := ⟨_, rfl⟩
  have hvalid : n < 0xd800 ∨ 0xdfff < n ∧ n < 0x110000 := by omega
  obtain ⟨c, rfl⟩ := exists_toNat_eq hvalid
  refine ⟨c, ?_⟩
  rw [utf8EncodeChar_of_four (by omega), ofNat_eq a (by omega), ofNat_eq b (by omega),
    ofNat_eq d (by omega), ofNat_eq e (by omega)]

theorem exists_char_of_isCharacter (h : IsCharacter bytes) :
    ∃ c, String.utf8EncodeChar c = bytes := by
  obtain ⟨form, hform, h⟩ := h
  simp only [characterForms, List.mem_cons, List.not_mem_nil, or_false] at hform
  rcases hform with rfl | rfl | rfl | rfl | rfl | rfl | rfl | rfl | rfl
  · rcases h with _ | ⟨ha, _ | _⟩
    exact exists_char_of_one ha.2
  · rcases h with _ | ⟨ha, _ | ⟨hb, _ | _⟩⟩
    exact exists_char_of_two ha hb
  -- Four forms of three bytes, and three of four.
  iterate 4
    · rcases h with _ | ⟨ha, _ | ⟨hb, _ | ⟨hd, _ | _⟩⟩⟩
      simp only [InRange] at ha hb
      exact exists_char_of_three (by omega) (by omega) hd (by omega) (by omega)
  iterate 3
    · rcases h with _ | ⟨ha, _ | ⟨hb, _ | ⟨hd, _ | ⟨he, _ | _⟩⟩⟩⟩
      simp only [InRange] at ha hb
      exact exists_char_of_four (by omega) (by omega) hd he (by omega) (by omega)

/-- Bytes have one of the forms of a character just if they are the bytes of a character. -/
theorem isCharacter_iff : IsCharacter bytes ↔ ∃ c, String.utf8EncodeChar c = bytes := by
  constructor
  · exact exists_char_of_isCharacter
  · rintro ⟨c, rfl⟩
    exact isCharacter_utf8EncodeChar c

/-! ### Bytes of a text -/

theorem isUtf8_utf8 (cs : List Char) : IsUtf8 (utf8 cs) := by
  induction cs with
  | nil => exact .nil
  | cons c cs ih =>
    rw [utf8_cons]
    exact .append (isCharacter_utf8EncodeChar c) ih

/-- Bytes are well-formed just if they are the bytes of a text. -/
theorem isUtf8_iff : IsUtf8 bytes ↔ ∃ cs, utf8 cs = bytes := by
  constructor
  · intro h
    induction h with
    | nil => exact ⟨[], rfl⟩
    | append hfirst _ ih =>
      obtain ⟨c, rfl⟩ := isCharacter_iff.mp hfirst
      obtain ⟨cs, rfl⟩ := ih
      exact ⟨c :: cs, utf8_cons c cs⟩
  · rintro ⟨cs, rfl⟩
    exact isUtf8_utf8 cs

/-! ### Arrays of bytes -/

theorem toList_loop (array : ByteArray) (i : Nat) (before : List UInt8) :
    ByteArray.toList.loop array i before = before.reverse ++ array.data.toList.drop i := by
  induction i, before using ByteArray.toList.loop.induct array with
  | case1 i before hi ih =>
    have hlength : i < array.data.toList.length := hi
    have hbyte : array.get! i = array.data.toList[i] := getElem!_pos array.data i hi
    rw [ByteArray.toList.loop, if_pos hi, ih, List.reverse_cons, List.append_assoc,
      List.singleton_append, List.drop_eq_getElem_cons hlength, hbyte]
  | case2 i before hi =>
    have hlength : array.data.toList.length ≤ i := Nat.le_of_not_lt hi
    rw [ByteArray.toList.loop, if_neg hi, List.drop_of_length_le hlength, List.append_nil]

theorem toList_eq_data_toList (array : ByteArray) : array.toList = array.data.toList :=
  toList_loop array 0 []

theorem toList_inj {array array' : ByteArray} : array.toList = array'.toList ↔ array = array' := by
  rw [toList_eq_data_toList, toList_eq_data_toList, Array.toList_inj, ByteArray.ext_iff]

theorem toList_extract_zero (array : ByteArray) (n : Nat) :
    (array.extract 0 n).toList = array.toList.take n := by
  rw [toList_eq_data_toList, toList_eq_data_toList, ByteArray.data_extract, Array.toList_extract,
    List.extract_eq_take_drop, List.drop_zero, Nat.sub_zero]

theorem toList_toByteArray (text : String) : text.toByteArray.toList = utf8 text.toList := by
  have hbytes : text.toByteArray = (utf8 text.toList).toByteArray := String.utf8Encode_toList.symm
  rw [toList_eq_data_toList, hbytes, List.toList_data_toByteArray]

/-- A text begins another one if its bytes do. -/
theorem isPrefix_of_utf8_isPrefix {before : List Char} (h : utf8 before <+: utf8 cs) :
    before <+: cs := by
  obtain ⟨rest, hrest⟩ := h
  refine List.isPrefix_of_utf8Encode_append_eq_utf8Encode rest.toByteArray ?_
  rw [List.utf8Encode, List.utf8Encode, ← List.toByteArray_append]
  exact congrArg List.toByteArray hrest

/-- Some bytes are decoded to the text whose bytes they are. -/
theorem decode?_eq_some_iff {array : ByteArray} {text : String} :
    decode? array = some text ↔ utf8 text.toList = array.toList := by
  rw [← toList_toByteArray, toList_inj, decode?, String.fromUTF8?]
  constructor
  · intro h
    split at h
    · rw [← Option.some.inj h]
      rfl
    · cases h
  · rintro rfl
    rw [dif_pos text.isValidUTF8]
    rfl

theorem decode?_eq_none_iff {array : ByteArray} : decode? array = none ↔ ¬IsUtf8 array.toList := by
  rw [isUtf8_iff, Option.eq_none_iff_forall_ne_some]
  constructor
  · rintro h ⟨cs, hcs⟩
    exact h (String.ofList cs) (decode?_eq_some_iff.mpr (by rw [String.toList_ofList, hcs]))
  · exact fun h text htext => h ⟨text.toList, decode?_eq_some_iff.mp htext⟩

end SourceRetrieval.Text
