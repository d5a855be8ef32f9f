/-
Decoding the bytes of a file is the partial inverse of encoding a text.

* `LooksLikeText` — what the first bytes of a text are like, which `looksBinary_eq_true_iff` says
  is what is looked for;
* `dropMark_eq_iff` — a byte order mark in front of a text is taken off, and only one;
* `decodeContent_of_utf8`, `decodeContent_of_not_isUtf8` and `decodeContent_of_not_looksLikeText` —
  the three ways in which decoding ends;
* `decodeContent_inverts_utf8` — so a file has a text if its first bytes look like one and all of
  them are UTF-8, and to encode the text, behind its mark if there was one, gives them back.
-/
import SourceRetrieval.Engine.Content
import SourceRetrieval.Proofs.Text.Utf8

namespace SourceRetrieval

open Text

variable {bytes : List UInt8} {array : ByteArray} {whole text : String} {file : String}

/-! ### First bytes -/

/-- What the first 8192 bytes of a text are like: none of them is zero, and at most thirty in a
hundred are control characters other than newline, carriage return, tab and form feed. -/
structure LooksLikeText (bytes : List UInt8) : Prop where
  no_zero : 0 ∉ bytes.take 8192
  few_controls : 100 * (bytes.take 8192).countP
      (fun b => b.toNat < 0x20 ∧ b.toNat ∉ [0x0a, 0x0d, 0x09, 0x0c])
    ≤ 30 * min 8192 bytes.length

theorem isOddControl_eq (b : UInt8) :
    isOddControl b = decide (b.toNat < 0x20 ∧ b.toNat ∉ [0x0a, 0x0d, 0x09, 0x0c]) := by
  rw [Bool.eq_iff_iff]
  simp only [isOddControl, Bool.and_eq_true, decide_eq_true_eq, Bool.not_eq_true',
    Bool.or_eq_false_iff, beq_eq_false_iff_ne, ne_eq, ← UInt8.toNat_inj, UInt8.lt_iff_toNat_lt,
    UInt8.reduceToNat, and_assoc, List.mem_cons, List.not_mem_nil, or_false, not_or]

theorem looksBinary_eq_false_iff :
    looksBinary (bytes.take 8192) = false ↔ LooksLikeText bytes := by
  have hcontrols : (bytes.take 8192).countP isOddControl = (bytes.take 8192).countP
      (fun b => b.toNat < 0x20 ∧ b.toNat ∉ [0x0a, 0x0d, 0x09, 0x0c]) :=
    congrArg (List.countP · _) (funext isOddControl_eq)
  rw [looksBinary, hcontrols, List.length_take, Bool.or_eq_false_iff, List.contains_eq_mem,
    decide_eq_false_iff_not, decide_eq_false_iff_not]
  constructor
  · rintro ⟨hzero, hfew⟩
    exact ⟨hzero, by omega⟩
  · rintro ⟨hzero, hfew⟩
    exact ⟨hzero, by omega⟩

theorem looksBinary_eq_true_iff :
    looksBinary (array.extract 0 sniffLength).toList = true ↔ ¬LooksLikeText array.toList := by
  rw [toList_extract_zero, ← looksBinary_eq_false_iff, Bool.not_eq_false, sniffLength]

/-! ### Byte order marks -/

/-- The bytes of the byte order mark. -/
def markBytes : List UInt8 := [0xEF, 0xBB, 0xBF]

/-- A text begins with a byte order mark. -/
def HasMark (text : String) : Prop := ['\uFEFF'] <+: text.toList

/-- The text behind the byte order mark of another one, or that one itself if it has no mark. -/
def IsBehindMark (whole text : String) : Prop :=
  whole = "\uFEFF" ++ text ∨ ¬HasMark whole ∧ whole = text

theorem utf8_mark : utf8 ['\uFEFF'] = markBytes := rfl

theorem toList_marked (text : String) : ("\uFEFF" ++ text).toList = '\uFEFF' :: text.toList :=
  String.toList_append

theorem hasMark_marked (text : String) : HasMark ("\uFEFF" ++ text) :=
  ⟨text.toList, (toList_marked text).symm⟩

/-- A text has a mark just if its bytes begin with those of the mark. -/
theorem hasMark_iff : HasMark text ↔ markBytes <+: utf8 text.toList := by
  rw [HasMark, ← utf8_mark]
  constructor
  · rintro ⟨rest, hrest⟩
    exact ⟨utf8 rest, by rw [← hrest, utf8_append]⟩
  · exact isPrefix_of_utf8_isPrefix

theorem dropMark_eq_iff : dropMark whole = text ↔ IsBehindMark whole text := by
  rw [dropMark, IsBehindMark, ← @String.toList_inj whole, toList_marked, HasMark]
  split
  next rest hrest =>
    rw [hrest, List.cons_eq_cons, and_iff_right rfl, ← String.toList_inj, String.toList_ofList,
      or_iff_left]
    rintro ⟨hnone, -⟩
    exact hnone (List.prefix_append ['\uFEFF'] rest)
  next hnone =>
    have hmark : ¬['\uFEFF'] <+: whole.toList := fun ⟨rest, hrest⟩ => hnone rest hrest.symm
    rw [and_iff_right hmark, or_iff_right (hnone text.toList)]

/-! ### Ways in which decoding ends -/

theorem decodeContent_of_not_looksLikeText (h : ¬LooksLikeText array.toList) :
    decodeContent file array = .error (.binary file) := by
  rw [decodeContent, if_pos (looksBinary_eq_true_iff.mpr h)]

theorem decodeContent_of_not_isUtf8 (h : LooksLikeText array.toList)
    (hbytes : ¬IsUtf8 array.toList) : decodeContent file array = .error (.invalidUtf8 file) := by
  rw [decodeContent, if_neg (mt looksBinary_eq_true_iff.mp (not_not_intro h)),
    decode?_eq_none_iff.mpr hbytes]

theorem decodeContent_of_utf8 (h : LooksLikeText array.toList)
    (hwhole : utf8 whole.toList = array.toList) :
    decodeContent file array = .ok (dropMark whole) := by
  rw [decodeContent, if_neg (mt looksBinary_eq_true_iff.mp (not_not_intro h)),
    decode?_eq_some_iff.mpr hwhole]

theorem exists_decodeContent (file : String) (h : LooksLikeText array.toList)
    (hbytes : IsUtf8 array.toList) :
    ∃ whole : String, whole.toUTF8 = array ∧ decodeContent file array = .ok (dropMark whole) := by
  obtain ⟨cs, hcs⟩ := isUtf8_iff.mp hbytes
  have hwhole : utf8 (String.ofList cs).toList = array.toList := by rw [String.toList_ofList, hcs]
  refine ⟨String.ofList cs, ?_, decodeContent_of_utf8 h hwhole⟩
  rwa [String.toUTF8_eq_toByteArray, ← toList_inj, toList_toByteArray]

/-- A file that decodes looks like text and is UTF-8. -/
theorem of_decodeContent_eq_ok (h : decodeContent file array = .ok text) :
    LooksLikeText array.toList ∧ IsUtf8 array.toList := by
  by_cases hlooks : LooksLikeText array.toList
  · by_cases hbytes : IsUtf8 array.toList
    · exact ⟨hlooks, hbytes⟩
    · rw [decodeContent_of_not_isUtf8 hlooks hbytes] at h
      cases h
  · rw [decodeContent_of_not_looksLikeText hlooks] at h
    cases h

theorem decodeContent_eq_ok_iff : decodeContent file array = .ok text ↔
    LooksLikeText array.toList
      ∧ ∃ whole : String, whole.toUTF8 = array ∧ IsBehindMark whole text := by
  constructor
  · intro h
    obtain ⟨hlooks, hbytes⟩ := of_decodeContent_eq_ok h
    obtain ⟨whole, hwhole, hdecode⟩ := exists_decodeContent file hlooks hbytes
    rw [hdecode] at h
    exact ⟨hlooks, whole, hwhole, dropMark_eq_iff.mp (Except.ok.inj h)⟩
  · rintro ⟨hlooks, whole, rfl, hbehind⟩
    rw [decodeContent_of_utf8 hlooks (toList_toByteArray whole).symm, dropMark_eq_iff.mpr hbehind]

/-- Decoding is the partial inverse of encoding.  A file has a text just if its first bytes look
like text and all its bytes are well-formed UTF-8, and this is the text of the bytes without the
byte order mark in front, if there is one.  So the bytes of a text that look like text and have no
mark are decoded to that text, and a text that was decoded is encoded as the bytes of the file,
behind the mark if they began with one. -/
theorem decodeContent_inverts_utf8 (file : String) :
    (∀ array text, decodeContent file array = .ok text ↔
        LooksLikeText array.toList ∧ IsUtf8 array.toList
          ∧ ∃ whole : String, whole.toUTF8 = array ∧ IsBehindMark whole text)
      ∧ (∀ array, (∃ text, decodeContent file array = .ok text) ↔
        LooksLikeText array.toList ∧ IsUtf8 array.toList)
      ∧ (∀ text : String, LooksLikeText text.toUTF8.toList → ¬HasMark text →
        decodeContent file text.toUTF8 = .ok text)
      ∧ ∀ array text, decodeContent file array = .ok text →
        array = if markBytes <+: array.toList then ("\uFEFF" ++ text).toUTF8 else text.toUTF8 := by
  refine ⟨fun array text => ⟨fun h => ?_, fun ⟨hlooks, _, hwhole⟩ => ?_⟩,
    fun array => ⟨fun ⟨text, h⟩ => of_decodeContent_eq_ok h, fun ⟨hlooks, hbytes⟩ => ?_⟩,
    fun text hlooks hmark => ?_, fun array text h => ?_⟩
  · obtain ⟨hlooks, hbytes⟩ := of_decodeContent_eq_ok h
    exact ⟨hlooks, hbytes, (decodeContent_eq_ok_iff.mp h).2⟩
  · exact decodeContent_eq_ok_iff.mpr ⟨hlooks, hwhole⟩
  · obtain ⟨whole, -, hdecode⟩ := exists_decodeContent file hlooks hbytes
    exact ⟨dropMark whole, hdecode⟩
  · exact decodeContent_eq_ok_iff.mpr ⟨hlooks, text, rfl, .inr ⟨hmark, rfl⟩⟩
  · obtain ⟨-, whole, rfl, hbehind⟩ := decodeContent_eq_ok_iff.mp h
    rw [String.toUTF8_eq_toByteArray, toList_toByteArray]
    rcases hbehind with rfl | ⟨hmark, rfl⟩
    · rw [if_pos (hasMark_iff.mp (hasMark_marked text))]
      rfl
    · rw [if_neg (mt hasMark_iff.mpr hmark)]
      rfl

/-- Of two marks the first one is taken off. -/
example : dropMark "\uFEFF\uFEFFa" = "\uFEFFa" := by decide

end SourceRetrieval
