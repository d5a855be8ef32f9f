/-
The UTF-8 form of a text.

* `utf8` — the bytes of a text, of which there are `byteLength` many;
* `exists_of_utf8_eq_append` — a byte below 128 is a character by itself, whatever comes before
  and after it;
* `exists_of_utf8_eq_append_utf8_append` — so the bytes of an ASCII text are found just where
  the text is.

Design notes: of the form of longer characters no more is used than that none of their bytes
is below 128.
-/
import SourceRetrieval.Proofs.Text.Offset

namespace SourceRetrieval.Text

variable {cs : List Char} {c : Char} {b : UInt8}

/-- The bytes of a text. -/
def utf8 (cs : List Char) : List UInt8 := cs.flatMap String.utf8EncodeChar

@[simp] theorem utf8_nil : utf8 [] = [] := rfl

@[simp] theorem utf8_cons (c : Char) (cs : List Char) :
    utf8 (c :: cs) = String.utf8EncodeChar c ++ utf8 cs := List.flatMap_cons

@[simp] theorem utf8_append (before after : List Char) :
    utf8 (before ++ after) = utf8 before ++ utf8 after := List.flatMap_append

theorem length_utf8 (cs : List Char) : (utf8 cs).length = byteLength cs := by
  induction cs with
  | nil => rfl
  | cons c cs ih =>
    rw [utf8_cons, List.length_append, String.length_utf8EncodeChar, ih, byteLength_cons]

theorem utf8_eq_nil_iff : utf8 cs = [] ↔ cs = [] := by
  rw [← List.length_eq_zero_iff, length_utf8, byteLength_eq_zero_iff]

/-! ### Bytes of ASCII characters and of others -/

theorem utf8EncodeChar_of_lt (h : c.toNat < 128) :
    String.utf8EncodeChar c = [UInt8.ofNat c.toNat] :=
  if_pos (Nat.le_of_lt_succ h)

theorem le_of_mem_utf8EncodeChar (h : 128 ≤ c.toNat) (hb : b ∈ String.utf8EncodeChar c) :
    128 ≤ b.toNat := by
  have hval : 128 ≤ c.val.toNat := h
  rw [String.utf8EncodeChar] at hb
  -- Each byte of the longer forms has its highest bit set.
  rw [if_neg (by omega)] at hb
  split at hb
  · simp only [List.mem_cons, List.not_mem_nil, or_false] at hb
    rcases hb with rfl | rfl <;> rw [UInt8.toNat_ofNat'] <;> omega
  · split at hb
    · simp only [List.mem_cons, List.not_mem_nil, or_false] at hb
      rcases hb with rfl | rfl | rfl <;> rw [UInt8.toNat_ofNat'] <;> omega
    · simp only [List.mem_cons, List.not_mem_nil, or_false] at hb
      rcases hb with rfl | rfl | rfl | rfl <;> rw [UInt8.toNat_ofNat'] <;> omega

theorem toNat_asciiByte (h : c.toNat < 128) : (UInt8.ofNat c.toNat).toNat = c.toNat :=
  UInt8.toNat_ofNat_of_lt' (Nat.lt_trans h (by decide))

/-- A byte below 128 is a character by itself. -/
theorem exists_of_utf8_eq_append {bs rest : List UInt8} (hb : b.toNat < 128)
    (h : utf8 cs = bs ++ b :: rest) :
    ∃ front c back, cs = front ++ c :: back ∧ utf8 front = bs ∧ c.toNat = b.toNat
      ∧ utf8 back = rest := by
  induction cs generalizing bs with
  | nil => exact absurd h.symm (List.append_ne_nil_of_right_ne_nil bs (List.cons_ne_nil b rest))
  | cons d ds ih =>
    -- The byte is one of the first character or of those behind it.
    have hlater : ∀ {as}, utf8 ds = as ++ b :: rest → bs = String.utf8EncodeChar d ++ as →
        ∃ front c back, d :: ds = front ++ c :: back ∧ utf8 front = bs ∧ c.toNat = b.toNat
          ∧ utf8 back = rest := by
      intro as hds hbs
      obtain ⟨front, c, back, rfl, hfront, hc, hback⟩ := ih hds
      exact ⟨d :: front, c, back, rfl, by rw [utf8_cons, hfront, hbs], hc, hback⟩
    rw [utf8_cons] at h
    rcases List.append_eq_append_iff.mp h with ⟨as, hbs, hds⟩ | ⟨as, hd, hrest⟩
    · exact hlater hds hbs
    · cases as with
      | nil =>
        have hds : utf8 ds = [] ++ b :: rest := hrest.symm
        exact hlater hds (by rw [hd, List.append_nil, List.append_nil])
      | cons a as =>
        obtain ⟨rfl, hback⟩ := List.cons_eq_cons.mp hrest
        have hlt : d.toNat < 128 := by
          refine Nat.lt_of_not_le fun hle => ?_
          have hmem : b ∈ String.utf8EncodeChar d := by
            rw [hd]
            exact List.mem_append_right bs List.mem_cons_self
          exact absurd (le_of_mem_utf8EncodeChar hle hmem) (by omega)
        rw [utf8EncodeChar_of_lt hlt] at hd
        obtain ⟨rfl, hd⟩ := List.append_eq_singleton_iff.mp hd.symm |>.resolve_right (by simp)
        obtain ⟨rfl, rfl⟩ := List.cons_eq_cons.mp hd
        exact ⟨[], d, ds, rfl, rfl, (toNat_asciiByte hlt).symm, hback.symm⟩

/-- An ASCII text begins a text if its bytes do. -/
theorem exists_of_utf8_eq_utf8_append {needle : List Char} {rest : List UInt8}
    (hneedle : ∀ c ∈ needle, c.toNat < 128) (h : utf8 cs = utf8 needle ++ rest) :
    ∃ back, cs = needle ++ back ∧ utf8 back = rest := by
  induction needle generalizing cs with
  | nil => exact ⟨cs, rfl, h⟩
  | cons c needle ih =>
    obtain ⟨hc, hlater⟩ := List.forall_mem_cons.mp hneedle
    have hbytes : utf8 cs = [] ++ UInt8.ofNat c.toNat :: (utf8 needle ++ rest) := by
      rw [h, utf8_cons, utf8EncodeChar_of_lt hc]
      rfl
    obtain ⟨front, d, back, rfl, hfront, hd, hback⟩ :=
      exists_of_utf8_eq_append (by rwa [toNat_asciiByte hc]) hbytes
    rw [toNat_asciiByte hc] at hd
    obtain rfl := utf8_eq_nil_iff.mp hfront
    obtain rfl : d = c := Char.toNat_inj.mp hd
    obtain ⟨back, rfl, hrest⟩ := ih hlater hback
    exact ⟨back, rfl, hrest⟩

/-- The bytes of an ASCII text are nowhere but where the text is. -/
theorem exists_of_utf8_eq_append_utf8_append {needle : List Char} {bs rest : List UInt8}
    (hne : needle ≠ []) (hneedle : ∀ c ∈ needle, c.toNat < 128)
    (h : utf8 cs = bs ++ utf8 needle ++ rest) :
    ∃ front back, cs = front ++ needle ++ back ∧ utf8 front = bs ∧ utf8 back = rest := by
  obtain ⟨c, needle, rfl⟩ := List.exists_cons_of_ne_nil hne
  obtain ⟨hc, hlater⟩ := List.forall_mem_cons.mp hneedle
  rw [utf8_cons, utf8EncodeChar_of_lt hc, List.append_assoc, List.append_assoc] at h
  obtain ⟨front, d, back, rfl, hfront, hd, hback⟩ :=
    exists_of_utf8_eq_append (by rwa [toNat_asciiByte hc]) h
  rw [toNat_asciiByte hc] at hd
  obtain rfl : d = c := Char.toNat_inj.mp hd
  obtain ⟨back, rfl, hrest⟩ := exists_of_utf8_eq_utf8_append hlater hback
  exact ⟨front, back, by rw [List.append_assoc]; rfl, hfront, hrest⟩

end SourceRetrieval.Text
