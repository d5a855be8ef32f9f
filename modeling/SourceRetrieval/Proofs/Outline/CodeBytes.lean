/-
The scan for code byte by byte.

* `codeBytesFrom` lists the bytes of a text that stand outside string literals and comments, and
  `braceBodyBytes?` finds the braces of a body among them;
* `codeBytesFrom_utf8` — these are the bytes of the characters that `codeFrom` lists;
* `braceBodyBytes?_utf8` — so the braces are those that `braceBody?` finds.

Design notes: all that begins or ends a literal or a comment is ASCII, and no byte of another
character is below 128.  An escaped character may have several bytes of which only the first is
skipped, but the others end no literal.
-/
import SourceRetrieval.Proofs.Outline.Depth
import SourceRetrieval.Proofs.Text.Bytes
import SourceRetrieval.Proofs.Text.Slice

namespace SourceRetrieval.Outline

open Text

/-! ### The scan of bytes -/

/-- The byte of an ASCII character. -/
def byteOf (c : Char) : UInt8 := UInt8.ofNat c.toNat

/-- How many bytes follow an opening quote up to its closing quote, that one included, `count`
being counted already. -/
def quotedBytes? (quote : UInt8) (count : Nat) : List UInt8 → Option Nat
  | [] => none
  | b :: bs =>
    if b == byteOf '\\' then
      match bs with
      | [] => none
      | _ :: rest => quotedBytes? quote (count + 2) rest
    else if b == quote then some (count + 1)
    else if b == byteOf '\n' && quote != byteOf '`' then none
    else quotedBytes? quote (count + 1) bs

/-- How many bytes come before the end of a block comment and that end, all if it has no end. -/
def blockCommentBytes (count : Nat) : List UInt8 → Nat
  | [] => count
  | b :: bs =>
    if b == byteOf '*' && bs.head? == some (byteOf '/') then count + 2
    else blockCommentBytes (count + 1) bs

/-- How many bytes after `b` belong to the literal or comment that `b` begins. -/
def coveredBytes? (b : UInt8) (bs : List UInt8) : Option Nat :=
  if b == byteOf '"' || b == byteOf '\'' || b == byteOf '`' then quotedBytes? b 0 bs
  else if b == byteOf '/' then
    if bs.head? == some (byteOf '/') then some (bs.takeWhile (· != byteOf '\n')).length
    else if bs.head? == some (byteOf '*') then some (blockCommentBytes 1 bs.tail)
    else none
  else none

/-- The bytes outside literals and comments with their offsets; the next `skip` bytes belong to a
literal or comment. -/
def codeBytesFrom (skip start : Nat) : List UInt8 → List (Nat × UInt8)
  | [] => []
  | b :: bs =>
    match skip with
    | rest + 1 => codeBytesFrom rest (start + 1) bs
    | 0 =>
      match coveredBytes? b bs with
      | some covered => codeBytesFrom covered (start + 1) bs
      | none => (start, b) :: codeBytesFrom 0 (start + 1) bs

/-- The first opening brace, with the bytes it begins; none if a semicolon comes first. -/
def openingByte? (start : Nat) : List UInt8 → Option (Nat × List UInt8)
  | [] => none
  | b :: bs =>
    if b == byteOf '\x7b' then some (start, b :: bs)
    else if b == byteOf ';' then none
    else openingByte? (start + 1) bs

/-- The offset of the brace that closes the first one of a list of bytes. -/
def closingByte? (depth : Nat) : List (Nat × UInt8) → Option Nat
  | [] => none
  | (offset, b) :: marks =>
    if b == byteOf '\x7b' then closingByte? (depth + 1) marks
    else if b == byteOf '\x7d' then
      if depth ≤ 1 then some offset else closingByte? (depth - 1) marks
    else closingByte? depth marks

/-- The offsets of the braces around the body that begins at or after `offset`. -/
def braceBodyBytes? (bs : List UInt8) (offset : Nat) : Option (Nat × Nat) := do
  let (opening, rest) ← openingByte? (min offset bs.length) (bs.drop offset)
  return (opening, (closingByte? 0 (codeBytesFrom 0 opening rest)).getD bs.length)

/-! ### Bytes of ASCII characters and of others -/

variable {b quote : UInt8} {bs high : List UInt8} {c d q : Char} {cs : List Char}
  {count skip start : Nat}

theorem utf8EncodeChar_eq_byteOf (hc : c.toNat < 128) : String.utf8EncodeChar c = [byteOf c] :=
  utf8EncodeChar_of_lt hc

theorem byteOf_eq_iff (hc : c.toNat < 128) (hd : d.toNat < 128) : byteOf c = byteOf d ↔ c = d := by
  rw [← UInt8.toNat_inj, byteOf, byteOf, toNat_asciiByte hc, toNat_asciiByte hd, Char.toNat_inj]

@[simp] theorem byteOf_beq (hc : c.toNat < 128) (hd : d.toNat < 128) :
    (byteOf c == byteOf d) = (c == d) := by
  rw [Bool.eq_iff_iff, beq_iff_eq, beq_iff_eq, byteOf_eq_iff hc hd]

theorem beq_byteOf_of_le (hb : 128 ≤ b.toNat) (hc : c.toNat < 128) : (b == byteOf c) = false := by
  rw [beq_eq_false_iff_ne]
  rintro rfl
  rw [byteOf, toNat_asciiByte hc] at hb
  omega

theorem beq_of_le (hc : 128 ≤ c.toNat) (hd : d.toNat < 128) : (c == d) = false := by
  rw [beq_eq_false_iff_ne]
  rintro rfl
  omega

theorem ne_byteOf_of_mem (hd : d.toNat < 128) (hne : c ≠ d) (hb : b ∈ String.utf8EncodeChar c) :
    b ≠ byteOf d := by
  by_cases hc : c.toNat < 128
  · rw [utf8EncodeChar_eq_byteOf hc, List.mem_singleton] at hb
    rwa [hb, Ne, byteOf_eq_iff hc hd]
  · exact beq_eq_false_iff_ne.mp
      (beq_byteOf_of_le (le_of_mem_utf8EncodeChar (Nat.le_of_not_lt hc) hb) hd)

theorem utf8Size_eq_one (hc : c.toNat < 128) : c.utf8Size = 1 :=
  Char.utf8Size_eq_one_iff.mpr (UInt32.le_iff_toNat_le.mpr (Nat.le_of_lt_succ hc))

/-- The first byte of a text tells whether its first character is the ASCII one. -/
theorem head?_utf8_beq (hc : c.toNat < 128) (cs : List Char) :
    ((utf8 cs).head? == some (byteOf c)) = (cs.head? == some c) := by
  cases cs with
  | nil => rfl
  | cons d cs =>
    by_cases hd : d.toNat < 128
    · rw [utf8_cons, utf8EncodeChar_eq_byteOf hd]
      exact byteOf_beq hd hc
    · have hd := Nat.le_of_not_lt hd
      obtain ⟨b, bs, hbytes⟩ := List.exists_cons_of_ne_nil (String.utf8EncodeChar_ne_nil (c := d))
      have hb : 128 ≤ b.toNat := le_of_mem_utf8EncodeChar hd (hbytes ▸ List.mem_cons_self)
      rw [utf8_cons, hbytes]
      exact (beq_byteOf_of_le hb hc).trans (beq_of_le hd hc).symm

/-! ### Literals and comments -/

theorem quotedBytes?_cons (hb : (b == byteOf '\\') = false) :
    quotedBytes? quote count (b :: bs) =
      if b == quote then some (count + 1)
      else if b == byteOf '\n' && quote != byteOf '`' then none
      else quotedBytes? quote (count + 1) bs := by
  rw [quotedBytes?.eq_def]
  simp only [hb, Bool.false_eq_true, if_false]

/-- Bytes of other characters neither end a literal nor escape what follows. -/
theorem quotedBytes?_append (hq : q.toNat < 128) (hhigh : ∀ b ∈ high, 128 ≤ b.toNat) :
    quotedBytes? (byteOf q) count (high ++ bs)
      = quotedBytes? (byteOf q) (count + high.length) bs := by
  induction high generalizing count with
  | nil => rfl
  | cons b high ih =>
    obtain ⟨hb, hhigh⟩ := List.forall_mem_cons.mp hhigh
    rw [List.cons_append, quotedBytes?_cons (beq_byteOf_of_le hb (by decide)),
      beq_byteOf_of_le hb hq, beq_byteOf_of_le hb (by decide), ih hhigh, List.length_cons,
      Nat.add_assoc, Nat.add_comm 1]
    rfl

/-- What is escaped is skipped, also if only its first byte is. -/
theorem quotedBytes?_escape (hq : q.toNat < 128) (d : Char) :
    quotedBytes? (byteOf q) count (byteOf '\\' :: (String.utf8EncodeChar d ++ bs))
      = quotedBytes? (byteOf q) (count + 1 + d.utf8Size) bs := by
  obtain ⟨b, high, hbytes⟩ := List.exists_cons_of_ne_nil (String.utf8EncodeChar_ne_nil (c := d))
  have hlength := congrArg List.length hbytes
  rw [String.length_utf8EncodeChar, List.length_cons] at hlength
  have hhigh : ∀ b ∈ high, 128 ≤ b.toNat := by
    intro b' hb'
    by_cases hd : d.toNat < 128
    · rw [utf8EncodeChar_eq_byteOf hd] at hbytes
      obtain ⟨-, rfl⟩ := List.cons_eq_cons.mp hbytes
      exact absurd hb' List.not_mem_nil
    · exact le_of_mem_utf8EncodeChar (Nat.le_of_not_lt hd)
        (hbytes ▸ List.mem_cons_of_mem _ hb')
  have hskip : quotedBytes? (byteOf q) count (byteOf '\\' :: b :: (high ++ bs))
      = quotedBytes? (byteOf q) (count + 2) (high ++ bs) := rfl
  rw [hbytes, List.cons_append, hskip, quotedBytes?_append hq hhigh]
  congr 1
  omega

/-- A character that escapes nothing ends a literal, or it is counted with all its bytes. -/
theorem quotedBytes?_char (hq : q.toNat < 128) (hc : c ≠ '\\') :
    quotedBytes? (byteOf q) count (String.utf8EncodeChar c ++ bs) =
      if c == q then some (count + 1)
      else if c == '\n' && q != '`' then none
      else quotedBytes? (byteOf q) (count + c.utf8Size) bs := by
  by_cases hlow : c.toNat < 128
  · rw [utf8EncodeChar_eq_byteOf hlow, List.singleton_append,
      quotedBytes?_cons ((byteOf_beq hlow (by decide)).trans (beq_false_of_ne hc)),
      byteOf_beq hlow hq, byteOf_beq hlow (by decide), bne, byteOf_beq hq (by decide),
      utf8Size_eq_one hlow]
    rfl
  · have hhigh := Nat.le_of_not_lt hlow
    rw [quotedBytes?_append hq fun b => le_of_mem_utf8EncodeChar hhigh,
      String.length_utf8EncodeChar, beq_of_le hhigh hq, beq_of_le hhigh (by decide)]
    rfl

theorem quotedBytes?_utf8 (hq : q.toNat < 128) (count k : Nat) (cs : List Char) :
    quotedBytes? (byteOf q) k (utf8 cs)
      = (quotedLength? q count cs).map fun m => k + byteLength (cs.take (m - count)) := by
  fun_induction quotedLength? q count cs generalizing k with
  | case1 => rfl
  | case2 => rfl
  | case3 count d cs ih =>
    rw [utf8_cons, utf8_cons, utf8EncodeChar_eq_byteOf (by decide), List.singleton_append,
      quotedBytes?_escape hq, ih]
    refine Option.map_congr fun m hm => ?_
    have hlt := lt_of_quotedLength? hm
    rw [show m - count = m - (count + 2) + 1 + 1 by omega, List.take_succ_cons,
      List.take_succ_cons, byteLength_cons, byteLength_cons, show '\\'.utf8Size = 1 from rfl]
    omega
  | case4 count c cs hlast hescape hquote =>
    rw [utf8_cons, quotedBytes?_char hq (ne_backslash hlast hescape), if_pos hquote,
      Option.map_some, Nat.add_sub_cancel_left, List.take_succ_cons, List.take_zero,
      beq_iff_eq.mp hquote, byteLength_cons, byteLength_nil, utf8Size_eq_one hq]
  | case5 count c cs hlast hescape hquote hnewline =>
    rw [utf8_cons, quotedBytes?_char hq (ne_backslash hlast hescape), if_neg hquote,
      if_pos hnewline]
    rfl
  | case6 count c cs hlast hescape hquote hnewline ih =>
    rw [utf8_cons, quotedBytes?_char hq (ne_backslash hlast hescape), if_neg hquote,
      if_neg hnewline, ih]
    refine Option.map_congr fun m hm => ?_
    have hlt := lt_of_quotedLength? hm
    rw [show m - count = m - (count + 1) + 1 by omega, List.take_succ_cons, byteLength_cons,
      Nat.add_assoc]

theorem blockCommentBytes_cons
    (hend : (b == byteOf '*' && bs.head? == some (byteOf '/')) = false) :
    blockCommentBytes count (b :: bs) = blockCommentBytes (count + 1) bs := by
  rw [blockCommentBytes, hend]
  rfl

theorem blockCommentBytes_append (hhigh : ∀ b ∈ high, 128 ≤ b.toNat) :
    blockCommentBytes count (high ++ bs) = blockCommentBytes (count + high.length) bs := by
  induction high generalizing count with
  | nil => rfl
  | cons b high ih =>
    obtain ⟨hb, hhigh⟩ := List.forall_mem_cons.mp hhigh
    rw [List.cons_append,
      blockCommentBytes_cons (by rw [beq_byteOf_of_le hb (by decide), Bool.false_and]), ih hhigh,
      List.length_cons, Nat.add_assoc, Nat.add_comm 1]

/-- A character that does not begin the end of a comment is counted with all its bytes. -/
theorem blockCommentBytes_char (hend : (c == '*' && cs.head? == some '/') = false) :
    blockCommentBytes count (String.utf8EncodeChar c ++ utf8 cs)
      = blockCommentBytes (count + c.utf8Size) (utf8 cs) := by
  by_cases hlow : c.toNat < 128
  · rw [utf8EncodeChar_eq_byteOf hlow, List.singleton_append, utf8Size_eq_one hlow]
    refine blockCommentBytes_cons ?_
    rw [byteOf_beq hlow (by decide), head?_utf8_beq (by decide), hend]
  · rw [blockCommentBytes_append fun b => le_of_mem_utf8EncodeChar (Nat.le_of_not_lt hlow),
      String.length_utf8EncodeChar]

theorem blockCommentBytes_utf8 (count k : Nat) (cs : List Char) :
    blockCommentBytes k (utf8 cs)
      = k + byteLength (cs.take (blockCommentLength count cs - count)) := by
  fun_induction blockCommentLength count cs generalizing k with
  | case1 count => rw [List.take_nil]; rfl
  | case2 count cs =>
    rw [Nat.add_sub_cancel_left]
    rfl
  | case3 count c cs hend ih =>
    have hle := le_blockCommentLength (count + 1) cs
    have hnot : (c == '*' && cs.head? == some '/') = false := by
      refine Bool.eq_false_iff.mpr fun h => ?_
      rw [Bool.and_eq_true, beq_iff_eq, beq_iff_eq, List.head?_eq_some_iff] at h
      obtain ⟨rfl, rest, rfl⟩ := h
      exact hend rest rfl rfl
    rw [utf8_cons, blockCommentBytes_char hnot, ih,
      show blockCommentLength (count + 1) cs - count
        = blockCommentLength (count + 1) cs - (count + 1) + 1 by omega,
      List.take_succ_cons, byteLength_cons, Nat.add_assoc]

theorem takeWhile_utf8 (hd : d.toNat < 128) (cs : List Char) :
    (utf8 cs).takeWhile (· != byteOf d) = utf8 (cs.takeWhile (· != d)) := by
  induction cs with
  | nil => rfl
  | cons c cs ih =>
    by_cases hc : c = d
    · subst hc
      rw [utf8_cons, utf8EncodeChar_eq_byteOf hd, List.singleton_append,
        List.takeWhile_cons_of_neg (by simp), List.takeWhile_cons_of_neg (by simp)]
      rfl
    · have hne : ∀ b ∈ String.utf8EncodeChar c, (b != byteOf d) = true := fun b hb =>
        bne_iff_ne.mpr (ne_byteOf_of_mem hd hc hb)
      have hpos : (c != d) = true := bne_iff_ne.mpr hc
      rw [utf8_cons, List.takeWhile_append_of_pos hne, ih, List.takeWhile_cons, if_pos hpos,
        utf8_cons]

/-- A literal or comment covers the bytes of the characters that it covers. -/
theorem coveredBytes?_utf8 (hc : c.toNat < 128) (cs : List Char) :
    coveredBytes? (byteOf c) (utf8 cs)
      = (coveredLength? c cs).map fun m => byteLength (cs.take m) := by
  rw [coveredBytes?, byteOf_beq hc (by decide), byteOf_beq hc (by decide),
    byteOf_beq hc (by decide), byteOf_beq hc (by decide), head?_utf8_beq (by decide),
    head?_utf8_beq (by decide)]
  split
  next hquote =>
    rw [coveredLength?_of_quote hquote, quotedBytes?_utf8 hc 0]
    simp only [Nat.zero_add, Nat.sub_zero]
  next hquote =>
    by_cases hslash : c = '/'
    · subst hslash
      rw [if_pos (beq_self_eq_true _)]
      split
      next hline =>
        obtain ⟨rest, rfl⟩ := List.head?_eq_some_iff.mp (beq_iff_eq.mp hline)
        rw [coveredLength?_line, Option.map_some, takeWhile_utf8 (by decide), length_utf8,
          ← List.prefix_iff_eq_take.mp (List.takeWhile_prefix _)]
      next hline =>
        split
        next hblock =>
          obtain ⟨inner, rfl⟩ := List.head?_eq_some_iff.mp (beq_iff_eq.mp hblock)
          have hle := le_blockCommentLength 1 inner
          rw [coveredLength?_block, Option.map_some, utf8_cons,
            utf8EncodeChar_eq_byteOf (by decide), List.singleton_append, List.tail_cons,
            blockCommentBytes_utf8 1 1,
            show blockCommentLength 1 inner = blockCommentLength 1 inner - 1 + 1 by omega,
            List.take_succ_cons, byteLength_cons]
          rfl
        next hblock =>
          rw [coveredLength?_eq_none hquote fun _ => ⟨by simpa using hline, by simpa using hblock⟩]
          rfl
    · rw [coveredLength?_eq_none hquote fun h => absurd h hslash, if_neg (by simpa using hslash)]
      rfl

theorem coveredBytes?_of_le (hb : 128 ≤ b.toNat) (bs : List UInt8) : coveredBytes? b bs = none := by
  rw [coveredBytes?, beq_byteOf_of_le hb (by decide), beq_byteOf_of_le hb (by decide),
    beq_byteOf_of_le hb (by decide), beq_byteOf_of_le hb (by decide)]
  rfl

theorem coveredLength?_of_le (hc : 128 ≤ c.toNat) (cs : List Char) :
    coveredLength? c cs = none := by
  refine coveredLength?_eq_none ?_ ?_
  · rw [beq_of_le hc (by decide), beq_of_le hc (by decide), beq_of_le hc (by decide)]
    decide
  · rintro rfl
    exact absurd hc (by decide)

/-! ### The bytes of the code -/

/-- Bytes with their offsets, the first at `start`. -/
def placeBytes (start : Nat) : List UInt8 → List (Nat × UInt8)
  | [] => []
  | b :: bs => (start, b) :: placeBytes (start + 1) bs

theorem codeBytesFrom_skip (covered : List UInt8) (skip start : Nat) (bs : List UInt8) :
    codeBytesFrom (covered.length + skip) start (covered ++ bs)
      = codeBytesFrom skip (start + covered.length) bs := by
  induction covered generalizing start with
  | nil => rw [List.length_nil, Nat.zero_add]; rfl
  | cons b covered ih =>
    rw [List.length_cons, Nat.add_right_comm, List.cons_append, codeBytesFrom, ih, Nat.add_assoc,
      Nat.add_comm 1]

theorem codeBytesFrom_append (hhigh : ∀ b ∈ high, 128 ≤ b.toNat) (start : Nat) :
    codeBytesFrom 0 start (high ++ bs)
      = placeBytes start high ++ codeBytesFrom 0 (start + high.length) bs := by
  induction high generalizing start with
  | nil => rfl
  | cons b high ih =>
    obtain ⟨hb, hhigh⟩ := List.forall_mem_cons.mp hhigh
    rw [List.cons_append, codeBytesFrom, coveredBytes?_of_le hb]
    simp only [ih hhigh, placeBytes, List.cons_append, List.length_cons, Nat.add_assoc,
      Nat.add_comm 1]

/-- The scan of the bytes gives the bytes of the characters that the scan of the text gives. -/
theorem codeBytesFrom_utf8 (skip start : Nat) (cs : List Char) :
    codeBytesFrom (byteLength (cs.take skip)) start (utf8 cs)
      = (codeFrom (fun _ => true) skip start cs).flatMap fun mark =>
          placeBytes mark.1 (String.utf8EncodeChar mark.2) := by
  induction cs generalizing skip start with
  | nil => rw [List.take_nil]; rfl
  | cons c cs ih =>
    cases skip with
    | succ rest =>
      rw [List.take_succ_cons, byteLength_cons, utf8_cons, codeFrom_succ, ← ih,
        ← String.length_utf8EncodeChar, codeBytesFrom_skip]
    | zero =>
      rw [List.take_zero, byteLength_nil, utf8_cons]
      by_cases hlow : c.toNat < 128
      · have hcovered := coveredBytes?_utf8 hlow cs
        rw [utf8EncodeChar_eq_byteOf hlow, List.singleton_append, codeBytesFrom]
        cases hc : coveredLength? c cs with
        | some covered =>
          rw [hc, Option.map_some] at hcovered
          rw [codeFrom_of_covered hc, ← ih, utf8Size_eq_one hlow]
          simp only [hcovered]
        | none =>
          rw [hc, Option.map_none] at hcovered
          rw [codeFrom_of_not_covered hc, if_pos rfl, List.flatMap_cons, ← ih,
            utf8EncodeChar_eq_byteOf hlow, utf8Size_eq_one hlow, List.take_zero, byteLength_nil]
          simp only [hcovered]
          rfl
      · have hhigh := Nat.le_of_not_lt hlow
        rw [codeBytesFrom_append fun b => le_of_mem_utf8EncodeChar hhigh,
          codeFrom_of_not_covered (coveredLength?_of_le hhigh cs), if_pos rfl, List.flatMap_cons,
          ← ih, String.length_utf8EncodeChar, List.take_zero, byteLength_nil]

/-! ### The braces of a body -/

theorem openingByte?_append (hother : ∀ b ∈ high, b ≠ byteOf '\x7b' ∧ b ≠ byteOf ';')
    (start : Nat) : openingByte? start (high ++ bs) = openingByte? (start + high.length) bs := by
  induction high generalizing start with
  | nil => rfl
  | cons b high ih =>
    obtain ⟨⟨hbrace, hsemicolon⟩, hother⟩ := List.forall_mem_cons.mp hother
    rw [List.cons_append, openingByte?, if_neg (by simpa using hbrace),
      if_neg (by simpa using hsemicolon), ih hother, List.length_cons, Nat.add_assoc,
      Nat.add_comm 1]

theorem openingByte?_utf8 (start : Nat) (cs : List Char) :
    openingByte? start (utf8 cs)
      = (openingBrace? start cs).map fun found => (found.1, utf8 found.2) := by
  fun_induction openingBrace? start cs with
  | case1 => rfl
  | case2 start c cs hbrace =>
    obtain rfl := beq_iff_eq.mp hbrace
    rfl
  | case3 start c cs hbrace hsemicolon =>
    obtain rfl := beq_iff_eq.mp hsemicolon
    rfl
  | case4 start c cs hbrace hsemicolon ih =>
    rw [← ih, utf8_cons, openingByte?_append, String.length_utf8EncodeChar]
    exact fun b hb => ⟨ne_byteOf_of_mem (by decide) (by simpa using hbrace) hb,
      ne_byteOf_of_mem (by decide) (by simpa using hsemicolon) hb⟩

theorem closingByte?_append {others : List (Nat × UInt8)} (depth : Nat)
    (hother : ∀ b ∈ high, b ≠ byteOf '\x7b' ∧ b ≠ byteOf '\x7d') (start : Nat) :
    closingByte? depth (placeBytes start high ++ others) = closingByte? depth others := by
  induction high generalizing start with
  | nil => rfl
  | cons b high ih =>
    obtain ⟨⟨hopening, hclosing⟩, hother⟩ := List.forall_mem_cons.mp hother
    rw [placeBytes, List.cons_append, closingByte?, if_neg (by simpa using hopening),
      if_neg (by simpa using hclosing), ih hother]

theorem closingByte?_flatMap (depth : Nat) (marks : List (Nat × Char)) :
    closingByte? depth (marks.flatMap fun mark => placeBytes mark.1 (String.utf8EncodeChar mark.2))
      = closingBrace? depth marks := by
  fun_induction closingBrace? depth marks with
  | case1 => rfl
  | case2 depth offset c marks hopening ih =>
    obtain rfl := beq_iff_eq.mp hopening
    rw [← ih]
    rfl
  | case3 depth offset c marks hopening hclosing hdepth =>
    obtain rfl := beq_iff_eq.mp hclosing
    exact if_pos hdepth
  | case4 depth offset c marks hopening hclosing hdepth ih =>
    obtain rfl := beq_iff_eq.mp hclosing
    rw [← ih]
    exact if_neg hdepth
  | case5 depth offset c marks hopening hclosing ih =>
    rw [← ih, List.flatMap_cons, closingByte?_append]
    exact fun b hb => ⟨ne_byteOf_of_mem (by decide) (by simpa using hopening) hb,
      ne_byteOf_of_mem (by decide) (by simpa using hclosing) hb⟩

/-- An offset may fall into a character, but then no byte of that one is a brace. -/
theorem openingByte?_drop (start offset : Nat) (cs : List Char) :
    openingByte? (start + min offset (utf8 cs).length) ((utf8 cs).drop offset)
      = (openingBrace? (start + byteLength (takeBytes offset cs)) (dropBytes offset cs)).map
          fun found => (found.1, utf8 found.2) := by
  induction cs generalizing start offset with
  | nil => rw [utf8_nil, List.drop_nil]; rfl
  | cons c cs ih =>
    rw [takeBytes_cons, dropBytes_cons, utf8_cons, List.length_append, List.drop_append,
      String.length_utf8EncodeChar]
    by_cases hfits : c.utf8Size ≤ offset
    · rw [if_pos hfits, if_pos hfits, byteLength_cons, ← Nat.add_assoc, ← ih,
        List.drop_eq_nil_of_le (by rwa [String.length_utf8EncodeChar]), List.nil_append]
      congr 1
      omega
    · rw [if_neg hfits, if_neg hfits, byteLength_nil, Nat.add_zero,
        show offset - c.utf8Size = 0 by omega, List.drop_zero, Nat.min_eq_left (by omega)]
      cases offset with
      | zero => exact openingByte?_utf8 start (c :: cs)
      | succ offset =>
        have hhigh : 128 ≤ c.toNat := by
          refine Nat.le_of_not_lt fun hlow => ?_
          rw [utf8Size_eq_one hlow] at hfits
          omega
        have hother : ∀ d : Char, d.toNat < 128 → c ≠ d := fun d hd =>
          beq_eq_false_iff_ne.mp (beq_of_le hhigh hd)
        rw [openingByte?_append fun b hb =>
            ⟨ne_byteOf_of_mem (by decide) (hother _ (by decide)) (List.mem_of_mem_drop hb),
              ne_byteOf_of_mem (by decide) (hother _ (by decide)) (List.mem_of_mem_drop hb)⟩,
          openingByte?_utf8, List.length_drop, String.length_utf8EncodeChar, openingBrace?,
          if_neg (by simpa using hother _ (by decide)),
          if_neg (by simpa using hother _ (by decide))]
        congr 2
        omega

/-- The braces of a body are those found among the bytes, wherever the search begins. -/
theorem braceBodyBytes?_utf8 (cs : List Char) (offset : Nat) :
    braceBodyBytes? (utf8 cs) offset = braceBody? cs offset := by
  have hopening := openingByte?_drop 0 offset cs
  rw [Nat.zero_add, Nat.zero_add] at hopening
  rw [braceBodyBytes?, braceBody?, hopening]
  cases openingBrace? (byteLength (takeBytes offset cs)) (dropBytes offset cs) with
  | none => rfl
  | some found =>
    have hcode := codeBytesFrom_utf8 0 found.1 found.2
    rw [List.take_zero, byteLength_nil] at hcode
    simp only [Option.map_some, Option.bind_eq_bind, Option.bind_some, hcode, closingByte?_flatMap,
      length_utf8, codeFrom_eq_filter isMark, closingBrace?_filter]

end SourceRetrieval.Outline
