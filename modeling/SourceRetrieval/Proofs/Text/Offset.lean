/-
Texts cut at byte offsets.

* `byteLength_append` and `byteLength_toList` — lengths add up, and are those of strings;
* `takeBytes_cons` and `takeBytes_append` — to cut a text where a part of it ends gives
  that part;
* `prefix_takeBytes_iff` — what is cut off the front is the longest beginning of a text
  that does not exceed the given number of bytes;
* `isPrefix_of_byteLength_le` — of two beginnings of a text the shorter one begins the other;
* `le_or_of_dropBytes` — what is left begins at the given offset or with the character around
  it.
-/
import SourceRetrieval.Text.Offset

namespace SourceRetrieval.Text

variable {before middle after cs : List Char} {n : Nat}

/-! ### Lengths -/

@[simp] theorem byteLength_nil : byteLength [] = 0 := rfl

theorem foldl_utf8Size (n : Nat) (cs : List Char) :
    cs.foldl (fun n c => n + c.utf8Size) n = n + byteLength cs := by
  induction cs generalizing n with
  | nil => rfl
  | cons c cs ih =>
    have hcs : byteLength (c :: cs) = 0 + c.utf8Size + byteLength cs := ih (0 + c.utf8Size)
    rw [List.foldl_cons, ih, hcs]
    omega

@[simp] theorem byteLength_cons (c : Char) (cs : List Char) :
    byteLength (c :: cs) = c.utf8Size + byteLength cs := by
  have hcs : byteLength (c :: cs) = 0 + c.utf8Size + byteLength cs := foldl_utf8Size _ cs
  omega

@[simp] theorem byteLength_append (before after : List Char) :
    byteLength (before ++ after) = byteLength before + byteLength after := by
  induction before with
  | nil => simp
  | cons c before ih =>
    rw [List.cons_append, byteLength_cons, byteLength_cons, ih]
    omega

theorem length_le_byteLength (cs : List Char) : cs.length ≤ byteLength cs := by
  induction cs with
  | nil => exact Nat.le_refl 0
  | cons c cs ih =>
    have hsize := c.utf8Size_pos
    rw [List.length_cons, byteLength_cons]
    omega

theorem byteLength_eq_zero_iff : byteLength cs = 0 ↔ cs = [] := by
  cases cs with
  | nil => simp
  | cons c cs =>
    have hc := c.utf8Size_pos
    rw [byteLength_cons]
    constructor
    · omega
    · nofun

theorem byteLength_toList (text : String) : byteLength text.toList = text.utf8ByteSize := by
  induction text using String.push_induction with
  | empty => rfl
  | push text c ih => simp [ih]

theorem fitting_eq (count budget : Nat) (cs : List Char) :
    fitting count budget cs = count + fitting 0 budget cs := by
  induction cs generalizing count budget with
  | nil => rfl
  | cons c cs ih =>
    rw [fitting, fitting]
    split
    · rw [ih (count + 1), ih (0 + 1)]
      omega
    · rfl

theorem takeBytes_cons (n : Nat) (c : Char) (cs : List Char) :
    takeBytes n (c :: cs)
      = if c.utf8Size ≤ n then c :: takeBytes (n - c.utf8Size) cs else [] := by
  rw [takeBytes, fitting]
  split
  · rw [fitting_eq, Nat.zero_add, Nat.add_comm, List.take_succ_cons]
    rfl
  · rfl

theorem dropBytes_cons (n : Nat) (c : Char) (cs : List Char) :
    dropBytes n (c :: cs) = if c.utf8Size ≤ n then dropBytes (n - c.utf8Size) cs else c :: cs := by
  have hcs := takeBytes_append_dropBytes n (c :: cs)
  rw [takeBytes_cons] at hcs
  split
  next hfits =>
    rw [if_pos hfits] at hcs
    have hrest := congrArg (c :: ·) (takeBytes_append_dropBytes (n - c.utf8Size) cs)
    exact List.append_cancel_left (hcs.trans hrest.symm)
  next hfits => rwa [if_neg hfits] at hcs

theorem takeBytes_append (before after : List Char) :
    takeBytes (byteLength before) (before ++ after) = before := by
  induction before with
  | nil =>
    cases after with
    | nil => rfl
    | cons c after =>
      have hc := c.utf8Size_pos
      rw [List.nil_append, takeBytes_cons, if_neg (by rw [byteLength_nil]; omega)]
  | cons c before ih =>
    rw [List.cons_append, takeBytes_cons, byteLength_cons, if_pos (by omega), Nat.add_sub_cancel_left,
      ih]

theorem dropBytes_append (before after : List Char) :
    dropBytes (byteLength before) (before ++ after) = after := by
  have hsplit := takeBytes_append_dropBytes (byteLength before) (before ++ after)
  rw [takeBytes_append] at hsplit
  exact List.append_cancel_left hsplit

theorem cut_append (before middle after : List Char) :
    cut (byteLength before) (byteLength before + byteLength middle) (before ++ middle ++ after)
      = middle := by
  rw [cut, List.append_assoc, dropBytes_append, Nat.add_sub_cancel_left, takeBytes_append]

theorem byteLength_takeBytes_le (n : Nat) (cs : List Char) : byteLength (takeBytes n cs) ≤ n := by
  induction cs generalizing n with
  | nil => exact Nat.zero_le n
  | cons c cs ih =>
    rw [takeBytes_cons]
    split
    next hfits =>
      have hrest := ih (n - c.utf8Size)
      rw [byteLength_cons]
      omega
    · exact Nat.zero_le n

theorem prefix_takeBytes_iff :
    before <+: takeBytes n cs ↔ before <+: cs ∧ byteLength before ≤ n := by
  constructor
  · rintro ⟨rest, hrest⟩
    have hle := byteLength_takeBytes_le n cs
    rw [← hrest, byteLength_append] at hle
    exact ⟨List.IsPrefix.trans ⟨rest, hrest⟩ (List.take_prefix _ _), by omega⟩
  · rintro ⟨⟨rest, rfl⟩, hle⟩
    induction before generalizing n with
    | nil => exact List.nil_prefix
    | cons c before ih =>
      rw [byteLength_cons] at hle
      rw [List.cons_append, takeBytes_cons, if_pos (by omega), List.cons_prefix_cons]
      exact ⟨rfl, ih (by omega)⟩

theorem isPrefix_of_byteLength_le (hbefore : before <+: cs) (hmiddle : middle <+: cs)
    (hle : byteLength before ≤ byteLength middle) : before <+: middle := by
  obtain h | ⟨rest, hrest⟩ := List.prefix_or_prefix_of_prefix hbefore hmiddle
  · exact h
  · rw [← hrest, byteLength_append] at hle
    obtain rfl : rest = [] := byteLength_eq_zero_iff.mp (by omega)
    rw [List.append_nil] at hrest
    exact hrest ▸ List.prefix_rfl

theorem isPrefix_takeBytes (n : Nat) (cs : List Char) : takeBytes n cs <+: cs :=
  List.take_prefix _ _

theorem le_or_of_dropBytes {c : Char} (h : dropBytes n cs = before ++ c :: after) :
    n ≤ byteLength (takeBytes n cs) + byteLength before ∨ 1 < c.utf8Size := by
  have hne : before ++ c :: after ≠ [] :=
    List.append_ne_nil_of_right_ne_nil before (List.cons_ne_nil c after)
  obtain ⟨d, rest, hdrop⟩ := List.exists_cons_of_ne_nil hne
  -- One character more would not have fitted.
  have hlt : n < byteLength (takeBytes n cs) + d.utf8Size := by
    refine Nat.lt_of_not_le fun hle => ?_
    have hfits : takeBytes n cs ++ [d] <+: takeBytes n cs := by
      refine prefix_takeBytes_iff.mpr ⟨⟨rest, ?_⟩, by rw [byteLength_append]; simpa using hle⟩
      rw [List.append_assoc, List.singleton_append, ← hdrop, ← h, takeBytes_append_dropBytes]
    have hlength := hfits.length_le
    rw [List.length_append, List.length_singleton] at hlength
    omega
  cases before with
  | nil =>
    obtain ⟨rfl, -⟩ := List.cons_eq_cons.mp hdrop
    rw [byteLength_nil]
    omega
  | cons b before =>
    obtain ⟨rfl, -⟩ := List.cons_eq_cons.mp hdrop
    rw [byteLength_cons]
    exact .inl (by omega)

end SourceRetrieval.Text
