/-
Texts taken between two offsets that have to fall between characters.

* `slice` takes a text and fails if a bound is inside a character, past the end, or past the
  other one;
* `slice_eq_ok` — between boundaries in order it is what `cut` gives;
* `window_eq_ok` — a window that is moved back to a boundary can always be taken, and is the
  longest one that fits.

Design notes: `cut` rounds an offset inside a character down, so it cannot tell a bound that is
off a boundary.  A slice refuses such a bound, and gives what `cut` gives for all others.
-/
import SourceRetrieval.Proofs.Text.Offset

namespace SourceRetrieval.Text

variable {cs value : List Char} {start stop n : Nat}

/-! ### Boundaries -/

theorem onBoundary_iff : OnBoundary cs n ↔ ∃ front, front <+: cs ∧ n = byteLength front :=
  ⟨fun ⟨front, back, hcs, hn⟩ => ⟨front, ⟨back, hcs.symm⟩, hn⟩,
    fun ⟨front, ⟨back, hcs⟩, hn⟩ => ⟨front, back, hcs.symm, hn⟩⟩

theorem onBoundary_append (front back : List Char) :
    OnBoundary (front ++ back) (byteLength front) :=
  ⟨front, back, rfl, rfl⟩

theorem OnBoundary.append (h : OnBoundary cs n) (front : List Char) :
    OnBoundary (front ++ cs) (byteLength front + n) := by
  obtain ⟨before, after, rfl, rfl⟩ := h
  rw [← List.append_assoc, ← byteLength_append]
  exact onBoundary_append _ _

/-- Behind a character is a boundary. -/
theorem onBoundary_behind (front : List Char) (c : Char) (back : List Char) :
    OnBoundary (front ++ c :: back) (byteLength front + c.utf8Size) := by
  have hc : OnBoundary (c :: back) c.utf8Size := ⟨[c], back, rfl, by simp⟩
  exact hc.append front

theorem onBoundary_byteLength (cs : List Char) : OnBoundary cs (byteLength cs) :=
  ⟨cs, [], (List.append_nil cs).symm, rfl⟩

theorem OnBoundary.le (h : OnBoundary cs n) : n ≤ byteLength cs := by
  obtain ⟨front, back, rfl, rfl⟩ := h
  rw [byteLength_append]
  exact Nat.le_add_right _ _

/-- Between two boundaries stands a text. -/
theorem OnBoundary.exists_between (hstart : OnBoundary cs start) (hstop : OnBoundary cs stop)
    (hle : start ≤ stop) : ∃ before value after, cs = before ++ value ++ after
      ∧ start = byteLength before ∧ stop = byteLength before + byteLength value := by
  obtain ⟨before, hbefore, rfl⟩ := onBoundary_iff.mp hstart
  obtain ⟨front, hfront, rfl⟩ := onBoundary_iff.mp hstop
  obtain ⟨value, rfl⟩ := isPrefix_of_byteLength_le hbefore hfront hle
  obtain ⟨after, rfl⟩ := hfront
  exact ⟨before, value, after, rfl, rfl, byteLength_append _ _⟩

/-- Whether an offset falls between two characters, or at an end. -/
def isBoundary (cs : List Char) (n : Nat) : Bool := byteLength (takeBytes n cs) == n

theorem isBoundary_iff : isBoundary cs n = true ↔ OnBoundary cs n := by
  rw [isBoundary, beq_iff_eq]
  constructor
  · exact fun h => onBoundary_iff.mpr ⟨_, isPrefix_takeBytes n cs, h.symm⟩
  · rintro ⟨front, back, rfl, rfl⟩
    rw [takeBytes_append]

/-! ### Slices -/

/-- The bounds of a slice that cannot be taken. -/
structure Misplaced where
  start : Nat
  stop : Nat
  deriving DecidableEq, Repr

/-- The text between two offsets, which have to be boundaries in order. -/
def slice (cs : List Char) (start stop : Nat) : Except Misplaced (List Char) :=
  if start ≤ stop && isBoundary cs start && isBoundary cs stop then .ok (cut start stop cs)
  else .error ⟨start, stop⟩

theorem ok_bind {α β : Type} (value : α) (next : α → Except Misplaced β) :
    (Except.ok value >>= next) = next value := rfl

theorem slice_append (before value after : List Char) :
    slice (before ++ value ++ after) (byteLength before) (byteLength before + byteLength value)
      = .ok value := by
  have hstart : isBoundary (before ++ value ++ after) (byteLength before) = true := by
    rw [isBoundary_iff, List.append_assoc]
    exact onBoundary_append _ _
  have hstop : isBoundary (before ++ value ++ after) (byteLength before + byteLength value)
      = true := by
    rw [isBoundary_iff, ← byteLength_append]
    exact onBoundary_append _ _
  rw [slice, hstart, hstop, cut_append, if_pos (by simp)]

/-- Between boundaries in order a slice is what stands there. -/
theorem slice_eq_ok (hstart : OnBoundary cs start) (hstop : OnBoundary cs stop)
    (hle : start ≤ stop) : slice cs start stop = .ok (cut start stop cs) := by
  obtain ⟨before, middle, after, rfl, rfl, rfl⟩ := hstart.exists_between hstop hle
  rw [slice_append, cut_append]

/-- What stands behind a boundary. -/
theorem slice_to_end (h : OnBoundary cs n) :
    slice cs n (byteLength cs) = .ok (dropBytes n cs) := by
  obtain ⟨before, after, rfl, rfl⟩ := h
  have hslice := slice_append before after []
  rw [List.append_nil, ← byteLength_append] at hslice
  rw [hslice, dropBytes_append]

/-! ### Windows -/

/-- The last boundary from `start` to `stop`; `start` if there is none. -/
def boundaryDown (cs : List Char) (start : Nat) : Nat → Nat
  | 0 => 0
  | stop + 1 =>
    if start < stop + 1 && !isBoundary cs (stop + 1) then boundaryDown cs start stop else stop + 1

/-- A text of at most `max` bytes from `start` on and not past `stop`, which ends on a boundary. -/
def window (cs : List Char) (start stop max : Nat) : Except Misplaced (List Char) :=
  let last := boundaryDown cs start (min (min stop (start + max)) (byteLength cs))
  slice cs (min start last) last

/-- A longer beginning that fits is the longest one that fits. -/
theorem takeBytes_eq_of_le {m : Nat} (hle : n ≤ m) (h : byteLength (takeBytes m cs) ≤ n) :
    takeBytes n cs = takeBytes m cs := by
  have hlonger : takeBytes m cs <+: takeBytes n cs :=
    prefix_takeBytes_iff.mpr ⟨isPrefix_takeBytes m cs, h⟩
  have hshorter : takeBytes n cs <+: takeBytes m cs :=
    prefix_takeBytes_iff.mpr ⟨isPrefix_takeBytes n cs, Nat.le_trans (byteLength_takeBytes_le n cs) hle⟩
  exact hshorter.eq_of_length_le hlonger.length_le

theorem takeBytes_append_add (before after : List Char) (n : Nat) :
    takeBytes (byteLength before + n) (before ++ after) = before ++ takeBytes n after := by
  induction before with
  | nil => rw [byteLength_nil, Nat.zero_add, List.nil_append, List.nil_append]
  | cons c before ih =>
    rw [byteLength_cons, Nat.add_assoc, List.cons_append, takeBytes_cons, if_pos (by omega),
      Nat.add_sub_cancel_left, ih, List.cons_append]

theorem isBoundary_append_add (before after : List Char) (n : Nat) :
    isBoundary (before ++ after) (byteLength before + n) = isBoundary after n := by
  rw [isBoundary, isBoundary, takeBytes_append_add, byteLength_append, Bool.eq_iff_iff, beq_iff_eq,
    beq_iff_eq]
  omega

theorem boundaryDown_self (cs : List Char) (start : Nat) : boundaryDown cs start start = start := by
  cases start with
  | zero => rfl
  | succ start => rw [boundaryDown, if_neg (by simp)]

/-- From one boundary on, the last boundary is the end of the longest text that fits. -/
theorem boundaryDown_append (before after : List Char) (n : Nat) :
    boundaryDown (before ++ after) (byteLength before) (byteLength before + n)
      = byteLength before + byteLength (takeBytes n after) := by
  induction n with
  | zero =>
    have htake := byteLength_takeBytes_le 0 after
    rw [Nat.add_zero, boundaryDown_self]
    omega
  | succ n ih =>
    have hstep := isBoundary_append_add before after (n + 1)
    rw [← Nat.add_assoc] at hstep ⊢
    rw [boundaryDown, hstep]
    cases hboundary : isBoundary after (n + 1) with
    | true =>
      rw [if_neg (by simp), beq_iff_eq.mp hboundary, Nat.add_assoc]
    | false =>
      have hle := byteLength_takeBytes_le (n + 1) after
      have hne : byteLength (takeBytes (n + 1) after) ≠ n + 1 := beq_eq_false_iff_ne.mp hboundary
      have hsame : takeBytes n after = takeBytes (n + 1) after :=
        takeBytes_eq_of_le (Nat.le_succ n) (by omega)
      have hlt : byteLength before < byteLength before + n + 1 := by omega
      rw [if_pos (by rw [decide_eq_true hlt]; rfl), ih, hsame]

/-- A window that begins on a boundary can be taken, wherever it is to end: it is the longest text
that fits. -/
theorem window_eq_ok (hstart : OnBoundary cs start) (hle : start ≤ stop)
    (hstop : stop ≤ byteLength cs) (max : Nat) :
    window cs start stop max = .ok (cut start (min stop (start + max)) cs) := by
  obtain ⟨before, after, rfl, rfl⟩ := hstart
  obtain ⟨n, hn⟩ : ∃ n, min stop (byteLength before + max) = byteLength before + n :=
    ⟨min stop (byteLength before + max) - byteLength before, by omega⟩
  have hbound : min (min stop (byteLength before + max)) (byteLength (before ++ after))
      = byteLength before + n := by omega
  -- The text that fits ends on a boundary.
  obtain ⟨rest, hrest⟩ := isPrefix_takeBytes n after
  have hslice := slice_append before (takeBytes n after) rest
  rw [List.append_assoc, hrest] at hslice
  rw [window, hbound, boundaryDown_append, Nat.min_eq_left (Nat.le_add_right _ _), hslice, hn, cut,
    dropBytes_append, Nat.add_sub_cancel_left]

end SourceRetrieval.Text
