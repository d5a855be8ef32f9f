/-
Stretches of numbers and how they are joined.

* `Span.IsMaximal` — a stretch of numbers of some kind that no longer one contains;
* `AreApart.mem_iff` — stretches that do not touch are the maximal ones of the numbers they hold;
* `inSome_mergeSpans` and `areApart_mergeSpans` — stretches that are joined in the order in which
  they begin hold the same numbers as before, and do not touch.

Design notes: where a joined stretch ends is never computed.  Which numbers the stretches hold and
that they are apart says it all, and both pass through a step of the merge.
-/
import SourceRetrieval.Engine.Content

namespace SourceRetrieval

/-! ### Maximal stretches -/

/-- The number is one of the stretch. -/
def Span.Holds (s : Span) (line : Nat) : Prop := s.1 ≤ line ∧ line ≤ s.2

/-- A stretch of lines of which each satisfies `P`, and which is part of no longer one. -/
structure Span.IsMaximal (P : Nat → Prop) (s : Span) : Prop where
  ordered : s.1 ≤ s.2
  satisfies : ∀ line, s.Holds line → P line
  longest : ∀ t : Span, (∀ line, t.Holds line → P line) → t.1 ≤ s.1 → s.2 ≤ t.2 → t = s

/-- The line is one of some stretch. -/
def InSome (spans : List Span) (line : Nat) : Prop := ∃ s ∈ spans, s.Holds line

/-- Stretches in order, with a line between each and the next that is in neither. -/
structure AreApart (spans : List Span) : Prop where
  ordered : ∀ s ∈ spans, s.1 ≤ s.2
  apart : spans.Pairwise fun s t => s.2 + 1 < t.1

variable {spans : List Span} {s t : Span} {line : Nat}

theorem inSome_cons : InSome (s :: spans) line ↔ s.Holds line ∨ InSome spans line := by
  simp only [InSome, List.mem_cons, exists_eq_or_imp]

theorem AreApart.eq_or (h : AreApart spans) (hs : s ∈ spans) (ht : t ∈ spans) :
    s = t ∨ s.2 + 1 < t.1 ∨ t.2 + 1 < s.1 := by
  by_cases heq : s = t
  · exact .inl heq
  · obtain ⟨i, hi, rfl⟩ := List.getElem_of_mem hs
    obtain ⟨j, hj, rfl⟩ := List.getElem_of_mem ht
    have hpairs := List.pairwise_iff_getElem.mp h.apart
    rcases Nat.lt_trichotomy i j with hij | rfl | hij
    · exact .inr (.inl (hpairs i j hi hj hij))
    · exact absurd rfl heq
    · exact .inr (.inr (hpairs j i hj hi hij))

/-- Stretches that do not touch are the maximal ones of the lines they hold. -/
theorem AreApart.mem_iff (h : AreApart spans) : s ∈ spans ↔ s.IsMaximal (InSome spans) := by
  constructor
  · intro hs
    have hordered := h.ordered s hs
    refine ⟨hordered, fun line hline => ⟨s, hs, hline⟩, fun t ht hfirst hlast => ?_⟩
    -- The lines right before and after a stretch are in no other one.
    have hbefore : ¬t.1 < s.1 := by
      intro hlt
      obtain ⟨u, hu, hline⟩ := ht (s.1 - 1) ⟨by omega, by omega⟩
      obtain ⟨hline, hline'⟩ := hline
      have hu' := h.ordered u hu
      rcases h.eq_or hs hu with rfl | happart | happart <;> omega
    have hafter : ¬s.2 < t.2 := by
      intro hlt
      obtain ⟨u, hu, hline⟩ := ht (s.2 + 1) ⟨by omega, by omega⟩
      obtain ⟨hline, hline'⟩ := hline
      have hu' := h.ordered u hu
      rcases h.eq_or hs hu with rfl | happart | happart <;> omega
    exact Prod.ext (by omega) (by omega)
  · rintro ⟨hordered, hsatisfies, hlongest⟩
    obtain ⟨u, hu, hfirst⟩ := hsatisfies s.1 ⟨Nat.le_refl _, hordered⟩
    obtain ⟨hfirst, hfirst'⟩ := hfirst
    have hlast : s.2 ≤ u.2 := by
      refine Nat.le_of_not_lt fun hlt => ?_
      obtain ⟨v, hv, hline⟩ := hsatisfies (u.2 + 1) ⟨by omega, by omega⟩
      obtain ⟨hline, hline'⟩ := hline
      rcases h.eq_or hu hv with rfl | happart | happart <;> omega
    rw [← hlongest u (fun line hline => ⟨u, hu, hline⟩) hfirst hlast]
    exact hu

/-! ### Joining stretches -/

/-- A joined stretch begins where one of its parts does. -/
theorem exists_of_mem_mergeSpans (h : t ∈ mergeSpans spans) : ∃ s ∈ spans, s.1 = t.1 := by
  fun_induction mergeSpans spans with
  | case1 a b c d rest htouch ih =>
    obtain ⟨s, hs, hfirst⟩ := ih h
    rcases List.mem_cons.mp hs with rfl | hs
    · exact ⟨(a, b), List.mem_cons_self, hfirst⟩
    · exact ⟨s, List.mem_cons_of_mem _ (List.mem_cons_of_mem _ hs), hfirst⟩
  | case2 a b c d rest happart ih =>
    rcases List.mem_cons.mp h with rfl | h
    · exact ⟨(a, b), List.mem_cons_self, rfl⟩
    · obtain ⟨s, hs, hfirst⟩ := ih h
      exact ⟨s, List.mem_cons_of_mem _ hs, hfirst⟩
  | case3 spans hshort => exact ⟨t, h, rfl⟩

theorem ordered_of_mem_mergeSpans (hordered : ∀ s ∈ spans, s.1 ≤ s.2) (h : t ∈ mergeSpans spans) :
    t.1 ≤ t.2 := by
  fun_induction mergeSpans spans with
  | case1 a b c d rest htouch ih =>
    obtain ⟨hfirst, hlater⟩ := List.forall_mem_cons.mp hordered
    refine ih (List.forall_mem_cons.mpr ⟨?_, (List.forall_mem_cons.mp hlater).2⟩) h
    exact Nat.le_trans hfirst (Nat.le_max_left b d)
  | case2 a b c d rest happart ih =>
    obtain ⟨hfirst, hlater⟩ := List.forall_mem_cons.mp hordered
    rcases List.mem_cons.mp h with rfl | h
    · exact hfirst
    · exact ih hlater h
  | case3 spans hshort => exact hordered t h

/-- Two stretches joined begin where the first one did, so the order is kept. -/
theorem pairwise_cons_joined {a b c d last : Nat} {rest : List Span}
    (hsorted : ((a, b) :: (c, d) :: rest).Pairwise fun s t => s.1 ≤ t.1) :
    ((a, last) :: rest).Pairwise fun s t => s.1 ≤ t.1 := by
  obtain ⟨hle, hsorted⟩ := List.pairwise_cons.mp hsorted
  exact List.pairwise_cons.mpr ⟨fun s hs => hle s (List.mem_cons_of_mem _ hs), hsorted.of_cons⟩

theorem pairwise_mergeSpans (hsorted : spans.Pairwise fun s t => s.1 ≤ t.1) :
    (mergeSpans spans).Pairwise fun s t => s.1 ≤ t.1 ∧ s.2 + 1 < t.1 := by
  fun_induction mergeSpans spans with
  | case1 a b c d rest htouch ih => exact ih (pairwise_cons_joined hsorted)
  | case2 a b c d rest happart ih =>
    obtain ⟨hle, hsorted⟩ := List.pairwise_cons.mp hsorted
    refine List.pairwise_cons.mpr ⟨fun t ht => ?_, ih hsorted⟩
    obtain ⟨s, hs, hfirst⟩ := exists_of_mem_mergeSpans ht
    have hc : c ≤ s.1 := by
      rcases List.mem_cons.mp hs with rfl | hs
      · exact Nat.le_refl c
      · exact (List.pairwise_cons.mp hsorted).1 s hs
    have ha : a ≤ c := hle (c, d) List.mem_cons_self
    dsimp only
    omega
  | case3 spans hshort =>
    match spans, hshort with
    | [], _ => exact .nil
    | [s], _ => exact List.pairwise_singleton _ s
    | (a, b) :: (c, d) :: rest, hshort => exact absurd rfl (hshort a b c d rest)

/-- No number is lost or won where stretches are joined. -/
theorem inSome_mergeSpans (hsorted : spans.Pairwise fun s t => s.1 ≤ t.1) :
    InSome (mergeSpans spans) line ↔ InSome spans line := by
  fun_induction mergeSpans spans with
  | case1 a b c d rest htouch ih =>
    have hle : a ≤ c := (List.pairwise_cons.mp hsorted).1 (c, d) List.mem_cons_self
    rw [ih (pairwise_cons_joined hsorted), inSome_cons, inSome_cons, inSome_cons, ← or_assoc]
    -- As the second stretch begins at the latest right after the first, there is no gap.
    refine or_congr_left ?_
    simp only [Span.Holds]
    omega
  | case2 a b c d rest happart ih =>
    rw [inSome_cons, ih (List.pairwise_cons.mp hsorted).2, ← inSome_cons]
  | case3 spans hshort => exact Iff.rfl

theorem areApart_mergeSpans (hordered : ∀ s ∈ spans, s.1 ≤ s.2)
    (hsorted : spans.Pairwise fun s t => s.1 ≤ t.1) : AreApart (mergeSpans spans) :=
  ⟨fun _ => ordered_of_mem_mergeSpans hordered, (pairwise_mergeSpans hsorted).imp And.right⟩

end SourceRetrieval
