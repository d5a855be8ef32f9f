/-
Lists in order and lists without repetition.

* `rel_of_not_mem_take` — what is cut off a list in order stands behind what is kept;
* `pairwise_mergeSort_compare` and `mergeSort_compare_eq_of_perm` — sorting by a
  comparison puts a list in order, and in one way if only equal entries compare
  as equal;
* `mergeSort_compare_filter` — then to sort a part of a list is to sort the list and
  keep that part;
* `pairwise_lt_mergeSort` — entries with different keys are sorted strictly;
* `exists_split_of_nodup` — a list without the entry of a key is the list with that
  entry taken out;
* `perm_distinct` — the entries kept are the same whatever order a list is in;
* `distinct_append` — of two lists the entries of the first are kept, and then those of the
  second that are new;
* `countP_distinctFrom` — of the entries with one key the first is kept, if the key has not
  been seen;
* `pairwise_sortOn` and `filter_sortOn` — sorting by a number puts a list in the order of that
  number, and entries with the same number keep their order;
* `nodup_foldl_pushUnique` and `pairwise_foldl_pushUnique` — what is collected without repetition
  has none, and is in the order in which it comes first;
* `foldl_pushUnique_eq` — what is added to a collection are the entries that it does not have.
-/
import SourceRetrieval.Listing

namespace SourceRetrieval

variable {α : Type}

/-- Of a list in order an entry kept at the beginning stands before one that is cut off. -/
theorem rel_of_not_mem_take {R : α → α → Prop} {list : List α} (h : list.Pairwise R) {n : Nat}
    {kept omitted : α} (hkept : kept ∈ list.take n) (homitted : omitted ∈ list)
    (hout : omitted ∉ list.take n) : R kept omitted := by
  rw [← List.take_append_drop n list, List.pairwise_append] at h
  rw [← List.take_append_drop n list, List.mem_append] at homitted
  exact h.2.2 kept hkept omitted (homitted.resolve_left hout)

/-! ### Sorting by a comparison -/

section Sorting

variable {cmp : α → α → Ordering} [Std.TransCmp cmp]

theorem bne_gt_eq_isLE (o : Ordering) : (o != .gt) = o.isLE := by
  cases o <;> rfl

/-- Sorting by a comparison puts a list in order. -/
theorem pairwise_mergeSort_compare (list : List α) :
    (list.mergeSort fun a b => cmp a b != .gt).Pairwise fun a b => (cmp a b).isLE = true := by
  have htrans : ∀ a b c, (cmp a b != .gt) = true → (cmp b c != .gt) = true →
      (cmp a c != .gt) = true := by
    intro a b c hab hbc
    rw [bne_gt_eq_isLE] at hab hbc ⊢
    exact Std.TransCmp.isLE_trans hab hbc
  have htotal : ∀ a b, (cmp a b != .gt || cmp b a != .gt) = true := by
    intro a b
    rw [@Std.OrientedCmp.eq_swap _ cmp _ a b]
    cases cmp b a <;> rfl
  refine (List.pairwise_mergeSort htrans htotal list).imp fun h => ?_
  rwa [bne_gt_eq_isLE] at h

/-- A list of which only equal entries compare as equal is sorted in one way, whatever order it
comes in. -/
theorem mergeSort_compare_eq_of_perm {list list' : List α} (hperm : list'.Perm list)
    (heq : ∀ a ∈ list, ∀ b ∈ list, cmp a b = .eq → a = b) :
    (list'.mergeSort fun a b => cmp a b != .gt) = list.mergeSort fun a b => cmp a b != .gt := by
  have hsorted := List.mergeSort_perm list fun a b => cmp a b != .gt
  have hsorted' := List.mergeSort_perm list' fun a b => cmp a b != .gt
  refine List.Perm.eq_of_pairwise (fun a b ha hb hab hba => ?_) (pairwise_mergeSort_compare list')
    (pairwise_mergeSort_compare list) ((hsorted'.trans hperm).trans hsorted.symm)
  refine heq a (hperm.mem_iff.mp (hsorted'.mem_iff.mp ha)) b (hsorted.mem_iff.mp hb) ?_
  exact Std.OrientedCmp.isLE_antisymm hab hba

/-- To sort a part of a list of which only equal entries compare as equal is to sort the list and
keep that part. -/
theorem mergeSort_compare_filter {list : List α} (p : α → Bool)
    (heq : ∀ a ∈ list, ∀ b ∈ list, cmp a b = .eq → a = b) :
    ((list.filter p).mergeSort fun a b => cmp a b != .gt)
      = (list.mergeSort fun a b => cmp a b != .gt).filter p := by
  have hperm : ((list.mergeSort fun a b => cmp a b != .gt).filter p).Perm (list.filter p) :=
    (List.mergeSort_perm _ _).filter p
  have hsorted : ((list.mergeSort fun a b => cmp a b != .gt).filter p).Pairwise
      fun a b => (cmp a b).isLE = true := (pairwise_mergeSort_compare list).filter p
  rw [← mergeSort_compare_eq_of_perm hperm fun a ha b hb => heq a (List.mem_filter.mp ha).1 b
    (List.mem_filter.mp hb).1]
  exact List.mergeSort_of_pairwise (hsorted.imp fun h => by rwa [bne_gt_eq_isLE])

/-- Entries with different keys, of which only those with the same key compare as equal, are sorted
with each before those that follow. -/
theorem pairwise_lt_mergeSort {κ : Type} (key : α → κ)
    (hkey : ∀ a b, cmp a b = .eq → key a = key b) {list : List α} (h : (list.map key).Nodup) :
    (list.mergeSort fun a b => cmp a b != .gt).Pairwise fun a b => cmp a b = .lt := by
  have hsorted : (list.mergeSort fun a b => cmp a b != .gt).Pairwise
      fun a b => (cmp a b).isLE = true := pairwise_mergeSort_compare list
  have hne : (list.mergeSort fun a b => cmp a b != .gt).Pairwise fun a b => key a ≠ key b :=
    List.pairwise_map.mp ((((List.mergeSort_perm _ _).map key).nodup_iff).mpr h)
  refine (hsorted.and hne).imp ?_
  rintro a b ⟨hle, hne⟩
  rcases Ordering.isLE_iff_eq_lt_or_eq_eq.mp hle with hlt | heq
  · exact hlt
  · exact absurd (hkey a b heq) hne

end Sorting

/-! ### Entries with keys -/

/-- Of a list with different keys the entry of one key, if there is one, stands between those that
are left when it is taken out. -/
theorem exists_split_of_nodup {β : Type} [DecidableEq β] (key : α → β) (k : β) {list : List α}
    (h : (list.map key).Nodup) :
    ∃ front entry back, list = front ++ Option.toList entry ++ back
      ∧ (list.filter fun x => key x ≠ k) = front ++ back ∧ ∀ x ∈ entry, key x = k := by
  induction list with
  | nil => exact ⟨[], none, [], rfl, rfl, by nofun⟩
  | cons first rest ih =>
    obtain ⟨hfirst, hrest⟩ := List.nodup_cons.mp h
    by_cases hkey : key first = k
    · -- The key is that of the first entry, so all others stay.
      refine ⟨[], some first, rest, rfl, ?_, fun x hx => ?_⟩
      · rw [List.filter_cons_of_neg (by simpa using hkey), List.nil_append]
        refine List.filter_eq_self.mpr fun x hx => decide_eq_true fun hx' => hfirst ?_
        rw [hkey, ← hx']
        exact List.mem_map_of_mem hx
      · rw [← Option.some_inj.mp hx]
        exact hkey
    · obtain ⟨front, entry, back, hlist, hfilter, hentry⟩ := ih hrest
      refine ⟨first :: front, entry, back, by rw [hlist]; rfl, ?_, hentry⟩
      rw [List.filter_cons_of_pos (by simpa using hkey), hfilter]
      rfl

/-! ### Entries each kept once -/

section Distinct

variable [BEq α] [LawfulBEq α]

theorem mem_distinctFrom {seen list : List α} {x : α} :
    x ∈ distinctFrom id seen list ↔ x ∈ list ∧ x ∉ seen := by
  induction list generalizing seen with
  | nil => simp [distinctFrom]
  | cons y ys ih =>
    rw [distinctFrom]
    by_cases hy : y ∈ seen
    · rw [if_pos (by simpa using hy), ih, List.mem_cons]
      -- What is not among those seen is not `y`, which is.
      refine and_congr_left fun hx => (or_iff_right ?_).symm
      rintro rfl
      exact hx hy
    · rw [if_neg (by simpa using hy), List.mem_cons, List.mem_cons, ih, id, List.mem_cons, not_or]
      constructor
      · rintro (rfl | ⟨hx, -, hseen⟩)
        · exact ⟨.inl rfl, hy⟩
        · exact ⟨.inr hx, hseen⟩
      · rintro ⟨hx, hseen⟩
        by_cases hxy : x = y
        · exact .inl hxy
        · exact .inr ⟨hx.resolve_left hxy, hxy, hseen⟩

theorem nodup_distinctFrom (seen list : List α) : (distinctFrom id seen list).Nodup := by
  induction list generalizing seen with
  | nil => exact List.nodup_nil
  | cons y ys ih =>
    rw [distinctFrom]
    split
    · exact ih seen
    · refine List.nodup_cons.mpr ⟨fun hy => ?_, ih _⟩
      exact (mem_distinctFrom.mp hy).2 List.mem_cons_self

theorem mem_distinct {list : List α} {x : α} : x ∈ distinct list ↔ x ∈ list := by
  rw [distinct, distinctOn, mem_distinctFrom]
  exact and_iff_left List.not_mem_nil

/-- The entries kept of a list are the same whatever order it is in. -/
theorem perm_distinct {list list' : List α} (hperm : list'.Perm list) :
    (distinct list').Perm (distinct list) := by
  refine (List.perm_ext_iff_of_nodup (nodup_distinctFrom _ _) (nodup_distinctFrom _ _)).mpr ?_
  intro x
  rw [mem_distinctFrom, mem_distinctFrom, hperm.mem_iff]

end Distinct

/-- Only which keys have been seen matters. -/
theorem distinctFrom_congr {κ : Type} [BEq κ] [LawfulBEq κ] (key : α → κ) {seen seen' : List κ}
    (h : ∀ k, k ∈ seen ↔ k ∈ seen') (list : List α) :
    distinctFrom key seen list = distinctFrom key seen' list := by
  induction list generalizing seen seen' with
  | nil => rfl
  | cons x xs ih =>
    have hseen : seen.contains (key x) = seen'.contains (key x) := by
      rw [Bool.eq_iff_iff, List.contains_iff_mem, List.contains_iff_mem, h]
    have hcons : ∀ k, k ∈ key x :: seen ↔ k ∈ key x :: seen' := by
      intro k
      rw [List.mem_cons, List.mem_cons, h]
    rw [distinctFrom, distinctFrom, hseen, ih h, ih hcons]

/-- To leave out what has been seen is to keep each entry once and then leave it out. -/
theorem distinctFrom_eq_filter [BEq α] [LawfulBEq α] (seen list : List α) :
    distinctFrom id seen list = (distinct list).filter (!seen.contains ·) := by
  induction list generalizing seen with
  | nil => rfl
  | cons x list ih =>
    have hfirst : distinct (x :: list) = x :: (distinct list).filter (!List.contains [x] ·) := by
      rw [← ih]
      rfl
    rw [distinctFrom, hfirst, ih, ih]
    by_cases hx : seen.contains (id x) = true
    · have hmem : x ∈ seen := List.contains_iff_mem.mp hx
      rw [if_pos hx, List.filter_cons_of_neg (by simpa using hmem), List.filter_filter]
      refine List.filter_congr fun y _ => ?_
      -- What has not been seen is not `x`, which has.
      have hne : y ∉ seen → y ≠ x := fun hy heq => hy (heq ▸ hmem)
      by_cases hy : y ∈ seen
      · simp [hy]
      · simp [hy, hne hy]
    · have hmem : x ∉ seen := fun h => hx (List.contains_iff_mem.mpr h)
      rw [if_neg hx, List.filter_cons_of_pos (by simpa using hmem), List.filter_filter]
      refine congrArg (x :: ·) (List.filter_congr fun y _ => ?_)
      by_cases hy : y ∈ seen <;> simp [hy]

/-- Of the entries with one key the first is kept, if the key has not been seen. -/
theorem countP_distinctFrom {κ : Type} [BEq κ] [LawfulBEq κ] (key : α → κ) (k : κ)
    (seen : List κ) (list : List α) :
    (distinctFrom key seen list).countP (key · == k)
      = if seen.contains k then 0 else min 1 (list.countP (key · == k)) := by
  induction list generalizing seen with
  | nil => simp [distinctFrom]
  | cons x xs ih =>
    rw [distinctFrom, List.countP_cons]
    by_cases hk : key x = k
    · rw [if_pos (beq_iff_eq.mpr hk), hk]
      by_cases hseen : seen.contains k = true
      · rw [if_pos hseen, if_pos hseen, ih, if_pos hseen]
      · -- This is the first entry of the key, and no other one is kept.
        rw [if_neg hseen, if_neg hseen, List.countP_cons, if_pos (beq_iff_eq.mpr hk), ih,
          List.contains_cons, beq_self_eq_true, Bool.true_or, if_pos rfl]
        omega
    · rw [if_neg fun h => hk (beq_iff_eq.mp h), Nat.add_zero]
      by_cases hx : seen.contains (key x) = true
      · rw [if_pos hx, ih]
      · have hne : (k == key x) = false := beq_eq_false_iff_ne.mpr (Ne.symm hk)
        rw [if_neg hx, List.countP_cons, if_neg fun h => hk (beq_iff_eq.mp h), Nat.add_zero, ih,
          List.contains_cons, hne, Bool.false_or]

/-! ### Sorting by a number -/

theorem perm_sortOn (key : α → Nat) (list : List α) : (sortOn key list).Perm list :=
  List.mergeSort_perm _ _

theorem mem_sortOn {key : α → Nat} {list : List α} {x : α} : x ∈ sortOn key list ↔ x ∈ list :=
  (perm_sortOn key list).mem_iff

theorem key_le_trans (key : α → Nat) (a b c : α) (hab : decide (key a ≤ key b) = true)
    (hbc : decide (key b ≤ key c) = true) : decide (key a ≤ key c) = true := by
  rw [decide_eq_true_eq] at hab hbc ⊢
  omega

theorem key_le_total (key : α → Nat) (a b : α) :
    (decide (key a ≤ key b) || decide (key b ≤ key a)) = true := by
  rw [Bool.or_eq_true, decide_eq_true_eq, decide_eq_true_eq]
  omega

theorem pairwise_sortOn (key : α → Nat) (list : List α) :
    (sortOn key list).Pairwise fun a b => key a ≤ key b :=
  (List.pairwise_mergeSort (key_le_trans key) (key_le_total key) list).imp of_decide_eq_true

/-- Entries with the same number keep their order. -/
theorem filter_sortOn (key : α → Nat) (n : Nat) (list : List α) :
    (sortOn key list).filter (fun x => key x = n) = list.filter fun x => key x = n := by
  obtain ⟨part, hpart⟩ : ∃ part, part = list.filter fun x => key x = n := ⟨_, rfl⟩
  have hkey : ∀ x ∈ part, key x = n := by
    intro x hx
    rw [hpart] at hx
    exact of_decide_eq_true (List.mem_filter.mp hx).2
  have hequal : part.Pairwise fun a b => decide (key a ≤ key b) = true :=
    List.pairwise_of_forall_mem_list fun a ha b hb =>
      decide_eq_true (Nat.le_of_eq ((hkey a ha).trans (hkey b hb).symm))
  have hsorted : part.Sublist (sortOn key list) :=
    List.sublist_mergeSort (key_le_trans key) (key_le_total key) hequal
      (hpart ▸ List.filter_sublist)
  have hfilter := hsorted.filter fun x => key x = n
  rw [List.filter_eq_self.mpr fun x hx => decide_eq_true (hkey x hx)] at hfilter
  rw [← hpart]
  refine (hfilter.eq_of_length ?_).symm
  rw [hpart]
  exact (((perm_sortOn key list).filter _).length_eq).symm

/-! ### What comes first -/

/-- The list has `a`, and no `b` before it. -/
def ComesFirst (list : List α) (a b : α) : Prop :=
  ∃ front back, list = front ++ a :: back ∧ b ∉ front

theorem ComesFirst.append {list : List α} {a b : α} (h : ComesFirst list a b) (more : List α) :
    ComesFirst (list ++ more) a b := by
  obtain ⟨front, back, rfl, hb⟩ := h
  exact ⟨front, back ++ more, by rw [List.append_assoc, List.cons_append], hb⟩

theorem ComesFirst.antisymm {list : List α} {a b : α} (hab : ComesFirst list a b)
    (hba : ComesFirst list b a) : a = b := by
  obtain ⟨front, back, hlist, hb⟩ := hab
  obtain ⟨front', back', hlist', ha⟩ := hba
  -- Of the two beginnings the longer one holds what follows the shorter one.
  obtain ⟨between, rfl, heq⟩ | ⟨between, rfl, heq⟩ :=
    List.append_eq_append_iff.mp (hlist.symm.trans hlist')
  · cases between with
    | nil => exact (List.cons_eq_cons.mp heq).1
    | cons c between =>
      rw [(List.cons_eq_cons.mp heq).1] at ha
      exact absurd (List.mem_append_right _ List.mem_cons_self) ha
  · cases between with
    | nil => exact (List.cons_eq_cons.mp heq).1.symm
    | cons c between =>
      rw [(List.cons_eq_cons.mp heq).1] at hb
      exact absurd (List.mem_append_right _ List.mem_cons_self) hb

/-! ### Collecting without repetition -/

section Collecting

variable [BEq α] [LawfulBEq α]

theorem mem_pushUnique {list : List α} {x value : α} :
    x ∈ pushUnique list value ↔ x ∈ list ∨ x = value := by
  rw [pushUnique]
  by_cases hvalue : list.contains value = true
  · rw [if_pos hvalue]
    refine (or_iff_left_of_imp ?_).symm
    rintro rfl
    exact List.contains_iff_mem.mp hvalue
  · rw [if_neg hvalue, List.mem_append, List.mem_singleton]

theorem nodup_pushUnique {list : List α} (h : list.Nodup) (value : α) :
    (pushUnique list value).Nodup := by
  rw [pushUnique]
  by_cases hvalue : list.contains value = true
  · rwa [if_pos hvalue]
  · rw [if_neg hvalue]
    refine List.nodup_append.mpr ⟨h, by simp, fun x hx y hy hxy => hvalue ?_⟩
    rw [← List.mem_singleton.mp hy, ← hxy]
    exact List.contains_iff_mem.mpr hx

theorem mem_foldl_pushUnique {list values : List α} {x : α} :
    x ∈ values.foldl pushUnique list ↔ x ∈ list ∨ x ∈ values := by
  induction values generalizing list with
  | nil => simp
  | cons value values ih => rw [List.foldl_cons, ih, mem_pushUnique, List.mem_cons, or_assoc]

theorem nodup_foldl_pushUnique {list : List α} (h : list.Nodup) (values : List α) :
    (values.foldl pushUnique list).Nodup := by
  induction values generalizing list with
  | nil => exact h
  | cons value values ih => exact ih (nodup_pushUnique h value)

/-- What is added to a collection are the entries that it does not have, each where it stands
first. -/
theorem foldl_pushUnique_eq (list values : List α) :
    values.foldl pushUnique list = list ++ (distinct values).filter (!list.contains ·) := by
  rw [← distinctFrom_eq_filter]
  induction values generalizing list with
  | nil => exact (List.append_nil list).symm
  | cons value values ih =>
    rw [List.foldl_cons, ih, pushUnique, distinctFrom]
    by_cases hvalue : list.contains value = true
    · rw [if_pos hvalue, if_pos (show list.contains (id value) = true from hvalue)]
    · have hseen : ∀ x, x ∈ list ++ [value] ↔ x ∈ value :: list := by
        intro x
        rw [List.mem_append, List.mem_singleton, List.mem_cons]
        exact or_comm
      rw [if_neg hvalue, if_neg (show ¬list.contains (id value) = true from hvalue),
        distinctFrom_congr id hseen, List.append_assoc]
      rfl

/-- What is collected is in the order in which it comes first. -/
theorem pairwise_foldl_pushUnique {seen list : List α} (hseen : ∀ x, x ∈ list ↔ x ∈ seen)
    (h : list.Pairwise (ComesFirst seen)) (values : List α) :
    (values.foldl pushUnique list).Pairwise (ComesFirst (seen ++ values)) := by
  induction values generalizing seen list with
  | nil =>
    rw [List.append_nil]
    exact h
  | cons value values ih =>
    rw [List.foldl_cons, List.append_cons]
    refine ih (fun x => ?_) ?_
    · rw [mem_pushUnique, hseen, List.mem_append, List.mem_singleton]
    · have hlater : list.Pairwise (ComesFirst (seen ++ [value])) := h.imp fun hab => hab.append _
      rw [pushUnique]
      split
      · exact hlater
      next hvalue =>
        rw [List.contains_iff_mem] at hvalue
        refine List.pairwise_append.mpr ⟨hlater, List.pairwise_singleton _ _, fun a ha b hb => ?_⟩
        rw [List.mem_singleton.mp hb]
        obtain ⟨front, back, hsplit⟩ := List.append_of_mem ((hseen a).mp ha)
        refine ComesFirst.append ⟨front, back, hsplit, fun hfront => hvalue ?_⟩ _
        rw [hseen, hsplit]
        exact List.mem_append_left _ hfront

end Collecting

end SourceRetrieval
