/-
Occurrences stand where the scans say they do.

* `firstOccurrence?_eq_some_iff` — the first occurrence is where a text stands and stands nowhere
  before;
* `standsAt_of_mem_occurrences` — an offset at which a text was found is one at which it
  stands;
* `pairwise_occurrences` and `apart_occurrences` — the offsets come in increasing order, and no
  occurrence overlaps the next one;
* `exists_occurrence_covering` — wherever a text stands, the scan has found it or an
  occurrence that reaches into this one;
* `sublist_wordOccurrences` — whole words are found among the occurrences;
* `standsAt_lower` — an offset into the lower-case form of a text is one into the text.

Design notes: a scan starts at any offset and with any number of characters still covered,
so that the induction on the text passes through the characters of an occurrence.
-/
import SourceRetrieval.Proofs.Text.Offset
import SourceRetrieval.Query.Words
import SourceRetrieval.Text.Find

namespace SourceRetrieval.Text

variable {needle cs : List Char} {skip start offset : Nat}

/-- A text stands in another one at an offset. -/
def StandsAt (needle cs : List Char) (offset : Nat) : Prop :=
  ∃ before after, cs = before ++ needle ++ after ∧ offset = byteLength before

/-- A text stands in another one at an offset and nowhere before. -/
def StandsFirstAt (needle cs : List Char) (offset : Nat) : Prop :=
  StandsAt needle cs offset ∧ ∀ earlier < offset, ¬StandsAt needle cs earlier

/-! ### The first occurrence -/

theorem standsAt_nil : StandsAt needle [] offset ↔ offset = 0 ∧ needle = [] := by
  constructor
  · rintro ⟨before, after, heq, rfl⟩
    obtain ⟨hfront, -⟩ := List.append_eq_nil_iff.mp heq.symm
    obtain ⟨rfl, rfl⟩ := List.append_eq_nil_iff.mp hfront
    exact ⟨rfl, rfl⟩
  · rintro ⟨rfl, rfl⟩
    exact ⟨[], [], rfl, rfl⟩

/-- A text stands at the beginning, or behind the first character. -/
theorem standsAt_cons {c : Char} : StandsAt needle (c :: cs) offset ↔
    offset = 0 ∧ needle <+: c :: cs ∨ ∃ n, offset = c.utf8Size + n ∧ StandsAt needle cs n := by
  constructor
  · rintro ⟨before, after, heq, rfl⟩
    cases before with
    | nil => exact .inl ⟨rfl, ⟨after, heq.symm⟩⟩
    | cons d before =>
      obtain ⟨rfl, rfl⟩ := List.cons_eq_cons.mp heq
      exact .inr ⟨byteLength before, byteLength_cons _ _, before, after, rfl, rfl⟩
  · rintro (⟨rfl, after, heq⟩ | ⟨n, rfl, before, after, rfl, rfl⟩)
    · exact ⟨[], after, heq.symm, rfl⟩
    · exact ⟨c :: before, after, rfl, (byteLength_cons _ _).symm⟩

/-- Neither of two first places is before the other. -/
theorem StandsFirstAt.unique {other : Nat} (h : StandsFirstAt needle cs offset)
    (h' : StandsFirstAt needle cs other) : offset = other := by
  have hle : ¬offset < other := fun hlt => h'.2 offset hlt h.1
  have hge : ¬other < offset := fun hlt => h.2 other hlt h'.1
  omega

/-- The search for a text finds the first place where it stands, if there is any. -/
theorem firstOccurrence?_spec (needle : List Char) (start : Nat) (cs : List Char) :
    match firstOccurrence? needle start cs with
    | some found => ∃ offset, found = start + offset ∧ StandsFirstAt needle cs offset
    | none => ∀ offset, ¬StandsAt needle cs offset := by
  induction cs generalizing start with
  | nil =>
    rw [firstOccurrence?]
    cases needle with
    | nil => exact ⟨0, rfl, standsAt_nil.mpr ⟨rfl, rfl⟩, by nofun⟩
    | cons d needle => exact fun offset h => absurd (standsAt_nil.mp h).2 (List.cons_ne_nil _ _)
  | cons c cs ih =>
    rw [firstOccurrence?]
    by_cases hprefix : needle.isPrefixOf (c :: cs) = true
    · rw [if_pos hprefix]
      exact ⟨0, rfl, standsAt_cons.mpr (.inl ⟨rfl, List.isPrefixOf_iff_prefix.mp hprefix⟩), by nofun⟩
    · have hfront : ¬needle <+: c :: cs := fun h => hprefix (List.isPrefixOf_iff_prefix.mpr h)
      have hlater := ih (start + c.utf8Size)
      rw [if_neg hprefix]
      cases hfound : firstOccurrence? needle (start + c.utf8Size) cs with
      | none =>
        rw [hfound] at hlater
        intro offset h
        obtain ⟨-, hbegins⟩ | ⟨n, -, hn⟩ := standsAt_cons.mp h
        · exact hfront hbegins
        · exact hlater n hn
      | some found =>
        rw [hfound] at hlater
        obtain ⟨n, rfl, hn, hfirst⟩ := hlater
        refine ⟨c.utf8Size + n, Nat.add_assoc _ _ _, standsAt_cons.mpr (.inr ⟨n, rfl, hn⟩), ?_⟩
        intro earlier hlt h
        obtain ⟨-, hbegins⟩ | ⟨m, rfl, hm⟩ := standsAt_cons.mp h
        · exact hfront hbegins
        · exact hfirst m (by omega) hm

theorem firstOccurrence?_eq_some_iff :
    firstOccurrence? needle 0 cs = some offset ↔ StandsFirstAt needle cs offset := by
  have hspec := firstOccurrence?_spec needle 0 cs
  cases hfound : firstOccurrence? needle 0 cs with
  | none =>
    rw [hfound] at hspec
    exact iff_of_false (by nofun) fun h => hspec offset h.1
  | some found =>
    rw [hfound] at hspec
    obtain ⟨first, hstart, hfirst⟩ := hspec
    obtain rfl : found = first := hstart.trans (Nat.zero_add first)
    rw [Option.some_inj]
    constructor
    · rintro rfl
      exact hfirst
    · exact hfirst.unique

/-! ### Occurrences -/

theorem exists_of_mem_occurrencesFrom (h : offset ∈ occurrencesFrom needle skip start cs) :
    ∃ before after, cs = before ++ needle ++ after ∧ offset = start + byteLength before := by
  induction cs generalizing skip start with
  | nil => cases h
  | cons c cs ih =>
    have hlater : ∀ skip, offset ∈ occurrencesFrom needle skip (start + c.utf8Size) cs →
        ∃ before after, c :: cs = before ++ needle ++ after
          ∧ offset = start + byteLength before := by
      intro skip h
      obtain ⟨before, after, rfl, rfl⟩ := ih h
      refine ⟨c :: before, after, rfl, ?_⟩
      rw [byteLength_cons]
      omega
    cases skip with
    | succ rest => exact hlater rest h
    | zero =>
      rw [occurrencesFrom] at h
      split at h
      next hneedle =>
        rcases List.mem_cons.mp h with rfl | h
        · obtain ⟨after, hafter⟩ := List.isPrefixOf_iff_prefix.mp hneedle
          exact ⟨[], after, hafter.symm, rfl⟩
        · exact hlater _ h
      next => exact hlater _ h

theorem le_of_mem_occurrencesFrom (h : offset ∈ occurrencesFrom needle skip start cs) :
    start ≤ offset := by
  obtain ⟨before, -, -, rfl⟩ := exists_of_mem_occurrencesFrom h
  exact Nat.le_add_right _ _

theorem pairwise_occurrencesFrom (needle : List Char) (skip start : Nat) (cs : List Char) :
    (occurrencesFrom needle skip start cs).Pairwise (· < ·) := by
  induction cs generalizing skip start with
  | nil => exact .nil
  | cons c cs ih =>
    cases skip with
    | succ rest => exact ih _ _
    | zero =>
      rw [occurrencesFrom]
      split
      · refine List.pairwise_cons.mpr ⟨fun offset h => ?_, ih _ _⟩
        have hle := le_of_mem_occurrencesFrom h
        have hc := c.utf8Size_pos
        omega
      · exact ih _ _

/-- What is still covered comes before every occurrence. -/
theorem byteLength_take_le_of_mem_occurrencesFrom
    (h : offset ∈ occurrencesFrom needle skip start cs) :
    start + byteLength (cs.take skip) ≤ offset := by
  induction cs generalizing skip start with
  | nil => cases h
  | cons c cs ih =>
    cases skip with
    | succ rest =>
      have hlater := ih (show offset ∈ occurrencesFrom needle rest (start + c.utf8Size) cs from h)
      rw [List.take_succ_cons, byteLength_cons]
      omega
    | zero => exact le_of_mem_occurrencesFrom h

theorem apart_occurrencesFrom (hneedle : needle ≠ []) (skip start : Nat) (cs : List Char) :
    (occurrencesFrom needle skip start cs).Pairwise fun a b => a + byteLength needle ≤ b := by
  induction cs generalizing skip start with
  | nil => exact .nil
  | cons c cs ih =>
    cases skip with
    | succ rest => exact ih _ _
    | zero =>
      rw [occurrencesFrom]
      split
      next hprefix =>
        refine List.pairwise_cons.mpr ⟨fun offset h => ?_, ih _ _⟩
        have hle := byteLength_take_le_of_mem_occurrencesFrom h
        -- What the scan passes over is the rest of the text that was found.
        have hfound : needle = c :: cs.take (needle.length - 1) := by
          have htake := List.prefix_iff_eq_take.mp (List.isPrefixOf_iff_prefix.mp hprefix)
          rwa [List.take_cons (List.length_pos_iff.mpr hneedle)] at htake
        rw [hfound, byteLength_cons]
        omega
      · exact ih _ _

/-- Where the text stands, the scan finds it or an occurrence that reaches into this one, unless one
from before the start already does. -/
theorem exists_occurrenceFrom_covering {before after : List Char} (start : Nat)
    (hneedle : needle ≠ []) (hskip : skip ≤ before.length) :
    ∃ offset ∈ occurrencesFrom needle skip start (before ++ needle ++ after),
      offset ≤ start + byteLength before
        ∧ start + byteLength before < offset + byteLength needle := by
  induction before generalizing skip start with
  | nil =>
    obtain rfl : skip = 0 := Nat.le_zero.mp hskip
    obtain ⟨c, rest, rfl⟩ := List.exists_cons_of_ne_nil hneedle
    have hc := c.utf8Size_pos
    have hprefix : (c :: rest).isPrefixOf (c :: (rest ++ after)) = true :=
      List.isPrefixOf_iff_prefix.mpr (List.prefix_append _ _)
    refine ⟨start, ?_, Nat.le_refl _, ?_⟩
    · show start ∈ occurrencesFrom (c :: rest) 0 start (c :: (rest ++ after))
      rw [occurrencesFrom, if_pos hprefix]
      exact List.mem_cons_self
    · rw [byteLength_nil, byteLength_cons]
      omega
  | cons b bs ih =>
    have hlater : ∀ skip, skip ≤ bs.length →
        ∃ offset ∈ occurrencesFrom needle skip (start + b.utf8Size) (bs ++ needle ++ after),
          offset ≤ start + byteLength (b :: bs)
            ∧ start + byteLength (b :: bs) < offset + byteLength needle := by
      intro skip hskip
      obtain ⟨offset, hmem, hle, hlt⟩ := ih (start + b.utf8Size) hskip
      rw [byteLength_cons]
      exact ⟨offset, hmem, by omega, by omega⟩
    show ∃ offset ∈ occurrencesFrom needle skip start (b :: (bs ++ needle ++ after)), _
    cases skip with
    | succ rest => exact hlater rest (Nat.le_of_succ_le_succ hskip)
    | zero =>
      rw [occurrencesFrom]
      split
      next hprefix =>
        by_cases hlength : needle.length - 1 ≤ bs.length
        · obtain ⟨offset, hmem, hbounds⟩ := hlater _ hlength
          exact ⟨offset, List.mem_cons_of_mem _ hmem, hbounds⟩
        · -- The occurrence here reaches beyond the characters before the text.
          refine ⟨start, List.mem_cons_self, Nat.le_add_right _ _, ?_⟩
          have hfront : b :: bs <+: needle := by
            refine List.prefix_of_prefix_length_le ?_ (List.isPrefixOf_iff_prefix.mp hprefix) ?_
            · rw [List.append_assoc]
              exact List.prefix_append (b :: bs) (needle ++ after)
            · rw [List.length_cons]
              omega
          obtain ⟨rest, rfl⟩ := hfront
          have hrest : byteLength rest ≠ 0 := by
            rw [Ne, byteLength_eq_zero_iff]
            rintro rfl
            rw [List.append_nil, List.length_cons] at hlength
            omega
          rw [byteLength_append]
          omega
      next => exact hlater 0 (Nat.zero_le _)

theorem exists_occurrence_covering (hneedle : needle ≠ []) (h : StandsAt needle cs offset) :
    ∃ found ∈ occurrences needle cs, found ≤ offset ∧ offset < found + byteLength needle := by
  obtain ⟨before, after, rfl, rfl⟩ := h
  obtain ⟨found, hmem, hle, hlt⟩ :=
    exists_occurrenceFrom_covering 0 hneedle (Nat.zero_le before.length)
  refine ⟨found, ?_, by omega, by omega⟩
  rw [occurrences, if_neg (by rwa [List.isEmpty_iff])]
  exact hmem

theorem standsAt_of_mem_occurrences (h : offset ∈ occurrences needle cs) :
    needle ≠ [] ∧ StandsAt needle cs offset := by
  rw [occurrences] at h
  split at h
  · cases h
  next hneedle =>
    obtain ⟨before, after, hcs, hoffset⟩ := exists_of_mem_occurrencesFrom h
    refine ⟨?_, before, after, hcs, by omega⟩
    rintro rfl
    exact hneedle rfl

theorem pairwise_occurrences (needle cs : List Char) :
    (occurrences needle cs).Pairwise (· < ·) := by
  rw [occurrences]
  split
  · exact .nil
  · exact pairwise_occurrencesFrom _ _ _ _

/-- No occurrence reaches into the next one. -/
theorem apart_occurrences (needle cs : List Char) :
    (occurrences needle cs).Pairwise fun a b => a + byteLength needle ≤ b := by
  rw [occurrences]
  split
  · exact .nil
  next hneedle => exact apart_occurrencesFrom (by rwa [List.isEmpty_iff] at hneedle) _ _ _

/-! ### Whole words -/

theorem sublist_wordOccurrencesFrom (needle : List Char) (skip start : Nat) (before : Option Char)
    (cs : List Char) :
    (wordOccurrencesFrom needle skip start before cs).Sublist
      (occurrencesFrom needle skip start cs) := by
  induction cs generalizing skip start before with
  | nil => exact .slnil
  | cons c cs ih =>
    cases skip with
    | succ rest => exact ih _ _ _
    | zero =>
      rw [wordOccurrencesFrom, occurrencesFrom]
      split
      · dsimp only
        split
        · exact (ih _ _ _).cons_cons _
        · exact (ih _ _ _).cons _
      · exact ih _ _ _

theorem sublist_wordOccurrences (needle cs : List Char) :
    (wordOccurrences needle cs).Sublist (occurrences needle cs) := by
  rw [wordOccurrences, occurrences]
  split
  · exact List.Sublist.refl []
  · exact sublist_wordOccurrencesFrom _ _ _ _ _

/-! ### Lower case -/

theorem toLower_eq_self {c : Char} (h : ¬(c.val ≥ 'A'.val ∧ c.val ≤ 'Z'.val)) : c.toLower = c :=
  dif_neg h

theorem toNat_toLower {c : Char} (h : c.val ≥ 'A'.val ∧ c.val ≤ 'Z'.val) :
    65 ≤ c.val.toNat ∧ c.val.toNat ≤ 90 ∧ c.toLower.val.toNat = c.val.toNat + 32 := by
  have hge : 65 ≤ c.val.toNat := UInt32.le_iff_toNat_le.mp h.1
  have hle : c.val.toNat ≤ 90 := UInt32.le_iff_toNat_le.mp h.2
  have hval : c.toLower.val = c.val + 32 := congrArg Char.val (dif_pos h)
  refine ⟨hge, hle, ?_⟩
  rw [hval, UInt32.toNat_add]
  show (c.val.toNat + 32) % 4294967296 = _
  omega

theorem utf8Size_toLower (c : Char) : c.toLower.utf8Size = c.utf8Size := by
  by_cases h : c.val ≥ 'A'.val ∧ c.val ≤ 'Z'.val
  · -- A letter is one byte long in either case.
    obtain ⟨-, hle, hval⟩ := toNat_toLower h
    have hsize : ∀ d : Char, d.val.toNat ≤ 127 → d.utf8Size = 1 := fun d hd =>
      Char.utf8Size_eq_one_iff.mpr (UInt32.le_iff_toNat_le.mpr hd)
    rw [hsize c (by omega), hsize c.toLower (by omega)]
  · rw [toLower_eq_self h]

theorem byteLength_lower (cs : List Char) : byteLength (Query.lower cs) = byteLength cs := by
  induction cs with
  | nil => rfl
  | cons c cs ih =>
    show byteLength (c.toLower :: Query.lower cs) = _
    rw [byteLength_cons, byteLength_cons, utf8Size_toLower, ih]

theorem toLower_toLower (c : Char) : c.toLower.toLower = c.toLower := by
  by_cases h : c.val ≥ 'A'.val ∧ c.val ≤ 'Z'.val
  · obtain ⟨hge, -, hval⟩ := toNat_toLower h
    refine toLower_eq_self fun hlower => ?_
    have hle : c.toLower.val.toNat ≤ 90 := UInt32.le_iff_toNat_le.mp hlower.2
    omega
  · rw [toLower_eq_self h, toLower_eq_self h]

theorem lower_lower (cs : List Char) : Query.lower (Query.lower cs) = Query.lower cs := by
  show (cs.map Char.toLower).map Char.toLower = _
  rw [List.map_map]
  exact List.map_congr_left fun c _ => toLower_toLower c

/-- What stands in the lower-case form of a text is the lower-case form of what stands there. -/
theorem standsAt_lower (h : StandsAt needle (Query.lower cs) offset) :
    ∃ found, StandsAt found cs offset ∧ Query.lower found = needle := by
  obtain ⟨before, after, hcs, rfl⟩ := h
  obtain ⟨front, back, rfl, hfront, rfl⟩ := List.map_eq_append_iff.mp hcs
  obtain ⟨front, found, rfl, rfl, hfound⟩ := List.map_eq_append_iff.mp hfront
  exact ⟨found, ⟨front, back, rfl, byteLength_lower front⟩, hfound⟩

end SourceRetrieval.Text
