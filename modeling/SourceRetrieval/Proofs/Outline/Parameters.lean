/-
Cutting a list at its top-level commas.

* `splitTopFrom_append_comma` — a comma outside all brackets cuts a list into two that are
  cut apart;
* `splitTopLevel_join` — entries joined with commas come back if their brackets are closed
  and enclose their commas;
* `filter_flatten_splitTopFrom` — nothing is lost but blanks and the commas cut at;
* `splitTopFrom_eq_wrapped` — a depth that is counted in 32 bits gives the same cuts in a text
  of fewer than 2^31 characters;
* `splitTopLevel_laws` — the three laws, for whole lists.

Design notes: the scan carries the depth and the character before.  After a cut the depth is
what it was, and the comma counts like the beginning of a text because it ends no arrow.
-/
import SourceRetrieval.Outline.Parameters
import SourceRetrieval.Proofs.Text.Split

namespace SourceRetrieval.Outline

open Text

/-- The bracket depth at the end of a text that `before` stands in front of. -/
def bracketDepthFrom (before : Char) : List Char → Int
  | [] => 0
  | c :: cs => depthChange before c + bracketDepthFrom c cs

/-- The bracket depth at the end of a text: how many brackets it opens more than it closes. -/
def bracketDepth (cs : List Char) : Int := bracketDepthFrom '\x00' cs

/-- The text of one entry: it is not blank, its brackets are closed at its end, and each of its
commas stands inside brackets. -/
structure IsEntry (entry : List Char) : Prop where
  visible : entry.any (!isBlank ·) = true
  closed : bracketDepth entry = 0
  nested : ∀ i < entry.length, entry[i]? = some ',' → 0 < bracketDepth (entry.take i)

/-- A text without the commas that stand outside all brackets; `seen` is what comes before. -/
def withoutCuts (seen : List Char) : List Char → List Char
  | [] => []
  | c :: cs =>
    if c = ',' ∧ bracketDepth seen ≤ 0 then withoutCuts (seen ++ [c]) cs
    else c :: withoutCuts (seen ++ [c]) cs

variable {depth : Int} {before : Char} {current cs : List Char}

/-! ### Depths -/

theorem depthChange_comma_right (before : Char) : depthChange before ',' = 0 := by
  simp [depthChange]

theorem depthChange_comma_left (c : Char) : depthChange ',' c = depthChange '\x00' c := by
  simp [depthChange]

theorem depthChange_space_left (c : Char) : depthChange ' ' c = depthChange '\x00' c := by
  simp [depthChange]

theorem bracketDepthFrom_append (before : Char) (as bs : List Char) :
    bracketDepthFrom before (as ++ bs)
      = bracketDepthFrom before as + bracketDepthFrom (as.getLastD before) bs := by
  induction as generalizing before with
  | nil => rw [List.nil_append, bracketDepthFrom, Int.zero_add]; rfl
  | cons c as ih =>
    rw [List.cons_append, bracketDepthFrom, bracketDepthFrom, ih, Int.add_assoc,
      List.getLastD_cons]

theorem bracketDepth_concat (seen : List Char) (c : Char) :
    bracketDepth (seen ++ [c]) = bracketDepth seen + depthChange (seen.getLastD '\x00') c := by
  rw [bracketDepth, bracketDepth, bracketDepthFrom_append, bracketDepthFrom, bracketDepthFrom,
    Int.add_zero]

/-! ### Blanks -/

theorem words_cons_of_blank {c : Char} (hc : isBlank c = true) (cs : List Char) :
    words (c :: cs) = words cs := by
  rw [words, words, splitBy_cons, splitBy.step.eq_def, if_pos hc]
  rfl

theorem collapseChars_cons_of_blank {c : Char} (hc : isBlank c = true) (cs : List Char) :
    collapseChars (c :: cs) = collapseChars cs := by
  rw [collapseChars, collapseChars, words_cons_of_blank hc]

theorem flatten_splitBy (sep : Char → Bool) (cs : List Char) :
    (splitBy sep cs).flatten = cs.filter (!sep ·) := by
  induction cs with
  | nil => rfl
  | cons c cs ih =>
    rw [splitBy_cons, splitBy.step.eq_def]
    split
    next hc => rw [List.filter_cons_of_neg (by simp [hc]), ← ih, List.flatten_cons, List.nil_append]
    next hc =>
      rw [List.filter_cons_of_pos (by simp [hc]), ← ih]
      cases splitBy sep cs with
      | nil => rfl
      | cons piece pieces => rfl

theorem flatten_filter_not_isEmpty (pieces : List (List Char)) :
    (pieces.filter (!·.isEmpty)).flatten = pieces.flatten := by
  induction pieces with
  | nil => rfl
  | cons piece pieces ih =>
    cases piece with
    | nil => exact ih
    | cons c piece =>
      rw [List.filter_cons_of_pos rfl, List.flatten_cons, List.flatten_cons, ih]

theorem filter_intercalate_of_blank {c : Char} (hc : isBlank c = true)
    (pieces : List (List Char)) :
    ([c].intercalate pieces).filter (!isBlank ·) = pieces.flatten.filter (!isBlank ·) := by
  induction pieces with
  | nil => rfl
  | cons piece pieces ih =>
    cases pieces with
    | nil => rw [List.intercalate_singleton, List.flatten_cons, List.flatten_nil, List.append_nil]
    | cons next pieces =>
      have hgap : [c].filter (!isBlank ·) = [] := List.filter_cons_of_neg (by simp [hc])
      rw [List.intercalate_cons_cons, List.filter_append, List.filter_append, ih, hgap,
        List.append_nil, ← List.filter_append]
      rfl

/-- Collapsing the blanks of a text loses nothing else. -/
theorem filter_collapseChars (cs : List Char) :
    (collapseChars cs).filter (!isBlank ·) = cs.filter (!isBlank ·) := by
  rw [collapseChars, filter_intercalate_of_blank rfl, words, flatten_filter_not_isEmpty,
    flatten_splitBy, List.filter_filter]
  simp only [Bool.and_self]

theorem collapseChars_ne_nil (h : cs.any (!isBlank ·) = true) : collapseChars cs ≠ [] := by
  intro hnil
  obtain ⟨c, hc, hblank⟩ := List.any_eq_true.mp h
  have hmem : c ∈ (collapseChars cs).filter (!isBlank ·) := by
    rw [filter_collapseChars]
    exact List.mem_filter.mpr ⟨hc, hblank⟩
  rw [hnil] at hmem
  cases hmem

/-! ### Cuts -/

/-- The stretches between top-level commas where the depth is counted in 32 bits and wraps. -/
def splitTopWrapped (depth : Int) (before : Char) (current : List Char) :
    List Char → List (List Char)
  | [] => [current.reverse]
  | c :: cs =>
    if c == ',' && depth ≤ 0 then current.reverse :: splitTopWrapped depth c [] cs
    else splitTopWrapped ((depth + depthChange before c).bmod UInt32.size) c (c :: current) cs

theorem natAbs_depthChange_le (before c : Char) : (depthChange before c).natAbs ≤ 1 := by
  rw [depthChange]
  split
  · decide
  · split
    · decide
    · split <;> decide

/-- In a text of fewer than 2^31 characters the depth does not leave its 32 bits. -/
theorem splitTopFrom_eq_wrapped (before : Char) (current : List Char)
    (h : depth.natAbs + cs.length < UInt32.size / 2) :
    splitTopFrom depth before current cs = splitTopWrapped depth before current cs := by
  induction cs generalizing depth before current with
  | nil => rfl
  | cons c cs ih =>
    rw [List.length_cons] at h
    have hchange := natAbs_depthChange_le before c
    have hfits : (depth + depthChange before c).bmod UInt32.size
        = depth + depthChange before c := by
      have hsize : UInt32.size = 4294967296 := rfl
      exact Int.bmod_eq_of_le (by omega) (by omega)
    rw [splitTopFrom, splitTopWrapped, hfits, ih c [] (by omega), ih c (c :: current) (by omega)]

/-- What stands before a text matters only where it may begin an arrow. -/
theorem splitTopFrom_congr {other : Char} (h : ∀ c, depthChange before c = depthChange other c)
    (depth : Int) (current cs : List Char) :
    splitTopFrom depth before current cs = splitTopFrom depth other current cs := by
  cases cs with
  | nil => rfl
  | cons c cs => rw [splitTopFrom, splitTopFrom, h]

/-- A comma outside all brackets cuts a list into two that are cut apart. -/
theorem splitTopFrom_append_comma (as bs : List Char)
    (h : depth + bracketDepthFrom before as ≤ 0) :
    splitTopFrom depth before current (as ++ ',' :: bs)
      = splitTopFrom depth before current as
        ++ splitTopFrom (depth + bracketDepthFrom before as) ',' [] bs := by
  induction as generalizing depth before current with
  | nil =>
    rw [bracketDepthFrom, Int.add_zero] at h ⊢
    rw [List.nil_append, splitTopFrom, splitTopFrom, if_pos (by simp [h]), List.singleton_append]
  | cons c as ih =>
    rw [bracketDepthFrom, ← Int.add_assoc] at h ⊢
    rw [List.cons_append, splitTopFrom, splitTopFrom]
    split
    next hcut =>
      obtain ⟨rfl, -⟩ : c = ',' ∧ depth ≤ 0 := by simpa using hcut
      rw [depthChange_comma_right, Int.add_zero] at h ⊢
      rw [ih h, List.cons_append]
    next => exact ih h

/-- A list without a comma outside all brackets is not cut. -/
theorem splitTopFrom_eq_singleton
    (h : ∀ i < cs.length, cs[i]? = some ',' → 0 < depth + bracketDepthFrom before (cs.take i)) :
    splitTopFrom depth before current cs = [current.reverse ++ cs] := by
  induction cs generalizing depth before current with
  | nil => rw [splitTopFrom, List.append_nil]
  | cons c cs ih =>
    have hwhole : ¬((c == ',' && decide (depth ≤ 0)) = true) := by
      intro hcut
      obtain ⟨rfl, hle⟩ : c = ',' ∧ depth ≤ 0 := by simpa using hcut
      have hlt := h 0 (Nat.zero_lt_succ _) rfl
      rw [List.take_zero, bracketDepthFrom] at hlt
      omega
    rw [splitTopFrom, if_neg hwhole, ih, List.reverse_cons, List.append_assoc]
    · rfl
    · intro i hi hcomma
      have hlt := h (i + 1) (Nat.succ_lt_succ hi) hcomma
      rwa [List.take_succ_cons, bracketDepthFrom, ← Int.add_assoc] at hlt

/-- What the open entry begins with makes no difference to the cuts. -/
theorem splitTopFrom_append_current (done : List Char) :
    splitTopFrom depth before (current ++ done) cs
      = (splitTopFrom depth before current cs).modifyHead (done.reverse ++ ·) := by
  induction cs generalizing depth before current with
  | nil => rw [splitTopFrom, splitTopFrom, List.reverse_append]; rfl
  | cons c cs ih =>
    rw [splitTopFrom, splitTopFrom]
    split
    · rw [List.reverse_append]
      rfl
    · exact @ih (depth + depthChange before c) c (c :: current)

theorem map_modifyHead {α β : Type} {f : α → β} {g : α → α} (h : ∀ a, f (g a) = f a)
    (list : List α) : (list.modifyHead g).map f = list.map f := by
  cases list with
  | nil => rfl
  | cons a list => rw [List.modifyHead_cons, List.map_cons, List.map_cons, h]

/-! ### Entries -/

theorem splitTopLevelChars_cons_space (cs : List Char) :
    splitTopLevelChars (' ' :: cs) = splitTopLevelChars cs := by
  have hcuts : splitTopFrom 0 '\x00' [] (' ' :: cs)
      = (splitTopFrom 0 '\x00' [] cs).modifyHead (' ' :: ·) := by
    rw [← splitTopFrom_congr depthChange_space_left 0 [] cs]
    exact @splitTopFrom_append_current 0 ' ' [] cs [' ']
  rw [splitTopLevelChars, splitTopLevelChars, hcuts,
    map_modifyHead (collapseChars_cons_of_blank rfl)]

theorem splitTopLevelChars_append_comma {as : List Char} (h : bracketDepth as = 0)
    (bs : List Char) :
    splitTopLevelChars (as ++ ',' :: bs) = splitTopLevelChars as ++ splitTopLevelChars bs := by
  have hdepth : 0 + bracketDepthFrom '\x00' as = 0 := (Int.zero_add _).trans h
  rw [splitTopLevelChars, splitTopFrom_append_comma as bs (Int.le_of_eq hdepth), hdepth,
    splitTopFrom_congr depthChange_comma_left, List.map_append, List.filter_append]
  rfl

theorem IsEntry.splitTopLevelChars_eq {entry : List Char} (h : IsEntry entry) :
    splitTopLevelChars entry = [collapseChars entry] := by
  have hwhole : splitTopFrom 0 '\x00' [] entry = [entry] :=
    splitTopFrom_eq_singleton fun i hi hcomma => by
      rw [Int.zero_add]
      exact h.nested i hi hcomma
  rw [splitTopLevelChars, hwhole, List.map_singleton, List.filter_cons_of_pos]
  · rfl
  · simpa using collapseChars_ne_nil h.visible

/-- Entries joined with commas come back, their blanks collapsed. -/
theorem splitTopLevelChars_join {entries : List (List Char)} (h : ∀ entry ∈ entries, IsEntry entry) :
    splitTopLevelChars ([',', ' '].intercalate entries) = entries.map collapseChars := by
  induction entries with
  | nil => rfl
  | cons entry entries ih =>
    obtain ⟨hentry, hentries⟩ := List.forall_mem_cons.mp h
    cases entries with
    | nil => rw [List.intercalate_singleton, hentry.splitTopLevelChars_eq]; rfl
    | cons next entries =>
      rw [List.intercalate_cons_cons, List.append_assoc]
      show splitTopLevelChars (entry ++ ',' :: ' ' :: [',', ' '].intercalate (next :: entries)) = _
      rw [splitTopLevelChars_append_comma hentry.closed, splitTopLevelChars_cons_space, ih hentries,
        hentry.splitTopLevelChars_eq]
      rfl

/-! ### What is lost -/

/-- The entries hold everything but blanks and the commas cut at. -/
theorem filter_flatten_splitTopFrom (seen : List Char) :
    (splitTopFrom (bracketDepth seen) (seen.getLastD '\x00') current cs).flatten.filter (!isBlank ·)
      = (current.reverse ++ withoutCuts seen cs).filter (!isBlank ·) := by
  induction cs generalizing seen current with
  | nil => rw [splitTopFrom, withoutCuts, List.append_nil, List.flatten_singleton]
  | cons c cs ih =>
    have hnext : (seen ++ [c]).getLastD '\x00' = c := by simp
    rw [splitTopFrom, withoutCuts]
    split
    next hcut =>
      obtain ⟨rfl, hle⟩ : c = ',' ∧ bracketDepth seen ≤ 0 := by simpa using hcut
      have hdepth : bracketDepth (seen ++ [',']) = bracketDepth seen := by
        rw [bracketDepth_concat, depthChange_comma_right, Int.add_zero]
      have hrest := @ih [] (seen ++ [','])
      rw [hdepth, hnext] at hrest
      rw [if_pos ⟨rfl, hle⟩, List.flatten_cons, List.filter_append, hrest, ← List.filter_append]
      rfl
    next hcut =>
      have hrest := @ih (c :: current) (seen ++ [c])
      rw [bracketDepth_concat, hnext] at hrest
      rw [if_neg (by simpa using hcut), hrest, List.reverse_cons, List.append_assoc]
      rfl

/-- The entries hold everything but blanks and the commas that stand outside all brackets. -/
theorem filter_flatten_splitTopLevelChars (cs : List Char) :
    (splitTopLevelChars cs).flatten.filter (!isBlank ·)
      = (withoutCuts [] cs).filter (!isBlank ·) := by
  have hcuts := @filter_flatten_splitTopFrom [] cs []
  rw [splitTopLevelChars, flatten_filter_not_isEmpty, List.filter_flatten, List.map_map]
  simp only [Function.comp_def, filter_collapseChars]
  rw [← List.filter_flatten]
  exact hcuts

/-! ### Lists -/

theorem splitParameters_eq (text : String) :
    splitParameters text = (splitTopLevel text).filter fun entry => !isReceiver entry.toList := by
  rw [splitParameters, splitParametersChars, splitTopLevel, List.filter_map]
  simp only [Function.comp_def, String.toList_ofList]

theorem flatMap_toList_splitTopLevel (text : String) :
    (splitTopLevel text).flatMap String.toList = (splitTopLevelChars text.toList).flatten := by
  rw [splitTopLevel, List.flatMap_map]
  simp only [String.toList_ofList, List.flatMap_id']

/-- Entries joined with commas come back with their blanks collapsed if their brackets are closed
and enclose their commas, and as parameters they come back without the receivers of methods.  A
comma where all brackets are closed cuts any list into two that are cut apart.  The entries of any
list hold its characters in order, but for blanks and the commas that stand outside all brackets. -/
theorem splitTopLevel_laws :
    (∀ entries : List String, (∀ entry ∈ entries, IsEntry entry.toList) →
      splitTopLevel (", ".intercalate entries) = entries.map collapse
        ∧ splitParameters (", ".intercalate entries)
          = (entries.map collapse).filter fun entry => !isReceiver entry.toList)
      ∧ (∀ first second : String, bracketDepth first.toList = 0 →
        splitTopLevel (first ++ "," ++ second) = splitTopLevel first ++ splitTopLevel second)
      ∧ ∀ text : String,
        ((splitTopLevel text).flatMap String.toList).filter (!isBlank ·)
          = (withoutCuts [] text.toList).filter (!isBlank ·) := by
  refine ⟨fun entries h => ?_, fun first second h => ?_, fun text => ?_⟩
  · have hjoined : (", ".intercalate entries).toList
        = [',', ' '].intercalate (entries.map String.toList) := String.toList_intercalate
    have hentries : ∀ entry ∈ entries.map String.toList, IsEntry entry := by
      intro entry hentry
      obtain ⟨text, htext, rfl⟩ := List.mem_map.mp hentry
      exact h text htext
    have hcut : splitTopLevel (", ".intercalate entries) = entries.map collapse := by
      rw [splitTopLevel, hjoined, splitTopLevelChars_join hentries, List.map_map, List.map_map]
      rfl
    exact ⟨hcut, (splitParameters_eq _).trans (by rw [hcut])⟩
  · rw [splitTopLevel, String.toList_append, String.toList_append, List.append_assoc]
    show (splitTopLevelChars (first.toList ++ ',' :: second.toList)).map String.ofList = _
    rw [splitTopLevelChars_append_comma h, List.map_append]
    rfl
  · rw [flatMap_toList_splitTopLevel]
    exact filter_flatten_splitTopLevelChars text.toList

/-- Neither the arrow of a result nor commas in brackets cut an entry, and a receiver is no
parameter. -/
theorem splitTopLevel_laws_arrow :
    (∀ entry ∈ ["&'a mut self", "cb: (x,  y) => Map<K, V>", "\x7b b,\n c \x7d"], IsEntry entry.toList)
      ∧ splitParameters "&'a mut self, cb: (x,  y) => Map<K, V>, \x7b b,\n c \x7d"
        = ["cb: (x, y) => Map<K, V>", "\x7b b, c \x7d"]
      ∧ bracketDepth "f: () -> T, g".toList = 0
      ∧ splitTopLevel "f: () -> T, g,h <" = ["f: () -> T", "g", "h <"] := by
  have hentries : ∀ entry ∈ ["&'a mut self", "cb: (x,  y) => Map<K, V>", "\x7b b,\n c \x7d"],
      IsEntry entry.toList := by
    simp only [List.forall_mem_cons]
    refine ⟨⟨?_, ?_, ?_⟩, ⟨?_, ?_, ?_⟩, ⟨?_, ?_, ?_⟩, nofun⟩ <;> decide
  have hclosed : bracketDepth "f: () -> T, g".toList = 0 := by decide
  obtain ⟨hjoin, hcut, -⟩ := splitTopLevel_laws
  refine ⟨hentries, ?_, hclosed, ?_⟩
  · exact (hjoin _ hentries).2.trans (by decide)
  · exact (hcut "f: () -> T, g" "h <" hclosed).trans (by decide)

end SourceRetrieval.Outline
