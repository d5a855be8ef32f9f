/-
Excerpts are the stretches of lines near the matches.

* `IsNearMatch` — the lines that are at most so many lines away from a match;
* `windowSpan_eq_wrapped` — a sum of 64 bits gives the same stretches, if the window that is
  configured is below 2^63;
* `inSome_nearSpans` and `areApart_nearSpans` — the stretches that are cut out hold just these,
  and do not touch;
* `buildExcerpts_maximal` — so excerpts are the first maximal stretches of lines near a match.
-/
import SourceRetrieval.Engine.Content
import SourceRetrieval.Options
import SourceRetrieval.Proofs.Listing
import SourceRetrieval.Proofs.Stretches
import SourceRetrieval.Proofs.Text.Lines

namespace SourceRetrieval

open Text

variable {s : Span} {line window last : Nat}

/-! ### Lines near a match -/

/-- The line of a match in a text of `last` lines, the nearest one if there is none of its
number. -/
def matchedLine (last : Nat) (r : MatchRange) : Nat := min last (max 1 r.line)

/-- A line of a text of `last` lines which is at most `window` lines away from a match. -/
def IsNearMatch (ranges : List MatchRange) (window last line : Nat) : Prop :=
  1 ≤ line ∧ line ≤ last
    ∧ ∃ r ∈ ranges, matchedLine last r ≤ line + window ∧ line ≤ matchedLine last r + window

/-- The lines around each match, in the order of the matched lines. -/
def windows (ranges : List MatchRange) (window last : Nat) : List Span :=
  (sortOn id (distinct (ranges.map (matchedLine last)))).map (windowSpan window last)

variable {ranges : List MatchRange}

theorem bounds_matchedLine (hlast : 1 ≤ last) (r : MatchRange) :
    1 ≤ matchedLine last r ∧ matchedLine last r ≤ last := by
  simp only [matchedLine]
  omega

theorem mem_windows :
    s ∈ windows ranges window last
      ↔ ∃ r ∈ ranges, windowSpan window last (matchedLine last r) = s := by
  rw [windows, List.mem_map]
  constructor
  · rintro ⟨line, hline, rfl⟩
    obtain ⟨r, hr, rfl⟩ := List.mem_map.mp (mem_distinct.mp (mem_sortOn.mp hline))
    exact ⟨r, hr, rfl⟩
  · rintro ⟨r, hr, rfl⟩
    exact ⟨_, mem_sortOn.mpr (mem_distinct.mpr (List.mem_map_of_mem hr)), rfl⟩

theorem pairwise_windows :
    (windows ranges window last).Pairwise fun s t => s.1 ≤ t.1 := by
  refine List.pairwise_map.mpr ((pairwise_sortOn _ _).imp fun h => ?_)
  simp only [windowSpan, id] at h ⊢
  omega

theorem ordered_of_mem_windows (hlast : 1 ≤ last) (h : s ∈ windows ranges window last) :
    s.1 ≤ s.2 := by
  obtain ⟨r, -, rfl⟩ := mem_windows.mp h
  have hbounds := bounds_matchedLine hlast r
  simp only [windowSpan]
  omega

theorem inSome_windows :
    InSome (windows ranges window last) line ↔ IsNearMatch ranges window last line := by
  have hholds : ∀ matched, (windowSpan window last matched).Holds line
      ↔ 1 ≤ line ∧ line ≤ last ∧ matched ≤ line + window ∧ line ≤ matched + window := by
    intro matched
    simp only [windowSpan, Span.Holds]
    omega
  constructor
  · rintro ⟨s, hs, hline⟩
    obtain ⟨r, hr, rfl⟩ := mem_windows.mp hs
    obtain ⟨hfirst, hlast, hnear⟩ := (hholds _).mp hline
    exact ⟨hfirst, hlast, r, hr, hnear⟩
  · rintro ⟨hfirst, hlast, r, hr, hnear⟩
    exact ⟨_, mem_windows.mpr ⟨r, hr, rfl⟩, (hholds _).mpr ⟨hfirst, hlast, hnear⟩⟩

/-- The stretches of lines near a match. -/
def nearSpans (ranges : List MatchRange) (window last : Nat) : List Span :=
  mergeSpans (windows ranges window last)

theorem areApart_nearSpans (hlast : 1 ≤ last) : AreApart (nearSpans ranges window last) :=
  areApart_mergeSpans (fun _ => ordered_of_mem_windows hlast) pairwise_windows

theorem inSome_nearSpans :
    InSome (nearSpans ranges window last) line ↔ IsNearMatch ranges window last line :=
  (inSome_mergeSpans pairwise_windows).trans inSome_windows

/-- Each matched line is near itself. -/
theorem inSome_matchedLine {r : MatchRange} (hlast : 1 ≤ last) (hr : r ∈ ranges) :
    InSome (nearSpans ranges window last) (matchedLine last r) := by
  obtain ⟨hfirst, hlast'⟩ := bounds_matchedLine hlast r
  exact inSome_nearSpans.mpr
    ⟨hfirst, hlast', r, hr, Nat.le_add_right _ _, Nat.le_add_right _ _⟩

theorem nearSpans_eq_nil_iff (hlast : 1 ≤ last) :
    nearSpans ranges window last = [] ↔ ranges = [] := by
  constructor
  · intro hnone
    refine List.eq_nil_iff_forall_not_mem.mpr fun r hr => ?_
    obtain ⟨s, hs, -⟩ := show InSome (nearSpans ranges window last) (matchedLine last r) from
      inSome_matchedLine hlast hr
    exact List.not_mem_nil (hnone ▸ hs)
  · rintro rfl
    refine List.eq_nil_iff_forall_not_mem.mpr fun s hs => ?_
    have hordered := (areApart_nearSpans hlast).ordered s hs
    obtain ⟨-, -, r, hr, -⟩ := inSome_nearSpans.mp ⟨s, hs, Nat.le_refl _, hordered⟩
    exact List.not_mem_nil hr

/-! ### Excerpts -/

/-- The lines of a stretch, joined with newlines. -/
def excerptOf (lines : List (List Char)) (s : Span) : Excerpt :=
  ⟨s.1, s.2, String.ofList (joinLines ((lines.drop (s.1 - 1)).take (s.2 + 1 - s.1)))⟩

/-- The number of lines of a text. -/
def lastLine (content : String) : Nat := (lineTexts content.toList).length

variable {content : String}

theorem one_le_lastLine (content : String) : 1 ≤ lastLine content :=
  List.length_pos_iff.mpr (splitBy_ne_nil _ _)

theorem lastLine_le (content : String) : lastLine content ≤ content.utf8ByteSize + 1 := by
  have hcount : lastLine content = (breaksFrom 0 content.toList).length + 1 :=
    length_lineTexts content.toList
  rw [hcount, length_breaksFrom, ← byteLength_toList]
  exact Nat.succ_le_succ (Nat.le_trans List.count_le_length (length_le_byteLength _))

/-- A number that is settled is at most the highest that may be asked for, or the usual one. -/
theorem settleNumber_le (name : String) (low high usual : Nat) (asked : Option Int) :
    (SearchOptions.settleNumber name low high usual asked).1 ≤ max high usual := by
  rw [SearchOptions.settleNumber.eq_def]
  split
  · exact Nat.le_max_right _ _
  · split
    · exact Nat.le_max_right _ _
    · split
      · exact Nat.le_max_left _ _
      · simp only []
        omega

/-- The lines around a line where the sum is taken in 64 bits and wraps. -/
def windowSpanWrapped (window last line : Nat) : Span :=
  (max 1 (line - window), min last ((line + window) % UInt64.size))

/-- A window that options settle is small enough for the sum not to wrap, if the one that is
configured is below 2^63. -/
theorem windowSpan_eq_wrapped (options : SearchOptions) {config : Config} {kind : SearchKind}
    (hconfig : config.search.contextWindow < UInt64.size / 2) {content : String}
    (hcontent : content.utf8ByteSize < UInt64.size / 2) (r : MatchRange) :
    let window := (options.resolve config kind).contextWindow
    let line := matchedLine (lastLine content) r
    windowSpan window (lastLine content) line
      = windowSpanWrapped window (lastLine content) line := by
  intro window line
  have hwindow : window ≤ max maxContextWindow config.search.contextWindow :=
    settleNumber_le _ _ _ _ _
  have hcap : maxContextWindow < UInt64.size / 2 := by decide
  have hline : line ≤ lastLine content := (bounds_matchedLine (one_le_lastLine content) r).2
  have hlast := lastLine_le content
  have hsize : UInt64.size = 18446744073709551616 := rfl
  rw [windowSpanWrapped, Nat.mod_eq_of_lt (by omega), windowSpan]

theorem buildExcerpts_eq (h : content ≠ "") :
    buildExcerpts content ranges window
      = ((nearSpans ranges window (lastLine content)).take 5).map
          (excerptOf (lineTexts content.toList)) := by
  have hlast := one_le_lastLine content
  have hcount : (LineIndex.ofChars content.toList).lineCount = lastLine content :=
    (length_lineTexts content.toList).symm
  rw [buildExcerpts, if_neg (by simpa using h)]
  dsimp only
  rw [hcount]
  refine List.map_congr_left fun s hs => ?_
  have hs := List.mem_of_mem_take hs
  have hordered := (areApart_nearSpans hlast).ordered s hs
  obtain ⟨hfirst, -⟩ := inSome_nearSpans.mp ⟨s, hs, Nat.le_refl _, hordered⟩
  obtain ⟨-, hend, -⟩ := inSome_nearSpans.mp ⟨s, hs, hordered, Nat.le_refl _⟩
  rw [cut_lines hfirst hordered (by rwa [hcount]), excerptOf]

theorem buildExcerpts_empty : buildExcerpts "" ranges window = [] := rfl

theorem buildExcerpts_eq_nil_iff :
    buildExcerpts content ranges window = [] ↔ ranges = [] ∨ content = "" := by
  by_cases hcontent : content = ""
  · rw [hcontent]
    exact iff_of_true buildExcerpts_empty (.inr rfl)
  · rw [buildExcerpts_eq hcontent, or_iff_left hcontent, List.map_eq_nil_iff, List.take_eq_nil_iff,
      or_iff_right (by decide), nearSpans_eq_nil_iff (one_le_lastLine content)]

/-- The excerpts of a text are the first five of the maximal stretches of lines near a match, in
order, each with the text of its lines; there are none just if nothing matched or the text is
empty.  So a line lies between each and the next, all lines of an excerpt are near a match, and a
matched line is in an excerpt unless it is behind five of them. -/
theorem buildExcerpts_maximal (content : String) (ranges : List MatchRange) (window : Nat) :
    let excerpts := buildExcerpts content ranges window
    let last := lastLine content
    let near := IsNearMatch ranges window last
    (excerpts = [] ↔ ranges = [] ∨ content = "")
      ∧ (content ≠ "" → ∃ spans : List Span, (∀ s, s ∈ spans ↔ s.IsMaximal near)
          ∧ spans.Pairwise (fun s t => s.2 + 1 < t.1)
          ∧ excerpts = (spans.take 5).map (excerptOf (lineTexts content.toList)))
      ∧ excerpts.Pairwise (fun e f => e.lastLine + 1 < f.firstLine)
      ∧ (∀ e ∈ excerpts, ∀ line, e.firstLine ≤ line → line ≤ e.lastLine → near line)
      ∧ (content ≠ "" → ∀ r ∈ ranges,
          (∃ e ∈ excerpts, e.firstLine ≤ matchedLine last r ∧ matchedLine last r ≤ e.lastLine)
            ∨ excerpts.length = 5 ∧ ∀ e ∈ excerpts, e.lastLine + 1 < matchedLine last r) := by
  intro excerpts last near
  refine ⟨buildExcerpts_eq_nil_iff, ?_⟩
  by_cases hcontent : content = ""
  · have hnone : excerpts = [] := buildExcerpts_eq_nil_iff.mpr (.inr hcontent)
    rw [hnone]
    exact ⟨fun h => absurd hcontent h, .nil, nofun, fun h => absurd hcontent h⟩
  have hlast := one_le_lastLine content
  obtain ⟨spans, hspans⟩ : ∃ spans, nearSpans ranges window last = spans := ⟨_, rfl⟩
  have happart : AreApart spans := hspans ▸ areApart_nearSpans hlast
  have hnear : ∀ line, InSome spans line ↔ near line := fun line => hspans ▸ inSome_nearSpans
  have hexcerpts : excerpts = (spans.take 5).map (excerptOf (lineTexts content.toList)) :=
    hspans ▸ buildExcerpts_eq hcontent
  rw [hexcerpts]
  refine ⟨fun _ => ⟨spans, fun s => ?_, happart.apart, rfl⟩, ?_, fun e he line hfirst hend => ?_,
    fun _ r hr => ?_⟩
  · rw [happart.mem_iff, funext fun line => propext (hnear line)]
  · exact List.pairwise_map.mpr (happart.apart.sublist (List.take_sublist _ _))
  · obtain ⟨s, hs, rfl⟩ := List.mem_map.mp he
    exact (hnear line).mp ⟨s, List.mem_of_mem_take hs, hfirst, hend⟩
  · obtain ⟨s, hs, hline⟩ : InSome spans (matchedLine last r) :=
      hspans ▸ inSome_matchedLine hlast hr
    by_cases hkept : s ∈ spans.take 5
    · exact .inl ⟨_, List.mem_map_of_mem hkept, hline⟩
    · have hlength : 5 ≤ spans.length := by
        refine Nat.le_of_not_lt fun hlt => hkept ?_
        rwa [List.take_of_length_le (Nat.le_of_lt hlt)]
      refine .inr ⟨by rw [List.length_map, List.length_take_of_le hlength], fun e he => ?_⟩
      obtain ⟨t, ht, rfl⟩ := List.mem_map.mp he
      exact Nat.lt_of_lt_of_le (rel_of_not_mem_take happart.apart ht hs hkept) hline.1

end SourceRetrieval
