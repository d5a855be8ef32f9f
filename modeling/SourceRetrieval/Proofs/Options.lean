/-
Options brought into range.

* `IsSettled` — a value in range is kept, and on any other there is a note;
* `settleNumber_isSettled`, `settleThreshold_isSettled`, `settleHops_isSettled` — so it is with each
  way to settle an option;
* `RangedOption.isSome_noteOn` — there is a note on an option if and only if the value that was
  asked for is out of range;
* `resolve_laws` — with any settings that make sense, what options are resolved to is in range,
  the notes are those on the values replaced, and no pattern is added twice.

Design notes: a size has no upper limit, so the largest number that a caller can give stands in the
statement (`IsSigned`).
-/
import SourceRetrieval.Proofs.Engine.Ceiling
import SourceRetrieval.Proofs.Listing
import SourceRetrieval.Proofs.Number.Narrow

namespace SourceRetrieval

namespace SearchOptions

/-! ### Single options -/

/-- What is said to be done with a value that is not kept. -/
def verbs : List String := ["replaced with", "capped at", "clamped to"]

/-- A value in range is kept as it is, and on any other there is a note, which says what it was and
what it is now. -/
structure IsSettled {α β : Type} (name : String) (inRange : α → Bool) (keep : α → β)
    (showAsked : α → String) (showSettled : β → String) (asked : Option α)
    (settled : Settled β) : Prop where
  absent : asked = none → settled.2 = none
  kept : ∀ a ∈ asked, inRange a = true → settled = (keep a, none)
  replaced : ∀ a ∈ asked, inRange a = false →
    ∃ verb ∈ verbs, settled.2 = note name (showAsked a) verb (showSettled settled.1)

namespace IsSettled

variable {α β : Type} {name : String} {inRange inRange' : α → Bool} {keep : α → β}
  {showAsked : α → String} {showSettled : β → String} {asked : Option α} {settled : Settled β}

/-- There is a note if and only if the value is out of range. -/
theorem isSome_note (h : IsSettled name inRange keep showAsked showSettled asked settled) :
    settled.2.isSome = asked.any (!inRange ·) := by
  cases asked with
  | none =>
    rw [h.absent rfl]
    rfl
  | some a =>
    show settled.2.isSome = !inRange a
    cases hrange : inRange a with
    | true =>
      rw [h.kept a rfl hrange]
      rfl
    | false =>
      obtain ⟨verb, -, hnote⟩ := h.replaced a rfl hrange
      rw [hnote]
      rfl

theorem note_eq (h : IsSettled name inRange keep showAsked showSettled asked settled)
    {text : String} (htext : text ∈ settled.2) :
    ∃ a ∈ asked.map showAsked, ∃ verb ∈ verbs,
      text = name ++ " " ++ a ++ " " ++ verb ++ " " ++ showSettled settled.1 := by
  cases asked with
  | none =>
    rw [h.absent rfl] at htext
    cases htext
  | some a =>
    cases hrange : inRange a with
    | true =>
      rw [h.kept a rfl hrange] at htext
      cases htext
    | false =>
      obtain ⟨verb, hverb, hnote⟩ := h.replaced a rfl hrange
      rw [hnote] at htext
      exact ⟨showAsked a, rfl, verb, hverb, (Option.some.inj htext).symm⟩

/-- A value in range is kept. -/
theorem value_eq (h : IsSettled name inRange keep showAsked showSettled asked settled) {a : α}
    (ha : a ∈ asked) (hrange : inRange a = true) : settled.1 = keep a :=
  congrArg Prod.fst (h.kept a ha hrange)

theorem congr (h : IsSettled name inRange keep showAsked showSettled asked settled)
    (hrange : ∀ a ∈ asked, inRange' a = inRange a) :
    IsSettled name inRange' keep showAsked showSettled asked settled where
  absent := h.absent
  kept a ha hin := h.kept a ha (by rw [← hrange a ha, hin])
  replaced a ha hout := h.replaced a ha (by rw [← hrange a ha, hout])

end IsSettled

/-- Whether a number is between two others. -/
def between (low high : Nat) (n : Int) : Bool := low ≤ n && n ≤ high

theorem between_iff {low high : Nat} {n : Int} : between low high n = true ↔ low ≤ n ∧ n ≤ high := by
  rw [between, Bool.and_eq_true, decide_eq_true_eq, decide_eq_true_eq]

section Number

variable {name : String} {low high usual : Nat} {n : Int}

theorem settleNumber_of_lt (h : n < low) :
    settleNumber name low high usual (some n)
      = (usual, note name (toString n) "replaced with" (toString usual)) :=
  if_pos h

theorem settleNumber_of_gt (hlow : low ≤ n) (h : high < n) :
    settleNumber name low high usual (some n)
      = (high, note name (toString n) "capped at" (toString high)) :=
  (if_neg (Int.not_lt.mpr hlow)).trans (if_pos h)

theorem settleNumber_of_mem (hlow : low ≤ n) (hhigh : n ≤ high) :
    settleNumber name low high usual (some n) = (n.toNat, none) :=
  (if_neg (Int.not_lt.mpr hlow)).trans (if_neg (Int.not_lt.mpr hhigh))

/-- A number that is not too small does not become too large. -/
theorem settleNumber_le_of_le {asked : Option Int} (hasked : n ∈ asked) (hlow : low ≤ n) :
    (settleNumber name low high usual asked).1 ≤ high := by
  have hsome : asked = some n := hasked
  rw [hsome]
  by_cases hhigh : n ≤ high
  · rw [settleNumber_of_mem hlow hhigh]
    show n.toNat ≤ high
    omega
  · rw [settleNumber_of_gt hlow (Int.not_le.mp hhigh)]

theorem settleNumber_isSettled (asked : Option Int) :
    IsSettled name (between low high) Int.toNat toString toString asked
      (settleNumber name low high usual asked) where
  absent := by
    rintro rfl
    rfl
  kept := by
    rintro n rfl hin
    obtain ⟨hlow, hhigh⟩ := between_iff.mp hin
    exact settleNumber_of_mem hlow hhigh
  replaced := by
    rintro n rfl hout
    by_cases hlt : n < low
    · rw [settleNumber_of_lt hlt]
      exact ⟨"replaced with", by simp [verbs], rfl⟩
    · have hlow : low ≤ n := Int.not_lt.mp hlt
      have hgt : (high : Int) < n := by
        refine Int.not_le.mp fun hhigh => ?_
        rw [between_iff.mpr ⟨hlow, hhigh⟩] at hout
        cases hout
      rw [settleNumber_of_gt hlow hgt]
      exact ⟨"capped at", by simp [verbs], rfl⟩

theorem low_le_settleNumber (hlow : low ≤ usual) (hbounds : low ≤ high) (asked : Option Int) :
    low ≤ (settleNumber name low high usual asked).1 := by
  cases asked with
  | none => exact hlow
  | some n =>
    rw [settleNumber]
    split
    · exact hlow
    · split
      · exact hbounds
      · show low ≤ n.toNat
        omega

end Number

/-- Whether every number asked for is a signed one of 64 bits. -/
def IsSigned (options : SearchOptions) : Prop :=
  ∀ asked ∈ [options.maxFiles, options.maxFileSize, options.contextWindow, options.maxHops],
    ∀ n ∈ asked, -2 ^ 63 ≤ n ∧ n < 2 ^ 63

/-- There is no upper limit to a size, or none that a caller could exceed. -/
theorem settleSize_isSettled {options : SearchOptions} (config : Config)
    (hsigned : options.IsSigned) :
    IsSettled "maxFileSize" (fun n => decide (1 ≤ n)) Int.toNat toString toString
      options.maxFileSize (settleSize config options.maxFileSize) := by
  refine (settleNumber_isSettled options.maxFileSize).congr fun n hn => ?_
  have hlt : n < 2 ^ 63 := (hsigned _ (by simp) n hn).2
  have hlargest : ((Nat.pow 2 64 : Nat) : Int) = 2 ^ 64 := by decide
  rw [Bool.eq_iff_iff, between_iff, decide_eq_true_eq, hlargest]
  exact ⟨fun h => ⟨h, by omega⟩, And.left⟩

theorem settleFiles_isSettled {config : Config} (hvalid : config.problem? = none)
    (kind : SearchKind) (asked : Option Int) :
    IsSettled "maxFiles" (between 1 (min maxFilesCeiling config.search.maxFilesLimit)) Int.toNat
      toString toString asked (settleFiles config kind asked) := by
  rw [← Config.filesLimit_eq hvalid]
  exact settleNumber_isSettled asked

/-- A likeness is a number from nought to one. -/
def isLikeness (t : Float) : Bool := 0 ≤ t && t ≤ 1

theorem isLikeness_iff {t : Float} : isLikeness t = true ↔ 0 ≤ t ∧ t ≤ 1 := by
  rw [isLikeness, Bool.and_eq_true, decide_eq_true_eq, decide_eq_true_eq]

theorem settleThreshold_isSettled (config : Config) (asked : Option Float) :
    IsSettled "fuzzyThreshold" isLikeness Number.narrow Number.shortest Number.shortest32 asked
      (settleThreshold config asked) where
  absent := by
    rintro rfl
    rfl
  kept := by
    rintro t rfl hin
    exact if_pos hin
  replaced := by
    rintro t rfl hout
    have hsettled : settleThreshold config (some t)
        = (config.search.fuzzyThreshold, note "fuzzyThreshold" (Number.shortest t)
          "replaced with" (Number.shortest32 config.search.fuzzyThreshold)) :=
      if_neg (Bool.eq_false_iff.mp hout)
    rw [hsettled]
    exact ⟨"replaced with", by simp [verbs], rfl⟩

/-- The likeness is the usual one, or one that was asked for. -/
theorem settleThreshold_eq_or (config : Config) (asked : Option Float) :
    (settleThreshold config asked).1 = config.search.fuzzyThreshold
      ∨ ∃ t ∈ asked, (0 ≤ t ∧ t ≤ 1) ∧ (settleThreshold config asked).1 = Number.narrow t := by
  cases asked with
  | none => exact .inl rfl
  | some t =>
    cases hrange : isLikeness t with
    | true =>
      exact .inr ⟨t, rfl, isLikeness_iff.mp hrange,
        (settleThreshold_isSettled config (some t)).value_eq rfl hrange⟩
    | false =>
      refine .inl ?_
      rw [settleThreshold]
      split
      next hin => exact absurd hin (Bool.eq_false_iff.mp hrange)
      next => rfl

/-- The likeness is in range if the usual one is. -/
theorem settleThreshold_mem (config : Config)
    (husual : 0 ≤ config.search.fuzzyThreshold ∧ config.search.fuzzyThreshold ≤ 1)
    (asked : Option Float) :
    0 ≤ (settleThreshold config asked).1 ∧ (settleThreshold config asked).1 ≤ 1 := by
  rcases settleThreshold_eq_or config asked with heq | ⟨t, -, ⟨hlow, hhigh⟩, heq⟩
  · rw [heq]
    exact husual
  · rw [heq]
    exact Number.narrow_mem_unit hlow hhigh

theorem settleHops_isSettled (config : Config) (asked : Option Int) :
    IsSettled "maxHops" (between 1 3) Int.toNat toString toString asked
      (settleHops config asked) where
  absent := by
    rintro rfl
    rfl
  kept := by
    rintro n rfl hin
    obtain ⟨hlow, hhigh⟩ := between_iff.mp hin
    have hclamp : clamp 1 3 n.toNat = n.toNat := by
      rw [clamp]
      omega
    rw [settleHops, hclamp]
    exact if_pos (Int.toNat_of_nonneg (by omega))
  replaced := by
    rintro n rfl hout
    -- A number that clamping leaves alone is in range.
    have hclamp : ¬(clamp 1 3 n.toNat : Int) = n := by
      intro heq
      have hin : between 1 3 n = true := by
        rw [between_iff, ← heq, clamp]
        omega
      rw [hin] at hout
      cases hout
    have hsettled : settleHops config (some n) = (clamp 1 3 n.toNat,
        note "maxHops" (toString n) "clamped to" (toString (clamp 1 3 n.toNat))) := if_neg hclamp
    rw [hsettled]
    exact ⟨"clamped to", by simp [verbs], rfl⟩

theorem settleHops_mem (config : Config) (asked : Option Int) :
    1 ≤ (settleHops config asked).1 ∧ (settleHops config asked).1 ≤ 3 := by
  have hclamp : ∀ n, 1 ≤ clamp 1 3 n ∧ clamp 1 3 n ≤ 3 := by
    intro n
    rw [clamp]
    omega
  cases asked with
  | none => exact hclamp _
  | some n =>
    rw [settleHops]
    split
    all_goals exact hclamp _

/-! ### Notes -/

/-- An option that has a range. -/
inductive RangedOption where
  | maxFiles
  | fuzzyThreshold
  | maxFileSize
  | contextWindow
  | maxHops
  deriving DecidableEq, Repr

namespace RangedOption

/-- All of them, in the order in which they are noted. -/
def all : List RangedOption := [maxFiles, fuzzyThreshold, maxFileSize, contextWindow, maxHops]

/-- What a note calls it. -/
def name : RangedOption → String
  | maxFiles => "maxFiles"
  | fuzzyThreshold => "fuzzyThreshold"
  | maxFileSize => "maxFileSize"
  | contextWindow => "contextWindow"
  | maxHops => "maxHops"

/-- Whether a value is asked for that is out of range. -/
def isOut (options : SearchOptions) (config : Config) : RangedOption → Bool
  | maxFiles => options.maxFiles.any
      (!between 1 (min maxFilesCeiling config.search.maxFilesLimit) ·)
  | fuzzyThreshold => options.fuzzyThreshold.any (!isLikeness ·)
  | maxFileSize => options.maxFileSize.any fun n => !decide (1 ≤ n)
  | contextWindow => options.contextWindow.any (!between 0 maxContextWindow ·)
  | maxHops => options.maxHops.any (!between 1 3 ·)

/-- How the value asked for is written. -/
def asked (options : SearchOptions) : RangedOption → Option String
  | maxFiles => options.maxFiles.map toString
  | fuzzyThreshold => options.fuzzyThreshold.map Number.shortest
  | maxFileSize => options.maxFileSize.map toString
  | contextWindow => options.contextWindow.map toString
  | maxHops => options.maxHops.map toString

/-- How the value in force is written. -/
def inForce (resolved : ResolvedOptions) : RangedOption → String
  | maxFiles => toString resolved.maxFiles
  | fuzzyThreshold => Number.shortest32 resolved.fuzzyThreshold
  | maxFileSize => toString resolved.maxFileSize
  | contextWindow => toString resolved.contextWindow
  | maxHops => toString resolved.maxHops

/-- The note on an option. -/
def noteOn (options : SearchOptions) (config : Config) (kind : SearchKind) :
    RangedOption → Option String
  | maxFiles => (settleFiles config kind options.maxFiles).2
  | fuzzyThreshold => (settleThreshold config options.fuzzyThreshold).2
  | maxFileSize => (settleSize config options.maxFileSize).2
  | contextWindow => (settleWindow config options.contextWindow).2
  | maxHops => (settleHops config options.maxHops).2

variable {options : SearchOptions} {config : Config}

variable (hvalid : config.problem? = none) (hsigned : options.IsSigned) (kind : SearchKind)
  (field : RangedOption)

include hvalid hsigned

theorem isSome_noteOn : (field.noteOn options config kind).isSome = field.isOut options config := by
  cases field with
  | maxFiles => exact (settleFiles_isSettled hvalid kind options.maxFiles).isSome_note
  | fuzzyThreshold => exact (settleThreshold_isSettled config options.fuzzyThreshold).isSome_note
  | maxFileSize => exact (settleSize_isSettled config hsigned).isSome_note
  | contextWindow => exact (settleNumber_isSettled options.contextWindow).isSome_note
  | maxHops => exact (settleHops_isSettled config options.maxHops).isSome_note

theorem noteOn_eq {text : String} (htext : text ∈ field.noteOn options config kind) :
    ∃ asked ∈ field.asked options, ∃ verb ∈ verbs, text = field.name ++ " " ++ asked ++ " " ++ verb
      ++ " " ++ field.inForce (options.resolve config kind) := by
  cases field with
  | maxFiles => exact (settleFiles_isSettled hvalid kind _).note_eq htext
  | fuzzyThreshold => exact (settleThreshold_isSettled config _).note_eq htext
  | maxFileSize => exact (settleSize_isSettled config hsigned).note_eq htext
  | contextWindow => exact (settleNumber_isSettled _).note_eq htext
  | maxHops => exact (settleHops_isSettled config _).note_eq htext

end RangedOption

/-- What a function makes of the entries that it does not leave out. -/
theorem forall₂_filterMap {α β : Type} {R : α → β → Prop} {f : α → Option β} {p : α → Bool}
    (hsome : ∀ a, (f a).isSome = p a) (hrel : ∀ a, ∀ b ∈ f a, R a b) (list : List α) :
    List.Forall₂ R (list.filter p) (list.filterMap f) := by
  induction list with
  | nil => exact .nil
  | cons a list ih =>
    rw [List.filter_cons, List.filterMap_cons, ← hsome a]
    cases ha : f a with
    | none => exact ih
    | some b => exact .cons (hrel a b ha) ih

/-- The notes of all options. -/
theorem resolve_adjustments (options : SearchOptions) (config : Config) (kind : SearchKind) :
    (options.resolve config kind).adjustments
      = RangedOption.all.filterMap (RangedOption.noteOn options config kind) :=
  rfl

/-! ### All options -/

/-- With any settings that make sense, and whatever signed numbers of 64 bits and whatever likeness
are asked for: the number of files, the size of a file, the number of imports followed and the
likeness that options are resolved to are in range, as are the lines around a match if the caller
says how many; a value in range is kept; the notes are one on each value out of range, in order,
with the value that takes its place; and the patterns of the caller that are not among those of the
settings are added to them in order, each once. -/
theorem resolve_laws (options : SearchOptions) (config : Config) (kind : SearchKind)
    (hvalid : config.problem? = none) (hsigned : options.IsSigned) :
    let resolved := options.resolve config kind
    let limit := min maxFilesCeiling config.search.maxFilesLimit
    ((1 ≤ resolved.maxFiles ∧ resolved.maxFiles ≤ limit)
        ∧ ∀ n ∈ options.maxFiles, 1 ≤ n → n ≤ limit → resolved.maxFiles = n)
      ∧ (1 ≤ resolved.maxFileSize
        ∧ ∀ n ∈ options.maxFileSize, 1 ≤ n → resolved.maxFileSize = n)
      ∧ ((1 ≤ resolved.maxHops ∧ resolved.maxHops ≤ 3)
        ∧ ∀ n ∈ options.maxHops, 1 ≤ n → n ≤ 3 → resolved.maxHops = n)
      ∧ ((0 ≤ resolved.fuzzyThreshold ∧ resolved.fuzzyThreshold ≤ 1)
        ∧ (resolved.fuzzyThreshold = config.search.fuzzyThreshold
          ∨ ∃ t ∈ options.fuzzyThreshold, (0 ≤ t ∧ t ≤ 1)
            ∧ resolved.fuzzyThreshold = Number.narrow t)
        ∧ ∀ t ∈ options.fuzzyThreshold, 0 ≤ t → t ≤ 1 → resolved.fuzzyThreshold = Number.narrow t)
      ∧ ((∀ n ∈ options.contextWindow, 0 ≤ n → resolved.contextWindow ≤ maxContextWindow)
        ∧ (∀ n ∈ options.contextWindow, n < 0 →
          resolved.contextWindow = config.search.contextWindow)
        ∧ ∀ n ∈ options.contextWindow, 0 ≤ n → n ≤ maxContextWindow → resolved.contextWindow = n)
      ∧ resolved.adjustments.length = RangedOption.all.countP (RangedOption.isOut options config)
      ∧ List.Forall₂ (fun field text => ∃ asked ∈ field.asked options, ∃ verb ∈ verbs,
          text = field.name ++ " " ++ asked ++ " " ++ verb ++ " " ++ field.inForce resolved)
        (RangedOption.all.filter (RangedOption.isOut options config)) resolved.adjustments
      ∧ resolved.excludePatterns = config.walker.excludePatterns
        ++ (distinct options.excludePatterns).filter
          (!config.walker.excludePatterns.contains ·) := by
  intro resolved limit
  obtain ⟨hsize, -, hlikeness, -⟩ := Config.problem?_eq_none_iff.mp hvalid
  have hfiles := options.maxFiles_resolve_mem config kind
  rw [Config.filesLimit_eq hvalid] at hfiles
  have hhops := settleHops_mem config options.maxHops
  have hnotes := forall₂_filterMap
    (fun field => RangedOption.isSome_noteOn hvalid hsigned kind field)
    (fun field _ htext => RangedOption.noteOn_eq hvalid hsigned kind field htext) RangedOption.all
  rw [← resolve_adjustments] at hnotes
  refine ⟨⟨hfiles, fun n hn hlow hhigh => ?_⟩, ⟨?_, fun n hn hlow => ?_⟩,
    ⟨hhops, fun n hn hlow hhigh => ?_⟩, ⟨?_, ?_, fun t ht hlow hhigh => ?_⟩,
    ⟨fun n hn hlow => ?_, fun n hn hlt => ?_, fun n hn hlow hhigh => ?_⟩, ?_, hnotes,
    foldl_pushUnique_eq config.walker.excludePatterns options.excludePatterns⟩
  · have hkept : resolved.maxFiles = n.toNat :=
      (settleFiles_isSettled hvalid kind options.maxFiles).value_eq hn
        (between_iff.mpr ⟨hlow, hhigh⟩)
    omega
  · exact low_le_settleNumber hsize (by decide) options.maxFileSize
  · have hkept : resolved.maxFileSize = n.toNat :=
      (settleSize_isSettled config hsigned).value_eq hn (decide_eq_true hlow)
    omega
  · have hkept : resolved.maxHops = n.toNat :=
      (settleHops_isSettled config options.maxHops).value_eq hn (between_iff.mpr ⟨hlow, hhigh⟩)
    omega
  · exact settleThreshold_mem config hlikeness options.fuzzyThreshold
  · exact settleThreshold_eq_or config options.fuzzyThreshold
  · exact (settleThreshold_isSettled config options.fuzzyThreshold).value_eq ht
      (isLikeness_iff.mpr ⟨hlow, hhigh⟩)
  · exact settleNumber_le_of_le hn hlow
  · have husual : options.contextWindow = some n := hn
    show (settleWindow config options.contextWindow).1 = _
    rw [husual, settleWindow, settleNumber_of_lt hlt]
  · have hkept : resolved.contextWindow = n.toNat :=
      (settleNumber_isSettled options.contextWindow).value_eq hn
        (between_iff.mpr ⟨hlow, hhigh⟩)
    omega
  · rw [List.countP_eq_length_filter]
    exact hnotes.length_eq.symm

/-- What a host may pass that knows nothing of the ranges. -/
def malformed : SearchOptions where
  maxFiles := some (-3)
  fuzzyThreshold := some 2
  maxFileSize := some 0
  contextWindow := some 51
  maxHops := some 9

theorem isSigned_malformed : malformed.IsSigned := by
  rw [IsSigned]
  decide

/-- Each of the five values is out of range, so there are five notes. -/
theorem resolve_laws_malformed :
    ({} : Config).problem? = none ∧ malformed.IsSigned
      ∧ (malformed.resolve {} .keyword).adjustments.length = 5 :=
  ⟨by decide, isSigned_malformed,
    (resolve_laws malformed {} .keyword (by decide) isSigned_malformed).2.2.2.2.2.1.trans
      (by decide)⟩

end SearchOptions

end SourceRetrieval
