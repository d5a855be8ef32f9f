/-
Loads that race with changes.

Any number of loads go on at once, each in its own steps, while files are written,
touched and removed and entries of the cache are dropped.

* `Race.perform` — what an event does, and `Race.after` — a race after a number of
  events;
* `Race.Before.same_file` — a file with a time that has been seen is the file that
  had it then;
* `loads_linearize` — a load that succeeds tells what its file held at an instant
  between its first step and its last, and an entry with the time of a file tells
  what the file holds.

Design notes: an event that changes a file brings the time of the change, and
nothing happens if a file has had that time before.  A file may change between the
first step of a load and the third, and then an entry is recorded that is newer than
its time.  It does no harm, since a load that it serves has found a file with that
time: either the load began before the file was read, or the file has not changed
from then on.
-/
import Mathlib.Logic.Function.Basic
import SourceRetrieval.Proofs.Engine.Steps
import SourceRetrieval.Proofs.FileTree.Stamp

namespace SourceRetrieval

open Engine MemoryTree SourceRetrieval.Path

/-- Files, a cache, and loads that use them. -/
structure Race where
  memory : MemoryTree
  /-- All times that files have had. -/
  times : List Nat
  dated : ∀ file ∈ memory.files, file.modified ∈ times
  cache : AnalysisCache
  stage : Nat → Stage

/-- The next step of a load, or a change of the files or of the cache. -/
inductive RaceEvent where
  | advance (load : Nat)
  | write (time : Nat) (path : Path) (content : ByteArray)
  | touch (time : Nat) (path : Path)
  | remove (path : Path)
  | deny (path : Path)
  | drop (path : Path)
  | dropAll

namespace Race

/-- Nothing cached, and no load begun. -/
def begin (memory : MemoryTree) (capacity : Nat) : Race where
  memory := memory
  times := memory.files.map (·.modified)
  dated _ h := List.mem_map_of_mem h
  cache := { capacity := capacity }
  stage _ := .begun

/-- Change files at a time, if that has not been in use. -/
def stamp (race : Race) (time : Nat) (memory : MemoryTree)
    (h : ∀ file ∈ memory.files, file.modified = time ∨ file ∈ race.memory.files) : Race :=
  if time ∈ race.times then race
  else
    { race with
      memory := memory
      times := time :: race.times
      dated := by
        intro file hfile
        rcases h file hfile with hnew | hold
        · rw [hnew]
          exact List.mem_cons_self
        · exact List.mem_cons_of_mem _ (race.dated file hold) }

/-- The race after an event. -/
def perform (engine : Engine) (requests : Nat → Request) (race : Race) : RaceEvent → Race
  | .advance load =>
    let next := engine.advance race.memory.tree (requests load) (race.stage load, race.cache)
    { race with cache := next.2, stage := Function.update race.stage load next.1 }
  | .write time path content =>
    race.stamp time (race.memory.addAt time path content) fun _ => mem_addAt
  | .touch time path => race.stamp time (race.memory.touchAt time path) fun _ => mem_touchAt
  | .remove path =>
    { race with
      memory := (race.memory.remove path).1
      dated := fun file hfile => race.dated file (List.mem_filter.mp hfile).1 }
  | .deny path =>
    { race with
      memory := race.memory.deny path
      dated := fun file hfile => race.dated file hfile }
  | .drop path => { race with cache := (race.cache.invalidate path).1 }
  | .dropAll => { race with cache := race.cache.invalidateAll }

/-- The race after the first `n` events of a schedule. -/
def after (engine : Engine) (requests : Nat → Request) (start : Race) (schedule : Nat → RaceEvent) :
    Nat → Race
  | 0 => start
  | n + 1 => (after engine requests start schedule n).perform engine requests (schedule n)

variable {engine : Engine} {requests : Nat → Request}

/-! ### Times -/

/-- Whatever has a time of the earlier race is a file of it. -/
structure Before (race later : Race) : Prop where
  times : ∀ time ∈ race.times, time ∈ later.times
  old : ∀ file ∈ later.memory.files, file.modified ∈ race.times → file ∈ race.memory.files

theorem Before.refl (race : Race) : race.Before race := ⟨fun _ h => h, fun _ h _ => h⟩

theorem Before.trans {a b c : Race} (hab : a.Before b) (hbc : b.Before c) : a.Before c := by
  refine ⟨fun time h => hbc.times time (hab.times time h), fun file hfile htime => ?_⟩
  exact hab.old file (hbc.old file hfile (hab.times _ htime)) htime

theorem before_stamp (race : Race) {time : Nat} {memory : MemoryTree}
    (h : ∀ file ∈ memory.files, file.modified = time ∨ file ∈ race.memory.files) :
    race.Before (race.stamp time memory h) := by
  rw [stamp]
  split
  · exact Before.refl race
  next hfresh =>
    refine ⟨fun _ h => List.mem_cons_of_mem _ h, fun file hfile htime => ?_⟩
    rcases h file hfile with hnew | hold
    · rw [hnew] at htime
      exact absurd htime hfresh
    · exact hold

theorem before_perform (race : Race) (event : RaceEvent) :
    race.Before (race.perform engine requests event) := by
  cases event with
  | advance load => exact ⟨fun _ h => h, fun _ h _ => h⟩
  | write time path content => exact race.before_stamp fun _ => mem_addAt
  | touch time path => exact race.before_stamp fun _ => mem_touchAt
  | remove path => exact ⟨fun _ h => h, fun _ h _ => (List.mem_filter.mp h).1⟩
  | deny path => exact ⟨fun _ h => h, fun _ h _ => h⟩
  | drop path => exact ⟨fun _ h => h, fun _ h _ => h⟩
  | dropAll => exact ⟨fun _ h => h, fun _ h _ => h⟩

/-- If a file has a time that some file had before, it is whatever file has been at its path
since. -/
theorem Before.same_file {a b c : Race} (hab : a.Before b) (hbc : b.Before c)
    {first middle last : MemoryFile} (hfirst : first ∈ a.memory.files)
    (hmiddle : middle ∈ b.memory.files) (hlast : last ∈ c.memory.files)
    (htime : last.modified = first.modified)
    (hpath : last.path.components = middle.path.components) : last = middle := by
  have hseen : last.modified ∈ b.times := by
    rw [htime]
    exact hab.times _ (a.dated first hfirst)
  exact eq_of_components_eq (hbc.old last hlast hseen) hmiddle hpath

/-! ### Runs -/

/-- Each race comes from the one before by an event of the schedule. -/
def IsRun (engine : Engine) (requests : Nat → Request) (schedule : Nat → RaceEvent)
    (run : Nat → Race) : Prop :=
  ∀ n, run (n + 1) = (run n).perform engine requests (schedule n)

variable {schedule : Nat → RaceEvent} {run : Nat → Race}

theorem IsRun.before (h : IsRun engine requests schedule run) {m n : Nat} (hle : m ≤ n) :
    (run m).Before (run n) := by
  induction hle with
  | refl => exact Before.refl _
  | @step n _ ih =>
    rw [h n]
    exact ih.trans (before_perform _ _)

theorem stage_stamp (race : Race) {time : Nat} {memory : MemoryTree}
    (h : ∀ file ∈ memory.files, file.modified = time ∨ file ∈ race.memory.files) :
    (race.stamp time memory h).stage = race.stage := by
  rw [stamp]
  split <;> rfl

theorem cache_stamp (race : Race) {time : Nat} {memory : MemoryTree}
    (h : ∀ file ∈ memory.files, file.modified = time ∨ file ∈ race.memory.files) :
    (race.stamp time memory h).cache = race.cache := by
  rw [stamp]
  split <;> rfl

/-- An event is a step of a load, or it leaves all stages alone and adds no entry. -/
theorem perform_cases (engine : Engine) (requests : Nat → Request) (race : Race)
    (event : RaceEvent) :
    (∃ load, event = .advance load)
      ∨ ((race.perform engine requests event).stage = race.stage
        ∧ ∀ entry ∈ (race.perform engine requests event).cache.entries,
          entry ∈ race.cache.entries) := by
  cases event with
  | advance load => exact .inl ⟨load, rfl⟩
  | write time path content =>
    right
    simp only [perform, stage_stamp, cache_stamp]
    exact ⟨trivial, fun _ h => h⟩
  | touch time path =>
    right
    simp only [perform, stage_stamp, cache_stamp]
    exact ⟨trivial, fun _ h => h⟩
  | remove path => exact .inr ⟨rfl, fun _ h => h⟩
  | deny path => exact .inr ⟨rfl, fun _ h => h⟩
  | drop path => exact .inr ⟨rfl, fun _ h => AnalysisCache.mem_others h⟩
  | dropAll => exact .inr ⟨rfl, by nofun⟩

/-! ### Where analyses come from -/

/-- The file at a path has a time. -/
def HasTime (race : Race) (path : Path) (modified : Nat) : Prop :=
  ∃ file, race.memory.file? path = some file ∧ file.modified = modified

/-- The file at a path holds what has this analysis. -/
def Shows (engine : Engine) (race : Race) (path : Path) (analyzed : AnalyzedFile) : Prop :=
  ∃ file, race.memory.file? path = some file
    ∧ engine.analysisOf analyzed.path file.content = .ok analyzed
    ∧ analyzed.path.components = path.components

theorem shows_of_analysisOf {race : Race} {path : Path} {file : MemoryFile}
    {analyzed : AnalyzedFile} (hfile : race.memory.file? path = some file)
    (hanalysis : engine.analysisOf path file.content = .ok analyzed) :
    race.Shows engine path analyzed := by
  have hpath := path_of_analysisOf hanalysis
  refine ⟨file, hfile, ?_, congrArg components hpath⟩
  rw [hpath]
  exact hanalysis

theorem Shows.congr {race : Race} {p q : Path} {analyzed : AnalyzedFile}
    (h : race.Shows engine p analyzed) (hpath : p.components = q.components) :
    race.Shows engine q analyzed := by
  obtain ⟨file, hfile, hanalysis, hp⟩ := h
  exact ⟨file, by rwa [← file?_congr hpath], hanalysis, hp.trans hpath⟩

/-- If a file had a time, another one is shown since, and again there is one with that time, then
the one shown is still there. -/
theorem Before.shows {a b c : Race} (hab : a.Before b) (hbc : b.Before c) {p q : Path}
    {modified : Nat} {analyzed : AnalyzedFile} (hfirst : a.HasTime p modified)
    (hmiddle : b.Shows engine q analyzed) (hlast : c.HasTime q modified) :
    c.Shows engine q analyzed := by
  obtain ⟨first, hfirst, rfl⟩ := hfirst
  obtain ⟨middle, hmiddle, hanalysis⟩ := hmiddle
  obtain ⟨last, hlast, htime⟩ := hlast
  obtain ⟨hfirst, -⟩ := file?_eq_some_iff.mp hfirst
  obtain ⟨hmem, hpath⟩ := file?_eq_some_iff.mp hmiddle
  obtain ⟨hmem', hpath'⟩ := file?_eq_some_iff.mp hlast
  obtain rfl : last = middle :=
    hab.same_file hbc hfirst hmem hmem' htime (hpath'.trans hpath.symm)
  exact ⟨last, hlast, hanalysis⟩

/-- The load takes its first step at this instant: until then it has not begun, and after that
it has. -/
def LooksAt (run : Nat → Race) (load a : Nat) : Prop :=
  ∀ n, (run n).stage load = .begun ↔ n ≤ a

/-- An entry has the time that its file had at one instant, and shows what it held at that
instant or later. -/
def Recorded (engine : Engine) (run : Nat → Race) (n : Nat) (entry : CacheEntry) : Prop :=
  ∃ s r, s ≤ r ∧ r < n ∧ (run s).HasTime entry.path entry.modified
    ∧ (run r).Shows engine entry.path entry.file

/-- What a load knows, with the instants at which it was so. -/
def Explained (engine : Engine) (requests : Nat → Request) (run : Nat → Race) (load n : Nat) :
    Stage → Prop
  | .begun => ∀ m ≤ n, (run m).stage load = .begun
  | .known modified _ | .missed modified _ =>
    ∃ a < n, LooksAt run load a ∧ (run a).HasTime (requests load).path modified
  | .read modified _ bytes =>
    ∃ a r, a ≤ r ∧ r < n ∧ LooksAt run load a
      ∧ (run a).HasTime (requests load).path modified
      ∧ ∃ file, (run r).memory.file? (requests load).path = some file ∧ file.content = bytes
  | .done (.ok (analyzed, _)) =>
    ∃ a k, a ≤ k ∧ k < n ∧ LooksAt run load a
      ∧ (run k).Shows engine (requests load).path analyzed
  | .done (.error _) => True

theorem Recorded.mono {n m : Nat} {entry : CacheEntry} (h : Recorded engine run n entry)
    (hle : n ≤ m) : Recorded engine run m entry := by
  obtain ⟨s, r, hs, hr, hrest⟩ := h
  exact ⟨s, r, hs, by omega, hrest⟩

/-- What has been known stays known, unless it is only that the load has not begun. -/
theorem Explained.succ {load n : Nat} {stage : Stage}
    (h : Explained engine requests run load n stage)
    (hbegun : stage = .begun → (run (n + 1)).stage load = .begun) :
    Explained engine requests run load (n + 1) stage := by
  match stage, h with
  | .begun, h =>
    intro m hm
    rcases Nat.le_succ_iff.mp hm with hm | rfl
    · exact h m hm
    · exact hbegun rfl
  | .known _ _, ⟨a, ha, hrest⟩ => exact ⟨a, by omega, hrest⟩
  | .missed _ _, ⟨a, ha, hrest⟩ => exact ⟨a, by omega, hrest⟩
  | .read _ _ _, ⟨a, r, ha, hr, hrest⟩ => exact ⟨a, r, ha, by omega, hrest⟩
  | .done (.ok _), ⟨a, k, ha, hk, hrest⟩ => exact ⟨a, k, ha, by omega, hrest⟩
  | .done (.error _), _ => trivial

/-! ### What an event does -/

theorem stage_succ (h : IsRun engine requests schedule run) (load n : Nat) :
    (run (n + 1)).stage load = (run n).stage load
      ∨ (run (n + 1)).stage load = (engine.advance (run n).memory.tree (requests load)
        ((run n).stage load, (run n).cache)).1 := by
  rw [h n]
  obtain ⟨other, heq⟩ | ⟨hstage, -⟩ := perform_cases engine requests (run n) (schedule n)
  · rw [heq]
    by_cases hload : load = other
    · subst hload
      exact .inr (Function.update_self load _ _)
    · exact .inl (Function.update_of_ne hload _ _)
  · rw [hstage]
    exact .inl rfl

theorem mem_cache_succ (h : IsRun engine requests schedule run) {n : Nat} {entry : CacheEntry}
    (hentry : entry ∈ (run (n + 1)).cache.entries) :
    entry ∈ (run n).cache.entries
      ∨ ∃ load, entry ∈ (engine.advance (run n).memory.tree (requests load)
        ((run n).stage load, (run n).cache)).2.entries := by
  rw [h n] at hentry
  obtain ⟨load, heq⟩ | ⟨-, hcache⟩ := perform_cases engine requests (run n) (schedule n)
  · rw [heq] at hentry
    exact .inr ⟨load, hentry⟩
  · exact .inl (hcache entry hentry)

theorem advance_ne_begun (memory : MemoryTree) (request : Request) (stage : Stage)
    (cache : AnalysisCache) :
    (engine.advance memory.tree request (stage, cache)).1 ≠ .begun := by
  intro hbegun
  cases stage with
  | begun =>
    obtain ⟨_, heq⟩ | ⟨_, -, heq⟩ := lookAt_cases memory request <;>
      simp [advance, heq] at hbegun
  | known modified size =>
    obtain heq | ⟨_, -, -, -, heq⟩ := lookUp_cases cache request modified size <;>
      simp [advance, heq] at hbegun
  | missed modified size =>
    obtain ⟨_, heq⟩ | ⟨_, -, heq⟩ := fetch_cases memory request modified size <;>
      simp [advance, heq] at hbegun
  | read modified size bytes =>
    obtain ⟨_, heq⟩ | ⟨_, -, heq⟩ := recordRead_cases engine cache request modified size bytes <;>
      simp [advance, heq] at hbegun
  | done result => simp [advance] at hbegun

theorem stage_ne_begun (h : IsRun engine requests schedule run) {load m n : Nat} (hle : m ≤ n)
    (hm : (run m).stage load ≠ .begun) : (run n).stage load ≠ .begun := by
  induction hle with
  | refl => exact hm
  | @step n _ ih =>
    obtain heq | heq := stage_succ h load n
    · rw [heq]
      exact ih
    · rw [heq]
      exact advance_ne_begun _ _ _ _

theorem looksAt_of_succ (h : IsRun engine requests schedule run) {load n : Nat}
    (hbefore : ∀ m ≤ n, (run m).stage load = .begun) (hnext : (run (n + 1)).stage load ≠ .begun) :
    LooksAt run load n := by
  intro m
  refine ⟨fun hbegun => ?_, hbefore m⟩
  by_contra hlt
  exact stage_ne_begun h (Nat.not_le.mp hlt) hnext hbegun

/-- The step of a load keeps its stage explained.  A load served by an entry shows what its
file held when it looked at it, if the entry was recorded before, and else what the file held
when that was read. -/
theorem explained_advance (h : IsRun engine requests schedule run) {load n : Nat}
    (hcache : ∀ entry ∈ (run n).cache.entries, Recorded engine run n entry)
    (hstage : Explained engine requests run load n ((run n).stage load))
    (hnext : (run (n + 1)).stage load = (engine.advance (run n).memory.tree (requests load)
      ((run n).stage load, (run n).cache)).1) :
    Explained engine requests run load (n + 1) ((run (n + 1)).stage load) := by
  have hmoved : (run (n + 1)).stage load ≠ .begun := by
    rw [hnext]
    exact advance_ne_begun _ _ _ _
  cases hnow : (run n).stage load with
  | begun =>
    rw [hnow] at hstage hnext
    have hlooks : LooksAt run load n := looksAt_of_succ h hstage hmoved
    obtain ⟨_, heq⟩ | ⟨file, hfile, heq⟩ := lookAt_cases (run n).memory (requests load)
    · rw [hnext, advance, heq]
      trivial
    · rw [hnext, advance, heq]
      exact ⟨n, Nat.lt_succ_self n, hlooks, file, hfile, rfl⟩
  | known modified size =>
    rw [hnow] at hstage hnext
    obtain ⟨a, ha, hlooks, htime⟩ := hstage
    obtain heq | ⟨entry, hentry, hpath, rfl, heq⟩ :=
      lookUp_cases (run n).cache (requests load) modified size
    · rw [hnext, advance, heq]
      exact ⟨a, by omega, hlooks, htime⟩
    · rw [hnext, advance, heq]
      obtain ⟨s, r, hs, hr, hfirst, hshows⟩ := hcache entry hentry
      have hshows' := hshows.congr hpath
      by_cases hlate : a ≤ r
      · exact ⟨a, r, hlate, by omega, hlooks, hshows'⟩
      · have hbefore : r ≤ a := by omega
        refine ⟨a, a, Nat.le_refl a, by omega, hlooks, ?_⟩
        exact (h.before hs).shows (h.before hbefore) hfirst hshows' htime
  | missed modified size =>
    rw [hnow] at hstage hnext
    obtain ⟨a, ha, hlooks, htime⟩ := hstage
    obtain ⟨_, heq⟩ | ⟨file, hfile, heq⟩ := fetch_cases (run n).memory (requests load) modified size
    · rw [hnext, advance, heq]
      trivial
    · rw [hnext, advance, heq]
      exact ⟨a, n, by omega, by omega, hlooks, htime, file, hfile, rfl⟩
  | read modified size bytes =>
    rw [hnow] at hstage hnext
    obtain ⟨a, r, ha, hr, hlooks, -, file, hfile, rfl⟩ := hstage
    obtain ⟨_, heq⟩ | ⟨analyzed, hanalysis, heq⟩ :=
      recordRead_cases engine (run n).cache (requests load) modified size file.content
    · rw [hnext, advance, heq]
      trivial
    · rw [hnext, advance, heq]
      exact ⟨a, r, ha, by omega, hlooks, shows_of_analysisOf hfile hanalysis⟩
  | done result =>
    rw [hnow] at hstage hnext
    rw [hnext]
    exact hstage.succ nofun

theorem explained_succ (h : IsRun engine requests schedule run) {load n : Nat}
    (hcache : ∀ entry ∈ (run n).cache.entries, Recorded engine run n entry)
    (hstage : Explained engine requests run load n ((run n).stage load)) :
    Explained engine requests run load (n + 1) ((run (n + 1)).stage load) := by
  obtain heq | heq := stage_succ h load n
  · rw [heq]
    exact hstage.succ fun hbegun => heq.trans hbegun
  · exact explained_advance h hcache hstage heq

theorem recorded_succ (h : IsRun engine requests schedule run) {n : Nat}
    (hcache : ∀ entry ∈ (run n).cache.entries, Recorded engine run n entry)
    (hstage : ∀ load, Explained engine requests run load n ((run n).stage load)) :
    ∀ entry ∈ (run (n + 1)).cache.entries, Recorded engine run (n + 1) entry := by
  have hold : ∀ entry ∈ (run n).cache.entries, Recorded engine run (n + 1) entry :=
    fun entry hentry => (hcache entry hentry).mono (Nat.le_succ n)
  intro entry hentry
  obtain hentry | ⟨load, hentry⟩ := mem_cache_succ h hentry
  · exact hold entry hentry
  · have hstage := hstage load
    cases hnow : (run n).stage load with
    | begun => rw [hnow] at hentry; exact hold entry hentry
    | known modified size => rw [hnow] at hentry; exact hold entry (mem_of_mem_lookUp hentry)
    | missed modified size => rw [hnow] at hentry; exact hold entry hentry
    | done result => rw [hnow] at hentry; exact hold entry hentry
    | read modified size bytes =>
      rw [hnow] at hentry hstage
      obtain ⟨a, r, ha, hr, -, htime, file, hfile, rfl⟩ := hstage
      obtain ⟨_, heq⟩ | ⟨analyzed, hanalysis, heq⟩ :=
        recordRead_cases engine (run n).cache (requests load) modified size file.content
      · rw [advance, heq] at hentry
        exact hold entry hentry
      · rw [advance, heq] at hentry
        rcases AnalysisCache.mem_of_mem_insert hentry with rfl | hentry
        · exact ⟨a, r, ha, by omega, htime, shows_of_analysisOf hfile hanalysis⟩
        · exact hold entry hentry

/-- In every race of a run all entries are recorded and all stages explained. -/
theorem explained (h : IsRun engine requests schedule run)
    (hcache : (run 0).cache.entries = []) (hstage : ∀ load, (run 0).stage load = .begun) (n : Nat) :
    (∀ entry ∈ (run n).cache.entries, Recorded engine run n entry)
      ∧ ∀ load, Explained engine requests run load n ((run n).stage load) := by
  induction n with
  | zero =>
    refine ⟨fun entry hentry => ?_, fun load => ?_⟩
    · rw [hcache] at hentry
      cases hentry
    · rw [hstage load]
      intro m hm
      rw [Nat.le_zero.mp hm]
      exact hstage load
  | succ n ih => exact ⟨recorded_succ h ih.1 ih.2, fun load => explained_succ h ih.1 (ih.2 load)⟩

/-- However the steps of loads, changes of files and losses of the cache come upon each other: a
load that succeeds gives the analysis of what its file held at an instant, not before the load
looked at it and before the load was done; and an entry that has the time of its file holds the
analysis of what the file holds. -/
theorem loads_linearize (engine : Engine) (requests : Nat → Request) (memory : MemoryTree)
    (capacity : Nat) (schedule : Nat → RaceEvent) :
    let run := after engine requests (begin memory capacity) schedule
    (∀ load n analyzed cached, (run n).stage load = .done (.ok (analyzed, cached)) →
      ∃ a k, LooksAt run load a ∧ a ≤ k ∧ k < n
        ∧ (run k).Shows engine (requests load).path analyzed)
    ∧ ∀ n, ∀ entry ∈ (run n).cache.entries, (run n).HasTime entry.path entry.modified →
      (run n).Shows engine entry.path entry.file := by
  intro run
  have hrun : IsRun engine requests schedule run := fun _ => rfl
  have hall := explained hrun rfl fun _ => rfl
  refine ⟨fun load n analyzed cached hdone => ?_, fun n entry hentry htime => ?_⟩
  · have hexplained := (hall n).2 load
    rw [hdone] at hexplained
    obtain ⟨a, k, ha, hk, hlooks, hshows⟩ := hexplained
    exact ⟨a, k, hlooks, ha, hk, hshows⟩
  · obtain ⟨s, r, hs, hr, hfirst, hshows⟩ := (hall n).1 entry hentry
    exact (hrun.before hs).shows (hrun.before (Nat.le_of_lt hr)) hfirst hshows htime

-- A file changes while it is loaded: the entry has its new content and its old time.
example :
    let engine : Engine := ⟨⟨"/ws"⟩, {}, .empty, {}, .standard, default⟩
    let path : Path := ⟨"/ws/a.md"⟩
    let start := begin (MemoryTree.add {} path "old".toUTF8) 1
    let events : List RaceEvent :=
      [.advance 0, .write 0 path "new".toUTF8, .advance 0, .advance 0, .advance 0]
    let last := after engine (fun _ => ⟨path, 9⟩) start (fun n => events.getD n .dropAll) 5
    last.cache.entries.map (fun entry => (entry.modified, entry.file.content))
      = [(MemoryTree.timeOf 1, "new")] := by
  decide +kernel

end Race

end SourceRetrieval
