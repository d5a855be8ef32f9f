/-
What stands next to a reference.

* `isWord_of_mem_symbol` — the symbol of a query is made of characters of words;
* `standsApart_of_mem_findReferences` — no character of an ASCII identifier is next to a
  reference, not even across the ends of its line;
* `isWithinWord_iff` — so a reference to the symbol of a query is within a longer word just if a
  letter or numeral beyond ASCII is next to it;
* `not_forall_not_isWithinWord` — and it may be, as more characters end a name in a content than
  end a word of a query.

Design notes: a word of a query consists of letters and numerals of any script, `_` and `$`.  An
occurrence of a name counts as a whole word unless an ASCII letter or digit, `_` or `$` is next
to it.
-/
import SourceRetrieval.Proofs.Query.Coverage
import SourceRetrieval.Proofs.Ranking.LineByLine
import SourceRetrieval.Proofs.Text.WholeWords
import SourceRetrieval.Proofs.Unicode.CodeSet

namespace SourceRetrieval

open Text

/-! ### The symbol of a query -/

namespace Query

variable {c : Char} {cs word : List Char}

/-- A text that is not empty and made of characters of words. -/
def IsWord (word : List Char) : Prop := word ≠ [] ∧ ∀ c ∈ word, isWordPart c = true

/-- A character of a word is one of an ASCII identifier, or a letter or numeral beyond ASCII. -/
theorem isWordPart_iff :
    isWordPart c = true
      ↔ isIdentChar c = true ∨ 128 ≤ c.toNat ∧ Unicode.isAlphanumeric c = true := by
  by_cases h : c.toNat < 128
  · rw [isWordPart, isIdentChar, Unicode.isAlphanumeric, if_pos h]
    exact (or_iff_left fun hle => absurd hle.1 (by omega)).symm
  · have hident : isIdentChar c ≠ true := fun hident => h (isIdentChar_iff.mp hident).lt
    simp only [isIdentChar, ne_eq, Bool.or_eq_true, not_or, Bool.not_eq_true] at hident
    simp [isWordPart, isIdentChar, hident, Nat.le_of_not_lt h]

theorem isWordPart_toLower (c : Char) : isWordPart c.toLower = isWordPart c := by
  by_cases h : c.val ≥ 'A'.val ∧ c.val ≤ 'Z'.val
  · obtain ⟨hge, hle, hval⟩ := toNat_toLower h
    have hupper : IsIdentCode c.toNat := .inr (.inl ⟨hge, hle⟩)
    have hlower : IsIdentCode c.toLower.toNat :=
      .inr (.inr (.inl ⟨by rw [Char.toNat, hval]; omega, by rw [Char.toNat, hval]; omega⟩))
    rw [isWordPart_iff.mpr (.inl (isIdentChar_iff.mpr hupper)),
      isWordPart_iff.mpr (.inl (isIdentChar_iff.mpr hlower))]
  · rw [toLower_eq_self h]

theorem isWord_lower_iff : IsWord (lower word) ↔ IsWord word := by
  simp only [IsWord, lower, List.forall_mem_map, isWordPart_toLower, ne_eq, List.map_eq_nil_iff]

theorem isWord_of_mem_tokensOf (h : word ∈ tokensOf cs) : IsWord word := by
  obtain ⟨⟨piece, hpiece, rfl⟩, hterm⟩ := mem_tokensOf.mp h
  refine isWord_lower_iff.mpr ⟨?_, fun c hc => ?_⟩
  · rintro rfl
    cases hterm
  · have hsep := sep_eq_false_of_mem_splitBy hpiece c hc
    rwa [Bool.not_eq_false'] at hsep

theorem isWord_of_isCodeIdentifier (h : isCodeIdentifier word = true) : IsWord word := by
  cases word with
  | nil => cases h
  | cons first rest =>
    simp only [isCodeIdentifier, Bool.and_eq_true] at h
    refine ⟨List.cons_ne_nil first rest, fun c hc => isWordPart_iff.mpr (.inl ?_)⟩
    exact List.all_eq_true.mp h.1.2 c hc

end Query

namespace QueryPlan

open Query

theorem symbol_make (query : String) (kind : Option SearchKind) :
    (make query kind).symbol = (targetSymbol? (trim query.toList)).map String.ofList := by
  rw [make]

theorem isWord_of_mem_symbol {query symbol : String} {kind : Option SearchKind}
    (h : symbol ∈ (make query kind).symbol) : IsWord symbol.toList := by
  rw [symbol_make, Option.mem_def, Option.map_eq_some_iff] at h
  obtain ⟨word, hword, rfl⟩ := h
  rw [targetSymbol?, Option.or_eq_some_iff] at hword
  rw [String.toList_ofList]
  rcases hword with hword | ⟨-, hword⟩
  · exact isWord_of_isCodeIdentifier (List.find?_some hword)
  · have htarget := List.find?_some hword
    rw [isPlainTarget, Bool.and_eq_true, List.contains_iff_mem] at htarget
    exact isWord_lower_iff.mp (isWord_of_mem_tokensOf htarget.2)

end QueryPlan

/-! ### The characters next to a reference -/

namespace Ranking

variable {content name : List Char} {declared : List Nat} {r : Reference}

/-- The characters right before and after a range of a content. -/
def neighbours (content : List Char) (start stop : Nat) : List Char :=
  (takeBytes start content).getLast?.toList ++ (dropBytes stop content).head?.toList

/-- The text in a range goes on before or after the range as a word of a query would. -/
def IsWithinWord (content : List Char) (start stop : Nat) : Prop :=
  ∃ c ∈ neighbours content start stop, Query.isWordPart c = true

theorem standsApart_of_mem_findReferences (hname : '\n' ∉ name)
    (h : r ∈ findReferences content name declared) : StandsApart name content r.start := by
  have hstart := List.mem_map_of_mem (f := Reference.start) h
  rw [map_start_findReferences content hname] at hstart
  exact (mem_wordOccurrences_iff.mp (List.mem_filter.mp hstart).1).2

/-- No character of an ASCII identifier is next to a reference. -/
theorem isIdentChar_of_mem_neighbours (hname : '\n' ∉ name)
    (h : r ∈ findReferences content name declared) {c : Char}
    (hc : c ∈ neighbours content r.start r.stop) : isIdentChar c = false := by
  have hneighbour : ∀ {neighbour : Option Char}, separates neighbour = true → c ∈ neighbour →
      isIdentChar c = false := by
    rintro _ hseparates rfl
    exact (Bool.not_eq_true' _).mp hseparates
  obtain ⟨before, after, rfl, hstart, hbefore, hafter⟩ := standsApart_of_mem_findReferences hname h
  have hstop : r.stop = byteLength (before ++ name) := by
    rw [byteLength_append, ← hstart]
    exact ((areReferences_findReferences _ name declared).covers r h).stop_eq
  rw [neighbours, hstop, dropBytes_append, hstart, List.append_assoc, takeBytes_append,
    List.mem_append, Option.mem_toList, Option.mem_toList] at hc
  rcases hc with hc | hc
  · exact hneighbour hbefore hc
  · exact hneighbour hafter hc

/-- The symbol of a query is a word, and each reference to it holds this word.  A reference is
within a longer word just if a letter or numeral beyond ASCII is next to it. -/
theorem isWithinWord_iff (query : String) (kind : Option SearchKind) (content : List Char)
    (declared : List Nat) :
    ∀ symbol ∈ (QueryPlan.make query kind).symbol,
      Query.IsWord symbol.toList
        ∧ ∀ r ∈ findReferences content symbol.toList declared,
          cut r.start r.stop content = symbol.toList
            ∧ (IsWithinWord content r.start r.stop
              ↔ ∃ c ∈ neighbours content r.start r.stop,
                128 ≤ c.toNat ∧ Unicode.isAlphanumeric c = true) := by
  intro symbol hsymbol
  have hword := QueryPlan.isWord_of_mem_symbol hsymbol
  have hnewline : '\n' ∉ symbol.toList := fun hmem => absurd (hword.2 _ hmem) (by decide)
  refine ⟨hword, fun r hr => ⟨?_, ?_⟩⟩
  · exact ((areReferences_findReferences content symbol.toList declared).covers r hr).cut_eq
  · refine exists_congr fun c => and_congr_right fun hc => ?_
    rw [Query.isWordPart_iff, isIdentChar_of_mem_neighbours hnewline hr hc]
    exact or_iff_right Bool.false_ne_true

/-- A numeral that is a character by itself, beyond ASCII. -/
theorem isAlphanumeric_romanEight : Unicode.isAlphanumeric 'Ⅷ' = true := by
  have hletter : Unicode.Category.letterNumber.Holds 'Ⅷ'.toNat :=
    Unicode.CodeSet.holds_ofRanges_iff.mpr
      ⟨(0x2160, 0x2182), by decide +kernel, by decide, by decide⟩
  have hnumber : Unicode.Category.number.Holds 'Ⅷ'.toNat :=
    Unicode.CodeSet.holds_unions_iff.mpr
      ⟨_, List.mem_cons_of_mem _ List.mem_cons_self, hletter⟩
  rw [Unicode.isAlphanumeric, if_neg (by decide)]
  exact Unicode.CodeSet.has_unions_iff.mpr
    ⟨_, List.mem_cons_of_mem _ List.mem_cons_self, hnumber⟩

/-- In this text the first occurrence goes on with an ASCII letter and is no reference, and the
second one is a reference that goes on with a numeral. -/
theorem isWithinWord_iff_numeral :
    "henry" ∈ (QueryPlan.make "henry" none).symbol
      ∧ ⟨1, 10, 15, .read⟩ ∈ findReferences "henrys += henryⅧ;".toList "henry".toList []
      ∧ IsWithinWord "henrys += henryⅧ;".toList 10 15 := by
  have hsymbol : "henry" ∈ (QueryPlan.make "henry" none).symbol := by decide
  have hr : ⟨1, 10, 15, .read⟩ ∈ findReferences "henrys += henryⅧ;".toList "henry".toList [] := by
    decide
  refine ⟨hsymbol, hr, ?_⟩
  have href := (isWithinWord_iff "henry" none "henrys += henryⅧ;".toList [] "henry" hsymbol).2 _ hr
  exact href.2.mpr ⟨'Ⅷ', by decide, by decide, isAlphanumeric_romanEight⟩

/-- A reference may be a part of a longer word: a numeral beyond ASCII is a part of a word, but ends
a name. -/
theorem not_forall_not_isWithinWord :
    ¬∀ (query : String) (kind : Option SearchKind) (content : List Char) (declared : List Nat),
      ∀ symbol ∈ (QueryPlan.make query kind).symbol,
        ∀ r ∈ findReferences content symbol.toList declared,
          ¬IsWithinWord content r.start r.stop := by
  intro h
  have hsymbol : "henry" ∈ (QueryPlan.make "henry" none).symbol := by decide
  have hr : ⟨1, 6, 11, .read⟩ ∈ findReferences "const henryⅧ = 1;".toList "henry".toList [] := by
    decide
  have hpart : Query.isWordPart 'Ⅷ' = true :=
    Query.isWordPart_iff.mpr (.inr ⟨by decide, isAlphanumeric_romanEight⟩)
  exact h "henry" none "const henryⅧ = 1;".toList [] "henry" hsymbol _ hr
    ⟨'Ⅷ', by decide, hpart⟩

end Ranking

end SourceRetrieval
