import TestPlanner.Prose.Keywords
import TestPlanner.Prose.Sentences

/-!
# Tags and figures

The tags a text earns, its word and sentence counts, and how involved it is.
-/

set_option autoImplicit false

namespace TestPlanner.Prose

open Text

/-- The tags of a text, in table order. -/
def tags (text : List Char) : List String :=
  let small := lower text
  (tagRules.filter fun r => mentions r.2 small).map Prod.fst

/-- How many words a text has. -/
def wordCount (text : List Char) : Nat := (words text).length

/-- How many sentences a text has; a text without any counts as one. -/
def sentenceCount (text : List Char) : Nat := max 1 (sentences text).length

/-- How involved a text of so many words and sentences is. Fewer than twenty words, or fewer than
five per sentence, are simple; a hundred words with at least fifteen per sentence are complex. -/
def complexity (words sentences : Nat) : Complexity :=
  let sentences := max 1 sentences
  if words < 20 || words < 5 * sentences then .simple
  else if words ≥ 100 && words ≥ 15 * sentences then .complex
  else .moderate

/-- The record of an analysis. -/
def analysisRecord (text : List Char) (tier : StoryTier) (tagged : Bool) (timestamp : String) :
    AnalysisRecord :=
  ⟨"heuristic", tier, tagged, wordCount text, sentenceCount text,
    complexity (wordCount text) (sentenceCount text), timestamp⟩

end TestPlanner.Prose
