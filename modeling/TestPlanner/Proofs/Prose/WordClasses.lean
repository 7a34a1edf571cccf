import TestPlanner.Proofs.Text.Runs
import TestPlanner.Proofs.Text.Spelling
import TestPlanner.Prose.Analysis
import Mathlib.Data.List.Forall2

/-!
# Sentences and the classes of their words

**Sentences** are the pieces of a text between runs of sentence marks that show something, trimmed.
**Words** are runs of letters, apostrophes and hyphens, each from a letter on and as long as possible
(`HasWords`). Both ways to cut a text are settled by the text.

A word is marked where it stands, with the word directly in front of it in its sentence
(`Occurrence`). What a class holds is a choice among these occurrences, so it keeps the order of the
text and every repetition (`mark_eq`). The lexicon is asked without regard to letter case, which on
ASCII words is the small form letter by letter (`isVerb_iff`).
-/

set_option autoImplicit false

namespace TestPlanner.Prose

open Text

/-! ## Words -/

/-- The words of a sentence, in order. -/
inductive HasWords : List Char → List (List Char) → Prop where
  /-- without letters there is no word -/
  | none {s : List Char} (wordless : ∀ c ∈ s, isAsciiLetter c = false) : HasWords s []
  /-- a word starts at the first letter and goes on as long as possible -/
  | word {gap word rest : List Char} {words : List (List Char)}
      (wordless : ∀ c ∈ gap, isAsciiLetter c = false)
      (starts : (word.head?.any isAsciiLetter) = true) (inside : ∀ c ∈ word, isWordChar c = true)
      (stops : ∀ c ∈ rest.head?, isWordChar c = false) (others : HasWords rest words) :
      HasWords (gap ++ (word ++ rest)) (word :: words)

theorem isAsciiLetter_of_not_isWordChar {c : Char} (outside : isWordChar c = false) :
    isAsciiLetter c = false := by
  rw [isWordChar, Bool.or_eq_false_iff, Bool.or_eq_false_iff] at outside
  exact outside.1.1

theorem toNat_lt_of_isWordChar {c : Char} (inside : isWordChar c = true) : c.toNat < 128 := by
  simp only [isWordChar, Bool.or_eq_true, beq_iff_eq] at inside
  rcases inside with (letter | rfl) | rfl
  · exact Naming.toNat_lt_of_isAsciiLetter letter
  · decide
  · decide

/-- Whatever stands in front of the first letter is passed over. -/
theorem sentenceWords_append {gap : List Char} (wordless : ∀ c ∈ gap, isAsciiLetter c = false)
    (s : List Char) : sentenceWords (gap ++ s) = sentenceWords s := by
  induction gap with
  | nil => rfl
  | cons c gap ih =>
    obtain ⟨first, later⟩ := List.forall_mem_cons.mp wordless
    rw [List.cons_append, sentenceWords, wordsFrom, if_pos List.isEmpty_nil, first, if_neg (by decide)]
    exact ih later

/-- A word that has begun goes on as long as possible. -/
theorem wordsFrom_append {current tail rest : List Char} (begun : current ≠ [])
    (inside : ∀ c ∈ tail, isWordChar c = true) (stops : ∀ c ∈ rest.head?, isWordChar c = false) :
    wordsFrom current (tail ++ rest) = (current.reverse ++ tail) :: sentenceWords rest := by
  have open' : current.isEmpty = false := by simpa using begun
  induction tail generalizing current with
  | nil =>
    rw [List.nil_append, List.append_nil]
    cases rest with
    | nil =>
      rw [wordsFrom, open', if_neg (by decide)]
      rfl
    | cons c rest =>
      have outside := stops c rfl
      have passed := sentenceWords_append
        (List.forall_mem_singleton.mpr (isAsciiLetter_of_not_isWordChar outside)) rest
      rw [List.singleton_append] at passed
      rw [wordsFrom, open', outside, if_neg (by decide), if_neg (by decide), passed, sentenceWords]
  | cons c tail ih =>
    obtain ⟨first, later⟩ := List.forall_mem_cons.mp inside
    rw [List.cons_append, wordsFrom, open', first, if_neg (by decide), if_pos rfl,
      ih (List.cons_ne_nil c current) later rfl, List.reverse_cons, List.append_assoc,
      List.singleton_append]

/-- **The words of a sentence are those that are cut from it.** -/
theorem HasWords.eq_sentenceWords {s : List Char} {words : List (List Char)}
    (has : HasWords s words) : words = sentenceWords s := by
  induction has with
  | @none s wordless =>
    have passed := sentenceWords_append wordless []
    rw [List.append_nil] at passed
    rw [passed]
    rfl
  | @word gap word rest words wordless starts inside stops _ ih =>
    cases word with
    | nil => cases starts
    | cons c tail =>
      have letter : isAsciiLetter c = true := starts
      rw [sentenceWords_append wordless, List.cons_append, sentenceWords, wordsFrom,
        if_pos List.isEmpty_nil, if_pos letter,
        wordsFrom_append (List.cons_ne_nil c []) (List.forall_mem_cons.mp inside).2 stops, ih]
      rfl

theorem hasWords_sentenceWords (s : List Char) : HasWords s (sentenceWords s) := by
  -- the words are found one by one
  have found : ∃ words, HasWords s words := by
    induction length : s.length using Nat.strong_induction_on generalizing s with
    | _ n ih =>
      obtain ⟨gap, behind, rfl, wordless, starts⟩ := exists_run (fun c => !isAsciiLetter c) s
      have wordless : ∀ c ∈ gap, isAsciiLetter c = false :=
        fun c member => by simpa using wordless c member
      cases behind with
      | nil =>
        rw [List.append_nil]
        exact ⟨[], .none wordless⟩
      | cons c behind =>
        have letter : isAsciiLetter c = true := by simpa using starts c rfl
        have own : isWordChar c = true := by rw [isWordChar, letter]; rfl
        obtain ⟨tail, rest, rfl, inside, stops⟩ := exists_run isWordChar behind
        obtain ⟨words, others⟩ := ih rest.length (by
          rw [← length, List.length_append, List.length_cons, List.length_append]
          omega) rest rfl
        have has : HasWords (gap ++ (c :: tail ++ rest)) ((c :: tail) :: words) :=
          .word wordless letter (List.forall_mem_cons.mpr ⟨own, inside⟩) stops others
        exact ⟨_, has⟩
  obtain ⟨words, has⟩ := found
  rwa [← has.eq_sentenceWords]

theorem hasWords_iff {s : List Char} {words : List (List Char)} :
    HasWords s words ↔ words = sentenceWords s := by
  constructor
  · exact HasWords.eq_sentenceWords
  · rintro rfl
    exact hasWords_sentenceWords s

/-- A word starts with a letter, and has letters, apostrophes and hyphens only. -/
theorem HasWords.of_mem {s word : List Char} {words : List (List Char)} (has : HasWords s words)
    (listed : word ∈ words) :
    (word.head?.any isAsciiLetter) = true ∧ ∀ c ∈ word, isWordChar c = true := by
  induction has with
  | none => cases listed
  | word _ starts inside _ _ ih =>
    rcases List.mem_cons.mp listed with rfl | later
    · exact ⟨starts, inside⟩
    · exact ih later

/-! ## The lexicon -/

/-- A listed verb, or one with an ending behind it or in place of its final e. -/
def IsVerbForm (word : List Char) : Prop :=
  ∃ verb ∈ verbs, word = verb.toList ∨ ∃ ending ∈ verbEndings,
    word = verb.toList ++ ending.toList ∨
      verb.toList.getLast? = some 'e' ∧ word = verb.toList.dropLast ++ ending.toList

instance (word : List Char) : Decidable (IsVerbForm word) :=
  inferInstanceAs (Decidable (∃ verb ∈ verbs, _ ∨ ∃ ending ∈ verbEndings, _ ∨ _ ∧ _))

/-- An ASCII text is lower-cased letter by letter. -/
theorem lower_eq_map {s : List Char} (ascii : ∀ c ∈ s, c.toNat < 128) :
    lower s = s.map asciiLower := by
  have after : ∀ before, lowerAfter before s = s.map asciiLower := by
    induction s with
    | nil => exact fun _ => rfl
    | cons c s ih =>
      intro before
      obtain ⟨first, later⟩ := List.forall_mem_cons.mp ascii
      obtain ⟨d, marks, form, _, ⟨rfl, rfl⟩ | ⟨beyond, _⟩⟩ := lowerAfter_cons before c s
      · rw [form, List.nil_append, ih later, List.map_cons]
      · omega
  exact after []

theorem isListed_iff {listed : List String} {word : List Char} :
    isListed listed word = true ↔ ∃ w ∈ listed, w.toList = word := by
  simp only [isListed, List.any_eq_true, beq_iff_eq]

theorem withoutEnding?_eq_some_iff {ending word stem : List Char} :
    withoutEnding? ending word = some stem ↔ word = stem ++ ending := by
  rw [withoutEnding?]
  constructor
  · intro found
    split at found
    next suffix =>
      obtain ⟨front, rfl⟩ := List.isSuffixOf_iff_suffix.mp suffix
      rw [← Option.some.inj found]
      simp
    next => cases found
  · rintro rfl
    have suffix : ending.isSuffixOf (stem ++ ending) = true :=
      List.isSuffixOf_iff_suffix.mpr (List.suffix_append stem ending)
    rw [if_pos suffix]
    simp

/-- A word is put together from what is left of it without its last letter. -/
theorem append_singleton_eq_iff {stem word : List Char} {c : Char} :
    word = stem ++ [c] ↔ word.getLast? = some c ∧ stem = word.dropLast := by
  constructor
  · rintro rfl
    exact ⟨List.getLast?_concat, List.dropLast_concat.symm⟩
  · rintro ⟨last, rfl⟩
    exact (List.dropLast_append_getLast? c last).symm

/-- **The lexicon asks for a verb form in any letter case.** -/
theorem isVerb_iff {word : List Char} (ascii : ∀ c ∈ word, c.toNat < 128) :
    isVerb word = true ↔ IsVerbForm (word.map asciiLower) := by
  rw [isVerb, lower_eq_map ascii]
  generalize word.map asciiLower = small
  simp only [Bool.or_eq_true, List.any_eq_true, IsVerbForm]
  constructor
  · rintro (whole | ⟨ending, listed', inflected⟩)
    · obtain ⟨verb, listed, form⟩ := isListed_iff.mp whole
      exact ⟨verb, listed, .inl form.symm⟩
    · split at inflected
      next stem found =>
        have form := withoutEnding?_eq_some_iff.mp found
        rw [Bool.or_eq_true, isListed_iff, isListed_iff] at inflected
        rcases inflected with ⟨verb, listed, rfl⟩ | ⟨verb, listed, cut⟩
        · exact ⟨verb, listed, .inr ⟨ending, listed', .inl form⟩⟩
        · obtain ⟨last, rfl⟩ := append_singleton_eq_iff.mp cut
          exact ⟨verb, listed, .inr ⟨ending, listed', .inr ⟨last, form⟩⟩⟩
      next => cases inflected
  · rintro ⟨verb, listed, form | ⟨ending, listed', whole | ⟨last, cut⟩⟩⟩
    · exact .inl (isListed_iff.mpr ⟨verb, listed, form.symm⟩)
    · refine .inr ⟨ending, listed', ?_⟩
      rw [withoutEnding?_eq_some_iff.mpr whole, Bool.or_eq_true, isListed_iff]
      exact .inl ⟨verb, listed, rfl⟩
    · refine .inr ⟨ending, listed', ?_⟩
      rw [withoutEnding?_eq_some_iff.mpr cut, Bool.or_eq_true, isListed_iff, isListed_iff]
      exact .inr ⟨verb, listed, append_singleton_eq_iff.mpr ⟨last, rfl⟩⟩

/-! ## Occurrences -/

/-- A word where it stands in its sentence. -/
structure Occurrence where
  /-- the word directly in front, if there is one -/
  previous : Option (List Char)
  word : List Char

/-- The occurrences of the words of a sentence, behind another word if there is one. -/
def occurrencesAfter (previous : Option (List Char)) (words : List (List Char)) :
    List Occurrence :=
  List.zipWith Occurrence.mk (previous :: words.map some) words

/-- The occurrences of the words of a sentence. -/
def occurrences (words : List (List Char)) : List Occurrence := occurrencesAfter none words

namespace Occurrence

/-- A form of a listed verb, in any letter case. -/
def IsVerb (o : Occurrence) : Prop := IsVerbForm (o.word.map asciiLower)

/-- No verb, and directly behind a determiner. -/
def IsNoun (o : Occurrence) : Prop :=
  ¬ o.IsVerb ∧ ∃ before ∈ o.previous, ∃ determiner ∈ determiners,
    before.map asciiLower = determiner.toList

/-- Capitalised, not the first word of the sentence, and no first-person form. -/
def IsPerson (o : Occurrence) : Prop :=
  o.previous ≠ none ∧ (o.word.head?.any isAsciiUpper) = true ∧
    ∀ form ∈ firstPerson, o.word ≠ form.toList

instance : DecidablePred IsVerb := fun o =>
  inferInstanceAs (Decidable (IsVerbForm (o.word.map asciiLower)))

instance : DecidablePred IsNoun := fun o =>
  inferInstanceAs (Decidable (¬ o.IsVerb ∧ ∃ before ∈ o.previous, ∃ determiner ∈ determiners, _))

instance : DecidablePred IsPerson := fun o =>
  inferInstanceAs (Decidable (o.previous ≠ none ∧ _ ∧ ∀ form ∈ firstPerson, _))

end Occurrence

/-- The words that stand at occurrences of a class, in order and with every repetition. -/
def textsOf (P : Occurrence → Prop) [DecidablePred P] (os : List Occurrence) : List String :=
  (os.filter P).map fun o => String.ofList o.word

section

variable {P : Occurrence → Prop} [DecidablePred P]

theorem textsOf_cons (o : Occurrence) (os : List Occurrence) :
    textsOf P (o :: os) = if P o then String.ofList o.word :: textsOf P os else textsOf P os := by
  simp only [textsOf, List.filter_cons, decide_eq_true_eq]
  split
  next => rw [List.map_cons]
  next => rfl

theorem textsOf_flatMap {α : Type} (xs : List α) (f : α → List Occurrence) :
    textsOf P (xs.flatMap f) = xs.flatMap fun x => textsOf P (f x) := by
  rw [textsOf, List.filter_flatMap, List.map_flatMap]
  rfl

/-- What a class holds stands in the text. -/
theorem exists_of_mem_textsOf {os : List Occurrence} {t : String} (member : t ∈ textsOf P os) :
    ∃ o ∈ os, t = String.ofList o.word := by
  obtain ⟨o, kept, rfl⟩ := List.mem_map.mp member
  exact ⟨o, (List.mem_filter.mp kept).1, rfl⟩

end

theorem occurrencesAfter_cons (previous : Option (List Char)) (word : List Char)
    (words : List (List Char)) : occurrencesAfter previous (word :: words) =
      ⟨previous, word⟩ :: occurrencesAfter (some word) words := rfl

/-- Occurrences are those of the words. -/
theorem word_mem_of_mem_occurrencesAfter {previous : Option (List Char)} {words : List (List Char)}
    {o : Occurrence} (member : o ∈ occurrencesAfter previous words) : o.word ∈ words := by
  induction words generalizing previous with
  | nil => cases member
  | cons word words ih =>
    rw [occurrencesAfter_cons] at member
    rcases List.mem_cons.mp member with rfl | later
    · exact List.mem_cons_self
    · exact List.mem_cons_of_mem word (ih later)

/-! ## The marking -/

theorem isDeterminer_iff {word : List Char} (ascii : ∀ c ∈ word, c.toNat < 128) :
    isDeterminer word = true ↔
      ∃ determiner ∈ determiners, word.map asciiLower = determiner.toList := by
  rw [isDeterminer, lower_eq_map ascii, isListed_iff]
  simp only [eq_comm]

theorem isPerson_iff {word : List Char} : isPerson word = true ↔
    (word.head?.any isAsciiUpper) = true ∧ ∀ form ∈ firstPerson, word ≠ form.toList := by
  have listed : isListed firstPerson word = false ↔ ∀ form ∈ firstPerson, word ≠ form.toList := by
    rw [← Bool.not_eq_true, isListed_iff]
    simp only [not_exists, not_and, ne_eq, eq_comm]
  rw [isPerson, Bool.and_eq_true, Bool.not_eq_true', listed]
  refine and_congr_left fun _ => ?_
  cases word.head? <;> rfl

/-- **The words of a sentence are marked where they stand.** -/
theorem markWords_eq {previous : Option (List Char)} {words : List (List Char)}
    (before : ∀ word ∈ previous, ∀ c ∈ word, c.toNat < 128)
    (ascii : ∀ word ∈ words, ∀ c ∈ word, c.toNat < 128) :
    markWords previous words =
      { people := textsOf Occurrence.IsPerson (occurrencesAfter previous words)
        nouns := textsOf Occurrence.IsNoun (occurrencesAfter previous words)
        verbs := textsOf Occurrence.IsVerb (occurrencesAfter previous words)
        sentences := [] } := by
  induction words generalizing previous with
  | nil => rfl
  | cons word words ih =>
    obtain ⟨own, others⟩ := List.forall_mem_cons.mp ascii
    have after : ∀ w ∈ some word, ∀ c ∈ w, c.toNat < 128 := by
      rintro w same
      rwa [← Option.mem_some_iff.mp same]
    have verb : isVerb word = decide (Occurrence.IsVerb ⟨previous, word⟩) := by
      rw [Bool.eq_iff_iff, decide_eq_true_iff]
      exact isVerb_iff own
    have noun : (!isVerb word && (previous.map isDeterminer).getD false) =
        decide (Occurrence.IsNoun ⟨previous, word⟩) := by
      rw [Bool.eq_iff_iff, decide_eq_true_iff, Bool.and_eq_true, Bool.not_eq_true',
        ← Bool.not_eq_true, isVerb_iff own]
      refine and_congr_right fun _ => ?_
      cases previous with
      | none => simp
      | some w => simp [isDeterminer_iff (before w rfl)]
    have person : (previous.isSome && isPerson word) =
        decide (Occurrence.IsPerson ⟨previous, word⟩) := by
      rw [Bool.eq_iff_iff, decide_eq_true_iff, Bool.and_eq_true, isPerson_iff,
        Option.isSome_iff_ne_none]
      rfl
    rw [markWords]
    simp only [noun, person]
    simp only [verb, decide_eq_true_eq, ih after others, occurrencesAfter_cons, textsOf_cons]

/-- The occurrences of the words of a text, sentence by sentence. -/
def occurrencesIn (text : List Char) : List Occurrence :=
  (sentences text).flatMap fun s => occurrences (sentenceWords s)

/-- **A text is marked word by word where the words stand.** -/
theorem mark_eq (text : List Char) : mark text =
    { people := textsOf Occurrence.IsPerson (occurrencesIn text)
      nouns := textsOf Occurrence.IsNoun (occurrencesIn text)
      verbs := textsOf Occurrence.IsVerb (occurrencesIn text)
      sentences := (sentences text).map String.ofList } := by
  have each : ∀ s, markWords none (sentenceWords s) =
      { people := textsOf Occurrence.IsPerson (occurrences (sentenceWords s))
        nouns := textsOf Occurrence.IsNoun (occurrences (sentenceWords s))
        verbs := textsOf Occurrence.IsVerb (occurrences (sentenceWords s))
        sentences := [] } := by
    intro s
    refine markWords_eq (fun word none => nomatch none) fun word listed c member => ?_
    exact toNat_lt_of_isWordChar (((hasWords_sentenceWords s).of_mem listed).2 c member)
  simp only [mark, List.flatMap_map, markSentence, each, occurrencesIn, textsOf_flatMap,
    ← List.map_eq_flatMap]

/-- The words of a text start with a letter. -/
theorem starts_of_mem_occurrencesIn {text : List Char} {o : Occurrence}
    (member : o ∈ occurrencesIn text) : (o.word.head?.any isAsciiLetter) = true := by
  obtain ⟨s, _, occurs⟩ := List.mem_flatMap.mp member
  exact ((hasWords_sentenceWords s).of_mem (word_mem_of_mem_occurrencesAfter occurs)).1

/-- **The lexicon marks a text word by word.**

- The text is cut in one way into pieces between runs of sentence marks, and each piece that shows
  something, trimmed, in one way into words. These are the sentences and their words.
- The sentences are kept in order, and the figures of a text count them; a text without any counts
  as one.
- Verbs, nouns and people are the words that stand at an occurrence of their class, in document
  order and with every repetition.
- No occurrence is one of a verb and one of a noun. -/
theorem lexicon_marks (text : List Char) :
    ∃ pieces words,
      (∀ ps, BetweenRuns endsSentence text ps ↔ ps = pieces) ∧
      (∀ ws, List.Forall₂ HasWords (shownPieces pieces) ws ↔ ws = words) ∧
      lexiconMarker text = some
        { sentences := (shownPieces pieces).map String.ofList
          verbs := textsOf Occurrence.IsVerb (words.flatMap occurrences)
          nouns := textsOf Occurrence.IsNoun (words.flatMap occurrences)
          people := textsOf Occurrence.IsPerson (words.flatMap occurrences) } ∧
      sentenceCount text = max 1 (shownPieces pieces).length ∧
      ∀ o ∈ words.flatMap occurrences, ¬ (o.IsVerb ∧ o.IsNoun) := by
  obtain ⟨pieces, between⟩ := exists_betweenRuns endsSentence text
  have shown : sentences text = shownPieces pieces := between.nonblankPieces_eq
  have settled : ∀ ws, List.Forall₂ HasWords (shownPieces pieces) ws ↔
      ws = (shownPieces pieces).map sentenceWords := by
    intro ws
    have alike : HasWords = fun s words => sentenceWords s = words := by
      funext s words
      exact propext (hasWords_iff.trans eq_comm)
    rw [alike, ← List.forall₂_map_left_iff (R := Eq), List.forall₂_eq_eq_eq, eq_comm]
  refine ⟨pieces, (shownPieces pieces).map sentenceWords, betweenRuns_iff between, settled, ?_, ?_,
    fun o _ both => both.2.1 both.1⟩
  · rw [lexiconMarker, mark_eq, occurrencesIn, shown, List.flatMap_map]
  · rw [sentenceCount, shown]

end TestPlanner.Prose
