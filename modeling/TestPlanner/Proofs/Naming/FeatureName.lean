import TestPlanner.Artifact.Kind
import TestPlanner.Proofs.FirstOccurrence
import TestPlanner.Proofs.Naming.Identifier
import TestPlanner.Proofs.Text.Words

/-!
# Feature names

A feature name is cleaned to words of letters and digits with single spaces between them
(`IsTitle`), or to a ticket key with such a title behind it. The key is kept exactly if the name
starts with one and goes on, on one line, with a letter or digit (`Keyed`).

**Words.** Cleaning keeps the letters and digits, in order, and of everything else only where words
end (`cleanWords_eq`, `flatten_titleWords`). So a title is its own cleaned form, and only a name
without letters and digits is cleaned to nothing.

**Keys.** The hyphen behind the key is the only one in a cleaned name. Hence a key is read back
from the cleaned name, and no key is found in a title; cleaning twice is cleaning once, and what is
named after the letters and digits of a feature keeps its name (`sanitize_laws`).
-/

set_option autoImplicit false

namespace TestPlanner.Naming

open Text

/-! ## Titles -/

/-- Words of ASCII letters and digits, single spaces between them. -/
def IsTitle (s : List Char) : Prop :=
  ∃ ws, ws ≠ [] ∧ (∀ w ∈ ws, w ≠ [] ∧ ∀ c ∈ w, isAsciiAlphanumeric c = true) ∧
    s = joinWith [' '] ws

/-- The words that cleaning leaves of a text. -/
def titleWords (s : List Char) : List (List Char) :=
  words (s.filter fun c => isAsciiAlphanumeric c || isBlank c)

/-- **A cleaned text consists of its words.** -/
theorem cleanWords_eq (s : List Char) : cleanWords s = joinWith [' '] (titleWords s) :=
  trim_collapseBlanks _

theorem isWord_of_alphanumeric {w : List Char} (nonempty : w ≠ [])
    (kept : ∀ c ∈ w, isAsciiAlphanumeric c = true) : IsWord w :=
  ⟨nonempty, fun c member => isBlank_of_isAsciiAlphanumeric (kept c member)⟩

theorem mem_titleWords {s w : List Char} (listed : w ∈ titleWords s) :
    w ≠ [] ∧ ∀ c ∈ w, isAsciiAlphanumeric c = true := by
  have word := isWord_of_mem_words listed
  refine ⟨word.nonempty, fun c member => ?_⟩
  have own : c ∈ (titleWords s).flatten := List.mem_flatten.mpr ⟨w, listed, member⟩
  rw [titleWords, flatten_words] at own
  have kept := (List.mem_filter.mp (List.mem_filter.mp own).1).2
  rwa [word.shown c member, Bool.or_false] at kept

/-- **The words hold the letters and digits of the text.** -/
theorem flatten_titleWords (s : List Char) : (titleWords s).flatten = alphanumerics s := by
  rw [titleWords, flatten_words, List.filter_filter, alphanumerics]
  refine List.filter_congr fun c _ => ?_
  cases kept : isAsciiAlphanumeric c with
  | true => rw [isBlank_of_isAsciiAlphanumeric kept]; rfl
  | false => cases isBlank c <;> rfl

/-- Letters and digits with blanks between them are not changed before they are read as words. -/
theorem titleWords_joinWith {ws : List (List Char)}
    (each : ∀ w ∈ ws, w ≠ [] ∧ ∀ c ∈ w, isAsciiAlphanumeric c = true) :
    titleWords (joinWith [' '] ws) = ws := by
  have kept : (joinWith [' '] ws).filter (fun c => isAsciiAlphanumeric c || isBlank c) =
      joinWith [' '] ws := by
    refine List.filter_eq_self.mpr fun c member => ?_
    rcases mem_joinWith member with space | ⟨w, listed, own⟩
    · rw [List.mem_singleton.mp space]
      decide
    · rw [(each w listed).2 c own, Bool.true_or]
  rw [titleWords, kept]
  exact words_joinWith fun w listed => isWord_of_alphanumeric (each w listed).1 (each w listed).2

/-- **Cleaning twice is cleaning once.** -/
theorem cleanWords_cleanWords (s : List Char) : cleanWords (cleanWords s) = cleanWords s := by
  rw [cleanWords_eq, cleanWords_eq s, titleWords_joinWith fun _ listed => mem_titleWords listed]

/-- Cleaning keeps the letters and digits, in order. -/
theorem alphanumerics_cleanWords (s : List Char) :
    alphanumerics (cleanWords s) = alphanumerics s := by
  rw [cleanWords_eq, alphanumerics, filter_joinWith (by decide), flatten_titleWords]
  exact List.filter_eq_self.mpr fun _ member => mem_alphanumerics member

/-- A cleaned text holds letters, digits and spaces. -/
theorem mem_cleanWords {s : List Char} {c : Char} (member : c ∈ cleanWords s) :
    c = ' ' ∨ isAsciiAlphanumeric c = true := by
  rw [cleanWords_eq] at member
  rcases mem_joinWith member with space | ⟨w, listed, own⟩
  · exact .inl (List.mem_singleton.mp space)
  · exact .inr ((mem_titleWords listed).2 c own)

theorem hyphen_not_mem_cleanWords (s : List Char) : '-' ∉ cleanWords s :=
  fun member => absurd (mem_cleanWords member) (by decide)

/-- A cleaned text has no hyphen that a key could end at. -/
theorem cleanWords_ne_split (s front behind : List Char) :
    cleanWords s ≠ front ++ '-' :: behind := by
  intro split
  refine hyphen_not_mem_cleanWords s ?_
  rw [split]
  exact List.mem_append_right front List.mem_cons_self

/-- Only a text without letters and digits is cleaned to nothing, and any other to a title. -/
theorem cleanWords_cases (s : List Char) :
    (alphanumerics s = [] ∧ cleanWords s = []) ∨
      (alphanumerics s ≠ [] ∧ IsTitle (cleanWords s)) := by
  rw [cleanWords_eq, ← flatten_titleWords]
  cases found : titleWords s with
  | nil => exact .inl ⟨rfl, rfl⟩
  | cons w ws =>
    have first := mem_titleWords (found ▸ List.mem_cons_self : w ∈ titleWords s)
    refine .inr ⟨?_, w :: ws, List.cons_ne_nil w ws, fun v listed => ?_, rfl⟩
    · rw [List.flatten_cons]
      exact List.append_ne_nil_of_left_ne_nil first.1 _
    · exact mem_titleWords (found ▸ listed)

/-! ## Ticket keys -/

/-- Three or four capitals. -/
structure IsTicketKey (key : List Char) : Prop where
  length : key.length = 3 ∨ key.length = 4
  capitals : ∀ c ∈ key, isAsciiUpper c = true

theorem IsTicketKey.hyphen_not_mem {key : List Char} (valid : IsTicketKey key) : '-' ∉ key :=
  fun member => absurd (valid.capitals '-' member) (by decide)

/-- A name that starts with a ticket key and a hyphen, and has a letter or digit in what follows, on
the same line. -/
structure Keyed (name key rest : List Char) : Prop where
  valid : IsTicketKey key
  split : name = key ++ '-' :: rest
  line : '\n' ∉ rest
  usable : ∃ c ∈ rest, isAsciiAlphanumeric c = true

/-- **A key is found where a name starts with one,** and something follows it on the line. -/
theorem ticketKey?_eq_some_iff {s key rest : List Char} :
    ticketKey? s = some (key, rest) ↔
      IsTicketKey key ∧ s = key ++ '-' :: rest ∧ rest ≠ [] ∧ '\n' ∉ rest := by
  constructor
  · intro found
    unfold ticketKey? at found
    dsimp only at found
    split at found
    next tail behind =>
      split at found
      next fits =>
        obtain ⟨rfl, rfl⟩ := Prod.mk.inj (Option.some.inj found)
        simp only [Bool.and_eq_true, Bool.or_eq_true, beq_iff_eq, Bool.not_eq_true',
          List.isEmpty_eq_false_iff, List.contains_eq_mem, decide_eq_false_iff_not] at fits
        refine ⟨⟨fits.1.1, fun c member => List.mem_takeWhile_imp member⟩, ?_, fits.1.2, fits.2⟩
        rw [← behind, List.takeWhile_append_dropWhile]
      next => cases found
    next => cases found
  · rintro ⟨valid, rfl, nonempty, line⟩
    have front : (key ++ '-' :: rest).takeWhile isAsciiUpper = key := by
      rw [List.takeWhile_append_of_pos valid.capitals, List.takeWhile_cons_of_neg (by decide),
        List.append_nil]
    have behind : (key ++ '-' :: rest).dropWhile isAsciiUpper = '-' :: rest := by
      rw [List.dropWhile_append_of_pos valid.capitals, List.dropWhile_cons_of_neg (by decide)]
    have long : (key.length == 3 || key.length == 4) = true := by
      simpa only [Bool.or_eq_true, beq_iff_eq] using valid.length
    simp only [ticketKey?, front, behind, long, line, Bool.true_and,
      List.isEmpty_eq_false_iff.mpr nonempty, Bool.not_false, List.contains_eq_mem, decide_false,
      if_true]

/-! ## Cleaned names -/

/-- A key is kept, and what follows it is cleaned. -/
theorem Keyed.sanitizeChars_eq {name key rest : List Char} (keyed : Keyed name key rest) :
    sanitizeChars name = key ++ '-' :: cleanWords rest := by
  obtain ⟨c, member, kept⟩ := keyed.usable
  have found : ticketKey? name = some (key, rest) :=
    ticketKey?_eq_some_iff.mpr ⟨keyed.valid, keyed.split, List.ne_nil_of_mem member, keyed.line⟩
  have some_title : cleanWords rest ≠ [] := by
    intro empty
    have lost := alphanumerics_cleanWords rest
    rw [empty] at lost
    exact alphanumerics_ne_nil_iff.mpr keyed.usable lost.symm
  simp only [sanitizeChars, found, List.isEmpty_eq_false_iff.mpr some_title, Bool.false_eq_true,
    if_false]

/-- **What cleaning makes of a name.** Its key is kept, if it has one, and everything else is
cleaned to words. -/
theorem sanitizeChars_cases (name : List Char) :
    (∃ key rest, Keyed name key rest ∧ sanitizeChars name = key ++ '-' :: cleanWords rest) ∨
    ((∀ key rest, ¬ Keyed name key rest) ∧ sanitizeChars name = cleanWords name) := by
  by_cases keyed : ∃ key rest, Keyed name key rest
  · obtain ⟨key, rest, keyed⟩ := keyed
    exact .inl ⟨key, rest, keyed, keyed.sanitizeChars_eq⟩
  · have none : ∀ key rest, ¬ Keyed name key rest := fun key rest own => keyed ⟨key, rest, own⟩
    refine .inr ⟨none, ?_⟩
    unfold sanitizeChars
    split
    next key rest found =>
      -- a key with nothing to clean behind it is no key of the name
      obtain ⟨valid, split, _, line⟩ := ticketKey?_eq_some_iff.mp found
      obtain ⟨_, empty⟩ | ⟨usable, _⟩ := cleanWords_cases rest
      · simp only [empty, List.isEmpty_nil, if_true]
      · exact absurd ⟨valid, split, line, alphanumerics_ne_nil_iff.mp usable⟩ (none key rest)
    next => rfl

/-- **The letters and digits of a name are kept, in order.** -/
theorem alphanumerics_sanitizeChars (name : List Char) :
    alphanumerics (sanitizeChars name) = alphanumerics name := by
  obtain ⟨key, rest, keyed, cleaned⟩ | ⟨_, cleaned⟩ := sanitizeChars_cases name
  · have after := alphanumerics_cleanWords rest
    rw [alphanumerics, alphanumerics] at after
    rw [cleaned, keyed.split, alphanumerics, alphanumerics, List.filter_append, List.filter_append,
      List.filter_cons_of_neg (by decide), List.filter_cons_of_neg (by decide), after]
  · rw [cleaned, alphanumerics_cleanWords]

/-- **Only a name without letters and digits is cleaned to nothing.** -/
theorem sanitizeChars_eq_nil_iff (name : List Char) :
    sanitizeChars name = [] ↔ ¬ ∃ c ∈ name, isAsciiAlphanumeric c = true := by
  rw [← alphanumerics_ne_nil_iff, not_not]
  constructor
  · intro empty
    rw [← alphanumerics_sanitizeChars, empty]
    rfl
  · intro none
    obtain ⟨key, rest, keyed, _⟩ | ⟨_, cleaned⟩ := sanitizeChars_cases name
    · obtain ⟨c, member, kept⟩ := keyed.usable
      have own : c ∈ name := by
        rw [keyed.split]
        exact List.mem_append_right key (List.mem_cons_of_mem _ member)
      exact absurd none (alphanumerics_ne_nil_iff.mpr ⟨c, own, kept⟩)
    · obtain ⟨_, empty⟩ | ⟨some_kept, _⟩ := cleanWords_cases name
      · rw [cleaned, empty]
      · exact absurd none some_kept

/-- A cleaned name that is not empty is a title, or a key with a title behind it. -/
theorem isTitle_sanitizeChars (name : List Char) :
    sanitizeChars name = [] ∨ ∃ title, IsTitle title ∧ (sanitizeChars name = title ∨
      ∃ key, IsTicketKey key ∧ sanitizeChars name = key ++ '-' :: title) := by
  obtain ⟨key, rest, keyed, cleaned⟩ | ⟨_, cleaned⟩ := sanitizeChars_cases name
  · obtain ⟨none, _⟩ | ⟨_, title⟩ := cleanWords_cases rest
    · exact absurd none (alphanumerics_ne_nil_iff.mpr keyed.usable)
    · exact .inr ⟨_, title, .inr ⟨key, keyed.valid, cleaned⟩⟩
  · rw [cleaned]
    obtain ⟨_, empty⟩ | ⟨_, title⟩ := cleanWords_cases name
    · exact .inl empty
    · exact .inr ⟨_, title, .inl rfl⟩

/-- **A cleaned name starts with a word and a hyphen exactly if the word is a key of the name.** -/
theorem exists_split_sanitizeChars_iff (name key : List Char) :
    (∃ title, sanitizeChars name = key ++ '-' :: title) ↔ ∃ rest, Keyed name key rest := by
  constructor
  · rintro ⟨title, split⟩
    obtain ⟨own, rest, keyed, cleaned⟩ | ⟨_, cleaned⟩ := sanitizeChars_cases name
    · have alone : '-' ∉ key := by
        -- a hyphen in the key would be the second one of the cleaned name
        intro member
        have count := congrArg (List.count '-') (split.symm.trans cleaned)
        rw [List.count_append, List.count_append, List.count_cons_self, List.count_cons_self,
          List.count_eq_zero.mpr keyed.valid.hyphen_not_mem,
          List.count_eq_zero.mpr (hyphen_not_mem_cleanWords rest)] at count
        have := List.count_pos_iff.mpr member
        omega
      obtain ⟨rfl, _⟩ := cut_inj alone keyed.valid.hyphen_not_mem (split.symm.trans cleaned)
      exact ⟨rest, keyed⟩
    · exact absurd (cleaned.symm.trans split) (cleanWords_ne_split name key title)
  · rintro ⟨rest, keyed⟩
    exact ⟨_, keyed.sanitizeChars_eq⟩

/-- **A cleaned name is its own cleaned form.** -/
theorem sanitizeChars_sanitizeChars (name : List Char) :
    sanitizeChars (sanitizeChars name) = sanitizeChars name := by
  obtain ⟨key, rest, keyed, cleaned⟩ | ⟨_, cleaned⟩ := sanitizeChars_cases name
  · have again : Keyed (sanitizeChars name) key (cleanWords rest) :=
      { valid := keyed.valid
        split := cleaned
        line := fun member => absurd (mem_cleanWords member) (by decide)
        usable := by
          rw [← alphanumerics_ne_nil_iff, alphanumerics_cleanWords, alphanumerics_ne_nil_iff]
          exact keyed.usable }
    rw [again.sanitizeChars_eq, cleanWords_cleanWords, cleaned]
  · rw [cleaned]
    obtain ⟨key, rest, keyed, _⟩ | ⟨_, again⟩ := sanitizeChars_cases (cleanWords name)
    · exact absurd keyed.split (cleanWords_ne_split name key rest)
    · rw [again, cleanWords_cleanWords]

theorem toList_sanitize (name : String) : (sanitize name).toList = sanitizeChars name.toList :=
  String.toList_ofList

/-- What is named after the letters and digits of a feature keeps its name. -/
theorem stripped_sanitize (name : String) : stripped (sanitize name) = stripped name := by
  rw [stripped, toList_sanitize, alphanumerics_sanitizeChars, stripped]

/-- **Cleaning feature names.**

- A cleaned name is its own cleaned form.
- Its letters and digits are those of the name, so the names of directory, files and classes stay
  the same.
- It is empty exactly if the name has no letter and no digit. Otherwise it is a title, or a ticket
  key with a hyphen and a title behind it.
- It starts with a key and a hyphen exactly if the name does, with a letter or digit in what
  follows and no line feed. -/
theorem sanitize_laws (name : String) :
    sanitize (sanitize name) = sanitize name ∧
    stripped (sanitize name) = stripped name ∧
    (∀ p : Plan, ArtifactNames.ofPlan { p with feature := sanitize name } =
      ArtifactNames.ofPlan { p with feature := name }) ∧
    (sanitize name = "" ↔ ¬ ∃ c ∈ name.toList, isAsciiAlphanumeric c = true) ∧
    (sanitize name = "" ∨ ∃ title, IsTitle title ∧ ((sanitize name).toList = title ∨
      ∃ key, IsTicketKey key ∧ (sanitize name).toList = key ++ '-' :: title)) ∧
    (∀ key : List Char, (∃ title, (sanitize name).toList = key ++ '-' :: title) ↔
      ∃ rest, Keyed name.toList key rest) := by
  have empty : sanitize name = "" ↔ sanitizeChars name.toList = [] := by
    rw [← String.toList_inj, toList_sanitize]
    rfl
  refine ⟨?again, stripped_sanitize name, fun p => ?names, ?none, ?title, fun key => ?key⟩
  case again => rw [sanitize, toList_sanitize, sanitizeChars_sanitizeChars, sanitize]
  case names => simp only [ArtifactNames.ofPlan, Plan.safeName, stripped_sanitize]
  case none => rw [empty]; exact sanitizeChars_eq_nil_iff name.toList
  case title => rw [empty, toList_sanitize]; exact isTitle_sanitizeChars name.toList
  case key => rw [toList_sanitize]; exact exists_split_sanitizeChars_iff name.toList key

/-- A second key is no key: it is cleaned with the rest. -/
example : sanitize "ABC-ABCD-cart & pay" = "ABC-ABCDcart pay" := by decide +kernel

end TestPlanner.Naming
