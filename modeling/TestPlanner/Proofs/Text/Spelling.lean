import TestPlanner.Proofs.Naming.Identifier
import TestPlanner.Text.Scan
import Mathlib.Data.List.Infix

/-!
# Words in any letter case

Words are looked for in prose without regard to case, and in two ways. Phrases compare letter by
letter. Each character is then taken for its small form (`folded`), where the long s and the Kelvin
sign count as forms of s and k, so a word is found exactly where the small form of the text starts
with it (`phrase?_eq_some_iff`, `phrase?_eq_none_iff`).

Keywords and headers are looked for in the lower-case form of the whole text. That form may be
longer than the text, and its sigmas depend on their neighbours. An ASCII word is not touched by
this: it starts or occurs in the lower-case form exactly where it does in the text with its ASCII
capitals made small (`prefix_lower_iff`, `occursIn_lower_iff`). The letter k is left out, since the
Kelvin sign has it as its lower-case form, and so is an i at the end, with which the form of the
dotted capital starts.
-/

set_option autoImplicit false

namespace TestPlanner.Text

/-! ## Letter by letter -/

/-- The small form of a character when case is ignored. -/
def folded (c : Char) : Char :=
  if c == 'ſ' then 's' else if c == '\u212A' then 'k' else asciiLower c

/-- A text that spells a word in any mixture of case. -/
def Spells (s word : List Char) : Prop := s.map folded = word

instance (s word : List Char) : Decidable (Spells s word) :=
  inferInstanceAs (Decidable (s.map folded = word))

/-- A word of which no letter has another small form. -/
def Small (word : List Char) : Prop := ∀ c ∈ word, folded c = c

instance (word : List Char) : Decidable (Small word) :=
  List.decidableBAll (fun c => folded c = c) word

/-- Only the long s and the Kelvin sign have a small form that is no ASCII matter. -/
theorem folded_cases (c : Char) : c = 'ſ' ∨ c = '\u212A' ∨ folded c = asciiLower c := by
  by_cases isLong : c = 'ſ'
  · exact .inl isLong
  by_cases isKelvin : c = '\u212A'
  · exact .inr (.inl isKelvin)
  · right; right
    rw [folded, if_neg (by simpa using isLong), if_neg (by simpa using isKelvin)]

/-- A character is a form of a small letter exactly if that is its small form. -/
theorem sameLetter_iff {letter c : Char} (small : folded letter = letter) :
    sameLetter letter c = true ↔ folded c = letter := by
  have long : letter ≠ 'ſ' := by
    rintro rfl
    exact absurd small (by decide)
  have kelvin : letter ≠ '\u212A' := by
    rintro rfl
    exact absurd small (by decide)
  simp only [sameLetter, Bool.or_eq_true, Bool.and_eq_true, beq_iff_eq]
  have longForm : asciiLower 'ſ' = 'ſ' ∧ folded 'ſ' = 's' := by decide
  have kelvinForm : asciiLower '\u212A' = '\u212A' ∧ folded '\u212A' = 'k' := by decide
  rcases folded_cases c with rfl | rfl | same
  · rw [longForm.1, longForm.2]
    simp [long.symm, eq_comm]
  · rw [kelvinForm.1, kelvinForm.2]
    simp [kelvin.symm, eq_comm]
  · rw [same]
    constructor
    · rintro ((form | ⟨rfl, rfl⟩) | ⟨rfl, rfl⟩)
      · exact form
      · exact absurd same (by decide)
      · exact absurd same (by decide)
    · exact fun form => .inl (.inl form)

/-- **A word is read exactly where a text starts with a spelling of it.** -/
theorem phrase?_eq_some_iff {word s rest : List Char} (small : Small word) :
    phrase? word s = some rest ↔ ∃ front, s = front ++ rest ∧ Spells front word := by
  induction word generalizing s with
  | nil => simp [phrase?, Spells, eq_comm]
  | cons w word ih =>
    have first : folded w = w := small w List.mem_cons_self
    have later : Small word := fun c member => small c (List.mem_cons_of_mem w member)
    cases s with
    | nil =>
      simp only [phrase?, reduceCtorEq, false_iff, not_exists, not_and]
      intro front empty
      rw [(List.append_eq_nil_iff.mp empty.symm).1]
      exact List.cons_ne_nil w word ∘ Eq.symm
    | cons c s =>
      rw [phrase?]
      split
      next same =>
        rw [ih later]
        have form := (sameLetter_iff first).mp same
        constructor
        · rintro ⟨front, rfl, spelled⟩
          exact ⟨c :: front, rfl, by rw [Spells, List.map_cons, form, spelled]⟩
        · rintro ⟨front, split, spelled⟩
          obtain ⟨d, tail, rfl, _, spelled⟩ := List.map_eq_cons_iff.mp spelled
          exact ⟨tail, (List.cons.inj split).2, spelled⟩
      next other =>
        simp only [reduceCtorEq, false_iff, not_exists, not_and]
        intro front split spelled
        obtain ⟨d, tail, rfl, form, _⟩ := List.map_eq_cons_iff.mp spelled
        rw [← (List.cons.inj split).1] at form
        exact other ((sameLetter_iff first).mpr form)

/-- A word is read in front of anything. -/
theorem phrase?_append {word front : List Char} (small : Small word) (spelled : Spells front word)
    (rest : List Char) : phrase? word (front ++ rest) = some rest :=
  (phrase?_eq_some_iff small).mpr ⟨front, rfl, spelled⟩

/-- A letter is read at any form of it. -/
theorem phrase?_singleton {letter c : Char} (small : Small [letter]) (form : folded c = letter)
    (rest : List Char) : phrase? [letter] (c :: rest) = some rest := by
  have spelled : Spells [c] [letter] := by rw [Spells, List.map_singleton, form]
  have read := phrase?_append small spelled rest
  exact read

/-- A word is not read exactly if the small form of the text does not start with it. -/
theorem phrase?_eq_none_iff {word s : List Char} (small : Small word) :
    phrase? word s = none ↔ ¬ word <+: s.map folded := by
  rw [← not_iff_not, Classical.not_not, ← ne_eq, Option.ne_none_iff_exists']
  constructor
  · rintro ⟨rest, read⟩
    obtain ⟨front, rfl, spelled⟩ := (phrase?_eq_some_iff small).mp read
    rw [List.map_append, spelled]
    exact List.prefix_append _ _
  · rintro ⟨tail, split⟩
    obtain ⟨front, rest, rfl, spelled, _⟩ := List.map_eq_append_iff.mp split.symm
    exact ⟨rest, phrase?_append small spelled rest⟩

theorem asciiLower_of_not_upper {c : Char} (small : isAsciiUpper c = false) :
    asciiLower c = c := by
  rw [asciiLower, small, if_neg (by decide)]

/-- The small form of an ASCII capital is a letter. -/
theorem isAsciiLetter_asciiLower {c : Char} (upper : isAsciiUpper c = true) :
    isAsciiLetter (asciiLower c) = true ∧ folded (asciiLower c) = asciiLower c := by
  have letter : isAsciiLetter c = true := by rw [isAsciiLetter, upper, Bool.true_or]
  exact Naming.of_ascii (P := fun c => isAsciiUpper c = true →
    isAsciiLetter (asciiLower c) = true ∧ folded (asciiLower c) = asciiLower c) (by decide +kernel)
    (Naming.toNat_lt_of_isAsciiLetter letter) upper

/-- What is not a letter is the small form of itself only. -/
theorem eq_of_asciiLower {c d : Char} (other : isAsciiLetter d = false) (form : asciiLower c = d) :
    c = d := by
  by_cases upper : isAsciiUpper c = true
  · rw [← form, (isAsciiLetter_asciiLower upper).1] at other
    cases other
  · rwa [asciiLower_of_not_upper (Bool.eq_false_iff.mpr upper)] at form

theorem eq_of_folded {c d : Char} (other : isAsciiLetter d = false) (form : folded c = d) :
    c = d := by
  rcases folded_cases c with rfl | rfl | same
  · exact absurd other (by rw [← form]; decide)
  · exact absurd other (by rw [← form]; decide)
  · exact eq_of_asciiLower other (same.symm.trans form)

theorem not_isAsciiLetter_of_isBlank {c : Char} (blank : isBlank c = true) :
    isAsciiLetter c = false := by
  refine Bool.eq_false_iff.mpr fun letter => ?_
  have kept : isAsciiAlphanumeric c = true := by rw [isAsciiAlphanumeric, letter, Bool.true_or]
  rw [Naming.isBlank_of_isAsciiAlphanumeric kept] at blank
  cases blank

theorem asciiLower_of_isBlank {c : Char} (blank : isBlank c = true) : asciiLower c = c := by
  have other := not_isAsciiLetter_of_isBlank blank
  rw [isAsciiLetter, Bool.or_eq_false_iff] at other
  exact asciiLower_of_not_upper other.1

/-- A blank is its own small form. -/
theorem folded_of_isBlank {c : Char} (blank : isBlank c = true) : folded c = c := by
  rcases folded_cases c with rfl | rfl | same
  · exact absurd blank (by decide)
  · exact absurd blank (by decide)
  · rw [same, asciiLower_of_isBlank blank]

/-- A spelling of a word that starts visibly does so too. -/
theorem exists_cons_of_spells {chars word : List Char}
    (starts : (word.head?.any fun c => !isBlank c) = true) (spelled : Spells chars word) :
    ∃ c rest, chars = c :: rest ∧ isBlank c = false := by
  subst spelled
  cases chars with
  | nil => cases starts
  | cons c rest =>
    refine ⟨c, rest, rfl, Bool.eq_false_iff.mpr fun blank => ?_⟩
    rw [List.map_cons, List.head?_cons, folded_of_isBlank blank, Option.any_some, blank] at starts
    cases starts

/-- So blanks in front of it end there. -/
theorem head?_append_of_spells {chars word : List Char}
    (starts : (word.head?.any fun c => !isBlank c) = true) (spelled : Spells chars word)
    (s : List Char) : ∀ c ∈ (chars ++ s).head?, isBlank c = false := by
  obtain ⟨c, rest, rfl, visible⟩ := exists_cons_of_spells starts spelled
  rintro d first
  rw [← Option.mem_some_iff.mp first, visible]

/-! ## With ASCII capitals only -/

/-- A word with ASCII capitals for some of its small letters is a spelling of it. -/
theorem spells_of_asciiLower {s word : List Char} (small : Small word)
    (form : s.map asciiLower = word) : Spells s word := by
  subst form
  refine List.map_congr_left fun c member => ?_
  have own : folded (asciiLower c) = asciiLower c :=
    small (asciiLower c) (List.mem_map_of_mem member)
  rcases folded_cases c with rfl | rfl | same
  · exact absurd own (by decide)
  · exact absurd own (by decide)
  · exact same

/-- A word without s and k has no other spellings. -/
theorem asciiLower_of_spells {s word : List Char} (plain : 's' ∉ word ∧ 'k' ∉ word)
    (spelled : Spells s word) : s.map asciiLower = word := by
  subst spelled
  refine List.map_congr_left fun c member => ?_
  have form : folded c ∈ s.map folded := List.mem_map_of_mem member
  rcases folded_cases c with rfl | rfl | same
  · exact absurd form plain.1
  · exact absurd form plain.2
  · exact same.symm

/-! ## In the lower-case form -/

/-- An ASCII word without k that does not end with i. -/
def Plain (word : List Char) : Prop :=
  (∀ c ∈ word, c.toNat < 128 ∧ c ≠ 'k') ∧ word.getLast? ≠ some 'i'

instance (word : List Char) : Decidable (Plain word) :=
  letI : Decidable (∀ c ∈ word, c.toNat < 128 ∧ c ≠ 'k') := List.decidableBAll _ word
  inferInstanceAs (Decidable (_ ∧ _))

/-- A run of capitals whose small forms lie beyond ASCII. -/
def CaseRun.beyondAscii (r : CaseRun) : Bool :=
  128 ≤ r.first + r.shift &&
    (r.last + r.shift < 0xD800 || (0xDFFF < r.first + r.shift && r.last + r.shift < 0x110000))

/-- The Kelvin sign is the only capital beyond ASCII whose one small form is ASCII. -/
theorem lowerRuns_beyondAscii :
    ∀ r ∈ lowerRuns, r.beyondAscii = true ∨
      r.first = 0x212A ∧ r.last = 0x212A ∧ r.shift = -8383 := by
  decide +kernel

theorem toNat_ofNat {n : Nat} (valid : n.isValidChar) : (Char.ofNat n).toNat = n := by
  rw [Char.ofNat, dif_pos valid]
  rfl

theorem shiftByRuns_lowerRuns {c : Char} (beyond : 128 ≤ c.toNat) :
    128 ≤ (shiftByRuns lowerRuns c).toNat ∨ shiftByRuns lowerRuns c = 'k' := by
  unfold shiftByRuns
  split
  next r found =>
    have within := List.find?_some found
    simp only [CaseRun.contains, Bool.and_eq_true, decide_eq_true_eq] at within
    rcases lowerRuns_beyondAscii r (List.mem_of_find?_eq_some found) with far | kelvin
    · simp only [CaseRun.beyondAscii, Bool.and_eq_true, Bool.or_eq_true, decide_eq_true_eq] at far
      left
      rw [toNat_ofNat]
      · omega
      · rcases far.2 with low | high
        · exact .inl (by omega)
        · exact .inr ⟨by omega, by omega⟩
    · right
      have point : c.toNat = 0x212A := by omega
      rw [point, kelvin.2.2]
      decide
  next => exact .inl beyond

/-- **What a character adds to the lower-case form.** An ASCII character adds its small form. Any
other adds a character beyond ASCII, or a k, or an i with a mark behind it. -/
theorem lowerAfter_cons (before : List Char) (c : Char) (s : List Char) :
    ∃ d marks, lowerAfter before (c :: s) = d :: (marks ++ lowerAfter (c :: before) s) ∧
      (marks = [] ∨ marks = ['\u0307']) ∧
      (d = asciiLower c ∧ marks = [] ∨
        128 ≤ c.toNat ∧ (128 ≤ d.toNat ∨ d = 'k' ∨ d = 'i' ∧ marks = ['\u0307'])) := by
  rw [lowerAfter]
  split
  next final =>
    have sigma : c = 'Σ' := by
      rw [Bool.and_eq_true, Bool.and_eq_true, beq_iff_eq] at final
      exact final.1.1
    exact ⟨'ς', [], rfl, .inl rfl, .inr (by rw [sigma]; decide)⟩
  next =>
    rw [lowerChar]
    split
    next ascii => exact ⟨asciiLower c, [], rfl, .inl rfl, .inl ⟨rfl, rfl⟩⟩
    next beyond =>
      have beyond : 128 ≤ c.toNat := Nat.le_of_not_lt beyond
      split
      next => exact ⟨'i', ['\u0307'], rfl, .inr rfl, .inr ⟨beyond, .inr (.inr ⟨rfl, rfl⟩)⟩⟩
      next =>
        refine ⟨shiftByRuns lowerRuns c, [], rfl, .inl rfl, .inr ⟨beyond, ?_⟩⟩
        rcases shiftByRuns_lowerRuns beyond with far | kelvin
        · exact .inl far
        · exact .inr (.inl kelvin)

theorem asciiLower_of_beyond {c : Char} (beyond : 128 ≤ c.toNat) : asciiLower c = c := by
  refine if_neg fun upper => ?_
  have letter : isAsciiLetter c = true := by rw [isAsciiLetter, upper, Bool.true_or]
  have := Naming.toNat_lt_of_isAsciiLetter letter
  omega

namespace Plain

variable {word : List Char}

theorem tail {w : Char} (plain : Plain (w :: word)) : Plain word := by
  refine ⟨fun c member => plain.1 c (List.mem_cons_of_mem w member), fun last => plain.2 ?_⟩
  rw [List.getLast?_cons, last]
  rfl

/-- A plain word starts in the lower-case form where it does in the text with small capitals. -/
theorem prefix_lowerAfter_iff (plain : Plain word) (before s : List Char) :
    word <+: lowerAfter before s ↔ word <+: s.map asciiLower := by
  induction word generalizing before s with
  | nil => simp only [List.nil_prefix]
  | cons w word ih =>
    obtain ⟨ascii, notK⟩ := plain.1 w List.mem_cons_self
    cases s with
    | nil => simp only [lowerAfter, List.map_nil]
    | cons c s =>
      obtain ⟨d, marks, form, _, added⟩ := lowerAfter_cons before c s
      rw [form, List.map_cons, List.cons_prefix_cons, List.cons_prefix_cons]
      rcases added with ⟨rfl, rfl⟩ | ⟨beyond, added⟩
      · rw [List.nil_append, ih plain.tail]
      · -- a character beyond ASCII stands for no letter of the word on either side
        have other : w ≠ asciiLower c := by
          rw [asciiLower_of_beyond beyond]
          rintro rfl
          omega
        refine iff_of_false ?_ fun same => other same.1
        rintro ⟨rfl, rest⟩
        rcases added with far | rfl | ⟨rfl, rfl⟩
        · omega
        · exact notK rfl
        · cases word with
          | nil => exact plain.2 rfl
          | cons v word =>
            have mark := (List.cons_prefix_cons.mp rest).1
            have := (plain.1 v (List.mem_cons_of_mem _ List.mem_cons_self)).1
            rw [mark] at this
            exact absurd this (by decide)

/-- **A plain word starts in the lower-case form where it does in the text with small capitals.** -/
theorem prefix_lower_iff (plain : Plain word) (s : List Char) :
    word <+: lower s ↔ word <+: s.map asciiLower :=
  plain.prefix_lowerAfter_iff [] s

theorem infix_lowerAfter_iff (plain : Plain word) (before s : List Char) :
    word <:+: lowerAfter before s ↔ word <:+: s.map asciiLower := by
  induction s generalizing before with
  | nil => simp only [lowerAfter, List.map_nil]
  | cons c s ih =>
    obtain ⟨d, marks, form, mark, _⟩ := lowerAfter_cons before c s
    have start := plain.prefix_lowerAfter_iff before (c :: s)
    rw [form] at start ⊢
    rw [List.infix_cons_iff, start, List.map_cons, List.infix_cons_iff, ← ih (c :: before)]
    rcases mark with rfl | rfl
    · rw [List.nil_append]
    · -- the mark of a dotted capital is in no ASCII word
      rw [List.singleton_append, List.infix_cons_iff]
      refine or_congr_right (or_iff_right_of_imp fun marked => ?_)
      cases word with
      | nil => exact List.nil_infix
      | cons w word =>
        have := (plain.1 w List.mem_cons_self).1
        rw [(List.cons_prefix_cons.mp marked).1] at this
        exact absurd this (by decide)

end Plain

theorem occursIn_eq_true_iff {word s : List Char} : occursIn word s = true ↔ word <:+: s := by
  induction s with
  | nil => rw [occursIn, List.isEmpty_iff, List.infix_nil]
  | cons c s ih =>
    rw [occursIn, Bool.or_eq_true, List.isPrefixOf_iff_prefix, ih, List.infix_cons_iff]

/-- **A plain word occurs in the lower-case form where it does in the text with small capitals.** -/
theorem Plain.occursIn_lower_iff {word : List Char} (plain : Plain word) (s : List Char) :
    occursIn word (lower s) = true ↔ word <:+: s.map asciiLower := by
  rw [occursIn_eq_true_iff]
  exact plain.infix_lowerAfter_iff [] s

end TestPlanner.Text
