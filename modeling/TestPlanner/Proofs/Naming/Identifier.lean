import TestPlanner.Naming
import TestPlanner.Proofs.Text.LetterCase

/-!
# Identifiers

An identifier is a small ASCII letter with ASCII letters and digits behind it. Every label has an
identifier of this form (`isIdentifier_identifier`), whatever characters it holds, and a number
behind an identifier leaves it one (`isIdentifier_append_toString`).
-/

set_option autoImplicit false

namespace TestPlanner.Naming

open Text

/-- A small ASCII letter, then ASCII letters and digits. -/
def isIdentifierChars : List Char → Bool
  | [] => false
  | c :: rest => isAsciiLower c && rest.all isAsciiAlphanumeric

/-- Whether a string is an identifier. -/
def isIdentifier (s : String) : Bool := isIdentifierChars s.toList

theorem mem_alphanumerics {s : List Char} {c : Char} (member : c ∈ alphanumerics s) :
    isAsciiAlphanumeric c = true :=
  (List.mem_filter.mp member).2

theorem alphanumerics_ne_nil_iff {s : List Char} :
    alphanumerics s ≠ [] ↔ ∃ c ∈ s, isAsciiAlphanumeric c = true := by
  simp only [alphanumerics, ne_eq, List.filter_eq_nil_iff, Classical.not_forall,
    Classical.not_not, exists_prop]

/-- ASCII letters and digits have code points below 128. -/
theorem toNat_lt_of_isAsciiAlphanumeric {c : Char} (kept : isAsciiAlphanumeric c = true) :
    c.toNat < 128 := by
  simp only [isAsciiAlphanumeric, isAsciiLetter, isAsciiUpper, isAsciiLower, isAsciiDigit,
    Bool.or_eq_true, Bool.and_eq_true, decide_eq_true_eq] at kept
  rcases kept with (⟨_, atMost⟩ | ⟨_, atMost⟩) | ⟨_, atMost⟩
  · have : c.toNat ≤ 90 := UInt32.le_iff_toNat_le.mp atMost
    omega
  · have : c.toNat ≤ 122 := UInt32.le_iff_toNat_le.mp atMost
    omega
  · have : c.toNat ≤ 57 := UInt32.le_iff_toNat_le.mp atMost
    omega

theorem toNat_lt_of_isAsciiLetter {c : Char} (letter : isAsciiLetter c = true) :
    c.toNat < 128 :=
  toNat_lt_of_isAsciiAlphanumeric (by rw [isAsciiAlphanumeric, letter, Bool.true_or])

/-- What holds of the first 128 code points holds of every ASCII character. -/
theorem of_ascii {P : Char → Prop} (each : ∀ n < 128, P (Char.ofNat n)) {c : Char}
    (ascii : c.toNat < 128) : P c := by
  have found := each c.toNat ascii
  rwa [Char.ofNat_toNat] at found

/-- A letter or digit is not blank. -/
theorem isBlank_of_isAsciiAlphanumeric {c : Char} (kept : isAsciiAlphanumeric c = true) :
    isBlank c = false :=
  of_ascii (P := fun c => isAsciiAlphanumeric c = true → isBlank c = false) (by decide +kernel)
    (toNat_lt_of_isAsciiAlphanumeric kept) kept

/-- The lower-case form of an ASCII letter is one small letter. -/
theorem lowerChar_of_isAsciiLetter {c : Char} (letter : isAsciiLetter c = true) :
    ∃ d, lowerChar c = [d] ∧ isAsciiLower d = true := by
  have bound := toNat_lt_of_isAsciiLetter letter
  have small : isAsciiLower (asciiLower c) = true :=
    of_ascii (P := fun c => isAsciiLetter c = true → isAsciiLower (asciiLower c) = true)
      (by decide +kernel) bound letter
  exact ⟨asciiLower c, if_pos bound, small⟩

/-- The upper-case form of an ASCII letter is one capital. -/
theorem upperChar_of_isAsciiLetter {c : Char} (letter : isAsciiLetter c = true) :
    ∃ d, upperChar c = [d] ∧ isAsciiUpper d = true := by
  have bound := toNat_lt_of_isAsciiLetter letter
  have capital : isAsciiUpper (asciiUpper c) = true :=
    of_ascii (P := fun c => isAsciiLetter c = true → isAsciiUpper (asciiUpper c) = true)
      (by decide +kernel) bound letter
  exact ⟨asciiUpper c, if_pos bound, capital⟩

/-- A text of letters and digits that starts with a letter becomes an identifier when its first
letter is made small. -/
theorem isIdentifierChars_lowerFirst {c : Char} {rest : List Char}
    (letter : isAsciiLetter c = true) (all : ∀ d ∈ rest, isAsciiAlphanumeric d = true) :
    isIdentifierChars (lowerFirst (c :: rest)) = true := by
  obtain ⟨d, form, small⟩ := lowerChar_of_isAsciiLetter letter
  simp only [lowerFirst, form, List.singleton_append, isIdentifierChars, small, Bool.true_and]
  exact List.all_eq_true.mpr all

theorem isIdentifierChars_identifierChars (label : List Char) :
    isIdentifierChars (identifierChars label) = true := by
  have kept : ∀ d ∈ alphanumerics label, isAsciiAlphanumeric d = true :=
    fun _ member => mem_alphanumerics member
  unfold identifierChars
  generalize alphanumerics label = text at kept
  cases text with
  | nil => decide
  | cons c rest =>
    by_cases digit : isAsciiDigit c = true
    · simp only [digit, if_true]
      refine isIdentifierChars_lowerFirst (c := 'e') (by decide) fun d member => ?_
      rcases List.mem_append.mp member with marker | own
      · exact List.all_eq_true.mp (by decide : "lement".toList.all isAsciiAlphanumeric = true)
          d marker
      · exact kept d own
    · have letter : isAsciiLetter c = true := by
        have := kept c (by simp)
        simpa only [isAsciiAlphanumeric, digit, Bool.or_false] using this
      simp only [digit, Bool.false_eq_true, if_false]
      exact isIdentifierChars_lowerFirst letter fun d member => kept d (by simp [member])

/-- **The identifier for a label is an identifier.** -/
theorem isIdentifier_identifier (label : String) : isIdentifier (identifier label) = true := by
  rw [isIdentifier, identifier, String.toList_ofList]
  exact isIdentifierChars_identifierChars label.toList

/-- An identifier with a number behind it is an identifier. -/
theorem isIdentifier_append_toString {word : String} (n : Nat)
    (valid : isIdentifier word = true) : isIdentifier (word ++ toString n) = true := by
  rw [isIdentifier] at valid ⊢
  rw [String.toList_append]
  cases chars : word.toList with
  | nil => simp [chars, isIdentifierChars] at valid
  | cons c rest =>
    simp only [chars, isIdentifierChars, Bool.and_eq_true] at valid
    simp only [List.cons_append, isIdentifierChars, List.all_append, valid, Bool.true_and]
    refine List.all_eq_true.mpr fun d member => ?_
    have digit : d.isDigit = true := isDigit_of_mem_toString member
    simp only [isAsciiAlphanumeric, isAsciiDigit, Bool.or_eq_true, Bool.and_eq_true,
      decide_eq_true_eq]
    refine .inr ⟨?_, ?_⟩
    · exact UInt32.le_iff_toNat_le.mpr (Char.isDigit_iff_toNat.mp digit).1
    · exact UInt32.le_iff_toNat_le.mpr (Char.isDigit_iff_toNat.mp digit).2

end TestPlanner.Naming
