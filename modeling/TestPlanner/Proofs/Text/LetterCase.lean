import TestPlanner.Text.Case

/-!
# Letter case of numbered words

Lower-casing looks at the letters around a capital sigma, so the lower-case form of a text is in
general not put together from the forms of its parts. Digits do not take part in this: they have no
case, and they are not ignored when the end of a word is looked for. A text with digits behind it
therefore has the lower-case form of the text with the same digits behind it
(`lower_append_digits`), and two numbers behind one word never give forms that agree
(`lowered_append_toString_inj`).
-/

set_option autoImplicit false

namespace TestPlanner.Text

/-- The code points of the digits. -/
theorem toNat_of_isDigit {c : Char} (digit : c.isDigit = true) :
    48 ≤ c.toNat ∧ c.toNat ≤ 57 :=
  Char.isDigit_iff_toNat.mp digit

/-- Digits have no case. -/
theorem isCased_of_isDigit {c : Char} (digit : c.isDigit = true) : isCased c = false := by
  obtain ⟨low, high⟩ := toNat_of_isDigit digit
  have none : ∀ n < 58, 48 ≤ n → inRanges casedRanges n = false := by decide +kernel
  exact none c.toNat (by omega) low

/-- Digits are not passed over when the end of a word is looked for. -/
theorem isCaseIgnorable_of_isDigit {c : Char} (digit : c.isDigit = true) :
    isCaseIgnorable c = false := by
  obtain ⟨low, high⟩ := toNat_of_isDigit digit
  have none : ∀ n < 58, 48 ≤ n → inRanges caseIgnorableRanges n = false := by decide +kernel
  exact none c.toNat (by omega) low

/-- A digit is its own lower-case form. -/
theorem lowerChar_of_isDigit {c : Char} (digit : c.isDigit = true) : lowerChar c = [c] := by
  obtain ⟨low, high⟩ := toNat_of_isDigit digit
  have notUpper : isAsciiUpper c = false := by
    simp only [isAsciiUpper, Bool.and_eq_false_iff, decide_eq_false_iff_not]
    refine .inl fun atLeast => ?_
    have : 65 ≤ c.toNat := UInt32.le_iff_toNat_le.mp atLeast
    omega
  have ascii : c.toNat < 0x80 := by omega
  simp only [lowerChar, if_pos ascii, asciiLower, notUpper, Bool.false_eq_true, if_false]

/-- Digits behind a text do not change whether it starts with a letter that has case. -/
theorem startsCased_append_digits (s digits : List Char) (all : ∀ c ∈ digits, c.isDigit = true) :
    startsCased (s ++ digits) = startsCased s := by
  induction s with
  | nil =>
    cases digits with
    | nil => rfl
    | cons d rest =>
      have digit : d.isDigit = true := all d (by simp)
      simp [startsCased, isCaseIgnorable_of_isDigit digit, isCased_of_isDigit digit]
  | cons c s ih =>
    by_cases ignorable : isCaseIgnorable c = true
    · simpa only [startsCased, List.cons_append, List.dropWhile_cons, ignorable, if_true] using ih
    · simp [startsCased, ignorable]

/-- Digits keep their place when a text is lower-cased. -/
theorem lowerAfter_digits (before digits : List Char) (all : ∀ c ∈ digits, c.isDigit = true) :
    lowerAfter before digits = digits := by
  induction digits generalizing before with
  | nil => rfl
  | cons d rest ih =>
    have digit : d.isDigit = true := all d (by simp)
    have notSigma : (d == 'Σ') = false := by
      refine beq_eq_false_iff_ne.mpr fun same => ?_
      subst same
      exact absurd digit (by decide)
    simp only [lowerAfter, notSigma, Bool.false_and, Bool.false_eq_true, if_false,
      lowerChar_of_isDigit digit, ih (d :: before) fun c member => all c (by simp [member]),
      List.singleton_append]

theorem lowerAfter_append_digits (before s digits : List Char)
    (all : ∀ c ∈ digits, c.isDigit = true) :
    lowerAfter before (s ++ digits) = lowerAfter before s ++ digits := by
  induction s generalizing before with
  | nil => simpa only [List.nil_append, lowerAfter] using lowerAfter_digits before digits all
  | cons c s ih =>
    simp only [List.cons_append, lowerAfter, startsCased_append_digits s digits all,
      ih (c :: before), List.append_assoc]

/-- **Digits behind a text stay behind its lower-case form.** -/
theorem lower_append_digits (s digits : List Char) (all : ∀ c ∈ digits, c.isDigit = true) :
    lower (s ++ digits) = lower s ++ digits :=
  lowerAfter_append_digits [] s digits all

/-- Numbers are written in digits. -/
theorem isDigit_of_mem_toString {n : Nat} {c : Char} (member : c ∈ (toString n).toList) :
    c.isDigit = true := by
  rw [Nat.toString_eq_repr, Nat.toList_repr] at member
  exact Nat.isDigit_of_mem_toDigits (by decide) (by decide) member

/-- The lower-case form of a word with a number behind it. -/
theorem lowered_append_toString (word : String) (n : Nat) :
    lowered (word ++ toString n) = lowered word ++ toString n := by
  have digits : ∀ c ∈ (toString n).toList, c.isDigit = true :=
    fun _ member => isDigit_of_mem_toString member
  rw [lowered, String.toList_append, lower_append_digits _ _ digits, String.ofList_append,
    String.ofList_toList, lowered]

/-- Different numbers are written differently. -/
theorem toString_inj {m n : Nat} (same : toString m = toString n) : m = n := by
  have digits : Nat.toDigits 10 m = Nat.toDigits 10 n := by
    simpa only [Nat.toString_eq_repr, Nat.toList_repr] using congrArg String.toList same
  simpa only [Nat.ofDigitChars_ten_toDigits] using
    congrArg (fun ds => Nat.ofDigitChars 10 ds 0) digits

/-- **Two numbers behind one word are told apart in lower case.** -/
theorem lowered_append_toString_inj {word : String} {m n : Nat}
    (same : lowered (word ++ toString m) = lowered (word ++ toString n)) : m = n := by
  rw [lowered_append_toString, lowered_append_toString] at same
  have lists := congrArg String.toList same
  rw [String.toList_append, String.toList_append] at lists
  exact toString_inj (String.toList_inj.mp (List.append_cancel_left lists))

end TestPlanner.Text
