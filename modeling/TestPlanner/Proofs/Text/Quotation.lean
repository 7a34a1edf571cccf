import TestPlanner.Artifact.StepView
import TestPlanner.Selector

/-!
# Reading back what is escaped

Texts are escaped twice on their way into the artifacts: for the single-quoted literals of a script,
and for Cucumber expressions. Both escapes can be read back, whatever the text holds
(`Quoted.scanBody_encode`, `CucumberExpression.decode?_encode`), so neither makes two texts one, and
neither does their composition (`patternChars_inj`). A raw selector can be told from its locator
expression for the same reason (`Selector.raw_inj`).

A script literal has only one spelling that reads as its text: whatever is read from a literal is
escaped there as it would have been written (`Quoted.scan_eq_some_iff`).
-/

set_option autoImplicit false

namespace TestPlanner

namespace Text.Quoted

theorem encode_cons (c : Char) (s : List Char) : encode (c :: s) = encodeChar c ++ encode s :=
  List.flatMap_cons

/-- Every character but the four stands for itself. -/
theorem encodeChar_eq_singleton {c : Char} (backslash : c ≠ '\\') (quote : c ≠ '\'')
    (feed : c ≠ '\n') (carriageReturn : c ≠ '\r') : encodeChar c = [c] := by
  simp [encodeChar, backslash, quote, feed, carriageReturn]

/-- Reading past the escaped form of one character. -/
theorem scanBody_encodeChar (c : Char) (s : List Char) :
    scanBody (encodeChar c ++ s) = (scanBody s).map fun r => (c :: r.1, r.2) := by
  by_cases backslash : c = '\\'
  · subst backslash
    cases h : scanBody s <;> simp [encodeChar, scanBody, unescape?, h]
  by_cases quote : c = '\''
  · subst quote
    cases h : scanBody s <;> simp [encodeChar, scanBody, unescape?, h]
  by_cases lineFeed : c = '\n'
  · subst lineFeed
    cases h : scanBody s <;> simp [encodeChar, scanBody, unescape?, h]
  by_cases carriageReturn : c = '\r'
  · subst carriageReturn
    cases h : scanBody s <;> simp [encodeChar, scanBody, unescape?, h]
  -- every other character stands for itself
  · rw [encodeChar_eq_singleton backslash quote lineFeed carriageReturn, List.singleton_append,
      scanBody]
    · simp [quote, lineFeed, carriageReturn]
    · exact fun same _ => backslash same
    · exact fun _ _ same _ => backslash same

/-- **An escaped text is read back from its literal.** -/
theorem scanBody_encode (s rest : List Char) :
    scanBody (encode s ++ '\'' :: rest) = some (s, rest) := by
  induction s with
  | nil => simp [encode, scanBody]
  | cons c s ih =>
    rw [encode_cons, List.append_assoc, scanBody_encodeChar, ih, Option.map_some]

/-- An escape is the escaped form of the character that it stands for. -/
theorem encodeChar_of_unescape? {e c : Char} (stands : unescape? e = some c) :
    encodeChar c = ['\\', e] := by
  have escapes : ∀ d x : Char, (e == d) = true → some x = some c → encodeChar x = ['\\', d] →
      encodeChar c = ['\\', e] := by
    intro d x same stands escaped
    rw [← Option.some.inj stands, beq_iff_eq.mp same]
    exact escaped
  unfold unescape? at stands
  split at stands
  next same => exact escapes _ _ same stands rfl
  split at stands
  next same => exact escapes _ _ same stands rfl
  split at stands
  next same => exact escapes _ _ same stands rfl
  split at stands
  next same => exact escapes _ _ same stands rfl
  next => cases stands

/-- **Whatever is read from a literal is escaped there.** -/
theorem eq_of_scanBody {s body rest : List Char} (read : scanBody s = some (body, rest)) :
    s = encode body ++ '\'' :: rest := by
  fun_induction scanBody s generalizing body rest with
  | case1 => cases read
  | case2 => cases read
  | case3 e s ih =>
    -- an escape, which the reader knows only in the spelling of the writer
    simp only [Option.bind_eq_bind, Option.bind_eq_some_iff] at read
    obtain ⟨c, stands, ⟨tail, rest⟩, later, made⟩ := read
    obtain ⟨rfl, rfl⟩ := Prod.mk.inj (Option.some.inj made)
    rw [encode_cons, encodeChar_of_unescape? stands, ih later]
    rfl
  | case4 c s _ _ closes =>
    obtain ⟨rfl, rfl⟩ := Prod.mk.inj (Option.some.inj read)
    rw [beq_iff_eq.mp closes]
    rfl
  | case5 => cases read
  | case6 c s notSole notEscape notQuote notBreak ih =>
    -- a character that stands for itself, since it is none of the four
    obtain ⟨⟨tail, rest⟩, later, made⟩ := Option.map_eq_some_iff.mp read
    obtain ⟨rfl, rfl⟩ := Prod.mk.inj made
    have backslash : c ≠ '\\' := by
      intro same
      cases s with
      | nil => exact notSole same rfl
      | cons e s => exact notEscape e s same rfl
    simp only [Bool.or_eq_true, beq_iff_eq, not_or] at notQuote notBreak
    rw [encode_cons, encodeChar_eq_singleton backslash notQuote notBreak.1 notBreak.2, ih later]
    rfl

/-- **A literal is read from a text exactly if the text starts with its one spelling.** -/
theorem scan_eq_some_iff {s body rest : List Char} :
    scan s = some (body, rest) ↔ s = '\'' :: (encode body ++ '\'' :: rest) := by
  constructor
  · intro read
    unfold scan at read
    split at read
    next s => rw [eq_of_scanBody read]
    next => cases read
  · rintro rfl
    rw [scan, scanBody_encode]

theorem encode_inj {s t : List Char} (same : encode s = encode t) : s = t := by
  have first := scanBody_encode s []
  rw [same, scanBody_encode t []] at first
  exact (congrArg Prod.fst (Option.some.inj first)).symm

theorem escaped_inj {s t : String} (same : escaped s = escaped t) : s = t :=
  String.toList_inj.mp (encode_inj (String.ofList_inj.mp same))

theorem literal_inj {s t : String} (same : literal s = literal t) : s = t := by
  simp only [literal, String.append_right_inj, String.append_left_inj] at same
  exact escaped_inj same

end Text.Quoted

namespace CucumberExpression

/-- **An escaped expression matches its text and nothing else.** -/
theorem decode?_encode (s : List Char) : decode? (encode s) = some s := by
  induction s with
  | nil => rfl
  | cons c s ih =>
    have split : encode (c :: s) = (if isMeta c then ['\\', c] else [c]) ++ encode s :=
      List.flatMap_cons
    rw [split]
    by_cases special : isMeta c = true
    · simp [special, decode?, ih]
    · have plain : c ≠ '\\' := by
        rintro rfl
        exact special (by decide)
      simp only [special, Bool.false_eq_true, if_false, List.singleton_append]
      rw [decode?]
      · simp [special, ih]
      · exact fun same _ => plain same
      · exact fun _ _ same _ => plain same

theorem encode_inj {s t : List Char} (same : encode s = encode t) : s = t := by
  have first := decode?_encode s
  rw [same, decode?_encode t] at first
  exact (Option.some.inj first).symm

end CucumberExpression

/-- **Different one-line texts have different patterns.** -/
theorem patternChars_inj {s t : List Char} (same : patternChars s = patternChars t) : s = t :=
  CucumberExpression.encode_inj (Text.Quoted.encode_inj same)

/-- Different raw selectors have different locator expressions. -/
theorem Selector.raw_inj {s t : String} (same : Selector.raw s = Selector.raw t) : s = t := by
  simp only [Selector.raw, Selector.call, String.append_right_inj, String.append_left_inj] at same
  exact Text.Quoted.literal_inj same

end TestPlanner
