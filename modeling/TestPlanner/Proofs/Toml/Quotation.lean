import TestPlanner.Proofs.Text.Runs
import TestPlanner.Toml.Quoted
import TestPlanner.Toml.Scalar

/-!
# Reading back TOML strings

A string is written in the first of six forms that holds it, and each of the four readers has to
find the end of what the forms it reads have written.

**Double quotes.** Every character but the quote is written as itself, as a short escape or in four
hexadecimal digits, in either of the two forms (`escapeChar_cases`). A quote is escaped, except that
on several lines two in a row may stand as they are; so the reader never meets three in a row
before the end (`basicString?_escaped`, `basicLines?_escaped`).

**Single quotes.** Nothing is escaped, so what may stand there is bounded instead: no control
characters, and no quote on a single line, nor three in a row on several (`literalString?_text`,
`literalLines?_text`).

**Ends.** Up to two quotes directly before the closing three belong to the text. The closing quotes
are found because what follows them is no further quote; in a document it is the end of the line, a
comma or a bracket (`string?_encode`).
-/

set_option autoImplicit false

namespace TestPlanner.Toml

open Quoted

/-! ## Characters -/

theorem lineBreak?_of_head {s : List Char} (first : ∀ c ∈ s.head?, c ≠ '\n' ∧ c ≠ '\r') :
    lineBreak? s = none := by
  match s with
  | [] => rfl
  | c :: s =>
    obtain ⟨lineFeed, carriageReturn⟩ := first c rfl
    rw [lineBreak?]
    · exact fun _ same => lineFeed (List.cons.inj same).1
    · exact fun _ same => carriageReturn (List.cons.inj same).1

/-- A character that needs no escape is a line break or may stand on a line. -/
theorem lineChar_of_needsEscape {c : Char} (plain : needsEscape c = false) :
    c = '\n' ∨ isLineChar c = true := by
  by_cases lineFeed : c = '\n'
  · exact .inl lineFeed
  by_cases tabulator : c = '\t'
  · rw [tabulator]
    exact .inr rfl
  · refine .inr ?_
    simp only [needsEscape, Bool.or_eq_false_iff, Bool.and_eq_false_iff, decide_eq_false_iff_not,
      bne_eq_false_iff_eq, lineFeed, tabulator, or_false, beq_eq_false_iff_ne] at plain
    obtain ⟨low, delete⟩ := plain
    simp only [isLineChar, Bool.or_eq_true, Bool.and_eq_true, decide_eq_true_eq, bne_iff_ne]
    exact .inr ⟨by omega, delete⟩

theorem carriageReturn_ne_of_lineChar {c : Char} (line : c = '\n' ∨ isLineChar c = true) :
    c ≠ '\r' := by
  rintro rfl
  rcases line with lineFeed | line
  · exact absurd lineFeed (by decide)
  · exact absurd line (by decide)

/-- Control characters are written in four hexadecimal digits. -/
theorem codePoint?_control : ∀ n < 0x80,
    codePoint? ['0', '0', hexChar (n / 16), hexChar (n % 16)] = some (Char.ofNat n) := by
  decide

/-- **A character between double quotes** is written as a short escape, in hexadecimal digits or as
itself, which on several lines holds of the line break as well. -/
theorem escapeChar_cases (multiline : Bool) (c : Char) :
    (∃ e, shortEscape? e = some c ∧ escapeChar multiline c = ['\\', e]) ∨
      (c.toNat < 0x80 ∧ escapeChar multiline c =
        ['\\', 'u', '0', '0', hexChar (c.toNat / 16), hexChar (c.toNat % 16)]) ∨
      (c ≠ '\\' ∧ (isLineChar c = true ∨ multiline = true ∧ c = '\n') ∧
        escapeChar multiline c = [c]) := by
  by_cases backspace : c = '\x08'
  · exact .inl ⟨'b', by rw [backspace]; rfl, by rw [backspace]; rfl⟩
  by_cases tabulator : c = '\t'
  · exact .inl ⟨'t', by rw [tabulator]; rfl, by rw [tabulator]; rfl⟩
  by_cases lineFeed : c = '\n'
  · rw [lineFeed]
    cases multiline with
    | false => exact .inl ⟨'n', rfl, rfl⟩
    | true => exact .inr (.inr ⟨by decide, .inr ⟨rfl, rfl⟩, rfl⟩)
  by_cases formFeed : c = '\x0c'
  · exact .inl ⟨'f', by rw [formFeed]; rfl, by rw [formFeed]; rfl⟩
  by_cases carriageReturn : c = '\r'
  · exact .inl ⟨'r', by rw [carriageReturn]; rfl, by rw [carriageReturn]; rfl⟩
  by_cases backslash : c = '\\'
  · exact .inl ⟨'\\', by rw [backslash]; rfl, by rw [backslash]; rfl⟩
  have others : escapeChar multiline c =
      if c.toNat < 0x20 || c.toNat == 0x7F then
        ['\\', 'u', '0', '0', hexChar (c.toNat / 16), hexChar (c.toNat % 16)]
      else [c] := by
    simp only [escapeChar, beq_iff_eq, backspace, tabulator, lineFeed, formFeed, carriageReturn,
      backslash, if_false]
  rw [others]
  by_cases control : c.toNat < 0x20 ∨ c.toNat = 0x7F
  · refine .inr (.inl ⟨by omega, if_pos ?_⟩)
    simpa only [Bool.or_eq_true, decide_eq_true_eq, beq_iff_eq] using control
  · refine .inr (.inr ⟨backslash, .inl ?_, if_neg ?_⟩)
    · simp only [isLineChar, Bool.or_eq_true, Bool.and_eq_true, decide_eq_true_eq, bne_iff_ne]
      exact .inr ⟨by omega, fun delete => control (.inr delete)⟩
    · simpa only [Bool.or_eq_true, decide_eq_true_eq, beq_iff_eq] using control

/-- No written character starts with a quote, a carriage return or, unless it is one on several
lines, a line break. -/
theorem head?_escapeChar (multiline : Bool) {c : Char} (quote : c ≠ '"') (s : List Char) :
    ∀ d ∈ (escapeChar multiline c ++ s).head?, d ≠ '"' ∧ d ≠ '\r' ∧ (c ≠ '\n' → d ≠ '\n') := by
  intro d first
  rcases escapeChar_cases multiline c with ⟨e, _, written⟩ | ⟨_, written⟩ | ⟨_, line, written⟩
  · rw [written] at first
    obtain rfl : '\\' = d := Option.some.inj first
    exact ⟨by decide, by decide, fun _ => by decide⟩
  · rw [written] at first
    obtain rfl : '\\' = d := Option.some.inj first
    exact ⟨by decide, by decide, fun _ => by decide⟩
  · rw [written] at first
    obtain rfl : c = d := Option.some.inj first
    exact ⟨quote, carriageReturn_ne_of_lineChar (line.elim .inr fun several => .inl several.2), id⟩

theorem escapeFrom_quote (multiline : Bool) (quotes : Nat) (s : List Char) :
    escapeFrom multiline quotes ('"' :: s) =
      if multiline && quotes < 2 then '"' :: escapeFrom multiline (quotes + 1) s
      else '\\' :: '"' :: escapeFrom multiline 0 s :=
  rfl

theorem escapeFrom_other (multiline : Bool) (quotes : Nat) {c : Char} (quote : c ≠ '"')
    (s : List Char) : escapeFrom multiline quotes (c :: s) =
      escapeChar multiline c ++ escapeFrom multiline 0 s :=
  if_neg (by simpa using quote)

/-- What the two readers of escaped strings have in common: they read whatever a character may be
written as. -/
structure ReadsEscaped (multiline : Bool) (read : List Char → Option (List Char × List Char)) :
    Prop where
  short : ∀ {e c : Char}, shortEscape? e = some c → ∀ s,
    read ('\\' :: e :: s) = (read s).map (keep c)
  control : ∀ {c : Char}, c.toNat < 0x80 → ∀ s,
    read ('\\' :: 'u' :: '0' :: '0' :: hexChar (c.toNat / 16) :: hexChar (c.toNat % 16) :: s) =
      (read s).map (keep c)
  plain : ∀ {c : Char}, c ≠ '"' → c ≠ '\\' →
    (isLineChar c = true ∨ multiline = true ∧ c = '\n') → ∀ s,
    read (c :: s) = (read s).map (keep c)

/-- A written character is read as the character that it stands for. -/
theorem ReadsEscaped.escapeChar {multiline : Bool}
    {read : List Char → Option (List Char × List Char)} (reads : ReadsEscaped multiline read)
    {c : Char} (quote : c ≠ '"') (s : List Char) :
    read (Quoted.escapeChar multiline c ++ s) = (read s).map (keep c) := by
  rcases escapeChar_cases multiline c with ⟨e, stands, written⟩ | ⟨low, written⟩ |
    ⟨backslash, line, written⟩
  · rw [written]
    exact reads.short stands s
  · rw [written]
    exact reads.control low s
  · rw [written]
    exact reads.plain quote backslash line s

/-! ## Three closing quotes -/

/-- What the readers of strings on several lines have in common: three quotes in a row close the
string, after up to two that belong to it. -/
structure ClosesWithThree (mark : Char) (read : List Char → Option (List Char × List Char)) :
    Prop where
  /-- a quote that is not the first of three belongs to the text -/
  quote : ∀ {s}, (∀ r, s ≠ mark :: mark :: r) → read (mark :: s) = (read s).map (keep mark)
  three : ∀ {s}, (∀ r, s ≠ mark :: r) → read (mark :: mark :: mark :: s) = some ([], s)
  four : ∀ {s}, (∀ r, s ≠ mark :: r) → read (mark :: mark :: mark :: mark :: s) = some ([mark], s)
  five : ∀ {s}, read (mark :: mark :: mark :: mark :: mark :: s) = some ([mark, mark], s)

namespace ClosesWithThree

variable {mark : Char} {read : List Char → Option (List Char × List Char)}
  (closes : ClosesWithThree mark read) {quotes : Nat} (few : quotes ≤ 2) {s : List Char}
  (other : ∀ c ∈ s.head?, c ≠ mark)

include closes few other

/-- Two quotes in a row that no third follows belong to the text. -/
theorem read_quotes : read (List.replicate quotes mark ++ s) =
    (read s).map fun r => (List.replicate quotes mark ++ r.1, r.2) := by
  have next : ∀ r, s ≠ mark :: r := by
    rintro r rfl
    exact other mark rfl rfl
  obtain rfl | rfl | rfl : quotes = 0 ∨ quotes = 1 ∨ quotes = 2 := by omega
  · exact Option.map_id'.symm
  · exact closes.quote fun r => next (mark :: r)
  · rw [List.replicate_succ, List.replicate_one, List.cons_append, List.singleton_append,
      closes.quote fun r same => next r (List.cons.inj same).2,
      closes.quote fun r => next (mark :: r), Option.map_map]
    rfl

/-- The closing three quotes are found behind up to two quotes of the text. -/
theorem read_close : read (List.replicate quotes mark ++ mark :: mark :: mark :: s) =
    some (List.replicate quotes mark, s) := by
  have next : ∀ r, s ≠ mark :: r := by
    rintro r rfl
    exact other mark rfl rfl
  obtain rfl | rfl | rfl : quotes = 0 ∨ quotes = 1 ∨ quotes = 2 := by omega
  · exact closes.three next
  · exact closes.four next
  · exact closes.five

end ClosesWithThree

/-! ## Double quotes on one line -/

theorem basicString?_close (rest : List Char) : basicString? ('"' :: rest) = some ([], rest) :=
  rfl

theorem readsEscaped_basicString? : ReadsEscaped false basicString? where
  short stands s := by
    rw [basicString?, stands]
    · rfl
    · rintro _ _ _ _ _ rfl _
      exact absurd stands (by simp [shortEscape?])
    · rintro _ _ _ _ _ _ _ _ _ rfl _
      exact absurd stands (by simp [shortEscape?])
  control low s := by
    rw [basicString?, codePoint?_control _ low, Char.ofNat_toNat]
    rfl
  plain quote backslash line s := by
    have line := line.resolve_right fun several => absurd several.1 Bool.false_ne_true
    rw [basicString?]
    · simp [quote, backslash, line]
    · exact fun _ _ _ _ _ same _ => backslash same
    · exact fun _ _ _ _ _ _ _ _ _ same _ => backslash same
    · exact fun _ _ same _ => backslash same

/-- **A string between double quotes is read back up to the closing one.** -/
theorem basicString?_escaped (s rest : List Char) (quotes : Nat) :
    basicString? (escapeFrom false quotes s ++ '"' :: rest) = some (s, rest) := by
  induction s generalizing quotes with
  | nil => exact basicString?_close rest
  | cons c s ih =>
    by_cases quote : c = '"'
    · subst quote
      rw [escapeFrom_quote, Bool.false_and, if_neg Bool.false_ne_true, List.cons_append,
        List.cons_append, readsEscaped_basicString?.short rfl, ih]
      rfl
    · rw [escapeFrom_other _ _ quote, List.append_assoc,
        readsEscaped_basicString?.escapeChar quote, ih]
      rfl

/-! ## Double quotes on several lines -/

theorem readsEscaped_basicLines? : ReadsEscaped true (basicLines? false) where
  short stands s := by
    rw [basicLines?]
    · simp only [stands]
    · rintro _ _ _ _ _ rfl _
      exact absurd stands (by simp [shortEscape?])
    · rintro _ _ _ _ _ _ _ _ _ rfl _
      exact absurd stands (by simp [shortEscape?])
  control low s := by
    rw [basicLines?, codePoint?_control _ low, Char.ofNat_toNat]
    rfl
  plain {c} quote backslash line s := by
    have line : c = '\n' ∨ isLineChar c = true := line.elim .inr fun several => .inl several.2
    have carriageReturn : c ≠ '\r' := carriageReturn_ne_of_lineChar line
    rw [basicLines?]
    · rw [if_neg (by simp), if_pos (by simpa [backslash] using line)]
    · exact fun _ same _ => quote same
    · exact fun _ same _ => quote same
    · exact fun _ same _ => quote same
    · exact fun _ same _ => carriageReturn same
    · exact fun _ _ _ _ _ same _ => backslash same
    · exact fun _ _ _ _ _ _ _ _ _ same _ => backslash same
    · exact fun _ _ same _ => backslash same

theorem closesWithThree_basicLines? : ClosesWithThree '"' (basicLines? false) where
  quote pair := by
    rw [basicLines?]
    · rw [if_neg (by simp), if_pos (by decide)]
    · exact fun _ _ same => pair _ same
    · exact fun _ _ same => pair _ same
    · exact fun _ _ same => pair _ same
    · exact fun _ same _ => absurd same (by decide)
    · exact fun _ _ _ _ _ same _ => absurd same (by decide)
    · exact fun _ _ _ _ _ _ _ _ _ same _ => absurd same (by decide)
    · exact fun _ _ same _ => absurd same (by decide)
  three next := by
    rw [basicLines?]
    · exact fun r => next ('"' :: r)
    · exact next
  four next := by
    rw [basicLines?]
    exact next
  five := rfl

/-- **A string between three double quotes is read back up to the closing ones,** with the quotes
that stand in a row before it. -/
theorem basicLines?_escaped (s : List Char) {rest : List Char} (other : ∀ c ∈ rest.head?, c ≠ '"')
    {quotes : Nat} (few : quotes ≤ 2) :
    basicLines? false (List.replicate quotes '"' ++
      (escapeFrom true quotes s ++ '"' :: '"' :: '"' :: rest)) =
      some (List.replicate quotes '"' ++ s, rest) := by
  induction s generalizing quotes with
  | nil =>
    rw [List.append_nil]
    exact closesWithThree_basicLines?.read_close few other
  | cons c s ih =>
    have read : basicLines? false (escapeFrom true 0 s ++ '"' :: '"' :: '"' :: rest) =
        some (s, rest) := ih (Nat.zero_le 2)
    have read_quotes {t : List Char} (other : ∀ c ∈ t.head?, c ≠ '"') :=
      closesWithThree_basicLines?.read_quotes few other
    by_cases quote : c = '"'
    · subst quote
      by_cases more : quotes < 2
      · have written : escapeFrom true quotes ('"' :: s) =
            '"' :: escapeFrom true (quotes + 1) s := by
          simp [escapeFrom_quote, more]
        have longer := @ih (quotes + 1) (by omega)
        rw [List.replicate_succ'] at longer
        rw [written, List.cons_append, List.append_cons, List.append_cons _ _ s, longer]
      · have written : escapeFrom true quotes ('"' :: s) = '\\' :: '"' :: escapeFrom true 0 s := by
          simp [escapeFrom_quote, more]
        rw [written, List.cons_append, List.cons_append, read_quotes,
          readsEscaped_basicLines?.short rfl, read]
        · rfl
        · rintro _ ⟨⟩
          decide
    · rw [escapeFrom_other _ _ quote, List.append_assoc, read_quotes,
        readsEscaped_basicLines?.escapeChar quote, read]
      · rfl
      · exact fun _ first => (head?_escapeChar true quote _ _ first).1

/-! ## Single quotes -/

/-- **A string between single quotes is read back** if it has no single quote and stands on a
line. -/
theorem literalString?_text {s : List Char} (body : ∀ c ∈ s, c ≠ '\'' ∧ isLineChar c = true)
    (rest : List Char) : literalString? (s ++ '\'' :: rest) = some (s, rest) := by
  have inside : ∀ c ∈ s, (c != '\'' && isLineChar c) = true := by
    intro c member
    rw [Bool.and_eq_true, bne_iff_ne]
    exact body c member
  have close : ∀ c ∈ ('\'' :: rest).head?, (c != '\'' && isLineChar c) = false := by
    rintro _ ⟨⟩
    rfl
  obtain ⟨taken, dropped⟩ := Text.cut_run inside close
  simp only [literalString?, taken, dropped]

theorem literalLines?_plain {c : Char} (quote : c ≠ '\'') (line : c = '\n' ∨ isLineChar c = true)
    (s : List Char) : literalLines? (c :: s) = (literalLines? s).map (keep c) := by
  have carriageReturn : c ≠ '\r' := carriageReturn_ne_of_lineChar line
  rw [literalLines?]
  · rw [if_pos (by simpa using line)]
  · exact fun _ same _ => quote same
  · exact fun _ same _ => quote same
  · exact fun _ same _ => quote same
  · exact fun _ same _ => carriageReturn same

theorem closesWithThree_literalLines? : ClosesWithThree '\'' literalLines? where
  quote pair := by
    rw [literalLines?]
    · rw [if_pos (by decide)]
    · exact fun _ _ same => pair _ same
    · exact fun _ _ same => pair _ same
    · exact fun _ _ same => pair _ same
    · exact fun _ same _ => absurd same (by decide)
  three next := by
    rw [literalLines?]
    · exact fun r => next ('\'' :: r)
    · exact next
  four next := by
    rw [literalLines?]
    exact next
  five := rfl

theorem longestRun_cons (mark : Char) (current : Nat) (c : Char) (s : List Char) :
    longestRun mark current (c :: s) =
      if c == mark then longestRun mark (current + 1) s
      else max current (longestRun mark 0 s) :=
  rfl

theorem le_longestRun (mark : Char) (s : List Char) (current : Nat) :
    current ≤ longestRun mark current s := by
  induction s generalizing current with
  | nil => exact Nat.le_refl current
  | cons c s ih =>
    rw [longestRun_cons]
    split
    · exact Nat.le_of_succ_le (ih (current + 1))
    · exact Nat.le_max_left _ _

theorem ne_of_longestRun_eq_zero {mark : Char} {s : List Char} {current : Nat}
    (none : longestRun mark current s = 0) : ∀ c ∈ s, c ≠ mark := by
  induction s generalizing current with
  | nil => exact fun _ member => nomatch member
  | cons d s ih =>
    rw [longestRun_cons] at none
    split at none
    next =>
      have longer : current + 1 ≤ 0 := none ▸ le_longestRun mark s (current + 1)
      exact absurd longer (by omega)
    next other =>
      have shorter : longestRun mark 0 s = 0 := by omega
      rw [List.forall_mem_cons]
      exact ⟨fun same => other (beq_iff_eq.mpr same), ih shorter⟩

/-- **A string between three single quotes is read back** if it has no three in a row. -/
theorem literalLines?_text (s : List Char) {rest : List Char} (other : ∀ c ∈ rest.head?, c ≠ '\'')
    (lines : ∀ c ∈ s, c = '\n' ∨ isLineChar c = true) {quotes : Nat}
    (few : longestRun '\'' quotes s ≤ 2) :
    literalLines? (List.replicate quotes '\'' ++ (s ++ '\'' :: '\'' :: '\'' :: rest)) =
      some (List.replicate quotes '\'' ++ s, rest) := by
  induction s generalizing quotes with
  | nil =>
    rw [List.append_nil]
    exact closesWithThree_literalLines?.read_close few other
  | cons c s ih =>
    rw [List.forall_mem_cons] at lines
    rw [longestRun_cons] at few
    split at few
    next quote =>
      obtain rfl : c = '\'' := beq_iff_eq.mp quote
      have longer := ih lines.2 few
      rw [List.replicate_succ'] at longer
      rw [List.cons_append, List.append_cons, List.append_cons _ _ s, longer]
    next quote =>
      have quote : c ≠ '\'' := fun same => quote (beq_iff_eq.mpr same)
      have read : literalLines? (s ++ '\'' :: '\'' :: '\'' :: rest) = some (s, rest) :=
        @ih lines.2 0 (by omega)
      rw [List.cons_append, closesWithThree_literalLines?.read_quotes (by omega)
          (fun _ first => by obtain rfl := Option.some.inj first; exact quote),
        literalLines?_plain quote lines.1, read]
      rfl

/-! ## Every form -/

/-- What follows a value: the end of the line, the comma behind an item, or the bracket behind the
last one. -/
def EndsValue (rest : List Char) : Prop :=
  ∀ c ∈ rest.head?, c = '\n' ∨ c = ',' ∨ c = ']'

theorem EndsValue.ne {rest : List Char} (ends : EndsValue rest) {mark : Char}
    (other : mark ≠ '\n' ∧ mark ≠ ',' ∧ mark ≠ ']') : ∀ c ∈ rest.head?, c ≠ mark := by
  rintro c first rfl
  rcases ends c first with same | same | same
  · exact other.1 same
  · exact other.2.1 same
  · exact other.2.2 same

/-- A string on one line between double quotes does not start like one on several. -/
theorem string?_basic (s : List Char) {rest : List Char} (other : ∀ c ∈ rest.head?, c ≠ '"') :
    string? (between ['"'] false (escapeFrom false 0 s) ++ rest) = some (s, rest) := by
  have single : ∀ r, escapeFrom false 0 s ++ '"' :: rest ≠ '"' :: '"' :: r := by
    intro r same
    cases s with
    | nil => exact other '"' (by rw [(List.cons.inj same).2]; rfl) rfl
    | cons c s =>
      by_cases quote : c = '"'
      · subst quote
        exact absurd (List.cons.inj same).1 (by decide)
      · rw [escapeFrom_other _ _ quote, List.append_assoc] at same
        exact (head?_escapeChar false quote _ '"' (by rw [same]; rfl)).1 rfl
  have written : between ['"'] false (escapeFrom false 0 s) ++ rest =
      '"' :: (escapeFrom false 0 s ++ '"' :: rest) := by
    simp [between]
  rw [written, string?, basicString?_escaped]
  exact single

/-- A string on one line between single quotes does not start like one on several. -/
theorem string?_literal {s : List Char} (body : ∀ c ∈ s, c ≠ '\'' ∧ isLineChar c = true)
    {rest : List Char} (other : ∀ c ∈ rest.head?, c ≠ '\'') :
    string? (between ['\''] false s ++ rest) = some (s, rest) := by
  have single : ∀ r, s ++ '\'' :: rest ≠ '\'' :: '\'' :: r := by
    intro r same
    cases s with
    | nil => exact other '\'' (by rw [(List.cons.inj same).2]; rfl) rfl
    | cons c s => exact (body c List.mem_cons_self).1 (List.cons.inj same).1
  have written : between ['\''] false s ++ rest = '\'' :: (s ++ '\'' :: rest) := by
    simp [between]
  rw [written, string?, literalString?_text body]
  exact single

/-- The line break behind the opening quotes of a text of several lines is dropped again, and the
text of a single line starts with none. -/
theorem dropLineBreak_between {s : List Char} (severalLines : Bool)
    (single : severalLines = false → ∀ c ∈ s.head?, c ≠ '\n' ∧ c ≠ '\r') :
    dropLineBreak ((if severalLines then ['\n'] else []) ++ s) = s := by
  cases severalLines with
  | true => rfl
  | false =>
    rw [if_neg Bool.false_ne_true, List.nil_append, dropLineBreak,
      lineBreak?_of_head (single rfl), Option.getD_none]

theorem string?_basicLines (s : List Char) {rest : List Char} (other : ∀ c ∈ rest.head?, c ≠ '"')
    {severalLines : Bool} (single : severalLines = false → '\n' ∉ s) :
    string? (between ['"', '"', '"'] severalLines (escapeFrom true 0 s) ++ rest) =
      some (s, rest) := by
  have written : between ['"', '"', '"'] severalLines (escapeFrom true 0 s) ++ rest =
      '"' :: '"' :: '"' :: ((if severalLines then ['\n'] else []) ++
        (escapeFrom true 0 s ++ '"' :: '"' :: '"' :: rest)) := by
    simp [between]
  have front : severalLines = false →
      ∀ c ∈ (escapeFrom true 0 s ++ '"' :: '"' :: '"' :: rest).head?, c ≠ '\n' ∧ c ≠ '\r' := by
    intro one
    cases s with
    | nil =>
      intro d first
      obtain rfl := Option.some.inj first
      decide
    | cons c s =>
      by_cases quote : c = '"'
      · subst quote
        intro d first
        obtain rfl := Option.some.inj first
        decide
      · intro d first
        rw [escapeFrom_other _ _ quote, List.append_assoc] at first
        obtain ⟨_, carriageReturn, lineFeed⟩ := head?_escapeChar true quote _ d first
        exact ⟨lineFeed fun same => single one (same ▸ List.mem_cons_self), carriageReturn⟩
  rw [written]
  change basicLines? false (dropLineBreak _) = _
  rw [dropLineBreak_between severalLines front]
  exact basicLines?_escaped s other (Nat.zero_le 2)

theorem string?_literalLines {s : List Char} (lines : ∀ c ∈ s, c = '\n' ∨ isLineChar c = true)
    (few : longestRun '\'' 0 s ≤ 2) {rest : List Char} (other : ∀ c ∈ rest.head?, c ≠ '\'')
    {severalLines : Bool} (single : severalLines = false → '\n' ∉ s) :
    string? (between ['\'', '\'', '\''] severalLines s ++ rest) = some (s, rest) := by
  have written : between ['\'', '\'', '\''] severalLines s ++ rest =
      '\'' :: '\'' :: '\'' :: ((if severalLines then ['\n'] else []) ++
        (s ++ '\'' :: '\'' :: '\'' :: rest)) := by
    simp [between]
  have front : severalLines = false →
      ∀ c ∈ (s ++ '\'' :: '\'' :: '\'' :: rest).head?, c ≠ '\n' ∧ c ≠ '\r' := by
    intro one d first
    cases s with
    | nil =>
      obtain rfl := Option.some.inj first
      decide
    | cons c s =>
      obtain rfl := Option.some.inj first
      exact ⟨fun same => single one (same ▸ List.mem_cons_self),
        carriageReturn_ne_of_lineChar (lines _ List.mem_cons_self)⟩
  rw [written]
  change literalLines? (dropLineBreak _) = _
  rw [dropLineBreak_between severalLines front]
  exact literalLines?_text s other lines few

/-- **Every string is read back from its written form,** whichever form it takes. -/
theorem string?_encode (s : List Char) {rest : List Char} (ends : EndsValue rest) :
    string? (encode s ++ rest) = some (s, rest) := by
  have double : ∀ c ∈ rest.head?, c ≠ '"' := ends.ne (by decide)
  have quote : ∀ c ∈ rest.head?, c ≠ '\'' := ends.ne (by decide)
  have lines : s.any needsEscape = false → ∀ c ∈ s, c = '\n' ∨ isLineChar c = true := by
    intro control c member
    rw [List.any_eq_false] at control
    exact lineChar_of_needsEscape (Bool.eq_false_iff.mpr (control c member))
  have single : s.contains '\n' = false → '\n' ∉ s := by
    intro one member
    rw [List.contains_eq_mem, decide_eq_false_iff_not] at one
    exact one member
  simp only [encode]
  split
  next => exact string?_basic s double
  next =>
    split
    next form =>
      simp only [Bool.and_eq_true, Bool.not_eq_true', beq_iff_eq] at form
      obtain ⟨⟨control, none⟩, one⟩ := form
      refine string?_literal (fun c member => ⟨ne_of_longestRun_eq_zero none c member, ?_⟩) quote
      rcases lines control c member with rfl | line
      · exact absurd member (single one)
      · exact line
    next =>
      split
      next => exact string?_basicLines s double single
      next =>
        split
        next form =>
          simp only [Bool.and_eq_true, Bool.not_eq_true', decide_eq_true_eq] at form
          exact string?_literalLines (lines form.1) form.2 quote single
        next =>
          split
          next => exact string?_basicLines s double fun one => nomatch one
          next => exact string?_basic s double

end TestPlanner.Toml
