import TestPlanner.Json.Parser
import TestPlanner.Json.Printer
import TestPlanner.Proofs.Text.LetterCase
import TestPlanner.Proofs.Text.Runs

/-!
# Reading back strings and numbers

A string is written character by character, and every character is read back as one piece, whatever
it is: itself, a short escape, or a control character in hexadecimal digits (`exists_piece`). So the
reader finds the closing quote where the string ends, and the string before it
(`readString?_escaped`).

A number is written in decimal digits without leading zeros, behind its sign, and with an exponent
if it is no whole number. It is read back if what follows cannot belong to a number
(`readNumber?_chars`).
-/

set_option autoImplicit false

namespace TestPlanner.Json

/-! ## Strings -/

theorem pieces?_short {e c : Char} (stands : shortEscape? e = some c) (other : e ≠ 'u')
    (s : List Char) :
    pieces? ('\\' :: e :: s) = (pieces? s).map fun r => (.char c :: r.1, r.2) := by
  rw [pieces?, stands]
  · cases pieces? s <;> rfl
  · exact fun _ _ _ _ _ same _ => other same

theorem pieces?_unit {a b c d : Char} {n : Nat} (value : hex4? a b c d = some n) (s : List Char) :
    pieces? ('\\' :: 'u' :: a :: b :: c :: d :: s) =
      (pieces? s).map fun r => (.unit n :: r.1, r.2) := by
  rw [pieces?, value]
  cases pieces? s <;> rfl

theorem pieces?_plain {c : Char} (quote : c ≠ '"') (backslash : c ≠ '\\')
    (printed : ¬ c.toNat < 0x20) (s : List Char) :
    pieces? (c :: s) = (pieces? s).map fun r => (.char c :: r.1, r.2) := by
  rw [pieces?]
  · simp only [quote, backslash, printed, beq_iff_eq, Bool.or_eq_true, decide_eq_true_eq, or_self,
      if_false]
  · exact fun _ _ _ _ _ same _ => backslash same
  · exact fun _ _ same _ => backslash same

/-- Control characters are written in four hexadecimal digits. -/
theorem hex4?_control :
    ∀ n < 0x20, hex4? '0' '0' (hexChar (n / 16)) (hexChar (n % 16)) = some n := by
  decide

theorem joinPieces?_control {c : Char} (control : c.toNat < 0x20) (ps : List Piece) :
    joinPieces? (.unit c.toNat :: ps) = (joinPieces? ps).map (c :: ·) := by
  have low : isLowSurrogate c.toNat = false := by
    simp only [isLowSurrogate, Bool.and_eq_false_iff, decide_eq_false_iff_not]
    omega
  have high : isHighSurrogate c.toNat = false := by
    simp only [isHighSurrogate, Bool.and_eq_false_iff, decide_eq_false_iff_not]
    omega
  conv => lhs; unfold joinPieces?
  rw [low, high, Char.ofNat_toNat]
  rfl

/-- **Every character is written as one piece,** which stands for the character. -/
theorem exists_piece (c : Char) : ∃ p : Piece,
    (∀ s, pieces? (escapeChar c ++ s) = (pieces? s).map fun r => (p :: r.1, r.2)) ∧
      ∀ ps, joinPieces? (p :: ps) = (joinPieces? ps).map (c :: ·) := by
  have short : ∀ e, escapeChar c = ['\\', e] → shortEscape? e = some c → e ≠ 'u' → ∃ p : Piece,
      (∀ s, pieces? (escapeChar c ++ s) = (pieces? s).map fun r => (p :: r.1, r.2)) ∧
        ∀ ps, joinPieces? (p :: ps) = (joinPieces? ps).map (c :: ·) := by
    intro e written stands other
    refine ⟨.char c, fun s => ?_, fun _ => rfl⟩
    rw [written]
    exact pieces?_short stands other s
  by_cases quote : c = '"'
  · exact short '"' (by rw [quote]; decide) (by rw [quote]; decide) (by decide)
  by_cases backslash : c = '\\'
  · exact short '\\' (by rw [backslash]; decide) (by rw [backslash]; decide) (by decide)
  by_cases lineFeed : c = '\n'
  · exact short 'n' (by rw [lineFeed]; decide) (by rw [lineFeed]; decide) (by decide)
  by_cases carriageReturn : c = '\r'
  · exact short 'r' (by rw [carriageReturn]; decide) (by rw [carriageReturn]; decide) (by decide)
  by_cases tabulator : c = '\t'
  · exact short 't' (by rw [tabulator]; decide) (by rw [tabulator]; decide) (by decide)
  by_cases backspace : c = '\x08'
  · exact short 'b' (by rw [backspace]; decide) (by rw [backspace]; decide) (by decide)
  by_cases formFeed : c = '\x0c'
  · exact short 'f' (by rw [formFeed]; decide) (by rw [formFeed]; decide) (by decide)
  have others : escapeChar c =
      if c.toNat < 0x20 then
        ['\\', 'u', '0', '0', hexChar (c.toNat / 16), hexChar (c.toNat % 16)]
      else [c] := by
    simp only [escapeChar, beq_iff_eq, quote, backslash, lineFeed, carriageReturn, tabulator,
      backspace, formFeed, if_false]
  by_cases control : c.toNat < 0x20
  · refine ⟨.unit c.toNat, fun s => ?_, joinPieces?_control control⟩
    rw [others, if_pos control]
    exact pieces?_unit (hex4?_control c.toNat control) s
  · refine ⟨.char c, fun s => ?_, fun _ => rfl⟩
    rw [others, if_neg control]
    exact pieces?_plain quote backslash control s

/-- The pieces of a written text, up to the closing quote. -/
theorem exists_pieces (s : List Char) : ∃ ps : List Piece,
    (∀ rest, pieces? (s.flatMap escapeChar ++ '"' :: rest) = some (ps, rest)) ∧
      joinPieces? ps = some s := by
  induction s with
  | nil => exact ⟨[], fun rest => by simp [pieces?], rfl⟩
  | cons c s ih =>
    obtain ⟨ps, found, joined⟩ := ih
    obtain ⟨p, read, stands⟩ := exists_piece c
    refine ⟨p :: ps, fun rest => ?_, ?_⟩
    · rw [List.flatMap_cons, List.append_assoc, read, found, Option.map_some]
    · rw [stands, joined, Option.map_some]

/-- **A string is read back up to its closing quote.** -/
theorem readString?_escaped (s : String) (rest : List Char) :
    readString? (s.toList.flatMap escapeChar ++ '"' :: rest) = some (some s, rest) := by
  obtain ⟨ps, found, joined⟩ := exists_pieces s.toList
  rw [readString?, found, Option.map_some, joined, Option.map_some, String.ofList_toList]

/-- A line feed is never written as itself. -/
theorem lineFeed_notMem_escapeChar (c : Char) : '\n' ∉ escapeChar c := by
  have control : ∀ n < 0x20,
      '\n' ∉ ['\\', 'u', '0', '0', hexChar (n / 16), hexChar (n % 16)] := by decide
  unfold escapeChar
  split
  · decide
  split
  · decide
  split
  · decide
  next other =>
    split
    · decide
    split
    · decide
    split
    · decide
    split
    · decide
    split
    next low => exact control c.toNat low
    next =>
      rw [List.mem_singleton]
      exact fun same => other (beq_iff_eq.mpr same.symm)

theorem lineFeed_notMem_quoteChars (s : String) : '\n' ∉ quoteChars s := by
  rw [quoteChars, List.mem_cons, List.mem_append, List.mem_flatMap, not_or, not_or]
  refine ⟨by decide, ?_, by decide⟩
  rintro ⟨c, _, member⟩
  exact lineFeed_notMem_escapeChar c member

/-! ## Digits -/

theorem isDigit_of_mem_toDigits {n : Nat} {c : Char} (member : c ∈ Nat.toDigits 10 n) :
    isDigit c = true := by
  have digit : c.isDigit = true := Nat.isDigit_of_mem_toDigits (by decide) (by decide) member
  obtain ⟨low, high⟩ := Text.toNat_of_isDigit digit
  rw [isDigit, Bool.and_eq_true, decide_eq_true_eq, decide_eq_true_eq]
  exact ⟨UInt32.le_iff_toNat_le.mpr low, UInt32.le_iff_toNat_le.mpr high⟩

theorem isEmpty_toDigits (n : Nat) : (Nat.toDigits 10 n).isEmpty = false :=
  List.isEmpty_eq_false_iff.mpr Nat.toDigits_ne_nil

/-- The first digit of a number. -/
theorem toDigits_eq_cons (n : Nat) : ∃ d ds, Nat.toDigits 10 n = d :: ds ∧ isDigit d = true := by
  obtain ⟨d, ds, shape⟩ := List.exists_cons_of_ne_nil (@Nat.toDigits_ne_nil n 10)
  refine ⟨d, ds, shape, @isDigit_of_mem_toDigits n d ?_⟩
  rw [shape]
  exact List.mem_cons_self

theorem digitsValue_toDigits (n : Nat) : digitsValue 0 (Nat.toDigits 10 n) = n := by
  have same : digitsValue 0 (Nat.toDigits 10 n) = Nat.ofDigitChars 10 (Nat.toDigits 10 n) 0 := by
    simp only [digitsValue, Nat.ofDigitChars, Nat.mul_comm]
  rw [same, Nat.ofDigitChars_ten_toDigits]

/-- A positive number is not written with a zero in front. -/
theorem head?_toDigits_ne (n : Nat) (positive : 0 < n) :
    (Nat.toDigits 10 n).head? ≠ some '0' := by
  induction n using Nat.strongRecOn with
  | _ n ih =>
    rcases Nat.lt_or_ge n 10 with small | large
    · have each : ∀ d < 10, 0 < d → [Nat.digitChar d].head? ≠ some '0' := by decide
      rw [Nat.toDigits_of_lt_base small]
      exact each n small positive
    · have front : (Nat.toDigits 10 (n / 10)).head? ≠ some '0' := ih (n / 10) (by omega) (by omega)
      obtain ⟨d, rest, shape, _⟩ := toDigits_eq_cons (n / 10)
      rw [Nat.toDigits_of_base_le (by decide) large]
      rw [shape] at front ⊢
      exact front

/-! ## Numbers -/

/-- What follows a number: nothing that could belong to it. -/
def EndsNumber (rest : List Char) : Prop :=
  ∀ c ∈ rest.head?, isDigit c = false ∧ c ≠ '.' ∧ c ≠ 'e' ∧ c ≠ 'E'

/-- A number that is written in full: a whole number has no exponent. -/
def Number.plain (n : Number) : Bool := !n.whole || n.scale == 0

theorem readFraction?_of_ends {s : List Char} (ends : ∀ c ∈ s.head?, c ≠ '.') :
    readFraction? s = some (none, s) := by
  cases s with
  | nil => rfl
  | cons c s =>
    rw [readFraction?]
    exact fun _ same => ends c rfl (List.cons.inj same).1

theorem readExponent?_of_ends {s : List Char} (ends : ∀ c ∈ s.head?, c ≠ 'e' ∧ c ≠ 'E') :
    readExponent? s = some (none, s) := by
  cases s with
  | nil => rfl
  | cons c s =>
    obtain ⟨small, capital⟩ := ends c rfl
    unfold readExponent?
    simp only [small, capital, beq_iff_eq, Bool.or_eq_true, or_self, if_false]

/-- An exponent behind a minus. -/
theorem readExponent?_minus (n : Nat) {rest : List Char}
    (other : ∀ c ∈ rest.head?, isDigit c = false) :
    readExponent? ('e' :: '-' :: (Nat.toDigits 10 n ++ rest)) = some (some (-(n : Int)), rest) := by
  obtain ⟨taken, dropped⟩ := Text.cut_run (@isDigit_of_mem_toDigits n) other
  simp only [readExponent?, taken, dropped, isEmpty_toDigits, digitsValue_toDigits,
    beq_self_eq_true, Bool.true_or, if_true, Bool.false_eq_true, if_false]

/-- An exponent without a sign starts with a digit, so no sign is taken off. -/
theorem readExponent?_unsigned (n : Nat) {rest : List Char}
    (other : ∀ c ∈ rest.head?, isDigit c = false) :
    readExponent? ('e' :: (Nat.toDigits 10 n ++ rest)) = some (some (n : Int), rest) := by
  obtain ⟨taken, dropped⟩ := Text.cut_run (@isDigit_of_mem_toDigits n) other
  have unsigned : ∀ c s, isDigit c = false → Nat.toDigits 10 n ++ rest ≠ c :: s := by
    rintro c s no_digit same
    obtain ⟨d, ds, shape, digit⟩ := toDigits_eq_cons n
    rw [shape] at same
    rw [(List.cons.inj same).1, no_digit] at digit
    exact Bool.noConfusion digit
  simp only [readExponent?, beq_self_eq_true, Bool.true_or, if_true]
  split
  next sign => exact absurd sign (unsigned _ _ (by decide))
  next sign => exact absurd sign (unsigned _ _ (by decide))
  next =>
    simp only [taken, dropped, isEmpty_toDigits, digitsValue_toDigits, Bool.false_eq_true, if_false]

/-- The sign of an integer and its digits. -/
theorem toList_toString (i : Int) :
    (toString i).toList = (if i < 0 then ['-'] else []) ++ Nat.toDigits 10 i.natAbs := by
  cases i with
  | ofNat n => exact Nat.toList_repr
  | negSucc n =>
    change ("-" ++ Nat.repr (n + 1)).toList = _
    rw [String.toList_append, Nat.toList_repr, if_pos (Int.negSucc_lt_zero n)]
    rfl

/-- **An exponent is read back.** -/
theorem readExponent?_toString (scale : Int) {rest : List Char} (ends : EndsNumber rest) :
    readExponent? ('e' :: ((toString scale).toList ++ rest)) = some (some scale, rest) := by
  have other : ∀ c ∈ rest.head?, isDigit c = false := fun c first => (ends c first).1
  rw [toList_toString]
  cases scale with
  | ofNat n => exact readExponent?_unsigned n other
  | negSucc n =>
    rw [if_pos (Int.negSucc_lt_zero n)]
    exact readExponent?_minus (n + 1) other

/-- Digits without a fraction are the whole of a number up to its exponent. -/
theorem readNumber?_digits (negative : Bool) (n : Nat) {s rest : List Char} {exponent : Option Int}
    (other : ∀ c ∈ s.head?, isDigit c = false ∧ c ≠ '.')
    (found : readExponent? s = some (exponent, rest)) :
    readNumber? negative (Nat.toDigits 10 n ++ s) =
      some (⟨negative, n, exponent.getD 0, exponent.isNone⟩, rest) := by
  obtain ⟨taken, dropped⟩ := Text.cut_run (@isDigit_of_mem_toDigits n)
    fun c first => (other c first).1
  have no_zero :
      ((Nat.toDigits 10 n).length > 1 && (Nat.toDigits 10 n).head? == some '0') = false := by
    rcases Nat.eq_zero_or_pos n with zero | positive
    · rw [zero]
      rfl
    · rw [Bool.and_eq_false_iff, beq_eq_false_iff_ne]
      exact .inr (head?_toDigits_ne n positive)
  have whole : readFraction? s = some (none, s) :=
    readFraction?_of_ends fun c first => (other c first).2
  simp only [readNumber?, taken, dropped, isEmpty_toDigits, no_zero, whole, found,
    digitsValue_toDigits, Bool.or_self, Bool.false_eq_true, if_false, Option.bind_eq_bind,
    Option.bind_some, Option.getD_none, List.length_nil, Option.isNone_none, Bool.true_and]
  simp [digitsValue]

/-- **A number is read back behind its sign.** -/
theorem readNumber?_chars {n : Number} (plain : n.plain = true) {rest : List Char}
    (ends : EndsNumber rest) :
    readNumber? n.negative (Nat.toDigits 10 n.digits ++
      ((if n.whole then [] else 'e' :: (toString n.scale).toList) ++ rest)) = some (n, rest) := by
  obtain ⟨negative, digits, scale, whole⟩ := n
  cases whole with
  | true =>
    obtain rfl : scale = 0 := beq_iff_eq.mp plain
    exact readNumber?_digits negative digits (fun c first => ⟨(ends c first).1, (ends c first).2.1⟩)
      (readExponent?_of_ends fun c first => (ends c first).2.2)
  | false =>
    refine readNumber?_digits negative digits ?_ (readExponent?_toString scale ends)
    rintro c first
    obtain rfl : 'e' = c := Option.some.inj first
    decide

theorem lineFeed_notMem_toDigits (n : Nat) : '\n' ∉ Nat.toDigits 10 n := by
  intro member
  exact absurd (isDigit_of_mem_toDigits member) (by decide)

theorem lineFeed_notMem_chars (n : Number) : '\n' ∉ n.chars := by
  rw [Number.chars, List.mem_append, List.mem_append, not_or, not_or]
  refine ⟨⟨?_, lineFeed_notMem_toDigits n.digits⟩, ?_⟩
  · split <;> decide
  · split
    · exact List.not_mem_nil
    · rw [toList_toString, List.mem_cons, List.mem_append, not_or, not_or]
      refine ⟨by decide, ?_, lineFeed_notMem_toDigits _⟩
      split <;> decide

end TestPlanner.Json
