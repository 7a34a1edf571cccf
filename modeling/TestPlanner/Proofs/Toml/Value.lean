import TestPlanner.Proofs.Json.Literal
import TestPlanner.Proofs.Toml.Quotation
import TestPlanner.Toml.Parser
import TestPlanner.Toml.Printer

/-!
# Reading back TOML values

A value is **storable** if it is a string, a whole number of 64 bits, a truth value, or an array of
storable values; no setting has a value of another kind. What is written of such a value is read
back, whatever may follow it (`value?_valueChars`).

**Numbers.** A whole number is written in decimal digits without leading zeros, behind a minus if it
is negative. The reader tries dates and times first; these need a dash or a colon behind their first
digits, where here there is only what may follow a value (`dateOrNumber?_toString`).

**Arrays.** An array of one item is written on one line and a longer one with an item per line and a
comma behind each, so the reader of the items passes over the indentation, meets a comma or a
bracket behind every item, and may find the bracket where another item could stand.
-/

set_option autoImplicit false

namespace TestPlanner.Toml

open Quoted

/-! ## Digits -/

theorem isDigit_of_mem_toDigits {n : Nat} {c : Char} (member : c ∈ Nat.toDigits 10 n) :
    isDigit c = true :=
  Json.isDigit_of_mem_toDigits member

/-- The value of a decimal digit. -/
theorem digitValue?_of_isDigit {c : Char} (digit : isDigit c = true) :
    digitValue? c = some (c.toNat - '0'.toNat) := by
  rw [digitValue?, if_pos digit]

theorem isDigitOf_of_isDigit {c : Char} (digit : isDigit c = true) : isDigitOf 10 c = true := by
  have range := digit
  rw [isDigit, Bool.and_eq_true, decide_eq_true_eq, decide_eq_true_eq] at range
  have high : c.toNat ≤ 57 := UInt32.le_iff_toNat_le.mp range.2
  have zero : '0'.toNat = 48 := rfl
  simp only [isDigitOf, digitValue?_of_isDigit digit, decide_eq_true_eq]
  omega

theorem digitsValue_toDigits (n : Nat) : digitsValue 10 (Nat.toDigits 10 n) = n := by
  have same : ∀ (ds : List Char) (k : Nat), (∀ c ∈ ds, isDigit c = true) →
      ds.foldl (fun n d => n * 10 + (digitValue? d).getD 0) k = Json.digitsValue k ds := by
    intro ds
    induction ds with
    | nil => exact fun _ _ => rfl
    | cons d ds ih =>
      intro k digits
      rw [List.forall_mem_cons] at digits
      rw [List.foldl_cons, digitValue?_of_isDigit digits.1, ih _ digits.2]
      rfl
  rw [digitsValue, same _ 0 fun _ => isDigit_of_mem_toDigits, Json.digitsValue_toDigits]

/-- What follows a number: nothing that could belong to one. -/
def EndsDigits (rest : List Char) : Prop :=
  ∀ c ∈ rest.head?, isDigitOf 10 c = false ∧ isDigit c = false ∧ c ≠ '_'

theorem EndsValue.endsDigits {rest : List Char} (ends : EndsValue rest) : EndsDigits rest := by
  intro c first
  rcases ends c first with rfl | rfl | rfl <;> decide

theorem digits?_of_ends {rest : List Char} (ends : EndsDigits rest) : digits? 10 rest = none := by
  match rest with
  | [] => rfl
  | c :: rest =>
    obtain ⟨other, _, underscore⟩ := ends c rfl
    rw [digits?.eq_def]
    split
    all_goals simp_all

theorem digits?_cons {d : Char} (digit : isDigit d = true) {s : List Char}
    (underscore : ∀ r, s ≠ '_' :: r) :
    digits? 10 (d :: s) =
      (digits? 10 s).elim
        (if (s.head?.map (isDigitOf 10)).getD false then none else some ([d], s))
        fun r => some (keep d r) := by
  rw [digits?, if_pos (isDigitOf_of_isDigit digit)]
  · cases digits? 10 s <;> rfl
  · rintro rfl
    exact absurd digit (by decide)
  · exact underscore

/-- **Digits are read up to their end.** -/
theorem digits?_append {d : Char} {ds : List Char} (digits : ∀ c ∈ d :: ds, isDigit c = true)
    {rest : List Char} (ends : EndsDigits rest) :
    digits? 10 (d :: ds ++ rest) = some (d :: ds, rest) := by
  induction ds generalizing d with
  | nil =>
    have digit : isDigit d = true := digits d List.mem_cons_self
    have other : (rest.head?.map (isDigitOf 10)).getD false = false := by
      match rest with
      | [] => rfl
      | c :: rest => exact (ends c rfl).1
    rw [List.singleton_append, digits?_cons digit, digits?_of_ends ends]
    · simp only [other, Bool.false_eq_true, if_false, Option.elim_none]
    · rintro r rfl
      exact (ends '_' rfl).2.2 rfl
  | cons e ds ih =>
    rw [List.forall_mem_cons] at digits
    rw [List.cons_append, digits?_cons digits.1, ih digits.2]
    · rfl
    · rintro r same
      obtain rfl : e = '_' := (List.cons.inj same).1
      exact absurd (digits.2 '_' List.mem_cons_self) (by decide)

/-! ## Whole numbers -/

theorem fractionAndExponent?_of_ends {rest : List Char}
    (ends : ∀ c ∈ rest.head?, c ≠ '.' ∧ c ≠ 'e' ∧ c ≠ 'E') :
    fractionAndExponent? rest = some ([], 0, false, rest) := by
  match rest with
  | [] => rfl
  | c :: rest =>
    obtain ⟨point, small, capital⟩ := ends c rfl
    have whole : ∀ s, c :: rest ≠ '.' :: s := fun s same => point (List.cons.inj same).1
    unfold fractionAndExponent?
    split
    next s same => exact absurd same (whole s)
    next =>
      simp [small, capital]

/-- A whole number in digits is read behind its sign. -/
theorem decimal?_toDigits (negative : Bool) (n : Nat) {rest : List Char} (ends : EndsValue rest) :
    decimal? negative (Nat.toDigits 10 n ++ rest) =
      (integer? (if negative then -(n : Int) else n)).map fun v => (v, rest) := by
  obtain ⟨d, ds, shape, _⟩ := Json.toDigits_eq_cons n
  have read : digits? 10 (Nat.toDigits 10 n ++ rest) = some (Nat.toDigits 10 n, rest) := by
    have digits : ∀ c ∈ Nat.toDigits 10 n, isDigit c = true := fun _ => isDigit_of_mem_toDigits
    rw [shape] at digits ⊢
    exact digits?_append digits ends.endsDigits
  have no_zero :
      ((Nat.toDigits 10 n).length > 1 && (Nat.toDigits 10 n).head? == some '0') = false := by
    rcases Nat.eq_zero_or_pos n with zero | positive
    · rw [zero]
      rfl
    · rw [Bool.and_eq_false_iff, beq_eq_false_iff_ne]
      exact .inr (Json.head?_toDigits_ne n positive)
  have whole : fractionAndExponent? rest = some ([], 0, false, rest) := by
    refine fractionAndExponent?_of_ends fun c first => ?_
    rcases ends c first with rfl | rfl | rfl <;> decide
  simp only [decimal?, read, no_zero, whole, Option.bind_eq_bind, Option.bind_some,
    Bool.false_eq_true, if_false, List.append_nil, digitsValue_toDigits]
  cases integer? (if negative then -(n : Int) else n) <;> rfl

theorem signed?_digit (negative : Bool) {d : Char} (digit : isDigit d = true) (s : List Char) :
    signed? negative (d :: s) = decimal? negative (d :: s) := by
  rw [signed?]
  · rintro r same
    obtain rfl : d = 'i' := (List.cons.inj same).1
    exact absurd digit (by decide)
  · rintro r same
    obtain rfl : d = 'n' := (List.cons.inj same).1
    exact absurd digit (by decide)

/-- What starts with a digit is in base ten if no letter of another base comes second. -/
theorem number?_digit {d : Char} (digit : isDigit d = true) {s : List Char}
    (base : ∀ c ∈ s.head?, c ≠ 'x' ∧ c ≠ 'o' ∧ c ≠ 'b') :
    number? (d :: s) = decimal? false (d :: s) := by
  rw [number?, signed?_digit false digit]
  · rintro r same
    exact (base 'x' (by rw [(List.cons.inj same).2]; rfl)).1 rfl
  · rintro r same
    exact (base 'o' (by rw [(List.cons.inj same).2]; rfl)).2.1 rfl
  · rintro r same
    exact (base 'b' (by rw [(List.cons.inj same).2]; rfl)).2.2 rfl
  · rintro r same
    obtain rfl : d = '+' := (List.cons.inj same).1
    exact absurd digit (by decide)
  · rintro r same
    obtain rfl : d = '-' := (List.cons.inj same).1
    exact absurd digit (by decide)

/-- A date starts with digits and has a dash behind them. -/
theorem dash_of_startsDate {s : List Char} (date : startsDate s = true) :
    ∃ d r, s.head? = some d ∧ isDigit d = true ∧ s.dropWhile isDigit = '-' :: r := by
  unfold startsDate at date
  split at date
  next a b c d r =>
    simp only [List.all_cons, List.all_nil, Bool.and_true, Bool.and_eq_true] at date
    obtain ⟨first, second, third, fourth⟩ := date
    refine ⟨a, r, rfl, first, ?_⟩
    rw [List.dropWhile_cons_of_pos first, List.dropWhile_cons_of_pos second,
      List.dropWhile_cons_of_pos third, List.dropWhile_cons_of_pos fourth,
      List.dropWhile_cons_of_neg (by decide)]
  next => exact absurd date Bool.false_ne_true

theorem twoDigits?_eq_some {least greatest n : Nat} {s rest : List Char}
    (read : twoDigits? least greatest s = some (n, rest)) :
    ∃ a b, s = a :: b :: rest ∧ isDigit a = true ∧ isDigit b = true := by
  unfold twoDigits? at read
  split at read
  next a b s =>
    split at read
    next digits =>
      dsimp only at read
      split at read
      next =>
        obtain ⟨_, rfl⟩ := Prod.mk.inj (Option.some.inj read)
        exact ⟨a, b, rfl, Bool.and_eq_true_iff.mp digits⟩
      next => exact nomatch read
    next => exact nomatch read
  next => exact nomatch read

/-- A time of day starts with digits and has a colon behind them. -/
theorem colon_of_startsTime {s : List Char} (time : startsTime s = true) :
    ∃ d r, s.head? = some d ∧ isDigit d = true ∧ s.dropWhile isDigit = ':' :: r := by
  unfold startsTime at time
  split at time
  next r read =>
    obtain ⟨a, b, rfl, first, second⟩ := twoDigits?_eq_some read
    refine ⟨a, r, rfl, first, ?_⟩
    rw [List.dropWhile_cons_of_pos first, List.dropWhile_cons_of_pos second,
      List.dropWhile_cons_of_neg (by decide)]
  next => exact absurd time Bool.false_ne_true

/-- What starts with no digit, or has neither a dash nor a colon behind its first digits, is read as
a number. -/
theorem dateOrNumber?_eq_number? {s : List Char}
    (behind : ∀ d ∈ s.head?, isDigit d = true →
      ∀ c ∈ (s.dropWhile isDigit).head?, c ≠ '-' ∧ c ≠ ':') :
    dateOrNumber? s = number? s := by
  have date : startsDate s = false := by
    refine Bool.eq_false_iff.mpr fun date => ?_
    obtain ⟨d, r, first, digit, dash⟩ := dash_of_startsDate date
    exact (behind d first digit '-' (by rw [dash]; rfl)).1 rfl
  have time : startsTime s = false := by
    refine Bool.eq_false_iff.mpr fun time => ?_
    obtain ⟨d, r, first, digit, colon⟩ := colon_of_startsTime time
    exact (behind d first digit ':' (by rw [colon]; rfl)).2 rfl
  unfold dateOrNumber?
  simp only [date, time, Bool.false_eq_true, if_false]

/-- **A whole number is read back** if it is one of 64 bits. -/
theorem dateOrNumber?_toString (n : Int) {rest : List Char} (ends : EndsValue rest) :
    dateOrNumber? ((toString n).toList ++ rest) = (integer? n).map fun v => (v, rest) := by
  obtain ⟨d, ds, shape, digit⟩ := Json.toDigits_eq_cons n.natAbs
  have digits : ∀ c ∈ d :: ds, isDigit c = true := by
    rw [← shape]
    exact fun _ => isDigit_of_mem_toDigits
  rw [Json.toList_toString]
  by_cases negative : n < 0
  · rw [if_pos negative, List.append_assoc, List.singleton_append, dateOrNumber?_eq_number?]
    · have value : -(n.natAbs : Int) = n := by omega
      rw [number?, shape, List.cons_append, signed?_digit true digit, ← List.cons_append, ← shape,
        decimal?_toDigits true _ ends, if_pos rfl, value]
    · intro c first minus
      obtain rfl : '-' = c := Option.some.inj first
      exact absurd minus (by decide)
  · rw [if_neg negative, List.nil_append, dateOrNumber?_eq_number?]
    · have value : (n.natAbs : Int) = n := by omega
      have base : ∀ c ∈ (ds ++ rest).head?, c ≠ 'x' ∧ c ≠ 'o' ∧ c ≠ 'b' := by
        cases ds with
        | nil =>
          intro c first
          rcases ends c first with rfl | rfl | rfl <;> decide
        | cons e ds =>
          intro c first
          obtain rfl : e = c := Option.some.inj first
          have digit : isDigit e = true := digits e (by simp)
          refine ⟨?_, ?_, ?_⟩ <;> rintro rfl <;> exact absurd digit (by decide)
      rw [shape, List.cons_append, number?_digit digit base, ← List.cons_append, ← shape,
        decimal?_toDigits false _ ends, if_neg Bool.false_ne_true, value]
    · intro _ _ _ c first
      have dropped : (Nat.toDigits 10 n.natAbs ++ rest).dropWhile isDigit = rest := by
        rw [shape]
        exact (Text.cut_run digits fun c first => (ends.endsDigits c first).2.1).2
      rw [dropped] at first
      rcases ends c first with rfl | rfl | rfl <;> decide

/-! ## Gaps -/

/-- A character that can start a value, and neither belongs to a gap nor closes an array. -/
def StartsValue (c : Char) : Prop :=
  isSpace c = false ∧ c ≠ '\n' ∧ c ≠ '\r' ∧ c ≠ '#' ∧ c ≠ ']'

theorem startsValue_of_isDigit {c : Char} (digit : isDigit c = true) : StartsValue c := by
  refine ⟨?_, ?_, ?_, ?_, ?_⟩
  · refine Bool.eq_false_iff.mpr fun space => ?_
    simp only [isSpace, Bool.or_eq_true, beq_iff_eq] at space
    rcases space with rfl | rfl <;> exact absurd digit (by decide)
  all_goals
    rintro rfl
    exact absurd digit (by decide)

theorem skipGap?_of_starts {c : Char} (starts : StartsValue c) (s : List Char) :
    skipGap? false (c :: s) = some (c :: s) := by
  obtain ⟨space, lineFeed, carriageReturn, comment, _⟩ := starts
  rw [skipGap?]
  · simp only [beq_iff_eq, lineFeed, comment, space, Bool.false_eq_true, if_false]
  · exact fun _ same _ => carriageReturn same

/-! ## One step of the reader -/

section Steps

variable {fuel room : Nat} {s t rest : List Char} {v : Toml}

theorem value?_quote {c : Char} (quote : c = '"' ∨ c = '\'') :
    value? (fuel + 1) room (c :: s) =
      (string? (c :: s)).map fun r => (.string (String.ofList r.1), r.2) := by
  cases room <;> rw [value?, if_pos (by simpa using quote)]

/-- What starts with a digit or a minus is none of the other values. -/
theorem value?_number {c : Char} (front : c = '-' ∨ isDigit c = true) :
    value? (fuel + 1) room (c :: s) = dateOrNumber? (c :: s) := by
  have other : ∀ d, isDigit d = false → d ≠ '-' → (c == d) = false := by
    rintro d no_digit no_minus
    rw [beq_eq_false_iff_ne]
    rintro rfl
    rcases front with minus | digit
    · exact no_minus minus
    · exact absurd digit (by rw [no_digit]; exact Bool.false_ne_true)
  rw [value?.eq_def]
  simp only [other '"' rfl (by decide), other '\'' rfl (by decide), other '[' rfl (by decide),
    other '\x7b' rfl (by decide), other 't' rfl (by decide), other 'f' rfl (by decide),
    Bool.or_self, Bool.false_eq_true, if_false]

theorem value?_array :
    value? (fuel + 1) (room + 1) ('[' :: s) =
      (items? fuel room s).map fun r => (.array r.1, r.2) := by
  rw [value?, if_neg (by decide), if_pos (by decide)]

theorem items?_close (gap : skipGap? false s = some (']' :: rest)) :
    items? (fuel + 1) room s = some ([], rest) := by
  rw [items?, gap]
  rfl

theorem items?_last {c : Char} {u : List Char} (starts : StartsValue c)
    (gap : skipGap? false s = some (c :: t)) (first : value? fuel room (c :: t) = some (v, u))
    (close : skipGap? false u = some (']' :: rest)) :
    items? (fuel + 1) room s = some ([v], rest) := by
  have other : ∀ r, c :: t ≠ ']' :: r := fun r same => starts.2.2.2.2 (List.cons.inj same).1
  rw [items?, gap, Option.bind_eq_bind, Option.bind_some]
  split
  next same => exact absurd same (other _)
  next =>
    simp only [first, Option.bind_eq_bind, Option.bind_some, close]
    rfl

theorem items?_more {c : Char} {u body : List Char} (starts : StartsValue c)
    (gap : skipGap? false s = some (c :: t)) (first : value? fuel room (c :: t) = some (v, u))
    (comma : skipGap? false u = some (',' :: body)) :
    items? (fuel + 1) room s = (items? fuel room body).map fun r => (v :: r.1, r.2) := by
  have other : ∀ r, c :: t ≠ ']' :: r := fun r same => starts.2.2.2.2 (List.cons.inj same).1
  rw [items?, gap, Option.bind_eq_bind, Option.bind_some]
  split
  next same => exact absurd same (other _)
  next =>
    simp only [first, Option.bind_eq_bind, Option.bind_some, comma]
    cases items? fuel room body <;> rfl

end Steps

/-! ## Storable values -/

/-- The values that can be stored, with room for so many arrays within each other. -/
inductive Storable : (room : Nat) → Toml → Prop
  | string {room : Nat} (s : String) : Storable room (.string s)
  | integer {room : Nat} {n : Int} (least : -9223372036854775808 ≤ n)
      (greatest : n ≤ 9223372036854775807) : Storable room (.integer n)
  | boolean {room : Nat} (b : Bool) : Storable room (.boolean b)
  | array {room : Nat} {items : List Toml} (all : ∀ v ∈ items, Storable room v) :
      Storable (room + 1) (.array items)

theorem valueChars_string (s : String) : valueChars (.string s) = encode s.toList :=
  rfl

theorem valueChars_integer (n : Int) : valueChars (.integer n) = (toString n).toList :=
  rfl

theorem valueChars_empty : valueChars (.array []) = ['[', ']'] :=
  rfl

theorem valueChars_singleton (v : Toml) :
    valueChars (.array [v]) = '[' :: (valueChars v ++ [']']) :=
  rfl

/-- Several items stand on lines of their own. -/
theorem valueChars_lines (v w : Toml) (items : List Toml) :
    valueChars (.array (v :: w :: items)) =
      '[' :: (itemChars (v :: w :: items) ++ ['\n', ']']) :=
  rfl

/-- An item stands on a line of its own, indented and with a comma behind it. -/
theorem itemChars_cons (v : Toml) (items : List Toml) :
    itemChars (v :: items) =
      '\n' :: ' ' :: ' ' :: ' ' :: ' ' :: (valueChars v ++ ',' :: itemChars items) :=
  rfl

theorem encode_eq_cons (s : List Char) : ∃ c t, encode s = c :: t ∧ (c = '"' ∨ c = '\'') := by
  simp only [encode]
  split
  · exact ⟨'"', _, rfl, .inl rfl⟩
  split
  · exact ⟨'\'', _, rfl, .inr rfl⟩
  split
  · exact ⟨'"', _, rfl, .inl rfl⟩
  split
  · exact ⟨'\'', _, rfl, .inr rfl⟩
  split
  · exact ⟨'"', _, rfl, .inl rfl⟩
  · exact ⟨'"', _, rfl, .inl rfl⟩

theorem toString_eq_cons (n : Int) :
    ∃ c s, (toString n).toList = c :: s ∧ (c = '-' ∨ isDigit c = true) := by
  rw [Json.toList_toString]
  split
  · exact ⟨'-', _, rfl, .inl rfl⟩
  · obtain ⟨d, ds, shape, digit⟩ := Json.toDigits_eq_cons n.natAbs
    exact ⟨d, ds, shape, .inr digit⟩

/-- An array starts with its bracket in every layout. -/
theorem valueChars_array (items : List Toml) : ∃ s, valueChars (.array items) = '[' :: s := by
  match items with
  | [] => exact ⟨_, valueChars_empty⟩
  | [v] => exact ⟨_, valueChars_singleton v⟩
  | v :: w :: items => exact ⟨_, valueChars_lines v w items⟩

/-- The first character of a written value. -/
theorem valueChars_eq_cons {room : Nat} {v : Toml} (storable : Storable room v) :
    ∃ c s, valueChars v = c :: s ∧ StartsValue c := by
  cases storable with
  | string s =>
    obtain ⟨c, t, shape, quote⟩ := encode_eq_cons s.toList
    refine ⟨c, t, by rw [valueChars_string, shape], ?_⟩
    rcases quote with rfl | rfl <;> unfold StartsValue <;> decide
  | @integer _ n =>
    obtain ⟨c, s, shape, minus | digit⟩ := toString_eq_cons n
    · refine ⟨c, s, by rw [valueChars_integer, shape], ?_⟩
      rw [minus]
      unfold StartsValue
      decide
    · exact ⟨c, s, by rw [valueChars_integer, shape], startsValue_of_isDigit digit⟩
  | boolean b =>
    cases b with
    | false => exact ⟨'f', _, rfl, by unfold StartsValue; decide⟩
    | true => exact ⟨'t', _, rfl, by unfold StartsValue; decide⟩
  | @array _ items =>
    obtain ⟨s, shape⟩ := valueChars_array items
    exact ⟨'[', s, shape, by unfold StartsValue; decide⟩

/-- A value is read back: with enough fuel it is found at the front of its written form and
whatever may follow it. -/
def ReadsBack (room : Nat) (v : Toml) : Prop :=
  ∀ (fuel : Nat) (rest : List Char), 2 * (valueChars v).length ≤ fuel → EndsValue rest →
    value? fuel room (valueChars v ++ rest) = some (v, rest)

theorem readsBack_string (room : Nat) (s : String) : ReadsBack room (.string s) := by
  intro fuel rest enough ends
  obtain ⟨c, t, shape, quote⟩ := encode_eq_cons s.toList
  have read : string? (c :: t ++ rest) = some (s.toList, rest) := shape ▸ string?_encode _ ends
  rw [valueChars_string, shape, List.length_cons] at enough
  obtain ⟨fuel, rfl⟩ := Nat.exists_eq_add_one_of_ne_zero (show fuel ≠ 0 by omega)
  rw [valueChars_string, shape, List.cons_append, value?_quote quote, ← List.cons_append, read,
    Option.map_some, String.ofList_toList]

theorem readsBack_integer (room : Nat) {n : Int} (least : -9223372036854775808 ≤ n)
    (greatest : n ≤ 9223372036854775807) : ReadsBack room (.integer n) := by
  intro fuel rest enough ends
  obtain ⟨c, s, shape, front⟩ := toString_eq_cons n
  have read : dateOrNumber? (c :: s ++ rest) = some (.integer n, rest) := by
    rw [← shape, dateOrNumber?_toString n ends, integer?, if_pos (by simp [least, greatest])]
    rfl
  rw [valueChars_integer, shape, List.length_cons] at enough
  obtain ⟨fuel, rfl⟩ := Nat.exists_eq_add_one_of_ne_zero (show fuel ≠ 0 by omega)
  rw [valueChars_integer, shape, List.cons_append, value?_number front, ← List.cons_append, read]

theorem readsBack_boolean (room : Nat) (b : Bool) : ReadsBack room (.boolean b) := by
  intro fuel rest enough _
  obtain ⟨fuel, rfl⟩ := Nat.exists_eq_add_one_of_ne_zero (show fuel ≠ 0 by
    rintro rfl
    cases b <;> exact absurd enough (by decide))
  cases b <;> cases room <;> rfl

theorem endsValue_cons {c : Char} (ends : c = '\n' ∨ c = ',' ∨ c = ']') (s : List Char) :
    EndsValue (c :: s) := by
  intro d first
  obtain rfl : c = d := Option.some.inj first
  exact ends

/-- The items of an array are read back from their lines up to the closing bracket. -/
theorem items?_itemChars {room : Nat} {items : List Toml}
    (storable : ∀ v ∈ items, Storable room v) (back : ∀ v ∈ items, ReadsBack room v) {fuel : Nat}
    (enough : 2 * (itemChars items).length < fuel) (rest : List Char) :
    items? fuel room (itemChars items ++ '\n' :: ']' :: rest) = some (items, rest) := by
  induction items generalizing fuel with
  | nil =>
    obtain ⟨fuel, rfl⟩ := Nat.exists_eq_add_one_of_ne_zero (show fuel ≠ 0 by omega)
    exact items?_close rfl
  | cons v items ih =>
    rw [List.forall_mem_cons] at storable back
    rw [itemChars_cons] at enough ⊢
    simp only [List.length_cons, List.length_append] at enough
    obtain ⟨fuel, rfl⟩ := Nat.exists_eq_add_one_of_ne_zero (show fuel ≠ 0 by omega)
    have others := @ih storable.2 back.2 fuel (by omega)
    simp only [List.cons_append, List.append_assoc]
    generalize itemChars items ++ '\n' :: ']' :: rest = tail at others ⊢
    have first : value? fuel room (valueChars v ++ ',' :: tail) = some (v, ',' :: tail) :=
      back.1 _ _ (by omega) (endsValue_cons (by decide) _)
    obtain ⟨c, s, shape, starts⟩ := valueChars_eq_cons storable.1
    rw [shape, List.cons_append] at first ⊢
    -- the indentation belongs to the gap in front of the item
    have gap : skipGap? false ('\n' :: ' ' :: ' ' :: ' ' :: ' ' :: c :: (s ++ ',' :: tail)) =
        some (c :: (s ++ ',' :: tail)) := skipGap?_of_starts starts _
    rw [items?_more starts gap first rfl, others]
    rfl

theorem readsBack_empty (room : Nat) : ReadsBack (room + 1) (.array []) := by
  intro fuel rest enough _
  rw [valueChars_empty] at enough ⊢
  have two : 2 ≤ fuel := Nat.le_trans (by decide) enough
  obtain ⟨fuel, rfl⟩ := Nat.exists_eq_add_of_le' two
  rw [List.cons_append, value?_array, List.singleton_append, items?_close rfl]
  rfl

theorem readsBack_singleton {room : Nat} {v : Toml} (storable : Storable room v)
    (back : ReadsBack room v) : ReadsBack (room + 1) (.array [v]) := by
  intro fuel rest enough _
  obtain ⟨c, s, shape, starts⟩ := valueChars_eq_cons storable
  rw [valueChars_singleton, List.length_cons, List.length_append] at enough
  obtain ⟨fuel, rfl⟩ := Nat.exists_eq_add_of_le' (show 2 ≤ fuel by omega)
  have first : value? fuel room (valueChars v ++ ']' :: rest) = some (v, ']' :: rest) :=
    back _ _ (by omega) (endsValue_cons (by decide) _)
  rw [shape, List.cons_append] at first
  rw [valueChars_singleton, List.cons_append, value?_array, List.append_assoc,
    List.singleton_append, shape, List.cons_append,
    items?_last starts (skipGap?_of_starts starts _) first rfl]
  rfl

theorem readsBack_lines {room : Nat} {v w : Toml} {items : List Toml}
    (storable : ∀ x ∈ v :: w :: items, Storable room x)
    (back : ∀ x ∈ v :: w :: items, ReadsBack room x) :
    ReadsBack (room + 1) (.array (v :: w :: items)) := by
  intro fuel rest enough _
  rw [valueChars_lines, List.length_cons, List.length_append] at enough
  obtain ⟨fuel, rfl⟩ := Nat.exists_eq_add_one_of_ne_zero (show fuel ≠ 0 by omega)
  rw [valueChars_lines, List.cons_append, value?_array, List.append_assoc, List.cons_append,
    List.singleton_append, items?_itemChars storable back (by omega)]
  rfl

/-- **A storable value is read back.** -/
theorem value?_valueChars {room : Nat} {v : Toml} (storable : Storable room v) :
    ReadsBack room v := by
  induction storable with
  | string s => exact readsBack_string _ s
  | integer least greatest => exact readsBack_integer _ least greatest
  | boolean b => exact readsBack_boolean _ b
  | @array room items all back =>
    match items with
    | [] => exact readsBack_empty room
    | [v] => exact readsBack_singleton (all v (by simp)) (back v (by simp))
    | v :: w :: items => exact readsBack_lines all back

end TestPlanner.Toml
