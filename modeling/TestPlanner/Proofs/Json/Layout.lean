import Mathlib.Data.List.DropRight
import TestPlanner.Proofs.Json.Literal

/-!
# Reading back what is written

A text **spells** a value if the reader finds the value at its front and stops where the text ends,
whatever stands behind it that could not belong to a number. Values are spelt from spelt parts, with
any blanks between the tokens: the lemmas of the sections below say so for scalars, arrays and
objects, and both layouts are made of them. So a value that can be written at all is read back from
either layout (`parse?_compact`, `parse?_pretty`).
-/

set_option autoImplicit false

namespace TestPlanner.Json

/-! ## Blanks -/

theorem skipSpace_append {blanks : List Char} (blank : ∀ c ∈ blanks, isSpace c = true)
    (s : List Char) : skipSpace (blanks ++ s) = skipSpace s :=
  List.dropWhile_append_of_pos blank

theorem skipSpace_cons {c : Char} (other : isSpace c = false) (s : List Char) :
    skipSpace (c :: s) = c :: s :=
  List.dropWhile_cons_of_neg (by rw [other]; exact Bool.false_ne_true)

theorem skipSpace_skipSpace (s : List Char) : skipSpace (skipSpace s) = skipSpace s :=
  List.dropWhile_idempotent isSpace s

theorem endsNumber_cons {c : Char} (other : isDigit c = false ∧ c ≠ '.' ∧ c ≠ 'e' ∧ c ≠ 'E')
    (s : List Char) : EndsNumber (c :: s) := by
  rintro d first
  obtain rfl : c = d := Option.some.inj first
  exact other

/-- A number ends where blanks start, or a token that belongs to no number. -/
theorem endsNumber_append {blanks : List Char} (blank : ∀ c ∈ blanks, isSpace c = true)
    {s : List Char} (ends : EndsNumber s) : EndsNumber (blanks ++ s) := by
  cases blanks with
  | nil => exact ends
  | cons b blanks =>
    have space : isSpace b = true := blank b List.mem_cons_self
    simp only [isSpace, Bool.or_eq_true, beq_iff_eq] at space
    refine endsNumber_cons ?_ (blanks ++ s)
    rcases space with ((rfl | rfl) | rfl) | rfl <;> decide

theorem readValue?_skipSpace (fuel : Nat) (s : List Char) :
    readValue? fuel (skipSpace s) = readValue? fuel s := by
  cases fuel with
  | zero => rfl
  | succ fuel => rw [readValue?, readValue?, skipSpace_skipSpace]

theorem readItems?_skipSpace (fuel : Nat) (s : List Char) :
    readItems? fuel (skipSpace s) = readItems? fuel s := by
  cases fuel with
  | zero => rfl
  | succ fuel => rw [readItems?, readItems?, readValue?_skipSpace]

theorem readMembers?_skipSpace (fuel : Nat) (s : List Char) :
    readMembers? fuel (skipSpace s) = readMembers? fuel s := by
  cases fuel with
  | zero => rfl
  | succ fuel => rw [readMembers?, readMembers?, skipSpace_skipSpace]

/-! ## One step of the reader -/

section Steps

variable {fuel : Nat} {s t rest : List Char} {v : Json}

theorem readItems?_last (first : readValue? fuel s = some (v, t))
    (close : skipSpace t = ']' :: rest) : readItems? (fuel + 1) s = some ([v], rest) := by
  simp only [readItems?, first, Option.bind_eq_bind, Option.bind_some, close]
  rfl

theorem readItems?_more {body : List Char} (first : readValue? fuel s = some (v, t))
    (comma : skipSpace t = ',' :: body) :
    readItems? (fuel + 1) s = (readItems? fuel body).map fun r => (v :: r.1, r.2) := by
  simp only [readItems?, first, Option.bind_eq_bind, Option.bind_some, comma]
  cases readItems? fuel body <;> rfl

variable {key colon value : List Char} {k : Option String}

theorem readMembers?_last (quote : skipSpace s = '"' :: key)
    (named : readString? key = some (k, colon)) (between : skipSpace colon = ':' :: value)
    (first : readValue? fuel value = some (v, t)) (close : skipSpace t = '\x7d' :: rest) :
    readMembers? (fuel + 1) s = some ([(k, v)], rest) := by
  simp only [readMembers?, quote, named, between, first, Option.bind_eq_bind, Option.bind_some,
    close]
  rfl

theorem readMembers?_more {body : List Char} (quote : skipSpace s = '"' :: key)
    (named : readString? key = some (k, colon)) (between : skipSpace colon = ':' :: value)
    (first : readValue? fuel value = some (v, t)) (comma : skipSpace t = ',' :: body) :
    readMembers? (fuel + 1) s = (readMembers? fuel body).map fun r => ((k, v) :: r.1, r.2) := by
  simp only [readMembers?, quote, named, between, first, Option.bind_eq_bind, Option.bind_some,
    comma]
  cases readMembers? fuel body <;> rfl

/-- What starts with a digit is a number without a sign. -/
theorem readValue?_digit {d : Char} (digit : isDigit d = true) :
    readValue? (fuel + 1) (d :: s) =
      (readNumber? false (d :: s)).map fun r => (.number r.1, r.2) := by
  have other : ∀ c, isDigit c = false → (d == c) = false := by
    rintro c no_digit
    rw [beq_eq_false_iff_ne]
    rintro rfl
    exact absurd digit (by rw [no_digit]; exact Bool.false_ne_true)
  have visible : isSpace d = false := by
    simp only [isSpace, other _ (by decide : isDigit ' ' = false),
      other _ (by decide : isDigit '\n' = false), other _ (by decide : isDigit '\t' = false),
      other _ (by decide : isDigit '\r' = false), Bool.or_self]
  simp only [readValue?, skipSpace_cons visible, other _ (by decide : isDigit '"' = false),
    other _ (by decide : isDigit '[' = false), other _ (by decide : isDigit '\x7b' = false),
    other _ (by decide : isDigit '-' = false), digit, Bool.false_eq_true, if_false, if_true]

/-- No value starts with a closing bracket. -/
theorem readValue?_close (close : skipSpace s = ']' :: t) : readValue? fuel s = none := by
  cases fuel with
  | zero => rfl
  | succ fuel =>
    rw [readValue?, close]
    rfl

/-- An array with an item. -/
theorem readValue?_array (opens : ∀ t, skipSpace s ≠ ']' :: t) :
    readValue? (fuel + 1) ('[' :: s) = (readItems? fuel s).map fun r => (.array r.1, r.2) := by
  have bracket : skipSpace ('[' :: s) = '[' :: s := skipSpace_cons (by decide) s
  rw [← readItems?_skipSpace fuel s]
  -- an array without items is the case that `opens` excludes
  simp only [readValue?, bracket, show ('[' == '"') = false by decide, beq_self_eq_true,
    Bool.false_eq_true, if_false, if_true]

/-- An object with a member. -/
theorem readValue?_object (opens : ∀ t, skipSpace s ≠ '\x7d' :: t) :
    readValue? (fuel + 1) ('\x7b' :: s) =
      (readMembers? fuel s).map fun r => (objectOf r.1, r.2) := by
  have brace : skipSpace ('\x7b' :: s) = '\x7b' :: s := skipSpace_cons (by decide) s
  rw [← readMembers?_skipSpace fuel s]
  -- and so is an object without members
  simp only [readValue?, brace, show ('\x7b' == '"') = false by decide,
    show ('\x7b' == '[') = false by decide, beq_self_eq_true, Bool.false_eq_true, if_false, if_true]

end Steps

/-! ## Spelling -/

/-- A text at whose front the reader finds a value. -/
def Spells (s : List Char) (v : Json) : Prop :=
  ∀ fuel rest, 2 * s.length ≤ fuel → EndsNumber rest → readValue? fuel (s ++ rest) = some (v, rest)

/-- A text at whose front the reader finds the items of an array, with the closing bracket. -/
def SpellsItems (s : List Char) (vs : List Json) : Prop :=
  ∀ fuel rest, 2 * s.length < fuel → readItems? fuel (s ++ rest) = some (vs, rest)

/-- A text at whose front the reader finds the members of an object, with the closing brace. -/
def SpellsMembers (s : List Char) (ms : List (String × Json)) : Prop :=
  ∀ fuel rest, 2 * s.length < fuel →
    readMembers? fuel (s ++ rest) = some (ms.map fun m => (some m.1, m.2), rest)

theorem Spells.blanks {s : List Char} {v : Json} (spells : Spells s v) {blanks : List Char}
    (blank : ∀ c ∈ blanks, isSpace c = true) : Spells (blanks ++ s) v := by
  intro fuel rest enough ends
  rw [List.length_append] at enough
  rw [List.append_assoc, ← readValue?_skipSpace, skipSpace_append blank, readValue?_skipSpace]
  exact spells fuel rest (by omega) ends

/-- A value behind a space. -/
theorem Spells.spaced {s : List Char} {v : Json} (spells : Spells s v) : Spells (' ' :: s) v :=
  spells.blanks (List.forall_mem_singleton.mpr (by decide : isSpace ' ' = true))

theorem SpellsItems.blanks {s : List Char} {vs : List Json} (spells : SpellsItems s vs)
    {blanks : List Char} (blank : ∀ c ∈ blanks, isSpace c = true) :
    SpellsItems (blanks ++ s) vs := by
  intro fuel rest enough
  rw [List.length_append] at enough
  rw [List.append_assoc, ← readItems?_skipSpace, skipSpace_append blank, readItems?_skipSpace]
  exact spells fuel rest (by omega)

theorem SpellsMembers.blanks {s : List Char} {ms : List (String × Json)}
    (spells : SpellsMembers s ms) {blanks : List Char} (blank : ∀ c ∈ blanks, isSpace c = true) :
    SpellsMembers (blanks ++ s) ms := by
  intro fuel rest enough
  rw [List.length_append] at enough
  rw [List.append_assoc, ← readMembers?_skipSpace, skipSpace_append blank, readMembers?_skipSpace]
  exact spells fuel rest (by omega)

/-! ## Scalars -/

/-- A text that is read with any fuel at all. -/
theorem spells_of_readValue? {s : List Char} {v : Json} (nonempty : s ≠ [])
    (read : ∀ fuel rest, EndsNumber rest → readValue? (fuel + 1) (s ++ rest) = some (v, rest)) :
    Spells s v := by
  intro fuel rest enough ends
  have positive : 0 < s.length := List.length_pos_iff.mpr nonempty
  cases fuel with
  | zero => omega
  | succ fuel => exact read fuel rest ends

theorem spells_null : Spells "null".toList .null :=
  spells_of_readValue? (by decide) fun _ _ _ => rfl

theorem spells_bool (b : Bool) : Spells (if b then "true" else "false").toList (.bool b) := by
  cases b <;> exact spells_of_readValue? (by decide) fun _ _ _ => rfl

theorem spells_string (s : String) : Spells (quoteChars s) (.string s) := by
  refine spells_of_readValue? (List.cons_ne_nil _ _) fun fuel rest _ => ?_
  rw [quoteChars, List.cons_append, List.append_assoc, readValue?, skipSpace_cons (by decide)]
  change (readString? (s.toList.flatMap escapeChar ++ '"' :: rest)).map _ = _
  rw [readString?_escaped]
  rfl

theorem spells_number {n : Number} (plain : n.plain = true) : Spells n.chars (.number n) := by
  obtain ⟨d, ds, shape, digit⟩ := toDigits_eq_cons n.digits
  refine spells_of_readValue? (by simp [Number.chars, shape]) fun fuel rest ends => ?_
  have read := readNumber?_chars plain ends
  rw [shape] at read
  rw [Number.chars, shape, List.append_assoc, List.append_assoc]
  cases sign : n.negative with
  | true =>
    rw [sign] at read
    change (readNumber? true ((d :: ds) ++ _)).map _ = _
    rw [read]
    rfl
  | false =>
    rw [sign] at read
    refine (readValue?_digit digit).trans ?_
    change (readNumber? false ((d :: ds) ++ _)).map _ = _
    rw [read]
    rfl

/-! ## Arrays -/

/-- The last item of an array. -/
theorem Spells.lastItem {s : List Char} {v : Json} (spells : Spells s v) {blanks : List Char}
    (blank : ∀ c ∈ blanks, isSpace c = true) : SpellsItems (s ++ (blanks ++ [']'])) [v] := by
  intro fuel rest enough
  cases fuel with
  | zero => exact absurd enough (Nat.not_lt_zero _)
  | succ fuel =>
    simp only [List.length_append, List.length_cons] at enough
    rw [List.append_assoc, List.append_assoc]
    have ends : EndsNumber (blanks ++ ([']'] ++ rest)) :=
      endsNumber_append blank (endsNumber_cons (by decide) rest)
    refine readItems?_last (spells fuel _ (by omega) ends) ?_
    rw [skipSpace_append blank]
    rfl

/-- An item of an array before others. -/
theorem Spells.consItem {s body : List Char} {v : Json} {vs : List Json} (spells : Spells s v)
    (others : SpellsItems body vs) : SpellsItems (s ++ ',' :: body) (v :: vs) := by
  intro fuel rest enough
  cases fuel with
  | zero => exact absurd enough (Nat.not_lt_zero _)
  | succ fuel =>
    simp only [List.length_append, List.length_cons] at enough
    have first : readValue? fuel (s ++ (',' :: (body ++ rest))) = some (v, ',' :: (body ++ rest)) :=
      spells fuel _ (by omega) (endsNumber_cons (by decide) _)
    rw [List.append_assoc, List.cons_append, readItems?_more first rfl, others fuel rest (by omega)]
    rfl

/-- A text of items does not look like the end of an empty array. -/
theorem SpellsItems.not_close {s : List Char} {vs : List Json} (spells : SpellsItems s vs)
    (rest t : List Char) : skipSpace (s ++ rest) ≠ ']' :: t := by
  intro close
  have read := spells (2 * s.length + 1) rest (Nat.lt_succ_self _)
  simp [readItems?, readValue?_close close] at read

theorem SpellsItems.array {s : List Char} {vs : List Json} (spells : SpellsItems s vs) :
    Spells ('[' :: s) (.array vs) := by
  intro fuel rest enough ends
  cases fuel with
  | zero => exact absurd enough (Nat.not_succ_le_zero _)
  | succ fuel =>
    rw [List.length_cons] at enough
    rw [List.cons_append, readValue?_array (spells.not_close rest), spells fuel rest (by omega)]
    rfl

theorem spells_noItems : Spells "[]".toList (.array []) :=
  spells_of_readValue? (by decide) fun _ _ _ => rfl

/-! ## Objects -/

theorem objectOf_map (ms : List (String × Json)) :
    objectOf (ms.map fun m => (some m.1, m.2)) = .object ms := by
  have each : ((ms.map fun m => (some m.1, m.2)).mapM fun m : Option String × Json =>
      m.1.map fun k => (k, m.2)) = some ms := by
    induction ms with
    | nil => rfl
    | cons m ms ih =>
      rw [List.map_cons, List.mapM_cons, ih]
      rfl
  rw [objectOf, each]

/-- The quoted key of a member. -/
theorem readString?_key (k : String) (s : List Char) :
    ∃ t, skipSpace (quoteChars k ++ s) = '"' :: t ∧ readString? t = some (some k, s) := by
  refine ⟨k.toList.flatMap escapeChar ++ '"' :: s, ?_, readString?_escaped k s⟩
  rw [quoteChars, List.cons_append, skipSpace_cons (by decide), List.append_assoc]
  rfl

/-- The last member of an object. -/
theorem Spells.lastMember {s : List Char} {v : Json} (spells : Spells s v) (k : String)
    {blanks : List Char} (blank : ∀ c ∈ blanks, isSpace c = true) :
    SpellsMembers (quoteChars k ++ ':' :: (s ++ (blanks ++ ['\x7d']))) [(k, v)] := by
  intro fuel rest enough
  cases fuel with
  | zero => exact absurd enough (Nat.not_lt_zero _)
  | succ fuel =>
    simp only [List.length_append, List.length_cons] at enough
    have ends : EndsNumber (blanks ++ (['\x7d'] ++ rest)) :=
      endsNumber_append blank (endsNumber_cons (by decide) rest)
    have first := spells fuel _ (by omega) ends
    simp only [List.append_assoc, List.cons_append] at first ⊢
    obtain ⟨t, quote, named⟩ := readString?_key k (':' :: (s ++ (blanks ++ '\x7d' :: ([] ++ rest))))
    refine readMembers?_last quote named rfl first ?_
    rw [skipSpace_append blank]
    rfl

/-- A member of an object before others. -/
theorem Spells.consMember {s body : List Char} {v : Json} {ms : List (String × Json)}
    (spells : Spells s v) (k : String) (others : SpellsMembers body ms) :
    SpellsMembers (quoteChars k ++ ':' :: (s ++ ',' :: body)) ((k, v) :: ms) := by
  intro fuel rest enough
  cases fuel with
  | zero => exact absurd enough (Nat.not_lt_zero _)
  | succ fuel =>
    simp only [List.length_append, List.length_cons] at enough
    have first : readValue? fuel (s ++ (',' :: (body ++ rest))) = some (v, ',' :: (body ++ rest)) :=
      spells fuel _ (by omega) (endsNumber_cons (by decide) _)
    simp only [List.append_assoc, List.cons_append]
    obtain ⟨t, quote, named⟩ := readString?_key k (':' :: (s ++ ',' :: (body ++ rest)))
    rw [readMembers?_more quote named rfl first rfl, others fuel rest (by omega)]
    rfl

/-- A text of members does not look like the end of an empty object. -/
theorem SpellsMembers.not_close {s : List Char} {ms : List (String × Json)}
    (spells : SpellsMembers s ms) (rest t : List Char) : skipSpace (s ++ rest) ≠ '\x7d' :: t := by
  intro close
  have read := spells (2 * s.length + 1) rest (Nat.lt_succ_self _)
  simp [readMembers?, close] at read

theorem SpellsMembers.object {s : List Char} {ms : List (String × Json)}
    (spells : SpellsMembers s ms) : Spells ('\x7b' :: s) (.object ms) := by
  intro fuel rest enough ends
  cases fuel with
  | zero => exact absurd enough (Nat.not_succ_le_zero _)
  | succ fuel =>
    rw [List.length_cons] at enough
    rw [List.cons_append, readValue?_object (spells.not_close rest), spells fuel rest (by omega),
      Option.map_some, objectOf_map]

theorem spells_noMembers : Spells ['\x7b', '\x7d'] (.object []) :=
  spells_of_readValue? (by decide) fun _ _ _ => rfl

/-! ## Layouts -/

mutual
/-- Whether a value has a text: every string of it stands for text, and no whole number has an
exponent. -/
def writable : Json → Bool
  | .unpaired => false
  | .number n => n.plain
  | .array items => writableItems items
  | .object members => writableMembers members
  | _ => true

/-- Whether all items are writable. -/
def writableItems : List Json → Bool
  | [] => true
  | v :: vs => writable v && writableItems vs

/-- Whether all members are writable. -/
def writableMembers : List (String × Json) → Bool
  | [] => true
  | m :: ms => writable m.2 && writableMembers ms
end

theorem Spells.onlyItem {s : List Char} {v : Json} (spells : Spells s v) :
    SpellsItems (s ++ [']']) [v] :=
  spells.lastItem (List.forall_mem_nil _)

theorem Spells.onlyMember {s : List Char} {v : Json} (spells : Spells s v) (k : String) :
    SpellsMembers (quoteChars k ++ ':' :: (s ++ ['\x7d'])) [(k, v)] :=
  spells.lastMember k (List.forall_mem_nil _)

mutual
/-- **The layout on one line spells its value.** The induction follows the printer, which tells the
last item and the last member from the others. -/
theorem spells_compactChars : ∀ v : Json, v.writable = true → Spells v.compactChars v
  | .null, _ => by rw [compactChars]; exact spells_null
  | .bool b, _ => by rw [compactChars]; exact spells_bool b
  | .number n, written => by
    rw [writable] at written
    rw [compactChars]
    exact spells_number written
  | .string s, _ => by rw [compactChars]; exact spells_string s
  | .unpaired, written => by
    rw [writable] at written
    exact absurd written Bool.false_ne_true
  | .array [], _ => by rw [compactChars, compactItems]; exact spells_noItems
  | .array (v :: vs), written => by
    rw [writable] at written
    rw [compactChars]
    exact (spellsItems_compactItems (v :: vs) written nofun).array
  | .object [], _ => by rw [compactChars, compactMembers]; exact spells_noMembers
  | .object (m :: ms), written => by
    rw [writable] at written
    rw [compactChars]
    exact (spellsMembers_compactMembers (m :: ms) written nofun).object

theorem spellsItems_compactItems : ∀ vs : List Json, writableItems vs = true → vs ≠ [] →
    SpellsItems (compactItems vs) vs
  | [], _, some_item => absurd rfl some_item
  | [v], written, _ => by
    rw [writableItems, Bool.and_eq_true] at written
    rw [compactItems]
    exact (spells_compactChars v written.1).onlyItem
  | v :: w :: vs, written, _ => by
    rw [writableItems, Bool.and_eq_true] at written
    rw [compactItems]
    · exact (spells_compactChars v written.1).consItem
        (spellsItems_compactItems (w :: vs) written.2 nofun)
    · nofun

theorem spellsMembers_compactMembers : ∀ ms : List (String × Json), writableMembers ms = true →
    ms ≠ [] → SpellsMembers (compactMembers ms) ms
  | [], _, some_member => absurd rfl some_member
  | [(k, v)], written, _ => by
    rw [writableMembers, Bool.and_eq_true] at written
    rw [compactMembers]
    exact (spells_compactChars v written.1).onlyMember k
  | (k, v) :: m :: ms, written, _ => by
    rw [writableMembers, Bool.and_eq_true] at written
    rw [compactMembers]
    · exact (spells_compactChars v written.1).consMember k
        (spellsMembers_compactMembers (m :: ms) written.2 nofun)
    · nofun
end

theorem blank_newLine (level : Nat) : ∀ c ∈ newLine level, isSpace c = true := by
  rintro c member
  rcases List.mem_cons.mp member with rfl | indentation
  · decide
  · rw [(List.mem_replicate.mp indentation).2]
    decide

mutual
/-- **The layout over lines spells its value.** Every item and member has a line break in front, and
the last one has another before the closing bracket; the reader takes them for blanks. -/
theorem spells_prettyChars : ∀ (level : Nat) (v : Json), v.writable = true →
    Spells (prettyChars level v) v
  | _, .null, _ => by rw [prettyChars]; exact spells_null
  | _, .bool b, _ => by rw [prettyChars]; exact spells_bool b
  | _, .number n, written => by
    rw [writable] at written
    rw [prettyChars]
    exact spells_number written
  | _, .string s, _ => by rw [prettyChars]; exact spells_string s
  | _, .unpaired, written => by
    rw [writable] at written
    exact absurd written Bool.false_ne_true
  | _, .array [], _ => by rw [prettyChars]; exact spells_noItems
  | level, .array (v :: vs), written => by
    rw [writable] at written
    rw [prettyChars]
    exact (spellsItems_prettyItems level (level + 1) (v :: vs) written nofun).array
  | _, .object [], _ => by rw [prettyChars]; exact spells_noMembers
  | level, .object (m :: ms), written => by
    rw [writable] at written
    rw [prettyChars]
    exact (spellsMembers_prettyMembers level (level + 1) (m :: ms) written nofun).object

theorem spellsItems_prettyItems : ∀ (outer level : Nat) (vs : List Json),
    writableItems vs = true → vs ≠ [] →
      SpellsItems (prettyItems level vs ++ newLine outer ++ [']']) vs
  | _, _, [], _, some_item => absurd rfl some_item
  | outer, level, [v], written, _ => by
    rw [writableItems, Bool.and_eq_true] at written
    simp only [prettyItems, List.append_assoc]
    exact ((spells_prettyChars level v written.1).lastItem (blank_newLine outer)).blanks
      (blank_newLine level)
  | outer, level, v :: w :: vs, written, _ => by
    rw [writableItems, Bool.and_eq_true] at written
    have others := spellsItems_prettyItems outer level (w :: vs) written.2 nofun
    simp only [prettyItems, List.append_assoc, List.cons_append] at others ⊢
    exact ((spells_prettyChars level v written.1).consItem others).blanks (blank_newLine level)

theorem spellsMembers_prettyMembers : ∀ (outer level : Nat) (ms : List (String × Json)),
    writableMembers ms = true → ms ≠ [] →
      SpellsMembers (prettyMembers level ms ++ newLine outer ++ ['\x7d']) ms
  | _, _, [], _, some_member => absurd rfl some_member
  | outer, level, [(k, v)], written, _ => by
    rw [writableMembers, Bool.and_eq_true] at written
    simp only [prettyMembers, List.append_assoc, List.cons_append]
    exact (((spells_prettyChars level v written.1).spaced.lastMember k
      (blank_newLine outer))).blanks (blank_newLine level)
  | outer, level, (k, v) :: m :: ms, written, _ => by
    rw [writableMembers, Bool.and_eq_true] at written
    have others := spellsMembers_prettyMembers outer level (m :: ms) written.2 nofun
    simp only [prettyMembers, List.append_assoc, List.cons_append] at others ⊢
    exact ((spells_prettyChars level v written.1).spaced.consMember k others).blanks
      (blank_newLine level)
end

mutual
/-- **The first layout keeps to one line.** -/
theorem lineFeed_notMem_compactChars : ∀ v : Json, '\n' ∉ v.compactChars
  | .null => by rw [compactChars]; decide
  | .bool b => by rw [compactChars]; cases b <;> decide
  | .number n => by rw [compactChars]; exact lineFeed_notMem_chars n
  | .string s => by rw [compactChars]; exact lineFeed_notMem_quoteChars s
  | .unpaired => by rw [compactChars]; decide
  | .array vs => by
    rw [compactChars, List.mem_cons, not_or]
    exact ⟨by decide, lineFeed_notMem_compactItems vs⟩
  | .object ms => by
    rw [compactChars, List.mem_cons, not_or]
    exact ⟨by decide, lineFeed_notMem_compactMembers ms⟩

theorem lineFeed_notMem_compactItems : ∀ vs : List Json, '\n' ∉ compactItems vs
  | [] => by rw [compactItems]; decide
  | [v] => by
    rw [compactItems, List.mem_append, not_or]
    exact ⟨lineFeed_notMem_compactChars v, by decide⟩
  | v :: w :: vs => by
    simp only [compactItems, List.mem_append, List.mem_cons, not_or]
    exact ⟨lineFeed_notMem_compactChars v, by decide, lineFeed_notMem_compactItems (w :: vs)⟩

theorem lineFeed_notMem_compactMembers : ∀ ms : List (String × Json), '\n' ∉ compactMembers ms
  | [] => by rw [compactMembers]; decide
  | [(k, v)] => by
    simp only [compactMembers, List.mem_append, List.mem_cons, not_or]
    exact ⟨lineFeed_notMem_quoteChars k, by decide, lineFeed_notMem_compactChars v, by decide,
      List.not_mem_nil⟩
  | (k, v) :: m :: ms => by
    simp only [compactMembers, List.mem_append, List.mem_cons, not_or]
    exact ⟨lineFeed_notMem_quoteChars k, by decide, lineFeed_notMem_compactChars v, by decide,
      lineFeed_notMem_compactMembers (m :: ms)⟩
end

/-! ## Whole texts -/

/-- A text that spells a value is read as it, with any blanks on either side. -/
theorem Spells.parseChars? {s : List Char} {v : Json} (spells : Spells s v)
    {before after : List Char} (blankBefore : ∀ c ∈ before, isSpace c = true)
    (blankAfter : ∀ c ∈ after, isSpace c = true) :
    Json.parseChars? (before ++ s ++ after) = some v := by
  have ends : EndsNumber (after ++ []) := endsNumber_append blankAfter nofun
  have read := spells.blanks blankBefore (2 * (before ++ s ++ after).length + 2) (after ++ [])
    (by simp only [List.length_append]; omega) ends
  have nothing : skipSpace after = [] := by
    rw [← List.append_nil after, skipSpace_append blankAfter]
    rfl
  rw [List.append_nil] at read
  rw [Json.parseChars?, read]
  change (if (skipSpace after).isEmpty then some v else none) = some v
  rw [nothing]
  rfl

theorem Spells.parse? {s : List Char} {v : Json} (spells : Spells s v) :
    Json.parse? (String.ofList s) = some v := by
  have read := spells.parseChars? (List.forall_mem_nil _) (List.forall_mem_nil _)
  rw [List.nil_append, List.append_nil] at read
  rw [Json.parse?, String.toList_ofList, read]

/-- **What is written on one line is read back.** -/
theorem parse?_compact {v : Json} (written : v.writable = true) : parse? v.compact = some v :=
  (spells_compactChars v written).parse?

/-- **What is laid out over lines is read back.** -/
theorem parse?_pretty {v : Json} (written : v.writable = true) : parse? v.pretty = some v :=
  (spells_prettyChars 0 v written).parse?

end TestPlanner.Json
