import TestPlanner.Proofs.FirstOccurrence
import TestPlanner.Proofs.Prose.ScenarioLines
import TestPlanner.Proofs.Text.Connective
import TestPlanner.Proofs.Text.Rows

/-!
# Labels and headers

The first scenario of a text is named in two ways. Its header is looked for line by line. The name
of the plan's scenario comes from a label, a pattern that is looked for in the text as a whole.

**Where they differ.** A label may be spaced out (`Scenario :`, `Scenario  Outline:`), and its
letters may be written with a long s; a header may not. The name of a header is the rest of its line
(`HasHeader`). Behind the colon of a label all blanks are passed over, line feeds too, so the name of
a label is the next line that is not blank (`NameBehind`). A header with a name on its line is a
label with the same name (`HasHeader.hasLabel`). A header without one is a label that takes its name
from below (`name_from_next_line`).

**When they agree.** Both recognisers go through the visible rows of a text, and find the first
label and the first header. So they agree exactly if there is neither, or if the first of each has
the same name (`recognisersAgree_iff`). This is so in every text in which whatever starts like a
label is a header with a name on its line (`recognisersAgree_of_tidy`).
-/

set_option autoImplicit false

namespace TestPlanner.Prose

open Text Phrase

/-! ## Headers and labels in a row -/

/-- A row whose first line is a header with its name. -/
def HasHeader (row name : List Char) : Prop :=
  ∃ word gap, lineOf row = word ++ (gap ++ name) ∧ IsHeaderWord word ∧
    (∀ c ∈ gap, isBlank c = true) ∧ (name.head?.all fun c => !isBlank c) = true

/-- What may stand between the word of a label and its colon. -/
def LabelSpace (s : List Char) : Prop :=
  (∀ c ∈ s, isBlank c = true) ∨
    ∃ gap outline blanks, s = gap ++ (outline ++ blanks) ∧ IsGap gap ∧
      Spells outline "outline".toList ∧ ∀ c ∈ blanks, isBlank c = true

/-- A row that starts like a label, and what follows the colon. -/
def OpensLabel (row tail : List Char) : Prop :=
  ∃ margin word between, row = margin ++ (word ++ (between ++ ':' :: tail)) ∧
    (∀ c ∈ margin, isBlank c = true) ∧ Spells word "scenario".toList ∧ LabelSpace between

/-- The name that a label takes from what follows its colon: the next line that is not blank. Where
all is blank, it is the last character that is no line feed. -/
def NameBehind (tail name : List Char) : Prop :=
  (trimStart tail ≠ [] ∧ name = lineOf (trimStart tail)) ∨
    ∃ front c feeds, tail = front ++ c :: feeds ∧ name = [c] ∧ (∀ d ∈ front, isBlank d = true) ∧
      isBlank c = true ∧ c ≠ '\n' ∧ ∀ d ∈ feeds, d = '\n'

/-- A row that starts with a label and its name. -/
def HasLabel (row name : List Char) : Prop := ∃ tail, OpensLabel row tail ∧ NameBehind tail name

/-! ## The name of a label -/

/-- The steps of a label behind its name. -/
def lineEnd : Phrase := [.run isBlank, .stop '\n']

/-- The steps of a label behind its colon. -/
def nameSteps : Phrase := .run isBlank :: .part :: lineEnd

/-- The steps of a label from the blanks in front of its colon on. -/
def colonSteps : Phrase := .run isBlank :: .word [':'] :: nameSteps

theorem scenarioLabel_eq : scenarioLabel =
    .run isBlank :: .word "scenario".toList :: .perhapsSpaced "outline".toList :: colonSteps := rfl

/-- Blanks at the end of a line are passed over. -/
theorem parts?_lineEnd {blanks rest : List Char} (blank : ∀ c ∈ blanks, isBlank c = true)
    (ends : rest = [] ∨ rest.head? = some '\n') :
    parts? lineEnd (blanks ++ rest) = some [] := by
  have reads : Reads lineEnd (blanks ++ rest) [] :=
    ⟨blanks, rest, rfl, blank, ends, rfl⟩
  obtain ⟨parts, found⟩ := Option.isSome_iff_exists.mp (isSome_parts?_of_reads reads)
  obtain ⟨_, _, _, _, _, none⟩ := reads_of_parts? found
  rw [found, none]

/-- No line ends in front of something visible. -/
theorem not_reads_lineEnd {s rest : List Char} (shown : (s.getLast?.any fun c => !isBlank c) = true)
    (unbroken : '\n' ∉ s) (parts : List (List Char)) :
    ¬ Reads lineEnd (s ++ rest) parts := by
  rintro ⟨front, behind, whole, blank, stops, _⟩
  obtain ⟨start, last, rfl⟩ : ∃ start last, s = start ++ [last] := by
    cases s using List.reverseRecOn with
    | nil => cases shown
    | append_singleton start last => exact ⟨start, last, rfl⟩
  have visible : isBlank last = false := by simpa using shown
  have notBlank : last ∉ front := by
    intro member
    rw [blank last member] at visible
    cases visible
  rcases List.append_eq_append_iff.mp whole with ⟨more, reached, _⟩ | ⟨more, inside, stopped⟩
  · exact notBlank (by rw [reached]; simp)
  · cases more with
    | nil =>
      rw [List.append_nil] at inside
      exact notBlank (by rw [← inside]; simp)
    | cons d more =>
      rw [stopped] at stops
      have feed : d = '\n' := by simpa using stops
      exact unbroken (by rw [inside, feed]; simp)

/-- A text that starts visibly has a name on its first line, and only blanks behind it there. -/
theorem exists_lineOf {s : List Char} (starts : (s.head?.any fun c => !isBlank c) = true) :
    ∃ blanks rest, s = lineOf s ++ (blanks ++ rest) ∧ (∀ c ∈ blanks, isBlank c = true) ∧
      (rest = [] ∨ rest.head? = some '\n') ∧ lineOf s ≠ [] := by
  obtain ⟨rest, split, ends⟩ := exists_firstLine s
  have first : ∃ c line, firstLine s = c :: line ∧ isBlank c = false := by
    cases s with
    | nil => cases starts
    | cons c s =>
      have visible : isBlank c = false := by simpa using starts
      refine ⟨c, firstLine s, firstLine_cons ?_ s, visible⟩
      rintro rfl
      exact absurd visible (by decide)
  obtain ⟨c, line, form, visible⟩ := first
  have kept : trimStart (firstLine s) = firstLine s := by
    rw [form, trimStart_cons_of_visible visible]
  have ended : firstLine s = lineOf s ++ (firstLine s).rtakeWhile isBlank := by
    rw [lineOf, trim, kept]
    exact List.rdropWhile_append_rtakeWhile.symm
  refine ⟨(firstLine s).rtakeWhile isBlank, rest, ?_,
    fun c member => List.mem_rtakeWhile_imp member, ends, fun empty => ?_⟩
  · rw [← List.append_assoc, ← ended]
    exact split
  · have blank := trim_eq_nil_iff.mp empty c (by rw [form]; exact List.mem_cons_self)
    rw [visible] at blank
    cases blank

/-- **A name that starts visibly is its line, trimmed.** -/
theorem parts?_line {s : List Char} (starts : (s.head?.any fun c => !isBlank c) = true) :
    parts? (.part :: lineEnd) s = some [lineOf s] := by
  obtain ⟨blanks, rest, split, blank, ends, nonempty⟩ := exists_lineOf starts
  have unbroken : '\n' ∉ lineOf s := fun feed => not_mem_firstLine s (mem_of_mem_trim feed)
  have found : parts? (.part :: lineEnd) (lineOf s ++ (blanks ++ rest)) =
      some [lineOf s] := by
    refine parts?_part nonempty unbroken (parts?_lineEnd blank ends) ?_
    -- the end of the name is visible, so no line ends in front of it
    intro left right cut _ more
    refine not_reads_lineEnd ?_ fun feed => unbroken (by rw [cut]; simp [feed])
    have last := (visible_trim (firstLine s)).last
    rw [← lineOf, cut, List.getLast?_append_of_ne_nil left more,
      List.getLast?_eq_some_getLast more] at last
    rwa [List.getLast?_eq_some_getLast more]
  rwa [← split] at found

/-- Behind line feeds alone there is no name. -/
theorem parts?_feeds {feeds : List Char} (all : ∀ d ∈ feeds, d = '\n') :
    parts? nameSteps feeds = none := by
  refine parts?_eq_none_iff.mpr ?_
  rintro parts ⟨front, behind, rfl, _, name, rest, others, rfl, nonempty, unbroken, _⟩
  obtain ⟨c, name, rfl⟩ := List.exists_cons_of_ne_nil nonempty
  have feed : c = '\n' := all c (by simp)
  exact unbroken (by rw [feed]; exact List.mem_cons_self)

/-- A character in front of line feeds is a name. -/
theorem parts?_lastOfLine {c : Char} (other : c ≠ '\n') {feeds : List Char}
    (all : ∀ d ∈ feeds, d = '\n') : parts? (.part :: lineEnd) (c :: feeds) = some [[c]] := by
  have blank : ∀ d ∈ feeds, isBlank d = true := by
    intro d member
    rw [all d member]
    decide
  have ended : parts? lineEnd (feeds ++ []) = some [] := parts?_lineEnd blank (.inl rfl)
  rw [List.append_nil] at ended
  have found : parts? (.part :: lineEnd) ([c] ++ feeds) = some [[c]] := by
    refine parts?_part (List.cons_ne_nil c []) (by simpa using other.symm) ended ?_
    intro left right cut before after
    rcases List.append_eq_singleton_iff.mp cut.symm with ⟨none, _⟩ | ⟨_, none⟩
    · exact absurd none before
    · exact absurd none after
  exact found

/-- **The name of a label is read behind its colon.** -/
theorem parts?_name {tail name : List Char} (behind : NameBehind tail name) :
    parts? nameSteps tail = some [name] := by
  rcases behind with ⟨more, rfl⟩ | ⟨front, c, feeds, rfl, rfl, blank, blank', other, all⟩
  · obtain ⟨c, rest, form⟩ := List.exists_cons_of_ne_nil more
    have starts := head?_trimStart tail
    rw [form, List.head?_cons, Option.all_some] at starts
    have visible : ∀ d ∈ (trimStart tail).head?, isBlank d = false := by
      rw [form]
      rintro d first
      rw [← Option.mem_some_iff.mp first]
      simpa using starts
    have blank : ∀ d ∈ tail.takeWhile isBlank, isBlank d = true :=
      fun d member => List.mem_takeWhile_imp member
    have line : parts? (.part :: lineEnd) (trimStart tail) = some [lineOf (trimStart tail)] :=
      parts?_line (by rw [form]; exact starts)
    have found := many_append blank visible line
    rwa [trimStart, List.takeWhile_append_dropWhile] at found
  · -- the run of blanks is cut short, until a character is left that is no line feed
    induction front with
    | nil =>
      have none := parts?_feeds all
      rw [nameSteps, parts?] at none
      rw [List.nil_append, nameSteps, parts?, many, if_pos blank', none, Option.none_or]
      exact parts?_lastOfLine other all
    | cons d front ih =>
      obtain ⟨first, later⟩ := List.forall_mem_cons.mp blank
      have found := ih later
      rw [nameSteps, parts?] at found
      rw [List.cons_append, nameSteps, parts?, many, if_pos first, found, Option.some_or]

/-- A label has a name unless only line feeds follow its colon. -/
theorem exists_nameBehind (tail : List Char) :
    (∃ name, NameBehind tail name) ∨ ∀ d ∈ tail, d = '\n' := by
  by_cases more : trimStart tail ≠ []
  · exact .inl ⟨_, .inl ⟨more, rfl⟩⟩
  have blank : ∀ d ∈ tail, isBlank d = true := List.dropWhile_eq_nil_iff.mp (not_not.mp more)
  have split : tail.rdropWhile (· == '\n') ++ tail.rtakeWhile (· == '\n') = tail :=
    List.rdropWhile_append_rtakeWhile
  have feeds : ∀ d ∈ tail.rtakeWhile (· == '\n'), d = '\n' :=
    fun d member => by simpa using List.mem_rtakeWhile_imp member
  rcases List.eq_nil_or_concat (tail.rdropWhile (· == '\n')) with none | ⟨front, c, form⟩
  · right
    rw [none, List.nil_append] at split
    rwa [split] at feeds
  · left
    have other := List.rdropWhile_last_not (· == '\n') tail (by rw [form]; simp)
    rw [List.concat_eq_append] at form
    rw [List.getLast_congr _ (by simp) form, List.getLast_concat] at other
    rw [form, List.append_assoc, List.singleton_append] at split
    rw [← split, List.forall_mem_append, List.forall_mem_cons] at blank
    exact ⟨[c], .inr ⟨front, c, _, split.symm, rfl, blank.1, blank.2.1, by simpa using other,
      feeds⟩⟩

/-! ## Where a label starts -/

theorem parts?_colon {blanks tail : List Char} {parts : List (List Char)}
    (blank : ∀ c ∈ blanks, isBlank c = true) (found : parts? nameSteps tail = some parts) :
    parts? colonSteps (blanks ++ ':' :: tail) = some parts := by
  have colon : phrase? [':'] (':' :: tail) = some tail :=
    phrase?_singleton (by decide) (by decide) tail
  have visible : ∀ c ∈ (':' :: tail).head?, isBlank c = false := by
    rintro c first
    rw [← Option.mem_some_iff.mp first]
    decide
  have read : (phrase? [':'] (':' :: tail)).bind (parts? nameSteps) = some parts := by
    rw [colon, Option.bind_some, found]
  exact many_append blank visible read

/-- What stands between the word of a label and its colon is passed over. -/
theorem parts?_labelSpace {between tail : List Char} {parts : List (List Char)}
    (space : LabelSpace between) (found : parts? nameSteps tail = some parts) :
    parts? (.perhapsSpaced "outline".toList :: colonSteps) (between ++ ':' :: tail) =
      some parts := by
  simp only [parts?]
  rcases space with plain | ⟨gap, outline, blanks, rfl, isGap, spelled, blank⟩
  · -- behind the blanks there is the colon, so no `outline` is read
    have none : spacedPhrase ["outline".toList] (parts? colonSteps) (between ++ ':' :: tail) =
        none := by
      rw [← Option.not_isSome_iff_eq_none, Option.isSome_iff_exists]
      rintro ⟨_, read⟩
      obtain ⟨w, listed, front, behind, _, split, isGap, read, _⟩ := spacedPhrase_eq_some read
      rw [List.mem_singleton.mp listed, phrase?_eq_some_iff small_outline] at read
      obtain ⟨chars, rfl, spelled⟩ := read
      obtain ⟨d, more, rfl, visible⟩ := exists_cons_of_spells (by decide) spelled
      have same := (blanks_inj plain isGap.blank (by decide) visible split).2
      rw [← (List.cons.inj same).1] at spelled
      exact absurd (List.cons.inj spelled).1 (by decide)
    rw [none, Option.none_or]
    exact parts?_colon plain found
  · have starts := head?_append_of_spells (by decide) spelled (blanks ++ ':' :: tail)
    have own : (phrase? "outline".toList (outline ++ (blanks ++ ':' :: tail))).bind
        (parts? colonSteps) = some parts := by
      rw [phrase?_append small_outline spelled, Option.bind_some, parts?_colon blank found]
    have read : many1 isBlank (fun s => (phrase? "outline".toList s).bind (parts? colonSteps))
        (gap ++ (outline ++ (blanks ++ ':' :: tail))) = some parts :=
      many1_append isGap starts own
    simp only [List.append_assoc, spacedPhrase, List.findSome?_cons, read, Option.some_or]

/-- **Where a label opens, it is read,** if it has a name. -/
theorem parts?_scenarioLabel {row tail : List Char} {parts : List (List Char)}
    (opens : OpensLabel row tail) (found : parts? nameSteps tail = some parts) :
    scenarioLabel.parts? row = some parts := by
  obtain ⟨margin, word, between, rfl, blank, spelled, space⟩ := opens
  have starts := head?_append_of_spells (by decide) spelled (between ++ ':' :: tail)
  have own : (phrase? "scenario".toList (word ++ (between ++ ':' :: tail))).bind
      (parts? (.perhapsSpaced "outline".toList :: colonSteps)) = some parts := by
    rw [phrase?_append small_scenario spelled, Option.bind_some, parts?_labelSpace space found]
  rw [scenarioLabel_eq]
  exact many_append blank starts own

theorem colon_of_reads {s : List Char} {parts : List (List Char)} (reads : colonSteps.Reads s parts) :
    ∃ blanks tail, s = blanks ++ ':' :: tail ∧ (∀ c ∈ blanks, isBlank c = true) ∧
      nameSteps.Reads tail parts := by
  obtain ⟨blanks, behind, rfl, blank, tail, read, reads⟩ := reads
  obtain ⟨colon, rfl, spelled⟩ := (phrase?_eq_some_iff (by decide)).mp read
  obtain ⟨c, rfl, form⟩ := List.map_eq_singleton_iff.mp spelled
  refine ⟨blanks, tail, ?_, blank, reads⟩
  rw [eq_of_folded (by decide) form, List.singleton_append]

/-- A label is read only where it opens. -/
theorem opensLabel_of_reads {row : List Char} {parts : List (List Char)}
    (reads : scenarioLabel.Reads row parts) :
    ∃ tail, OpensLabel row tail ∧ nameSteps.Reads tail parts := by
  rw [scenarioLabel_eq] at reads
  obtain ⟨margin, behind, rfl, blank, rest, read, reads⟩ := reads
  obtain ⟨word, rfl, spelled⟩ := (phrase?_eq_some_iff small_scenario).mp read
  rcases reads with ⟨gap, behind, _, rfl, isGap, read, reads⟩ | reads
  · obtain ⟨outline, rfl, spelled'⟩ := (phrase?_eq_some_iff small_outline).mp read
    obtain ⟨blanks, tail, rfl, blank', reads⟩ := colon_of_reads reads
    refine ⟨tail, ⟨margin, word, gap ++ (outline ++ blanks), ?_, blank, spelled,
      .inr ⟨gap, outline, blanks, rfl, isGap, spelled', blank'⟩⟩, reads⟩
    rw [List.append_assoc, List.append_assoc]
  · obtain ⟨blanks, tail, rfl, blank', reads⟩ := colon_of_reads reads
    exact ⟨tail, ⟨margin, word, blanks, rfl, blank, spelled, .inl blank'⟩, reads⟩

/-- **A label is read exactly in a row that starts with one.** -/
theorem parts?_scenarioLabel_iff {row : List Char} {parts : List (List Char)} :
    scenarioLabel.parts? row = some parts ↔ ∃ name, HasLabel row name ∧ parts = [name] := by
  constructor
  · intro found
    obtain ⟨tail, opens, reads⟩ := opensLabel_of_reads (reads_of_parts? found)
    rcases exists_nameBehind tail with ⟨name, behind⟩ | feeds
    · refine ⟨name, ⟨tail, opens, behind⟩, ?_⟩
      rw [parts?_scenarioLabel opens (parts?_name behind), Option.some.injEq] at found
      exact found.symm
    · exact absurd reads (parts?_eq_none_iff.mp (parts?_feeds feeds) parts)
  · rintro ⟨name, ⟨tail, opens, behind⟩, rfl⟩
    exact parts?_scenarioLabel opens (parts?_name behind)

/-- A blank in front of a row does not matter for its label. -/
theorem opensLabel_cons {c : Char} (blank : isBlank c = true) (row tail : List Char) :
    OpensLabel (c :: row) tail ↔ OpensLabel row tail := by
  constructor
  · rintro ⟨margin, word, between, split, blanks, spelled, space⟩
    cases margin with
    | nil =>
      obtain ⟨d, rest, rfl, visible⟩ := exists_cons_of_spells (by decide) spelled
      rw [← (List.cons.inj split).1, blank] at visible
      cases visible
    | cons d margin =>
      exact ⟨margin, word, between, (List.cons.inj split).2, (List.forall_mem_cons.mp blanks).2,
        spelled, space⟩
  · rintro ⟨margin, word, between, rfl, blanks, spelled, space⟩
    exact ⟨c :: margin, word, between, rfl, List.forall_mem_cons.mpr ⟨blank, blanks⟩, spelled, space⟩

/-! ## Headers are labels -/

/-- **A header opens a label,** and the name of the header, if it has one, is the first thing behind
the colon. -/
theorem HasHeader.exists_tail {row name : List Char} (header : HasHeader row name) :
    ∃ gap after rest, OpensLabel row (gap ++ (name ++ (after ++ rest))) ∧
      (∀ c ∈ gap, isBlank c = true) ∧ (∀ c ∈ after, isBlank c = true) ∧
      '\n' ∉ name ++ after ∧ (rest = [] ∨ rest.head? = some '\n') := by
  obtain ⟨word, gap, line, isHeader, blank, starts⟩ := header
  obtain ⟨rest, split, ends⟩ := exists_firstLine row
  obtain ⟨margin, after, trimmed, blank', blank''⟩ := exists_trim (firstLine row)
  rw [← lineOf, line] at trimmed
  have unbroken := not_mem_firstLine row
  refine ⟨gap, after, rest, ?_, blank, blank'', ?_, ends⟩
  · rw [trimmed] at split
    obtain ⟨front, spelled, rfl | ⟨outline, spelled', rfl⟩⟩ := isHeader.cases
    · refine ⟨margin, front, [], ?_, blank', spelled, .inl (List.forall_mem_nil _)⟩
      simpa only [List.append_assoc, List.cons_append, List.nil_append] using split
    · have space : ∀ c ∈ [' '], isBlank c = true := List.forall_mem_singleton.mpr (by decide)
      refine ⟨margin, front, [' '] ++ (outline ++ []), ?_, blank', spelled,
        .inr ⟨[' '], outline, [], rfl, ⟨List.cons_ne_nil _ _, space⟩, spelled',
          List.forall_mem_nil _⟩⟩
      simpa only [List.append_assoc, List.cons_append, List.nil_append] using split
  · rw [trimmed] at unbroken
    simp only [List.mem_append, not_or] at unbroken ⊢
    exact ⟨unbroken.2.1.2.2, unbroken.2.2⟩

theorem HasHeader.opensLabel {row name : List Char} (header : HasHeader row name) :
    ∃ tail, OpensLabel row tail := by
  obtain ⟨_, _, _, opens, _⟩ := header.exists_tail
  exact ⟨_, opens⟩

theorem HasHeader.visible {row name : List Char} (header : HasHeader row name) : Visible name := by
  obtain ⟨word, gap, line, _, _, starts⟩ := header
  refine ⟨starts, ?_⟩
  by_cases nonempty : name = []
  · rw [nonempty]
    rfl
  · have last := (visible_trim (firstLine row)).last
    rwa [← lineOf, line, ← List.append_assoc, List.getLast?_append_of_ne_nil _ nonempty] at last

/-- **A header with a name on its line is a label with that name.** -/
theorem HasHeader.hasLabel {row name : List Char} (header : HasHeader row name)
    (nonempty : name ≠ []) : HasLabel row name := by
  obtain ⟨gap, after, rest, opens, blank, blank', unbroken, ends⟩ := header.exists_tail
  obtain ⟨c, more, form⟩ := List.exists_cons_of_ne_nil nonempty
  have start : trimStart (gap ++ (name ++ (after ++ rest))) = name ++ (after ++ rest) := by
    have first := header.visible.first
    rw [trimStart_append blank]
    refine trimStart_eq_self ?_
    rw [form] at first ⊢
    exact first
  refine ⟨_, opens, .inl ⟨?_, ?_⟩⟩
  · rw [start]
    simp [nonempty]
  · rw [start, ← List.append_assoc, lineOf, firstLine_append unbroken ends,
      header.visible.trim_append nonempty, trimEnd_eq_nil blank', List.append_nil]

/-- A label always has a name. -/
theorem HasLabel.nonempty {row name : List Char} (label : HasLabel row name) : name ≠ [] := by
  obtain ⟨tail, _, ⟨more, rfl⟩ | ⟨_, c, _, _, rfl, _⟩⟩ := label
  · have starts := head?_trimStart tail
    obtain ⟨c, rest, form⟩ := List.exists_cons_of_ne_nil more
    have shown : ((trimStart tail).head?.any fun c => !isBlank c) = true := by
      rw [form] at starts ⊢
      exact starts
    obtain ⟨_, _, _, _, _, nonempty⟩ := exists_lineOf shown
    exact nonempty
  · exact List.cons_ne_nil c []

/-! ## The first of each -/

/-- The name of a header line. -/
def nameOfHeader? (line : List Char) : Option (List Char) :=
  if OpensScenario line then headerName? line else none

theorem nameOfHeader?_lineOf_iff (row name : List Char) :
    nameOfHeader? (lineOf row) = some name ↔ HasHeader row name := by
  constructor
  · intro found
    rw [nameOfHeader?] at found
    split at found
    next opens =>
      obtain ⟨word, rest, split, header⟩ := opens
      rw [split, headerName?_append header, Option.some.injEq] at found
      refine ⟨word, rest.takeWhile isBlank, ?_, header, fun c member => List.mem_takeWhile_imp member,
        found ▸ head?_trimStart rest⟩
      rw [split, ← found, trimStart, List.takeWhile_append_dropWhile]
    next => cases found
  · rintro ⟨word, gap, line, header, blank, starts⟩
    have opens : OpensScenario (lineOf row) := ⟨word, gap ++ name, line, header⟩
    rw [nameOfHeader?, if_pos opens, line, headerName?_append header, trimStart_append blank,
      trimStart_eq_self starts]

/-- The first scenario has the name of the first header line. -/
theorem head?_scenariosFrom (lines : List (List Char)) :
    (scenariosFrom lines).2.head?.map Scenario.name =
      (lines.findSome? nameOfHeader?).map String.ofList := by
  induction lines with
  | nil => rfl
  | cons line lines ih =>
    rw [List.findSome?_cons, nameOfHeader?]
    by_cases opens : OpensScenario line
    · rw [scenariosFrom_header opens, if_pos opens]
      obtain ⟨word, rest, rfl, header⟩ := opens
      rw [headerName?_append header]
      simp only [List.head?_cons, Option.map_some, scenarioOf, headerName?_append header,
        Option.getD_some]
    · rw [scenariosFrom_other opens, if_neg opens, ih]

theorem head?_explicitScenarios (text : List Char) :
    (explicitScenarios text).head?.map Scenario.name =
      ((visibleRows text).findSome? fun row => nameOfHeader? (lineOf row)).map String.ofList := by
  rw [explicitScenarios, head?_scenariosFrom, nonblankLines_eq_map, List.findSome?_map]
  rfl

/-- **The first explicit scenario is that of the first header.** -/
theorem first_header_iff {text name : List Char} :
    First HasHeader (visibleRows text) name ↔
      ∃ scenario rest, explicitScenarios text = scenario :: rest ∧
        scenario.name = String.ofList name := by
  have heads := head?_explicitScenarios text
  rw [← findSome?_eq_some_iff_first nameOfHeader?_lineOf_iff]
  constructor
  · intro found
    rw [found, Option.map_some, Option.map_eq_some_iff] at heads
    obtain ⟨scenario, first, same⟩ := heads
    obtain ⟨rest, whole⟩ := List.head?_eq_some_iff.mp first
    exact ⟨scenario, rest, whole, same⟩
  · rintro ⟨scenario, rest, whole, same⟩
    rw [whole, List.head?_cons, Option.map_some, same, eq_comm, Option.map_eq_some_iff] at heads
    obtain ⟨own, found, equal⟩ := heads
    rwa [String.ofList_injective equal] at found

/-- A text without headers has no explicit scenario. -/
theorem explicitScenarios_eq_nil_iff {text : List Char} :
    explicitScenarios text = [] ↔ ∀ row ∈ visibleRows text, ∀ name, ¬ HasHeader row name := by
  have heads := head?_explicitScenarios text
  rw [← findSome?_eq_none_iff_not_said nameOfHeader?_lineOf_iff, ← List.head?_eq_none_iff,
    ← Option.map_eq_none_iff (f := Scenario.name), heads, Option.map_eq_none_iff]

/-- **The label of a text is looked for in its visible rows.** -/
theorem findOnLine?_scenarioLabel (text : List Char) :
    scenarioLabel.findOnLine? text = (visibleRows text).findSome? scenarioLabel.parts? := by
  rw [findOnLine_eq, searchLines_eq]
  refine findSome?_rows ?_ ?_ text
  · decide
  · intro c s blank
    ext parts
    simp only [parts?_scenarioLabel_iff, HasLabel, opensLabel_cons blank]

/-- **The label that is found is the first one.** -/
theorem first_label_iff {text : List Char} {parts : List (List Char)} :
    scenarioLabel.findOnLine? text = some parts ↔
      ∃ name, First HasLabel (visibleRows text) name ∧ parts = [name] := by
  rw [findOnLine?_scenarioLabel,
    findSome?_eq_some_iff_first (fun row parts => parts?_scenarioLabel_iff)]
  constructor
  · rintro ⟨before, row, after, split, ⟨name, label, rfl⟩, earlier⟩
    exact ⟨name, ⟨before, row, after, split, label,
      fun y member c other => earlier y member [c] ⟨c, other, rfl⟩⟩, rfl⟩
  · rintro ⟨name, ⟨before, row, after, split, label, earlier⟩, rfl⟩
    refine ⟨before, row, after, split, ⟨name, label, rfl⟩, ?_⟩
    rintro y member _ ⟨c, other, rfl⟩
    exact earlier y member c other

theorem findOnLine?_eq_none_iff {text : List Char} :
    scenarioLabel.findOnLine? text = none ↔
      ∀ row ∈ visibleRows text, ∀ name, ¬ HasLabel row name := by
  rw [findOnLine?_scenarioLabel,
    findSome?_eq_none_iff_not_said (fun row parts => parts?_scenarioLabel_iff)]
  constructor
  · exact fun none row member name label => none row member [name] ⟨name, label, rfl⟩
  · rintro none row member _ ⟨name, label, _⟩
    exact none row member name label

/-! ## Agreement -/

/-- The name of the plan's scenario comes from a label exactly if the text has an explicit scenario,
and then it is the name of the first one. -/
structure RecognisersAgree (text : List Char) (story : UserStory) : Prop where
  found : (scenarioLabel.findOnLine? text).isSome = true ↔ explicitScenarios text ≠ []
  name : (scenarioLabel.findOnLine? text).isSome = true →
    ∀ first ∈ (scenarios text story).head?, scenarioName text story = first.name

theorem scenarioName_of_label {text name : List Char}
    (label : scenarioLabel.findOnLine? text = some [name]) (story : UserStory) :
    scenarioName text story = String.ofList name := by
  rw [scenarioName, label]

theorem scenarios_of_explicit {text : List Char} {first : Scenario} {rest : List Scenario}
    (explicit : explicitScenarios text = first :: rest) (story : UserStory) :
    scenarios text story = first :: rest := by
  rw [scenarios, explicit]

/-- **The recognisers agree exactly if the first header and the first label have one name,** or if
there is neither. -/
theorem recognisersAgree_iff (text : List Char) (story : UserStory) :
    RecognisersAgree text story ↔
      (∀ row ∈ visibleRows text, ∀ name, ¬ HasHeader row name ∧ ¬ HasLabel row name) ∨
      ∃ name, First HasHeader (visibleRows text) name ∧ First HasLabel (visibleRows text) name := by
  constructor
  · intro agree
    cases label : scenarioLabel.findOnLine? text with
    | none =>
      have none : explicitScenarios text = [] := by
        by_contra some
        have found := agree.found.mpr some
        rw [label] at found
        cases found
      exact .inl fun row member name => ⟨explicitScenarios_eq_nil_iff.mp none row member name,
        findOnLine?_eq_none_iff.mp label row member name⟩
    | some parts =>
      have isSome : (scenarioLabel.findOnLine? text).isSome = true := by rw [label]; rfl
      obtain ⟨name, first, rfl⟩ := first_label_iff.mp label
      obtain ⟨scenario, rest, explicit⟩ := List.exists_cons_of_ne_nil (agree.found.mp isSome)
      have same := agree.name isSome scenario (by rw [scenarios_of_explicit explicit]; rfl)
      rw [scenarioName_of_label label] at same
      exact .inr ⟨name, first_header_iff.mpr ⟨scenario, rest, explicit, same.symm⟩, first⟩
  · rintro (neither | ⟨name, header, label⟩)
    · have none := findOnLine?_eq_none_iff.mpr fun row member name => (neither row member name).2
      have none' := explicitScenarios_eq_nil_iff.mpr fun row member name => (neither row member name).1
      exact ⟨by simp [none, none'], by simp [none]⟩
    · obtain ⟨scenario, rest, explicit, same⟩ := first_header_iff.mp header
      have found := first_label_iff.mpr ⟨name, label, rfl⟩
      refine ⟨by simp [found, explicit], fun _ first listed => ?_⟩
      rw [scenarios_of_explicit explicit, List.head?_cons, Option.mem_some_iff] at listed
      rw [scenarioName_of_label found, ← listed, same]

/-- **The recognisers agree on a tidy text,** one in which whatever starts like a label is a header
with a name on its line. -/
theorem recognisersAgree_of_tidy {text : List Char}
    (tidy : ∀ row ∈ visibleRows text, ∀ tail, OpensLabel row tail →
      ∃ name, name ≠ [] ∧ HasHeader row name) (story : UserStory) :
    RecognisersAgree text story := by
  have alike : ∀ row ∈ visibleRows text, ∀ name, HasHeader row name ↔ HasLabel row name := by
    intro row member name
    constructor
    · intro header
      obtain ⟨tail, opens⟩ := header.opensLabel
      obtain ⟨own, nonempty, header'⟩ := tidy row member tail opens
      have same := (nameOfHeader?_lineOf_iff row name).mpr header
      rw [(nameOfHeader?_lineOf_iff row own).mpr header', Option.some.injEq] at same
      exact header.hasLabel (same ▸ nonempty)
    · intro label
      have ⟨tail, opens, _⟩ := label
      obtain ⟨own, nonempty, header⟩ := tidy row member tail opens
      have read := parts?_scenarioLabel_iff.mpr ⟨name, label, rfl⟩
      have read' := parts?_scenarioLabel_iff.mpr ⟨own, header.hasLabel nonempty, rfl⟩
      rw [read, Option.some.injEq, List.cons.injEq] at read'
      rwa [read'.1]
  refine (recognisersAgree_iff text story).mpr ?_
  cases label : scenarioLabel.findOnLine? text with
  | none =>
    have none := findOnLine?_eq_none_iff.mp label
    exact .inl fun row member name =>
      ⟨fun header => none row member name ((alike row member name).mp header), none row member name⟩
  | some parts =>
    obtain ⟨name, first, rfl⟩ := first_label_iff.mp label
    exact .inr ⟨name, first.imp fun row member own => (alike row member own).symm, first⟩

/-- **They never agree if the first header has no name on its line.** -/
theorem not_recognisersAgree_of_nameless {text : List Char}
    (nameless : First HasHeader (visibleRows text) []) (story : UserStory) :
    ¬ RecognisersAgree text story := by
  rw [recognisersAgree_iff]
  rintro (neither | ⟨name, header, label⟩)
  · obtain ⟨before, row, after, split, header, _⟩ := nameless
    exact (neither row (by rw [split]; simp) []).1 header
  · rw [← findSome?_eq_some_iff_first nameOfHeader?_lineOf_iff] at nameless header
    rw [nameless, Option.some.injEq] at header
    obtain ⟨_, _, _, _, here, _⟩ := label
    exact here.nonempty header.symm

/-- A header without a name on its line is named by the line below. -/
theorem name_from_next_line :
    scenarios "Scenario:\nGiven a filled cart\n".toList default =
        [⟨"", [⟨.given, "a filled cart", .setup⟩], .scenario⟩] ∧
      scenarioName "Scenario:\nGiven a filled cart\n".toList default = "Given a filled cart" ∧
      ¬ RecognisersAgree "Scenario:\nGiven a filled cart\n".toList default := by
  have found : (scenarioLabel.findOnLine? "Scenario:\nGiven a filled cart\n".toList).isSome =
      true := by decide +kernel
  have listed : scenarios "Scenario:\nGiven a filled cart\n".toList default =
      [⟨"", [⟨.given, "a filled cart", .setup⟩], .scenario⟩] := by decide +kernel
  have named : scenarioName "Scenario:\nGiven a filled cart\n".toList default =
      "Given a filled cart" := by decide +kernel
  refine ⟨listed, named, fun agree => ?_⟩
  have same := agree.name found _ (by rw [listed]; rfl)
  rw [named] at same
  exact absurd same (by decide)

end TestPlanner.Prose
