import TestPlanner.Proofs.Toml.Value

/-!
# Reading back TOML documents

A document of plain entries and sections is read back as what it was written from
(`parse?_document`), if its keys are bare and told apart and its values can be stored.

**Lines.** Every line of a document takes the draft of the tables one step further, and texts of
lines can be put behind each other (`Reads.trans`). The fuel of the reader of lines is spent line by
line while the text is used up character by character, so it always suffices for the text that is
left.

**Drafts.** The draft behind a section's header is empty, with the finished entries beside it. An
entry is added at the end of the draft, and the next header, or the end of the document, moves what
has been collected to the end of the finished entries. What is proved of sections therefore speaks
of a draft only through what closing it gives.
-/

set_option autoImplicit false

namespace TestPlanner.Toml

/-! ## Bare keys -/

/-- A key that is written without quotes. -/
def IsBare (key : String) : Prop :=
  key.toList ≠ [] ∧ ∀ c ∈ key.toList, isKeyChar c = true

theorem isBare_iff (key : String) :
    IsBare key ↔ (!key.toList.isEmpty && key.toList.all isKeyChar) = true := by
  rw [IsBare, Bool.and_eq_true, Bool.not_eq_true', List.isEmpty_eq_false_iff, List.all_eq_true]

instance (key : String) : Decidable (IsBare key) := decidable_of_iff' _ (isBare_iff key)

theorem keyChars_of_bare {key : String} (bare : IsBare key) : keyChars key = key.toList :=
  if_pos ((isBare_iff key).mp bare)

/-- The first character of a bare key is none that means something else. -/
theorem ne_of_isKeyChar {c d : Char} (char : isKeyChar c = true) (other : isKeyChar d = false) :
    c ≠ d := by
  rintro rfl
  exact absurd char (by rw [other]; exact Bool.false_ne_true)

theorem isSpace_of_isKeyChar {c : Char} (char : isKeyChar c = true) : isSpace c = false := by
  rw [isSpace, Bool.or_eq_false_iff, beq_eq_false_iff_ne, beq_eq_false_iff_ne]
  exact ⟨ne_of_isKeyChar char rfl, ne_of_isKeyChar char rfl⟩

theorem skipSpace_cons {c : Char} (other : isSpace c = false) (s : List Char) :
    skipSpace (c :: s) = c :: s :=
  List.dropWhile_cons_of_neg (by rw [other]; exact Bool.false_ne_true)

theorem exists_cons_of_bare {key : String} (bare : IsBare key) :
    ∃ c s, key.toList = c :: s ∧ isKeyChar c = true := by
  obtain ⟨c, s, shape⟩ := List.exists_cons_of_ne_nil bare.1
  exact ⟨c, s, shape, bare.2 c (by rw [shape]; exact List.mem_cons_self)⟩

theorem keyPart?_bare {key : String} (bare : IsBare key) {rest : List Char}
    (ends : ∀ c ∈ rest.head?, isKeyChar c = false) :
    keyPart? (key.toList ++ rest) = some (key.toList, rest) := by
  obtain ⟨taken, dropped⟩ := Text.cut_run bare.2 ends
  obtain ⟨c, s, shape, char⟩ := exists_cons_of_bare bare
  have quote : ∀ d r, isKeyChar d = false → key.toList ++ rest ≠ d :: r := by
    intro d r other same
    rw [shape] at same
    exact ne_of_isKeyChar char other (List.cons.inj same).1
  unfold keyPart?
  split
  next same => exact absurd same (quote _ _ rfl)
  next same => exact absurd same (quote _ _ rfl)
  next =>
    rw [taken, dropped]
    simp [bare.1]

/-- **A bare key is read with the spaces behind it,** and has no parts in front unless a dot
follows. -/
theorem dottedKey?_bare {key : String} (bare : IsBare key) {rest : List Char}
    (ends : ∀ c ∈ rest.head?, isKeyChar c = false) (single : ∀ r, skipSpace rest ≠ '.' :: r) :
    dottedKey? (key.toList ++ rest) = some ([], key, skipSpace rest) := by
  have visible : skipSpace (key.toList ++ rest) = key.toList ++ rest := by
    obtain ⟨c, s, shape, char⟩ := exists_cons_of_bare bare
    rw [shape, List.cons_append, skipSpace_cons (isSpace_of_isKeyChar char)]
  have part : key? nestingLimit (key.toList ++ rest) = some ([key], skipSpace rest) := by
    rw [nestingLimit, key?, visible, keyPart?_bare bare ends, Option.bind_eq_bind,
      Option.bind_some]
    dsimp only
    split
    next same => exact absurd same (single _)
    next =>
      rw [String.ofList_toList]
      rfl
  rw [dottedKey?, part]
  rfl

/-! ## Lines -/

/-- A text takes one draft to another: the lines behind it are read into the second, with enough
fuel left for them. -/
def Reads (d : Draft) (text : List Char) (d' : Draft) : Prop :=
  ∀ (fuel : Nat) (rest : List Char), (text ++ rest).length ≤ fuel →
    ∃ fuel', rest.length ≤ fuel' ∧ lines? fuel d (text ++ rest) = lines? fuel' d' rest

theorem Reads.nil (d : Draft) : Reads d [] d :=
  fun fuel _ enough => ⟨fuel, enough, rfl⟩

theorem Reads.trans {d d' d'' : Draft} {s t : List Char} (first : Reads d s d')
    (second : Reads d' t d'') : Reads d (s ++ t) d'' := by
  intro fuel rest enough
  rw [List.append_assoc] at enough ⊢
  obtain ⟨fuel', enough', same⟩ := first fuel (t ++ rest) enough
  obtain ⟨fuel'', enough'', same'⟩ := second fuel' rest enough'
  exact ⟨fuel'', enough'', same.trans same'⟩

theorem afterLine?_lineFeed (rest : List Char) : afterLine? ('\n' :: rest) = some rest := rfl

/-- A line that starts with a key or a bracket is not empty. -/
theorem afterLine?_of_starts {c : Char} (starts : StartsValue c) (s : List Char) :
    afterLine? (c :: s) = none := by
  obtain ⟨space, lineFeed, carriageReturn, comment, _⟩ := starts
  have rest : lineBreak? (c :: s) = none :=
    lineBreak?_of_head fun d first => by
      obtain rfl : c = d := Option.some.inj first
      exact ⟨lineFeed, carriageReturn⟩
  unfold afterLine?
  rw [skipSpace_cons space]
  split
  next same => exact absurd (List.cons.inj same).1 comment
  next => exact rest

theorem reads_lineFeed (d : Draft) : Reads d ['\n'] d := by
  intro fuel rest enough
  obtain ⟨fuel, rfl⟩ := Nat.exists_eq_add_one_of_ne_zero (show fuel ≠ 0 by
    rintro rfl
    exact absurd enough (by simp))
  refine ⟨fuel, ?_, ?_⟩
  · simpa using enough
  · rw [List.singleton_append, lines?, afterLine?_lineFeed]
    exact List.cons_ne_nil _ _

/-- A line with a statement is read into the draft that the statement makes. -/
theorem reads_statement {d d' : Draft} {c : Char} (starts : StartsValue c) {s : List Char}
    (statement : ∀ rest, statement? d (c :: s ++ rest) = some (d', rest)) :
    Reads d (c :: s) d' := by
  intro fuel rest enough
  obtain ⟨fuel, rfl⟩ := Nat.exists_eq_add_one_of_ne_zero (show fuel ≠ 0 by
    rintro rfl
    exact absurd enough (by simp))
  refine ⟨fuel, ?_, ?_⟩
  · simp only [List.cons_append, List.length_cons, List.length_append] at enough
    omega
  · rw [List.cons_append, lines?, afterLine?_of_starts starts, ← List.cons_append, statement]
    · rfl
    · exact List.cons_ne_nil _ _

theorem startsValue_of_isKeyChar {c : Char} (char : isKeyChar c = true) : StartsValue c :=
  ⟨isSpace_of_isKeyChar char, ne_of_isKeyChar char rfl, ne_of_isKeyChar char rfl,
    ne_of_isKeyChar char rfl, ne_of_isKeyChar char rfl⟩

/-- **An entry is read into the current table.** -/
theorem reads_entry {d d' : Draft} {key : String} {v : Toml} (bare : IsBare key)
    (storable : Storable nestingLimit v) (added : d.addValue [] key v = some d') :
    Reads d (entryChars (key, v)) d' := by
  obtain ⟨c, s, shape, char⟩ := exists_cons_of_bare bare
  obtain ⟨e, t, front, starts⟩ := valueChars_eq_cons storable
  have written : entryChars (key, v) =
      c :: (s ++ ' ' :: '=' :: ' ' :: (valueChars v ++ ['\n'])) := by
    rw [entryChars, keyChars_of_bare bare, shape]
    simp
  rw [written]
  refine reads_statement (startsValue_of_isKeyChar char) fun rest => ?_
  have text : c :: (s ++ ' ' :: '=' :: ' ' :: (valueChars v ++ ['\n'])) ++ rest =
      key.toList ++ ' ' :: '=' :: ' ' :: (valueChars v ++ '\n' :: rest) := by
    rw [shape]
    simp
  have name : dottedKey? (key.toList ++ ' ' :: '=' :: ' ' :: (valueChars v ++ '\n' :: rest)) =
      some ([], key, '=' :: ' ' :: (valueChars v ++ '\n' :: rest)) :=
    dottedKey?_bare bare (by
      rintro _ ⟨⟩
      rfl) (fun _ same => absurd (List.cons.inj same).1 (by decide))
  have visible : skipSpace (' ' :: (valueChars v ++ '\n' :: rest)) =
      valueChars v ++ '\n' :: rest := by
    rw [front]
    exact skipSpace_cons starts.1 _
  have value : value? (2 * (valueChars v ++ '\n' :: rest).length + 2) nestingLimit
      (valueChars v ++ '\n' :: rest) = some (v, '\n' :: rest) :=
    value?_valueChars storable _ _ (by rw [List.length_append]; omega)
      (endsValue_cons (.inl rfl) rest)
  rw [text]
  unfold statement?
  have start : skipSpace (key.toList ++ ' ' :: '=' :: ' ' :: (valueChars v ++ '\n' :: rest)) =
      key.toList ++ ' ' :: '=' :: ' ' :: (valueChars v ++ '\n' :: rest) := by
    rw [shape]
    exact skipSpace_cons (isSpace_of_isKeyChar char) _
  rw [start]
  split
  next same =>
    rw [shape] at same
    exact absurd (List.cons.inj same).1 (ne_of_isKeyChar char rfl)
  next same =>
    rw [shape] at same
    exact absurd (List.cons.inj same).1 (ne_of_isKeyChar char rfl)
  next =>
    rw [name]
    simp only [Option.bind_eq_bind, Option.bind_some, after?, beq_self_eq_true, if_true, visible,
      value, afterLine?_lineFeed, added]
    rfl

/-- **A header starts a table.** -/
theorem reads_header {d d' : Draft} {key : String} (bare : IsBare key)
    (started : d.startTable [key] = some d') :
    Reads d ('[' :: (key.toList ++ [']', '\n'])) d' := by
  obtain ⟨c, s, shape, char⟩ := exists_cons_of_bare bare
  refine reads_statement (by unfold StartsValue; decide) fun rest => ?_
  have text : '[' :: (key.toList ++ [']', '\n']) ++ rest =
      '[' :: (key.toList ++ ']' :: '\n' :: rest) := by simp
  have name : dottedKey? (key.toList ++ ']' :: '\n' :: rest) =
      some ([], key, ']' :: '\n' :: rest) :=
    dottedKey?_bare bare (by
      rintro _ ⟨⟩
      rfl) (fun _ same => absurd (List.cons.inj same).1 (by decide))
  rw [text]
  unfold statement?
  rw [skipSpace_cons rfl]
  split
  next same =>
    rw [shape] at same
    exact absurd (List.cons.inj (List.cons.inj same).2).1 (ne_of_isKeyChar char rfl)
  next same =>
    obtain rfl := (List.cons.inj same).2
    rw [name]
    simp only [Option.bind_eq_bind, Option.bind_some, after?, beq_self_eq_true, if_true,
      afterLine?_lineFeed, List.nil_append, started]
    rfl
  next other => exact absurd rfl (other _)

/-! ## Drafts -/

/-- A table that was made by a header, or the outermost one. -/
def Table.ofEntries (entries : List (String × Node)) : Table := ⟨false, false, entries⟩

/-- Plain entries under construction. -/
def plainNodes (entries : List (String × Toml)) : List (String × Node) :=
  entries.map fun e => (e.1, .value e.2)

theorem entriesToToml_append (entries others : List (String × Node)) :
    entriesToToml (entries ++ others) = entriesToToml entries ++ entriesToToml others := by
  induction entries with
  | nil => rfl
  | cons e entries ih =>
    rw [List.cons_append, entriesToToml, ih, entriesToToml, List.cons_append]

theorem entriesToToml_plainNodes (entries : List (String × Toml)) :
    entriesToToml (plainNodes entries) = entries := by
  induction entries with
  | nil => rfl
  | cons e entries ih =>
    rw [plainNodes, List.map_cons, entriesToToml, Node.toToml]
    exact congrArg _ ih

theorem get?_ofEntries {entries : List (String × Node)} {key : String}
    (absent : key ∉ entries.map Prod.fst) : (Table.ofEntries entries).get? key = none := by
  refine List.lookup_eq_none_iff.mpr fun e member => ?_
  rw [bne_iff_ne]
  rintro rfl
  exact absent (List.mem_map_of_mem member)

theorem set_ofEntries {entries : List (String × Node)} {key : String}
    (absent : key ∉ entries.map Prod.fst) (node : Node) :
    (Table.ofEntries entries).set key node = Table.ofEntries (entries ++ [(key, node)]) := by
  rw [Table.set, get?_ofEntries absent]
  rfl

/-- An entry with a new key comes last in the current table. -/
theorem addValue_ofEntries {d : Draft} {entries : List (String × Node)} {key : String}
    (absent : key ∉ entries.map Prod.fst) (v : Toml) :
    ({ d with current := .ofEntries entries } : Draft).addValue [] key v =
      some { d with current := .ofEntries (entries ++ [(key, .value v)]) } := by
  have added : (Table.ofEntries entries).addValue [] key v =
      some (Table.ofEntries (entries ++ [(key, .value v)])) := by
    rw [Table.addValue, Table.within, get?_ofEntries absent, set_ofEntries absent]
    rfl
  rw [Draft.addValue, added]
  rfl

/-- A header with a new key closes the current table and starts an empty one. -/
theorem startTable_of_close {d : Draft} {entries : List (String × Node)}
    (closed : d.close = some (.ofEntries entries)) {key : String}
    (absent : key ∉ entries.map Prod.fst) :
    d.startTable [key] = some ⟨.ofEntries entries, .ofEntries [], [key], false⟩ := by
  have found : Draft.lookup? (.ofEntries entries) [] key = some none := by
    rw [Draft.lookup?, Draft.lookup?.go, get?_ofEntries absent]
  simp only [Draft.startTable, List.getLast?_singleton, closed, Option.bind_eq_bind,
    Option.bind_some, List.dropLast_singleton, found]
  rfl

/-- A closed section comes last among the finished entries. -/
theorem close_section {entries : List (String × Node)} {key : String}
    (absent : key ∉ entries.map Prod.fst) (nodes : List (String × Node)) :
    (⟨.ofEntries entries, .ofEntries nodes, [key], false⟩ : Draft).close =
      some (.ofEntries (entries ++ [(key, .table false false nodes)])) := by
  simp only [Draft.close, List.getLast?_singleton, List.dropLast_singleton, Table.within,
    get?_ofEntries absent, set_ofEntries absent]
  rfl

/-! ## Flat tables -/

/-- The entries of a table that can be stored line by line. -/
structure Flat (entries : List (String × Toml)) : Prop where
  bare : ∀ e ∈ entries, IsBare e.1
  distinct : (entries.map Prod.fst).Nodup
  storable : ∀ e ∈ entries, Storable nestingLimit e.2

theorem isTable_of_storable {room : Nat} {v : Toml} (storable : Storable room v) :
    v.isTable = false := by
  cases storable <;> rfl

theorem Flat.filter_eq {entries : List (String × Toml)} (flat : Flat entries) :
    entries.filter (fun e => !e.2.isTable) = entries := by
  refine List.filter_eq_self.mpr fun e member => ?_
  rw [isTable_of_storable (flat.storable e member)]
  rfl

theorem Flat.plainChars_eq {entries : List (String × Toml)} (flat : Flat entries) :
    plainChars entries = entries.flatMap entryChars := by
  rw [plainChars, flat.filter_eq]

theorem Flat.tableChars_eq {entries : List (String × Toml)} (flat : Flat entries)
    (path : List Char) : tableChars path entries = [] := by
  have storable := flat.storable
  clear flat
  induction entries with
  | nil => rw [tableChars]
  | cons e entries ih =>
    rw [List.forall_mem_cons] at storable
    obtain ⟨key, v⟩ := e
    rw [tableChars, ih storable.2, List.append_nil]
    cases storable.1 <;> rw [sectionChars] <;> exact nofun

/-- Lines of entries are read into the current table in order. -/
theorem reads_entries {entries : List (String × Toml)} (bare : ∀ e ∈ entries, IsBare e.1)
    (storable : ∀ e ∈ entries, Storable nestingLimit e.2) (d : Draft)
    {nodes : List (String × Node)}
    (apart : (nodes.map Prod.fst ++ entries.map Prod.fst).Nodup) :
    Reads { d with current := .ofEntries nodes } (entries.flatMap entryChars)
      { d with current := .ofEntries (nodes ++ plainNodes entries) } := by
  induction entries generalizing nodes with
  | nil =>
    rw [plainNodes, List.map_nil, List.append_nil]
    exact Reads.nil _
  | cons e entries ih =>
    obtain ⟨key, v⟩ := e
    rw [List.forall_mem_cons] at bare storable
    have absent : key ∉ nodes.map Prod.fst := fun member =>
      (List.nodup_append.mp apart).2.2 key member key List.mem_cons_self rfl
    have apart' :
        ((nodes ++ [(key, Node.value v)]).map Prod.fst ++ entries.map Prod.fst).Nodup := by
      rw [List.map_append, List.append_assoc]
      exact apart
    have first := reads_entry bare.1 storable.1 (@addValue_ofEntries d nodes key absent v)
    have others := ih bare.2 storable.2 apart'
    rw [List.append_assoc] at others
    exact first.trans others

/-- The sections of a document: their names and entries. -/
abbrev Sections := List (String × List (String × Toml))

/-- The entries of sections. -/
def Sections.entries (sections : Sections) : List (String × Toml) :=
  sections.map fun e => (e.1, .table e.2)

/-- Finished sections. -/
def Sections.nodes (sections : Sections) : List (String × Node) :=
  sections.map fun e => (e.1, .table false false (plainNodes e.2))

theorem Sections.entriesToToml_nodes (sections : Sections) :
    entriesToToml sections.nodes = sections.entries := by
  induction sections with
  | nil => rfl
  | cons e sections ih =>
    rw [Sections.nodes, List.map_cons, entriesToToml, Node.toToml, entriesToToml_plainNodes]
    exact congrArg _ ih

/-- A section stands under its header, with an empty line in front. -/
theorem reads_section {d : Draft} {nodes : List (String × Node)}
    (closed : d.close = some (.ofEntries nodes)) {key : String} (bare : IsBare key)
    (absent : key ∉ nodes.map Prod.fst) {entries : List (String × Toml)} (flat : Flat entries) :
    ∃ d', Reads d (sectionChars [] key (.table entries)) d' ∧
      d'.close = some (.ofEntries (nodes ++ [(key, .table false false (plainNodes entries))])) := by
  refine ⟨⟨.ofEntries nodes, .ofEntries (plainNodes entries), [key], false⟩, ?_,
    close_section absent _⟩
  have written : sectionChars [] key (.table entries) =
      ['\n'] ++ (('[' :: (key.toList ++ [']', '\n'])) ++ entries.flatMap entryChars) := by
    rw [sectionChars, flat.tableChars_eq, flat.plainChars_eq, keyChars_of_bare bare]
    simp
  have body : Reads ⟨.ofEntries nodes, .ofEntries [], [key], false⟩ (entries.flatMap entryChars)
      ⟨.ofEntries nodes, .ofEntries (plainNodes entries), [key], false⟩ :=
    @reads_entries entries flat.bare flat.storable ⟨.ofEntries nodes, .ofEntries [], [key], false⟩
      [] flat.distinct
  have header := reads_header bare (startTable_of_close closed absent)
  rw [written]
  exact (reads_lineFeed d).trans (header.trans body)

theorem reads_sections {sections : Sections} (bare : ∀ e ∈ sections, IsBare e.1)
    (flat : ∀ e ∈ sections, Flat e.2) {d : Draft} {nodes : List (String × Node)}
    (closed : d.close = some (.ofEntries nodes))
    (apart : (nodes.map Prod.fst ++ sections.map Prod.fst).Nodup) :
    ∃ d', Reads d (tableChars [] sections.entries) d' ∧
      d'.close = some (.ofEntries (nodes ++ sections.nodes)) := by
  induction sections generalizing d nodes with
  | nil =>
    refine ⟨d, ?_, ?_⟩
    · rw [Sections.entries, List.map_nil, tableChars]
      exact Reads.nil d
    · rw [Sections.nodes, List.map_nil, List.append_nil, closed]
  | cons e sections ih =>
    obtain ⟨key, entries⟩ := e
    rw [List.forall_mem_cons] at bare flat
    have absent : key ∉ nodes.map Prod.fst := fun member =>
      (List.nodup_append.mp apart).2.2 key member key List.mem_cons_self rfl
    obtain ⟨d', first, closed'⟩ := reads_section closed bare.1 absent flat.1
    obtain ⟨d'', others, closed''⟩ := ih bare.2 flat.2 closed' (by
      rw [List.map_append, List.append_assoc]
      exact apart)
    refine ⟨d'', ?_, ?_⟩
    · rw [Sections.entries, List.map_cons, tableChars]
      exact first.trans others
    · rw [closed'', List.append_assoc]
      rfl

/-! ## Documents -/

theorem tableChars_append (path : List Char) (entries others : List (String × Toml)) :
    tableChars path (entries ++ others) = tableChars path entries ++ tableChars path others := by
  induction entries with
  | nil => rw [tableChars, List.nil_append, List.nil_append]
  | cons e entries ih => rw [List.cons_append, tableChars, tableChars, ih, List.append_assoc]

theorem plainChars_sections (sections : Sections) : plainChars sections.entries = [] := by
  have none : sections.entries.filter (fun e => !e.2.isTable) = [] := by
    refine List.filter_eq_nil_iff.mpr fun e member => ?_
    obtain ⟨_, _, rfl⟩ := List.mem_map.mp member
    exact Bool.false_ne_true
  rw [plainChars, none, List.flatMap_nil]

theorem document_toList {entries : List (String × Toml)} (flat : Flat entries)
    (sections : Sections) : (document (entries ++ sections.entries)).toList =
      entries.flatMap entryChars ++ tableChars [] sections.entries := by
  have plain : plainChars (entries ++ sections.entries) = entries.flatMap entryChars := by
    rw [plainChars, List.filter_append, List.flatMap_append, ← plainChars, ← plainChars,
      flat.plainChars_eq, plainChars_sections, List.append_nil]
  rw [document, String.toList_ofList, plain, tableChars_append, flat.tableChars_eq,
    List.nil_append]

/-- A document starts with a key or an empty line, so no mark is taken off its front. -/
theorem head?_document_ne {entries : List (String × Toml)} (flat : Flat entries)
    (sections : Sections) :
    ∀ c ∈ (document (entries ++ sections.entries)).toList.head?, c ≠ byteOrderMark := by
  rw [document_toList flat]
  intro d first
  match entries, sections with
  | [], [] => exact absurd first (by simp [Sections.entries, tableChars])
  | [], (key, lines) :: sections =>
    obtain ⟨s, empty⟩ : ∃ s, tableChars [] (Sections.entries ((key, lines) :: sections)) =
        '\n' :: s := by
      rw [Sections.entries, List.map_cons, tableChars, sectionChars]
      exact ⟨_, rfl⟩
    rw [List.flatMap_nil, List.nil_append, empty] at first
    obtain rfl := Option.some.inj first
    decide
  | (key, v) :: entries, _ =>
    have bare : IsBare key := flat.bare _ List.mem_cons_self
    obtain ⟨c, s, shape, char⟩ := exists_cons_of_bare bare
    rw [List.flatMap_cons, entryChars, keyChars_of_bare bare, shape] at first
    obtain rfl : c = d := Option.some.inj first
    exact ne_of_isKeyChar char (by decide)

/-- **A document is read back** as the plain entries and the sections that it was written from. -/
theorem parse?_document {entries : List (String × Toml)} (flat : Flat entries)
    {sections : Sections} (bare : ∀ e ∈ sections, IsBare e.1) (flats : ∀ e ∈ sections, Flat e.2)
    (apart : (entries.map Prod.fst ++ sections.map Prod.fst).Nodup) :
    parse? (document (entries ++ sections.entries)) = some (entries ++ sections.entries) := by
  have first : Reads .empty (entries.flatMap entryChars)
      ⟨.empty, .ofEntries (plainNodes entries), [], false⟩ :=
    @reads_entries entries flat.bare flat.storable .empty [] flat.distinct
  have names : (plainNodes entries).map Prod.fst = entries.map Prod.fst := by
    rw [plainNodes, List.map_map]
    rfl
  obtain ⟨d, second, closed⟩ := reads_sections bare flats
    (d := ⟨.empty, .ofEntries (plainNodes entries), [], false⟩) rfl (by rw [names]; exact apart)
  have whole : Reads .empty (document (entries ++ sections.entries)).toList d := by
    rw [document_toList flat]
    exact first.trans second
  have read : ∀ s : List Char, Reads .empty s d → lines? s.length .empty s = some d := by
    intro s reads
    obtain ⟨fuel, _, same⟩ := reads s.length [] (Nat.le_of_eq (by rw [List.append_nil]))
    rw [List.append_nil] at same
    rw [same, lines?]
  have unmarked := head?_document_ne flat sections
  have finished : d.finish = some (entries ++ sections.entries) := by
    rw [Draft.finish, closed, Option.map_some]
    simp only [Table.ofEntries, entriesToToml_append, entriesToToml_plainNodes,
      Sections.entriesToToml_nodes]
  unfold parse?
  generalize (document (entries ++ sections.entries)).toList = s at whole unmarked
  match s with
  | [] => exact (congrArg (Option.bind · Draft.finish) (read [] whole)).trans finished
  | c :: s =>
    have other : (c == byteOrderMark) = false := beq_eq_false_iff_ne.mpr (unmarked c rfl)
    simp only [other, Bool.false_eq_true, if_false]
    exact (congrArg (Option.bind · Draft.finish) (read (c :: s) whole)).trans finished

end TestPlanner.Toml
