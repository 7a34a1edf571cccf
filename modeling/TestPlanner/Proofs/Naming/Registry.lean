import TestPlanner.Proofs.FirstOccurrence
import TestPlanner.Proofs.Naming.FreeName
import Mathlib.Data.List.Nodup

/-!
# Runs of the registry

A registry is asked for the names of selectors, one after the other. A request either finds the name
that its selector has, and changes nothing, or it gives the first free name to a new selector and
puts it at the end of the list (`resolve_cases`). Everything else follows from these two cases.

**Coherence.** No selector is listed twice, no two names agree in lower case, and every name is an
identifier (`Coherent`). The empty registry is coherent, and requests keep it so.

**Runs.** The laws of a whole run on a fresh registry are collected in `Laws`: a selector has one
name throughout, different selectors are told apart in lower case, the locators are the selectors in
the order of their first requests, earlier ones stay as they are, and a new selector gets the first
free name for its label. Every run obeys them (`laws_of_fresh`).
-/

set_option autoImplicit false

namespace TestPlanner.Registry

open Text

/-- A request to name a selector, with the label that it was found under. -/
structure Query where
  selector : String
  label : String
  deriving DecidableEq, Repr

/-- The registry after requests, in order. -/
def after (r : Registry) (queries : List Query) : Registry :=
  queries.foldl (fun r q => (r.resolve q.selector q.label).2) r

/-- The names given to requests, in order. -/
def names (r : Registry) : List Query → List String
  | [] => []
  | q :: queries =>
    (r.resolve q.selector q.label).1 :: names (r.resolve q.selector q.label).2 queries

/-- The selectors named so far, in order of first request. -/
def selectors (r : Registry) : List String := r.entries.map Prod.fst

/-! ## One request -/

/-- **What a request does.** It finds the name of its selector, or gives the first free one to a
selector without a name. -/
theorem resolve_cases (r : Registry) (selector label : String) :
    (∃ name, r.get? selector = some name ∧ r.resolve selector label = (name, r)) ∨
    (r.get? selector = none ∧ ∃ name, IsFirstFree r.taken (Naming.identifier label) name ∧
      r.resolve selector label = (name, ⟨r.entries ++ [(selector, name)]⟩)) := by
  unfold resolve
  cases found : r.get? selector with
  | some name => exact .inl ⟨name, rfl, rfl⟩
  | none => exact .inr ⟨rfl, _, freeName_isFirstFree _ _, rfl⟩

theorem get?_eq_none_iff {r : Registry} {selector : String} :
    r.get? selector = none ↔ selector ∉ r.selectors := by
  simp only [get?, List.lookup_eq_none_iff, selectors, List.mem_map, not_exists, not_and,
    bne_iff_ne, ne_eq]
  constructor
  · intro absent entry member same
    exact absent entry member same.symm
  · intro absent entry member same
    exact absent entry member same.symm

/-- A name that is found is listed with its selector. -/
theorem mem_entries_of_get? {r : Registry} {selector name : String}
    (found : r.get? selector = some name) : (selector, name) ∈ r.entries := by
  obtain ⟨earlier, later, split, _⟩ := List.lookup_eq_some_iff.mp found
  rw [split]
  exact List.mem_append_right _ List.mem_cons_self

theorem mem_selectors_of_get? {r : Registry} {selector name : String}
    (found : r.get? selector = some name) : selector ∈ r.selectors :=
  List.mem_map_of_mem (mem_entries_of_get? found)

/-- The name of a selector stays when entries are added. -/
theorem get?_append {r : Registry} {selector name : String} (entries : List (String × String))
    (found : r.get? selector = some name) :
    get? ⟨r.entries ++ entries⟩ selector = some name := by
  simp only [get?] at found ⊢
  rw [List.lookup_append, found, Option.some_or]

/-- A request is answered by the name that its selector has from then on. -/
theorem get?_resolve (r : Registry) (selector label : String) :
    (r.resolve selector label).2.get? selector = some (r.resolve selector label).1 := by
  obtain ⟨name, found, step⟩ | ⟨absent, name, _, step⟩ := r.resolve_cases selector label
  · rw [step]
    exact found
  · rw [step]
    simp only [get?] at absent ⊢
    rw [List.lookup_append, absent, Option.none_or, List.lookup_cons_self]

/-- A request only adds to the end of the list. -/
theorem entries_prefix_resolve (r : Registry) (selector label : String) :
    r.entries <+: (r.resolve selector label).2.entries := by
  obtain ⟨name, _, step⟩ | ⟨_, name, _, step⟩ := r.resolve_cases selector label
  · simp only [step, List.prefix_refl]
  · simp only [step, List.prefix_append]

/-- The selectors after a request: a new one comes last. -/
theorem selectors_resolve (r : Registry) (selector label : String) :
    (r.resolve selector label).2.selectors =
      if selector ∈ r.selectors then r.selectors else r.selectors ++ [selector] := by
  obtain ⟨name, found, step⟩ | ⟨absent, name, _, step⟩ := r.resolve_cases selector label
  · rw [step, if_pos (mem_selectors_of_get? found)]
  · rw [step, if_neg (get?_eq_none_iff.mp absent)]
    simp only [selectors, List.map_append, List.map_cons, List.map_nil]

/-! ## Coherent registries -/

/-- A registry in which no selector is listed twice, no two names agree in lower case, and all names
are identifiers. -/
structure Coherent (r : Registry) : Prop where
  selectors_nodup : r.selectors.Nodup
  taken_nodup : r.taken.Nodup
  identifiers : ∀ entry ∈ r.entries, Naming.isIdentifier entry.2 = true

theorem coherent_empty : Coherent .empty :=
  ⟨List.nodup_nil, List.nodup_nil, fun _ member => absurd member List.not_mem_nil⟩

/-- **A request keeps a registry coherent.** -/
theorem Coherent.resolve {r : Registry} (coherent : r.Coherent) (selector label : String) :
    (r.resolve selector label).2.Coherent := by
  obtain ⟨name, _, step⟩ | ⟨absent, name, first, step⟩ := r.resolve_cases selector label
  · rw [step]
    exact coherent
  · rw [step]
    refine ⟨?_, ?_, ?_⟩
    · simp only [selectors, List.map_append, List.map_cons, List.map_nil]
      refine List.nodup_append.mpr ⟨coherent.selectors_nodup, by simp, ?_⟩
      intro other listed new same
      rw [List.mem_singleton] at same
      rintro rfl
      exact get?_eq_none_iff.mp absent (same ▸ listed)
    · simp only [taken, List.map_append, List.map_cons, List.map_nil]
      refine List.nodup_append.mpr ⟨coherent.taken_nodup, by simp, ?_⟩
      intro form listed new same
      rw [List.mem_singleton] at same
      rintro rfl
      exact first.not_mem (same ▸ listed)
    · intro entry member
      rcases List.mem_append.mp member with old | new
      · exact coherent.identifiers entry old
      · rw [List.mem_singleton.mp new]
        exact first.isIdentifier (Naming.isIdentifier_identifier label)

/-- Two selectors of a coherent registry whose names agree in lower case are one. -/
theorem Coherent.selector_eq {r : Registry} (coherent : r.Coherent)
    {selector₁ selector₂ name₁ name₂ : String} (found₁ : r.get? selector₁ = some name₁)
    (found₂ : r.get? selector₂ = some name₂) (same : lowered name₁ = lowered name₂) :
    selector₁ = selector₂ :=
  congrArg Prod.fst (List.inj_on_of_nodup_map coherent.taken_nodup
    (mem_entries_of_get? found₁) (mem_entries_of_get? found₂) same)

/-- In a coherent registry every entry is found. -/
theorem Coherent.get?_of_mem {r : Registry} (coherent : r.Coherent) {entry : String × String}
    (member : entry ∈ r.entries) : r.get? entry.1 = some entry.2 := by
  cases found : r.get? entry.1 with
  | none => exact absurd (List.mem_map_of_mem member) (get?_eq_none_iff.mp found)
  | some name =>
    have same := List.inj_on_of_nodup_map coherent.selectors_nodup
      (mem_entries_of_get? found) member rfl
    rw [← same]

/-- In a coherent registry a selector with a name has one locator, of that name. -/
theorem Coherent.locators_of_get? {r : Registry} (coherent : r.Coherent) {selector name : String}
    (found : r.get? selector = some name) :
    r.locators.filter (fun l => l.selector == selector) = [⟨name, selector, none, none⟩] := by
  have selectors : r.locators.map Locator.selector = r.selectors := by
    rw [locators, List.map_map]
    rfl
  have own : (⟨name, selector, none, none⟩ : Locator) ∈ r.locators :=
    List.mem_map.mpr ⟨_, mem_entries_of_get? found, rfl⟩
  obtain ⟨l, only⟩ := exists_filter_eq_singleton (selectors ▸ coherent.selectors_nodup)
    (List.mem_map_of_mem own)
  have kept : ⟨name, selector, none, none⟩ ∈ r.locators.filter fun l => l.selector == selector :=
    List.mem_filter.mpr ⟨own, beq_self_eq_true selector⟩
  rw [only] at kept
  exact (List.mem_singleton.mp kept) ▸ only

/-! ## Runs -/

theorem after_append (r : Registry) (queries more : List Query) :
    r.after (queries ++ more) = (r.after queries).after more :=
  List.foldl_append

theorem after_cons (r : Registry) (q : Query) (queries : List Query) :
    r.after (q :: queries) = (r.resolve q.selector q.label).2.after queries := rfl

theorem length_names (r : Registry) (queries : List Query) :
    (r.names queries).length = queries.length := by
  induction queries generalizing r with
  | nil => rfl
  | cons q queries ih => simp only [names, List.length_cons, ih]

/-- The answers to later requests come behind those to earlier ones. -/
theorem names_append (r : Registry) (queries more : List Query) :
    r.names (queries ++ more) = r.names queries ++ (r.after queries).names more := by
  induction queries generalizing r with
  | nil => rfl
  | cons q queries ih => rw [List.cons_append, names, ih, names, List.cons_append, after_cons]

/-- A run keeps a registry coherent. -/
theorem Coherent.after {r : Registry} (coherent : r.Coherent) (queries : List Query) :
    (r.after queries).Coherent := by
  induction queries generalizing r with
  | nil => exact coherent
  | cons q queries ih => exact ih (coherent.resolve q.selector q.label)

/-- A run only adds to the end of the list. -/
theorem entries_prefix_after (r : Registry) (queries : List Query) :
    r.entries <+: (r.after queries).entries := by
  induction queries generalizing r with
  | nil => exact List.prefix_refl _
  | cons q queries ih => exact (r.entries_prefix_resolve q.selector q.label).trans (ih _)

/-- The name of a selector stays through a request. -/
theorem get?_resolve_of_get? {r : Registry} {selector name : String} (other label : String)
    (found : r.get? selector = some name) :
    (r.resolve other label).2.get? selector = some name := by
  obtain ⟨added, split⟩ := r.entries_prefix_resolve other label
  have kept := get?_append added found
  rwa [split] at kept

/-- The name of a selector stays through a run. -/
theorem get?_after_of_get? {r : Registry} {selector name : String} (queries : List Query)
    (found : r.get? selector = some name) : (r.after queries).get? selector = some name := by
  induction queries generalizing r with
  | nil => exact found
  | cons q queries ih => exact ih (get?_resolve_of_get? q.selector q.label found)

/-- **The answer to a request is the name that its selector has at the end of the run.** -/
theorem get?_after_of_mem_zip (r : Registry) (queries : List Query) :
    ∀ a ∈ queries.zip (r.names queries), (r.after queries).get? a.1.selector = some a.2 := by
  induction queries generalizing r with
  | nil => exact fun _ member => absurd member List.not_mem_nil
  | cons q queries ih =>
    intro a member
    rw [names, List.zip_cons_cons] at member
    rcases List.mem_cons.mp member with rfl | later
    · exact get?_after_of_get? queries (r.get?_resolve q.selector q.label)
    · exact ih _ a later

/-- The names in the list after a run are the old ones and the answers. -/
theorem mem_names_after (r : Registry) (queries : List Query) (name : String) :
    name ∈ (r.after queries).entries.map Prod.snd ↔
      name ∈ r.entries.map Prod.snd ∨ name ∈ r.names queries := by
  induction queries generalizing r with
  | nil => simp only [after, List.foldl_nil, names, List.not_mem_nil, or_false]
  | cons q queries ih =>
    rw [after_cons, ih, names, List.mem_cons, ← or_assoc]
    refine or_congr_left ?_
    obtain ⟨known, found, step⟩ | ⟨_, new, _, step⟩ := r.resolve_cases q.selector q.label
    · rw [step]
      have listed : known ∈ r.entries.map Prod.snd :=
        List.mem_map_of_mem (mem_entries_of_get? found)
      constructor
      · exact .inl
      · rintro (old | rfl)
        · exact old
        · exact listed
    · rw [step]
      simp only [List.map_append, List.map_cons, List.map_nil, List.mem_append,
        List.mem_singleton]

/-- The selectors after a run on a fresh registry are those of the requests, each once, in the order
of their first requests. -/
theorem selectors_after_empty (queries : List Query) :
    (empty.after queries).selectors = (queries.map Query.selector).eraseDups := by
  induction queries using List.reverseRecOn with
  | nil => rfl
  | append_singleton queries q ih =>
    rw [after_append, after_cons]
    change ((empty.after queries).resolve q.selector q.label).2.selectors = _
    rw [selectors_resolve, ih, List.map_append, List.map_cons, List.map_nil, eraseDups_concat]
    simp only [List.mem_eraseDups]

/-- After a run on a fresh registry, a selector that was not asked for has no name. -/
theorem get?_after_eq_none {queries : List Query} {selector : String}
    (missing : selector ∉ queries.map Query.selector) :
    (empty.after queries).get? selector = none := by
  rw [get?_eq_none_iff, selectors_after_empty, List.mem_eraseDups]
  exact missing

/-- After a run on a fresh registry, the taken forms are those of the answers. -/
theorem mem_taken_after_empty (queries : List Query) (form : String) :
    form ∈ (empty.after queries).taken ↔ form ∈ (empty.names queries).map lowered := by
  have split : (empty.after queries).taken =
      ((empty.after queries).entries.map Prod.snd).map lowered := by
    rw [taken, List.map_map]
    rfl
  rw [split, List.mem_map, List.mem_map]
  refine exists_congr fun name => and_congr_left fun _ => ?_
  rw [mem_names_after]
  simp only [empty, List.map_nil, List.not_mem_nil, false_or]

/-- The names in the list after a run on a fresh registry are those of the answers, each once, in the
order in which they were first given. -/
theorem names_after_empty (queries : List Query) :
    (empty.after queries).entries.map Prod.snd = (empty.names queries).eraseDups := by
  induction queries using List.reverseRecOn with
  | nil => rfl
  | append_singleton queries q ih =>
    rw [after_append, after_cons, names_append, names, names, eraseDups_concat]
    change ((empty.after queries).resolve q.selector q.label).2.entries.map Prod.snd = _
    obtain ⟨name, found, step⟩ | ⟨_, name, first, step⟩ :=
      (empty.after queries).resolve_cases q.selector q.label
    · have given : name ∈ empty.names queries := by
        rw [← List.mem_eraseDups, ← ih]
        exact List.mem_map_of_mem (mem_entries_of_get? found)
      rw [step, if_pos given, ih]
    · have new : name ∉ empty.names queries := by
        intro given
        exact first.not_mem ((mem_taken_after_empty queries _).mpr (List.mem_map_of_mem given))
      rw [step, if_neg new, List.map_append, ih, List.map_singleton]

/-- The answer to the first request for a selector is the first name that is free of the answers
before it. -/
theorem answer_of_new {earlier : List Query} {q : Query} (later : List Query)
    (missing : q.selector ∉ earlier.map Query.selector) :
    ∃ name, (empty.names (earlier ++ q :: later))[earlier.length]? = some name ∧
      IsFirstFree (((empty.names (earlier ++ q :: later)).take earlier.length).map lowered)
        (Naming.identifier q.label) name := by
  have front := length_names empty earlier
  rw [names_append, names, List.getElem?_append_right (Nat.le_of_eq front), front, Nat.sub_self,
    List.take_left' front]
  refine ⟨_, rfl, ?_⟩
  obtain ⟨name, known, _⟩ | ⟨_, name, first, step⟩ :=
    (empty.after earlier).resolve_cases q.selector q.label
  · rw [get?_after_eq_none missing] at known
    cases known
  · rw [step]
    exact first.congr (mem_taken_after_empty earlier)

/-- A name in the list after a run on a fresh registry is a first free one for a label under which
its selector was asked for. -/
theorem exists_query_of_mem_entries (queries : List Query) :
    ∀ entry ∈ (empty.after queries).entries, ∃ q ∈ queries, q.selector = entry.1 ∧
      ∃ taken, IsFirstFree taken (Naming.identifier q.label) entry.2 := by
  induction queries using List.reverseRecOn with
  | nil => exact fun _ member => absurd member List.not_mem_nil
  | append_singleton queries q ih =>
    have old : ∀ entry ∈ (empty.after queries).entries, ∃ p ∈ queries ++ [q],
        p.selector = entry.1 ∧ ∃ taken, IsFirstFree taken (Naming.identifier p.label) entry.2 := by
      intro entry listed
      obtain ⟨p, asked, given⟩ := ih entry listed
      exact ⟨p, List.mem_append_left _ asked, given⟩
    intro entry member
    rw [after_append, after_cons] at member
    change entry ∈ ((empty.after queries).resolve q.selector q.label).2.entries at member
    obtain ⟨_, _, step⟩ | ⟨_, name, first, step⟩ :=
      (empty.after queries).resolve_cases q.selector q.label
    · rw [step] at member
      exact old entry member
    · rw [step] at member
      rcases List.mem_append.mp member with listed | new
      · exact old entry listed
      · rw [List.mem_singleton.mp new]
        exact ⟨q, List.mem_append_right _ List.mem_cons_self, rfl, _, first⟩

/-- A name without a digit at its end is the identifier of a label of its selector. -/
theorem exists_label_of_word {queries : List Query} {entry : String × String}
    (listed : entry ∈ (empty.after queries).entries)
    (word : ∀ c ∈ entry.2.toList.getLast?, c.isDigit = false) :
    ∃ q ∈ queries, q.selector = entry.1 ∧ Naming.identifier q.label = entry.2 := by
  obtain ⟨q, asked, same, _, first⟩ := exists_query_of_mem_entries queries entry listed
  exact ⟨q, asked, same, first.eq_base word⟩

/-! ## The laws of a run -/

/-- The laws of a run: the requests, the names they were given, and the registry at the end. -/
structure Laws (queries : List Query) (names : List String) (r : Registry) : Prop where
  /-- Every request is given a name. -/
  answered : names.length = queries.length
  /-- A selector is always given the same name, whatever its labels. -/
  settled : ∀ a ∈ queries.zip names, ∀ b ∈ queries.zip names,
    a.1.selector = b.1.selector → a.2 = b.2
  /-- The names of two selectors do not agree in lower case. -/
  apart : ∀ a ∈ queries.zip names, ∀ b ∈ queries.zip names,
    a.1.selector ≠ b.1.selector → lowered a.2 ≠ lowered b.2
  /-- The locators are those of the selectors, each once, in the order of the first requests. -/
  listed : r.locators.map Locator.selector = (queries.map Query.selector).eraseDups
  /-- A locator has the name of its selector and nothing else. -/
  recorded : ∀ l ∈ r.locators, r.get? l.selector = some l.name ∧ l.kind = none ∧
    l.confidence = none
  /-- Later requests leave the locators as they are and add theirs behind. -/
  kept : ∀ more, r.locators <+: (r.after more).locators
  /-- The name of a selector is the one that its requests were given. -/
  found : ∀ a ∈ queries.zip names, r.get? a.1.selector = some a.2
  /-- Other selectors have no name. -/
  unseen : ∀ selector, selector ∉ queries.map Query.selector → r.get? selector = none
  /-- There are as many names as selectors. -/
  counted : r.size = (queries.map Query.selector).eraseDups.length
  /-- A selector that was not asked for before is given the first name for its label that is free of
  all names given before. -/
  first : ∀ earlier q later, queries = earlier ++ q :: later →
    q.selector ∉ earlier.map Query.selector → ∃ name, names[earlier.length]? = some name ∧
      IsFirstFree ((names.take earlier.length).map lowered) (Naming.identifier q.label) name
  /-- Every name is an identifier. -/
  identifiers : ∀ name ∈ names, Naming.isIdentifier name = true

/-- **Every run on a fresh registry obeys the laws.** -/
theorem laws_of_fresh (queries : List Query) :
    Laws queries (empty.names queries) (empty.after queries) := by
  have coherent : (empty.after queries).Coherent := coherent_empty.after queries
  have found := empty.get?_after_of_mem_zip queries
  have selectors := selectors_after_empty queries
  refine
    { answered := length_names empty queries
      settled := ?settled
      apart := ?apart
      listed := ?listed
      recorded := ?recorded
      kept := ?kept
      found := found
      unseen := fun selector missing => get?_after_eq_none missing
      counted := ?counted
      first := ?first
      identifiers := ?identifiers }
  case settled =>
    intro a memberA b memberB same
    have foundA := found a memberA
    rw [same, found b memberB] at foundA
    exact (Option.some.inj foundA).symm
  case apart =>
    intro a memberA b memberB different agree
    exact different (coherent.selector_eq (found a memberA) (found b memberB) agree)
  case listed =>
    rw [← selectors, locators, List.map_map]
    rfl
  case recorded =>
    intro l member
    obtain ⟨entry, listed, rfl⟩ := List.mem_map.mp member
    exact ⟨coherent.get?_of_mem listed, rfl, rfl⟩
  case kept =>
    intro more
    exact ((empty.after queries).entries_prefix_after more).map _
  case counted =>
    rw [← selectors, Registry.selectors, List.length_map, size]
  case first =>
    rintro earlier q later rfl missing
    exact answer_of_new later missing
  case identifiers =>
    intro name member
    obtain ⟨entry, listed, rfl⟩ :=
      List.mem_map.mp ((mem_names_after empty queries name).mpr (.inr member))
    exact coherent.identifiers entry listed

end TestPlanner.Registry
