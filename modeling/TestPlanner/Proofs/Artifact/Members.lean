import TestPlanner.Proofs.Artifact.PageObject
import TestPlanner.Proofs.Plan.Produced

/-!
# Members of the page object

Besides one property for each locator, a page object has two members of its own: the property
`page`, which keeps the page that the constructor is given, and the method `goto`, which opens an
address on that page. The constructor assigns `page` first and the locators behind it. The last
assignment to a property counts, and a property hides a method of its name, so a locator that is
called like one of the two members takes its place.

**What holds.** The page object of a produced plan keeps a member exactly if no locator is called
like it (`members_kept_iff`). No name from prose is: those are the names of the keyword table and
numbered ones. Otherwise a locator that is called like a member has the identifier of a label it was
found under, since names with a number behind the identifier end in a digit.

**Control.** Labels with these identifiers are nothing special. In `members_lost`, a link `Page` and
a button `Go to` are clicked, and the page object loses both members.
-/

set_option autoImplicit false

namespace TestPlanner

open Text Recording Screenshot

/-! ## Selectors without line feeds -/

theorem unbroken_literal (s : String) : Unbroken (Quoted.literal s) := by
  simp only [Quoted.literal, unbroken_append, unbroken_escaped]
  decide

namespace Selector

theorem unbroken_call {method : String} (own : Unbroken method) (argument : String) :
    Unbroken (call method argument) := by
  simp only [call, unbroken_append, unbroken_literal, own]
  decide

theorem unbroken_role (role name : String) : Unbroken (Selector.role role name) := by
  simp only [Selector.role, unbroken_append, unbroken_literal]
  decide

/-- What follows a word belongs to the text. -/
theorem suffix_of_after? {word s rest : List Char} (found : after? word s = some rest) :
    rest <:+ s := by
  rw [after?_eq_some_iff.mp found]
  exact List.suffix_append word rest

theorem mem_of_mem_unqualified {s : List Char} {c : Char} (member : c ∈ unqualified s) :
    c ∈ s := by
  unfold unqualified at member
  dsimp only at member
  cases found : after? qualifier (trim s) with
  | none =>
    rw [found] at member
    exact mem_of_mem_trim member
  | some rest =>
    rw [found] at member
    exact mem_of_mem_trim ((suffix_of_after? found).subset member)

/-- The normal form of a selector without line feeds has none. -/
theorem unbroken_normalize {selector : String} (unbroken : Unbroken selector) :
    Unbroken (normalize selector) := by
  unfold normalize
  dsimp only
  split
  next =>
    rw [Unbroken, String.toList_ofList]
    exact mt mem_of_mem_unqualified unbroken
  next =>
    split
    next => exact unbroken_call (by decide) _
    next => exact unbroken_call (by decide) _

end Selector

/-! ## Locators that a page object can hold -/

theorem isScriptName_of_isIdentifier {name : String} (valid : Naming.isIdentifier name = true) :
    isScriptName name = true := by
  rw [Naming.isIdentifier] at valid
  rw [isScriptName]
  cases chars : name.toList with
  | nil =>
    rw [chars] at valid
    cases valid
  | cons c rest =>
    rw [chars, Naming.isIdentifierChars, Bool.and_eq_true] at valid
    obtain ⟨small, others⟩ := valid
    have letter : isAsciiLetter c = true := by rw [isAsciiLetter, small, Bool.or_true]
    have notDigit : isAsciiDigit c = false :=
      Naming.of_ascii (P := fun c => isAsciiLower c = true → isAsciiDigit c = false)
        (by decide +kernel) (Naming.toNat_lt_of_isAsciiLetter letter) small
    have own : ∀ d ∈ c :: rest, isNameChar d = true := by
      intro d member
      rcases List.mem_cons.mp member with rfl | later
      · rw [isNameChar, isAsciiAlphanumeric, letter, Bool.true_or, Bool.true_or, Bool.true_or]
      · rw [isNameChar, List.all_eq_true.mp others d later, Bool.true_or, Bool.true_or]
    simp only [notDigit, Bool.not_false, Bool.true_and]
    exact List.all_eq_true.mpr own

/-- A locator that a page object can assign on a line of its own. -/
def Locator.Assignable (l : Locator) : Prop :=
  Naming.isIdentifier l.name = true ∧ Unbroken l.selector

instance (l : Locator) : Decidable l.Assignable :=
  inferInstanceAs (Decidable (_ ∧ _))

namespace Locator.Assignable

variable {l : Locator}

theorem isScriptName (assignable : l.Assignable) : isScriptName l.name = true :=
  isScriptName_of_isIdentifier assignable.1

theorem unbroken (assignable : l.Assignable) : Unbroken l.name ∧ Unbroken l.selector := by
  refine ⟨fun feed => ?_, assignable.2⟩
  exact absurd (nameChars_of_isScriptName assignable.isScriptName '\n' feed) (by decide)

end Locator.Assignable

/-- A run of requests leads to assignable locators if the selectors have no line feeds. -/
theorem Registry.assignable_after {queries : List Query}
    (unbroken : ∀ q ∈ queries, Unbroken q.selector) :
    ∀ l ∈ (empty.after queries).locators, l.Assignable := by
  intro l member
  obtain ⟨entry, listed, rfl⟩ := List.mem_map.mp member
  obtain ⟨q, asked, same, _⟩ := exists_query_of_mem_entries queries entry listed
  refine ⟨(coherent_empty.after queries).identifiers entry listed, ?_⟩
  rw [← same]
  exact unbroken q asked

namespace Prose

theorem exists_piece_of_mem_quotedLocators {n : Nat} {pieces : List (List Char)} :
    ∀ l ∈ quotedLocators n pieces, ∃ m piece, l = quotedLocator m piece := by
  induction pieces generalizing n with
  | nil => exact fun _ member => absurd member List.not_mem_nil
  | cons piece pieces ih =>
    intro l member
    rcases List.mem_cons.mp member with rfl | later
    · exact ⟨n, piece, rfl⟩
    · exact ih l later

/-- An inferred locator is one of the keyword table or that of a quoted piece. -/
theorem mem_inferredLocators_cases {text : List Char} {l : Locator}
    (member : l ∈ inferredLocators text) :
    (∃ r ∈ locatorRules, l = normalizeLocator ⟨r.name, r.selector, some r.kind, some .high⟩) ∨
      ∃ n piece, l = normalizeLocator (quotedLocator n piece) := by
  obtain ⟨plain, listed, rfl⟩ := List.mem_map.mp member
  rcases List.mem_append.mp listed with fromTable | fromPiece
  · obtain ⟨r, called, rfl⟩ := List.mem_map.mp fromTable
    exact .inl ⟨r, (List.mem_filter.mp called).1, rfl⟩
  · obtain ⟨n, piece, rfl⟩ := exists_piece_of_mem_quotedLocators plain fromPiece
    exact .inr ⟨n, piece, rfl⟩

theorem assignable_normalizeLocator {l : Locator} (assignable : l.Assignable) :
    (normalizeLocator l).Assignable :=
  ⟨assignable.1, Selector.unbroken_normalize assignable.2⟩

theorem assignable_inferredLocators (text : List Char) :
    ∀ l ∈ inferredLocators text, l.Assignable := by
  have table : ∀ r ∈ locatorRules,
      Locator.Assignable ⟨r.name, r.selector, some r.kind, some .high⟩ := by decide +kernel
  have method : Unbroken "getByText" := by decide
  intro l member
  obtain ⟨r, listed, rfl⟩ | ⟨n, piece, rfl⟩ := mem_inferredLocators_cases member
  · exact assignable_normalizeLocator (table r listed)
  · exact assignable_normalizeLocator
      ⟨Naming.isIdentifier_append_toString n (by decide), Selector.unbroken_call method _⟩

end Prose

/-- **The locators of produced plans are assignable.** -/
theorem Produced.assignable {p : Plan} (produced : Produced p) :
    ∀ l ∈ p.locators, l.Assignable := by
  cases produced with
  | prose text feature marker timestamp => exact Prose.assignable_inferredLocators text.toList
  | enacted enacted =>
    cases enacted with
    | screenshot feature fileName fields p made =>
      obtain ⟨_, rfl⟩ := plan?_eq_some_iff.mp made
      simp only [targetSteps_snd]
      refine Registry.assignable_after fun q asked => ?_
      obtain ⟨t, _, rfl⟩ := List.mem_map.mp asked
      cases t with
      | button label => exact Selector.unbroken_role _ _
      | text label => exact Selector.unbroken_call (by decide) _
    | recording start feature calls =>
      simp only [Session.plan, Session.registry_after]
      refine Registry.assignable_after fun q asked => ?_
      obtain ⟨a, _, rfl⟩ := List.mem_map.mp asked
      exact Selector.unbroken_call (by decide) _

/-! ## Labels -/

/-- The labels that the locators of a plan were named by. Those of plans from prose are not named by
labels. -/
inductive Labelled : Plan → List String → Prop where
  | prose (text : String) (feature : Option String) (marker : Option Prose.Marker)
      (timestamp : String) : Labelled (Prose.analyze text feature marker timestamp) []
  | screenshot (feature fileName : String) (fields : List DetectedField) (p : Plan)
      (made : Screenshot.plan? feature fileName fields = some p) :
      Labelled p ((fields.filterMap target?).map Target.label)
  | recording (start : String) (feature : Option String) (calls : List Session.Call) :
      Labelled ((Session.new start feature).after calls).plan
        ((Session.actionsOf calls).map Session.caption)

/-- The names of the members that every page object has. -/
def ownMembers : List String := ["page", "goto"]

/-- No name from prose is that of a member. -/
theorem Prose.name_not_mem_ownMembers {text : List Char} {l : Locator}
    (member : l ∈ inferredLocators text) : l.name ∉ ownMembers := by
  have table : ∀ r ∈ locatorRules, r.name ∉ ownMembers := by decide +kernel
  have start : ∀ name ∈ ownMembers, name.toList.head? ≠ some 't' := by decide
  obtain ⟨r, listed, rfl⟩ | ⟨n, piece, rfl⟩ := mem_inferredLocators_cases member
  · exact table r listed
  · intro taken
    refine start _ taken ?_
    have stem : quotedStem.toList = 't' :: "extElement".toList := by decide
    change (quotedStem ++ toString n).toList.head? = some 't'
    rw [String.toList_append, stem]
    rfl

/-- **A locator that is called like a member was found under a label whose identifier is that
name.** -/
theorem Labelled.exists_label {p : Plan} {labels : List String} (labelled : Labelled p labels)
    {l : Locator} (listed : l ∈ p.locators) (own : l.name ∈ ownMembers) :
    ∃ label ∈ labels, Naming.identifier label = l.name := by
  have words : ∀ name ∈ ownMembers, ∀ c ∈ name.toList.getLast?, c.isDigit = false := by
    have ends : ∀ name ∈ ownMembers,
        name.toList.getLast? = some 'e' ∨ name.toList.getLast? = some 'o' := by decide
    rintro name listed c found
    rcases ends name listed with last | last <;>
      · rw [last] at found
        obtain rfl := Option.some.inj found
        decide
  cases labelled with
  | prose text feature marker timestamp => exact absurd own (Prose.name_not_mem_ownMembers listed)
  | screenshot feature fileName fields p made =>
    obtain ⟨_, rfl⟩ := plan?_eq_some_iff.mp made
    simp only [targetSteps_snd] at listed
    obtain ⟨entry, named, rfl⟩ := List.mem_map.mp listed
    obtain ⟨q, asked, _, same⟩ := Registry.exists_label_of_word named (words _ own)
    obtain ⟨t, target, rfl⟩ := List.mem_map.mp asked
    exact ⟨t.label, List.mem_map_of_mem target, same⟩
  | recording start feature calls =>
    simp only [Session.plan, Session.registry_after] at listed
    obtain ⟨entry, named, rfl⟩ := List.mem_map.mp listed
    obtain ⟨q, asked, _, same⟩ := Registry.exists_label_of_word named (words _ own)
    obtain ⟨a, applied, form⟩ := List.mem_map.mp asked
    have label : q.label = Session.caption a := by rw [← form, Session.query]
    exact ⟨Session.caption a, List.mem_map_of_mem applied, label ▸ same⟩

/-! ## The members of a page object -/

/-- The method that opens an address. -/
def gotoLines : List String :=
  ["  async goto(url) \x7b", "    await this.page.goto(url);", "  \x7d"]

/-- What a property holds after assignments: the expression of the last one to it. -/
def property? (assigned : List (String × String)) (name : String) : Option String :=
  assigned.reverse.lookup name

theorem property?_cons (first : String × String) (assigned : List (String × String))
    (name : String) :
    property? (first :: assigned) name =
      (property? assigned name).or (if name == first.1 then some first.2 else none) := by
  rw [property?, List.reverse_cons, List.lookup_append, ← property?.eq_1]
  obtain ⟨key, value⟩ := first
  cases same : name == key <;> simp [List.lookup_cons, same]

theorem property?_eq_none_iff {assigned : List (String × String)} {name : String} :
    property? assigned name = none ↔ ∀ a ∈ assigned, a.1 ≠ name := by
  simp only [property?, List.lookup_eq_none_iff, List.mem_reverse, bne_iff_ne, ne_eq]
  exact forall_congr' fun a => forall_congr' fun _ => not_congr eq_comm

/-- The assignments to the properties of locators. -/
def locatorAssignments (locators : List Locator) : List (String × String) :=
  locators.map fun l => (l.name, "page." ++ l.selector)

theorem property?_locatorAssignments_eq_none_iff {locators : List Locator} {name : String} :
    property? (locatorAssignments locators) name = none ↔ ∀ l ∈ locators, l.name ≠ name := by
  rw [property?_eq_none_iff, locatorAssignments, List.forall_mem_map]

/-- The property of a locator holds a call on the page, and never the page itself. -/
theorem property?_locatorAssignments_ne_page (locators : List Locator) (name : String) :
    property? (locatorAssignments locators) name ≠ some "page" := by
  intro found
  obtain ⟨_, _, split, _⟩ := List.lookup_eq_some_iff.mp found
  have member : (name, "page") ∈ locatorAssignments locators := by
    rw [← List.mem_reverse, split]
    exact List.mem_append_right _ List.mem_cons_self
  obtain ⟨l, _, same⟩ := List.mem_map.mp member
  have lengths := congrArg (fun a => a.2.toList.length) same
  simp [String.toList_append] at lengths

theorem gotoLines_infix (p : Plan) : gotoLines <:+: pageObjectLines p := by
  refine ⟨["class " ++ (ArtifactNames.ofPlan p).pageClass ++ " \x7b", "  constructor(page) \x7b",
      "    this.page = page;"] ++ p.locators.map Locator.pageLine ++ ["  \x7d", ""],
    ["\x7d", "", "module.exports = \x7b " ++ (ArtifactNames.ofPlan p).pageClass ++ " \x7d;", ""],
    ?_⟩
  simp only [gotoLines, pageObjectLines, List.append_assoc, List.cons_append, List.nil_append]

namespace Produced

variable {p : Plan}

/-- The lines of a produced plan's page object are read back from its text. -/
theorem linesOf_renderPageObject (produced : Produced p) :
    linesOf (renderPageObject p) = pageObjectLines p :=
  TestPlanner.linesOf_renderPageObject fun l listed => (produced.assignable l listed).unbroken

/-- The constructor of a produced plan's page object assigns the page and every locator. -/
theorem assigned (produced : Produced p) :
    (linesOf (renderPageObject p)).filterMap assignment? =
      ("page", "page") :: locatorAssignments p.locators := by
  rw [produced.linesOf_renderPageObject]
  exact assigned_pageObject fun l listed => (produced.assignable l listed).isScriptName

end Produced

/-- **A page object keeps its members exactly if no locator is called like them.** The constructor
of a produced plan's page object assigns `page` and then every locator, as read from its text.

- No property is assigned twice, and equivalently `this.page` keeps the page, exactly if no locator
  is called `page`.
- The method `goto` is there, and no property hides it exactly if no locator is called `goto`.
- A locator is called like a member only if a label has that name for its identifier, and so never
  in a plan from prose. -/
theorem members_kept_iff {p : Plan} (produced : Produced p) :
    let lines := linesOf (renderPageObject p)
    let assigned := lines.filterMap assignment?
    (assigned = ("page", "page") :: locatorAssignments p.locators) ∧
    ((assigned.map Prod.fst).Nodup ↔ ∀ l ∈ p.locators, l.name ≠ "page") ∧
    (property? assigned "page" = some "page" ↔ ∀ l ∈ p.locators, l.name ≠ "page") ∧
    (gotoLines <:+: lines ∧
      (property? assigned "goto" = none ↔ ∀ l ∈ p.locators, l.name ≠ "goto")) ∧
    (∀ labels, Labelled p labels → ∀ l ∈ p.locators, l.name ∈ ownMembers →
      ∃ label ∈ labels, Naming.identifier label = l.name) := by
  intro lines assigned
  have shown : lines = pageObjectLines p := produced.linesOf_renderPageObject
  have form : assigned = ("page", "page") :: locatorAssignments p.locators := produced.assigned
  clear_value assigned
  refine ⟨form, ?once, ?page, ⟨shown ▸ gotoLines_infix p, ?goto⟩, fun labels labelled l =>
    labelled.exists_label⟩
  case once =>
    have apart : (p.locators.map Locator.name).Nodup := by
      refine List.Nodup.of_map lowered ?_
      rw [List.map_map]
      exact produced.wellFormed.apart
    have names : assigned.map Prod.fst = "page" :: p.locators.map Locator.name := by
      rw [form, locatorAssignments, List.map_cons, List.map_map]
      rfl
    rw [names, List.nodup_cons, and_iff_left apart, List.mem_map]
    simp only [not_exists, not_and, ne_eq]
  case page =>
    rw [form, property?_cons, ← property?_locatorAssignments_eq_none_iff]
    have other := property?_locatorAssignments_ne_page p.locators "page"
    cases found : property? (locatorAssignments p.locators) "page" with
    | none => simp
    | some value =>
      rw [found] at other
      simpa using other
  case goto =>
    rw [form, property?_cons, ← property?_locatorAssignments_eq_none_iff]
    simp

/-- A recording of a link `pAge` and a button `Page`: the names agree in lower case, so the second
one gets a number, and the page object keeps its members. -/
theorem members_kept_iff_capitals :
    let click (selector label : String) : Session.Call :=
      .apply ⟨.click, selector, some label, some "a", none, none⟩
    let p := ((Session.new "http://shop.example/" (some "Visit")).after
      [.begin none, click "#first" "pAge", click "#second" "Page"]).plan
    let assigned := (linesOf (renderPageObject p)).filterMap assignment?
    Produced p ∧ p.locators.map Locator.name = ["pAge", "page2"] ∧
      property? assigned "page" = some "page" ∧ property? assigned "goto" = none := by
  intro click p assigned
  have produced : Produced p := .enacted (.recording _ _ _)
  have names : p.locators.map Locator.name = ["pAge", "page2"] := by decide +kernel
  have others : ∀ own ∈ ownMembers, ∀ l ∈ p.locators, l.name ≠ own := by
    intro own listed l member same
    have known : own ∈ p.locators.map Locator.name := List.mem_map.mpr ⟨l, member, same⟩
    rw [names] at known
    have apart : ∀ own ∈ ownMembers, own ∉ ["pAge", "page2"] := by decide
    exact apart own listed known
  obtain ⟨_, _, page, ⟨_, goto⟩, _⟩ := members_kept_iff produced
  exact ⟨produced, names, page.mpr (others "page" (by decide)),
    goto.mpr (others "goto" (by decide))⟩

/-- A recording of a link `Page` and a button `Go to`: their locators take the places of the page
and of the method. -/
theorem members_lost :
    let p := ((Session.new "http://shop.example/" (some "Visit")).after
      [.begin none, .apply ⟨.click, "#page", some "Page", some "a", none, none⟩,
        .apply ⟨.click, "#go", some "Go to", some "button", none, none⟩]).plan
    let assigned := (linesOf (renderPageObject p)).filterMap assignment?
    assigned = [("page", "page"), ("page", "page.locator('#page')"),
        ("goto", "page.locator('#go')")] ∧
      ¬ (assigned.map Prod.fst).Nodup ∧
      property? assigned "page" = some "page.locator('#page')" ∧
      property? assigned "goto" = some "page.locator('#go')" := by
  intro p assigned
  have locators : locatorAssignments p.locators =
      [("page", "page.locator('#page')"), ("goto", "page.locator('#go')")] := by decide +kernel
  have form : assigned = ("page", "page") :: locatorAssignments p.locators :=
    (Produced.enacted (.recording _ _ _)).assigned
  rw [form, locators]
  exact ⟨rfl, by decide, by decide, by decide⟩

end TestPlanner
