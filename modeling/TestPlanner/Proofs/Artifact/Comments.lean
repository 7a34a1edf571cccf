import TestPlanner.Proofs.Artifact.Lines
import TestPlanner.Proofs.Artifact.Views
import TestPlanner.Proofs.Recording.Run

/-!
# Comments of the test

The test shows every step in a comment, and a comment ends with its line. The line breaks of a
feature file are no longer in the text of a step, but a script has two more: the line separator
`U+2028` and the paragraph separator `U+2029`.

**What trimming keeps.** These two are blank, so they are dropped at the ends of a line. A blank
character survives exactly where something visible stands on both of its sides (`mem_trim_iff`,
`mem_singleLineChars_iff`).

**Comments.** So the comment of a step is one line of the script exactly when no such separator
stands inside a line of its text (`comment_holds_iff`). Where one does, what follows it is no
comment any more (`comment_ends_early`).
-/

set_option autoImplicit false

namespace TestPlanner

open Text Recording

/-! ## Blanks inside a text -/

/-- The character occurs with something visible on both of its sides. -/
def StandsInside (c : Char) (s : List Char) : Prop :=
  ∃ left right, s = left ++ c :: right ∧ (∃ x ∈ left, isBlank x = false) ∧
    ∃ y ∈ right, isBlank y = false

/-- **Trimming keeps a blank exactly where it stands inside.** -/
theorem mem_trim_iff {s : List Char} {c : Char} (blank : isBlank c = true) :
    c ∈ trim s ↔ StandsInside c s := by
  constructor
  · intro member
    obtain ⟨left, right, kept⟩ := List.append_of_mem member
    obtain ⟨after, ended⟩ := prefix_trimEnd (trimStart s)
    obtain ⟨before, started⟩ : trimStart s <:+ s := List.dropWhile_suffix _
    rw [← trim, kept, List.append_assoc, List.cons_append] at ended
    obtain ⟨x, ahead, shown⟩ := exists_visible_of_trimStart blank ended.symm
    obtain ⟨y, behind, shown'⟩ := exists_visible_of_trimEnd blank kept
    refine ⟨before ++ left, right ++ after, ?_, ⟨x, ?_, shown⟩, ⟨y, ?_, shown'⟩⟩
    · rw [List.append_assoc, ended, started]
    · exact List.mem_append_right before ahead
    · exact List.mem_append_left after behind
  · rintro ⟨left, right, rfl, ahead, y, behind, shown⟩
    rw [trim, trimStart_append_of_visible ahead, ← List.singleton_append, ← List.append_assoc,
      trimEnd_append_of_visible ⟨y, behind, shown⟩]
    exact List.mem_append_left _ (List.mem_append_right _ (List.mem_singleton_self c))

/-- **A blank is shown on one line exactly where it stands inside a line.** -/
theorem mem_singleLineChars_iff {s : List Char} {c : Char} (blank : isBlank c = true)
    (space : c ≠ ' ') :
    c ∈ singleLineChars s ↔ ∃ line ∈ s.splitOnP isLineBreak, StandsInside c line := by
  constructor
  · intro member
    rcases mem_joinWith member with between | ⟨piece, listed, own⟩
    · exact absurd (List.mem_singleton.mp between) space
    · obtain ⟨line, split, rfl⟩ := List.mem_map.mp (List.mem_filter.mp listed).1
      exact ⟨line, split, (mem_trim_iff blank).mp own⟩
  · rintro ⟨line, split, inside⟩
    have own := (mem_trim_iff blank).mpr inside
    refine mem_joinWith_of_mem (List.mem_filter.mpr ⟨List.mem_map_of_mem split, ?_⟩) own
    simpa using List.ne_nil_of_mem own

/-! ## Lines of a script -/

/-- The two separators that break the lines of a script and no line of a feature file. -/
def isSeparator (c : Char) : Bool := c == '\u2028' || c == '\u2029'

/-- The characters that end a line of a script. -/
def endsScriptLine (c : Char) : Bool := isLineBreak c || isSeparator c

/-- The lines of a script. -/
def scriptLinesOf (text : String) : List String :=
  (text.toList.splitOnP endsScriptLine).map String.ofList

/-- A text is one line of a script exactly if nothing in it ends a line. -/
theorem scriptLinesOf_eq_singleton {text : String} :
    scriptLinesOf text = [text] ↔ ∀ c ∈ text.toList, endsScriptLine c = false := by
  constructor
  · intro one
    have pieces : text.toList.splitOnP endsScriptLine = [text.toList] := by
      have chars := congrArg (List.map String.toList) one
      simpa only [scriptLinesOf, List.map_map, Function.comp_def, String.toList_ofList,
        List.map_id', List.map_cons, List.map_nil] using chars
    exact not_of_mem_splitOnP (pieces ▸ List.mem_singleton_self _)
  · intro none
    rw [scriptLinesOf, List.splitOnP_eq_singleton none, List.map_singleton, String.ofList_toList]

/-- The lines of a test script are those of each line of the test. -/
theorem scriptLinesOf_renderTest (p : Plan) :
    scriptLinesOf (renderTest p) = (testLines p).flatMap scriptLinesOf := by
  have nonempty : testLines p ≠ [] := List.cons_ne_nil _ _
  rw [scriptLinesOf, renderTest, splitOnP_joinLines (by decide) nonempty, List.map_flatMap]
  rfl

theorem isBlank_of_isSeparator {c : Char} (separates : isSeparator c = true) :
    isBlank c = true ∧ c ≠ ' ' := by
  simp only [isSeparator, Bool.or_eq_true, beq_iff_eq] at separates
  rcases separates with rfl | rfl <;> decide

/-! ## Comments -/

/-- The comment of a step, before its text. -/
def commentFront (keyword : Keyword) : String := "    // " ++ keyword.text ++ " "

theorem not_endsScriptLine_commentFront (keyword : Keyword) :
    ∀ c ∈ (commentFront keyword).toList, endsScriptLine c = false := by
  have word : ∀ c ∈ keyword.text.toList, endsScriptLine c = false := by
    cases keyword
    all_goals exact none_of_ofList (by decide)
  rw [commentFront, String.toList_append, String.toList_append, List.forall_mem_append,
    List.forall_mem_append]
  exact ⟨⟨none_of_ofList (by decide), word⟩, none_of_ofList (by decide)⟩

namespace StepView.Shows

variable {v : StepView} {s : Step}

theorem commentLine_eq (shows : v.Shows s) :
    v.commentLine = commentFront s.keyword ++ singleLine s.text := by
  obtain ⟨before, rfl⟩ := shows
  rfl

theorem toList_commentLine (shows : v.Shows s) :
    v.commentLine.toList = (commentFront s.keyword).toList ++ singleLineChars s.text.toList := by
  rw [shows.commentLine_eq, String.toList_append, singleLine, String.toList_ofList]

/-- A comment has no line feed and no carriage return. -/
theorem onOneLine_commentLine (shows : v.Shows s) : OnOneLine v.commentLine.toList := by
  rw [shows.toList_commentLine, onOneLine_append]
  refine ⟨fun c member => ?_, onOneLine_singleLineChars _⟩
  exact (Bool.or_eq_false_iff.mp (not_endsScriptLine_commentFront s.keyword c member)).1

/-- A separator is in a comment exactly if it stands inside a line of the text. -/
theorem mem_commentLine_iff (shows : v.Shows s) {c : Char} (separates : isSeparator c = true) :
    c ∈ v.commentLine.toList ↔
      ∃ line ∈ s.text.toList.splitOnP isLineBreak, StandsInside c line := by
  obtain ⟨blank, space⟩ := isBlank_of_isSeparator separates
  rw [← mem_singleLineChars_iff blank space, shows.toList_commentLine, List.mem_append]
  refine or_iff_right fun front => ?_
  have none := not_endsScriptLine_commentFront s.keyword c front
  rw [endsScriptLine, separates, Bool.or_true] at none
  cases none

/-- A comment is one line of the script exactly if no separator stands inside a line of the text. -/
theorem scriptLinesOf_commentLine_iff (shows : v.Shows s) :
    scriptLinesOf v.commentLine = [v.commentLine] ↔
      ∀ line ∈ s.text.toList.splitOnP isLineBreak, ∀ c, isSeparator c = true →
        ¬ StandsInside c line := by
  rw [scriptLinesOf_eq_singleton]
  constructor
  · intro none line split c separates inside
    have ends := none c ((shows.mem_commentLine_iff separates).mpr ⟨line, split, inside⟩)
    rw [endsScriptLine, separates, Bool.or_true] at ends
    cases ends
  · intro none c member
    rw [endsScriptLine, shows.onOneLine_commentLine c member, Bool.false_or, Bool.eq_false_iff]
    intro separates
    obtain ⟨line, split, inside⟩ := (shows.mem_commentLine_iff separates).mp member
    exact none line split c separates inside

end StepView.Shows

/-- The comment and the statements of a step stand together in the test. -/
theorem StepView.infix_testLines {p : Plan} {v : StepView} (listed : v ∈ p.stepViews) :
    v.commentLine :: v.testBody (ArtifactNames.ofPlan p) <:+: testLines p := by
  have lines := List.mem_map_of_mem
    (f := fun u => u.commentLine :: StepView.testBody (ArtifactNames.ofPlan p) u) listed
  exact (List.infix_of_mem_flatten lines).trans (List.infix_append _ _ _)

/-- **The comment of a step stays a comment exactly when no separator stands inside a line of its
text.** The comment is a line of the test, and the statements of the step follow it. It has no line
feed and no carriage return. A line or paragraph separator is in it exactly if it stands inside a
line of the text of the step, and only then is the comment more than one line of the script. -/
theorem comment_holds_iff {p : Plan} {i : Nat} {s : Step} (listed : p.steps[i]? = some s) :
    ∃ v, p.stepViews[i]? = some v ∧
      v.commentLine = commentFront s.keyword ++ singleLine s.text ∧
      v.commentLine :: v.testBody (ArtifactNames.ofPlan p) <:+: testLines p ∧
      OnOneLine v.commentLine.toList ∧
      (∀ c, isSeparator c = true → (c ∈ v.commentLine.toList ↔
        ∃ line ∈ s.text.toList.splitOnP isLineBreak, StandsInside c line)) ∧
      (scriptLinesOf v.commentLine = [v.commentLine] ↔
        ∀ line ∈ s.text.toList.splitOnP isLineBreak, ∀ c, isSeparator c = true →
          ¬ StandsInside c line) := by
  obtain ⟨v, viewed, shows⟩ := getElem?_of_forall₂ (stepViewsAfter_shows .given p.steps) listed
  exact ⟨v, viewed, shows.commentLine_eq,
    StepView.infix_testLines (List.mem_of_getElem? viewed), shows.onOneLine_commentLine,
    fun _ separates => shows.mem_commentLine_iff separates, shows.scriptLinesOf_commentLine_iff⟩

/-- A text with separators between its lines and at their ends: its comment has none of them. -/
theorem comment_holds_iff_at_ends :
    let s : Step := .plain .then "the cart\u2028\r\n\u2029 is empty \u2028"
    let p : Plan := { Plan.named "Shop" "Visit" with
      steps := [.navigate "I am on the application" none, s] }
    p.steps[1]? = some s ∧ ∃ v, p.stepViews[1]? = some v ∧
      v.commentLine = "    // Then the cart is empty" ∧
      scriptLinesOf v.commentLine = [v.commentLine] := by
  intro s p
  have listed : p.steps[1]? = some s := rfl
  obtain ⟨v, viewed, form, _, _, separators, one⟩ := comment_holds_iff listed
  have shown : v.commentLine = "    // Then the cart is empty" := by
    rw [form]
    decide +kernel
  refine ⟨listed, v, viewed, shown, one.mpr fun line split c separates inside => ?_⟩
  have kept := (separators c separates).mpr ⟨line, split, inside⟩
  rw [shown] at kept
  have none : ∀ c ∈ "    // Then the cart is empty".toList, isSeparator c = false :=
    none_of_ofList (by decide)
  rw [none c kept] at separates
  cases separates

/-- A recorded button whose caption holds a line separator: what follows the separator is a
statement of the test. -/
theorem comment_ends_early :
    let click : Session.Call := .apply ⟨.click, "#save", some "Save\u2028process.exit(); //",
      some "button", none, none⟩
    let p := ((Session.new "http://shop.example/" (some "Shop")).after [.begin none, click]).plan
    ∃ v, p.stepViews[1]? = some v ∧ v.commentLine ∈ testLines p ∧
      (∃ c ∈ v.commentLine.toList, endsScriptLine c = true) ∧
      scriptLinesOf v.commentLine =
        ["    // When I click on the 'Save", "process.exit(); //' button"] ∧
      "process.exit(); //' button" ∈ scriptLinesOf (renderTest p) := by
  intro click p
  let s : Step :=
    .click .when "I click on the 'Save\u2028process.exit(); //' button" "saveprocessexit"
  have listed : (StepView.ofStep .given s).commentLine ∈ testLines p := by decide +kernel
  have lines : scriptLinesOf (StepView.ofStep .given s).commentLine =
      ["    // When I click on the 'Save", "process.exit(); //' button"] := by decide +kernel
  refine ⟨.ofStep .given s, by decide +kernel, listed, ⟨'\u2028', by decide +kernel, by decide⟩,
    lines, ?_⟩
  rw [scriptLinesOf_renderTest, List.mem_flatMap]
  exact ⟨_, listed, by rw [lines]; exact List.mem_cons_of_mem _ List.mem_cons_self⟩

end TestPlanner
