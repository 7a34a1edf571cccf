import TestPlanner.Proofs.Recording.Run
import TestPlanner.Proofs.Text.Quotation
import TestPlanner.Recording.Source

/-!
# Streams of events

Whatever a browser reports, only three things about its events count: the first failure, the titles
of the ready pages, and the actions after the first ready page, all before the first closed page
(`record_eq`). Ready pages rename the plan and actions add to it, and neither looks at what the
other does, so it does not matter where among the actions a page was ready again (`after_eq`).

**Outcome.** A recording fails exactly if a failure is reported or no page is ever ready. Otherwise
its plan opens with the start address and has one step for every step text and one locator for every
selector of the actions, in the order of first occurrence; its names come from the last titles that
are good for them (`Records`, `plan_of_stream`).
-/

set_option autoImplicit false

namespace TestPlanner

open Text

namespace SessionEvent

/-- The message of a failure. -/
def message? : SessionEvent → Option String
  | .error message => some message
  | _ => none

/-- The title of a ready page, if the event is one; the page may have no title. -/
def title? : SessionEvent → Option (Option String)
  | .ready title => some title
  | _ => none

/-- The action of an event. -/
def action? : SessionEvent → Option UserAction
  | .action a => some a
  | _ => none

end SessionEvent

namespace Recording

/-- The events before the first closed page. -/
def counted (events : List SessionEvent) : List SessionEvent :=
  events.takeWhile fun e => e != .closed

/-- The titles of the ready pages, in order. -/
def titles (events : List SessionEvent) : List (Option String) :=
  events.filterMap SessionEvent.title?

/-- The actions after the first ready page, in order. -/
def acted (events : List SessionEvent) : List UserAction :=
  (events.dropWhile fun e => e.title?.isNone).filterMap SessionEvent.action?

namespace Session

/-! ## Ready pages and actions -/

/-- A title without the blanks around it, if there is more to it. -/
def shownTitle? (title : Option String) : Option String :=
  let shown := trimmed (title.getD "")
  if shown.isEmpty then none else some shown

/-- The letters and digits of a title, if it has any. -/
def featureOf? (title : Option String) : Option String :=
  let name := Naming.stripped (title.getD "")
  if name.isEmpty then none else some name

/-- The scenario of a page that shows a title. -/
def scenarioOf (shown : String) : String := "A recorded scenario on the '" ++ shown ++ "' page"

/-- Letters and digits are not trimmed away. -/
theorem alphanumerics_trim (s : List Char) :
    Naming.alphanumerics (trim s) = Naming.alphanumerics s := by
  have start : ∀ t : List Char,
      Naming.alphanumerics (t.dropWhile isBlank) = Naming.alphanumerics t := by
    intro t
    induction t with
    | nil => rfl
    | cons c t ih =>
      by_cases skipped : isBlank c = true
      · have lost : ¬ isAsciiAlphanumeric c = true := by
          intro kept
          rw [Naming.isBlank_of_isAsciiAlphanumeric kept] at skipped
          cases skipped
        rw [List.dropWhile_cons_of_pos skipped, ih]
        exact (List.filter_cons_of_neg lost).symm
      · rw [List.dropWhile_cons_of_neg skipped]
  have mirrored := start (trimStart s).reverse
  unfold Naming.alphanumerics at mirrored
  rw [trim, trimEnd, Naming.alphanumerics, List.filter_reverse, mirrored, List.filter_reverse,
    List.reverse_reverse]
  exact start s

theorem stripped_trimmed (s : String) : Naming.stripped (trimmed s) = Naming.stripped s := by
  rw [Naming.stripped, Naming.stripped, trimmed, String.toList_ofList, alphanumerics_trim]

/-- **What a ready page does.** Its title names the scenario if it shows one, and the feature if it
has letters or digits and the feature is not named already. -/
theorem begin_eq (s : Session) (title : Option String) :
    s.begin title = { s with
      feature := if s.named then s.feature else (featureOf? title).getD s.feature
      scenario := ((shownTitle? title).map scenarioOf).getD s.scenario } := by
  have bare : (trimmed (title.getD "")).isEmpty = true →
      (Naming.stripped (title.getD "")).isEmpty = true := by
    intro blank
    rw [← stripped_trimmed, String.isEmpty_iff.mp blank]
    decide
  unfold begin shownTitle? featureOf? scenarioOf
  simp only [stripped_trimmed]
  generalize trimmed (title.getD "") = shown at bare
  generalize Naming.stripped (title.getD "") = name at bare
  by_cases blank : shown.isEmpty = true
  · simp only [blank, bare blank, if_true, Option.getD_none, Option.map_none, ite_self]
  · simp only [blank, Bool.false_eq_true, if_false, Option.map_some, Option.getD_some]
    cases s.named with
    | true => simp only [Bool.true_or, if_true]
    | false =>
      simp only [Bool.false_or, Bool.false_eq_true, if_false]
      by_cases empty : name.isEmpty = true
      · simp only [empty, if_true, Option.getD_none]
      · simp only [empty, Bool.false_eq_true, if_false, Option.getD_some]

/-- An action and a ready page may change places. -/
theorem apply_begin (s : Session) (title : Option String) (a : UserAction) :
    ((s.begin title).apply a).2 = (s.apply a).2.begin title := by
  rw [begin_eq, begin_eq]
  unfold apply
  dsimp only
  split
  · rfl
  · rfl

/-- Ready pages after an action do what they do before it. -/
theorem after_begins_apply (s : Session) (pages : List (Option String)) (a : UserAction) :
    ((s.after (pages.map .begin)).apply a).2 = (s.apply a).2.after (pages.map .begin) := by
  induction pages generalizing s with
  | nil => rfl
  | cons title pages ih =>
    rw [List.map_cons, after_cons, after_cons, call_begin, call_begin, ih, apply_begin]

/-- The title of a call. -/
def Call.title? : Call → Option (Option String)
  | .begin title => some title
  | .apply _ => none

/-- **Only the order of the ready pages and the order of the actions count.** -/
theorem after_eq (s : Session) (calls : List Call) :
    s.after calls = (s.after ((calls.filterMap Call.title?).map .begin)).after
      ((actionsOf calls).map .apply) := by
  induction calls generalizing s with
  | nil => rfl
  | cons c calls ih =>
    cases c with
    | begin title =>
      have pages : (Call.begin title :: calls).filterMap Call.title? =
          title :: calls.filterMap Call.title? := rfl
      have acts : actionsOf (.begin title :: calls) = actionsOf calls := rfl
      rw [pages, acts, after_cons, ih, List.map_cons, after_cons]
    | apply a =>
      have pages : (Call.apply a :: calls).filterMap Call.title? =
          calls.filterMap Call.title? := rfl
      rw [pages, actionsOf_cons_apply, after_cons, ih, List.map_cons, after_cons, call_apply,
        call_apply, after_begins_apply]

/-! ## The names of a session -/

/-- The scenario comes from the last title that is shown. -/
theorem scenario_after_begins (s : Session) (pages : List (Option String)) :
    (s.after (pages.map .begin)).scenario =
      ((pages.filterMap shownTitle?).getLast?.map scenarioOf).getD s.scenario := by
  induction pages using List.reverseRecOn with
  | nil => rfl
  | append_singleton pages title ih =>
    rw [List.map_append, List.map_singleton, after_concat, List.filterMap_append, call_begin,
      begin_eq, ih]
    cases shown : shownTitle? title with
    | none => simp [shown]
    | some text => simp [shown]

/-- The feature comes from the last title with a letter or digit, unless it was named. -/
theorem feature_after_begins (s : Session) (pages : List (Option String)) :
    (s.after (pages.map .begin)).named = s.named ∧
    (s.after (pages.map .begin)).feature =
      if s.named then s.feature else (pages.filterMap featureOf?).getLast?.getD s.feature := by
  induction pages using List.reverseRecOn with
  | nil => exact ⟨rfl, by simp [after]⟩
  | append_singleton pages title ih =>
    rw [List.map_append, List.map_singleton, after_concat, List.filterMap_append, call_begin,
      begin_eq]
    refine ⟨ih.1, ?_⟩
    simp only [ih.1, ih.2]
    by_cases named : s.named = true
    · simp only [named, if_true]
    · cases name : featureOf? title with
      | none => simp [name, named]
      | some text => simp [name, named]

/-- Actions change no name. -/
theorem names_after_applies (s : Session) (acts : List UserAction) :
    (s.after (acts.map .apply)).feature = s.feature ∧
      (s.after (acts.map .apply)).scenario = s.scenario := by
  induction acts generalizing s with
  | nil => exact ⟨rfl, rfl⟩
  | cons a acts ih =>
    have kept : (s.apply a).2.feature = s.feature ∧ (s.apply a).2.scenario = s.scenario := by
      obtain ⟨_, step⟩ | ⟨_, step⟩ := s.apply_cases a
      · rw [step]
        exact ⟨rfl, rfl⟩
      · rw [step]
        exact ⟨rfl, rfl⟩
    obtain ⟨feature, scenario⟩ := ih (s.apply a).2
    exact ⟨feature.trans kept.1, scenario.trans kept.2⟩

/-! ## The steps of a session -/

theorem actionsOf_applies (acts : List UserAction) : actionsOf (acts.map .apply) = acts := by
  induction acts with
  | nil => rfl
  | cons a acts ih => rw [List.map_cons, actionsOf_cons_apply, ih]

/-- **Every step is that of the first action with its text**, on the locator of the action's
selector; the first one is a `When`, the others continue it. -/
theorem exists_first_action (start : String) (feature : Option String) (calls : List Call) :
    ∀ i t, ((new start feature).after calls).actions[i]? = some t →
      ∃ earlier a later name, actionsOf calls = earlier ++ a :: later ∧
        stepText a ∉ earlier.map stepText ∧
        ((new start feature).after calls).registry.get? (Selector.raw a.selector) = some name ∧
        t = actionStep (i == 0) name a := by
  induction calls using List.reverseRecOn with
  | nil =>
    intro i t found
    cases found
  | append_singleton calls c ih =>
    rw [after_concat, actionsOf_concat]
    have texts := texts_after_new start feature calls
    generalize (new start feature).after calls = s at ih texts
    cases c with
    | begin title =>
      simp only [call, registry_begin, actions_begin, Call.action?, Option.toList_none,
        List.append_nil]
      exact ih
    | apply b =>
      simp only [call, Call.action?, Option.toList_some]
      -- an old step keeps its action, and its selector keeps its name
      have kept : ∀ i t, s.actions[i]? = some t →
          ∃ earlier a later name, actionsOf calls ++ [b] = earlier ++ a :: later ∧
            stepText a ∉ earlier.map stepText ∧
            (s.element b).2.get? (Selector.raw a.selector) = some name ∧
            t = actionStep (i == 0) name a := by
        intro i t found
        obtain ⟨earlier, a, later, name, split, first, named, form⟩ := ih i t found
        refine ⟨earlier, a, later ++ [b], name, ?_, first, ?_, form⟩
        · rw [split, List.append_assoc, List.cons_append]
        · exact Registry.get?_resolve_of_get? _ _ named
      obtain ⟨_, step⟩ | ⟨new, step⟩ := s.apply_cases b
      · rw [step]
        exact kept
      · rw [step]
        intro i t found
        rcases getElem?_concat_cases found with old | ⟨rfl, rfl⟩
        · exact kept i t old
        · refine ⟨actionsOf calls, b, [], (s.element b).1, rfl, ?_, Registry.get?_resolve _ _ _, ?_⟩
          · rw [texts, List.mem_eraseDups] at new
            exact new
          · cases s.actions <;> rfl

end Session

/-! ## Running a stream -/

/-- The calls that events lead to; `ready` tells whether a page was ready before. -/
def callsOf (ready : Bool) : List SessionEvent → List Session.Call
  | [] => []
  | .ready title :: events => .begin title :: callsOf true events
  | .action a :: events => (if ready then [.apply a] else []) ++ callsOf ready events
  | .closed :: events => callsOf ready events
  | .error _ :: events => callsOf ready events

theorem titles_callsOf (ready : Bool) (events : List SessionEvent) :
    (callsOf ready events).filterMap Session.Call.title? = titles events := by
  induction events generalizing ready with
  | nil => rfl
  | cons e events ih =>
    cases e with
    | ready title => exact congrArg (title :: ·) (ih true)
    | action a =>
      cases ready with
      | true => exact ih true
      | false => exact ih false
    | closed => exact ih ready
    | error message => exact ih ready

theorem actionsOf_callsOf (ready : Bool) (events : List SessionEvent) :
    Session.actionsOf (callsOf ready events) =
      if ready then events.filterMap SessionEvent.action? else acted events := by
  induction events generalizing ready with
  | nil => cases ready <;> rfl
  | cons e events ih =>
    cases e with
    | ready title =>
      cases ready with
      | true => exact ih true
      | false => exact ih true
    | action a =>
      cases ready with
      | true => exact congrArg (a :: ·) (ih true)
      | false => exact ih false
    | closed =>
      cases ready with
      | true => exact ih true
      | false => exact ih false
    | error message =>
      cases ready with
      | true => exact ih true
      | false => exact ih false

/-- **What a stream comes to.** The first failure that counts stops the session; otherwise it makes
the calls that its events lead to. -/
theorem Session.run_eq (ready : Bool) (s : Session) (events : List SessionEvent) :
    run ready s events = match (counted events).findSome? SessionEvent.message? with
      | some message => .error (.sourceMessage .recording message)
      | none => run.finish (ready || !(titles (counted events)).isEmpty)
          (s.after (callsOf ready (counted events))) := by
  induction events generalizing ready s with
  | nil => cases ready <;> rfl
  | cons e events ih =>
    cases e with
    | ready title =>
      have counts : counted (.ready title :: events) = .ready title :: counted events := rfl
      rw [run, ih, counts, callsOf, after_cons, call_begin]
      cases ready <;> rfl
    | action a =>
      have counts : counted (.action a :: events) = .action a :: counted events := rfl
      rw [run, ih, counts, callsOf]
      cases ready <;> rfl
    | closed => cases ready <;> rfl
    | error message => rfl

/-- The session of ready pages and actions. -/
def sessionOf (start : String) (feature : Option String) (pages : List (Option String))
    (acts : List UserAction) : Session :=
  ((Session.new start feature).after (pages.map .begin)).after (acts.map .apply)

/-- **Failures, titles and actions are all that counts.** -/
theorem record_eq (start : String) (feature : Option String) (events : List SessionEvent) :
    record start feature events =
      match (counted events).findSome? SessionEvent.message? with
      | some message => .error (.sourceMessage .recording message)
      | none =>
        if titles (counted events) = [] then
          .error (.sourceMessage .recording "browser session ended before the page was ready")
        else
          .ok (sessionOf start feature (titles (counted events)) (acted (counted events))).plan := by
  rw [record, Session.run_eq, Session.after_eq, titles_callsOf, actionsOf_callsOf]
  cases (counted events).findSome? SessionEvent.message? with
  | some message => rfl
  | none =>
    cases pages : titles (counted events) with
    | nil => rfl
    | cons title later => rfl

/-! ## The outcome -/

open Session

/-- What the plan of a recording holds, by the start address, the name that the caller gave, the
titles of the ready pages and the actions that count. -/
structure Records (start : String) (feature : Option String) (pages : List (Option String))
    (acts : List UserAction) (p : Plan) : Prop where
  /-- The plan opens with the start address. -/
  opening : p.steps.head? = some (.navigate "I am on the application" (some start))
  /-- There is one more step for every step text, in the order of first occurrence. -/
  texts : p.steps.tail.map Step.text = (acts.map stepText).eraseDups
  /-- Each of them is the step of the first action with its text, on the locator of the action's
  selector. The first one is a `When`, the others are `And`s. -/
  steps : ∀ i t, p.steps.tail[i]? = some t → ∃ earlier a later, ∃ l ∈ p.locators,
    acts = earlier ++ a :: later ∧ stepText a ∉ earlier.map stepText ∧
      l.selector = Selector.raw a.selector ∧ t = actionStep (i == 0) l.name a
  /-- There is one locator for every selector, in the order of first occurrence. -/
  selectors : p.locators.map Locator.selector =
    (acts.map UserAction.selector).eraseDups.map Selector.raw
  /-- The scenario is named after the last page that shows a title. -/
  scenario : p.scenario =
    ((pages.filterMap shownTitle?).getLast?.map scenarioOf).getD defaultScenario
  /-- The feature has the name that was given, or the letters and digits of the last title with
  any. -/
  feature : p.feature =
    feature.getD ((pages.filterMap featureOf?).getLast?.getD defaultFeature)
  /-- A recording has nothing else. -/
  bare : (∀ l ∈ p.locators, l.kind = none ∧ l.confidence = none) ∧
    p.story = none ∧ p.scenarios = [] ∧ p.tags = [] ∧ p.record = none

/-- **What a session of ready pages and actions records.** -/
theorem records_sessionOf (start : String) (feature : Option String)
    (pages : List (Option String)) (acts : List UserAction) :
    Records start feature pages acts (sessionOf start feature pages acts).plan := by
  -- the session as one run of calls, whose actions are `acts`
  have joined : sessionOf start feature pages acts =
      (new start feature).after (pages.map .begin ++ acts.map .apply) :=
    (after_append _ _ _).symm
  have ready : actionsOf (pages.map .begin) = [] :=
    List.filterMap_eq_nil_iff.mpr (List.forall_mem_map.mpr fun _ _ => rfl)
  have actions : actionsOf (pages.map .begin ++ acts.map .apply) = acts := by
    rw [actionsOf, List.filterMap_append]
    exact (congrArg₂ (· ++ ·) ready (actionsOf_applies acts)).trans (List.nil_append acts)
  have coherent := coherent_after_new start feature (pages.map .begin ++ acts.map .apply)
  have texts := texts_after_new start feature (pages.map .begin ++ acts.map .apply)
  have firsts := exists_first_action start feature (pages.map .begin ++ acts.map .apply)
  have opened := start_after (new start feature) (pages.map .begin ++ acts.map .apply)
  have registry := registry_after (new start feature) (pages.map .begin ++ acts.map .apply)
  rw [← joined, actions] at *
  obtain ⟨named, titled⟩ := feature_after_begins (new start feature) pages
  obtain ⟨sameFeature, sameScenario⟩ :=
    names_after_applies ((new start feature).after (pages.map .begin)) acts
  refine ⟨?opening, texts, ?steps, ?selectors, ?scenario, ?feature, ?bare⟩
  case opening => exact congrArg (fun start => some (Step.navigate _ (some start))) opened
  case steps =>
    intro i t found
    obtain ⟨earlier, a, later, name, split, first, known, form⟩ := firsts i t found
    exact ⟨earlier, a, later, _, List.mem_map_of_mem (Registry.mem_entries_of_get? known),
      split, first, rfl, form⟩
  case selectors =>
    have listed : (sessionOf start feature pages acts).registry.locators.map Locator.selector =
        (sessionOf start feature pages acts).registry.selectors := List.map_map
    refine listed.trans ?_
    rw [registry]
    refine (Registry.selectors_after_empty _).trans ?_
    rw [← eraseDups_map_of_injective fun _ _ => Selector.raw_inj, List.map_map, List.map_map]
    rfl
  case scenario =>
    exact sameScenario.trans (scenario_after_begins (new start feature) pages)
  case feature =>
    refine sameFeature.trans (titled.trans ?_)
    cases feature <;> rfl
  case bare =>
    refine ⟨?_, rfl, rfl, rfl, rfl⟩
    intro l member
    obtain ⟨entry, _, rfl⟩ := List.mem_map.mp member
    exact ⟨rfl, rfl⟩

/-- The first failure of a list of events. -/
theorem findSome?_message_of_first {before after : List SessionEvent} {message : String}
    (first : ∀ earlier, .error earlier ∉ before) :
    (before ++ .error message :: after).findSome? SessionEvent.message? = some message := by
  have silent : before.findSome? SessionEvent.message? = none := by
    rw [List.findSome?_eq_none_iff]
    intro e member
    cases e with
    | error earlier => exact absurd member (first earlier)
    | _ => rfl
  rw [List.findSome?_append, silent]
  rfl

theorem findSome?_message_eq_none_iff (events : List SessionEvent) :
    events.findSome? SessionEvent.message? = none ↔ ∀ message, .error message ∉ events := by
  rw [List.findSome?_eq_none_iff]
  constructor
  · intro silent message member
    cases silent _ member
  · intro absent e member
    cases e with
    | error message => exact absurd member (absent message)
    | _ => rfl

theorem titles_eq_nil_iff (events : List SessionEvent) :
    titles events = [] ↔ ∀ title, .ready title ∉ events := by
  rw [titles, List.filterMap_eq_nil_iff]
  constructor
  · intro untitled title member
    cases untitled _ member
  · intro absent e member
    cases e with
    | ready title => exact absurd member (absent title)
    | _ => rfl

/-- **The outcome of a recording, for every stream of events.** It fails exactly if a failure
counts, and then with the first one, or if no page is ready. Otherwise it gives the plan of its
titles and actions. Streams with the same first failure, titles and actions have one outcome. -/
theorem plan_of_stream {browser : Browser} {r : Request} {events : List SessionEvent}
    (default : Option String) (shown : trimmed r.input ≠ "")
    (delivered : browser (trimmed r.input) = .ok events) :
    let outcome := plan browser default r
    let W := counted events
    ((∃ failure, outcome = .error failure) ↔
      (∃ message, .error message ∈ W) ∨ ∀ title, .ready title ∉ W) ∧
    (∀ before message after, W = before ++ .error message :: after →
      (∀ earlier, .error earlier ∉ before) →
      outcome = .error (.sourceMessage .recording message)) ∧
    ((∀ message, .error message ∉ W) → (∀ title, .ready title ∉ W) → outcome =
      .error (.sourceMessage .recording "browser session ended before the page was ready")) ∧
    ((∀ message, .error message ∉ W) → (∃ title, .ready title ∈ W) →
      ∃ p, outcome = .ok p ∧ Records (trimmed r.input) r.feature (titles W) (acted W) p) ∧
    (∀ others,
      (counted others).findSome? SessionEvent.message? = W.findSome? SessionEvent.message? →
      titles (counted others) = titles W → acted (counted others) = acted W →
      plan (replay others) default r = outcome) := by
  intro outcome W
  have chosen : startOf default r.input = .ok (trimmed r.input) :=
    if_neg (mt String.isEmpty_iff.mp shown)
  have recorded (other : Browser) (stream : List SessionEvent)
      (delivered : other (trimmed r.input) = .ok stream) :
      plan other default r = record (trimmed r.input) r.feature stream := by
    rw [plan, chosen]
    change (other (trimmed r.input) >>= record (trimmed r.input) r.feature) = _
    rw [delivered]
    rfl
  have result : outcome = _ := (recorded browser events delivered).trans (record_eq _ _ events)
  have broken : ∀ message, W.findSome? SessionEvent.message? = some message →
      outcome = .error (.sourceMessage .recording message) := by
    intro message first
    rw [result, first]
  have unready : (∀ message, .error message ∉ W) → (∀ title, .ready title ∉ W) → outcome =
      .error (.sourceMessage .recording "browser session ended before the page was ready") := by
    intro sound absent
    rw [result, (findSome?_message_eq_none_iff W).mpr sound]
    exact if_pos ((titles_eq_nil_iff W).mpr absent)
  have made : (∀ message, .error message ∉ W) → ¬ (∀ title, .ready title ∉ W) →
      outcome = .ok (sessionOf (trimmed r.input) r.feature (titles W) (acted W)).plan := by
    intro sound present
    rw [result, (findSome?_message_eq_none_iff W).mpr sound]
    exact if_neg (mt (titles_eq_nil_iff W).mp present)
  refine ⟨?fails, ?first, unready, ?records, ?alike⟩
  case fails =>
    cases failed : W.findSome? SessionEvent.message? with
    | some message =>
      have unsound : ∃ message, .error message ∈ W := by
        by_contra none
        rw [(findSome?_message_eq_none_iff W).mpr fun message member => none ⟨message, member⟩]
          at failed
        cases failed
      exact iff_of_true ⟨_, broken message failed⟩ (.inl unsound)
    | none =>
      have sound := (findSome?_message_eq_none_iff W).mp failed
      by_cases absent : ∀ title, .ready title ∉ W
      · exact iff_of_true ⟨_, unready sound absent⟩ (.inr absent)
      · rw [made sound absent]
        refine iff_of_false ?_ ?_
        · rintro ⟨_, impossible⟩
          cases impossible
        · rintro (⟨message, member⟩ | none)
          · exact sound message member
          · exact absent none
  case first =>
    intro before message after split earlier
    exact broken message (split ▸ findSome?_message_of_first earlier)
  case records =>
    rintro sound ⟨title, member⟩
    exact ⟨_, made sound fun absent => absent title member, records_sessionOf _ _ _ _⟩
  case alike =>
    intro others messages pages acts
    rw [recorded (replay others) others rfl, record_eq, messages, pages, acts]
    exact result.symm

/-- A page that is ready three times, with actions before it is ready, in between, and after it was
closed. The first and the third action that count read alike. -/
theorem plan_of_stream_ready_again :
    let early : UserAction := ⟨.click, "#early", some "Early", none, none, none⟩
    let top : UserAction := ⟨.click, "#top", some "Add", some "button", none, none⟩
    let note : UserAction := ⟨.fill, "#note", some " Note ", none, none, some "two"⟩
    let bottom : UserAction := ⟨.click, "#bottom", some "Add", some "button", none, none⟩
    let r : Request := ⟨" http://shop.example/ ", none, none⟩
    let events : List SessionEvent := [.action early, .ready (some "Shop 1"), .action top,
      .ready (some "??"), .action note, .ready none, .action bottom, .closed, .error "gone"]
    ∃ p, plan (replay events) none r = .ok p ∧ p.feature = "Shop1" ∧
      p.scenario = "A recorded scenario on the '??' page" ∧
      Records "http://shop.example/" none [some "Shop 1", some "??", none] [top, note, bottom]
        p := by
  intro early top note bottom r events
  have start : trimmed r.input = "http://shop.example/" := by decide +kernel
  have pages : titles (counted events) = [some "Shop 1", some "??", none] := by decide +kernel
  have acts : acted (counted events) = [top, note, bottom] := by decide +kernel
  have sound := (findSome?_message_eq_none_iff (counted events)).mp (by decide +kernel)
  have ready : .ready (some "Shop 1") ∈ counted events := by decide +kernel
  have delivered : replay events (trimmed r.input) = .ok events := rfl
  obtain ⟨_, _, _, records, _⟩ := plan_of_stream none (by rw [start]; decide) delivered
  obtain ⟨p, made, holds⟩ := records sound ⟨_, ready⟩
  rw [start, pages, acts] at holds
  refine ⟨p, made, holds.feature.trans ?_, holds.scenario.trans ?_, holds⟩
  · decide +kernel
  · decide +kernel

end Recording

end TestPlanner
