import TestPlanner.Proofs.Artifact.Names
import TestPlanner.Proofs.Artifact.Output
import TestPlanner.Synthesis.Report

/-!
# The output after many runs

Runs on one output root follow each other, each with a source of plans that may read the workspace
and change it outside the root. A run either leaves the workspace as its source left it, or writes a
plan (`run_cases`); then it changes nothing outside the place of the plan's artifacts
(`Artifacts.write_confined`).

**Histories.** After any sequence of runs, the place of every feature name that was written holds
the artifacts of the last plan of that name, and every other place is as it was, but for directories
made on the way to the root (`output_of_runs`). Two things have to be so: no run was unable to
write, and the output root has no detour that matters, that is, whatever it passes and leaves again
by a double dot is a directory from the start, and none of that is below a place that is written.

**Control.** Behind a double dot that follows a missing directory, the old directory of a feature is
not seen, and its files stay (`stale_behind_missing`).
-/

set_option autoImplicit false

namespace TestPlanner

open Files

namespace Synthesis

/-! ## One run -/

/-- The plan that a run wrote, if it wrote one. -/
def written? : Except Failure (Option Report) → Option Plan
  | .ok (some report) => report.files.map fun _ => report.plan
  | _ => none

/-- Whether a run was unable to write. -/
def isUnwritable : Except Failure (Option Report) → Bool
  | .error (.unwritable _ _) => true
  | _ => false

/-- Only a source's own plan is accepted, and only if its name is usable. -/
theorem eq_of_accepted {answer : Except Failure (Option Plan)} {p : Plan}
    (accept : accepted answer = .ok (some p)) :
    answer = .ok (some p) ∧ p.safeName.isEmpty = false := by
  unfold accepted at accept
  split at accept
  next => cases accept
  next => cases accept
  next own =>
    split at accept
    next => cases accept
    next usable =>
      split at accept
      next =>
        cases accept
        exact ⟨rfl, Bool.eq_false_iff.mpr usable⟩
      next => cases accept

/-- **What a run does.** It leaves the workspace alone and writes nothing, or it writes the plan
that it was given, whose name is usable. -/
theorem run_cases (root : String) (dry : Bool) (w : Workspace)
    (answer : Except Failure (Option Plan)) :
    ((run root dry w answer).2 = w ∧ written? (run root dry w answer).1 = none) ∨
    ∃ p, answer = .ok (some p) ∧ p.safeName.isEmpty = false ∧ dry = false ∧
      (run root dry w answer).2 = (p.render.write root w).2 ∧
      ((∃ files, p.render.write root w = (.ok files, (run root dry w answer).2) ∧
          written? (run root dry w answer).1 = some p) ∨
        isUnwritable (run root dry w answer).1 = true) := by
  unfold run
  cases accept : accepted answer with
  | error failure => exact .inl ⟨rfl, rfl⟩
  | ok plan =>
    cases plan with
    | none => exact .inl ⟨rfl, rfl⟩
    | some p =>
      obtain ⟨given, usable⟩ := eq_of_accepted accept
      unfold emit
      cases dry with
      | true => exact .inl ⟨rfl, rfl⟩
      | false =>
        refine .inr ⟨p, given, usable, rfl, ?_⟩
        cases result : p.render.write root w with
        | mk outcome w' =>
          cases outcome with
          | ok files =>
            simp only [Bool.false_eq_true, if_false, result]
            exact ⟨trivial, .inl ⟨files, rfl, rfl⟩⟩
          | error failure =>
            obtain ⟨path, fault, rfl⟩ := Artifacts.unwritable_of_write result
            simp only [Bool.false_eq_true, if_false, result]
            exact ⟨trivial, .inr rfl⟩

/-! ## Histories -/

/-- A run: its source of plans, which may change the workspace, and whether it is dry. -/
structure Run where
  source : Workspace → Except Failure (Option Plan) × Workspace
  dry : Bool

namespace Run

/-- Performs a run: its source answers, then the answer is turned into artifacts. -/
def perform (r : Run) (root : String) (w : Workspace) :
    Except Failure (Option Report) × Workspace :=
  run root r.dry (r.source w).2 (r.source w).1

/-- The source of a run never changes what is at a place. -/
def Spares (r : Run) (q : Place) : Prop :=
  ∀ w, (r.source w).2.tree.get? q = w.tree.get? q

/-- The source of a run changes nothing below a place, and keeps trees ordinary. -/
structure LeavesAlone (r : Run) (top : Place) : Prop where
  directory : ∀ w, (r.source w).2.directory = w.directory
  ordinary : ∀ w : Workspace, w.tree.Ordinary → (r.source w).2.tree.Ordinary
  below : ∀ name q, r.Spares (top ++ name :: q)

end Run

/-- The workspace after runs, in order. -/
def after (root : String) (w : Workspace) (runs : List Run) : Workspace :=
  runs.foldl (fun w r => (r.perform root w).2) w

/-- The results of runs, in order. -/
def results (root : String) : Workspace → List Run → List (Except Failure (Option Report))
  | _, [] => []
  | w, r :: runs => (r.perform root w).1 :: results root (r.perform root w).2 runs

/-- The plans that runs wrote, in order. -/
def written (root : String) (w : Workspace) (runs : List Run) : List Plan :=
  (results root w runs).filterMap written?

/-- The last plan with a safe name. -/
def last? (plans : List Plan) (safe : String) : Option Plan :=
  (plans.filter fun p => p.safeName == safe).getLast?

theorem results_append (root : String) (w : Workspace) (runs more : List Run) :
    results root w (runs ++ more) =
      results root w runs ++ results root (after root w runs) more := by
  induction runs generalizing w with
  | nil => rfl
  | cons r runs ih => rw [List.cons_append, results, ih, results, List.cons_append]; rfl

theorem after_concat (root : String) (w : Workspace) (runs : List Run) (r : Run) :
    after root w (runs ++ [r]) = (r.perform root (after root w runs)).2 := by
  rw [after, List.foldl_append]
  rfl

theorem results_concat (root : String) (w : Workspace) (runs : List Run) (r : Run) :
    results root w (runs ++ [r]) =
      results root w runs ++ [(r.perform root (after root w runs)).1] :=
  results_append root w runs [r]

theorem written_concat (root : String) (w : Workspace) (runs : List Run) (r : Run) :
    written root w (runs ++ [r]) =
      written root w runs ++ (written? (r.perform root (after root w runs)).1).toList := by
  rw [written, results_concat, List.filterMap_append, written]
  cases result : written? (r.perform root (after root w runs)).1 <;> simp [result]

theorem last?_concat (plans : List Plan) (p : Plan) (safe : String) :
    last? (plans ++ [p]) safe = if p.safeName = safe then some p else last? plans safe := by
  unfold last?
  by_cases own : p.safeName = safe
  · simp [own]
  · simp [own]

/-! ## What runs keep -/

/-- What holds after runs that wrote plans: the places of their artifacts are held by the last
plans, all other places that the sources spare are as they were, but for directories made on the way
to the root, and what the root passes by is there. -/
structure Kept (root : String) (start : Workspace) (runs : List Run) (plans : List Plan)
    (w : Workspace) : Prop where
  directory : w.directory = start.directory
  ordinary : w.tree.Ordinary
  plain : ∀ p ∈ plans, Plain p.safeName
  passed : ∀ d ∈ start.way root, d <+: start.placeOf root ∨ w.tree.get? d = some .directory
  holds : ∀ safe p, last? plans safe = some p → p.render.Holds root w
  others : ∀ q, (∀ r ∈ runs, r.Spares q) →
    (∀ p ∈ plans, ¬ start.placeOf root ++ [p.safeName] <+: q) →
    w.tree.get? q = start.tree.get? q ∨
      (q <+: start.placeOf root ∧ start.tree.get? q = none ∧ w.tree.get? q = some .directory)

namespace Kept

variable {root : String} {start w w' : Workspace} {runs : List Run} {plans : List Plan}

theorem mem_of_last? {safe : String} {p : Plan} (found : last? plans safe = some p) :
    p ∈ plans ∧ p.safeName = safe := by
  have member := List.mem_filter.mp (List.mem_of_getLast? found)
  exact ⟨member.1, eq_of_beq member.2⟩

/-- A source keeps what holds if it leaves the root alone and spares what the root passes by. -/
theorem source (kept : Kept root start runs plans w) {r : Run}
    (alone : r.LeavesAlone (start.placeOf root))
    (spared : ∀ d ∈ start.way root, ¬ d <+: start.placeOf root → r.Spares d) :
    Kept root start (runs ++ [r]) plans (r.source w).2 := by
  refine ⟨(alone.directory w).trans kept.directory, alone.ordinary w kept.ordinary, kept.plain,
    ?passed, ?holds, ?others⟩
  case passed =>
    intro d member
    by_cases above : d <+: start.placeOf root
    · exact .inl above
    · rw [spared d member above w]
      exact kept.passed d member
  case holds =>
    intro safe p found
    obtain ⟨entries, readable⟩ := kept.holds safe p found
    refine ⟨fun q => ?_, readable⟩
    rw [p.render.home_congr (alone.directory w), ← entries, Artifacts.home,
      Workspace.placeOf_congr kept.directory, List.append_assoc]
    exact alone.below _ q w
  case others =>
    intro q spares outside
    rw [spares r (by simp) w]
    exact kept.others q (fun r member => spares r (List.mem_append_left _ member)) outside

/-- **Writing a plan keeps what holds**, and then its artifacts are held. -/
theorem write (kept : Kept root start runs plans w) {p : Plan} {files : WrittenFiles}
    (usable : p.safeName.isEmpty = false) (written : p.render.write root w = (.ok files, w'))
    (apart : ∀ d ∈ start.way root, start.placeOf root ++ [p.safeName] <+: d →
      d = start.placeOf root ++ [p.safeName]) :
    Kept root start runs (plans ++ [p]) w' := by
  have plain : Plain p.render.names.safe := plain_safeName usable
  have place : w.placeOf root = start.placeOf root := Workspace.placeOf_congr kept.directory root
  have way : w.way root = start.way root := Workspace.way_congr kept.directory root
  have confined := Artifacts.write_confined plain root w
  rw [written] at confined
  have home : p.render.home w root = start.placeOf root ++ [p.safeName] := by
    rw [Artifacts.home, place]
    rfl
  have settled : ∀ d ∈ w.way root, d <+: w.placeOf root ∨ w.tree.get? d = some .directory := by
    rw [way, place]
    exact kept.passed
  obtain ⟨holds, directories⟩ := Artifacts.holds_of_write plain kept.ordinary written settled
    (by rw [way, home]; exact apart)
  rw [way] at directories
  -- what is made outside the place is on the way to the root
  have outside : ∀ q, ¬ start.placeOf root ++ [p.safeName] <+: q →
      w'.tree.get? q = w.tree.get? q ∨
        (q <+: start.placeOf root ∧ w.tree.get? q = none ∧ w'.tree.get? q = some .directory) := by
    intro q other
    refine (confined.entries q (by rwa [home])).imp_right ?_
    rintro ⟨absent, made, onWay⟩
    refine ⟨?_, absent, made⟩
    rw [← place]
    refine (settled q onWay).resolve_right fun found => ?_
    rw [absent] at found
    cases found
  refine ⟨confined.directory.trans kept.directory, confined.ordinary kept.ordinary, ?plain,
    fun d member => .inr (directories d member), ?holds, ?others⟩
  case plain =>
    intro p' member
    rcases List.mem_append.mp member with old | new
    · exact kept.plain p' old
    · rw [List.mem_singleton.mp new]
      exact plain
  case holds =>
    intro safe p' found
    rw [last?_concat] at found
    split at found
    next =>
      cases found
      exact holds
    next other =>
      obtain ⟨entries, readable⟩ := kept.holds safe p' found
      obtain ⟨_, rfl⟩ := mem_of_last? found
      refine ⟨fun q => ?_, readable⟩
      rw [p'.render.home_congr confined.directory, ← entries]
      have home' : p'.render.home w root = start.placeOf root ++ [p'.safeName] := by
        rw [Artifacts.home, place]
        rfl
      rw [home', List.append_assoc]
      refine (outside _ ?_).resolve_right ?_
      · rw [List.prefix_append_right_inj, List.singleton_append]
        exact fun same => other (List.cons_prefix_cons.mp same).1
      · rintro ⟨longer, _⟩
        have tooLong := longer.length_le
        simp only [List.length_append, List.length_singleton] at tooLong
        omega
  case others =>
    intro q spares elsewhere
    have old := kept.others q spares fun p' member =>
      elsewhere p' (List.mem_append_left _ member)
    rcases outside q (elsewhere p (by simp)) with same | ⟨above, absent, made⟩
    · rw [same]
      exact old
    · rcases old with same | ⟨_, _, made'⟩
      · exact .inr ⟨above, same ▸ absent, made⟩
      · rw [absent] at made'
        cases made'

end Kept

variable {root : String} {w : Workspace} {runs : List Run}

/-- The output root has no detour that matters to runs. It has no double dot, or whatever it passes
and leaves again is a directory, spared by the sources, and not below a place that is written. -/
def Direct (root : String) (w : Workspace) (runs : List Run) : Prop :=
  ".." ∉ components root ∨ ∀ d ∈ w.way root, ¬ d <+: w.placeOf root →
    w.tree.get? d = some .directory ∧ (∀ r ∈ runs, r.Spares d) ∧
      ∀ p ∈ written root w runs, w.placeOf root ++ [p.safeName] <+: d →
        d = w.placeOf root ++ [p.safeName]

/-- **Every history keeps what holds.** -/
theorem kept_of_runs (ordinary : w.tree.Ordinary)
    (writable : ∀ result ∈ results root w runs, isUnwritable result = false)
    (alone : ∀ r ∈ runs, r.LeavesAlone (w.placeOf root)) (direct : Direct root w runs) :
    Kept root w runs (written root w runs) (after root w runs) := by
  have detours : ∀ d ∈ w.way root, ¬ d <+: w.placeOf root →
      w.tree.get? d = some .directory ∧ (∀ r ∈ runs, r.Spares d) ∧
        ∀ p ∈ written root w runs, w.placeOf root ++ [p.safeName] <+: d →
          d = w.placeOf root ++ [p.safeName] := by
    rcases direct with forward | direct
    · exact fun d member aside => absurd (Workspace.prefix_of_mem_way forward member) aside
    · exact direct
  clear direct
  induction runs using List.reverseRecOn with
  | nil =>
    refine ⟨rfl, ordinary, (fun _ none => nomatch none), fun d member => ?_,
      (fun _ _ found => nomatch found), fun _ _ _ => .inl rfl⟩
    by_cases above : d <+: w.placeOf root
    · exact .inl above
    · exact .inr (detours d member above).1
  | append_singleton runs r ih =>
    rw [results_concat] at writable
    rw [written_concat] at detours ⊢
    rw [after_concat]
    have before := ih (fun result member => writable result (List.mem_append_left _ member))
      (fun r member => alone r (List.mem_append_left _ member)) fun d member aside =>
        ⟨(detours d member aside).1,
          fun r member' => (detours d member aside).2.1 r (List.mem_append_left _ member'),
          fun p member' => (detours d member aside).2.2 p (List.mem_append_left _ member')⟩
    have sourced := before.source (alone r (by simp)) fun d member aside =>
      (detours d member aside).2.1 r (by simp)
    have sound := writable (r.perform root (after root w runs)).1 (by simp)
    rw [Run.perform] at sound detours ⊢
    rcases run_cases root r.dry (r.source (after root w runs)).2
        (r.source (after root w runs)).1 with ⟨same, none⟩ | ⟨p, _, usable, _, _, done⟩
    · rw [same, none, Option.toList_none, List.append_nil]
      exact sourced
    · obtain ⟨files, success, wrote⟩ | stuck := done
      · rw [wrote] at detours ⊢
        refine sourced.write usable success fun d member below => ?_
        refine (detours d member fun above => ?_).2.2 p (by simp) below
        have tooLong := (below.trans above).length_le
        rw [List.length_append, List.length_singleton] at tooLong
        omega
      · rw [stuck] at sound
        cases sound

/-- **What a history leaves behind.** Suppose that no run was unable to write, and that the root has
no detour that matters. Then every place that was written holds the artifacts of its last plan and
nothing else, and they can be read by their paths. Every other place that the sources spare is as it
was, but for directories made on the way to the root. A single run, in any workspace, changes
nothing unless it writes, and then nothing outside its own place, which is one plain name below the
root, but for directories on the way of the root. -/
theorem output_of_runs (ordinary : w.tree.Ordinary)
    (writable : ∀ result ∈ results root w runs, isUnwritable result = false)
    (alone : ∀ r ∈ runs, r.LeavesAlone (w.placeOf root)) (direct : Direct root w runs) :
    (∀ safe p, last? (written root w runs) safe = some p →
      (∀ q, (after root w runs).tree.get? (w.placeOf root ++ safe :: q) = p.render.layout q) ∧
      ∀ k, (after root w runs).readText (p.render.path (p.render.directory root) k) =
        .ok (p.render.get k)) ∧
    (∀ q, (∀ r ∈ runs, r.Spares q) →
      (∀ p ∈ written root w runs, ¬ w.placeOf root ++ [p.safeName] <+: q) →
      (after root w runs).tree.get? q = w.tree.get? q ∨
        (q <+: w.placeOf root ∧ w.tree.get? q = none ∧
          (after root w runs).tree.get? q = some .directory)) ∧
    (∀ (r : Run) (v : Workspace),
      r.dry = true ∨
        (written? (r.perform root v).1 = none ∧ isUnwritable (r.perform root v).1 = false) →
      (r.perform root v).2 = (r.source v).2) ∧
    (∀ (r : Run) (v : Workspace), (r.perform root v).2 = (r.source v).2 ∨
      ∃ p, (r.source v).1 = .ok (some p) ∧ Plain p.safeName ∧
        Artifacts.Confined ((r.source v).2.placeOf root ++ [p.safeName]) ((r.source v).2.way root)
          (r.source v).2 (r.perform root v).2) := by
  have kept := kept_of_runs ordinary writable alone direct
  refine ⟨?written, kept.others, ?idle, ?confined⟩
  case written =>
    intro safe p found
    have holds := kept.holds safe p found
    obtain ⟨member, rfl⟩ := Kept.mem_of_last? found
    have place : (after root w runs).placeOf root = w.placeOf root :=
      Workspace.placeOf_congr kept.directory root
    have home : p.render.home (after root w runs) root = w.placeOf root ++ [p.safeName] := by
      rw [Artifacts.home, place]
      rfl
    have entries := holds.entries
    rw [home] at entries
    refine ⟨fun q => ?_, holds.readText (kept.plain p member) fun d onWay => ?_⟩
    · rw [← entries, List.append_assoc, List.singleton_append]
    · rw [Workspace.way_congr kept.directory] at onWay
      rcases kept.passed d onWay with ⟨more, above⟩ | found
      · have top := entries []
        rw [← above, List.append_nil, List.append_assoc] at top
        exact kept.ordinary.directory_above _ (by rw [top]; simp [Artifacts.layout]) (by simp)
      · exact found
  case idle =>
    intro r v nothing
    rcases run_cases root r.dry (r.source v).2 (r.source v).1 with
      ⟨same, _⟩ | ⟨p, _, _, wet, _, done⟩
    · exact same
    · rcases nothing with dry | ⟨none, sound⟩
      · rw [wet] at dry
        cases dry
      · rw [Run.perform] at none sound
        rcases done with ⟨_, _, wrote⟩ | stuck
        · rw [wrote] at none
          cases none
        · rw [stuck] at sound
          cases sound
  case confined =>
    intro r v
    rcases run_cases root r.dry (r.source v).2 (r.source v).1 with
      ⟨same, _⟩ | ⟨p, given, usable, _, result, _⟩
    · exact .inl same
    · have plain := plain_safeName usable
      refine .inr ⟨p, given, plain, ?_⟩
      rw [Run.perform, result]
      exact Artifacts.write_confined (a := p.render) plain root _

/-- Runs on a root that passes a directory and leaves it again: a feature is written over its old
directory, a dry run follows, and then the feature is written again under a name with other
punctuation. -/
theorem output_of_runs_again :
    let root := "drafts/../out"
    let w : Workspace := ⟨⟨[(["drafts"], .directory), (["out"], .directory),
      (["out", "Shop"], .directory), (["out", "Shop", "old"], .directory)]⟩, []⟩
    let plan (feature scenario : String) : Plan := { Plan.named feature scenario with
      steps := [.navigate "I am on the application" none] }
    let run (feature scenario : String) (dry : Bool) : Run :=
      ⟨fun w => (.ok (some (plan feature scenario)), w), dry⟩
    let runs := [run "Shop" "first" false, run "Shop" "dry" true, run "../S.h/op" "last" false]
    (∀ q, (after root w runs).tree.get? (["out", "Shop"] ++ q) =
      (plan "../S.h/op" "last").render.layout q) ∧
    (after root w runs).readText "drafts/../out/Shop/Features/Shop.feature" =
      .ok (plan "../S.h/op" "last").render.feature ∧
    (after root w runs).tree.get? ["drafts"] = some .directory := by
  intro root w plan run runs
  have place : w.placeOf root = ["out"] := by decide +kernel
  have done : (results root w runs).map (fun result => (written? result, isUnwritable result)) =
      [(some (plan "Shop" "first"), false), (none, false),
        (some (plan "../S.h/op" "last"), false)] := by decide +kernel
  have plans : written root w runs = [plan "Shop" "first", plan "../S.h/op" "last"] := by
    have both : written root w runs = ((results root w runs).map
        (fun result => (written? result, isUnwritable result))).filterMap Prod.fst := by
      rw [List.filterMap_map]
      rfl
    rw [both, done]
    rfl
  have writable : ∀ result ∈ results root w runs, isUnwritable result = false := by
    have both : (results root w runs).map isUnwritable = [false, false, false] := by
      have seconds := congrArg (List.map Prod.snd) done
      rwa [List.map_map] at seconds
    intro result member
    have listed := List.mem_map_of_mem (f := isUnwritable) member
    rw [both] at listed
    simpa using listed
  have still : ∀ r ∈ runs, ∀ v, (r.source v).2 = v := by
    simp [runs, run]
  have passes : ∀ d ∈ w.way root, ¬ d <+: ["out"] → d = ["drafts"] := by decide +kernel
  have direct : Direct root w runs := by
    refine .inr fun d member aside => ?_
    rw [place] at aside
    obtain rfl := passes d member aside
    refine ⟨by decide +kernel, fun r listed v => by rw [still r listed v], ?_⟩
    rw [plans, place]
    decide +kernel
  have alone : ∀ r ∈ runs, r.LeavesAlone (w.placeOf root) := fun r listed =>
    ⟨fun v => by rw [still r listed v], fun v ordinary => by rwa [still r listed v],
      fun _ _ v => by rw [still r listed v]⟩
  obtain ⟨last, others, _⟩ := output_of_runs (Tree.ordinary_of_entries (by decide +kernel)) writable
    alone direct
  rw [plans, place] at last
  rw [plans, place] at others
  obtain ⟨entries, readable⟩ := last "Shop" (plan "../S.h/op" "last") (by decide +kernel)
  have path : (plan "../S.h/op" "last").render.path
      ((plan "../S.h/op" "last").render.directory root) .feature =
        "drafts/../out/Shop/Features/Shop.feature" := by decide +kernel
  have read := readable .feature
  rw [path] at read
  refine ⟨entries, read, ?_⟩
  rcases others ["drafts"] (fun r listed v => by rw [still r listed v]) (by decide +kernel) with
    same | ⟨_, absent, _⟩
  · rw [same]
    rfl
  · cases absent

/-- The old files and directories of a feature stay if the root passes a missing directory and leaves
it again. The missing directory is made. -/
theorem stale_behind_missing :
    let root := "a/../b"
    let old := "stale\n".toUTF8
    let w : Workspace := ⟨⟨[(["b"], .directory), (["b", "Shop"], .directory),
      (["b", "Shop", "old.txt"], .file old), (["b", "Shop", "old"], .directory)]⟩, []⟩
    let p : Plan := { Plan.named "Shop" "A scenario recorded from user actions" with
      steps := [.navigate "I am on the application" (some "http://shop.example/")] }
    let runs : List Run := [⟨fun w => (.ok (some p), w), false⟩]
    w.tree.Ordinary ∧ (∀ result ∈ results root w runs, isUnwritable result = false) ∧
    w.placeOf root = ["b"] ∧ last? (written root w runs) "Shop" = some p ∧
    (p.render.layout ["old.txt"] = none ∧
      (after root w runs).tree.get? ["b", "Shop", "old.txt"] = some (.file old)) ∧
    (p.render.layout ["old"] = none ∧
      (after root w runs).tree.get? ["b", "Shop", "old"] = some .directory) ∧
    w.tree.get? ["a"] = none ∧ (after root w runs).tree.get? ["a"] = some .directory :=
  ⟨Tree.ordinary_of_entries (by decide +kernel), by decide +kernel⟩

end Synthesis

end TestPlanner
