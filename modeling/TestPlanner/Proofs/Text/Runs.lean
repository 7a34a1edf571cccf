import TestPlanner.Proofs.Text.Words

/-!
# Runs and the pieces between them

A run is a stretch of characters of one kind that is as long as possible. Every text is cut in one
way into a run at its front and the rest (`exists_run`, `run_inj`).

A text may be cut into pieces at runs of separators instead of at each one of them (`BetweenRuns`).
That gives fewer empty pieces, and the same ones that show something
(`BetweenRuns.nonblankPieces_eq`).
-/

set_option autoImplicit false

namespace TestPlanner.Text

variable {p : Char → Bool}

/-- What is left behind a run starts with another kind of character. -/
theorem exists_run (p : Char → Bool) (s : List Char) :
    ∃ run rest, s = run ++ rest ∧ (∀ c ∈ run, p c = true) ∧ ∀ c ∈ rest.head?, p c = false := by
  refine ⟨s.takeWhile p, s.dropWhile p, List.takeWhile_append_dropWhile.symm,
    fun c member => List.mem_takeWhile_imp member, fun c first => ?_⟩
  have ends := List.head?_dropWhile_not p s
  rw [Option.mem_def.mp first] at ends
  exact ends

/-- A run is what is taken from the front, and what follows it is left. -/
theorem cut_run {run rest : List Char} (all : ∀ c ∈ run, p c = true)
    (stops : ∀ c ∈ rest.head?, p c = false) :
    (run ++ rest).takeWhile p = run ∧ (run ++ rest).dropWhile p = rest := by
  rw [List.takeWhile_append_of_pos all, List.dropWhile_append_of_pos all]
  cases rest with
  | nil => exact ⟨List.append_nil run, rfl⟩
  | cons c rest =>
    have other : ¬ p c = true := by
      rw [stops c rfl]
      exact Bool.false_ne_true
    rw [List.takeWhile_cons_of_neg other, List.dropWhile_cons_of_neg other, List.append_nil]
    exact ⟨rfl, rfl⟩

/-- A run and what follows it are cut apart in one way only. -/
theorem run_inj {run run' rest rest' : List Char} (all : ∀ c ∈ run, p c = true)
    (stops : ∀ c ∈ rest.head?, p c = false) (all' : ∀ c ∈ run', p c = true)
    (stops' : ∀ c ∈ rest'.head?, p c = false) (same : run ++ rest = run' ++ rest') :
    run = run' ∧ rest = rest' := by
  obtain ⟨taken, dropped⟩ := cut_run all stops
  obtain ⟨taken', dropped'⟩ := cut_run all' stops'
  rw [same] at taken dropped
  exact ⟨taken.symm.trans taken', dropped.symm.trans dropped'⟩

/-! ## Pieces -/

/-- The pieces of a text between runs of separators. -/
inductive BetweenRuns (p : Char → Bool) : List Char → List (List Char) → Prop where
  /-- a text without separators is one piece -/
  | last {piece : List Char} (free : ∀ c ∈ piece, p c = false) : BetweenRuns p piece [piece]
  /-- a piece ends at a run of separators, which is as long as possible -/
  | cut {piece run rest : List Char} {pieces : List (List Char)} (free : ∀ c ∈ piece, p c = false)
      (nonempty : run ≠ []) (separates : ∀ c ∈ run, p c = true)
      (stops : ∀ c ∈ rest.head?, p c = false) (others : BetweenRuns p rest pieces) :
      BetweenRuns p (piece ++ (run ++ rest)) (piece :: pieces)

/-- The pieces that show something, trimmed. -/
def shownPieces (pieces : List (List Char)) : List (List Char) :=
  (pieces.map trim).filter fun piece => !piece.isEmpty

theorem nonblankPieces_of_free {s : List Char} (free : ∀ c ∈ s, p c = false) :
    nonblankPieces p s = shownPieces [s] := by
  rw [nonblankPieces, List.splitOnP_eq_singleton free, shownPieces]

theorem nonblankPieces_append_cons {c : Char} (separates : p c = true)
    (s t : List Char) :
    nonblankPieces p (s ++ c :: t) = nonblankPieces p s ++ nonblankPieces p t := by
  rw [nonblankPieces, List.splitOnP_append_cons s t separates, List.map_append, List.filter_append,
    nonblankPieces, nonblankPieces]

/-- Separators in front give no piece that shows something. -/
theorem nonblankPieces_run {run : List Char} (separates : ∀ c ∈ run, p c = true)
    (s : List Char) : nonblankPieces p (run ++ s) = nonblankPieces p s := by
  induction run with
  | nil => rfl
  | cons c run ih =>
    obtain ⟨first, later⟩ := List.forall_mem_cons.mp separates
    have front := nonblankPieces_append_cons first [] (run ++ s)
    rw [List.nil_append] at front
    rw [List.cons_append, front, ih later]
    rfl

/-- **What shows between separators is what shows between runs of them.** -/
theorem BetweenRuns.nonblankPieces_eq {s : List Char} {pieces : List (List Char)}
    (between : BetweenRuns p s pieces) : nonblankPieces p s = shownPieces pieces := by
  induction between with
  | last free => exact nonblankPieces_of_free free
  | @cut piece run rest pieces free nonempty separates _ _ ih =>
    obtain ⟨c, run, rfl⟩ := List.exists_cons_of_ne_nil nonempty
    obtain ⟨first, later⟩ := List.forall_mem_cons.mp separates
    rw [List.cons_append, nonblankPieces_append_cons first, nonblankPieces_run later, ih,
      nonblankPieces_of_free free, shownPieces, shownPieces, shownPieces, ← List.filter_append,
      ← List.map_append, List.singleton_append]

theorem BetweenRuns.unique {s : List Char} {pieces pieces' : List (List Char)}
    (between : BetweenRuns p s pieces) (between' : BetweenRuns p s pieces') : pieces = pieces' := by
  induction between generalizing pieces' with
  | last free =>
    cases between' with
    | last => rfl
    | cut _ nonempty separates =>
      obtain ⟨c, run, rfl⟩ := List.exists_cons_of_ne_nil nonempty
      have none := free c (by simp)
      rw [separates c List.mem_cons_self] at none
      cases none
  | @cut piece run rest pieces free nonempty separates stops _ ih =>
    generalize whole : piece ++ (run ++ rest) = s at between'
    have negated : ∀ t : List Char, (∀ c ∈ t, p c = false) → ∀ c ∈ t, (!p c) = true :=
      fun t free c member => by rw [free c member]; rfl
    have starts : ∀ run rest : List Char, run ≠ [] → (∀ c ∈ run, p c = true) →
        ∀ c ∈ (run ++ rest).head?, (!p c) = false := by
      intro run rest nonempty separates c first
      obtain ⟨d, run, rfl⟩ := List.exists_cons_of_ne_nil nonempty
      rw [← Option.mem_some_iff.mp first, separates d List.mem_cons_self]
      rfl
    cases between' with
    | last free' =>
      obtain ⟨c, run, rfl⟩ := List.exists_cons_of_ne_nil nonempty
      have none := free' c (by rw [← whole]; simp)
      rw [separates c List.mem_cons_self] at none
      cases none
    | @cut piece' run' rest' _ free' nonempty' separates' stops' others' =>
      obtain ⟨rfl, behind⟩ := run_inj (p := fun c => !p c) (negated piece free)
        (starts run rest nonempty separates) (negated piece' free')
        (starts run' rest' nonempty' separates') whole
      obtain ⟨_, rfl⟩ := run_inj separates stops separates' stops' behind
      rw [ih others']

/-- **Every text has its pieces between runs of separators.** -/
theorem exists_betweenRuns (p : Char → Bool) (s : List Char) :
    ∃ pieces, BetweenRuns p s pieces := by
  induction length : s.length using Nat.strong_induction_on generalizing s with
  | _ n ih =>
    obtain ⟨piece, behind, rfl, free, starts⟩ := exists_run (fun c => !p c) s
    obtain ⟨run, rest, rfl, separates, stops⟩ := exists_run p behind
    have free : ∀ c ∈ piece, p c = false := fun c member => by simpa using free c member
    by_cases nonempty : run = []
    · -- no separator follows, so the text ends there
      subst nonempty
      cases rest with
      | nil =>
        rw [List.append_nil, List.append_nil]
        exact ⟨[piece], .last free⟩
      | cons c rest =>
        have separates := starts c rfl
        rw [stops c rfl] at separates
        cases separates
    · obtain ⟨pieces, others⟩ := ih rest.length (by
        have := List.length_pos_of_ne_nil nonempty
        rw [← length, List.length_append, List.length_append]
        omega) rest rfl
      exact ⟨piece :: pieces, .cut free nonempty separates stops others⟩

theorem betweenRuns_iff {s : List Char} {pieces : List (List Char)}
    (between : BetweenRuns p s pieces) (pieces' : List (List Char)) :
    BetweenRuns p s pieces' ↔ pieces' = pieces := by
  constructor
  · exact fun between' => between'.unique between
  · rintro rfl
    exact between

end TestPlanner.Text
