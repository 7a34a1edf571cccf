import TestPlanner.Artifact.Output
import TestPlanner.Proofs.Artifact.Names
import TestPlanner.Proofs.Files.Directories
import TestPlanner.Proofs.Text.Utf8

/-!
# Where artifacts go

The artifacts of a plan have a place of their own, `home`, in the directory that the output root
leads to. Writing them never changes anything outside that place, except that directories may be
made on the way of the root (`write_confined`). This is so for every outcome.

**After success.** The place then holds the four artifacts in their directories and nothing else
(`layout`, `holds_of_write`), provided that two things are so. What the root passes and leaves again
by a double dot is there; else the old directory is not seen, and not removed. And none of that is
below the place; else it is made anew there.
-/

set_option autoImplicit false

namespace TestPlanner

open Files

/-! ## Kinds of artifacts -/

namespace ArtifactKind

theorem mem_all (k : ArtifactKind) : k ∈ all := by cases k <;> decide

theorem directory_inj {k k' : ArtifactKind} (same : k.directory = k'.directory) : k = k' := by
  cases k <;> cases k' <;> first | rfl | exact absurd same (by decide)

end ArtifactKind

namespace Artifacts

/-- What is at a place below the directory of artifacts. -/
def layout (a : Artifacts) : Place → Option Entry
  | [] => some .directory
  | [directory] =>
    if directory ∈ ArtifactKind.all.map ArtifactKind.directory then some .directory else none
  | [directory, file] =>
    (ArtifactKind.all.find? fun k =>
      k.directory == directory && k.fileName a.names.safe == file).map fun k =>
        .file (a.get k).toUTF8
  | _ => none

variable (a : Artifacts) {root : String} {w w' w'' : Workspace}

/-- The layout is known by its directories, its files and what is not in it. -/
theorem eq_layout {found : Place → Option Entry} (top : found [] = some .directory)
    (directories : ∀ k : ArtifactKind, found [k.directory] = some .directory)
    (files : ∀ k : ArtifactKind, found [k.directory, k.fileName a.names.safe] =
      some (.file (a.get k).toUTF8))
    (others : ∀ q, q ≠ [] → (∀ k : ArtifactKind, q ≠ [k.directory]) →
      (∀ k : ArtifactKind, q ≠ [k.directory, k.fileName a.names.safe]) → found q = none)
    (q : Place) : found q = a.layout q := by
  match q with
  | [] => exact top
  | [name] =>
    rw [layout]
    by_cases known : name ∈ ArtifactKind.all.map ArtifactKind.directory
    · obtain ⟨k, _, rfl⟩ := List.mem_map.mp known
      rw [if_pos known, directories]
    · rw [if_neg known]
      refine others [name] (by simp) ?_ (by simp)
      rintro k same
      rw [(List.cons.inj same).1] at known
      exact known (List.mem_map_of_mem k.mem_all)
  | [name, file] =>
    rw [layout]
    cases search : ArtifactKind.all.find?
        fun k => k.directory == name && k.fileName a.names.safe == file with
    | some k =>
      have fits := List.find?_some search
      simp only [Bool.and_eq_true, beq_iff_eq] at fits
      obtain ⟨rfl, rfl⟩ := fits
      exact files k
    | none =>
      refine others [name, file] (by simp) (by simp) ?_
      rintro k same
      simp only [List.cons.injEq, and_true] at same
      obtain ⟨rfl, rfl⟩ := same
      have missed := List.find?_eq_none.mp search k k.mem_all
      simp at missed
  | _ :: _ :: _ :: _ => exact others _ (by simp) (by simp) (by simp)

theorem layout_directory (a : Artifacts) (k : ArtifactKind) :
    a.layout [k.directory] = some .directory := by
  rw [layout, if_pos (List.mem_map_of_mem k.mem_all)]

theorem layout_file (a : Artifacts) (k : ArtifactKind) :
    a.layout [k.directory, k.fileName a.names.safe] = some (.file (a.get k).toUTF8) := by
  rw [layout]
  cases search : ArtifactKind.all.find? fun k' =>
      k'.directory == k.directory && k'.fileName a.names.safe == k.fileName a.names.safe with
  | none =>
    have missed := List.find?_eq_none.mp search k k.mem_all
    simp at missed
  | some k' =>
    have fits := List.find?_some search
    simp only [Bool.and_eq_true, beq_iff_eq] at fits
    rw [ArtifactKind.directory_inj fits.1]
    rfl

/-- The place of the directory of artifacts. -/
def home (w : Workspace) (root : String) : Place := w.placeOf root ++ [a.names.safe]

/-- The path of the directory for one artifact. -/
def directoryOf (root : String) (k : ArtifactKind) : String := join (a.directory root) k.directory

/-- The place of one artifact. -/
def filePlace (w : Workspace) (root : String) (k : ArtifactKind) : Place :=
  a.home w root ++ [k.directory, k.fileName a.names.safe]

theorem home_congr (same : w'.directory = w.directory) : a.home w' root = a.home w root := by
  rw [home, home, Workspace.placeOf_congr same]

theorem filePlace_congr (same : w'.directory = w.directory) (k : ArtifactKind) :
    a.filePlace w' root k = a.filePlace w root k := by
  rw [filePlace, filePlace, a.home_congr same]

/-- Artifacts of different kinds have different places. -/
theorem filePlace_inj {k k' : ArtifactKind}
    (same : a.filePlace w root k = a.filePlace w root k') : k = k' := by
  have names := List.append_cancel_left same
  exact ArtifactKind.directory_inj (List.cons.inj names).1

section Paths

variable {a} (plain : Plain a.names.safe)

include plain

theorem path_eq (k : ArtifactKind) :
    a.path (a.directory root) k = join (a.directoryOf root k) (k.fileName a.names.safe) :=
  join_join k.plain_directory (k.plain_fileName plain) _

theorem parent?_path (k : ArtifactKind) :
    parent? (a.path (a.directory root) k) = some (a.directoryOf root k) := by
  rw [path_eq plain, directoryOf, parent?_join _ k.plain_directory (k.plain_fileName plain)]

theorem placeOf_directoryOf (k : ArtifactKind) :
    w.placeOf (a.directoryOf root k) = a.home w root ++ [k.directory] := by
  rw [directoryOf, Workspace.placeOf_join k.plain_directory, directory,
    Workspace.placeOf_join plain, home]

/-- The way to an artifact: that of the root, and two directories more. -/
theorem mem_way_directoryOf (k : ArtifactKind) (d : Place) :
    d ∈ w.way (a.directoryOf root k) ↔
      d ∈ w.way root ∨ d = a.home w root ∨ d = a.home w root ++ [k.directory] := by
  rw [directoryOf, Workspace.mem_way_join k.plain_directory, directory,
    Workspace.mem_way_join plain, Workspace.placeOf_join plain, home, or_assoc]

/-- An artifact is located when its path is readable and all directories on the way are there. -/
theorem locate_path_eq_ok_iff (k : ArtifactKind) {p : Place} :
    w.locate (a.path (a.directory root) k) = .ok p ↔
      Workspace.Readable (a.path (a.directory root) k) ∧
      (∀ d ∈ w.way (a.directoryOf root k), w.tree.get? d = some .directory) ∧
      p = a.filePlace w root k := by
  rw [path_eq plain, Workspace.locate_join_eq_ok_iff (k.plain_fileName plain),
    placeOf_directoryOf plain, filePlace, List.append_assoc]
  rfl

end Paths

/-! ## What is changed at most -/

/-- The workspace is changed only below a place, except for directories made at other places. -/
structure Confined (home : Place) (places : List Place) (w w' : Workspace) : Prop where
  directory : w'.directory = w.directory
  ordinary : w.tree.Ordinary → w'.tree.Ordinary
  entries : ∀ q, ¬ home <+: q → w'.tree.get? q = w.tree.get? q ∨
    (w.tree.get? q = none ∧ w'.tree.get? q = some .directory ∧ q ∈ places)

namespace Confined

variable {home : Place} {places : List Place}

theorem refl (home : Place) (places : List Place) (w : Workspace) : Confined home places w w :=
  ⟨rfl, id, fun _ _ => .inl rfl⟩

theorem trans (first : Confined home places w w') (second : Confined home places w' w'') :
    Confined home places w w'' := by
  refine ⟨second.directory.trans first.directory, second.ordinary ∘ first.ordinary,
    fun q outside => ?_⟩
  rcases second.entries q outside with kept | ⟨absent, made, inside⟩
  · rw [kept]
    exact first.entries q outside
  · rcases first.entries q outside with kept | ⟨_, made', _⟩
    · exact .inr ⟨kept ▸ absent, made, inside⟩
    · rw [absent] at made'
      cases made'

theorem of_grows {made : List Place} (grows : Workspace.Grows made w w')
    (inside : ∀ d ∈ made, d ∈ places ∨ home <+: d) : Confined home places w w' :=
  ⟨grows.directory, grows.ordinary, fun q outside => (grows.entries q).imp_right
    fun ⟨absent, new, member⟩ => ⟨absent, new, (inside q member).resolve_right outside⟩⟩

/-- Putting something below the place. -/
theorem of_put {p : Place} {e : Entry} (below : home <+: p) (inner : p ≠ [])
    (ordinary : w.tree.Ordinary → (w.tree.put p e).Ordinary) :
    Confined home places w (w.withTree (w.tree.put p e)) := by
  refine ⟨rfl, ordinary, fun q outside => .inl ?_⟩
  have other : q ≠ p := by
    rintro rfl
    exact outside below
  simp only [Workspace.withTree, Tree.get?_put _ inner, if_neg other]

end Confined

variable {a}

/-! ## What stops the writing -/

theorem unwritable_of_writeOne {k : ArtifactKind} {failure : Failure}
    (failed : a.writeOne (a.directory root) w k = (some failure, w')) :
    ∃ path fault, failure = .unwritable path fault := by
  unfold writeOne at failed
  dsimp only at failed
  split at failed
  next =>
    cases failed
    exact ⟨_, _, rfl⟩
  next =>
    split at failed
    next => cases failed
    next =>
      cases failed
      exact ⟨_, _, rfl⟩

theorem unwritable_of_writeEach {ks : List ArtifactKind} {failure : Failure}
    (failed : a.writeEach (a.directory root) w ks = (some failure, w')) :
    ∃ path fault, failure = .unwritable path fault := by
  induction ks generalizing w with
  | nil => cases failed
  | cons k ks ih =>
    unfold writeEach at failed
    cases result : a.writeOne (a.directory root) w k with
    | mk first w₁ =>
      rw [result] at failed
      cases first with
      | none => exact ih failed
      | some first =>
        cases failed
        exact unwritable_of_writeOne result

theorem unwritable_of_clear {failure : Failure}
    (failed : clear w (a.directory root) = .error failure) :
    ∃ path fault, failure = .unwritable path fault := by
  unfold clear at failed
  split at failed
  next =>
    split at failed
    next => cases failed
    next =>
      cases failed
      exact ⟨_, _, rfl⟩
  next => cases failed

/-- Whatever stops the writing is said to be unwritable. -/
theorem unwritable_of_write {failure : Failure}
    (failed : a.write root w = (.error failure, w')) :
    ∃ path fault, failure = .unwritable path fault := by
  unfold write at failed
  dsimp only at failed
  cases cleared : clear w (a.directory root) with
  | error first =>
    rw [cleared] at failed
    cases failed
    exact unwritable_of_clear cleared
  | ok w₁ =>
    simp only [cleared] at failed
    cases result : a.writeEach (a.directory root) w₁ ArtifactKind.all with
    | mk first w₂ =>
      rw [result] at failed
      cases first with
      | none => cases failed
      | some first =>
        cases failed
        exact unwritable_of_writeEach result

/-! ## Writing -/

section Writing

variable (plain : Plain a.names.safe)

include plain

theorem way_directoryOf_inside (k : ArtifactKind) :
    ∀ d ∈ w.way (a.directoryOf root k), d ∈ w.way root ∨ a.home w root <+: d := by
  intro d member
  rcases (mem_way_directoryOf plain k d).mp member with onWay | rfl | rfl
  · exact .inl onWay
  · exact .inr (List.prefix_refl _)
  · exact .inr (List.prefix_append _ _)

/-- **What writing one artifact does.** It makes directories on the way. If it succeeds, it then
puts the file into the last of them. -/
theorem writeOne_cases (root : String) (k : ArtifactKind) (w : Workspace) :
    ∃ w₁, Workspace.Grows (w.way (a.directoryOf root k)) w w₁ ∧
      ((∃ failure, a.writeOne (a.directory root) w k = (some failure, w₁)) ∨
        (Workspace.Readable (a.path (a.directory root) k) ∧
          (∀ d ∈ w.way (a.directoryOf root k), w₁.tree.get? d = some .directory) ∧
          w₁.tree.get? (a.filePlace w root k) ≠ some .directory ∧
          a.writeOne (a.directory root) w k = (none, w₁.withTree
            (w₁.tree.put (a.filePlace w root k) (.file (a.get k).toUTF8))))) := by
  have grows := w.makeDirectories_grows (a.directoryOf root k)
  unfold writeOne
  dsimp only
  rw [parent?_path plain, Option.getD_some]
  cases made : w.makeDirectories (a.directoryOf root k) with
  | mk fault w₁ =>
    rw [made] at grows
    refine ⟨w₁, grows, ?_⟩
    cases fault with
    | some fault => exact .inl ⟨_, rfl⟩
    | none =>
      simp only
      cases written : w₁.write (a.path (a.directory root) k) (a.get k).toUTF8 with
      | error fault => exact .inl ⟨_, rfl⟩
      | ok w₂ =>
        obtain ⟨p, located, free, _, rfl⟩ := Workspace.write_eq_ok written
        obtain ⟨readable, directories, rfl⟩ := (locate_path_eq_ok_iff plain k).mp located
        rw [Workspace.way_congr grows.directory] at directories
        rw [a.filePlace_congr grows.directory] at free ⊢
        exact .inr ⟨readable, directories, free, rfl⟩

theorem writeOne_confined (root : String) (k : ArtifactKind) (w : Workspace) :
    Confined (a.home w root) (w.way root) w (a.writeOne (a.directory root) w k).2 := by
  obtain ⟨w₁, grows, ⟨failure, result⟩ | ⟨_, directories, free, result⟩⟩ :=
    writeOne_cases plain root k w
  · rw [result]
    exact .of_grows grows (way_directoryOf_inside plain k)
  · rw [result]
    refine (Confined.of_grows grows (way_directoryOf_inside plain k)).trans ?_
    refine .of_put (List.prefix_append _ _) (by simp [filePlace]) fun ordinary => ?_
    refine ordinary.put free (directories _ ?_) _
    rw [mem_way_directoryOf plain]
    refine .inr (.inr ?_)
    rw [filePlace, List.append_cons, List.dropLast_concat]

theorem writeEach_confined (root : String) (ks : List ArtifactKind) (w : Workspace) :
    Confined (a.home w root) (w.way root) w (a.writeEach (a.directory root) w ks).2 := by
  induction ks generalizing w with
  | nil => exact .refl _ _ w
  | cons k ks ih =>
    have first := writeOne_confined plain root k w
    unfold writeEach
    cases result : a.writeOne (a.directory root) w k with
    | mk failure w₁ =>
      rw [result] at first
      cases failure with
      | some failure => exact first
      | none =>
        have rest := ih w₁
        rw [a.home_congr first.directory, Workspace.way_congr first.directory] at rest
        exact first.trans rest

/-- What clearing does: nothing if there is nothing to be seen, and otherwise it empties the
place. -/
theorem clear_cases (cleared : clear w (a.directory root) = .ok w') :
    (w.has (a.directory root) = false ∧ w' = w) ∨
      w' = w.withTree (w.tree.prune (a.home w root)) := by
  unfold clear at cleared
  cases seen : w.has (a.directory root) with
  | false =>
    simp only [seen, Bool.false_eq_true, if_false, Except.ok.injEq] at cleared
    exact .inl ⟨rfl, cleared.symm⟩
  | true =>
    simp only [seen, if_true] at cleared
    cases removed : w.removeDirectory (a.directory root) with
    | error fault => rw [removed] at cleared; cases cleared
    | ok w₁ =>
      simp only [removed, Except.ok.injEq] at cleared
      subst cleared
      obtain ⟨p, located, _, rfl⟩ := Workspace.removeDirectory_eq_ok removed
      obtain ⟨_, _, rfl⟩ := (Workspace.locate_join_eq_ok_iff plain root).mp located
      exact .inr rfl

theorem clear_confined (cleared : clear w (a.directory root) = .ok w') :
    Confined (a.home w root) (w.way root) w w' := by
  rcases clear_cases plain cleared with ⟨_, rfl⟩ | rfl
  · exact .refl _ _ w'
  · have inner : a.home w root ≠ [] := by simp [home]
    refine ⟨rfl, fun ordinary => ordinary.prune inner, fun q outside => .inl ?_⟩
    simp only [Workspace.withTree, Tree.get?_prune _ inner, if_neg outside]

/-- **Writing artifacts changes nothing outside their place**, except that directories may be made
on the way of the root. This is so whether it succeeds or not. -/
theorem write_confined (root : String) (w : Workspace) :
    Confined (a.home w root) (w.way root) w (a.write root w).2 := by
  unfold write
  dsimp only
  cases cleared : clear w (a.directory root) with
  | error failure => exact .refl _ _ w
  | ok w₁ =>
    have first := clear_confined plain cleared
    have rest := writeEach_confined plain root ArtifactKind.all w₁
    rw [a.home_congr first.directory, Workspace.way_congr first.directory] at rest
    simp only
    cases result : a.writeEach (a.directory root) w₁ ArtifactKind.all with
    | mk failure w₂ =>
      rw [result] at rest
      cases failure with
      | some failure => exact first.trans rest
      | none => exact first.trans rest

end Writing

/-! ## What success leaves behind -/

/-- What writing artifacts of some kinds leaves behind when it succeeds: the files, the directories
on the way to them, and whatever else was there. -/
structure Wrote (a : Artifacts) (root : String) (ks : List ArtifactKind) (w w' : Workspace) :
    Prop where
  start : w'.directory = w.directory
  readable : ∀ k ∈ ks, Workspace.Readable (a.path (a.directory root) k)
  directories : ∀ k ∈ ks, ∀ d ∈ w.way (a.directoryOf root k), w'.tree.get? d = some .directory
  files : ∀ k ∈ ks, w'.tree.get? (a.filePlace w root k) = some (.file (a.get k).toUTF8)
  kept : ∀ d, w.tree.get? d = some .directory → w'.tree.get? d = some .directory
  others : ∀ q, (∀ k ∈ ks, q ≠ a.filePlace w root k) → w'.tree.get? q = w.tree.get? q ∨
    (w.tree.get? q = none ∧ w'.tree.get? q = some .directory ∧
      ∃ k ∈ ks, q ∈ w.way (a.directoryOf root k))

/-- Later files leave earlier ones alone. -/
theorem Wrote.cons {k : ArtifactKind} {ks : List ArtifactKind} (first : Wrote a root [k] w w')
    (rest : Wrote a root ks w' w'') : Wrote a root (k :: ks) w w'' := by
  obtain ⟨start, readable, directories, files, kept, others⟩ := first
  obtain ⟨start', readable', directories', files', kept', others'⟩ := rest
  simp only [List.mem_singleton, forall_eq, exists_eq_left] at readable directories files others
  simp only [Workspace.way_congr start] at directories' others'
  simp only [a.filePlace_congr start] at files' others'
  refine ⟨start'.trans start, ?_, ?_, ?_, fun d found => kept' d (kept d found), ?_⟩
  · exact List.forall_mem_cons.mpr ⟨readable, readable'⟩
  · exact List.forall_mem_cons.mpr ⟨fun d member => kept' d (directories d member), directories'⟩
  · refine List.forall_mem_cons.mpr ⟨?_, files'⟩
    by_cases again : k ∈ ks
    · exact files' k again
    · have apart : ∀ k' ∈ ks, a.filePlace w root k ≠ a.filePlace w root k' := by
        intro k' member same
        rw [a.filePlace_inj same] at again
        exact again member
      rcases others' _ apart with same | ⟨absent, _⟩
      · rw [same, files]
      · rw [files] at absent
        cases absent
  · intro q apart
    obtain ⟨other, apart'⟩ := List.forall_mem_cons.mp apart
    rcases others' q apart' with same | ⟨absent, made, k', member, onWay⟩
    · rw [same]
      refine (others q other).imp_right fun ⟨absent, made, onWay⟩ => ⟨absent, made, k, ?_, onWay⟩
      exact List.mem_cons_self
    · rcases others q other with same' | ⟨_, made', _⟩
      · exact .inr ⟨same' ▸ absent, made, k', List.mem_cons_of_mem k member, onWay⟩
      · rw [absent] at made'
        cases made'

/-- The place of the artifacts holds them and nothing else, and their paths can be read. -/
structure Holds (a : Artifacts) (root : String) (w : Workspace) : Prop where
  entries : ∀ q, w.tree.get? (a.home w root ++ q) = a.layout q
  readable : ∀ k, Workspace.Readable (a.path (a.directory root) k)

section Success

variable (plain : Plain a.names.safe)

include plain

theorem wrote_of_writeOne {k : ArtifactKind}
    (written : a.writeOne (a.directory root) w k = (none, w')) : Wrote a root [k] w w' := by
  obtain ⟨w₁, grows, ⟨failure, result⟩ | ⟨readable, directories, free, result⟩⟩ :=
    writeOne_cases plain root k w
  · rw [result] at written
    cases written
  · rw [result] at written
    cases written
    have put := w₁.tree.get?_put (p := a.filePlace w root k) (by simp [filePlace])
      (.file (a.get k).toUTF8)
    have standing {d : Place} (found : w₁.tree.get? d = some .directory) :
        (w₁.tree.put (a.filePlace w root k) (.file (a.get k).toUTF8)).get? d =
          some .directory := by
      rw [put, if_neg, found]
      rintro rfl
      exact free found
    refine ⟨grows.directory, ?_, ?_, ?_, fun d found => standing (grows.get?_eq found), ?_⟩
    · simpa only [List.mem_singleton, forall_eq] using readable
    · simp only [List.mem_singleton, forall_eq]
      exact fun d member => standing (directories d member)
    · simp only [List.mem_singleton, forall_eq, Workspace.withTree, put, if_true]
    · simp only [List.mem_singleton, forall_eq, exists_eq_left]
      intro q other
      simp only [Workspace.withTree, put, if_neg other]
      exact grows.entries q

theorem wrote_of_writeEach {ks : List ArtifactKind}
    (written : a.writeEach (a.directory root) w ks = (none, w')) : Wrote a root ks w w' := by
  induction ks generalizing w with
  | nil =>
    cases written
    exact ⟨rfl, by simp, by simp, by simp, fun _ => id, fun _ _ => .inl rfl⟩
  | cons k ks ih =>
    unfold writeEach at written
    cases result : a.writeOne (a.directory root) w k with
    | mk failure w₁ =>
      cases failure with
      | some failure =>
        rw [result] at written
        cases written
      | none =>
        rw [result] at written
        exact (wrote_of_writeOne plain result).cons (ih written)

/-- The path of the directory is readable if that of an artifact is. -/
theorem readable_directory {k : ArtifactKind}
    (readable : Workspace.Readable (a.path (a.directory root) k)) :
    Workspace.Readable (a.directory root) := by
  rw [path_eq plain] at readable
  have inner := readable.of_join (k.plain_fileName plain).relative
    (k.plain_directory.join_ne_empty _)
  exact inner.of_join k.plain_directory.relative (plain.join_ne_empty root)

/-- **A directory that is not cleared has nothing in it**, if its path can be read and what the root
passes by is there. -/
theorem none_of_not_has (ordinary : w.tree.Ordinary)
    (readable : Workspace.Readable (a.directory root))
    (settled : ∀ d ∈ w.way root, d <+: w.placeOf root ∨ w.tree.get? d = some .directory)
    (unseen : w.has (a.directory root) = false) : w.tree.get? (a.home w root) = none := by
  cases present : w.tree.get? (a.home w root) with
  | none => rfl
  | some e =>
    have directories : ∀ d ∈ w.way root, w.tree.get? d = some .directory := by
      intro d member
      rcases settled d member with ⟨more, above⟩ | found
      · refine ordinary.directory_above (more ++ [a.names.safe]) ?_ (by simp)
        rw [← List.append_assoc, above, ← home, present]
        simp
      · exact found
    have located := (Workspace.locate_join_eq_ok_iff plain root).mpr ⟨readable, directories, rfl⟩
    have seen := Workspace.has_of_locate located present
    rw [← directory, unseen] at seen
    cases seen

/-- **After success the place of the artifacts holds them and nothing else**, if what the root
passes by is there, and none of it is below the place. -/
theorem holds_of_write {files : WrittenFiles} (ordinary : w.tree.Ordinary)
    (written : a.write root w = (.ok files, w'))
    (settled : ∀ d ∈ w.way root, d <+: w.placeOf root ∨ w.tree.get? d = some .directory)
    (apart : ∀ d ∈ w.way root, a.home w root <+: d → d = a.home w root) :
    a.Holds root w' ∧ ∀ d ∈ w.way root, w'.tree.get? d = some .directory := by
  unfold write at written
  dsimp only at written
  cases cleared : clear w (a.directory root) with
  | error failure => rw [cleared] at written; cases written
  | ok w₁ =>
    simp only [cleared] at written
    have start := (clear_confined plain cleared).directory
    cases result : a.writeEach (a.directory root) w₁ ArtifactKind.all with
    | mk failure w₂ =>
      cases failure with
      | some failure => rw [result] at written; cases written
      | none =>
        rw [result] at written
        cases written
        have wrote := wrote_of_writeEach plain result
        have readable k := wrote.readable k k.mem_all
        have directories k := wrote.directories k k.mem_all
        have contents k := wrote.files k k.mem_all
        have others := wrote.others
        simp only [Workspace.way_congr start, mem_way_directoryOf plain] at directories others
        simp only [a.filePlace_congr start] at contents others
        -- the place is empty before the files are written
        have emptied : ∀ q, w₁.tree.get? (a.home w root ++ q) = none := by
          intro q
          rcases clear_cases plain cleared with ⟨unseen, rfl⟩ | rfl
          · have absent := none_of_not_has plain ordinary
              (readable_directory plain (readable .feature)) settled unseen
            exact ordinary.none_below absent (List.prefix_append _ q)
          · simp only [Workspace.withTree]
            rw [Tree.get?_prune _ (by simp [home]), if_pos (List.prefix_append _ q)]
        have absent : ∀ q, q ≠ [] → (∀ k : ArtifactKind, q ≠ [k.directory]) →
            (∀ k : ArtifactKind, q ≠ [k.directory, k.fileName a.names.safe]) →
            w'.tree.get? (a.home w root ++ q) = none := by
          intro q inner noDirectory noFile
          rcases others (a.home w root ++ q) fun k _ same =>
              noFile k (List.append_cancel_left same) with same | ⟨_, _, k, _, onWay⟩
          · rw [same, emptied]
          · rcases onWay with passed | home | own
            · have end_ := apart _ passed (List.prefix_append _ q)
              exact absurd (List.append_right_eq_self.mp end_) inner
            · exact absurd (List.append_right_eq_self.mp home) inner
            · exact absurd (List.append_cancel_left own) (noDirectory k)
        refine ⟨⟨?_, readable⟩, fun d member => directories .feature d (.inl member)⟩
        rw [a.home_congr (wrote.start.trans start)]
        refine a.eq_layout ?top ?directories contents absent
        case top =>
          rw [List.append_nil]
          exact directories .feature _ (.inr (.inl rfl))
        case directories => exact fun k => directories k _ (.inr (.inr rfl))

/-- **Artifacts that are held can be read by their paths**, if the way to them is of directories. -/
theorem Holds.readText (holds : a.Holds root w)
    (directories : ∀ d ∈ w.way root, w.tree.get? d = some .directory) (k : ArtifactKind) :
    w.readText (a.path (a.directory root) k) = .ok (a.get k) := by
  have onWay : ∀ d ∈ w.way (a.directoryOf root k), w.tree.get? d = some .directory := by
    intro d member
    rcases (mem_way_directoryOf plain k d).mp member with passed | rfl | rfl
    · exact directories d passed
    · have top := holds.entries []
      rwa [List.append_nil] at top
    · rw [holds.entries, layout_directory]
  have located := (locate_path_eq_ok_iff plain k).mpr ⟨holds.readable k, onWay, rfl⟩
  have content := Workspace.read_of_locate located ((holds.entries _).trans (a.layout_file k))
  rw [Workspace.readText, content]
  simp only [Text.Utf8.decode?_toUTF8]

end Success

end Artifacts

end TestPlanner
