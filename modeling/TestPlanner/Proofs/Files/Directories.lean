import TestPlanner.Proofs.Files.Route
import TestPlanner.Proofs.Files.Tree

/-!
# What the operations on files change

Making directories never changes what is there: the workspace grows by directories on the way of the
path (`Grows`), also when it fails half-way (`makeDirectories_grows`). Writing sets one place, which
must not be a directory, and removing empties the place of a directory and all below it.
-/

set_option autoImplicit false

namespace TestPlanner.Files.Workspace

variable {w w' w'' : Workspace} {path : String} {p : Place} {places more : List Place}

/-- Every path has a last component, if only an empty one. -/
theorem exists_last_component (path : String) :
    ∃ names last, components path = names ++ [last] :=
  (List.eq_nil_or_concat' (components path)).resolve_left (by simp [components])

/-- A path is located where it leads. -/
theorem placeOf_of_locate (located : w.locate path = .ok p) : p = w.placeOf path := by
  obtain ⟨names, last, split⟩ := exists_last_component path
  exact ((locate_eq_ok_iff split).mp located).2.2

/-! ## Making directories -/

/-- The workspace grew by directories at some places: it still starts paths from the same place, and
nothing that was there has changed. -/
structure Grows (places : List Place) (w w' : Workspace) : Prop where
  directory : w'.directory = w.directory
  ordinary : w.tree.Ordinary → w'.tree.Ordinary
  entries : ∀ q, w'.tree.get? q = w.tree.get? q ∨
    (w.tree.get? q = none ∧ w'.tree.get? q = some .directory ∧ q ∈ places)

namespace Grows

theorem refl (places : List Place) (w : Workspace) : Grows places w w :=
  ⟨rfl, id, fun _ => .inl rfl⟩

theorem trans (first : Grows places w w') (second : Grows places w' w'') :
    Grows places w w'' := by
  refine ⟨second.directory.trans first.directory, second.ordinary ∘ first.ordinary, fun q => ?_⟩
  rcases second.entries q with kept | ⟨absent, made, inside⟩
  · rw [kept]
    exact first.entries q
  · rcases first.entries q with kept | ⟨_, made', _⟩
    · exact .inr ⟨kept ▸ absent, made, inside⟩
    · rw [absent] at made'
      cases made'

theorem mono (grows : Grows places w w') (inside : ∀ q ∈ places, q ∈ more) : Grows more w w' :=
  ⟨grows.directory, grows.ordinary, fun q => (grows.entries q).imp_right
    fun ⟨absent, made, member⟩ => ⟨absent, made, inside q member⟩⟩

/-- What is there stays. -/
theorem get?_eq (grows : Grows places w w') {q : Place} {e : Entry}
    (present : w.tree.get? q = some e) : w'.tree.get? q = some e := by
  rcases grows.entries q with kept | ⟨absent, _⟩
  · rw [kept, present]
  · rw [absent] at present
    cases present

end Grows

theorem makeDirectory_grows (made : w.makeDirectory path = .ok w') :
    Grows (w.way path) w w' := by
  unfold makeDirectory at made
  cases located : w.locate path with
  | error fault => rw [located] at made; cases made
  | ok p =>
    simp only [located] at made
    split at made
    next => cases made
    next free =>
      have absent : w.tree.get? p = none := by simpa using free
      have inner : p ≠ [] := by
        rintro rfl
        cases absent
      cases above : w.tree.get? p.dropLast with
      | none => rw [above] at made; cases made
      | some e =>
        cases e with
        | file content => rw [above] at made; cases made
        | directory =>
          simp only [above, Except.ok.injEq] at made
          subst made
          refine ⟨rfl, fun ordinary => ?_, fun q => ?_⟩
          · exact ordinary.put (by rw [absent]; simp) above _
          · simp only [withTree, Tree.get?_put _ inner]
            split
            next same =>
              subst same
              refine .inr ⟨absent, rfl, ?_⟩
              rw [placeOf_of_locate located]
              exact placeOf_mem_way w path
            next => exact .inl rfl

theorem ensureDirectory_grows (made : w.ensureDirectory path = .ok w') :
    Grows (w.way path) w w' := by
  unfold ensureDirectory at made
  cases result : w.makeDirectory path with
  | ok w₁ =>
    rw [result] at made
    cases made
    exact makeDirectory_grows result
  | error fault =>
    simp only [result] at made
    split at made
    next =>
      cases made
      exact .refl _ w
    next => cases made

/-- Making directories grows the workspace on the ways of the paths tried. -/
theorem makeDirectoriesBelow_grows (above : List String)
    (inside : ∀ q ∈ path :: above, ∀ d ∈ w.way q, d ∈ places) :
    Grows places w (w.makeDirectoriesBelow path above).2 := by
  induction above generalizing w path with
  | nil =>
    unfold makeDirectoriesBelow
    split
    next => exact .refl places w
    next =>
      cases result : w.ensureDirectory path with
      | ok w₁ => exact (ensureDirectory_grows result).mono (inside path List.mem_cons_self)
      | error fault => exact .refl places w
  | cons parent above ih =>
    have own {v v' : Workspace} (same : v.directory = w.directory)
        (made : v.ensureDirectory path = .ok v') : Grows places v v' :=
      (ensureDirectory_grows made).mono fun d member =>
        inside path List.mem_cons_self d (way_congr same path ▸ member)
    unfold makeDirectoriesBelow
    split
    next => exact .refl places w
    next =>
      cases first : w.ensureDirectory path with
      | ok w₁ => exact own rfl first
      | error fault =>
        have higher : Grows places w (w.makeDirectoriesBelow parent above).2 :=
          ih fun q member => inside q (List.mem_cons_of_mem _ member)
        cases fault with
        | notFound =>
          simp only
          cases result : w.makeDirectoriesBelow parent above with
          | mk failed w₁ =>
            rw [result] at higher
            cases failed with
            | some fault => exact higher
            | none =>
              simp only
              cases second : w₁.ensureDirectory path with
              | ok w₂ => exact higher.trans (own higher.directory second)
              | error fault => exact higher
        | _ => exact .refl places w

/-- The paths above a path start where it does, and have the first of its steps. -/
theorem steps_of_mem_directoriesAbove {limit : Nat} {q : String}
    (member : q ∈ directoriesAbove path limit) :
    isAbsolute q = isAbsolute path ∧ steps q <+: steps path := by
  induction limit generalizing path with
  | zero => cases member
  | succ limit ih =>
    rw [directoriesAbove] at member
    cases above : parent? path with
    | none =>
      rw [above] at member
      cases member
    | some parent =>
      obtain ⟨start, front⟩ := steps_of_parent? above
      simp only [above] at member
      rcases List.mem_cons.mp member with rfl | higher
      · exact ⟨start, front⟩
      · obtain ⟨start', front'⟩ := ih higher
        exact ⟨start'.trans start, front'.trans front⟩

/-- **Making a directory and those on the way to it** changes nothing that is there, whether it
succeeds or not. -/
theorem makeDirectories_grows (w : Workspace) (path : String) :
    Grows (w.way path) w (w.makeDirectories path).2 := by
  refine makeDirectoriesBelow_grows _ fun q member d onWay => ?_
  rcases List.mem_cons.mp member with rfl | above
  · exact onWay
  · obtain ⟨start, more, front⟩ := steps_of_mem_directoriesAbove above
    rw [way, Workspace.start, start, ← Workspace.start.eq_1] at onWay
    rw [way, ← front, mem_route_append]
    exact .inl onWay

/-! ## Directories that are there -/

/-- A path leads to a directory if it is readable and everything on its way is one. -/
theorem isDirectory_of_way (readable : Readable path)
    (directories : ∀ d ∈ w.way path, w.tree.get? d = some .directory) :
    w.isDirectory path = true := by
  obtain ⟨names, last, split⟩ := exists_last_component path
  have located : w.locate path = .ok (w.placeOf path) := by
    refine (locate_eq_ok_iff split).mpr ⟨readable, fun d onWay => directories d ?_, rfl⟩
    rw [way, steps, split, List.filter_append, mem_route_append]
    exact .inl onWay
  have there : w.tree.get? (w.placeOf path) = some .directory :=
    directories _ (placeOf_mem_way w path)
  rw [isDirectory, get?, located]
  simp only [there]

/-- The path above one that can be located is empty, or leads to a directory. -/
theorem isDirectory_parent {parent : String} (located : w.locate path = .ok p)
    (above : parent? path = some parent) : parent = "" ∨ w.isDirectory parent = true := by
  rcases parent?_cases above with ⟨empty, _⟩ | ⟨more, rfl, nonempty⟩ | ⟨rfl, _⟩
  · exact .inl empty
  · refine .inr ?_
    obtain ⟨names, last, split⟩ := exists_last_component more
    have whole : components (parent ++ "/" ++ more) = (components parent ++ names) ++ [last] := by
      rw [components_append_slash, split, List.append_assoc]
    obtain ⟨readable, directories, _⟩ := (locate_eq_ok_iff whole).mp located
    refine isDirectory_of_way (readable.of_append_slash nonempty) fun d onWay => directories d ?_
    obtain ⟨start, _⟩ := steps_of_parent? above
    rw [way, Workspace.start, start, ← Workspace.start.eq_1] at onWay
    rw [List.filter_append, mem_route_append]
    exact .inl onWay
  · refine .inr (isDirectory_of_way ⟨by decide, by decide, by decide, by decide⟩ fun d onWay => ?_)
    have root : w.way "/" = [[]] := rfl
    rw [root, List.mem_singleton] at onWay
    rw [onWay, Tree.get?_nil]

/-- A directory that is there need not be made. -/
theorem ensureDirectory_of_isDirectory (there : w.isDirectory path = true) :
    w.ensureDirectory path = .ok w := by
  have occupied : w.makeDirectory path = .error .exists := by
    unfold isDirectory get? at there
    unfold makeDirectory
    cases located : w.locate path with
    | error fault => rw [located] at there; cases there
    | ok p =>
      rw [located] at there
      cases entry : w.tree.get? p with
      | none => simp only [entry] at there; cases there
      | some e => simp only [entry, Option.isSome_some, if_true]
  rw [ensureDirectory, occupied]
  simp only [there, if_true]

/-- Nothing is made of an empty path, or of one that leads to a directory. -/
theorem makeDirectories_of_isDirectory (there : path = "" ∨ w.isDirectory path = true) :
    w.makeDirectories path = (none, w) := by
  unfold makeDirectories
  generalize directoriesAbove path (path.length + 1) = above
  by_cases empty : path.isEmpty = true
  · cases above <;> rw [makeDirectoriesBelow, if_pos empty]
  · have present : w.ensureDirectory path = .ok w :=
      ensureDirectory_of_isDirectory
        (there.resolve_left fun same => empty (String.isEmpty_iff.mpr same))
    cases above <;> rw [makeDirectoriesBelow, if_neg empty, present]

/-! ## Writing, removing and reading -/

/-- Writing sets the place of the path, which is no directory. -/
theorem write_eq_ok {content : ByteArray} (written : w.write path content = .ok w') :
    ∃ p, w.locate path = .ok p ∧ w.tree.get? p ≠ some .directory ∧
      (w.tree.get? p = none → w.tree.get? p.dropLast = some .directory) ∧
      w' = w.withTree (w.tree.put p (.file content)) := by
  unfold write at written
  cases located : w.locate path with
  | error fault => rw [located] at written; cases written
  | ok p =>
    simp only [located] at written
    refine ⟨p, rfl, ?_⟩
    cases entry : w.tree.get? p with
    | some e =>
      cases e with
      | directory => rw [entry] at written; cases written
      | file old =>
        simp only [entry, Except.ok.injEq] at written
        exact ⟨by simp, by simp, written.symm⟩
    | none =>
      simp only [entry] at written
      split at written
      next above =>
        cases written
        exact ⟨by simp, fun _ => above, rfl⟩
      next => cases written
      next => cases written

/-- Removing empties the place of the path, which is a directory, and all below it. -/
theorem removeDirectory_eq_ok (removed : w.removeDirectory path = .ok w') :
    ∃ p, w.locate path = .ok p ∧ w.tree.get? p = some .directory ∧
      w' = w.withTree (w.tree.prune p) := by
  unfold removeDirectory at removed
  cases located : w.locate path with
  | error fault => rw [located] at removed; cases removed
  | ok p =>
    simp only [located] at removed
    split at removed
    next entry =>
      cases removed
      exact ⟨p, rfl, entry, rfl⟩
    next => cases removed
    next => cases removed

/-- A path names something if it can be located and there is an entry. -/
theorem has_of_locate {e : Entry} (located : w.locate path = .ok p)
    (present : w.tree.get? p = some e) : w.has path = true := by
  rw [has, get?]
  simp only [located, present]
  rfl

theorem read_of_locate {content : ByteArray} (located : w.locate path = .ok p)
    (present : w.tree.get? p = some (.file content)) : w.read path = .ok content := by
  rw [read, get?]
  simp only [located, present]

theorem get?_eq_ok_iff {e : Entry} :
    w.get? path = .ok e ↔ ∃ p, w.locate path = .ok p ∧ w.tree.get? p = some e := by
  unfold get?
  cases w.locate path with
  | error fault => exact iff_of_false nofun nofun
  | ok p =>
    simp only [Except.ok.injEq, exists_eq_left']
    cases w.tree.get? p <;> simp

/-- A file that is there can be replaced. -/
theorem exists_write_of_file {old : ByteArray} (existing : w.get? path = .ok (.file old))
    (content : ByteArray) : ∃ w', w.write path content = .ok w' := by
  obtain ⟨p, located, present⟩ := get?_eq_ok_iff.mp existing
  unfold write
  simp only [located, present]
  exact ⟨_, rfl⟩

/-- A path is located as before once something has been put where it leads: no directory on the way
is replaced. -/
theorem locate_put (located : w.locate path = .ok p) (free : w.tree.get? p ≠ some .directory)
    (e : Entry) : (w.withTree (w.tree.put p e)).locate path = .ok p := by
  have inner : p ≠ [] := by
    rintro rfl
    exact free rfl
  obtain ⟨names, last, split⟩ := exists_last_component path
  obtain ⟨readable, directories, place⟩ := (locate_eq_ok_iff split).mp located
  refine (locate_eq_ok_iff split).mpr ⟨readable, fun d onWay => ?_, place⟩
  have directory : w.tree.get? d = some .directory := directories d onWay
  have other : d ≠ p := by
    rintro rfl
    exact free directory
  rw [withTree, Tree.get?_put _ inner, if_neg other, directory]

/-- **What was written is there.** -/
theorem get?_of_write {content : ByteArray} (written : w.write path content = .ok w') :
    ∃ p, w'.locate path = .ok p ∧ w'.tree.get? p = some (.file content) := by
  obtain ⟨p, located, free, _, rfl⟩ := write_eq_ok written
  have inner : p ≠ [] := by
    rintro rfl
    exact free rfl
  refine ⟨p, locate_put located free _, ?_⟩
  rw [withTree, Tree.get?_put _ inner, if_pos rfl]

end TestPlanner.Files.Workspace
