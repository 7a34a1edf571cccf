import TestPlanner.Artifact.Kind
import TestPlanner.Proofs.Files.Path
import TestPlanner.Proofs.Naming.Identifier

/-!
# The names that artifacts share

The page object's class and its instance are made from the letters and digits of the feature name.
If the name has any, the class begins with a capital and the instance with a small letter, letters
and digits follow, and both end in `Page` (`pageClass_form`, `pageInstance_form`). No other name in
the scripts is of that form.

The directories and files of the artifacts have plain names: each leads one place further down.
-/

set_option autoImplicit false

namespace TestPlanner

open Text Files

/-! ## The start of an identifier -/

/-- The letters and digits of a safe name. -/
theorem alphanumeric_safeName (p : Plan) :
    ∀ c ∈ p.safeName.toList, isAsciiAlphanumeric c = true := by
  intro c member
  rw [Plan.safeName, Naming.stripped, String.toList_ofList] at member
  exact Naming.mem_alphanumerics member

/-- The start of an identifier has letters and digits only. -/
theorem alphanumeric_identifierStart {safe : String}
    (kept : ∀ c ∈ safe.toList, isAsciiAlphanumeric c = true) :
    ∀ c ∈ (identifierStart safe).toList, isAsciiAlphanumeric c = true := by
  intro c member
  unfold identifierStart at member
  split at member
  · split at member
    · rw [String.toList_append, List.mem_append] at member
      rcases member with word | own
      · exact List.all_eq_true.mp (by decide : "Feature".toList.all isAsciiAlphanumeric = true)
          c word
      · exact kept c own
    · exact kept c member
  · exact kept c member

/-- The start of an identifier is a letter. -/
theorem exists_letter_identifierStart {safe : String}
    (kept : ∀ c ∈ safe.toList, isAsciiAlphanumeric c = true) (nonempty : safe.isEmpty = false) :
    ∃ c rest, (identifierStart safe).toList = c :: rest ∧ isAsciiLetter c = true ∧
      ∀ d ∈ rest, isAsciiAlphanumeric d = true := by
  have all := alphanumeric_identifierStart kept
  have starts : ∃ c rest, (identifierStart safe).toList = c :: rest ∧ isAsciiLetter c = true := by
    unfold identifierStart
    cases chars : safe.toList with
    | nil =>
      rw [String.toList_eq_nil_iff] at chars
      rw [chars] at nonempty
      exact absurd nonempty (by decide)
    | cons c rest =>
      by_cases digit : isAsciiDigit c = true
      · have word : "Feature".toList = 'F' :: "eature".toList := by decide
        simp only [digit, if_true, String.toList_append, word, List.cons_append]
        exact ⟨_, _, rfl, by decide⟩
      · have own := kept c (by simp [chars])
        simp only [isAsciiAlphanumeric, digit, Bool.or_false] at own
        simp only [digit, Bool.false_eq_true, if_false, chars]
        exact ⟨_, _, rfl, own⟩
  obtain ⟨c, rest, split, letter⟩ := starts
  refine ⟨c, rest, split, letter, fun d member => all d ?_⟩
  rw [split]
  exact List.mem_cons_of_mem c member

/-! ## Class and instance -/

namespace ArtifactNames

variable {p : Plan}

/-- **The class of a usable feature name** begins with a capital and ends in `Page`. -/
theorem pageClass_form (usable : p.safeName.isEmpty = false) :
    ∃ c rest, (ofPlan p).pageClass.toList = c :: (rest ++ "Page".toList) ∧
      isAsciiUpper c = true ∧ ∀ d ∈ rest, isAsciiAlphanumeric d = true := by
  obtain ⟨c, rest, split, letter, others⟩ :=
    exists_letter_identifierStart (alphanumeric_safeName p) usable
  obtain ⟨d, form, capital⟩ := Naming.upperChar_of_isAsciiLetter letter
  refine ⟨d, rest, ?_, capital, others⟩
  simp only [ofPlan, Naming.capitalized, split, capitalizeFirst, form, String.toList_append,
    String.toList_ofList, List.cons_append, List.nil_append]

/-- **The instance of a usable feature name** begins with a small letter and ends in `Page`. -/
theorem pageInstance_form (usable : p.safeName.isEmpty = false) :
    ∃ c rest, (ofPlan p).pageInstance.toList = c :: (rest ++ "Page".toList) ∧
      isAsciiLower c = true ∧ ∀ d ∈ rest, isAsciiAlphanumeric d = true := by
  obtain ⟨c, rest, split, letter, others⟩ :=
    exists_letter_identifierStart (alphanumeric_safeName p) usable
  obtain ⟨d, form, small⟩ := Naming.lowerChar_of_isAsciiLetter letter
  refine ⟨d, rest, ?_, small, others⟩
  simp only [ofPlan, Naming.uncapitalized, split, lowerFirst, form, String.toList_append,
    String.toList_ofList, List.cons_append, List.nil_append]

/-- Class and instance of any feature name are ASCII letters and digits. -/
theorem alphanumeric_ofPlan (p : Plan) :
    (∀ c ∈ (ofPlan p).pageClass.toList, isAsciiAlphanumeric c = true) ∧
      ∀ c ∈ (ofPlan p).pageInstance.toList, isAsciiAlphanumeric c = true := by
  have word : ∀ d ∈ "Page".toList, isAsciiAlphanumeric d = true :=
    List.all_eq_true.mp (by decide : "Page".toList.all isAsciiAlphanumeric = true)
  by_cases usable : p.safeName.isEmpty = false
  · have both : ∀ (c : Char) (rest : List Char), isAsciiAlphanumeric c = true →
        (∀ d ∈ rest, isAsciiAlphanumeric d = true) →
        ∀ d ∈ c :: (rest ++ "Page".toList), isAsciiAlphanumeric d = true := by
      intro c rest first others d member
      rcases List.mem_cons.mp member with rfl | later
      · exact first
      · exact (List.mem_append.mp later).elim (others d) (word d)
    obtain ⟨c, rest, form, capital, others⟩ := pageClass_form usable
    obtain ⟨c', rest', form', small, others'⟩ := pageInstance_form usable
    rw [form, form']
    exact ⟨both c rest (by simp [isAsciiAlphanumeric, isAsciiLetter, capital]) others,
      both c' rest' (by simp [isAsciiAlphanumeric, isAsciiLetter, small]) others'⟩
  · have empty : p.safeName = "" := String.isEmpty_iff.mp (by simpa using usable)
    have bare : (ofPlan p).pageClass = "Page" ∧ (ofPlan p).pageInstance = "Page" := by
      simp only [ofPlan, empty]
      decide
    rw [bare.1, bare.2]
    exact ⟨word, word⟩

end ArtifactNames

/-! ## Directories and files -/

/-- The letters and digits of a feature name, if there are any, make a plain name. -/
theorem plain_safeName {p : Plan} (usable : p.safeName.isEmpty = false) : Plain p.safeName := by
  have kept := alphanumeric_safeName p
  have odd {c : Char} (other : Text.isAsciiAlphanumeric c = false) : c ∉ p.safeName.toList := by
    intro member
    rw [kept c member] at other
    cases other
  have dotted {name : String} (dot : '.' ∈ name.toList) : p.safeName ≠ name := by
    rintro same
    exact odd (c := '.') (by decide) (same ▸ dot)
  refine ⟨odd (by decide), ?_, dotted (by decide)⟩
  have filled : (p.safeName == "") = false := by simpa using usable
  rw [leads, filled, beq_false_of_ne (dotted (by decide))]
  rfl

namespace ArtifactKind

theorem plain_directory (k : ArtifactKind) : Plain k.directory := by cases k <;> decide

/-- The file names for a plain name are plain. -/
theorem plain_fileName (k : ArtifactKind) {safe : String} (plain : Plain safe) :
    Plain (k.fileName safe) := by
  have noSlash : '/' ∉ (k.fileName safe).toList := by
    rw [fileName, String.toList_append, List.mem_append, not_or]
    refine ⟨plain.1, ?_⟩
    cases k <;> decide
  have long : 8 ≤ (k.fileName safe).toList.length := by
    rw [fileName, String.toList_append, List.length_append]
    have ending : 8 ≤ k.fileEnding.toList.length := by cases k <;> decide
    omega
  have other {name : String} (short : name.toList.length < 8) : k.fileName safe ≠ name := by
    rintro same
    rw [same] at long
    omega
  refine ⟨noSlash, ?_, other (by decide)⟩
  rw [leads, beq_false_of_ne (other (by decide)), beq_false_of_ne (other (by decide))]
  rfl

end ArtifactKind

end TestPlanner
