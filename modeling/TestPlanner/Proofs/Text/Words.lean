import TestPlanner.Proofs.Text.Trim

/-!
# Pieces and words

A text is cut into pieces at separators, and pieces are joined again. What a piece holds is in the
text, and the separators are in none of them (`not_of_mem_splitOnP`).

**Words.** The words of a text are the pieces between its blanks. They are read off from left to
right: a blank is passed over, and a word ends at a blank or with the text (`wordInduction`). Words
that are joined by spaces are read back (`words_joinWith`), and they hold all that is visible in a
text (`flatten_words`). A text whose runs of blanks are collapsed, and which is trimmed then,
consists of its words with single spaces between them (`trim_collapseBlanks`).
-/

set_option autoImplicit false

namespace TestPlanner

open Text

/-! ## Pieces -/

/-- The first piece of a text ends at its first separator. -/
theorem splitOnP_eq_cons (p : Char → Bool) (s : List Char) :
    ∃ rest, s.splitOnP p = s.takeWhile (fun c => !p c) :: rest := by
  have free : ∀ c ∈ s.takeWhile (fun c => !p c), p c = false := by
    intro c member
    simpa using List.mem_takeWhile_imp member
  have split := List.takeWhile_append_dropWhile (p := fun c => !p c) (l := s)
  cases later : s.dropWhile (fun c => !p c) with
  | nil =>
    rw [later, List.append_nil] at split
    refine ⟨[], ?_⟩
    rw [← List.splitOnP_eq_singleton free, split]
  | cons separator rest =>
    have separates : p separator = true := by
      have := List.head?_dropWhile_not (fun c => !p c) s
      rw [later] at this
      simpa using this
    refine ⟨rest.splitOnP p, ?_⟩
    rw [← List.splitOnP_append_cons_of_forall_mem free separator separates, ← later, split]

theorem joinWith_cons_cons (separator piece next : List Char) (pieces : List (List Char)) :
    joinWith separator (piece :: next :: pieces) =
      piece ++ separator ++ joinWith separator (next :: pieces) := rfl

/-- The first of joined pieces comes first. -/
theorem prefix_joinWith (separator piece : List Char) (pieces : List (List Char)) :
    piece <+: joinWith separator (piece :: pieces) := by
  cases pieces with
  | nil => exact List.prefix_refl _
  | cons next pieces =>
    rw [joinWith_cons_cons, List.append_assoc]
    exact List.prefix_append _ _

/-- The pieces of a text have no separator. -/
theorem not_of_mem_splitOnP {p : Char → Bool} {s piece : List Char}
    (member : piece ∈ s.splitOnP p) : ∀ c ∈ piece, p c = false := by
  induction s generalizing piece with
  | nil =>
    rw [List.splitOnP_nil, List.mem_singleton] at member
    rw [member]
    exact fun c listed => nomatch listed
  | cons d s ih =>
    rw [List.splitOnP_cons_eq_if_modifyHead] at member
    split at member
    next separates =>
      rcases List.mem_cons.mp member with rfl | later
      · exact fun c listed => nomatch listed
      · exact ih later
    next other =>
      cases pieces : s.splitOnP p with
      | nil => exact absurd pieces (List.splitOnP_ne_nil p s)
      | cons first rest =>
        rw [pieces, List.modifyHead_cons] at member
        rw [pieces] at ih
        rcases List.mem_cons.mp member with rfl | later
        · intro c listed
          rcases List.mem_cons.mp listed with rfl | inner
          · exact Bool.eq_false_iff.mpr other
          · exact ih List.mem_cons_self c inner
        · exact ih (List.mem_cons_of_mem first later)

/-- What is joined comes from the separator or a piece. -/
theorem mem_joinWith {separator : List Char} {pieces : List (List Char)} {c : Char}
    (member : c ∈ joinWith separator pieces) :
    c ∈ separator ∨ ∃ piece ∈ pieces, c ∈ piece := by
  fun_induction joinWith separator pieces with
  | case1 => cases member
  | case2 piece => exact .inr ⟨piece, List.mem_singleton_self piece, member⟩
  | case3 piece pieces _ ih =>
    rcases List.mem_append.mp member with front | later
    · rcases List.mem_append.mp front with own | between
      · exact .inr ⟨piece, List.mem_cons_self, own⟩
      · exact .inl between
    · rcases ih later with between | ⟨other, listed, own⟩
      · exact .inl between
      · exact .inr ⟨other, List.mem_cons_of_mem piece listed, own⟩

/-- Whatever is in a piece is in the joined text. -/
theorem mem_joinWith_of_mem {separator piece : List Char} {pieces : List (List Char)} {c : Char}
    (listed : piece ∈ pieces) (member : c ∈ piece) : c ∈ joinWith separator pieces := by
  fun_induction joinWith separator pieces with
  | case1 => cases listed
  | case2 only =>
    rw [List.mem_singleton] at listed
    exact listed ▸ member
  | case3 first pieces _ ih =>
    rcases List.mem_cons.mp listed with rfl | later
    · exact List.mem_append_left _ (List.mem_append_left _ member)
    · exact List.mem_append_right _ (ih later)

/-- The pieces of a text, joined, are the text without its separators. -/
theorem flatten_splitOnP (p : Char → Bool) (s : List Char) :
    (s.splitOnP p).flatten = s.filter fun c => !p c := by
  induction s with
  | nil => rfl
  | cons c s ih =>
    rw [List.splitOnP_cons_eq_if_modifyHead]
    split
    next separates =>
      rw [List.flatten_cons, ih, List.nil_append, List.filter_cons_of_neg (by simp [separates])]
    next other =>
      rw [List.filter_cons_of_pos (by simp [other]), ← ih]
      cases pieces : s.splitOnP p with
      | nil => exact absurd pieces (List.splitOnP_ne_nil p s)
      | cons first rest => rfl

/-- What a filter keeps of joined pieces, it keeps of the pieces, unless it keeps separators. -/
theorem filter_joinWith {separator : List Char} {keep : Char → Bool}
    (dropped : separator.filter keep = []) (pieces : List (List Char)) :
    (joinWith separator pieces).filter keep = pieces.flatten.filter keep := by
  fun_induction joinWith separator pieces with
  | case1 => rfl
  | case2 piece => rw [List.flatten_singleton]
  | case3 piece pieces _ ih =>
    rw [List.filter_append, List.filter_append, dropped, List.append_nil, ih, List.flatten_cons,
      List.filter_append]

/-- Joined pieces that are not empty are not empty. -/
theorem joinWith_ne_nil {separator piece : List Char} (nonempty : piece ≠ [])
    (pieces : List (List Char)) : joinWith separator (piece :: pieces) ≠ [] := by
  intro empty
  have front := prefix_joinWith separator piece pieces
  rw [empty, List.prefix_nil] at front
  exact nonempty front

/-- **Joined pieces are read back,** if the separator is in none of them. -/
theorem splitOnP_joinWith {p : Char → Bool} {c : Char} (separates : p c = true)
    {pieces : List (List Char)} (nonempty : pieces ≠ [])
    (free : ∀ piece ∈ pieces, ∀ d ∈ piece, p d = false) :
    (joinWith [c] pieces).splitOnP p = pieces := by
  fun_induction joinWith [c] pieces with
  | case1 => exact absurd rfl nonempty
  | case2 piece => exact List.splitOnP_eq_singleton (free piece List.mem_cons_self)
  | case3 piece pieces more ih =>
    obtain ⟨first, later⟩ := List.forall_mem_cons.mp free
    rw [List.append_assoc, List.singleton_append,
      List.splitOnP_append_cons_of_forall_mem first c separates, ih more later]

/-- The lines of joined lines, trimmed, are those that are not blank. -/
theorem nonblankLines_joinWith {lines : List (List Char)} (nonempty : lines ≠ [])
    (unbroken : ∀ line ∈ lines, '\n' ∉ line) :
    nonblankLines (joinWith ['\n'] lines) = (lines.map trim).filter fun line => !line.isEmpty := by
  have free : ∀ line ∈ lines, ∀ c ∈ line, (c == '\n') = false := by
    intro line listed c member
    refine beq_eq_false_iff_ne.mpr ?_
    rintro rfl
    exact unbroken line listed member
  have pieces : (joinWith ['\n'] lines).splitOnP (· == '\n') = lines :=
    splitOnP_joinWith (by decide) nonempty free
  rw [nonblankLines, nonblankPieces, pieces]

/-! ## Words -/

/-- A word: something, and no blanks in it. -/
structure IsWord (w : List Char) : Prop where
  nonempty : w ≠ []
  shown : ∀ c ∈ w, isBlank c = false

theorem IsWord.visible {w : List Char} (word : IsWord w) : Visible w := by
  refine ⟨?_, ?_⟩
  · cases first : w.head? with
    | none => rfl
    | some c => rw [Option.all_some, word.shown c (List.mem_of_head? first), Bool.not_false]
  · cases last : w.getLast? with
    | none => rfl
    | some c => rw [Option.all_some, word.shown c (List.mem_of_getLast? last), Bool.not_false]

/-- Nothing is trimmed in front of a word. -/
theorem IsWord.trimStart_append {w : List Char} (word : IsWord w) (s : List Char) :
    trimStart (w ++ s) = w ++ s := by
  cases w with
  | nil => exact absurd rfl word.nonempty
  | cons c w => exact trimStart_cons_of_visible (word.shown c List.mem_cons_self) (w ++ s)

theorem isWord_of_mem_words {s w : List Char} (listed : w ∈ words s) : IsWord w := by
  obtain ⟨piece, nonempty⟩ := List.mem_filter.mp listed
  exact ⟨by simpa using nonempty, not_of_mem_splitOnP piece⟩

/-- **A text is read word by word.** What holds of the empty text and of one word, and is kept when
a blank, or a word with a blank behind it, is put in front, holds of every text. -/
theorem wordInduction {P : List Char → Prop} (nil : P [])
    (blank : ∀ c s, isBlank c = true → P s → P (c :: s)) (word : ∀ w, IsWord w → P w)
    (cut : ∀ w c s, IsWord w → isBlank c = true → P s → P (w ++ c :: s)) (s : List Char) : P s := by
  -- the characters of a word that has begun are held until it ends
  have held : ∀ w : List Char, (∀ c ∈ w, isBlank c = false) → P (w ++ s) := by
    induction s with
    | nil =>
      intro w shown
      rw [List.append_nil]
      by_cases empty : w = []
      · rw [empty]
        exact nil
      · exact word w ⟨empty, shown⟩
    | cons c s ih =>
      intro w shown
      have rest := ih [] (List.forall_mem_nil _)
      rw [List.nil_append] at rest
      by_cases ends : isBlank c = true
      · by_cases empty : w = []
        · rw [empty, List.nil_append]
          exact blank c s ends rest
        · exact cut w c s ⟨empty, shown⟩ ends rest
      · have longer := ih (w ++ [c]) (List.forall_mem_append.mpr
          ⟨shown, List.forall_mem_singleton.mpr (Bool.eq_false_iff.mpr ends)⟩)
        rwa [List.append_assoc, List.singleton_append] at longer
  exact held [] (List.forall_mem_nil _)

/-- A blank separates words. -/
theorem words_append_cons {c : Char} (blank : isBlank c = true) (s t : List Char) :
    words (s ++ c :: t) = words s ++ words t := by
  rw [words, List.splitOnP_append_cons s t blank, List.filter_append, words, words]

theorem words_cons {c : Char} (blank : isBlank c = true) (s : List Char) :
    words (c :: s) = words s :=
  words_append_cons blank [] s

/-- A word is its only one. -/
theorem IsWord.words_eq {w : List Char} (word : IsWord w) : words w = [w] := by
  rw [words, List.splitOnP_eq_singleton word.shown,
    List.filter_cons_of_pos (by simp [word.nonempty]), List.filter_nil]

/-- **Joined words are read back.** -/
theorem words_joinWith {ws : List (List Char)} (each : ∀ w ∈ ws, IsWord w) :
    words (joinWith [' '] ws) = ws := by
  have space : isBlank ' ' = true := by decide
  fun_induction joinWith [' '] ws with
  | case1 => rfl
  | case2 w => exact (each w (List.mem_singleton_self w)).words_eq
  | case3 w ws _ ih =>
    have others : ∀ v ∈ ws, IsWord v := fun v listed => each v (List.mem_cons_of_mem w listed)
    rw [List.append_assoc, List.singleton_append, words_append_cons space,
      (each w List.mem_cons_self).words_eq, ih others, List.singleton_append]

/-- **The words of a text hold what is visible in it.** -/
theorem flatten_words (s : List Char) : (words s).flatten = s.filter fun c => !isBlank c := by
  rw [words, List.flatten_filter_not_isEmpty, flatten_splitOnP]

/-! ## Collapsed blanks -/

theorem collapseBlanks_cons_of_visible {c : Char} (shown : isBlank c = false) (s : List Char) :
    collapseBlanks (c :: s) = c :: collapseBlanks s := by
  cases s with
  | nil => simp only [collapseBlanks, shown, Bool.false_eq_true, if_false]
  | cons d s => simp only [collapseBlanks, shown, Bool.false_eq_true, if_false]

/-- A word is left as it is. -/
theorem IsWord.collapseBlanks_append {w : List Char} (word : IsWord w) (s : List Char) :
    collapseBlanks (w ++ s) = w ++ collapseBlanks s := by
  have shown := word.shown
  clear word
  induction w with
  | nil => rfl
  | cons c w ih =>
    rw [List.cons_append, collapseBlanks_cons_of_visible (shown c List.mem_cons_self),
      ih fun d member => shown d (List.mem_cons_of_mem c member), List.cons_append]

/-- The blanks up to the next word become one space. -/
theorem collapseBlanks_cons_of_blank {c : Char} (blank : isBlank c = true) (s : List Char) :
    collapseBlanks (c :: s) = ' ' :: collapseBlanks (trimStart s) := by
  induction s generalizing c with
  | nil => simp only [collapseBlanks, blank, if_true, trimStart, List.dropWhile_nil]
  | cons d s ih =>
    by_cases next : isBlank d = true
    · rw [collapseBlanks, if_pos blank, if_pos next, ih next, trimStart_cons next]
    · rw [collapseBlanks, if_pos blank, if_neg next,
        trimStart_cons_of_visible (Bool.eq_false_iff.mpr next)]

/-- Blanks in front are dropped before or after the others are collapsed. -/
theorem trimStart_collapseBlanks (s : List Char) :
    trimStart (collapseBlanks s) = collapseBlanks (trimStart s) := by
  have fixed : ∀ t, trimStart (collapseBlanks (trimStart t)) = collapseBlanks (trimStart t) := by
    intro t
    have starts := head?_trimStart t
    cases left : trimStart t with
    | nil => rfl
    | cons d rest =>
      rw [left, List.head?_cons, Option.all_some, Bool.not_eq_true'] at starts
      rw [collapseBlanks_cons_of_visible starts, trimStart_cons_of_visible starts]
  cases s with
  | nil => rfl
  | cons c s =>
    by_cases blank : isBlank c = true
    · rw [collapseBlanks_cons_of_blank blank, trimStart_cons (by decide), trimStart_cons blank,
        fixed]
    · have whole := trimStart_cons_of_visible (Bool.eq_false_iff.mpr blank) s
      have kept := fixed (c :: s)
      rw [whole] at kept ⊢
      exact kept

/-- **Collapsed and trimmed, a text is its words with single spaces between them.** -/
theorem trim_collapseBlanks (s : List Char) :
    trim (collapseBlanks s) = joinWith [' '] (words s) := by
  rw [trim, trimStart_collapseBlanks]
  induction s using wordInduction with
  | nil => rfl
  | blank c s blank ih => rw [trimStart_cons blank, words_cons blank, ih]
  | word w word =>
    have started := word.trimStart_append []
    have collapsed := word.collapseBlanks_append []
    have ended := word.visible.trimEnd_append []
    rw [List.append_nil] at started collapsed ended
    rw [started, collapsed, collapseBlanks, List.append_nil, ended, word.words_eq, joinWith]
    exact List.append_nil w
  | cut w c s word blank ih =>
    rw [word.trimStart_append, word.collapseBlanks_append, collapseBlanks_cons_of_blank blank,
      word.visible.trimEnd_append, words_append_cons blank, word.words_eq, List.singleton_append]
    cases later : words s with
    | nil =>
      rw [later] at ih
      rw [trimEnd_cons_eq_nil (by decide) ih, List.append_nil, joinWith]
    | cons v vs =>
      rw [later] at ih
      have more : trimEnd (collapseBlanks (trimStart s)) ≠ [] := by
        have listed : IsWord v := isWord_of_mem_words (by rw [later]; exact List.mem_cons_self)
        rw [ih]
        exact joinWith_ne_nil listed.nonempty vs
      rw [trimEnd_cons_of_ne_nil more, ih, joinWith_cons_cons, List.append_assoc,
        List.singleton_append]

end TestPlanner
