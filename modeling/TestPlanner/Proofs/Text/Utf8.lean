import TestPlanner.Text.Utf8

/-!
# Texts and their bytes

The bytes of a text are read back as the text. Only a line feed is written with the byte 10, so the
bytes of a text fall into lines where the text does: splitting before reading and splitting after
reading come to the same (`splitOnP_toUTF8`).
-/

set_option autoImplicit false

namespace TestPlanner.Text.Utf8

universe u v

theorem decode?_toUTF8 (text : String) : decode? text.toUTF8 = some text := by
  have valid : text.toUTF8.IsValidUTF8 := text.isValidUTF8
  rw [decode?, String.fromUTF8?, dif_pos valid]
  rfl

/-! ## Bytes in a list -/

theorem toList_loop (bytes : ByteArray) (i : Nat) (read : List UInt8) :
    ByteArray.toList.loop bytes i read = read.reverse ++ bytes.data.toList.drop i := by
  fun_induction ByteArray.toList.loop bytes i read with
  | case1 i read more ih =>
    have inside : i < bytes.data.toList.length := by simpa using more
    rw [ih, List.drop_eq_getElem_cons inside]
    simp [ByteArray.get!, more]
  | case2 i read done =>
    rw [List.drop_eq_nil_of_le (by simpa using Nat.le_of_not_lt done), List.append_nil]

theorem toList_eq (bytes : ByteArray) : bytes.toList = bytes.data.toList := by
  rw [ByteArray.toList, toList_loop, List.reverse_nil, List.nil_append, List.drop_zero]

/-- Bytes are the same read from a list of them. -/
theorem mk_toArray_toList (bytes : ByteArray) : (⟨bytes.toList.toArray⟩ : ByteArray) = bytes := by
  rw [toList_eq, Array.toArray_toList]

/-- The bytes of a text are those of its characters. -/
theorem toList_toUTF8 (text : String) :
    text.toUTF8.toList = text.toList.flatMap String.utf8EncodeChar := by
  rw [toList_eq, String.toUTF8, ← String.utf8Encode_toList, List.utf8Encode,
    List.toList_data_toByteArray]

/-- Only a line feed is written with the byte 10. -/
theorem ten_notMem_utf8EncodeChar {c : Char} (other : c ≠ '\n') :
    (10 : UInt8) ∉ String.utf8EncodeChar c := by
  have value : c.val.toNat ≠ 10 := fun same => other (Char.ext (UInt32.toNat_inj.mp same))
  have byte : ∀ n, n < 256 → n ≠ 10 → (10 : UInt8) ≠ UInt8.ofNat n := by
    intro n small differs same
    have both : 10 = n % 256 := congrArg UInt8.toNat same
    omega
  rw [String.utf8EncodeChar]
  split
  next one =>
    rw [List.mem_singleton]
    exact byte _ (by omega) value
  split
  next two =>
    simp only [List.mem_cons, List.not_mem_nil, or_false, not_or]
    exact ⟨byte _ (by omega) (by omega), byte _ (by omega) (by omega)⟩
  split
  next three =>
    simp only [List.mem_cons, List.not_mem_nil, or_false, not_or]
    exact ⟨byte _ (by omega) (by omega), byte _ (by omega) (by omega),
      byte _ (by omega) (by omega)⟩
  next four =>
    simp only [List.mem_cons, List.not_mem_nil, or_false, not_or]
    exact ⟨byte _ (by omega) (by omega), byte _ (by omega) (by omega),
      byte _ (by omega) (by omega), byte _ (by omega) (by omega)⟩

/-! ## Lines -/

section Lines

variable {α : Type u} {β : Type v} {p : α → Bool} {q : β → Bool} {write : α → List β}

theorem splitOnP_append_of_forall {front : List β} (other : ∀ b ∈ front, q b = false)
    (l : List β) : (front ++ l).splitOnP q = (l.splitOnP q).modifyHead (front ++ ·) := by
  induction front with
  | nil => rw [show (fun piece : List β => [] ++ piece) = id from rfl, List.modifyHead_id]; rfl
  | cons b front ih =>
    rw [List.cons_append, List.splitOnP_cons_eq_if_modifyHead, other b List.mem_cons_self,
      if_neg Bool.false_ne_true, ih fun c member => other c (List.mem_cons_of_mem b member),
      List.modifyHead_modifyHead]
    rfl

/-- Splitting what a list is written as, if a separator is written as one separator and nothing else
with any. -/
theorem splitOnP_flatMap (separator : ∀ a, p a = true → ∃ b, write a = [b] ∧ q b = true)
    (other : ∀ a, p a = false → ∀ b ∈ write a, q b = false) (l : List α) :
    (l.flatMap write).splitOnP q = (l.splitOnP p).map fun piece => piece.flatMap write := by
  induction l with
  | nil => rfl
  | cons a l ih =>
    rw [List.flatMap_cons, List.splitOnP_cons_eq_if_modifyHead]
    cases kind : p a with
    | true =>
      obtain ⟨b, written, splits⟩ := separator a kind
      rw [written, List.singleton_append, List.splitOnP_cons_eq_if_modifyHead, splits, ih]
      rfl
    | false =>
      rw [splitOnP_append_of_forall (other a kind), ih, if_neg Bool.false_ne_true]
      cases l.splitOnP p with
      | nil => rfl
      | cons piece pieces => rfl

end Lines

/-- **The bytes of a text fall into lines where the text does.** -/
theorem splitOnP_toUTF8 (text : String) :
    text.toUTF8.toList.splitOnP (· == 10) =
      (text.toList.splitOnP (· == '\n')).map fun line => (String.ofList line).toUTF8.toList := by
  have separator : ∀ c : Char, (c == '\n') = true →
      ∃ b, String.utf8EncodeChar c = [b] ∧ (b == 10) = true := by
    rintro c same
    rw [beq_iff_eq.mp same]
    exact ⟨10, by decide, by decide⟩
  have other : ∀ c : Char, (c == '\n') = false →
      ∀ b ∈ String.utf8EncodeChar c, (b == 10) = false := by
    rintro c differs b member
    rw [beq_eq_false_iff_ne] at differs ⊢
    rintro rfl
    exact ten_notMem_utf8EncodeChar differs member
  simp only [toList_toUTF8, String.toList_ofList]
  exact splitOnP_flatMap separator other text.toList

end TestPlanner.Text.Utf8
