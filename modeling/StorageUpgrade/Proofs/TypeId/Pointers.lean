import Mathlib.Data.List.Infix
import StorageUpgrade.TypeId.Encoding

/-!
# The suffix of pointers

Normalizing shortens the suffix `_storage_ptr` of every word to `_storage`, word by word
(`dropPointers_append`): it does not ask what a word is, so the name of a type is shortened as the
tail of an identifier is.
-/

namespace StorageUpgrade
namespace TypeId

/-- A word without the end of the suffix `_storage_ptr`, if it has this suffix. -/
def shorten (word : List Char) : List Char :=
  if pointerSuffix <:+ word then word.take (word.length - 4) else word

variable {c : Char} {word rest : List Char}

theorem shorten_of_suffix (h : pointerSuffix <:+ word) :
    shorten word = word.take (word.length - 4) := if_pos h

theorem shorten_of_not_suffix (h : ¬ pointerSuffix <:+ word) : shorten word = word := if_neg h

@[simp] theorem shorten_nil : shorten [] = [] := rfl

theorem shorten_pointerSuffix : shorten pointerSuffix = "_storage".toList := by decide

/-- Only a word that is the suffix itself is shortened from its first character on. -/
theorem shorten_cons (hne : c :: word ≠ pointerSuffix) :
    shorten (c :: word) = c :: shorten word := by
  have hiff : pointerSuffix <:+ c :: word ↔ pointerSuffix <:+ word := by
    rw [List.suffix_cons_iff]
    exact or_iff_right hne.symm
  by_cases hsuffix : pointerSuffix <:+ word
  · have hlength : 12 ≤ word.length := hsuffix.length_le
    rw [shorten_of_suffix hsuffix, shorten_of_suffix (hiff.2 hsuffix), List.length_cons,
      Nat.sub_add_comm (by omega), List.take_succ_cons]
  · rw [shorten_of_not_suffix hsuffix, shorten_of_not_suffix (mt hiff.1 hsuffix)]

theorem shorten_eq_self_iff : shorten word = word ↔ ¬ pointerSuffix <:+ word := by
  refine ⟨fun heq hsuffix => ?_, shorten_of_not_suffix⟩
  have hlength : 12 ≤ word.length := hsuffix.length_le
  have hshorter := congrArg List.length heq
  rw [shorten_of_suffix hsuffix, List.length_take] at hshorter
  omega

theorem shorten_of_getLast? (h : word.getLast? ≠ some 'r') : shorten word = word := by
  refine shorten_of_not_suffix fun hsuffix => h ?_
  obtain ⟨front, rfl⟩ := hsuffix
  rw [List.getLast?_append]
  rfl

theorem mem_of_mem_shorten (h : c ∈ shorten word) : c ∈ word := by
  unfold shorten at h
  split at h
  · exact List.mem_of_mem_take h
  · exact h

theorem shorten_ne_nil (h : word ≠ []) : shorten word ≠ [] := by
  unfold shorten
  split
  · rename_i hsuffix
    have hlength : 12 ≤ word.length := hsuffix.length_le
    exact List.ne_nil_of_length_pos (by rw [List.length_take]; omega)
  · exact h

/-- A pointer that is found in a text that starts with a word is all of this word. -/
theorem eq_pointerSuffix_of_front (hword : ∀ c ∈ word, isWord c = true)
    (hrest : endsWord rest = true) (hfront : pointerSuffix <+: word ++ rest)
    (hends : endsWord ((word ++ rest).drop pointerSuffix.length) = true) :
    word = pointerSuffix := by
  rcases List.prefix_or_prefix_of_prefix hfront (List.prefix_append word rest) with hle | hle
  · obtain ⟨more, rfl⟩ := hle
    rw [List.append_assoc, List.drop_left] at hends
    -- the word would go on behind the pointer
    cases more with
    | nil => exact List.append_nil _
    | cons c more =>
        have hc : isWord c = true := hword c (by simp)
        rw [List.cons_append, endsWord_cons, hc] at hends
        cases hends
  · obtain ⟨more, hmore⟩ := hle
    rw [← hmore, List.prefix_append_right_inj] at hfront
    obtain ⟨after, rfl⟩ := hfront
    -- the pointer would go on behind the word
    cases more with
    | nil => rw [← hmore, List.append_nil]
    | cons c more =>
        have hall : ∀ c ∈ pointerSuffix, isWord c = true := List.all_eq_true.1 (by decide)
        have hc : isWord c = true := hall c (by simp [← hmore])
        rw [List.cons_append, endsWord_cons, hc] at hrest
        cases hrest

theorem dropPointers_pointerSuffix (hrest : endsWord rest = true) :
    dropPointers (pointerSuffix ++ rest) = "_storage".toList ++ dropPointers rest := by
  have hpointer : (pointerSuffix.isPrefixOf (pointerSuffix ++ rest) &&
      endsWord ((pointerSuffix ++ rest).drop pointerSuffix.length)) = true := by
    rw [List.drop_left, hrest, Bool.and_true, List.isPrefixOf_iff_prefix]
    exact List.prefix_append _ _
  have htext : pointerSuffix ++ rest = '_' :: ("storage_ptr".toList ++ rest) := rfl
  have hrest' : ("storage_ptr".toList ++ rest).drop (pointerSuffix.length - 1) = rest := rfl
  rw [htext] at hpointer ⊢
  unfold dropPointers
  rw [shortenFrom, if_pos hpointer, shortenFrom_eq_drop, hrest']
  rfl

theorem dropPointers_cons
    (h : ¬ (pointerSuffix <+: c :: rest ∧
      endsWord ((c :: rest).drop pointerSuffix.length) = true)) :
    dropPointers (c :: rest) = c :: dropPointers rest := by
  unfold dropPointers
  rw [shortenFrom, if_neg]
  rwa [Bool.and_eq_true, List.isPrefixOf_iff_prefix]

/-- Each word is shortened by itself. -/
theorem dropPointers_append (hword : ∀ c ∈ word, isWord c = true) (hrest : endsWord rest = true) :
    dropPointers (word ++ rest) = shorten word ++ dropPointers rest := by
  induction word with
  | nil => rfl
  | cons c word ih =>
      by_cases hpointer : c :: word = pointerSuffix
      · rw [hpointer, shorten_pointerSuffix]
        exact dropPointers_pointerSuffix hrest
      · rw [shorten_cons hpointer, List.cons_append, List.cons_append,
          ← ih fun c hc => hword c (List.mem_cons_of_mem _ hc)]
        exact dropPointers_cons fun ⟨hfront, hends⟩ =>
          hpointer (eq_pointerSuffix_of_front hword hrest hfront hends)

theorem dropPointers_mark (hc : isWord c = false) :
    dropPointers (c :: rest) = c :: dropPointers rest := by
  refine dropPointers_cons fun ⟨hfront, _⟩ => ?_
  obtain ⟨after, hafter⟩ := hfront
  obtain ⟨rfl, -⟩ := List.cons.inj hafter
  cases hc

end TypeId
end StorageUpgrade
