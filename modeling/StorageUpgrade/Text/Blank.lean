/-!
# White space

The blank characters of the tool: the ASCII controls from tab to carriage return and from file
separator to unit separator, the space, and the white space of Unicode.  Documentation text is
trimmed and cut into words at these characters.
-/

namespace StorageUpgrade

/-- White space, in ASCII and beyond. -/
def isBlank (c : Char) : Bool :=
  let n := c.toNat
  (9 ≤ n && n ≤ 13) || (28 ≤ n && n ≤ 32) || n == 0x85 || n == 0xA0 || n == 0x1680 ||
    (0x2000 ≤ n && n ≤ 0x200A) || n == 0x2028 || n == 0x2029 || n == 0x202F || n == 0x205F ||
    n == 0x3000

/-- What is left of a text without the blanks at its front. -/
def trimLeft (cs : List Char) : List Char := cs.dropWhile isBlank

/-- What is left of a text without the blanks at its end. -/
def trimRight (cs : List Char) : List Char := (cs.reverse.dropWhile isBlank).reverse

/-- What is left of a text without the blanks at its two ends. -/
def trim (cs : List Char) : List Char := trimRight (trimLeft cs)

@[simp] theorem trim_nil : trim [] = [] := rfl

/-- The words of a text, where `word` holds the characters of the current word. -/
def wordsFrom (word : List Char) : List Char → List (List Char)
  | [] => if word.isEmpty then [] else [word]
  | c :: cs =>
    if isBlank c then
      if word.isEmpty then wordsFrom [] cs else word :: wordsFrom [] cs
    else wordsFrom (word ++ [c]) cs

/-- The maximal pieces of a text that hold no blank, in order. -/
def words (cs : List Char) : List (List Char) := wordsFrom [] cs

@[simp] theorem words_nil : words [] = [] := rfl

/-- Every word is non-empty and free of blanks. -/
theorem mem_wordsFrom {word cs : List Char} (hw : ∀ c ∈ word, isBlank c = false) :
    ∀ w ∈ wordsFrom word cs, w ≠ [] ∧ ∀ c ∈ w, isBlank c = false := by
  induction cs generalizing word with
  | nil =>
    intro w h
    by_cases he : word.isEmpty <;> simp_all [wordsFrom]
  | cons c cs ih =>
    intro w h
    simp only [wordsFrom] at h
    split at h
    · split at h
      · exact ih (by simp) w h
      · rcases List.mem_cons.1 h with rfl | h
        · exact ⟨by simp_all, hw⟩
        · exact ih (by simp) w h
    · refine ih ?_ w h
      intro x hx
      rcases List.mem_append.1 hx with hx | hx
      · exact hw x hx
      · simp_all

/-- The text without the blanks at its two ends. -/
def trimText (s : String) : String := String.ofList (trim s.toList)

end StorageUpgrade
