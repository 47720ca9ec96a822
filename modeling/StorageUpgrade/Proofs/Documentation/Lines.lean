import Mathlib.Data.List.TakeWhile
import StorageUpgrade.Documentation
import StorageUpgrade.Text.Lines

/-!
# Documentation line by line

Documentation is read as one text, in which blanks may run over the ends of lines.  What is read can
still be told from its lines: a line is followed by its next ones, each behind a new line
(`following`), and no marker, and no word of one, reaches beyond its line.  The arguments of a block end
where the next line that starts a block is only preceded by blank lines (`opens`), so up to blanks they
end at this line (`trim_args`).
-/

namespace StorageUpgrade

/-- Lines behind another one, each after a new line. -/
def following (lines : List (List Char)) : List Char := lines.flatMap ('\n' :: ·)

@[simp] theorem following_nil : following [] = [] := rfl

@[simp] theorem following_cons (line : List Char) (lines : List (List Char)) :
    following (line :: lines) = '\n' :: (line ++ following lines) := rfl

/-- The text of some lines. -/
def textOf : List (List Char) → List Char
  | [] => []
  | line :: lines => line ++ following lines

/-- A text is that of its lines, and none of them holds a new line. -/
theorem exists_lines (cs : List Char) : textOf (splitAt '\n' cs) = cs ∧
    ∀ line ∈ splitAt '\n' cs, '\n' ∉ line := by
  induction cs with
  | nil => exact ⟨rfl, by simp [splitAt, splitWhere]⟩
  | cons c cs ih =>
      obtain ⟨htext, hplain⟩ := ih
      rw [splitAt, splitWhere]
      cases hlines : splitAt '\n' cs with
      | nil => exact absurd hlines (splitWhere_ne_nil _ cs)
      | cons line lines =>
          rw [hlines] at htext hplain
          rw [splitAt] at hlines
          split
          · rename_i hc
            obtain rfl : c = '\n' := by simpa using hc
            rw [hlines]
            refine ⟨congrArg _ htext, ?_⟩
            simpa using hplain
          · rename_i hc
            have hc : '\n' ≠ c := fun h => hc (beq_iff_eq.2 h.symm)
            obtain ⟨hline, hrest⟩ := List.forall_mem_cons.1 hplain
            rw [hlines]
            refine ⟨congrArg (c :: ·) htext, List.forall_mem_cons.2 ⟨?_, hrest⟩⟩
            simp [hc, hline]

/-! ### Blanks at the ends of a text -/

theorem trimRight_append_blank {cs blanks : List Char} (h : ∀ c ∈ blanks, isBlank c = true) :
    trimRight (cs ++ blanks) = trimRight cs := by
  rw [trimRight, List.reverse_append, List.dropWhile_append_of_pos, trimRight]
  simpa using h

theorem trim_append_blank {cs blanks : List Char} (h : ∀ c ∈ blanks, isBlank c = true) :
    trim (cs ++ blanks) = trim cs := by
  have hblanks : trimLeft blanks = [] := List.dropWhile_eq_nil_iff.2 h
  rw [trim, trimLeft, List.dropWhile_append]
  split
  · rename_i hcs
    have hcs : trimLeft cs = [] := List.isEmpty_iff.1 hcs
    rw [trim, hcs, ← trimLeft, hblanks]
  · exact trimRight_append_blank h

theorem trim_dropWhile_append {p : Char → Bool} (h : ∀ c, p c = true → isBlank c = true)
    (cs cs' : List Char) : trim (cs.dropWhile p ++ cs') = trim (cs ++ cs') := by
  induction cs with
  | nil => rfl
  | cons c cs ih =>
      rw [List.dropWhile_cons]
      split
      · rename_i hc
        rw [ih, List.cons_append, trim, trim, trimLeft, trimLeft, List.dropWhile_cons_of_pos (h c hc)]
      · rfl

namespace Documentation

variable {line : List Char} {lines : List (List Char)}

/-! ### A line in front of others -/

section

variable {p : Char → Bool} (hp : p '\n' = false)

include hp

theorem takeWhile_append_following (cs : List Char) (lines : List (List Char)) :
    (cs ++ following lines).takeWhile p = cs.takeWhile p := by
  induction cs with
  | nil =>
      cases lines with
      | nil => rfl
      | cons line lines => simp [hp]
  | cons c cs ih => simp only [List.cons_append, List.takeWhile_cons, ih]

theorem dropWhile_append_following (cs : List Char) (lines : List (List Char)) :
    (cs ++ following lines).dropWhile p = cs.dropWhile p ++ following lines := by
  induction cs with
  | nil =>
      cases lines with
      | nil => rfl
      | cons line lines => simp [hp]
  | cons c cs ih =>
      simp only [List.cons_append, List.dropWhile_cons, ih]
      split <;> rfl

end

theorem readTag_append_following (cs : List Char) (lines : List (List Char)) :
    readTag (cs ++ following lines) = ((readTag cs).1, (readTag cs).2 ++ following lines) := by
  match cs with
  | [] => cases lines <;> rfl
  | [c] =>
      by_cases hc : c = ':'
      · subst hc
        cases lines <;> rfl
      · cases lines <;> simp [readTag, hc]
  | c :: c' :: cs =>
      by_cases hc : c = ':'
      · subst hc
        simp only [readTag, List.cons_append]
        split
        · rw [takeWhile_append_following rfl, dropWhile_append_following rfl]
        · rfl
      · simp [readTag, hc]

theorem afterMarker?_append_following (cs : List Char) (lines : List (List Char)) :
    afterMarker? (cs ++ following lines) = (afterMarker? cs).map (· ++ following lines) := by
  cases cs with
  | nil => cases lines <;> rfl
  | cons c cs =>
      simp only [List.cons_append, afterMarker?]
      split
      · rw [dropWhile_append_following rfl]
        rfl
      split <;> rfl

/-- A marker does not reach beyond its line. -/
theorem marker?_append_following (cs : List Char) (lines : List (List Char)) :
    marker? (cs ++ following lines) =
      (marker? cs).map fun (title, tag, rest) => (title, tag, rest ++ following lines) := by
  cases cs with
  | nil => cases lines <;> rfl
  | cons c cs =>
      by_cases hc : c = '@'
      · subst hc
        simp only [List.cons_append, marker?]
        rw [takeWhile_append_following (by decide), dropWhile_append_following (by decide)]
        split
        · rfl
        · rw [readTag_append_following, afterMarker?_append_following, Option.map_map,
            Option.map_map]
          rfl
      · simp [marker?, hc]

/-! ### The line at which a block starts -/

theorem startsBlock_of_blank (h : ∀ c ∈ line, isBlank c = true) : startsBlock line = false := by
  rw [startsBlock, List.dropWhile_eq_nil_iff.2 h]

/-- A line that holds more than blanks tells alone whether a block starts with it. -/
theorem startsBlock_append_following (h : ¬ ∀ c ∈ line, isBlank c = true)
    (lines : List (List Char)) : startsBlock (line ++ following lines) = startsBlock line := by
  obtain ⟨c, cs, hbody⟩ : ∃ c cs, line.dropWhile isBlank = c :: cs :=
    List.exists_cons_of_ne_nil fun hnil => h (List.dropWhile_eq_nil_iff.1 hnil)
  rw [startsBlock, startsBlock, List.dropWhile_append, hbody]
  by_cases hc : c = '@'
  · subst hc
    cases cs with
    | cons c' cs => rfl
    | nil => cases lines <;> rfl
  · simp [hc]

/-- Whether the first line that holds more than blanks starts a block. -/
def opens : List (List Char) → Bool
  | [] => false
  | line :: lines => if line.all isBlank then opens lines else startsBlock line

theorem startsBlock_textOf (lines : List (List Char)) : startsBlock (textOf lines) = opens lines := by
  induction lines with
  | nil => rfl
  | cons line lines ih =>
      rw [textOf, opens]
      split
      · rename_i hline
        rw [← ih, startsBlock, List.dropWhile_append_of_pos (List.all_eq_true.1 hline)]
        cases lines <;> rfl
      · rename_i hline
        exact startsBlock_append_following (fun h => hline (List.all_eq_true.2 h)) lines

/-- The lines in front of the one that starts a block. -/
def untilBlock (lines : List (List Char)) : List (List Char) := lines.takeWhile fun l => !startsBlock l

/-- Only blank lines come before the line that starts a block. -/
theorem blank_of_opens (h : opens lines = true) :
    ∀ c ∈ following (untilBlock lines), isBlank c = true := by
  induction lines with
  | nil => cases h
  | cons line lines ih =>
      rw [opens] at h
      split at h
      · rename_i hline
        have hline := List.all_eq_true.1 hline
        intro c hc
        rw [untilBlock, List.takeWhile_cons_of_pos (by rw [startsBlock_of_blank hline]; rfl)] at hc
        rcases List.mem_cons.1 hc with rfl | hc
        · rfl
        · rcases List.mem_append.1 hc with hc | hc
          · exact hline c hc
          · exact ih h c hc
      · rw [untilBlock, List.takeWhile_cons_of_neg (by rw [h]; simp)]
        nofun

/-! ### Arguments -/

theorem readArgs_append_line (h : '\n' ∉ line) (cs : List Char) :
    readArgs false (line ++ cs) = (line ++ (readArgs false cs).1, (readArgs false cs).2) := by
  induction line with
  | nil => rfl
  | cons c line ih =>
      obtain ⟨hc, hline⟩ := not_or.1 (List.mem_cons.not.1 h)
      have hc : (c == '\n') = false := beq_false_of_ne (Ne.symm hc)
      rw [List.cons_append, readArgs, hc, ih hline]
      rfl

/-- A block may start behind a new line. -/
theorem readArgs_newline (cs : List Char) : readArgs false ('\n' :: cs) =
    ('\n' :: (readArgs true cs).1, (readArgs true cs).2) := rfl

theorem readArgs_of_startsBlock {cs : List Char} (h : startsBlock cs = true) :
    readArgs true cs = ([], cs) := by
  cases cs with
  | nil => rfl
  | cons c cs => rw [readArgs, h]; rfl

theorem readArgs_of_not_startsBlock {cs : List Char} (h : startsBlock cs = false) :
    readArgs true cs = readArgs false cs := by
  cases cs with
  | nil => rfl
  | cons c cs => rw [readArgs, readArgs, h]; rfl

theorem readArgs_following_of_opens (h : opens (line :: lines) = true) :
    readArgs false (following (line :: lines)) = (['\n'], textOf (line :: lines)) := by
  have hread : readArgs true (line ++ following lines) = ([], line ++ following lines) :=
    readArgs_of_startsBlock ((startsBlock_textOf (line :: lines)).trans h)
  rw [following_cons, readArgs_newline, hread, textOf]

theorem readArgs_following_of_not_opens (h : opens (line :: lines) = false) (hline : '\n' ∉ line) :
    readArgs false (following (line :: lines)) =
      ('\n' :: (line ++ (readArgs false (following lines)).1),
        (readArgs false (following lines)).2) := by
  have hread : readArgs true (line ++ following lines) = readArgs false (line ++ following lines) :=
    readArgs_of_not_startsBlock ((startsBlock_textOf (line :: lines)).trans h)
  rw [following_cons, readArgs_newline, hread, readArgs_append_line hline]

theorem startsBlock_of_not_opens (h : opens (line :: lines) = false) : startsBlock line = false := by
  rw [opens] at h
  split at h
  · rename_i hline
    exact startsBlock_of_blank (List.all_eq_true.1 hline)
  · exact h

/-- Reading goes on with the last of some lines, none of which starts a block before it. -/
theorem exists_rest (hlines : ∀ line ∈ lines, '\n' ∉ line) :
    ∃ before rest, lines = before ++ rest ∧ (∀ line ∈ before, startsBlock line = false) ∧
      (readArgs false (following lines)).2 = textOf rest := by
  induction lines with
  | nil => exact ⟨[], [], rfl, nofun, rfl⟩
  | cons line lines ih =>
      obtain ⟨hline, hlines⟩ := List.forall_mem_cons.1 hlines
      cases h : opens (line :: lines) with
      | true => exact ⟨[], line :: lines, rfl, nofun, by rw [readArgs_following_of_opens h]⟩
      | false =>
          obtain ⟨before, rest, rfl, hbefore, hrest⟩ := ih hlines
          refine ⟨line :: before, rest, rfl, ?_, ?_⟩
          · exact List.forall_mem_cons.2 ⟨startsBlock_of_not_opens h, hbefore⟩
          · rw [readArgs_following_of_not_opens h hline, hrest]

/-- Up to blanks, the arguments of a block end at the next line that starts a block. -/
theorem trim_args (cs : List Char) (hlines : ∀ line ∈ lines, '\n' ∉ line) :
    trim (cs ++ (readArgs false (following lines)).1) = trim (cs ++ following (untilBlock lines)) := by
  induction lines generalizing cs with
  | nil => rfl
  | cons line lines ih =>
      obtain ⟨hline, hlines⟩ := List.forall_mem_cons.1 hlines
      cases h : opens (line :: lines) with
      | true =>
          rw [readArgs_following_of_opens h, trim_append_blank (by simp [isBlank]),
            trim_append_blank (blank_of_opens h)]
      | false =>
          have hnext := ih (cs ++ '\n' :: line) hlines
          rw [List.append_assoc, List.append_assoc] at hnext
          rw [readArgs_following_of_not_opens h hline, untilBlock, List.takeWhile_cons_of_pos
            (by rw [startsBlock_of_not_opens h]; rfl)]
          exact hnext

end Documentation
end StorageUpgrade
