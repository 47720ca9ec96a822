import StorageUpgrade.Proofs.Documentation.Lines

/-!
# The annotations of a documentation text

A line that reads, behind blanks, `@custom:` and a tag declares an annotation, whose arguments go on up
to the next line that starts a block (`entries`).  The custom annotations of a text are those that its
lines declare, up to the first line that starts with `@` and a word but is no marker (`stops`): reading
ends there, and the lines behind are lost (`custom_eq`).

## Strategy

* Blanks run over blank lines, so a block is read from the first line that holds more than blanks
  (`exists_line`).
* A block that starts with a line at which reading stops is empty; any other block takes at least this
  line and gives the entry that the line declares, if it does so (`readBlock_of_stops`,
  `readBlock_of_not_stops`).
* The lines inside a block start none, so they declare nothing, and the rest of the text is again one of
  whole lines (`exists_rest`).  The run is an induction on the number of blocks (`filterMap_readBlocks`).
-/

namespace StorageUpgrade
namespace Documentation

/-! ### What the lines declare -/

/-- What stands in front of the tag of a custom annotation. -/
def customMark : List Char := "@custom:".toList

/-- Whether a text can follow a tag in its line: it is empty or starts with a space or a tab. -/
def endsTag : List Char → Bool
  | [] => true
  | c :: _ => isGapChar c

/-- The tag of the annotation that a line declares, and the text behind the tag. -/
def annotation? (line : List Char) : Option (List Char × List Char) :=
  let body := line.dropWhile isBlank
  if customMark.isPrefixOf body then
    match body.drop customMark.length with
    | [] => none
    | c :: cs =>
      if isTagStart c && endsTag (cs.dropWhile isTagChar) then
        some (c :: cs.takeWhile isTagChar, cs.dropWhile isTagChar)
      else none
  else none

/-- The tag of the annotation that a line declares, with its arguments: the text up to the next line
that starts a block. -/
def declared? (line : List Char) (lines : List (List Char)) : Option (String × String) :=
  (annotation? line).map fun (tag, text) =>
    (String.ofList tag, trimText (String.ofList (text ++ following (untilBlock lines))))

/-- The annotations that some lines declare, in order. -/
def entries : List (List Char) → List (String × String)
  | [] => []
  | line :: lines => (declared? line lines).toList ++ entries lines

/-- Whether a line starts with `@` and a word, but with no marker. -/
def stops (line : List Char) : Bool :=
  line.head? == some '@' && startsBlock line && (marker? line).isNone

variable {line tag rest text : List Char} {lines : List (List Char)}

/-! ### The marker of an annotation -/

theorem afterMarker?_of_endsTag (h : endsTag text = true) :
    afterMarker? text = some (text.dropWhile isGapChar) := by
  cases text with
  | nil => rfl
  | cons c cs =>
      have hgap : isGapChar c = true := h
      rw [afterMarker?, hgap, List.dropWhile_cons_of_pos hgap]
      rfl

/-- In a line, only a space or a tab can follow a marker. -/
theorem endsTag_of_afterMarker? (htext : '\n' ∉ text) (h : afterMarker? text = some rest) :
    endsTag text = true := by
  cases text with
  | nil => rfl
  | cons c cs =>
      rw [afterMarker?] at h
      split at h
      · rename_i hgap
        exact hgap
      split at h
      · rename_i hc
        exact absurd (List.mem_cons.2 (.inl hc.symm)) htext
      · cases h

theorem exists_of_readTag {cs : List Char} (h : readTag cs = (some tag, text)) :
    ∃ c behind, cs = ':' :: c :: behind ∧ isTagStart c = true ∧
      tag = c :: behind.takeWhile isTagChar ∧ text = behind.dropWhile isTagChar := by
  unfold readTag at h
  split at h
  · split at h
    · rename_i hc
      obtain ⟨htag, htext⟩ := Prod.mk.inj h
      exact ⟨_, _, rfl, hc, (Option.some.inj htag).symm, htext.symm⟩
    · cases h
  · cases h

theorem exists_of_marker? {cs title : List Char} {tag? : Option (List Char)}
    (h : marker? cs = some (title, tag?, rest)) :
    ∃ behind text, cs = '@' :: (title ++ behind) ∧ readTag behind = (tag?, text) ∧
      afterMarker? text = some rest := by
  unfold marker? at h
  split at h
  · rename_i cs
    dsimp only at h
    split at h
    · cases h
    · obtain ⟨rest', hafter, hrest⟩ := Option.map_eq_some_iff.1 h
      cases hrest
      exact ⟨_, _, congrArg _ List.takeWhile_append_dropWhile.symm, rfl, hafter⟩
  · cases h

theorem suffix_of_readTag {cs : List Char} {tag? : Option (List Char)}
    (h : readTag cs = (tag?, text)) : text <:+ cs := by
  unfold readTag at h
  split at h
  · split at h
    · cases h
      exact ((List.dropWhile_suffix _).trans (List.suffix_cons ..)).trans (List.suffix_cons ..)
    · cases h
      exact List.suffix_refl _
  · cases h
    exact List.suffix_refl _

theorem suffix_of_afterMarker? (h : afterMarker? text = some rest) : rest <:+ text := by
  unfold afterMarker? at h
  split at h
  · cases h
    exact List.suffix_refl _
  · split at h
    · cases h
      exact (List.dropWhile_suffix _).trans (List.suffix_cons ..)
    split at h
    · cases h
      exact List.suffix_refl _
    · cases h

/-- What is left behind a marker is the end of the text. -/
theorem suffix_of_marker? {cs title : List Char} {tag? : Option (List Char)}
    (h : marker? cs = some (title, tag?, rest)) : rest <:+ cs := by
  obtain ⟨behind, text, rfl, htag, hafter⟩ := exists_of_marker? h
  exact (((suffix_of_afterMarker? hafter).trans (suffix_of_readTag htag)).trans
    (List.suffix_append ..)).trans (List.suffix_cons ..)

theorem marker?_of_annotation? (h : annotation? line = some (tag, text)) :
    marker? (line.dropWhile isBlank) =
      some ("custom".toList, some tag, text.dropWhile isGapChar) := by
  unfold annotation? at h
  dsimp only at h
  split at h
  · rename_i hmark
    obtain ⟨behind, hbody⟩ := List.isPrefixOf_iff_prefix.1 hmark
    rw [← hbody, List.drop_left] at h
    rw [← hbody]
    split at h
    · cases h
    · rename_i c cs
      split at h
      · rename_i hc
        obtain ⟨hc, hends⟩ := Bool.and_eq_true_iff.1 hc
        cases h
        have htag : readTag (':' :: c :: cs) =
            (some (c :: cs.takeWhile isTagChar), cs.dropWhile isTagChar) := by rw [readTag, hc]; rfl
        have hmarker : marker? (customMark ++ c :: cs) =
            (afterMarker? (readTag (':' :: c :: cs)).2).map fun rest =>
              ("custom".toList, (readTag (':' :: c :: cs)).1, rest) := rfl
        rw [hmarker, htag, afterMarker?_of_endsTag hends]
        rfl
      · cases h
  · cases h

theorem exists_annotation? (hline : '\n' ∉ line)
    (h : marker? (line.dropWhile isBlank) = some ("custom".toList, some tag, rest)) :
    ∃ text, annotation? line = some (tag, text) := by
  obtain ⟨_, text, hbody, htag, hafter⟩ := exists_of_marker? h
  obtain ⟨c, behind, rfl, hc, rfl, rfl⟩ := exists_of_readTag htag
  have hbehind : '\n' ∉ behind.dropWhile isTagChar := by
    intro hmem
    refine hline ((List.dropWhile_suffix isBlank).subset ?_)
    rw [hbody]
    have hmem := (List.dropWhile_suffix isTagChar).subset hmem
    exact List.mem_cons_of_mem _ (List.mem_append_right _
      (List.mem_cons_of_mem _ (List.mem_cons_of_mem _ hmem)))
  refine ⟨behind.dropWhile isTagChar, ?_⟩
  rw [annotation?, hbody]
  change (if isTagStart c && endsTag (behind.dropWhile isTagChar) then _ else _) = _
  rw [hc, endsTag_of_afterMarker? hbehind hafter]
  rfl

theorem declared?_eq_none
    (h : ∀ tag rest, marker? (line.dropWhile isBlank) ≠ some ("custom".toList, some tag, rest))
    (lines : List (List Char)) : declared? line lines = none := by
  cases hline : annotation? line with
  | none => rw [declared?, hline]; rfl
  | some annotation => exact absurd (marker?_of_annotation? hline) (h _ _)

theorem dropWhile_of_takeWhile_nil (h : line.takeWhile isBlank = []) :
    line.dropWhile isBlank = line := by
  have hline := List.takeWhile_append_dropWhile (p := isBlank) (l := line)
  rwa [h] at hline

/-- A line with no blanks in front stops reading if it starts a block without a marker. -/
theorem stops_of_startsBlock (hbody : line.dropWhile isBlank = line) (h : startsBlock line = true)
    (hmarker : marker? line = none) : stops line = true := by
  have hhead : line.head? = some '@' := by
    rw [startsBlock, hbody] at h
    split at h
    · rfl
    · cases h
  rw [stops, hhead, h, hmarker]
  rfl

theorem isBlank_of_isGapChar (c : Char) (h : isGapChar c = true) : isBlank c = true := by
  rcases Bool.or_eq_true_iff.1 h with h | h <;> rw [beq_iff_eq.1 h] <;> rfl

theorem trimText_ofList (cs : List Char) : trimText (String.ofList cs) = String.ofList (trim cs) := by
  rw [trimText, String.toList_ofList]

/-! ### Blocks -/

/-- The annotation that a block is, if it is a custom one with a tag. -/
def custom? (b : Block) : Option (String × String) :=
  match b.title, b.tag with
  | some "custom", some tag => some (tag, trimText b.args)
  | _, _ => none

theorem custom_eq_filterMap (doc : String) : custom doc = (blocks doc).filterMap custom? := rfl

theorem custom?_eq (title args : List Char) (tag? : Option (List Char)) :
    custom? ⟨some (String.ofList title), tag?.map String.ofList, String.ofList args⟩ =
      if title = "custom".toList then
        tag?.map fun tag => (String.ofList tag, trimText (String.ofList args))
      else none := by
  rw [custom?]
  split
  · rename_i htitle htag
    obtain ⟨tag, rfl, rfl⟩ := Option.map_eq_some_iff.1 htag
    have htitle := congrArg String.toList (Option.some.inj htitle)
    rw [String.toList_ofList] at htitle
    rw [if_pos htitle]
    rfl
  · rename_i hother
    split
    · rename_i htitle
      cases tag? with
      | none => rfl
      | some tag => exact absurd rfl (hother _ (by rw [htitle]; rfl))
    · rfl

/-! ### Blank lines in front of a block -/

/-- Blanks in front of a line: the last of them is a new line, if there is one. -/
structure EndsLines (blanks : List Char) : Prop where
  blank : ∀ c ∈ blanks, isBlank c = true
  ends : endsLine blanks = true

theorem EndsLines.nil : EndsLines [] := ⟨nofun, rfl⟩

theorem EndsLines.cons {blanks : List Char} (h : EndsLines blanks)
    (hline : ∀ c ∈ line, isBlank c = true) : EndsLines (line ++ '\n' :: blanks) where
  blank := by
    intro c hc
    rcases List.mem_append.1 hc with hc | hc
    · exact hline c hc
    · rcases List.mem_cons.1 hc with rfl | hc
      · rfl
      · exact h.blank c hc
  ends := by
    have hends := h.ends
    unfold endsLine at hends ⊢
    rw [List.getLast?_append, List.getLast?_cons]
    cases hlast : blanks.getLast? with
    | none => rfl
    | some c =>
        rw [hlast] at hends
        exact hends

/-- A text is blank, or it is that of a line with more than blanks and the next ones, behind blank
lines. -/
theorem exists_line (lines : List (List Char)) :
    (∀ line ∈ lines, ∀ c ∈ line, isBlank c = true) ∨
      ∃ before line rest blanks, lines = before ++ line :: rest ∧
        (∀ line ∈ before, ∀ c ∈ line, isBlank c = true) ∧ (¬ ∀ c ∈ line, isBlank c = true) ∧
          textOf lines = blanks ++ (line ++ following rest) ∧ EndsLines blanks := by
  induction lines with
  | nil => exact .inl nofun
  | cons line lines ih =>
      by_cases hline : ∀ c ∈ line, isBlank c = true
      · rcases ih with hblank | ⟨before, line', rest, blanks, rfl, hbefore, hline', htext, hblanks⟩
        · exact .inl (List.forall_mem_cons.2 ⟨hline, hblank⟩)
        · refine .inr ⟨line :: before, line', rest, line ++ '\n' :: blanks, rfl,
            List.forall_mem_cons.2 ⟨hline, hbefore⟩, hline', ?_, hblanks.cons hline⟩
          rw [List.append_assoc, List.cons_append, ← htext]
          cases before <;> rfl
      · exact .inr ⟨[], line, lines, [], rfl, nofun, hline, rfl, .nil⟩

section

variable {blanks : List Char} (hblanks : EndsLines blanks) (hline : '\n' ∉ line)
  (hmore : ¬ ∀ c ∈ line, isBlank c = true)

include hblanks hmore

theorem takeWhile_eq : (blanks ++ (line ++ following lines)).takeWhile isBlank =
    blanks ++ line.takeWhile isBlank := by
  rw [List.takeWhile_append_of_pos hblanks.blank, List.takeWhile_append, if_neg]
  intro hlength
  refine hmore (List.takeWhile_eq_self_iff.1 ?_)
  exact (List.takeWhile_prefix isBlank).eq_of_length hlength

theorem dropWhile_eq : (blanks ++ (line ++ following lines)).dropWhile isBlank =
    line.dropWhile isBlank ++ following lines := by
  rw [List.dropWhile_append_of_pos hblanks.blank, List.dropWhile_append, if_neg]
  intro hnil
  exact hmore (List.dropWhile_eq_nil_iff.1 (List.isEmpty_iff.1 hnil))

omit hmore in
include hline in
theorem endsLine_append : endsLine (blanks ++ line.takeWhile isBlank) =
    (line.takeWhile isBlank).isEmpty := by
  cases hleft : line.takeWhile isBlank with
  | nil => rw [List.append_nil, hblanks.ends]; rfl
  | cons c left =>
      have hlast : (c :: left).getLast (List.cons_ne_nil c left) ∈ line :=
        (List.takeWhile_prefix isBlank).subset (by rw [hleft]; exact List.getLast_mem _)
      rw [endsLine, List.getLast?_append, List.getLast?_eq_some_getLast (List.cons_ne_nil c left)]
      exact beq_false_of_ne fun h => hline (h ▸ hlast)

/-! ### The block that starts with a line -/

include hline

theorem readBlock_of_marker? {title : List Char} {tag? : Option (List Char)}
    (h : marker? (line.dropWhile isBlank) = some (title, tag?, rest)) :
    readBlock (blanks ++ (line ++ following lines)) =
      (⟨some (String.ofList title), tag?.map String.ofList,
        String.ofList (rest ++ (readArgs false (following lines)).1)⟩,
        (readArgs false (following lines)).2) := by
  have hrest : '\n' ∉ rest := fun hmem =>
    hline (((suffix_of_marker? h).trans (List.dropWhile_suffix isBlank)).subset hmem)
  unfold readBlock
  rw [takeWhile_eq hblanks hmore, dropWhile_eq hblanks hmore]
  dsimp only
  rw [marker?_append_following, h, Option.map_some]
  dsimp only
  rw [readArgs_append_line hrest]

theorem readBlock_of_marker?_eq_none (h : marker? (line.dropWhile isBlank) = none) :
    readBlock (blanks ++ (line ++ following lines)) =
      (⟨none, none, String.ofList
        (readArgs (line.takeWhile isBlank).isEmpty (line.dropWhile isBlank ++ following lines)).1⟩,
        (readArgs (line.takeWhile isBlank).isEmpty (line.dropWhile isBlank ++ following lines)).2) := by
  unfold readBlock
  rw [takeWhile_eq hblanks hmore, dropWhile_eq hblanks hmore]
  dsimp only
  rw [endsLine_append hblanks hline, marker?_append_following, h]
  rfl

/-- The block that starts with a line at which reading stops is empty. -/
theorem readBlock_of_stops (hstops : stops line = true) (lines : List (List Char)) :
    custom? (readBlock (blanks ++ (line ++ following lines))).1 = none ∧
      (readBlock (blanks ++ (line ++ following lines))).2 = line ++ following lines := by
  obtain ⟨⟨hhead, hstarts⟩, hmarker⟩ : (line.head? = some '@' ∧ startsBlock line = true) ∧
      marker? line = none := by simpa [stops] using hstops
  obtain ⟨cs, rfl⟩ : ∃ cs, line = '@' :: cs := by
    cases line with
    | nil => cases hhead
    | cons c cs =>
        obtain rfl := Option.some.inj hhead
        exact ⟨cs, rfl⟩
  rw [readBlock_of_marker?_eq_none hblanks hline hmore hmarker]
  refine ⟨rfl, ?_⟩
  have hread : readArgs true ('@' :: cs ++ following lines) = ([], '@' :: cs ++ following lines) :=
    readArgs_of_startsBlock ((startsBlock_append_following hmore lines).trans hstarts)
  exact congrArg Prod.snd hread

/-- A block with a marker gives what its line declares. -/
theorem custom?_readBlock_of_marker? (hlines : ∀ line ∈ lines, '\n' ∉ line) {title : List Char}
    {tag? : Option (List Char)} (h : marker? (line.dropWhile isBlank) = some (title, tag?, rest)) :
    custom? (readBlock (blanks ++ (line ++ following lines))).1 = declared? line lines := by
  rw [readBlock_of_marker? hblanks hline hmore h, custom?_eq]
  split
  · rename_i htitle
    subst htitle
    cases tag? with
    | none => exact (declared?_eq_none (by rw [h]; nofun) lines).symm
    | some tag =>
        obtain ⟨text, htext⟩ := exists_annotation? hline h
        have hrest : text.dropWhile isGapChar = rest := by
          have hboth := (marker?_of_annotation? htext).symm.trans h
          simpa only [Option.some.injEq, Prod.mk.injEq, true_and] using hboth
        have htrim : trim (rest ++ (readArgs false (following lines)).1) =
            trim (text ++ following (untilBlock lines)) := by
          rw [trim_args _ hlines, ← hrest, trim_dropWhile_append isBlank_of_isGapChar]
        rw [declared?, htext, Option.map_some, Option.map_some, trimText_ofList, htrim,
          ← trimText_ofList]
  · rename_i htitle
    refine (declared?_eq_none ?_ lines).symm
    rintro tag rest' hcustom
    rw [h] at hcustom
    cases hcustom
    exact htitle rfl

omit hblanks in
/-- The arguments of a block without a marker start with its line, unless reading stops at it. -/
theorem readArgs_of_not_stops (hmarker : marker? (line.dropWhile isBlank) = none)
    (hstops : stops line = false) :
    readArgs (line.takeWhile isBlank).isEmpty (line.dropWhile isBlank ++ following lines) =
      (line.dropWhile isBlank ++ (readArgs false (following lines)).1,
        (readArgs false (following lines)).2) := by
  have hplain : '\n' ∉ line.dropWhile isBlank := fun hmem =>
    hline ((List.dropWhile_suffix isBlank).subset hmem)
  rw [← readArgs_append_line hplain]
  cases hleft : (line.takeWhile isBlank).isEmpty with
  | false => rfl
  | true =>
      -- The line starts in its first column, where a block may start.
      have hbody := dropWhile_of_takeWhile_nil (List.isEmpty_iff.1 hleft)
      rw [hbody] at hmarker ⊢
      refine readArgs_of_not_startsBlock ?_
      rw [startsBlock_append_following hmore]
      refine Bool.eq_false_iff.2 fun hstarts => ?_
      rw [stops_of_startsBlock hbody hstarts hmarker] at hstops
      cases hstops

/-- Any other block gives what its line declares, and takes at least this line. -/
theorem readBlock_of_not_stops (hlines : ∀ line ∈ lines, '\n' ∉ line) (hstops : stops line = false) :
    custom? (readBlock (blanks ++ (line ++ following lines))).1 = declared? line lines ∧
      (readBlock (blanks ++ (line ++ following lines))).2 = (readArgs false (following lines)).2 := by
  cases hmarker : marker? (line.dropWhile isBlank) with
  | some marker =>
      obtain ⟨title, tag?, rest⟩ := marker
      refine ⟨custom?_readBlock_of_marker? hblanks hline hmore hlines hmarker, ?_⟩
      rw [readBlock_of_marker? hblanks hline hmore hmarker]
  | none =>
      have hnone : declared? line lines = none := declared?_eq_none (by rw [hmarker]; nofun) lines
      rw [readBlock_of_marker?_eq_none hblanks hline hmore hmarker,
        readArgs_of_not_stops hline hmore hmarker hstops, hnone]
      exact ⟨rfl, rfl⟩

end

/-! ### The blocks of a text -/

/-- The lines in front of the one at which reading stops. -/
def untilStop (lines : List (List Char)) : List (List Char) := lines.takeWhile fun l => !stops l

theorem stops_of_not_startsBlock (h : startsBlock line = false) : stops line = false := by
  rw [stops, h, Bool.and_false, Bool.false_and]

theorem declared?_of_not_startsBlock (h : startsBlock line = false) (lines : List (List Char)) :
    declared? line lines = none := by
  refine declared?_eq_none (fun tag rest hmarker => ?_) lines
  obtain ⟨behind, _, hbody, -⟩ := exists_of_marker? hmarker
  rw [startsBlock, hbody] at h
  cases h

section

variable {before : List (List Char)} (h : ∀ line ∈ before, startsBlock line = false)

include h

/-- Lines that start no block declare nothing. -/
theorem entries_append (lines : List (List Char)) : entries (before ++ lines) = entries lines := by
  induction before with
  | nil => rfl
  | cons line before ih =>
      obtain ⟨hline, hbefore⟩ := List.forall_mem_cons.1 h
      rw [List.cons_append, entries, declared?_of_not_startsBlock hline, ih hbefore]
      rfl

theorem untilStop_append (lines : List (List Char)) :
    untilStop (before ++ lines) = before ++ untilStop lines :=
  List.takeWhile_append_of_pos fun line hline => by
    rw [stops_of_not_startsBlock (h line hline)]
    rfl

theorem entries_untilStop_append (lines : List (List Char)) :
    entries (untilStop (before ++ lines)) = entries (untilStop lines) := by
  rw [untilStop_append h, entries_append h]

end

theorem untilBlock_untilStop (lines : List (List Char)) :
    untilBlock (untilStop lines) = untilBlock lines := by
  rw [untilBlock, untilStop, List.takeWhile_takeWhile, untilBlock]
  congr 1
  funext line
  cases h : startsBlock line with
  | true => simp
  | false => simp [stops_of_not_startsBlock h]

theorem entries_untilStop_cons (h : stops line = false) (lines : List (List Char)) :
    entries (untilStop (line :: lines)) =
      (declared? line lines).toList ++ entries (untilStop lines) := by
  have hkept : untilStop (line :: lines) = line :: untilStop lines :=
    List.takeWhile_cons_of_pos (by rw [h]; rfl)
  rw [hkept, entries, declared?, untilBlock_untilStop, declared?]

theorem entries_untilStop_of_stops (h : stops line = true) (lines : List (List Char)) :
    entries (untilStop (line :: lines)) = [] := by
  rw [untilStop, List.takeWhile_cons_of_neg (by rw [h]; simp)]
  rfl

theorem readBlock_of_blank {cs : List Char} (h : ∀ c ∈ cs, isBlank c = true) :
    readBlock cs = (⟨none, none, ""⟩, []) := by
  rw [readBlock, List.dropWhile_eq_nil_iff.2 h]
  rfl

theorem blank_textOf (h : ∀ line ∈ lines, ∀ c ∈ line, isBlank c = true) :
    ∀ c ∈ textOf lines, isBlank c = true := by
  cases lines with
  | nil => nofun
  | cons line lines =>
      obtain ⟨hline, hlines⟩ := List.forall_mem_cons.1 h
      intro c hc
      rcases List.mem_append.1 hc with hc | hc
      · exact hline c hc
      · obtain ⟨line', hline', hc⟩ := List.mem_flatMap.1 hc
        rcases List.mem_cons.1 hc with rfl | hc
        · rfl
        · exact hlines line' hline' c hc

theorem readBlocks_nil (steps : Nat) : readBlocks steps [] = [] := by
  cases steps <;> rfl

theorem readBlocks_succ (steps : Nat) (cs : List Char) :
    readBlocks (steps + 1) cs =
      if cs.isEmpty then []
      else if (readBlock cs).2.length < cs.length then
        (readBlock cs).1 :: readBlocks steps (readBlock cs).2
      else [] := rfl

/-- A block that takes a part of the text comes before those of the rest. -/
theorem filterMap_readBlocks_succ {cs : List Char} (steps : Nat)
    (h : (readBlock cs).2.length < cs.length) :
    (readBlocks (steps + 1) cs).filterMap custom? =
      (custom? (readBlock cs).1).toList ++ (readBlocks steps (readBlock cs).2).filterMap custom? := by
  have hcs : cs.isEmpty = false := by
    cases cs with
    | nil => cases h
    | cons c cs => rfl
  rw [readBlocks_succ, hcs, if_neg Bool.false_ne_true, if_pos h, List.filterMap_cons]
  cases custom? (readBlock cs).1 <;> rfl

/-- Reading stops at a block that takes nothing. -/
theorem readBlocks_of_not_shorter {cs : List Char} (steps : Nat)
    (h : ¬ (readBlock cs).2.length < cs.length) : readBlocks steps cs = [] := by
  cases steps with
  | zero => rfl
  | succ steps => rw [readBlocks_succ, if_neg h, ite_self]

theorem filterMap_readBlocks_of_blank {cs : List Char} (h : ∀ c ∈ cs, isBlank c = true)
    (steps : Nat) : (readBlocks steps cs).filterMap custom? = [] := by
  cases steps with
  | zero => rfl
  | succ steps =>
      have hread := readBlock_of_blank h
      by_cases hshorter : (readBlock cs).2.length < cs.length
      · rw [filterMap_readBlocks_succ steps hshorter, hread, readBlocks_nil]
        rfl
      · rw [readBlocks_of_not_shorter _ hshorter]
        rfl

/-- The last of some lines are shorter than a line in front of all of them. -/
theorem length_textOf_lt (hmore : ¬ ∀ c ∈ line, isBlank c = true) (inside behind : List (List Char)) :
    (textOf behind).length < (line ++ following (inside ++ behind)).length := by
  have hline : 0 < line.length := List.length_pos_iff.2 fun hnil => hmore (by rw [hnil]; nofun)
  have hbehind : (textOf behind).length ≤ (following behind).length := by
    cases behind with
    | nil => exact Nat.le_refl 0
    | cons line' behind => exact Nat.le_succ _
  rw [List.length_append, following, List.flatMap_append, List.length_append]
  exact Nat.lt_add_left_iff_pos.2 hline |>.trans_le' (hbehind.trans (Nat.le_add_left _ _))

/-- The blocks of some lines give what the lines declare in front of the one at which reading stops. -/
theorem filterMap_readBlocks (steps : Nat) : ∀ lines : List (List Char),
    (∀ line ∈ lines, '\n' ∉ line) → (textOf lines).length < steps →
      (readBlocks steps (textOf lines)).filterMap custom? = entries (untilStop lines) := by
  induction steps with
  | zero => exact fun _ _ h => absurd h (Nat.not_lt_zero _)
  | succ steps ih =>
      intro lines hlines hsteps
      rcases exists_line lines with
        hblank | ⟨before, line, rest, blanks, rfl, hbefore, hmore, htext, hblanks⟩
      · have hquiet : entries (untilStop (lines ++ [])) = entries (untilStop []) :=
          entries_untilStop_append (fun line hline => startsBlock_of_blank (hblank line hline)) []
        rw [List.append_nil] at hquiet
        rw [hquiet, filterMap_readBlocks_of_blank (blank_textOf hblank)]
        rfl
      · have hquiet : entries (untilStop (before ++ line :: rest)) =
            entries (untilStop (line :: rest)) :=
          entries_untilStop_append (fun line hline => startsBlock_of_blank (hbefore line hline)) _
        have hplain : ∀ l ∈ line :: rest, '\n' ∉ l := fun l hl =>
          hlines l (List.mem_append_right before hl)
        obtain ⟨hline, hrest⟩ := List.forall_mem_cons.1 hplain
        rw [hquiet, htext]
        rw [htext] at hsteps
        cases hstops : stops line with
        | true =>
            obtain ⟨hentry, hleft⟩ := readBlock_of_stops hblanks hline hmore hstops rest
            -- The block takes the blank lines in front, if there are any; the next one takes nothing.
            have hstop := entries_untilStop_of_stops hstops rest
            rw [hstop]
            by_cases hshorter : (readBlock (blanks ++ (line ++ following rest))).2.length <
                (blanks ++ (line ++ following rest)).length
            · rw [filterMap_readBlocks_succ steps hshorter, hentry, hleft]
              rw [hleft] at hshorter
              exact (ih (line :: rest) hplain (by rw [textOf]; omega)).trans hstop
            · rw [readBlocks_of_not_shorter _ hshorter]
              rfl
        | false =>
            obtain ⟨hentry, hleft⟩ := readBlock_of_not_stops hblanks hline hmore hrest hstops
            -- The lines inside the block declare nothing, and those behind it are read in turn.
            obtain ⟨inside, behind, rfl, hinside, hbehind⟩ := exists_rest hrest
            rw [hbehind] at hleft
            have hlength := length_textOf_lt hmore inside behind
            have hshorter : (textOf behind).length <
                (blanks ++ (line ++ following (inside ++ behind))).length := by
              rw [List.length_append]
              exact Nat.lt_add_left _ hlength
            rw [filterMap_readBlocks_succ steps (by rw [hleft]; exact hshorter), hentry, hleft,
              entries_untilStop_cons hstops, entries_untilStop_append hinside,
              ih behind (fun l hl => hrest l (List.mem_append_right inside hl)) (by omega)]

/-- The custom annotations of a text are those that its lines declare, up to the first line that starts
with `@` and a word but is no marker. -/
theorem custom_eq (doc : String) :
    custom doc = entries (untilStop (splitAt '\n' doc.toList)) := by
  obtain ⟨htext, hlines⟩ := exists_lines doc.toList
  rw [custom_eq_filterMap, blocks, ← filterMap_readBlocks (doc.length + 1) _ hlines, htext]
  rw [htext, String.length_toList]
  exact Nat.lt_succ_self _

/-- Reading stops at a tag that starts with a capital letter, and a location behind it is lost. -/
theorem custom_of_capitalTag :
    custom "@custom:Security x\n@custom:storage-location erc7201:main" = [] ∧
      entries (splitAt '\n' "@custom:Security x\n@custom:storage-location erc7201:main".toList) =
        [("storage-location", "erc7201:main")] := by
  decide +kernel

end Documentation
end StorageUpgrade
