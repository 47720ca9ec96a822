import StorageUpgrade.Proofs.TypeId.Trees

/-!
# Normalizing identifiers again

An identifier that was decoded or normalized before stays as it is when this is done again
(`normalize_again`).  A piece of the code counts only if what stands behind it can be cut into
pieces, and decoding changes what stands there; shortening pointers changes it once more.

## Strategy

* A text that can be cut into pieces after decoding could be cut before
  (`isCodeRun_of_decodeChars`).  So a character that starts no piece starts none in the decoded
  text, and all else in it are marks.
* Only the front of a text decides how it is cut, and shortening pointers leaves it as it is
  (`isCodeRun_cons_dropPointers`).  So a decoded text stays decoded.
* Texts are shortened word by word, and a shortened word does not end as a pointer does
  (`shorten_shorten`).
-/

namespace StorageUpgrade
namespace TypeId

variable {c m : Char} {cs ds rest word : List Char} {more : Nat}

/-! ### Pieces at the front of a text -/

/-- A character that pieces of the code are made of. -/
def isCodeChar (c : Char) : Bool := c == '$' || c == '_'

theorem isCodeChar_cases (hc : isCodeChar c = true) : c = '$' ∨ c = '_' := by
  simpa [isCodeChar] using hc

theorem ne_of_isCodeChar (hc : isCodeChar c = false) : c ≠ '$' ∧ c ≠ '_' := by
  simpa [isCodeChar] using hc

theorem isCodeRun_dollar_iff :
    isCodeRun ('$' :: cs) = true ↔ ∃ ds, cs = '_' :: ds ∧ isCodeRun ds = true := by
  cases cs with
  | nil => simp [isCodeRun]
  | cons d ds => by_cases hd : d = '_' <;> simp [hd, isCodeRun_open, isCodeRun_dollar]

theorem isCodeRun_underscore_iff :
    isCodeRun ('_' :: cs) = true ↔
      ∃ ds, cs = '$' :: ds ∧
        (isCodeRun ds = true ∨ ∃ es, ds = '_' :: es ∧ isCodeRun es = true) := by
  cases cs with
  | nil => exact iff_of_false (by decide) fun ⟨_, heq, _⟩ => nomatch heq
  | cons d ds =>
      by_cases hd : d = '$'
      · subst hd
        cases ds with
        | nil => simp [isCodeRun]
        | cons e es => by_cases he : e = '_' <;> simp [isCodeRun, he]
      · rw [isCodeRun_underscore (by simpa using hd)]
        simp [hd]

/-- A piece of the code stands for a mark, and the text it starts can be cut into pieces. -/
theorem isCodeRun_of_mark? (h : mark? cs = some (m, more)) :
    isCodeRun cs = true ∧ isMark m = true := by
  unfold mark? at h
  split at h
  · rw [isCodeRun_open]
    grind [isMark]
  · rw [isCodeRun_underscore_iff]
    grind [isMark]
  · rw [isCodeRun_underscore_iff]
    grind [isMark]
  · cases h

/-- A text that can be cut into pieces starts with one, if its first character is part of one. -/
theorem mark?_ne_none (hc : isCodeChar c = true) (h : isCodeRun (c :: cs) = true) :
    mark? (c :: cs) ≠ none := by
  rcases isCodeChar_cases hc with rfl | rfl
  · obtain ⟨ds, rfl, hds⟩ := isCodeRun_dollar_iff.1 h
    simp [mark?, hds]
  · obtain ⟨ds, rfl, hds⟩ := isCodeRun_underscore_iff.1 h
    -- an underscore behind the dollar may belong to this piece or to the next one
    cases ds with
    | nil => decide
    | cons d ds =>
        by_cases hd : d = '_'
        · subst hd
          rw [mark?]
          rcases hds with hds | ⟨es, heq, hes⟩
          · split
            all_goals exact Option.some_ne_none _
          · obtain rfl := (List.cons.inj heq).2
            simp [hes]
        · have hds' : isCodeRun (d :: ds) = true := by
            rcases hds with hds | ⟨es, heq, -⟩
            · exact hds
            · exact absurd (List.cons.inj heq).1 hd
          simp [mark?, hd, hds']

/-- No piece starts where a text cannot be cut into pieces, nor at any other character than those
that pieces are made of. -/
theorem mark?_eq_none_iff :
    mark? (c :: cs) = none ↔ isCodeChar c = false ∨ isCodeRun (c :: cs) = false := by
  refine ⟨fun h => ?_, fun h => ?_⟩
  · by_contra hnot
    rw [not_or, Bool.not_eq_false, Bool.not_eq_false] at hnot
    exact mark?_ne_none hnot.1 hnot.2 h
  · rcases h with hc | hrun
    · obtain ⟨hdollar, hunder⟩ := ne_of_isCodeChar hc
      exact mark?_cons hdollar fun heq => absurd heq hunder
    · cases hmark : mark? (c :: cs) with
      | none => rfl
      | some piece =>
          rw [(isCodeRun_of_mark? hmark).1] at hrun
          cases hrun

/-! ### Decoding a decoded text -/

theorem isCodeChar_of_isMark (hm : isMark m = true) : isCodeChar m = false := by
  rcases mark_cases m with rfl | rfl | rfl | hplain
  · decide
  · decide
  · decide
  · rw [hm] at hplain
    cases hplain

/-- A decoded text starts with a mark, or as the text that was decoded does. -/
theorem decodeChars_cases (c : Char) (cs : List Char) :
    (∃ m more, mark? (c :: cs) = some (m, more) ∧ isMark m = true ∧
      decodeChars (c :: cs) = m :: decodeChars (cs.drop more)) ∨
    mark? (c :: cs) = none ∧ decodeChars (c :: cs) = c :: decodeChars cs := by
  cases hmark : mark? (c :: cs) with
  | none => exact .inr ⟨rfl, decodeChars_of_no_mark hmark⟩
  | some piece =>
      obtain ⟨m, more⟩ := piece
      exact .inl ⟨m, more, rfl, (isCodeRun_of_mark? hmark).2, decodeChars_of_mark hmark⟩

/-- A character of the code at the front of a decoded text was there before. -/
theorem of_decodeChars_eq_cons (hc : isCodeChar c = true) (h : decodeChars cs = c :: ds) :
    ∃ cs', cs = c :: cs' ∧ decodeChars cs' = ds := by
  cases cs with
  | nil => cases h
  | cons d cs =>
      rcases decodeChars_cases d cs with ⟨m, more, -, hm, hdecode⟩ | ⟨-, hdecode⟩
      · obtain ⟨rfl, -⟩ := List.cons.inj (hdecode.symm.trans h)
        rw [isCodeChar_of_isMark hm] at hc
        cases hc
      · obtain ⟨rfl, rfl⟩ := List.cons.inj (hdecode.symm.trans h)
        exact ⟨cs, rfl, rfl⟩

theorem length_lt_cons_cons (c d : Char) (cs : List Char) :
    cs.length < (c :: d :: cs).length := by
  rw [List.length_cons, List.length_cons]
  omega

theorem length_lt_cons_cons_cons (c d e : Char) (cs : List Char) :
    cs.length < (c :: d :: e :: cs).length := by
  rw [List.length_cons]
  exact Nat.lt_add_right 1 (length_lt_cons_cons d e cs)

/-- A text that can be cut into pieces after decoding could be cut before. -/
theorem isCodeRun_of_decodeChars (cs : List Char) (h : isCodeRun (decodeChars cs) = true) :
    isCodeRun cs = true := by
  -- the pieces of the decoded text stand in front of other decoded texts
  induction hlength : cs.length using Nat.strong_induction_on generalizing cs with
  | _ length ih =>
      subst hlength
      cases cs with
      | nil => rfl
      | cons c cs =>
          rcases decodeChars_cases c cs with ⟨m, more, hmark, -⟩ | ⟨-, hdecode⟩
          · exact (isCodeRun_of_mark? hmark).1
          rw [hdecode] at h
          cases hc : isCodeChar c with
          | false =>
              obtain ⟨hdollar, hunder⟩ := ne_of_isCodeChar hc
              exact isCodeRun_cons hdollar hunder cs
          | true =>
              rcases isCodeChar_cases hc with rfl | rfl
              · obtain ⟨ds, hds, hrun⟩ := isCodeRun_dollar_iff.1 h
                obtain ⟨cs', rfl, rfl⟩ := of_decodeChars_eq_cons rfl hds
                exact isCodeRun_dollar_iff.2 ⟨cs', rfl, ih _ (length_lt_cons_cons ..) cs' hrun rfl⟩
              · obtain ⟨ds, hds, hrun⟩ := isCodeRun_underscore_iff.1 h
                obtain ⟨cs', rfl, rfl⟩ := of_decodeChars_eq_cons rfl hds
                refine isCodeRun_underscore_iff.2 ⟨cs', rfl, ?_⟩
                rcases hrun with hrun | ⟨es, hes, hrun⟩
                · exact .inl (ih _ (length_lt_cons_cons ..) cs' hrun rfl)
                · obtain ⟨cs'', rfl, rfl⟩ := of_decodeChars_eq_cons rfl hes
                  exact .inr ⟨cs'', rfl, ih _ (length_lt_cons_cons_cons ..) cs'' hrun rfl⟩

theorem decodeChars_decodeChars (cs : List Char) :
    decodeChars (decodeChars cs) = decodeChars cs := by
  induction hlength : cs.length using Nat.strong_induction_on generalizing cs with
  | _ length ih =>
      subst hlength
      cases cs with
      | nil => rfl
      | cons c cs =>
          rcases decodeChars_cases c cs with ⟨m, more, -, hm, hdecode⟩ | ⟨hmark, hdecode⟩
          · have hnone : mark? (m :: decodeChars (cs.drop more)) = none :=
              mark?_eq_none_iff.2 (.inl (isCodeChar_of_isMark hm))
            have hshorter : (cs.drop more).length < (c :: cs).length := by
              rw [List.length_drop, List.length_cons]
              omega
            rw [hdecode, decodeChars_of_no_mark hnone, ih _ hshorter _ rfl]
          · -- the first character starts no piece in the decoded text either
            have hnone : mark? (c :: decodeChars cs) = none := by
              rw [mark?_eq_none_iff] at hmark ⊢
              refine hmark.imp_right fun hrun => ?_
              rw [← hdecode]
              exact Bool.eq_false_iff.2 fun htrue =>
                Bool.eq_false_iff.1 hrun (isCodeRun_of_decodeChars _ htrue)
            rw [hdecode, decodeChars_of_no_mark hnone, ih _ (by simp) cs rfl]

/-! ### Shortening pointers in a decoded text -/

theorem exists_of_takeWhile_eq_cons {p : Char → Bool} (h : cs.takeWhile p = c :: ds) :
    ∃ rest, cs = c :: rest ∧ rest.takeWhile p = ds := by
  cases cs with
  | nil => cases h
  | cons d cs =>
      rw [List.takeWhile_cons] at h
      split at h
      · cases h
        exact ⟨cs, rfl, rfl⟩
      · cases h

/-- Only the characters in front that pieces are made of decide how a text is cut. -/
theorem isCodeRun_takeWhile (cs : List Char) :
    isCodeRun (cs.takeWhile isCodeChar) = isCodeRun cs := by
  induction hlength : cs.length using Nat.strong_induction_on generalizing cs with
  | _ length ih =>
      subst hlength
      cases cs with
      | nil => rfl
      | cons c cs =>
          cases hc : isCodeChar c with
          | false =>
              obtain ⟨hdollar, hunder⟩ := ne_of_isCodeChar hc
              rw [isCodeRun_cons hdollar hunder, List.takeWhile_cons_of_neg (by simp [hc])]
              rfl
          | true =>
              rw [List.takeWhile_cons_of_pos hc, Bool.eq_iff_iff]
              rcases isCodeChar_cases hc with rfl | rfl
              · rw [isCodeRun_dollar_iff, isCodeRun_dollar_iff]
                constructor
                · rintro ⟨_, hfront, hrun⟩
                  obtain ⟨ds, rfl, rfl⟩ := exists_of_takeWhile_eq_cons hfront
                  exact ⟨ds, rfl, by rwa [← ih _ (length_lt_cons_cons ..) ds rfl]⟩
                · rintro ⟨ds, rfl, hrun⟩
                  exact ⟨_, rfl, by rwa [ih _ (length_lt_cons_cons ..) ds rfl]⟩
              · rw [isCodeRun_underscore_iff, isCodeRun_underscore_iff]
                constructor
                · rintro ⟨_, hfront, hrun⟩
                  obtain ⟨ds, rfl, rfl⟩ := exists_of_takeWhile_eq_cons hfront
                  refine ⟨ds, rfl, ?_⟩
                  rcases hrun with hrun | ⟨_, hnext, hrun⟩
                  · exact .inl (by rwa [← ih _ (length_lt_cons_cons ..) ds rfl])
                  · obtain ⟨es, rfl, rfl⟩ := exists_of_takeWhile_eq_cons hnext
                    exact .inr ⟨es, rfl, by rwa [← ih _ (length_lt_cons_cons_cons ..) es rfl]⟩
                · rintro ⟨ds, rfl, hrun | ⟨es, rfl, hrun⟩⟩
                  · exact ⟨_, rfl, .inl (by rwa [ih _ (length_lt_cons_cons ..) ds rfl])⟩
                  · refine ⟨_, rfl, .inr ⟨_, rfl, ?_⟩⟩
                    rwa [ih _ (length_lt_cons_cons_cons ..) es rfl]

/-- A text starts with a pointer, or its first character stays as it is. -/
theorem dropPointers_cases (c : Char) (cs : List Char) :
    (∃ rest, c :: cs = pointerSuffix ++ rest ∧
      dropPointers (c :: cs) = "_storage".toList ++ dropPointers rest) ∨
    dropPointers (c :: cs) = c :: dropPointers cs := by
  by_cases h : pointerSuffix <+: c :: cs ∧
      endsWord ((c :: cs).drop pointerSuffix.length) = true
  · obtain ⟨⟨rest, hrest⟩, hends⟩ := h
    rw [← hrest, List.drop_left] at hends
    exact .inl ⟨rest, hrest.symm, by rw [← hrest, dropPointers_pointerSuffix hends]⟩
  · exact .inr (dropPointers_cons h)

theorem takeWhile_dropPointers (cs : List Char) :
    (dropPointers cs).takeWhile isCodeChar = cs.takeWhile isCodeChar := by
  induction cs with
  | nil => rfl
  | cons c cs ih =>
      rcases dropPointers_cases c cs with ⟨rest, htext, hdrop⟩ | hdrop
      · rw [hdrop, htext]
        rfl
      · rw [hdrop, List.takeWhile_cons, List.takeWhile_cons, ih]

theorem isCodeRun_cons_dropPointers (c : Char) (cs : List Char) :
    isCodeRun (c :: dropPointers cs) = isCodeRun (c :: cs) := by
  rw [← isCodeRun_takeWhile, ← isCodeRun_takeWhile (c :: cs), List.takeWhile_cons,
    List.takeWhile_cons, takeWhile_dropPointers]

/-- A text that decoding leaves as it is starts with no piece, nor does a rest of it. -/
theorem mark?_of_decodeChars_eq_self (h : decodeChars (c :: cs) = c :: cs) :
    mark? (c :: cs) = none ∧ decodeChars cs = cs := by
  rcases decodeChars_cases c cs with ⟨m, more, hmark, hm, hdecode⟩ | ⟨hmark, hdecode⟩
  · obtain ⟨rfl, -⟩ := List.cons.inj (hdecode.symm.trans h)
    rw [mark?_eq_none_iff.2 (.inl (isCodeChar_of_isMark hm))] at hmark
    cases hmark
  · exact ⟨hmark, (List.cons.inj (hdecode.symm.trans h)).2⟩

/-- A decoded text stays decoded when its pointers are shortened. -/
theorem decodeChars_dropPointers {cs : List Char} (h : decodeChars cs = cs) :
    decodeChars (dropPointers cs) = dropPointers cs := by
  induction hlength : cs.length using Nat.strong_induction_on generalizing cs with
  | _ length ih =>
      subst hlength
      cases cs with
      | nil => rfl
      | cons c cs =>
          obtain ⟨hmark, hcs⟩ := mark?_of_decodeChars_eq_self h
          rcases dropPointers_cases c cs with ⟨rest, htext, hdrop⟩ | hdrop
          · have hpointer : ∀ c ∈ pointerSuffix, isWord c = true := List.all_eq_true.1 rfl
            have hrest : decodeChars rest = rest := by
              rw [htext, decodeChars_append hpointer fun hlast => absurd hlast (by decide)] at h
              exact List.append_cancel_left h
            have hshorter : rest.length < (c :: cs).length := by
              rw [htext, List.length_append]
              exact Nat.lt_add_of_pos_left (by decide)
            rw [hdrop, decodeChars_append (List.all_eq_true.1 rfl) fun hlast =>
              absurd hlast (by decide), ih _ hshorter hrest rfl]
          · have hnone : mark? (c :: dropPointers cs) = none := by
              rw [mark?_eq_none_iff] at hmark ⊢
              rwa [isCodeRun_cons_dropPointers]
            rw [hdrop, decodeChars_of_no_mark hnone, ih _ (by simp) hcs rfl]

/-! ### Shortening pointers again -/

theorem shorten_shorten (word : List Char) : shorten (shorten word) = shorten word := by
  by_cases hsuffix : pointerSuffix <:+ word
  · obtain ⟨front, rfl⟩ := hsuffix
    have hshort : shorten (front ++ pointerSuffix) = front ++ "_storage".toList := by
      rw [shorten_of_suffix (List.suffix_append _ _), List.length_append,
        Nat.add_sub_assoc (by decide), List.take_length_add_append]
      rfl
    rw [hshort]
    exact shorten_of_getLast? (by rw [List.getLast?_append]; nofun)
  · rw [shorten_of_not_suffix hsuffix, shorten_of_not_suffix hsuffix]

theorem endsWord_dropPointers (cs : List Char) : endsWord (dropPointers cs) = endsWord cs := by
  cases cs with
  | nil => rfl
  | cons c cs =>
      rcases dropPointers_cases c cs with ⟨rest, htext, hdrop⟩ | hdrop
      · rw [hdrop, htext]
        rfl
      · rw [hdrop, endsWord_cons, endsWord_cons]

/-- A text starts with a word, which may be empty. -/
theorem exists_word (cs : List Char) :
    ∃ word rest, cs = word ++ rest ∧ (∀ c ∈ word, isWord c = true) ∧ endsWord rest = true := by
  induction cs with
  | nil => exact ⟨[], [], rfl, nofun, rfl⟩
  | cons c cs ih =>
      cases hc : isWord c with
      | false => exact ⟨[], c :: cs, rfl, nofun, by rw [endsWord_cons, hc]; rfl⟩
      | true =>
          obtain ⟨word, rest, rfl, hword, hrest⟩ := ih
          exact ⟨c :: word, rest, rfl, List.forall_mem_cons.2 ⟨hc, hword⟩, hrest⟩

theorem dropPointers_dropPointers (cs : List Char) :
    dropPointers (dropPointers cs) = dropPointers cs := by
  induction hlength : cs.length using Nat.strong_induction_on generalizing cs with
  | _ length ih =>
      subst hlength
      obtain ⟨word, rest, rfl, hword, hends⟩ := exists_word cs
      have hrest : dropPointers (dropPointers rest) = dropPointers rest := by
        cases rest with
        | nil => rfl
        | cons m rest =>
            have hm : isWord m = false := by simpa using hends
            have hshorter : rest.length < (word ++ m :: rest).length := by
              rw [List.length_append, List.length_cons]
              omega
            rw [dropPointers_mark hm, dropPointers_mark hm, ih _ hshorter rest rfl]
      have hends' : endsWord (dropPointers rest) = true := by
        rw [endsWord_dropPointers, hends]
      rw [dropPointers_append hword hends,
        dropPointers_append (fun c hc => hword c (mem_of_mem_shorten hc)) hends', shorten_shorten,
        hrest]

/-- An identifier that was decoded or normalized stays as it is when this is done again, and
decoding it first makes no difference to normalizing it. -/
theorem normalize_again (id : String) :
    normalize (normalize id) = normalize id ∧ decode (decode id) = decode id ∧
      normalize (decode id) = normalize id := by
  unfold normalize decode
  simp only [String.toList_ofList]
  have hdecoded : decodeChars (decodeChars id.toList) = decodeChars id.toList :=
    decodeChars_decodeChars _
  rw [decodeChars_dropPointers hdecoded, dropPointers_dropPointers, hdecoded]
  exact ⟨rfl, rfl, rfl⟩

end TypeId
end StorageUpgrade
