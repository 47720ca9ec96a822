import Mathlib.Data.List.Chain
import StorageUpgrade.TypeId.Encoding

/-!
# What decoding makes of encoded identifiers

`encode` writes the parentheses and commas of an identifier as pieces of the code.  Decoding finds
the pieces again where they cannot be taken for parts of names (`Separated`).  But `_$_` is a comma
and also how a `_$` goes on with the next piece: a closing parenthesis is taken for a comma when a
comma follows, be it at once or behind more closing parentheses (`mark?_encodeChars_close`).

So an identifier is decoded to itself if and only if no comma follows a closing parenthesis
(`decodeChars_encodeChars_iff`).  All well formed identifiers are separated
(`WellFormedId.separated`).
-/

namespace StorageUpgrade
namespace TypeId

/-- The piece of the code that stands for a mark; other characters stand for themselves. -/
def encodeChar (c : Char) : List Char :=
  if c = '(' then ['$', '_']
  else if c = ')' then ['_', '$']
  else if c = ',' then ['_', '$', '_']
  else [c]

/-- Writes a text with all marks as pieces of the code. -/
def encodeChars (cs : List Char) : List Char := cs.flatMap encodeChar

/-- Writes an identifier as it stands in a syntax tree. -/
def encode (id : String) : String := String.ofList (encodeChars id.toList)

/-- The characters that are written as pieces of the code. -/
def isMark (c : Char) : Bool := c == '(' || c == ')' || c == ','

@[simp] theorem encodeChars_nil : encodeChars [] = [] := rfl

@[simp] theorem encodeChars_open (cs : List Char) :
    encodeChars ('(' :: cs) = '$' :: '_' :: encodeChars cs := rfl

@[simp] theorem encodeChars_close (cs : List Char) :
    encodeChars (')' :: cs) = '_' :: '$' :: encodeChars cs := rfl

@[simp] theorem encodeChars_comma (cs : List Char) :
    encodeChars (',' :: cs) = '_' :: '$' :: '_' :: encodeChars cs := rfl

theorem encodeChars_cons {c : Char} (hc : isMark c = false) (cs : List Char) :
    encodeChars (c :: cs) = c :: encodeChars cs := by
  simp only [isMark, Bool.or_eq_false_iff, beq_eq_false_iff_ne] at hc
  obtain ⟨⟨hopen, hclose⟩, hcomma⟩ := hc
  unfold encodeChars
  rw [List.flatMap_cons, encodeChar, if_neg hopen, if_neg hclose, if_neg hcomma]
  rfl

/-- A character is a mark or stands for itself. -/
theorem mark_cases (c : Char) : c = '(' ∨ c = ')' ∨ c = ',' ∨ isMark c = false := by
  unfold isMark
  by_cases hopen : c = '('
  · exact .inl hopen
  by_cases hclose : c = ')'
  · exact .inr (.inl hclose)
  by_cases hcomma : c = ','
  · exact .inr (.inr (.inl hcomma))
  simp [hopen, hclose, hcomma]

/-! ### Runs of pieces -/

variable {c : Char} {cs : List Char}

theorem isCodeRun_open (cs : List Char) : isCodeRun ('$' :: '_' :: cs) = isCodeRun cs := by
  rw [isCodeRun]

theorem isCodeRun_close (h : isCodeRun cs = true) : isCodeRun ('_' :: '$' :: cs) = true := by
  unfold isCodeRun
  exact Bool.or_eq_true_iff.2 (.inl h)

theorem isCodeRun_comma (h : isCodeRun cs = true) :
    isCodeRun ('_' :: '$' :: '_' :: cs) = true := by
  unfold isCodeRun
  exact Bool.or_eq_true_iff.2 (.inr h)

theorem isCodeRun_cons (hdollar : c ≠ '$') (hunder : c ≠ '_') (cs : List Char) :
    isCodeRun (c :: cs) = true := by
  unfold isCodeRun
  split
  · rename_i heq
    exact absurd (List.cons.inj heq).1 hdollar
  · rename_i heq
    exact absurd (List.cons.inj heq).1 hunder
  · rfl
  · rename_i heq
    obtain ⟨rfl, -⟩ := List.cons.inj heq
    simp [hdollar, hunder]

theorem isCodeRun_underscore (hdollar : cs.head? ≠ some '$') : isCodeRun ('_' :: cs) = false := by
  unfold isCodeRun
  split
  · rename_i heq
    exact absurd (List.cons.inj heq).1 (by decide)
  · rename_i heq
    exact absurd (congrArg List.head? (List.cons.inj heq).2) hdollar
  · rename_i heq
    cases heq
  · rename_i heq
    obtain ⟨rfl, -⟩ := List.cons.inj heq
    rfl

theorem isCodeRun_dollar (hunder : c ≠ '_') (cs : List Char) :
    isCodeRun ('$' :: c :: cs) = false := by
  unfold isCodeRun
  split
  · rename_i heq
    exact absurd (List.cons.inj (List.cons.inj heq).2).1 hunder
  · rename_i heq
    exact absurd (List.cons.inj heq).1 (by decide)
  · rename_i heq
    cases heq
  · rename_i heq
    obtain ⟨rfl, -⟩ := List.cons.inj heq
    rfl

/-! ### Texts whose marks stand apart from underscores -/

/-- Two characters may stand side by side: an underscore does not follow a mark, nor is it followed
by an opening parenthesis. -/
def MayMeet (a b : Char) : Prop := (isMark a = true → b ≠ '_') ∧ (a = '_' → b ≠ '(')

/-- A text whose pieces cannot be taken for parts of its names. -/
structure Separated (cs : List Char) : Prop where
  plain : '$' ∉ cs
  meet : cs.IsChain MayMeet

theorem Separated.tail (h : Separated (c :: cs)) : Separated cs :=
  ⟨fun hmem => h.plain (List.mem_cons_of_mem c hmem), h.meet.tail⟩

theorem Separated.ne_dollar (h : Separated (c :: cs)) : c ≠ '$' :=
  fun hc => h.plain (hc ▸ List.mem_cons_self)

theorem Separated.head?_ne (h : Separated (c :: cs)) (hc : isMark c = true) :
    cs.head? ≠ some '_' := by
  cases cs with
  | nil => nofun
  | cons d ds =>
      have hd : d ≠ '_' := (List.isChain_cons_cons.1 h.meet).1.1 hc
      exact fun hstart => hd (Option.some.inj hstart)

/-- The pieces of a separated text are found one after the other. -/
theorem isCodeRun_encodeChars (h : Separated cs) (hstart : cs.head? ≠ some '_') :
    isCodeRun (encodeChars cs) = true := by
  induction cs with
  | nil => rfl
  | cons c cs ih =>
      rcases mark_cases c with rfl | rfl | rfl | hc
      · exact ih h.tail (h.head?_ne rfl)
      · exact isCodeRun_close (ih h.tail (h.head?_ne rfl))
      · exact isCodeRun_comma (ih h.tail (h.head?_ne rfl))
      · have hunder : c ≠ '_' := fun hc => hstart (congrArg some hc)
        rw [encodeChars_cons hc]
        exact isCodeRun_cons h.ne_dollar hunder _

/-! ### Closing parentheses -/

/-- A comma comes next, perhaps behind some closing parentheses. -/
def closesBeforeComma : List Char → Bool
  | ')' :: cs => closesBeforeComma cs
  | ',' :: _ => true
  | _ => false

theorem closesBeforeComma_cons (hc : isMark c = false) (cs : List Char) :
    closesBeforeComma (c :: cs) = false := by
  unfold closesBeforeComma
  split
  · rename_i heq
    obtain ⟨rfl, -⟩ := List.cons.inj heq
    cases hc
  · rename_i heq
    obtain ⟨rfl, -⟩ := List.cons.inj heq
    cases hc
  · rfl

/-- What is left when the piece of a closing parenthesis is taken for a comma can be cut into pieces
if and only if a comma comes next. -/
theorem isCodeRun_dollar_encodeChars (h : Separated cs) (hstart : cs.head? ≠ some '_') :
    isCodeRun ('$' :: encodeChars cs) = closesBeforeComma cs := by
  induction cs with
  | nil => rfl
  | cons c cs ih =>
      rcases mark_cases c with rfl | rfl | rfl | hc
      · exact isCodeRun_dollar (by decide) _
      · rw [encodeChars_close, isCodeRun_open]
        exact ih h.tail (h.head?_ne rfl)
      · rw [encodeChars_comma, isCodeRun_open, isCodeRun_open]
        exact isCodeRun_encodeChars h.tail (h.head?_ne rfl)
      · rw [encodeChars_cons hc, closesBeforeComma_cons hc]
        exact isCodeRun_dollar (fun hc => hstart (congrArg some hc)) _

/-- The piece of a closing parenthesis is taken for a comma if and only if a comma comes next. -/
theorem mark?_encodeChars_close (h : Separated (')' :: cs)) :
    mark? (encodeChars (')' :: cs)) =
      if closesBeforeComma cs then some (',', 2) else some (')', 1) := by
  have hstart : cs.head? ≠ some '_' := h.head?_ne rfl
  have hrun : isCodeRun (encodeChars cs) = true := isCodeRun_encodeChars h.tail hstart
  have hcomma := isCodeRun_dollar_encodeChars h.tail hstart
  rw [encodeChars_close]
  -- the piece goes on as a comma does if a piece with an underscore in front follows
  have hunder (rest : List Char) (hrest : encodeChars cs = '_' :: rest) :
      mark? ('_' :: '$' :: encodeChars cs) =
        if closesBeforeComma cs then some (',', 2) else some (')', 1) := by
    rw [hrest] at hrun hcomma ⊢
    rw [isCodeRun_open] at hcomma
    rw [mark?, hcomma, hrun]
    rfl
  cases cs with
  | nil => rfl
  | cons c cs =>
      rcases mark_cases c with rfl | rfl | rfl | hc
      · exact if_pos hrun
      · exact hunder _ rfl
      · exact hunder _ rfl
      · have hne : c ≠ '_' := fun hc => hstart (congrArg some hc)
        rw [encodeChars_cons hc] at hrun ⊢
        rw [mark?, hrun, closesBeforeComma_cons hc]
        · rfl
        · exact fun _ heq => hne (List.cons.inj heq).1

/-! ### Decoding -/

theorem decodeChars_of_mark {m : Char} {more : Nat} (h : mark? (c :: cs) = some (m, more)) :
    decodeChars (c :: cs) = m :: decodeChars (cs.drop more) := by
  unfold decodeChars
  rw [decodeFrom, h]
  exact congrArg (m :: ·) (decodeFrom_eq_drop more cs)

theorem decodeChars_of_no_mark (h : mark? (c :: cs) = none) :
    decodeChars (c :: cs) = c :: decodeChars cs := by
  unfold decodeChars
  rw [decodeFrom, h]

theorem head?_encodeChars_ne (hdollar : cs.head? ≠ some '$') (hopen : cs.head? ≠ some '(') :
    (encodeChars cs).head? ≠ some '$' := by
  cases cs with
  | nil => nofun
  | cons c cs =>
      rcases mark_cases c with rfl | rfl | rfl | hc
      · exact absurd rfl hopen
      · exact fun hhead => absurd (Option.some.inj hhead) (by decide)
      · exact fun hhead => absurd (Option.some.inj hhead) (by decide)
      · rw [encodeChars_cons hc]
        exact hdollar

theorem mark?_cons (hdollar : c ≠ '$') (hunder : c = '_' → cs.head? ≠ some '$') :
    mark? (c :: cs) = none := by
  unfold mark?
  split
  · rename_i heq
    exact absurd (List.cons.inj heq).1 hdollar
  · rename_i heq
    obtain ⟨hc, hrest⟩ := List.cons.inj heq
    exact absurd (congrArg List.head? hrest) (hunder hc)
  · rename_i heq
    obtain ⟨hc, hrest⟩ := List.cons.inj heq
    exact absurd (congrArg List.head? hrest) (hunder hc)
  · rfl

/-- A character that stands for itself does not start a piece. -/
theorem mark?_encodeChars_cons (h : Separated (c :: cs)) : mark? (c :: encodeChars cs) = none := by
  refine mark?_cons h.ne_dollar fun hc => head?_encodeChars_ne ?_ ?_
  · exact fun hdollar => h.tail.plain (List.mem_of_mem_head? hdollar)
  · exact fun hopen => (List.isChain_cons.1 h.meet).1 _ hopen |>.2 hc rfl

/-- A character is read back unless it is a closing parenthesis and a comma comes next. -/
theorem decodeChars_encodeChars_cons (h : Separated (c :: cs))
    (hc : c = ')' → closesBeforeComma cs = false) :
    decodeChars (encodeChars (c :: cs)) = c :: decodeChars (encodeChars cs) := by
  rcases mark_cases c with rfl | rfl | rfl | hplain
  · have hrun : isCodeRun (encodeChars cs) = true := isCodeRun_encodeChars h.tail (h.head?_ne rfl)
    have hmark : mark? (encodeChars ('(' :: cs)) = some ('(', 1) := if_pos hrun
    exact decodeChars_of_mark hmark
  · have hmark := mark?_encodeChars_close h
    rw [hc rfl] at hmark
    exact decodeChars_of_mark hmark
  · have hrun : isCodeRun (encodeChars cs) = true := isCodeRun_encodeChars h.tail (h.head?_ne rfl)
    have hmark : mark? (encodeChars (',' :: cs)) = some (',', 2) := if_pos hrun
    exact decodeChars_of_mark hmark
  · rw [encodeChars_cons hplain]
    exact decodeChars_of_no_mark (mark?_encodeChars_cons h)

/-- A closing parenthesis is read as a comma if a comma comes next. -/
theorem head?_decodeChars_encodeChars (h : Separated (')' :: cs))
    (hc : closesBeforeComma cs = true) :
    (decodeChars (encodeChars (')' :: cs))).head? = some ',' := by
  have hmark := mark?_encodeChars_close h
  rw [hc] at hmark
  exact congrArg List.head? (decodeChars_of_mark hmark)

theorem infix_of_closesBeforeComma (h : closesBeforeComma cs = true) :
    [')', ','] <:+: ')' :: cs := by
  induction cs with
  | nil => cases h
  | cons c cs ih =>
      rcases mark_cases c with rfl | rfl | rfl | hc
      · cases h
      · exact List.infix_cons (ih h)
      · exact (List.prefix_append [')', ','] cs).isInfix
      · rw [closesBeforeComma_cons hc] at h
        cases h

/-- A separated text is decoded to itself if and only if no comma follows a closing parenthesis. -/
theorem decodeChars_encodeChars_iff (h : Separated cs) :
    decodeChars (encodeChars cs) = cs ↔ ¬ [')', ','] <:+: cs := by
  induction cs with
  | nil => exact iff_of_true rfl (by decide)
  | cons c cs ih =>
      by_cases hc : c = ')' ∧ closesBeforeComma cs = true
      · obtain ⟨rfl, hcloses⟩ := hc
        refine iff_of_false (fun heq => ?_) (not_not.2 (infix_of_closesBeforeComma hcloses))
        have hhead := head?_decodeChars_encodeChars h hcloses
        rw [heq] at hhead
        exact absurd (Option.some.inj hhead) (by decide)
      · have hread : c = ')' → closesBeforeComma cs = false := fun hclose =>
          Bool.eq_false_iff.2 fun hcloses => hc ⟨hclose, hcloses⟩
        rw [decodeChars_encodeChars_cons h hread, List.infix_cons_iff, not_or, ← ih h.tail]
        -- a comma right behind the first character would make it a misread parenthesis
        have hfront : ¬ [')', ','] <+: c :: cs := by
          rintro ⟨rest, heq⟩
          obtain ⟨rfl, rfl⟩ := List.cons.inj heq
          cases hread rfl
        exact ⟨fun heq => ⟨hfront, (List.cons.inj heq).2⟩, fun hrest => congrArg (c :: ·) hrest.2⟩

end TypeId
end StorageUpgrade
