import StorageUpgrade.Proofs.TypeId.Parsing

/-!
# Parentheses that match

`Matched` says what stands between a parenthesis and its match, whatever reads it: a text in which each
parenthesis has its own match.  A list of identifiers is read up to the match of the parenthesis in front
of it, and its elements are the pieces between the commas that stand in no further parentheses
(`exists_of_closed`, `readElements_eq_none_iff`).
-/

namespace StorageUpgrade
namespace TypeId

/-! ### Texts whose parentheses match -/

/-- A text in which every parenthesis has a match; `commas` says whether commas may stand outside of
its parentheses. -/
inductive Matched : (commas : Bool) → List Char → Prop
  | nil {commas : Bool} : Matched commas []
  | char {commas : Bool} {c : Char} {cs : List Char} (hopen : c ≠ '(') (hclose : c ≠ ')')
      (hcomma : c = ',' → commas = true) (h : Matched commas cs) : Matched commas (c :: cs)
  | parens {commas : Bool} {inner cs : List Char} (hinner : Matched true inner)
      (h : Matched commas cs) : Matched commas ('(' :: (inner ++ ')' :: cs))

/-- A text is cut at the commas that stand outside of its parentheses. -/
structure SplitsInto (inner : List Char) (pieces : List (List Char)) : Prop where
  text : inner = [','].intercalate pieces
  matched : ∀ piece ∈ pieces, Matched false piece

/-- A parenthesis in front of a text has a match in it: `inner` stands between the two, and `rest`
behind the match. -/
structure ClosedBy (inner rest cs : List Char) : Prop where
  matched : Matched true inner
  text : cs = inner ++ ')' :: rest

variable {commas : Bool} {depth : Nat} {c : Char}
  {cs ds element head inner inner' piece rest rest' tail : List Char}
  {elements pieces : List (List Char)}

theorem Matched.append (h : Matched commas cs) (h' : Matched commas ds) :
    Matched commas (cs ++ ds) := by
  induction h with
  | nil => exact h'
  | char hopen hclose hcomma _ ih => exact .char hopen hclose hcomma (ih h')
  | parens hinner _ _ ih =>
      rw [List.cons_append, List.append_assoc, List.cons_append]
      exact .parens hinner (ih h')

theorem Matched.weaken (h : Matched commas cs) : Matched true cs := by
  induction h with
  | nil => exact .nil
  | char hopen hclose _ _ ih => exact .char hopen hclose (fun _ => rfl) ih
  | parens hinner _ _ ih => exact .parens hinner ih

theorem SplitsInto.matched_inner (h : SplitsInto inner pieces) : Matched true inner := by
  obtain ⟨rfl, hpieces⟩ := h
  induction pieces with
  | nil => exact .nil
  | cons piece pieces ih =>
      obtain ⟨hpiece, hrest⟩ := List.forall_mem_cons.1 hpieces
      cases pieces with
      | nil =>
          rw [List.intercalate_singleton]
          exact hpiece.weaken
      | cons next pieces =>
          rw [List.intercalate_cons_cons, List.append_assoc]
          exact hpiece.weaken.append (.char (by decide) (by decide) (fun _ => rfl) (ih hrest))

/-- Lists are read over a text whose parentheses match. -/
theorem Matched.balanced (h : Matched commas cs) (hdepth : commas = true → 0 < depth) :
    Balanced depth cs := by
  induction h generalizing depth with
  | nil => exact balanced_nil
  | @char commas c _ hopen hclose hcomma _ ih =>
      refine (balanced_char hopen hclose ?_).append (ih hdepth)
      exact (eq_or_ne c ',').symm.imp id fun hc => hdepth (hcomma hc)
  | parens _ _ ihInner ih =>
      exact balanced_nil.applied (ihInner fun _ => Nat.succ_pos depth) (ih hdepth)

/-! ### Reading a list -/

/-- A text closes `depth` parentheses, and goes on without commas outside of parentheses. -/
inductive Ends : (depth : Nat) → List Char → Prop
  | zero {cs : List Char} (h : Matched false cs) : Ends 0 cs
  | succ {depth : Nat} {inner cs : List Char} (hinner : Matched true inner) (h : Ends depth cs) :
      Ends (depth + 1) (inner ++ ')' :: cs)

theorem Ends.char (hopen : c ≠ '(') (hclose : c ≠ ')') (hcomma : c = ',' → 0 < depth)
    (h : Ends depth cs) : Ends depth (c :: cs) := by
  cases h with
  | zero h => exact .zero (.char hopen hclose (fun hc => absurd (hcomma hc) (Nat.lt_irrefl 0)) h)
  | succ hinner h => exact .succ (.char hopen hclose (fun _ => rfl) hinner) h

theorem Ends.open (h : Ends (depth + 1) cs) : Ends depth ('(' :: cs) := by
  obtain _ | ⟨hinner, h⟩ := h
  cases h with
  | zero h => exact .zero (.parens hinner h)
  | succ hinner' h =>
      have htext (xs ys zs : List Char) :
        '(' :: (xs ++ ')' :: (ys ++ ')' :: zs)) = '(' :: (xs ++ ')' :: ys) ++ ')' :: zs := by simp
      rw [htext]
      exact .succ (.parens hinner hinner') h

theorem intercalate_append (xs piece : List Char) (pieces : List (List Char)) :
    [','].intercalate ((xs ++ piece) :: pieces) = xs ++ [','].intercalate (piece :: pieces) := by
  cases pieces with
  | nil => rw [List.intercalate_singleton, List.intercalate_singleton]
  | cons next pieces =>
      rw [List.intercalate_cons_cons, List.intercalate_cons_cons, List.append_assoc,
        List.append_assoc, List.append_assoc]

/-- The elements of a list: the pieces that are not empty. -/
def nonempty (pieces : List (List Char)) : List (List Char) := pieces.filter (!·.isEmpty)

theorem nonempty_cons (piece : List Char) (pieces : List (List Char)) :
    nonempty (piece :: pieces) =
      if piece.isEmpty then nonempty pieces else piece :: nonempty pieces := by
  cases piece <;> rfl

/-- What is read ends at the closing parenthesis, and cuts the text at its commas. -/
theorem exists_of_readElements (h : readElements depth element cs = some (elements, rest)) :
    ∃ piece pieces, Ends depth piece ∧ (∀ p ∈ pieces, Matched false p) ∧
      cs = [','].intercalate (piece :: pieces) ++ ')' :: rest ∧
      elements = nonempty ((element ++ piece) :: pieces) := by
  induction cs generalizing depth element elements with
  | nil => cases h
  | cons c cs ih =>
      -- Most characters only make the first piece longer; a comma of the list itself starts the next.
      have hlonger {depth' : Nat} (hends : ∀ piece, Ends depth' piece → Ends depth (c :: piece))
          (h : readElements depth' (element ++ [c]) cs = some (elements, rest)) :
          ∃ piece pieces, Ends depth piece ∧ (∀ p ∈ pieces, Matched false p) ∧
            c :: cs = [','].intercalate (piece :: pieces) ++ ')' :: rest ∧
            elements = nonempty ((element ++ piece) :: pieces) := by
        obtain ⟨piece, pieces, hpiece, hpieces, rfl, rfl⟩ := ih h
        refine ⟨c :: piece, pieces, hends piece hpiece, hpieces, ?_, by simp⟩
        exact congrArg (· ++ ')' :: rest) (intercalate_append [c] piece pieces).symm
      rw [readElements] at h
      split at h
      · rename_i hopen
        subst hopen
        exact hlonger (fun _ => Ends.open) h
      rename_i hopen
      split at h
      · rename_i hclose
        obtain ⟨rfl, hdepth⟩ := hclose
        obtain ⟨depth, rfl⟩ := Nat.exists_eq_succ_of_ne_zero (Nat.ne_of_gt hdepth)
        exact hlonger (fun _ => Ends.succ .nil) h
      rename_i hinner
      split at h
      · rename_i hclose
        subst hclose
        obtain rfl : depth = 0 := Nat.eq_zero_of_not_pos fun hdepth => hinner ⟨rfl, hdepth⟩
        obtain ⟨rfl, rfl⟩ := Prod.mk.inj (Option.some.inj h)
        refine ⟨[], [], .zero .nil, List.forall_mem_nil _, rfl, ?_⟩
        rw [List.append_nil, nonempty_cons]
        rfl
      rename_i hclose
      split at h
      · rename_i hcomma
        obtain ⟨rfl, rfl⟩ := hcomma
        obtain ⟨⟨later, rest'⟩, hlater, hpair⟩ := Option.map_eq_some_iff.1 h
        obtain ⟨helements, rfl⟩ := Prod.mk.inj hpair
        obtain ⟨piece, pieces, hpiece, hpieces, rfl, rfl⟩ := ih hlater
        obtain ⟨hpiece⟩ := hpiece
        refine ⟨[], piece :: pieces, .zero .nil, List.forall_mem_cons.2 ⟨hpiece, hpieces⟩, ?_, ?_⟩
        · rw [List.intercalate_cons_cons]
          rfl
        · rw [← helements, List.append_nil, List.nil_append, nonempty_cons element]
      · rename_i hcomma
        refine hlonger (fun _ => Ends.char hopen hclose fun hc => ?_) h
        exact Nat.pos_of_ne_zero fun hdepth => hcomma ⟨hc, hdepth⟩

/-- A list is read up to the match of its parenthesis. -/
theorem exists_readElements (h : Matched commas inner) (element : List Char) :
    ∃ elements, ∀ rest, readElements 0 element (inner ++ ')' :: rest) = some (elements, rest) := by
  induction h generalizing element with
  | nil => exact ⟨_, fun rest => by rw [List.nil_append, readElements]; rfl⟩
  | @char _ c cs hopen hclose _ _ ih =>
      by_cases hc : c = ','
      · subst hc
        obtain ⟨elements, helements⟩ := ih []
        refine ⟨if element.isEmpty then elements else element :: elements, fun rest => ?_⟩
        rw [List.cons_append, readElements, if_neg hopen, if_neg (by simp), if_neg hclose,
          if_pos ⟨rfl, rfl⟩, helements]
        rfl
      · obtain ⟨elements, helements⟩ := ih (element ++ [c])
        refine ⟨elements, fun rest => ?_⟩
        rw [List.cons_append, ← List.singleton_append,
          balanced_char hopen hclose (.inl hc) element, helements]
  | @parens _ inner cs hinner _ _ ih =>
      obtain ⟨elements, helements⟩ := ih (element ++ ('(' :: (inner ++ [')'])))
      have hparens : Balanced 0 ('(' :: (inner ++ [')'])) :=
        balanced_nil.applied (hinner.balanced fun _ => Nat.one_pos) balanced_nil
      refine ⟨elements, fun rest => ?_⟩
      rw [← helements rest, ← hparens element]
      simp

/-- The elements of a list that is closed are the pieces of a split. -/
theorem exists_of_closed (h : readElements 0 [] cs = some (elements, rest)) :
    ∃ inner pieces, SplitsInto inner pieces ∧ cs = inner ++ ')' :: rest ∧
      elements = nonempty pieces := by
  obtain ⟨piece, pieces, ⟨hpiece⟩, hpieces, hcs, helements⟩ := exists_of_readElements h
  exact ⟨_, piece :: pieces, ⟨rfl, List.forall_mem_cons.2 ⟨hpiece, hpieces⟩⟩, hcs, helements⟩

theorem ClosedBy.exists_readElements (h : ClosedBy inner rest cs) :
    ∃ elements, readElements 0 [] cs = some (elements, rest) := by
  obtain ⟨hinner, rfl⟩ := h
  obtain ⟨elements, helements⟩ := TypeId.exists_readElements hinner []
  exact ⟨elements, helements rest⟩

/-- A list cannot be read if and only if its parenthesis has no match. -/
theorem readElements_eq_none_iff :
    readElements 0 [] cs = none ↔ ¬ ∃ inner rest, ClosedBy inner rest cs := by
  refine ⟨?_, fun h => ?_⟩
  · rintro hnone ⟨inner, rest, hclosed⟩
    obtain ⟨elements, hread⟩ := hclosed.exists_readElements
    rw [hnone] at hread
    cases hread
  · cases hread : readElements 0 [] cs with
    | none => rfl
    | some read =>
        obtain ⟨inner, pieces, hsplit, hcs, -⟩ := exists_of_closed hread
        exact absurd ⟨inner, read.2, hsplit.matched_inner, hcs⟩ h

theorem Matched.of_cons (h : Matched commas (c :: cs)) (hc : c ≠ '(') : Matched commas cs := by
  generalize htext : c :: cs = text at h
  cases h with
  | nil => cases htext
  | char _ _ _ h => exact (List.cons.inj htext).2 ▸ h
  | parens => exact absurd (List.cons.inj htext).1 hc

/-- The first parenthesis of a text whose parentheses match has its match, and so have those behind. -/
theorem Matched.of_open (h : Matched commas (head ++ '(' :: cs)) (hhead : '(' ∉ head) :
    ∃ inner rest, ClosedBy inner rest cs ∧ Matched commas rest := by
  induction head with
  | nil =>
      generalize htext : [] ++ '(' :: cs = text at h
      cases h with
      | nil => cases htext
      | char hopen => exact absurd (List.cons.inj htext).1.symm hopen
      | parens hinner h => exact ⟨_, _, ⟨hinner, (List.cons.inj htext).2⟩, h⟩
  | cons c head ih =>
      obtain ⟨hc, hhead⟩ := not_or.1 (mt List.mem_cons.2 hhead)
      exact ih (h.of_cons (Ne.symm hc)) hhead

theorem ClosedBy.rest_eq (h : ClosedBy inner rest cs) (h' : ClosedBy inner' rest' cs) :
    rest = rest' := by
  obtain ⟨elements, hread⟩ := h.exists_readElements
  obtain ⟨elements', hread'⟩ := h'.exists_readElements
  exact (Prod.mk.inj (Option.some.inj (hread.symm.trans hread'))).2

end TypeId
end StorageUpgrade
