import StorageUpgrade.Proofs.Layout.RoundTrip
import StorageUpgrade.Proofs.TypeId.Trees

/-!
# Writing trees of identifiers

A tree is written as an identifier, its arguments and return types as lists in parentheses, and
parsing gives the tree back (`parse_print`).  A tail that is empty cannot be told from one that is
absent (`not_parse_print_of_empty_tail`).

## Strategy

* The texts of all trees are balanced (`Printable.balanced`), so the list of arguments is taken
  apart at the commas between them (`lists_listChars`).
* What stands behind the arguments is a plain text or a list of return types, which is taken apart
  in the same way (`returnsOf_returnsChars`).
* Each tree in a list is shorter than the list, so enough levels are left for it
  (`length_le_listChars`).
-/

namespace StorageUpgrade

/-- A text without parentheses and commas. -/
def isPlainText (s : String) : Bool := s.toList.all (!TypeId.isMark ·)

namespace TypeTree

open TypeId

/-! ### Texts of trees -/

mutual

/-- The text of a tree, whatever identifier it is known by. -/
def chars : TypeTree → List Char
  | plain id => id.toList
  | applied _ head args tail rets =>
    TypeId.applied head.toList (listChars args) (endChars tail rets)

/-- The texts of trees, with commas between them. -/
def listChars : List TypeTree → List Char
  | [] => []
  | [t] => chars t
  | t :: u :: ts => chars t ++ ',' :: listChars (u :: ts)

/-- What stands behind the arguments: the return types if there are any, or else the tail. -/
def endChars (tail : Option String) : Option (List TypeTree) → List Char
  | none => (tail.getD "").toList
  | some rets => TypeId.applied "returns".toList (listChars rets) []

end

/-- The text of a tree. -/
def print (t : TypeTree) : String := String.ofList t.chars

/-- The text of a list of return types. -/
def returnsText (rets : List TypeTree) : String := String.ofList (endChars none (some rets))

/-- A tree that is known by its text. -/
def ofParts (head : String) (args : List TypeTree) (tail : Option String)
    (rets : Option (List TypeTree)) : TypeTree :=
  applied (applied "" head args tail rets).print head args tail rets

/-- A tree that can be written: its names are plain texts and not empty, and behind its arguments
stands nothing, a tail, or a list of return types. -/
inductive Printable (IsTail : String → Prop) : TypeTree → Prop where
  | plain {id : String} (hne : id ≠ "") (hplain : isPlainText id = true) :
      Printable IsTail (.plain id)
  | applied {head : String} {args : List TypeTree} {tail : Option String} (hne : head ≠ "")
      (hplain : isPlainText head = true) (hargs : ∀ a ∈ args, Printable IsTail a)
      (htail : ∀ s ∈ tail, IsTail s) : Printable IsTail (ofParts head args tail none)
  | function {head : String} {args rets : List TypeTree} (hne : head ≠ "")
      (hplain : isPlainText head = true) (hargs : ∀ a ∈ args, Printable IsTail a)
      (hrets : ∀ r ∈ rets, Printable IsTail r) :
      Printable IsTail (ofParts head args (some (returnsText rets)) (some rets))

variable {levels depth : Nat} {s : String} {t : TypeTree} {ts : List TypeTree}
  {head inner tail : List Char}

/-! ### Lists of trees -/

theorem balanced_of_isPlainText (h : isPlainText s = true) : Balanced depth s.toList := by
  refine balanced_of_plain fun c hc => ?_
  have hmark := List.all_eq_true.1 h c hc
  refine ⟨?_, ?_, ?_⟩ <;> rintro rfl <;> exact absurd hmark (by decide)

theorem not_mem_of_isPlainText (h : isPlainText s = true) : '(' ∉ s.toList :=
  fun hopen => absurd (List.all_eq_true.1 h _ hopen) (by decide)

theorem lists_nil : Lists [] [] := fun rest => by
  rw [List.nil_append, readElements, if_neg (by decide), if_neg (by simp), if_pos rfl]
  rfl

theorem lists_listChars (h : ∀ t ∈ ts, t.chars ≠ [] ∧ Balanced 0 t.chars) :
    Lists (listChars ts) (ts.map chars) := by
  induction ts with
  | nil => exact lists_nil
  | cons t ts ih =>
      obtain ⟨⟨hne, hbalanced⟩, hts⟩ := List.forall_mem_cons.1 h
      cases ts with
      | nil => exact lists_one hne hbalanced
      | cons u ts => exact lists_cons hne hbalanced (ih hts)

theorem balanced_listChars (h : ∀ t ∈ ts, Balanced (depth + 1) t.chars) :
    Balanced (depth + 1) (listChars ts) := by
  induction ts with
  | nil => exact balanced_nil
  | cons t ts ih =>
      obtain ⟨ht, hts⟩ := List.forall_mem_cons.1 h
      cases ts with
      | nil => exact ht
      | cons u ts =>
          have hcomma : Balanced (depth + 1) [','] :=
            balanced_char (by decide) (by decide) (.inr (Nat.succ_pos depth))
          exact ht.append (hcomma.append (ih hts))

theorem length_le_listChars (h : t ∈ ts) : t.chars.length ≤ (listChars ts).length := by
  induction ts with
  | nil => cases h
  | cons u ts ih =>
      cases ts with
      | nil => rw [List.mem_singleton.1 h, listChars]
      | cons v ts =>
          rw [listChars, List.length_append, List.length_cons]
          rcases List.mem_cons.1 h with rfl | h
          · omega
          · exact (ih h).trans (by omega)

/-! ### Texts of printable trees -/

theorem balanced_returnsChars (h : ∀ t ∈ ts, Balanced (depth + 1) t.chars) :
    Balanced depth (endChars none (some ts)) :=
  (balanced_of_isPlainText rfl).applied (balanced_listChars h) balanced_nil

variable {IsTail : String → Prop}

theorem Printable.chars_ne_nil (h : t.Printable IsTail) : t.chars ≠ [] := by
  cases h with
  | plain hne _ => simpa [chars] using hne
  | applied => exact applied_ne_nil _ _ _
  | function => exact applied_ne_nil _ _ _

theorem Printable.balanced (htails : ∀ s, IsTail s → isPlainText s = true)
    (h : t.Printable IsTail) : Balanced depth t.chars := by
  induction h generalizing depth with
  | plain _ hplain => exact balanced_of_isPlainText hplain
  | @applied head args tail _ hplain _ htail ihArgs =>
      refine (balanced_of_isPlainText hplain).applied
        (balanced_listChars fun a ha => ihArgs a ha) ?_
      cases tail with
      | none => exact balanced_nil
      | some s => exact balanced_of_isPlainText (htails s (htail s rfl))
  | function _ hplain _ _ ihArgs ihRets =>
      exact (balanced_of_isPlainText hplain).applied (balanced_listChars fun a ha => ihArgs a ha)
        (balanced_returnsChars fun r hr => ihRets r hr)

/-- The return types that a tail lists are found in it. -/
theorem returnsOf_returnsChars (h : ∀ t ∈ ts, t.chars ≠ [] ∧ Balanced 0 t.chars) :
    returnsOf (endChars none (some ts)) = .ok (some (ts.map print)) := by
  have htext : endChars none (some ts) = returnsMark ++ (listChars ts ++ [')']) := rfl
  have hfront : returnsMark.isPrefixOf (endChars none (some ts)) = true :=
    List.isPrefixOf_iff_prefix.2 ⟨_, htext.symm⟩
  unfold returnsOf
  rw [if_pos hfront, htext, List.drop_left, lists_listChars h []]
  dsimp only
  rw [List.map_map]
  rfl

theorem mapM_print (hts : ∀ t ∈ ts, parseWithin levels t.print = .ok t) :
    ((ts.map chars).map String.ofList).mapM (parseWithin levels) = .ok ts := by
  rw [List.map_map]
  exact mapM_map_eq_ok hts

/-! ### Parsing a printed tree -/

theorem parseWithin_function {args rets : List TypeTree} (hhead : '(' ∉ head)
    (hargs : ∀ a ∈ args, a.chars ≠ [] ∧ Balanced 0 a.chars)
    (hrets : ∀ r ∈ rets, r.chars ≠ [] ∧ Balanced 0 r.chars)
    (hparseArgs : ∀ a ∈ args, parseWithin levels a.print = .ok a)
    (hparseRets : ∀ r ∈ rets, parseWithin levels r.print = .ok r) :
    parseWithin (levels + 1)
        (String.ofList (TypeId.applied head (listChars args) (endChars none (some rets)))) =
      .ok (applied
        (String.ofList (TypeId.applied head (listChars args) (endChars none (some rets))))
        (String.ofList head) args (some (returnsText rets)) (some rets)) := by
  have htail : endChars none (some rets) ≠ [] := applied_ne_nil _ _ _
  rw [parseWithin, ofId_applied_of_returnsOf hhead (lists_listChars hargs)
    (returnsOf_returnsChars hrets), if_isEmpty htail]
  change (do
    let args ← ((args.map chars).map String.ofList).mapM (parseWithin levels)
    _) = _
  rw [mapM_print hparseArgs]
  change (do
    let rets ← ((rets.map print).mapM (parseWithin levels)).map some
    _) = _
  rw [mapM_map_eq_ok hparseRets]
  rfl

theorem if_isEmpty_getD {tail : Option String} (h : ∀ s ∈ tail, s ≠ "") :
    (if (tail.getD "").toList.isEmpty then none
      else some (String.ofList (tail.getD "").toList)) = tail := by
  cases tail with
  | none => rfl
  | some s =>
      have hne : s.toList ≠ [] := by simpa using h s rfl
      rw [Option.getD_some, if_isEmpty hne, String.ofList_toList]

/-- A tree is read back from its text if enough levels are left. -/
theorem Printable.parseWithin_print (htails : ∀ s, IsTail s → s ≠ "" ∧ isPlainText s = true)
    (h : t.Printable IsTail) (hlevels : t.chars.length < levels) :
    parseWithin levels t.print = .ok t := by
  have hlisted {ts : List TypeTree} (hts : ∀ t ∈ ts, t.Printable IsTail) :
      ∀ t ∈ ts, t.chars ≠ [] ∧ Balanced 0 t.chars := fun t ht =>
    ⟨(hts t ht).chars_ne_nil, (hts t ht).balanced fun s hs => (htails s hs).2⟩
  induction h generalizing levels with
  | @plain id _ hplain =>
      have hparse : parseWithin levels (String.ofList id.toList) = _ :=
        parseWithin_of_not_mem (not_mem_of_isPlainText hplain)
      rw [print, chars, hparse, String.ofList_toList]
  | @applied head args tail _ hplain hargs htail ih =>
      obtain ⟨levels, rfl⟩ := Nat.exists_eq_succ_of_ne_zero (Nat.ne_zero_of_lt hlevels)
      have htext : (ofParts head args tail none).chars =
        TypeId.applied head.toList (listChars args) (tail.getD "").toList := rfl
      rw [htext, length_applied] at hlevels
      have hparse (a : TypeTree) (ha : a ∈ args) : parseWithin levels a.print = .ok a := by
        have hshorter := length_le_listChars ha
        exact ih a ha (by omega)
      have hplainTail : '(' ∉ (tail.getD "").toList := by
        cases tail with
        | none => exact List.not_mem_nil
        | some s => exact not_mem_of_isPlainText (htails s (htail s rfl)).2
      rw [print, htext, parseWithin_applied (not_mem_of_isPlainText hplain)
        (lists_listChars (hlisted hargs)) hplainTail (mapM_print hparse),
        if_isEmpty_getD fun s hs => (htails s (htail s hs)).1, String.ofList_toList]
      rfl
  | @function head args rets _ hplain hargs hrets ihArgs ihRets =>
      obtain ⟨levels, rfl⟩ := Nat.exists_eq_succ_of_ne_zero (Nat.ne_zero_of_lt hlevels)
      have htext : (ofParts head args (some (returnsText rets)) (some rets)).chars =
        TypeId.applied head.toList (listChars args) (endChars none (some rets)) := rfl
      have hrest : (endChars none (some rets)).length = _ :=
        length_applied "returns".toList (listChars rets) []
      rw [htext, length_applied, hrest] at hlevels
      have hparseArgs (a : TypeTree) (ha : a ∈ args) : parseWithin levels a.print = .ok a := by
        have hshorter := length_le_listChars ha
        exact ihArgs a ha (by omega)
      have hparseRets (r : TypeTree) (hr : r ∈ rets) : parseWithin levels r.print = .ok r := by
        have hshorter := length_le_listChars hr
        exact ihRets r hr (by omega)
      rw [print, htext, parseWithin_function (not_mem_of_isPlainText hplain) (hlisted hargs)
        (hlisted hrets) hparseArgs hparseRets, String.ofList_toList]
      rfl

/-- Parsing undoes printing, if no tail is empty. -/
theorem parse_print (h : t.Printable fun s => s ≠ "" ∧ isPlainText s = true) :
    parse t.print = .ok t := by
  refine h.parseWithin_print (fun _ hs => hs) ?_
  rw [print, String.length_ofList]
  exact Nat.lt_succ_self _

theorem parse_print_nested_function :
    ∃ t : TypeTree,
      t.print = "t_function(t_array(t_bool)2_storage,t_function()returns(t_bool))returns(t_bool)" ∧
      parse t.print = .ok t := by
  let IsTail (s : String) : Prop := s ≠ "" ∧ isPlainText s = true
  have hbool : ∀ t ∈ [plain "t_bool"], t.Printable IsTail :=
    List.forall_mem_singleton.2 (.plain (by decide) rfl)
  have harray : (ofParts "t_array" [plain "t_bool"] (some "2_storage") none).Printable IsTail := by
    refine .applied (by decide) rfl hbool ?_
    rintro _ ⟨⟩
    exact ⟨by decide, rfl⟩
  have hfunction : (ofParts "t_function" [] (some (returnsText [plain "t_bool"]))
      (some [plain "t_bool"])).Printable IsTail := .function (by decide) rfl nofun hbool
  have hargs := List.forall_mem_cons.2 ⟨harray, List.forall_mem_singleton.2 hfunction⟩
  have hhead : "t_function" ≠ "" := by decide
  exact ⟨_, rfl, parse_print (.function hhead rfl hargs hbool)⟩

/-- A tail that is empty is read as an absent one. -/
theorem not_parse_print_of_empty_tail :
    (ofParts "t_f" [] (some "") none).Printable (isPlainText · = true) ∧
      parse (ofParts "t_f" [] (some "") none).print ≠ .ok (ofParts "t_f" [] (some "") none) := by
  refine ⟨.applied (by decide) rfl nofun ?_, ?_⟩
  · rintro _ ⟨⟩
    rfl
  · have hparse : parse (ofParts "t_f" [] (some "") none).print =
        .ok (ofParts "t_f" [] none none) := rfl
    rw [hparse]
    nofun

end TypeTree
end StorageUpgrade
