import Mathlib.Data.List.TakeDrop
import StorageUpgrade.TypeId.Basic

/-!
# Identifiers with one list in parentheses

`applied head inner tail` is the identifier of a type with arguments.  It is taken apart again at
the parentheses around `inner` (`parseWithin_applied`), because these are the outermost ones: a list
is read over any text whose own parentheses are balanced (`Balanced`).
-/

namespace StorageUpgrade
namespace TypeId

/-- The text of an identifier with arguments. -/
def applied (head inner tail : List Char) : List Char := head ++ '(' :: (inner ++ ')' :: tail)

/-- A list of identifiers is read over the text, which becomes a part of the current element. -/
def Balanced (depth : Nat) (cs : List Char) : Prop :=
  ∀ element rest, readElements depth element (cs ++ rest) = readElements depth (element ++ cs) rest

variable {c : Char} {depth : Nat} {cs ds head inner tail : List Char}

theorem Balanced.append (h : Balanced depth cs) (h' : Balanced depth ds) :
    Balanced depth (cs ++ ds) := by
  intro element rest
  rw [List.append_assoc, h, h', List.append_assoc]

theorem balanced_nil : Balanced depth [] := fun element rest => by
  rw [List.append_nil, List.nil_append]

theorem balanced_char (hopen : c ≠ '(') (hclose : c ≠ ')') (hcomma : c ≠ ',' ∨ 0 < depth) :
    Balanced depth [c] := by
  intro element rest
  have hsplit : ¬ (c = ',' ∧ depth = 0) := fun ⟨hc, hdepth⟩ =>
    hcomma.elim (fun hne => hne hc) fun hpos => Nat.ne_of_gt hpos hdepth
  rw [List.singleton_append, readElements, if_neg hopen, if_neg fun h => hclose h.1, if_neg hclose,
    if_neg hsplit]

/-- A text without parentheses and commas. -/
theorem balanced_of_plain (h : ∀ c ∈ cs, c ≠ '(' ∧ c ≠ ')' ∧ c ≠ ',') : Balanced depth cs := by
  induction cs with
  | nil => exact balanced_nil
  | cons c cs ih =>
      obtain ⟨⟨hopen, hclose, hcomma⟩, hcs⟩ := List.forall_mem_cons.1 h
      exact (balanced_char hopen hclose (.inl hcomma)).append (ih hcs)

theorem Balanced.applied (hhead : Balanced depth head) (hinner : Balanced (depth + 1) inner)
    (htail : Balanced depth tail) : Balanced depth (applied head inner tail) := by
  have hopen (element rest : List Char) : readElements depth element ('(' :: rest) =
      readElements (depth + 1) (element ++ ['(']) rest := by
    rw [readElements, if_pos rfl]
  have hclose (element rest : List Char) : readElements (depth + 1) element (')' :: rest) =
      readElements depth (element ++ [')']) rest := by
    rw [readElements, if_neg (by decide), if_pos ⟨rfl, Nat.succ_pos depth⟩, Nat.add_sub_cancel]
  intro element rest
  unfold TypeId.applied
  rw [List.append_assoc, hhead, List.cons_append, List.append_assoc, hopen, hinner,
    List.cons_append, hclose, htail]
  simp only [List.append_assoc, List.cons_append, List.nil_append]

/-! ### Lists in parentheses -/

/-- The texts of a list of identifiers, up to the parenthesis that closes it. -/
def Lists (inner : List Char) (elements : List (List Char)) : Prop :=
  ∀ rest, readElements 0 [] (inner ++ ')' :: rest) = some (elements, rest)

theorem lists_one (hne : cs ≠ []) (h : Balanced 0 cs) : Lists cs [cs] := by
  intro rest
  rw [h, List.nil_append, readElements, if_neg (by decide), if_neg (by simp), if_pos rfl,
    if_neg (by simpa using hne)]

theorem lists_cons {elements : List (List Char)} (hne : cs ≠ []) (h : Balanced 0 cs)
    (hinner : Lists inner elements) : Lists (cs ++ ',' :: inner) (cs :: elements) := by
  intro rest
  rw [List.append_assoc, h, List.nil_append, List.cons_append, readElements, if_neg (by decide),
    if_neg (by simp), if_neg (by decide), if_pos ⟨rfl, rfl⟩, hinner, Option.map_some]
  exact congrArg (fun elements => some (elements, rest)) (if_neg (by simpa using hne))

/-! ### Taking identifiers apart -/

theorem returnsOf_of_not_mem (h : '(' ∉ tail) : returnsOf tail = .ok none := by
  unfold returnsOf
  rw [if_neg]
  intro hfront
  obtain ⟨rest, rfl⟩ := List.isPrefixOf_iff_prefix.1 hfront
  exact h (List.mem_append_left _ (by decide))

theorem span_append (h : '(' ∉ head) :
    (head ++ cs).span (· != '(') =
      (head ++ cs.takeWhile (· != '('), cs.dropWhile (· != '(')) := by
  have hhead : ∀ c ∈ head, (c != '(') = true := fun c hc => bne_iff_ne.2 fun heq => h (heq ▸ hc)
  rw [List.span_eq_takeWhile_dropWhile, List.takeWhile_append_of_pos hhead,
    List.dropWhile_append_of_pos hhead]

theorem ofId_of_not_mem (h : '(' ∉ cs) :
    Parts.ofId (String.ofList cs) = .ok ⟨String.ofList cs, none, none, none⟩ := by
  have hspan : cs.span (· != '(') = (cs, []) := by
    rw [← List.append_nil cs, span_append h]
    rfl
  unfold Parts.ofId
  rw [String.toList_ofList, hspan]

theorem ofId_applied_of_returnsOf {elements : List (List Char)} {rets : Option (List String)}
    (hhead : '(' ∉ head) (hinner : Lists inner elements) (hrets : returnsOf tail = .ok rets) :
    Parts.ofId (String.ofList (applied head inner tail)) =
      .ok ⟨String.ofList head, some (elements.map String.ofList),
        if tail.isEmpty then none else some (String.ofList tail), rets⟩ := by
  have hspan : (applied head inner tail).span (· != '(') =
      (head, '(' :: (inner ++ ')' :: tail)) := by
    unfold applied
    rw [span_append hhead]
    simp
  unfold Parts.ofId
  rw [String.toList_ofList, hspan]
  dsimp only
  rw [hinner]
  dsimp only
  rw [hrets]
  rfl

theorem ofId_applied {elements : List (List Char)} (hhead : '(' ∉ head)
    (hinner : Lists inner elements) (htail : '(' ∉ tail) :
    Parts.ofId (String.ofList (applied head inner tail)) =
      .ok ⟨String.ofList head, some (elements.map String.ofList),
        if tail.isEmpty then none else some (String.ofList tail), none⟩ :=
  ofId_applied_of_returnsOf hhead hinner (returnsOf_of_not_mem htail)

end TypeId

namespace TypeTree

open TypeId

variable {levels : Nat} {cs head inner tail : List Char}

theorem parseWithin_of_not_mem (h : '(' ∉ cs) :
    parseWithin levels (String.ofList cs) = .ok (plain (String.ofList cs)) := by
  cases levels with
  | zero => rfl
  | succ levels =>
      rw [parseWithin, ofId_of_not_mem h]
      rfl

theorem parseWithin_applied {elements : List (List Char)} {args : List TypeTree}
    (hhead : '(' ∉ head) (hinner : Lists inner elements) (htail : '(' ∉ tail)
    (hargs : (elements.map String.ofList).mapM (parseWithin levels) = .ok args) :
    parseWithin (levels + 1) (String.ofList (TypeId.applied head inner tail)) =
      .ok (applied (String.ofList (TypeId.applied head inner tail)) (String.ofList head) args
        (if tail.isEmpty then none else some (String.ofList tail)) none) := by
  rw [parseWithin, ofId_applied hhead hinner htail]
  change (do
    let args ← (elements.map String.ofList).mapM (parseWithin levels)
    _) = _
  rw [hargs]
  rfl

end TypeTree
end StorageUpgrade
