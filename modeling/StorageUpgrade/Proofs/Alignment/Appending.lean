import Mathlib.Data.List.Forall2
import StorageUpgrade.Proofs.Alignment.Free
import StorageUpgrade.Proofs.Alignment.Matching

/-!
# Alignments that only append

The operations of an alignment are all appended elements if and only if the first sequence has no
changes to the front of the second (`forall_isAppend_ofChanges_iff`).  One direction holds of every
path.  For the other, nothing is cheaper than adding the elements at the end, and the elements
before them cannot be matched in fewer, so the table finds just this.
-/

namespace StorageUpgrade.Alignment

variable {α β γ α' β' : Type} {change : α → β → Option γ} {own : γ → Option Int}
  {xs : List α} {ys : List β}

/-- The elements of two sequences do not differ. -/
abbrev Unchanged (change : α → β → Option γ) : List α → List β → Prop :=
  List.Forall₂ fun x y => change x y = none

@[simp] theorem Op.isAppend_map (f : α → α') (g : β → β') (op : Op α β γ) :
    (op.map f g).isAppend = op.isAppend := by
  cases op <;> rfl

/-- The first sequence has no changes to the front of the second if it is not longer and the
elements at the same index do not differ. -/
theorem exists_unchanged_iff_getElem? :
    (∃ rest new, ys = rest ++ new ∧ Unchanged change xs rest) ↔
      xs.length ≤ ys.length ∧
        ∀ (i : Nat) x y, xs[i]? = some x → ys[i]? = some y → change x y = none := by
  induction xs generalizing ys with
  | nil =>
      refine iff_of_true ⟨[], ys, rfl, .nil⟩ ⟨Nat.zero_le _, ?_⟩
      intro i x y hx
      cases hx
  | cons x xs ih =>
      constructor
      · rintro ⟨_, new, rfl, hsame⟩
        cases hsame with
        | @cons _ y _ rest hxy hrest =>
            obtain ⟨hle, hindex⟩ := ih.1 ⟨rest, new, rfl, hrest⟩
            refine ⟨Nat.succ_le_succ hle, ?_⟩
            intro i x' y' hx' hy'
            cases i with
            | zero =>
                cases hx'
                cases hy'
                exact hxy
            | succ i => exact hindex i x' y' hx' hy'
      · rintro ⟨hle, hindex⟩
        cases ys with
        | nil => cases hle
        | cons y ys =>
            obtain ⟨rest, new, rfl, hrest⟩ := ih.2 ⟨Nat.le_of_succ_le_succ hle,
              fun i x' y' hx' hy' => hindex (i + 1) x' y' hx' hy'⟩
            exact ⟨y :: rest, new, rfl, .cons (hindex 0 x y rfl rfl) hrest⟩

/-! ### Paths whose operations append -/

theorem Path.unchanged_of_ops_eq_nil (p : Path xs ys) (hnil : p.ops change false = []) :
    Unchanged change xs ys := by
  induction p with
  | start => exact .nil
  | add y p ih => cases hnil
  | remove x p ih => cases hnil
  | meet x y p ih =>
      obtain ⟨hchange, hrest⟩ := List.append_eq_nil_iff.1 hnil
      exact .cons (by simpa using hchange) (ih hrest)

theorem Path.exists_unchanged (p : Path xs ys)
    (happend : ∀ op ∈ p.ops change true, op.isAppend = true) :
    ∃ new rest, ys = new ++ rest ∧ Unchanged change xs rest := by
  induction p with
  | start => exact ⟨[], [], rfl, .nil⟩
  | add y p ih =>
      obtain ⟨new, rest, rfl, hsame⟩ := ih fun op hop => happend op (List.mem_cons_of_mem _ hop)
      exact ⟨y :: new, rest, rfl, hsame⟩
  | remove x p ih => cases happend _ List.mem_cons_self
  | meet x y p ih =>
      -- nothing is appended before a meeting, so there is no operation at all
      refine ⟨[], _, rfl, (Path.meet x y p).unchanged_of_ops_eq_nil ?_⟩
      rw [List.eq_nil_iff_forall_not_mem]
      intro op hop
      have hisAppend := happend op hop
      cases op with
      | append z => exact (Path.meet x y p).append_not_mem_ops z hop
      | _ => cases hisAppend

/-! ### The path of the table -/

theorem Free.length_le (h : Free change own xs ys) : xs.length ≤ ys.length := by
  induction h with
  | start => exact Nat.le_refl 0
  | add y h ih => exact Nat.le_succ_of_le ih
  | meet x y hprice h ih => exact Nat.succ_le_succ ih

theorem Free.of_unchanged (h : Unchanged change xs ys) : Free change own xs ys := by
  induction h with
  | nil => exact .start
  | cons hchange _ ih => exact .meet _ _ (by rw [hchange, price_none]) ih

section

variable (hprices : ∀ x y, 0 ≤ price own (change x y))

include hprices

/-- The table matches the elements of two sequences that do not differ. -/
theorem ops_cheapest_of_unchanged (last : Bool) (h : Unchanged change xs ys) :
    (cheapest change own xs ys).ops change last = [] := by
  induction h generalizing last with
  | nil => rw [cheapest, Path.ops]
  | @cons x y xs ys hchange hrest ih =>
      -- the elements of a longer sequence are not found in a shorter one
      have hlong : ¬ Free change own (x :: xs) ys := by
        intro hfree
        have hle := hfree.length_le
        rw [List.length_cons, hrest.length_eq] at hle
        omega
      have hprice : price own (change x y) = 0 := by rw [hchange, price_none]
      rw [cheapest_cons_of_not_free hprices x y (.of_unchanged hrest) hprice hlong, Path.ops,
        hchange, ih]
      rfl

variable (f : α → α') (g : β → β')

/-- All that an alignment does is to append if and only if the first sequence has no changes to the
front of the second. -/
theorem forall_isAppend_ofChanges_iff :
    (∀ op ∈ ofChanges own (xs.map fun x => (f x, ys.map (change x))) (ys.map g),
        op.isAppend = true) ↔
      ∃ rest new, ys = rest ++ new ∧ Unchanged change xs rest := by
  rw [ofChanges_eq_ops_cheapest]
  constructor
  · intro happend
    obtain ⟨new, rest, hys, hsame⟩ :=
      (cheapest change own xs.reverse ys.reverse).exists_unchanged fun op hop => by
        rw [← Op.isAppend_map f g]
        exact happend _ (List.mem_reverse.2 (List.mem_map_of_mem hop))
    refine ⟨rest.reverse, new.reverse, ?_, ?_⟩
    · rw [← List.reverse_append, ← hys, List.reverse_reverse]
    · rw [Unchanged, ← List.forall₂_reverse_iff, List.reverse_reverse]
      exact hsame
  · rintro ⟨rest, new, rfl, hsame⟩ op hop
    obtain ⟨raw, hraw, rfl⟩ := List.mem_map.1 (List.mem_reverse.1 hop)
    have hreverse : Unchanged change xs.reverse rest.reverse := List.forall₂_reverse_iff.2 hsame
    rw [List.reverse_append,
      cheapest_append_of_free hprices new.reverse (.of_unchanged hreverse)] at hraw
    rw [Op.isAppend_map]
    rcases Path.mem_ops_addAll.1 hraw with hraw | ⟨z, -, rfl⟩
    · rw [ops_cheapest_of_unchanged hprices true hreverse] at hraw
      cases hraw
    · rfl

theorem forall_isAppend_align_iff :
    (∀ op ∈ align change own xs ys, op.isAppend = true) ↔
      ∃ rest new, ys = rest ++ new ∧ Unchanged change xs rest := by
  rw [← forall_isAppend_ofChanges_iff hprices id id, List.map_id]
  rfl

end
end StorageUpgrade.Alignment
