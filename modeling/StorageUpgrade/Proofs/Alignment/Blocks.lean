import StorageUpgrade.Proofs.Alignment.Free

/-!
# Alignments in blocks

When a sequence is extended in such a way that every element is succeeded by a block, some new
elements and one that takes its place, the alignment with the extended sequence is the intended one.
It is required that the element meets the last one of its block at no cost, and that it does not
meet a new element of the block at no cost.

Then the first elements cannot be found in less than their blocks (`Blocks.eq_nil_of_free`), for an
element that is found earlier would be found in an earlier block or among the new elements of its
own.  So the table, which looks for the earliest free meetings, finds the blocks.
-/

namespace StorageUpgrade.Alignment

variable {α β γ : Type} {change : α → β → Option γ} {own : γ → Option Int}
  {Block : α → List β → β → Prop} {xs : List α} {ys : List β}

/-- Every element of the first sequence is succeeded by a block, both sequences being read from
their ends; the new elements of a block are listed from the front. -/
inductive Blocks (Block : α → List β → β → Prop) : List α → List β → Prop
  | nil : Blocks Block [] []
  | cons {xs : List α} {ys : List β} {x : α} {new : List β} {y : β} (hblock : Block x new y)
      (h : Blocks Block xs ys) : Blocks Block (x :: xs) (y :: (new.reverse ++ ys))

/-- What makes the table find the blocks. -/
structure Separated (change : α → β → Option γ) (own : γ → Option Int)
    (Block : α → List β → β → Prop) : Prop where
  nonneg : ∀ x y, 0 ≤ price own (change x y)
  last : ∀ ⦃x new y⦄, Block x new y → price own (change x y) = 0
  new : ∀ ⦃x new y⦄, Block x new y → ∀ z ∈ new, price own (change x z) ≠ 0

theorem Blocks.free (hseparated : Separated change own Block) (h : Blocks Block xs ys) :
    Free change own xs ys := by
  induction h with
  | nil => exact .start
  | cons hblock _ ih => exact .meet _ _ (hseparated.last hblock) (ih.addAll _)

/-- The elements are not found in less than their blocks. -/
theorem Blocks.eq_nil_of_free (hseparated : Separated change own Block) (h : Blocks Block xs ys)
    {skipped rest : List β} (hys : ys = skipped ++ rest) (hfree : Free change own xs rest) :
    skipped = [] := by
  induction h generalizing skipped rest with
  | nil => exact (List.append_eq_nil_iff.1 hys.symm).1
  | @cons xs ys x new y hblock h ih =>
      cases skipped with
      | nil => rfl
      | cons w skipped =>
          exfalso
          obtain ⟨front, z, rest, rfl, hprice, hfree⟩ := hfree.exists_meeting
          have htail : new.reverse ++ ys = (skipped ++ front) ++ (z :: rest) := by
            rw [List.append_assoc]
            exact (List.cons.inj hys).2
          -- the meeting is in an earlier block, or with a new element of this one
          rcases List.append_eq_append_iff.1 htail with ⟨mid, -, hys⟩ | ⟨mid, hnew, hrest⟩
          · have hnil := ih (hys.trans (List.append_cons mid z rest)) hfree
            exact List.append_ne_nil_of_right_ne_nil mid (List.cons_ne_nil z []) hnil
          · cases mid with
            | nil =>
                have hnil : [z] = [] := ih hrest.symm hfree
                cases hnil
            | cons z' mid =>
                obtain rfl : z = z' := (List.cons.inj hrest).1
                refine hseparated.new hblock z ?_ hprice
                rw [← List.mem_reverse, hnew]
                exact List.mem_append_right _ List.mem_cons_self

/-- The table finds the blocks. -/
theorem Blocks.cheapest_cons (hseparated : Separated change own Block) (h : Blocks Block xs ys)
    {x : α} {new : List β} {y : β} (hblock : Block x new y) :
    cheapest change own (x :: xs) (y :: (new.reverse ++ ys)) =
      .meet x y ((cheapest change own xs ys).addAll new.reverse) := by
  have hfree := h.free hseparated
  have hnot : ¬ Free change own (x :: xs) (new.reverse ++ ys) := fun hearlier =>
    List.cons_ne_nil y [] ((Blocks.cons hblock h).eq_nil_of_free hseparated rfl hearlier)
  rw [cheapest_cons_of_not_free hseparated.nonneg x y (hfree.addAll _) (hseparated.last hblock)
    hnot, cheapest_append_of_free hseparated.nonneg _ hfree]

/-- The operations of an alignment in blocks are the changes of the elements to the last ones of
their blocks, and the insertions of the new elements of blocks that hold such a change or none. -/
theorem Blocks.mem_ops (hseparated : Separated change own Block) (h : Blocks Block xs ys)
    {op : Op α β γ} {last : Bool} (hop : op ∈ (cheapest change own xs ys).ops change last) :
    ∃ x new y, Block x new y ∧ (∀ c, change x y = some c →
      Op.change c ∈ (cheapest change own xs ys).ops change last) ∧
        ((∃ c, change x y = some c ∧ op = .change c) ∨ ∃ z ∈ new, op = .insert z) := by
  induction h generalizing last with
  | nil =>
      rw [cheapest] at hop
      cases hop
  | @cons xs ys x new y hblock h ih =>
      rw [h.cheapest_cons hseparated hblock, Path.ops] at hop ⊢
      have hchange (c : γ) (hc : change x y = some c) :
          (Op.change c : Op α β γ) ∈ ((change x y).map Op.change).toList := by
        rw [hc]
        exact List.mem_singleton_self _
      rcases List.mem_append.1 hop with hop | hop
      · refine ⟨x, new, y, hblock, fun c hc => List.mem_append_left _ (hchange c hc), .inl ?_⟩
        obtain ⟨c, hc, rfl⟩ := Option.map_eq_some_iff.1 (Option.mem_toList.1 hop)
        exact ⟨c, hc, rfl⟩
      rcases Path.mem_ops_addAll.1 hop with hop | ⟨z, hz, rfl⟩
      · obtain ⟨x', new', y', hblock', hmem, hkind⟩ := ih hop
        exact ⟨x', new', y', hblock', fun c hc =>
          List.mem_append_right _ (Path.mem_ops_addAll.2 (.inl (hmem c hc))), hkind⟩
      · exact ⟨x, new, y, hblock, fun c hc => List.mem_append_left _ (hchange c hc),
          .inr ⟨z, List.mem_reverse.1 hz, rfl⟩⟩

end StorageUpgrade.Alignment
