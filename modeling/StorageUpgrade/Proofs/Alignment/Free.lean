import StorageUpgrade.Proofs.Alignment.Path

/-!
# Alignments that only add

No path costs less than what the second sequence has more than the first.  A path that costs just
that removes nothing, and all its meetings are free: the first sequence is found in the second,
element by element.  `Free` says that this is possible.

When it is, the table finds the earliest such meetings.  Read from the ends, it adds an element as
long as the first sequence can be found in what is left (`cheapest_cons_of_free`), and otherwise
lets the last two elements meet (`cheapest_cons_of_not_free`).
-/

namespace StorageUpgrade.Alignment

variable {α β γ : Type} (change : α → β → Option γ) (own : γ → Option Int)

/-- Every element of the first sequence meets one of the second at no cost, in order; both are read
from their ends. -/
inductive Free : List α → List β → Prop
  | start : Free [] []
  | add {xs : List α} {ys : List β} (y : β) (h : Free xs ys) : Free xs (y :: ys)
  | meet {xs : List α} {ys : List β} (x : α) (y : β) (hprice : price own (change x y) = 0)
      (h : Free xs ys) : Free (x :: xs) (y :: ys)

/-- What a path costs that removes nothing and pays for no meeting. -/
def surplus (xs : List α) (ys : List β) : Int := insertionCost * (ys.length - xs.length)

/-- A path with further elements added to it. -/
def Path.addAll {xs : List α} {ys : List β} (p : Path xs ys) : (new : List β) → Path xs (new ++ ys)
  | [] => p
  | y :: new => .add y (p.addAll new)

variable {change own} {xs : List α} {ys : List β}

theorem Path.mem_ops_addAll {op : Op α β γ} {p : Path xs ys} {last : Bool} {new : List β} :
    op ∈ (p.addAll new).ops change last ↔
      op ∈ p.ops change last ∨ ∃ z ∈ new, op = if last then .append z else .insert z := by
  induction new with
  | nil => simp [Path.addAll]
  | cons z new ih =>
      rw [Path.addAll, Path.ops, List.mem_cons, ih]
      simp only [List.mem_cons, exists_eq_or_imp]
      exact or_left_comm

theorem surplus_add (y : β) : surplus xs (y :: ys) = surplus xs ys + insertionCost := by
  simp only [surplus, insertionCost, List.length_cons]
  omega

theorem surplus_remove (x : α) : surplus (x :: xs) ys = surplus xs ys - insertionCost := by
  simp only [surplus, insertionCost, List.length_cons]
  omega

theorem surplus_meet (x : α) (y : β) : surplus (x :: xs) (y :: ys) = surplus xs ys := by
  simp only [surplus, insertionCost, List.length_cons]
  omega

theorem Free.addAll (h : Free change own xs ys) (new : List β) :
    Free change own xs (new ++ ys) := by
  induction new with
  | nil => exact h
  | cons y new ih => exact .add y ih

/-- The last element of the first sequence meets some element of the second, and the others meet
elements before it. -/
theorem Free.exists_meeting {x : α} (h : Free change own (x :: xs) ys) :
    ∃ new y rest, ys = new ++ y :: rest ∧ price own (change x y) = 0 ∧
      Free change own xs rest := by
  induction ys with
  | nil => cases h
  | cons y ys ih =>
      cases h with
      | add _ h =>
          obtain ⟨new, z, rest, rfl, hprice, hfree⟩ := ih h
          exact ⟨y :: new, z, rest, rfl, hprice, hfree⟩
      | meet _ _ hprice h => exact ⟨[], y, ys, rfl, hprice, h⟩

/-- A free alignment as a path of the least cost. -/
theorem Free.exists_path (h : Free change own xs ys) :
    ∃ p : Path xs ys, p.cost change own = surplus xs ys := by
  induction h with
  | start => exact ⟨.start, rfl⟩
  | add y h ih =>
      obtain ⟨p, hp⟩ := ih
      exact ⟨.add y p, by rw [Path.cost_add, hp, surplus_add]⟩
  | meet x y hprice h ih =>
      obtain ⟨p, hp⟩ := ih
      exact ⟨.meet x y p, by rw [Path.cost_meet, hp, hprice, surplus_meet, Int.add_zero]⟩

section

variable (hprices : ∀ x y, 0 ≤ price own (change x y))

include hprices

theorem surplus_le_cost (p : Path xs ys) : surplus xs ys ≤ p.cost change own := by
  induction p with
  | start => exact Int.le_refl 0
  | add y p ih =>
      rw [Path.cost_add, surplus_add]
      omega
  | remove x p ih =>
      rw [Path.cost_remove, surplus_remove, insertionCost, deletionCost]
      omega
  | meet x y p ih =>
      have := hprices x y
      rw [Path.cost_meet, surplus_meet]
      omega

/-- Only free alignments have the least cost. -/
theorem free_of_cost_le (p : Path xs ys) (hp : p.cost change own ≤ surplus xs ys) :
    Free change own xs ys := by
  induction p with
  | start => exact .start
  | add y p ih =>
      rw [Path.cost_add, surplus_add] at hp
      exact .add y (ih (by omega))
  | @remove xs ys x p ih =>
      have := surplus_le_cost hprices p
      rw [Path.cost_remove, surplus_remove, insertionCost, deletionCost] at hp
      omega
  | meet x y p ih =>
      have hleast := surplus_le_cost hprices p
      have := hprices x y
      rw [Path.cost_meet, surplus_meet] at hp
      exact .meet x y (by omega) (ih (by omega))

theorem cost_cheapest_eq_surplus_iff :
    (cheapest change own xs ys).cost change own = surplus xs ys ↔ Free change own xs ys := by
  constructor
  · intro h
    exact free_of_cost_le hprices _ (Int.le_of_eq h)
  · intro h
    obtain ⟨p, hp⟩ := h.exists_path
    have hle : (cheapest change own xs ys).cost change own ≤ p.cost change own :=
      cost_cheapest_le p
    have hge := surplus_le_cost hprices (cheapest change own xs ys)
    omega

/-- The last element is added if the first sequence can be found without it. -/
theorem cheapest_cons_of_free (y : β) (h : Free change own xs ys) :
    cheapest change own xs (y :: ys) = .add y (cheapest change own xs ys) := by
  cases xs with
  | nil => rw [cheapest]
  | cons x xs =>
      have hadd : (Path.add y (cheapest change own (x :: xs) ys)).cost change own =
          surplus (x :: xs) (y :: ys) := by
        rw [Path.cost_add, (cost_cheapest_eq_surplus_iff hprices).2 h, surplus_add]
      have hmeet := surplus_le_cost hprices (Path.meet x y (cheapest change own xs ys))
      have hremove := surplus_le_cost hprices (Path.remove x (cheapest change own xs (y :: ys)))
      rw [← hadd] at hmeet hremove
      rw [cheapest, Path.cheaper_of_le hmeet, Path.cheaper_of_le hremove]

theorem cheapest_append_of_free (new : List β) (h : Free change own xs ys) :
    cheapest change own xs (new ++ ys) = (cheapest change own xs ys).addAll new := by
  induction new with
  | nil => rfl
  | cons y new ih =>
      exact (cheapest_cons_of_free hprices y (h.addAll new)).trans (congrArg (Path.add y) ih)

/-- The last elements meet if the first sequence cannot be found without the last one of the
second. -/
theorem cheapest_cons_of_not_free (x : α) (y : β) (h : Free change own xs ys)
    (hprice : price own (change x y) = 0) (hnot : ¬ Free change own (x :: xs) ys) :
    cheapest change own (x :: xs) (y :: ys) = .meet x y (cheapest change own xs ys) := by
  have hmeet : (Path.meet x y (cheapest change own xs ys)).cost change own =
      surplus (x :: xs) (y :: ys) := by
    rw [Path.cost_meet, (cost_cheapest_eq_surplus_iff hprices).2 h, hprice, surplus_meet,
      Int.add_zero]
  -- a path that adds the last element does not have the least cost
  have hadd : (Path.meet x y (cheapest change own xs ys)).cost change own <
      (Path.add y (cheapest change own (x :: xs) ys)).cost change own := by
    have hne := mt (cost_cheapest_eq_surplus_iff hprices).1 hnot
    have hge := surplus_le_cost hprices (cheapest change own (x :: xs) ys)
    rw [hmeet, surplus_add, Path.cost_add]
    omega
  have hremove := surplus_le_cost hprices (Path.remove x (cheapest change own xs (y :: ys)))
  rw [← hmeet] at hremove
  rw [cheapest, Path.cheaper_of_lt hadd, Path.cheaper_of_le hremove]

end
end StorageUpgrade.Alignment
