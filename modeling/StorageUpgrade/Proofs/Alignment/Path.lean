import StorageUpgrade.Alignment

/-!
# The table of an alignment finds a cheapest path

An alignment of two sequences is a path through the table: every step adds an element of the second
sequence, removes one of the first, or lets two elements meet.  The sequences are read from their
ends, so a path is taken apart at its last step, as a cell of the table is.

`cheapest` chooses between the three last steps as a cell does, an addition before a meeting and a
meeting before a removal.  The two main results are

* `cost_cheapest_le`: no path costs less;
* `ofChanges_eq_ops_cheapest`: the operations of the last cell are those of the cheapest path.
-/

namespace StorageUpgrade.Alignment

variable {α β γ α' β' : Type}

/-- An alignment of two sequences, both of them read from their ends. -/
inductive Path : List α → List β → Type
  | start : Path [] []
  | add {xs : List α} {ys : List β} (y : β) (p : Path xs ys) : Path xs (y :: ys)
  | remove {xs : List α} {ys : List β} (x : α) (p : Path xs ys) : Path (x :: xs) ys
  | meet {xs : List α} {ys : List β} (x : α) (y : β) (p : Path xs ys) : Path (x :: xs) (y :: ys)

/-- The same operation on other descriptions of the elements. -/
def Op.map (f : α → α') (g : β → β') : Op α β γ → Op α' β' γ
  | .insert y => .insert (g y)
  | .append y => .append (g y)
  | .delete x => .delete (f x)
  | .change c => .change c

@[simp] theorem Op.map_id : (Op.map id id : Op α β γ → Op α β γ) = id := by
  funext op
  cases op <;> rfl

/-- What it costs that two elements meet. -/
def price (own : γ → Option Int) : Option γ → Int
  | none => 0
  | some c => (own c).getD changeCost

@[simp] theorem price_none (own : γ → Option Int) : price own none = 0 := rfl

theorem price_some (own : γ → Option Int) (c : γ) :
    price own (some c) = (own c).getD changeCost := rfl

theorem price_nonneg {own : γ → Option Int} (hown : ∀ c n, own c = some n → 0 ≤ n)
    (change : Option γ) : 0 ≤ price own change := by
  cases change with
  | none => exact Int.le_refl 0
  | some c =>
      rw [price_some]
      cases hc : own c with
      | none => exact (by decide : 0 ≤ changeCost)
      | some n => exact hown c n hc

section

variable (change : α → β → Option γ) (own : γ → Option Int)

/-- The cost of a path. -/
def Path.cost {xs : List α} {ys : List β} : Path xs ys → Int
  | .start => 0
  | .add _ p => p.cost + insertionCost
  | .remove _ p => p.cost + deletionCost
  | .meet x y p => p.cost + price own (change x y)

/-- The operations of a path, last one first; `last` says that nothing of the first sequence is left
behind the path. -/
def Path.ops {xs : List α} {ys : List β} (last : Bool) : Path xs ys → List (Op α β γ)
  | .start => []
  | .add y p => (if last then .append y else .insert y) :: p.ops last
  | .remove x p => .delete x :: p.ops false
  | .meet x y p => ((change x y).map Op.change).toList ++ p.ops false

/-- The kind of the last step of a path. -/
def Path.step {xs : List α} {ys : List β} (last : Bool) : Path xs ys → Step
  | .start => .start
  | .add .. => if last then .append else .insert
  | .remove .. => .delete
  | .meet x y _ => if (change x y).isSome then .change else .keep

/-- The first path, unless the second one is cheaper. -/
def Path.cheaper {xs : List α} {ys : List β} (p q : Path xs ys) : Path xs ys :=
  if q.cost change own < p.cost change own then q else p

/-- The path that the table finds. -/
def cheapest : (xs : List α) → (ys : List β) → Path xs ys
  | [], [] => .start
  | [], y :: ys => .add y (cheapest [] ys)
  | x :: xs, [] => .remove x (cheapest xs [])
  | x :: xs, y :: ys =>
    ((Path.add y (cheapest (x :: xs) ys)).cheaper change own
      (.meet x y (cheapest xs ys))).cheaper change own (.remove x (cheapest xs (y :: ys)))
termination_by xs ys => xs.length + ys.length

variable {change own} {xs : List α} {ys : List β}

@[simp] theorem Path.cost_add (y : β) (p : Path xs ys) :
    (Path.add y p).cost change own = p.cost change own + insertionCost := rfl

@[simp] theorem Path.cost_remove (x : α) (p : Path xs ys) :
    (Path.remove x p).cost change own = p.cost change own + deletionCost := rfl

@[simp] theorem Path.cost_meet (x : α) (y : β) (p : Path xs ys) :
    (Path.meet x y p).cost change own = p.cost change own + price own (change x y) := rfl

/-! ### No path is cheaper -/

theorem Path.cheaper_of_le {p q : Path xs ys} (h : p.cost change own ≤ q.cost change own) :
    p.cheaper change own q = p := if_neg (by omega)

theorem Path.cheaper_of_lt {p q : Path xs ys} (h : q.cost change own < p.cost change own) :
    p.cheaper change own q = q := if_pos h

theorem Path.cost_cheaper_le_left (p q : Path xs ys) :
    (p.cheaper change own q).cost change own ≤ p.cost change own := by
  unfold Path.cheaper
  split <;> omega

theorem Path.cost_cheaper_le_right (p q : Path xs ys) :
    (p.cheaper change own q).cost change own ≤ q.cost change own := by
  unfold Path.cheaper
  split <;> omega

theorem cost_cheapest_le_add (y : β) :
    (cheapest change own xs (y :: ys)).cost change own ≤
      (cheapest change own xs ys).cost change own + insertionCost := by
  cases xs with
  | nil => simp [cheapest]
  | cons x xs =>
      rw [cheapest]
      exact Int.le_trans (Path.cost_cheaper_le_left _ _) (Path.cost_cheaper_le_left _ _)

theorem cost_cheapest_le_remove (x : α) :
    (cheapest change own (x :: xs) ys).cost change own ≤
      (cheapest change own xs ys).cost change own + deletionCost := by
  cases ys with
  | nil => simp [cheapest]
  | cons y ys =>
      rw [cheapest]
      exact Path.cost_cheaper_le_right _ _

theorem cost_cheapest_le_meet (x : α) (y : β) :
    (cheapest change own (x :: xs) (y :: ys)).cost change own ≤
      (cheapest change own xs ys).cost change own + price own (change x y) := by
  rw [cheapest]
  exact Int.le_trans (Path.cost_cheaper_le_left _ _) (Path.cost_cheaper_le_right _ _)

/-- No path costs less than the one that the table finds. -/
theorem cost_cheapest_le (p : Path xs ys) :
    (cheapest change own xs ys).cost change own ≤ p.cost change own := by
  induction p with
  | start => simp [cheapest]
  | add y p ih => exact Int.le_trans (cost_cheapest_le_add y) (Int.add_le_add_right ih _)
  | remove x p ih => exact Int.le_trans (cost_cheapest_le_remove x) (Int.add_le_add_right ih _)
  | meet x y p ih => exact Int.le_trans (cost_cheapest_le_meet x y) (Int.add_le_add_right ih _)

/-! ### The cells of the table -/

variable (change own) (f : α → α') (g : β → β')

/-- The cell that a path leads to. -/
def Path.cell (last : Bool) (p : Path xs ys) : Cell α' β' γ :=
  ⟨p.step change last, p.cost change own, (p.ops change last).map (Op.map f g)⟩

/-- The cells behind the one of `done` in the row of `xs`, as further elements are added. -/
def cellsFrom (last : Bool) (xs : List α) (done : List β) : List β → List (Cell α' β' γ)
  | [] => []
  | y :: ys =>
    (cheapest change own xs (y :: done)).cell change own f g last ::
      cellsFrom last xs (y :: done) ys

/-- The row of `xs`. -/
def rowOf (last : Bool) (xs : List α) (ys : List β) : List (Cell α' β' γ) :=
  (cheapest change own xs []).cell change own f g last :: cellsFrom change own f g last xs [] ys

variable {change own f g}

theorem cell_cheaper (last : Bool) (p q : Path xs ys) :
    (p.cheaper change own q).cell change own f g last =
      (p.cell change own f g last).cheaper (q.cell change own f g last) := by
  unfold Path.cheaper Cell.cheaper
  exact apply_ite (Path.cell change own f g last) _ _ _

theorem cell_add (last : Bool) (y : β) (p : Path xs ys) :
    (Path.add y p).cell change own f g last = (p.cell change own f g last).add last (g y) := by
  cases last <;> rfl

theorem cell_remove (last : Bool) (x : α) (p : Path xs ys) :
    (Path.remove x p).cell change own f g last = (p.cell change own f g false).remove (f x) := rfl

theorem cell_meet (last : Bool) (x : α) (y : β) (p : Path xs ys) :
    (Path.meet x y p).cell change own f g last =
      (p.cell change own f g false).meet own (change x y) := by
  cases h : change x y <;>
    simp [Path.cell, Path.step, Path.cost, Path.ops, Cell.meet, price, Op.map, h]

theorem cell_cheapest_cons (last : Bool) (x : α) (y : β) :
    (cheapest change own (x :: xs) (y :: ys)).cell change own f g last =
      ((((cheapest change own (x :: xs) ys).cell change own f g last).add last (g y)).cheaper
        (((cheapest change own xs ys).cell change own f g false).meet own (change x y))).cheaper
        (((cheapest change own xs (y :: ys)).cell change own f g false).remove (f x)) := by
  rw [cheapest, cell_cheaper, cell_cheaper, cell_add, cell_meet, cell_remove]

theorem topCells_eq (last : Bool) (done ys : List β) :
    topCells last ((cheapest change own [] done).cell change own f g last) (ys.map g) =
      cellsFrom change own f g last [] done ys := by
  induction ys generalizing done with
  | nil => rfl
  | cons y ys ih =>
      have hcell : (cheapest change own [] (y :: done)).cell change own f g last =
          ((cheapest change own [] done).cell change own f g last).add last (g y) := by
        rw [cheapest, cell_add]
      rw [List.map_cons, topCells, cellsFrom, ← hcell, ih]

theorem topRow_eq (last : Bool) (ys : List β) :
    topRow last (ys.map g) = rowOf change own f g last [] ys := by
  have hstart : (cheapest change own [] []).cell change own f g last = Cell.start := by
    rw [cheapest]
    rfl
  rw [topRow, rowOf, ← topCells_eq, hstart]

theorem rowCells_eq (last : Bool) (x : α) (xs : List α) (done ys : List β) :
    rowCells own last (f x) ((cheapest change own (x :: xs) done).cell change own f g last)
        ((cheapest change own xs done).cell change own f g false)
        (cellsFrom change own f g false xs done ys) ((ys.map g).zip (ys.map (change x))) =
      cellsFrom change own f g last (x :: xs) done ys := by
  induction ys generalizing done with
  | nil => rfl
  | cons y ys ih =>
      rw [List.map_cons, List.map_cons, List.zip_cons_cons, cellsFrom, cellsFrom, rowCells,
        ← cell_cheapest_cons, ih]

theorem nextRow_eq (last : Bool) (x : α) (xs : List α) (ys : List β) :
    nextRow own last (f x) (rowOf change own f g false xs ys)
        ((ys.map g).zip (ys.map (change x))) =
      rowOf change own f g last (x :: xs) ys := by
  have hcorner : (cheapest change own (x :: xs) []).cell change own f g last =
      ((cheapest change own xs []).cell change own f g false).remove (f x) := by
    rw [cheapest, cell_remove]
  rw [rowOf, rowOf, nextRow, ← hcorner, rowCells_eq]

variable (change own f g)

theorem getLast?_cellsFrom (last : Bool) (xs : List α) (done ys : List β) :
    ((cheapest change own xs done).cell change own f g last ::
        cellsFrom change own f g last xs done ys).getLast? =
      some ((cheapest change own xs (ys.reverse ++ done)).cell change own f g last) := by
  induction ys generalizing done with
  | nil => rfl
  | cons y ys ih => rw [cellsFrom, List.getLast?_cons_cons, ih, List.reverse_cons,
      List.append_assoc, List.singleton_append]

theorem getLast?_rowsBelow (done xs : List α) (ys : List β) :
    (rowOf change own f g xs.isEmpty done ys ::
        rowsBelow own (ys.map g) (rowOf change own f g xs.isEmpty done ys)
          (xs.map fun x => (f x, ys.map (change x)))).getLast? =
      some (rowOf change own f g true (xs.reverse ++ done) ys) := by
  induction xs generalizing done with
  | nil => rfl
  | cons x xs ih =>
      rw [List.map_cons, rowsBelow, List.getLast?_cons_cons, List.isEmpty_cons, nextRow_eq,
        List.isEmpty_map, ih, List.reverse_cons, List.append_assoc, List.singleton_append]

variable {change own f g} in
/-- The operations of the table are those of the cheapest path. -/
theorem ofChanges_eq_ops_cheapest (xs : List α) (ys : List β) :
    ofChanges own (xs.map fun x => (f x, ys.map (change x))) (ys.map g) =
      (((cheapest change own xs.reverse ys.reverse).ops change true).map (Op.map f g)).reverse := by
  have hrow := getLast?_rowsBelow change own f g [] xs ys
  have hcell := getLast?_cellsFrom change own f g true xs.reverse [] ys
  rw [List.append_nil] at hrow hcell
  rw [ofChanges, corner, table, topRow_eq, List.isEmpty_map, hrow, Option.bind_some, rowOf, hcell]
  rfl

end
/-- A single pair is matched if its change costs less than an insertion and a deletion. -/
theorem ofChanges_singleton {x : α} {y : β} {c : γ}
    (hcost : (own c).getD changeCost < insertionCost + deletionCost) :
    ofChanges own [(x, [some c])] [y] = [.change c] := by
  replace hcost : (own c).getD changeCost < 4 := hcost
  have hmeet : ¬ 4 < (own c).getD changeCost := by omega
  simp [ofChanges, table, topRow, topCells, rowsBelow, nextRow, rowCells, corner, Cell.add,
    Cell.remove, Cell.meet, Cell.cheaper, Cell.start, insertionCost, deletionCost, hcost, hmeet]

end StorageUpgrade.Alignment
