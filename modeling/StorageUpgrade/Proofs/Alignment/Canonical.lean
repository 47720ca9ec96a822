import Mathlib.Algebra.Ring.Int.Defs
import StorageUpgrade.Proofs.Alignment.Matching

/-!
# The alignment that is found

To a reader of two sequences an alignment is a list of moves: each adds the next element of the
second sequence, removes the next one of the first, or lets the next two meet.  `align` answers the
operations of one such list, which is determined by its costs (`exists_canonical`): no alignment
is cheaper, and of equally cheap last moves an addition comes before a meeting and a meeting before
a removal, wherever the alignment is cut.  Costs may be any whole numbers.

## Strategy

A path through the table is a list of moves read from its end, so the moves of the cheapest path
are the ones looked for.

* Every list of moves is that of a path (`exists_path`), so no list is cheaper.
* A front of the moves of the cheapest path is the cheapest path of what it has taken
  (`exists_cheapest_of_suffix`), for a cell of the table extends another cell.
* If some path of the same cost ends with a move, then the cell prefers its own last move to it or
  makes the same one (`rank_le_of_cost_le`).
-/

namespace StorageUpgrade.Alignment

variable {α β γ : Type}

/-! ### Moves -/

/-- A step of an alignment. -/
inductive Move (α β : Type) where
  | add (y : β)
  | remove (x : α)
  | meet (x : α) (y : β)

namespace Move

/-- The element that a move takes from the first sequence. -/
def old? : Move α β → Option α
  | add _ => none
  | remove x | meet x _ => some x

/-- The element that a move takes from the second sequence. -/
def updated? : Move α β → Option β
  | add y | meet _ y => some y
  | remove _ => none

/-- The place of a move among equally cheap ones. -/
def rank : Move α β → Nat
  | add _ => 0
  | meet _ _ => 1
  | remove _ => 2

theorem rank_le_two (m : Move α β) : m.rank ≤ 2 := by
  cases m <;> simp [rank]

end Move

/-- The moves take all elements of the two sequences in their order. -/
structure Aligns (xs : List α) (ys : List β) (moves : List (Move α β)) : Prop where
  olds : moves.filterMap Move.old? = xs
  news : moves.filterMap Move.updated? = ys

section

variable (change : α → β → Option γ) (own : γ → Option Int)

/-- The cost of a move. -/
def Move.cost : Move α β → Int
  | add _ => insertionCost
  | remove _ => deletionCost
  | meet x y => price own (change x y)

/-- The cost of an alignment. -/
def totalCost (moves : List (Move α β)) : Int := (moves.map (Move.cost change own)).sum

/-- An alignment of two sequences that costs no more than any other. -/
structure CheapestMoves (xs : List α) (ys : List β) (moves : List (Move α β)) : Prop extends
    Aligns xs ys moves where
  le : ∀ other, Aligns xs ys other → totalCost change own moves ≤ totalCost change own other

/-- Wherever the moves are cut, they are a cheapest alignment of what they have taken so far, and no
cheapest one of the same ends with a move that is preferred to theirs. -/
def Canonical (moves : List (Move α β)) : Prop :=
  ∀ before m after, moves = before ++ m :: after →
    ∃ xs ys, CheapestMoves change own xs ys (before ++ [m]) ∧
      ∀ other last, CheapestMoves change own xs ys (other ++ [last]) → m.rank ≤ last.rank

/-- The operations of some moves that are still to take the elements `left` of the first sequence:
what is added when none is left is appended, and a meeting without a change is no operation. -/
def opsOfMoves : (left : List α) → List (Move α β) → List (Op α β γ)
  | _, [] => []
  | left, .add y :: moves =>
    (if left.isEmpty then .append y else .insert y) :: opsOfMoves left moves
  | left, .remove x :: moves => .delete x :: opsOfMoves left.tail moves
  | left, .meet x y :: moves =>
    ((change x y).map Op.change).toList ++ opsOfMoves left.tail moves

variable {change own}

theorem opsOfMoves_append (left : List α) (moves more : List (Move α β)) :
    opsOfMoves change ((moves.filterMap Move.old?) ++ left) (moves ++ more) =
      opsOfMoves change ((moves.filterMap Move.old?) ++ left) moves ++
        opsOfMoves change left more := by
  induction moves with
  | nil => rfl
  | cons m moves ih =>
      cases m with
      | add y =>
          have hskip : (Move.add y :: moves).filterMap Move.old? = moves.filterMap Move.old? := rfl
          rw [hskip, List.cons_append, opsOfMoves, opsOfMoves, ih, List.cons_append]
      | remove x => exact congrArg (Op.delete x :: ·) ih
      | meet x y =>
          exact (congrArg (((change x y).map Op.change).toList ++ ·) ih).trans
            (List.append_assoc _ _ _).symm

theorem totalCost_reverse (moves : List (Move α β)) :
    totalCost change own moves.reverse = totalCost change own moves := by
  rw [totalCost, totalCost, List.map_reverse, List.sum_reverse]

theorem Aligns.reverse {xs : List α} {ys : List β} {moves : List (Move α β)}
    (h : Aligns xs ys moves) : Aligns xs.reverse ys.reverse moves.reverse where
  olds := by rw [List.filterMap_reverse, h.olds]
  news := by rw [List.filterMap_reverse, h.news]

end

/-! ### Paths as moves -/

section

variable {change : α → β → Option γ} {own : γ → Option Int} {xs : List α} {ys : List β}

/-- The moves of a path, last one first. -/
def Path.moves {xs : List α} {ys : List β} : Path xs ys → List (Move α β)
  | .start => []
  | .add y p => .add y :: p.moves
  | .remove x p => .remove x :: p.moves
  | .meet x y p => .meet x y :: p.moves

theorem Path.aligns_moves (p : Path xs ys) : Aligns xs ys p.moves := by
  induction p with
  | start => exact ⟨rfl, rfl⟩
  | add y p ih => exact ⟨ih.olds, congrArg (y :: ·) ih.news⟩
  | remove x p ih => exact ⟨congrArg (x :: ·) ih.olds, ih.news⟩
  | meet x y p ih => exact ⟨congrArg (x :: ·) ih.olds, congrArg (y :: ·) ih.news⟩

theorem Path.totalCost_moves (p : Path xs ys) :
    totalCost change own p.moves = p.cost change own := by
  induction p with
  | start => rfl
  | add y p ih | remove x p ih | meet x y p ih =>
      rw [Path.moves, totalCost, List.map_cons, List.sum_cons, ← totalCost, ih]
      exact Int.add_comm _ _

variable (change) in
/-- The operations of a path are those of its moves, where `left` is behind the path. -/
theorem Path.opsOfMoves_moves (p : Path xs ys) (left : List α) :
    opsOfMoves change (xs.reverse ++ left) p.moves.reverse =
      (p.ops change left.isEmpty).reverse := by
  have hlast {xs : List α} {ys : List β} (q : Path xs ys) (m : Move α β) (left : List α) :
      opsOfMoves change (xs.reverse ++ left) (q.moves.reverse ++ [m]) =
        opsOfMoves change (xs.reverse ++ left) q.moves.reverse ++
          opsOfMoves change left [m] := by
    have holds := q.aligns_moves.reverse.olds
    rw [← holds]
    exact opsOfMoves_append left _ [m]
  induction p generalizing left with
  | start => rfl
  | add y p ih =>
      rw [Path.moves, List.reverse_cons, hlast, ih, Path.ops, List.reverse_cons]
      rfl
  | remove x p ih =>
      -- the removed element is still left for the moves before
      rw [Path.moves, List.reverse_cons, List.reverse_cons, List.append_assoc,
        List.singleton_append, hlast, ih, Path.ops, List.reverse_cons]
      rfl
  | meet x y p ih =>
      rw [Path.moves, List.reverse_cons, List.reverse_cons, List.append_assoc,
        List.singleton_append, hlast, ih, Path.ops, List.reverse_append, List.isEmpty_cons]
      cases hxy : change x y <;> simp [opsOfMoves, hxy]

/-- Moves that take some elements from the ends of two sequences are those of a path. -/
theorem exists_path {moves : List (Move α β)} (h : Aligns xs ys moves) :
    ∃ p : Path xs ys, p.moves = moves := by
  induction moves generalizing xs ys with
  | nil =>
      obtain ⟨rfl, rfl⟩ := h
      exact ⟨.start, rfl⟩
  | cons m moves ih =>
      obtain ⟨rfl, rfl⟩ := h
      obtain ⟨p, hp⟩ := ih ⟨rfl, rfl⟩
      cases m with
      | add y => exact ⟨.add y p, congrArg (List.cons (Move.add y)) hp⟩
      | remove x => exact ⟨.remove x p, congrArg (List.cons (Move.remove x)) hp⟩
      | meet x y => exact ⟨.meet x y p, congrArg (List.cons (Move.meet x y)) hp⟩

/-! ### The moves of the cheapest path -/

variable (change own xs ys) in
/-- The last step of a cell is an addition unless another one is cheaper, and a meeting unless a
removal is. -/
theorem cheapest_cons_cases (x : α) (y : β) :
    let add := Path.add y (cheapest change own (x :: xs) ys)
    let meet := Path.meet x y (cheapest change own xs ys)
    let remove := Path.remove x (cheapest change own xs (y :: ys))
    cheapest change own (x :: xs) (y :: ys) = add ∨
      cheapest change own (x :: xs) (y :: ys) = meet ∧
        meet.cost change own < add.cost change own ∨
      cheapest change own (x :: xs) (y :: ys) = remove ∧
        remove.cost change own < add.cost change own ∧
        remove.cost change own < meet.cost change own := by
  intro add meet remove
  have hcell : cheapest change own (x :: xs) (y :: ys) =
      (add.cheaper change own meet).cheaper change own remove := by
    rw [cheapest]
  rw [hcell]
  rcases Int.lt_or_le (meet.cost change own) (add.cost change own) with hmeet | hmeet
  · rw [Path.cheaper_of_lt hmeet]
    rcases Int.lt_or_le (remove.cost change own) (meet.cost change own) with hremove | hremove
    · rw [Path.cheaper_of_lt hremove]
      exact .inr (.inr ⟨rfl, by omega, hremove⟩)
    · rw [Path.cheaper_of_le hremove]
      exact .inr (.inl ⟨rfl, hmeet⟩)
  · rw [Path.cheaper_of_le hmeet]
    rcases Int.lt_or_le (remove.cost change own) (add.cost change own) with hremove | hremove
    · rw [Path.cheaper_of_lt hremove]
      exact .inr (.inr ⟨rfl, hremove, by omega⟩)
    · rw [Path.cheaper_of_le hremove]
      exact .inl rfl

/-- The cheapest path ends with an addition if some path of its cost does. -/
theorem cheapest_eq_add {y : β} (q : Path xs ys)
    (hq : (Path.add y q).cost change own ≤ (cheapest change own xs (y :: ys)).cost change own) :
    cheapest change own xs (y :: ys) = .add y (cheapest change own xs ys) := by
  cases xs with
  | nil => rw [cheapest]
  | cons x xs =>
      have hleast : (cheapest change own (x :: xs) ys).cost change own ≤ q.cost change own :=
        cost_cheapest_le q
      rw [Path.cost_add] at hq
      rcases cheapest_cons_cases change own xs ys x y with
        hadd | ⟨hmeet, hlt⟩ | ⟨hremove, hlt, -⟩
      · exact hadd
      · rw [hmeet] at hq
        rw [Path.cost_add] at hlt
        omega
      · rw [hremove] at hq
        rw [Path.cost_add] at hlt
        omega

/-- The cheapest path does not end with a removal if some path of its cost ends with a meeting. -/
theorem cheapest_eq_add_or_meet {x : α} {y : β} (q : Path xs ys)
    (hq : (Path.meet x y q).cost change own ≤
      (cheapest change own (x :: xs) (y :: ys)).cost change own) :
    cheapest change own (x :: xs) (y :: ys) = .add y (cheapest change own (x :: xs) ys) ∨
      cheapest change own (x :: xs) (y :: ys) = .meet x y (cheapest change own xs ys) := by
  have hleast : (cheapest change own xs ys).cost change own ≤ q.cost change own :=
    cost_cheapest_le q
  rw [Path.cost_meet] at hq
  rcases cheapest_cons_cases change own xs ys x y with
    hadd | ⟨hmeet, -⟩ | ⟨hremove, -, hlt⟩
  · exact .inl hadd
  · exact .inr hmeet
  · rw [hremove] at hq
    rw [Path.cost_meet] at hlt
    omega

/-- No path of the same cost ends with a move that is preferred to the last one of the cheapest
path. -/
theorem rank_le_of_cost_le {m last : Move α β} {before other : List (Move α β)} (p : Path xs ys)
    (hm : (cheapest change own xs ys).moves = m :: before) (hp : p.moves = last :: other)
    (hcost : p.cost change own ≤ (cheapest change own xs ys).cost change own) :
    m.rank ≤ last.rank := by
  cases p with
  | start => cases hp
  | add y q =>
      cases hp
      rw [cheapest_eq_add q hcost] at hm
      cases hm
      exact Nat.le_refl _
  | meet x y q =>
      cases hp
      rcases cheapest_eq_add_or_meet q hcost with hadd | hmeet
      · rw [hadd] at hm
        cases hm
        exact Nat.zero_le _
      · rw [hmeet] at hm
        cases hm
        exact Nat.le_refl _
  | remove x q =>
      cases hp
      exact m.rank_le_two

/-- What the cheapest path has done at any point is the cheapest path of what it has taken. -/
theorem exists_cheapest_of_suffix {moves : List (Move α β)} (hne : moves ≠ []) (xs : List α)
    (ys : List β) (h : moves <:+ (cheapest change own xs ys).moves) :
    ∃ xs' ys', moves = (cheapest change own xs' ys').moves := by
  -- either the last cell is meant, or a cell before it
  have hstep {xs₁ xs₂ : List α} {ys₁ ys₂ : List β} {m : Move α β}
      (hlast : (cheapest change own xs₁ ys₁).moves = m :: (cheapest change own xs₂ ys₂).moves)
      (ih : moves <:+ (cheapest change own xs₂ ys₂).moves →
        ∃ xs' ys', moves = (cheapest change own xs' ys').moves)
      (h : moves <:+ (cheapest change own xs₁ ys₁).moves) :
      ∃ xs' ys', moves = (cheapest change own xs' ys').moves := by
    rw [hlast] at h
    rcases List.suffix_cons_iff.1 h with hwhole | hfront
    · exact ⟨xs₁, ys₁, hwhole.trans hlast.symm⟩
    · exact ih hfront
  match xs, ys with
  | [], [] =>
      rw [cheapest, Path.moves, List.suffix_nil] at h
      exact absurd h hne
  | [], y :: ys =>
      exact hstep (by rw [cheapest, Path.moves]) (exists_cheapest_of_suffix hne [] ys) h
  | x :: xs, [] =>
      exact hstep (by rw [cheapest, Path.moves]) (exists_cheapest_of_suffix hne xs []) h
  | x :: xs, y :: ys =>
      rcases cheapest_cons_cases change own xs ys x y with
        hadd | ⟨hmeet, -⟩ | ⟨hremove, -⟩
      · exact hstep (by rw [hadd, Path.moves]) (exists_cheapest_of_suffix hne (x :: xs) ys) h
      · exact hstep (by rw [hmeet, Path.moves]) (exists_cheapest_of_suffix hne xs ys) h
      · exact hstep (by rw [hremove, Path.moves]) (exists_cheapest_of_suffix hne xs (y :: ys)) h
termination_by xs.length + ys.length

variable (change own)

theorem cheapestMoves_cheapest (xs : List α) (ys : List β) :
    CheapestMoves change own xs.reverse ys.reverse (cheapest change own xs ys).moves.reverse where
  toAligns := (cheapest change own xs ys).aligns_moves.reverse
  le other hother := by
    have hreverse := hother.reverse
    rw [List.reverse_reverse, List.reverse_reverse] at hreverse
    obtain ⟨p, hp⟩ := exists_path hreverse
    calc totalCost change own (cheapest change own xs ys).moves.reverse
        = (cheapest change own xs ys).cost change own := by
          rw [totalCost_reverse, Path.totalCost_moves]
      _ ≤ p.cost change own := cost_cheapest_le p
      _ = totalCost change own other := by
          rw [← Path.totalCost_moves, hp, totalCost_reverse]

theorem canonical_cheapest (xs : List α) (ys : List β) :
    Canonical change own (cheapest change own xs ys).moves.reverse := by
  intro before m after hcut
  have hsuffix : m :: before.reverse <:+ (cheapest change own xs ys).moves := by
    refine ⟨after.reverse, ?_⟩
    rw [← List.reverse_reverse (cheapest change own xs ys).moves, hcut]
    simp
  obtain ⟨xs', ys', hmoves⟩ := exists_cheapest_of_suffix (List.cons_ne_nil _ _) xs ys hsuffix
  have hcheapest := cheapestMoves_cheapest change own xs' ys'
  rw [← hmoves, List.reverse_cons, List.reverse_reverse] at hcheapest
  refine ⟨xs'.reverse, ys'.reverse, hcheapest, ?_⟩
  intro other last hother
  have hreverse := hother.toAligns.reverse
  rw [List.reverse_reverse, List.reverse_reverse, List.reverse_append] at hreverse
  obtain ⟨p, hp⟩ := exists_path hreverse
  -- two cheapest alignments of the same sequences cost the same
  have hcost : p.cost change own ≤ (cheapest change own xs' ys').cost change own := by
    calc p.cost change own
        = totalCost change own (other ++ [last]) := by
          rw [← Path.totalCost_moves, hp, ← List.reverse_append, totalCost_reverse]
      _ ≤ totalCost change own (before ++ [m]) := hother.le _ hcheapest.toAligns
      _ = (cheapest change own xs' ys').cost change own := by
          rw [← totalCost_reverse, List.reverse_append, ← Path.totalCost_moves, ← hmoves]
          rfl
  exact rank_le_of_cost_le p hmoves.symm hp hcost

/-- What a path appends comes last. -/
theorem Path.exists_appended (p : Path xs ys) :
    ∃ (new : List β) (ops : List (Op α β γ)),
      p.ops change true = new.map Op.append ++ ops ∧ ∀ y, Op.append y ∉ ops := by
  induction p with
  | start => exact ⟨[], [], rfl, fun _ => List.not_mem_nil⟩
  | add y p ih =>
      obtain ⟨new, ops, hops, hnot⟩ := ih
      exact ⟨y :: new, ops, congrArg (Op.append y :: ·) hops, hnot⟩
  | remove x p ih =>
      refine ⟨[], Op.delete x :: p.ops change false, rfl, fun y hy => ?_⟩
      rcases List.mem_cons.1 hy with hy | hy
      · cases hy
      · exact p.append_not_mem_ops y hy
  | meet x y p ih =>
      exact ⟨[], (Path.meet x y p).ops change false, rfl,
        fun z => (Path.meet x y p).append_not_mem_ops z⟩

end

/-- The operations of an alignment are those of the canonical moves, and what is appended comes
last. -/
theorem exists_canonical (change : α → β → Option γ) (own : γ → Option Int) (xs : List α)
    (ys : List β) :
    ∃ moves, CheapestMoves change own xs ys moves ∧ Canonical change own moves ∧
      align change own xs ys = opsOfMoves change xs moves ∧
      ∃ (ops : List (Op α β γ)) (new : List β),
        align change own xs ys = ops ++ new.map Op.append ∧ ∀ y, Op.append y ∉ ops := by
  have hops : align change own xs ys =
      ((cheapest change own xs.reverse ys.reverse).ops change true).reverse := by
    have htable : ofChanges own (xs.map fun x => (id x, ys.map (change x))) (ys.map id) =
        (((cheapest change own xs.reverse ys.reverse).ops change true).map
          (Op.map id id)).reverse :=
      ofChanges_eq_ops_cheapest xs ys
    rw [Op.map_id, List.map_id, List.map_id] at htable
    exact htable
  have hcheapest := cheapestMoves_cheapest change own xs.reverse ys.reverse
  rw [List.reverse_reverse, List.reverse_reverse] at hcheapest
  refine ⟨_, hcheapest, canonical_cheapest change own _ _, ?_, ?_⟩
  · have hmoves :=
      (cheapest change own xs.reverse ys.reverse).opsOfMoves_moves change []
    rw [List.append_nil, List.reverse_reverse] at hmoves
    exact hops.trans hmoves.symm
  · obtain ⟨new, ops, hnew, hnot⟩ :=
      (cheapest change own xs.reverse ys.reverse).exists_appended change
    refine ⟨ops.reverse, new.reverse, ?_, fun y hy => hnot y (List.mem_reverse.1 hy)⟩
    rw [hops, hnew, List.reverse_append, List.map_reverse]

end StorageUpgrade.Alignment
