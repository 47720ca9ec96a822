import StorageUpgrade.Alignment

/-!
# What operations are made of

Whatever the changes and their costs are, the operations of an alignment add elements of the second
sequence, remove elements of the first one, and make changes that were given.  So a property of
these is one of all operations (`forall_mem_ofChanges`).  Each cell of the table has it, because a
step adds one such operation to those of a cell before it.
-/

namespace StorageUpgrade.Alignment

variable {α β γ : Type} {Q : Op α β γ → Prop} {cost : γ → Option Int}

/-- All operations of a cell satisfy `Q`. -/
def Cell.All (Q : Op α β γ → Prop) (cell : Cell α β γ) : Prop := ∀ op ∈ cell.ops, Q op

namespace Cell.All

theorem start : Cell.start.All Q := by
  intro op hop
  cases hop

theorem add {y : β} {left : Cell α β γ} (hy : Q (.insert y) ∧ Q (.append y)) (h : left.All Q)
    (last : Bool) : (left.add last y).All Q := by
  cases last with
  | true => exact List.forall_mem_cons.2 ⟨hy.2, h⟩
  | false => exact List.forall_mem_cons.2 ⟨hy.1, h⟩

theorem remove {x : α} {above : Cell α β γ} (hx : Q (.delete x)) (h : above.All Q) :
    (above.remove x).All Q :=
  List.forall_mem_cons.2 ⟨hx, h⟩

theorem meet {change : Option γ} {diagonal : Cell α β γ}
    (hchange : ∀ c, change = some c → Q (.change c)) (h : diagonal.All Q) :
    (diagonal.meet cost change).All Q := by
  cases change with
  | none => exact h
  | some c => exact List.forall_mem_cons.2 ⟨hchange c rfl, h⟩

theorem cheaper {a b : Cell α β γ} (ha : a.All Q) (hb : b.All Q) : (a.cheaper b).All Q := by
  unfold Cell.cheaper
  split
  · exact hb
  · exact ha

end Cell.All

/-! ### The table -/

theorem all_topCells {ys : List β} (hys : ∀ y ∈ ys, Q (.insert y) ∧ Q (.append y)) (last : Bool) :
    ∀ left : Cell α β γ, left.All Q → ∀ cell ∈ topCells last left ys, cell.All Q := by
  induction ys with
  | nil => exact fun _ _ _ hcell => nomatch hcell
  | cons y ys ih =>
      intro left hleft
      have hcell := hleft.add (hys y List.mem_cons_self) last
      exact List.forall_mem_cons.2
        ⟨hcell, ih (fun z hz => hys z (List.mem_cons_of_mem _ hz)) _ hcell⟩

theorem all_rowCells {x : α} (hx : Q (.delete x)) (last : Bool) (columns : List (β × Option γ))
    (hcolumns : ∀ column ∈ columns, (Q (.insert column.1) ∧ Q (.append column.1)) ∧
      ∀ c, column.2 = some c → Q (.change c)) :
    ∀ (left diagonal : Cell α β γ) (above : List (Cell α β γ)), left.All Q → diagonal.All Q →
      (∀ cell ∈ above, cell.All Q) →
        ∀ cell ∈ rowCells cost last x left diagonal above columns, cell.All Q := by
  induction columns with
  | nil =>
      intro left diagonal above _ _ _ cell hcell
      cases above <;> cases hcell
  | cons column columns ih =>
      intro left diagonal above hleft hdiagonal habove
      obtain ⟨⟨hy, hchange⟩, hrest⟩ := List.forall_mem_cons.1 hcolumns
      cases above with
      | nil => exact fun cell hcell => nomatch hcell
      | cons top above =>
          obtain ⟨htop, habove⟩ := List.forall_mem_cons.1 habove
          have hmeet : (diagonal.meet cost column.2).All Q := hdiagonal.meet hchange
          have hcell := ((hleft.add hy last).cheaper hmeet).cheaper (htop.remove hx)
          exact List.forall_mem_cons.2 ⟨hcell, ih hrest _ _ _ hcell htop habove⟩

variable {ys : List β} (hys : ∀ y ∈ ys, Q (.insert y) ∧ Q (.append y))

include hys

theorem all_nextRow {x : α} {changes : List (Option γ)} {above : List (Cell α β γ)}
    (hx : Q (.delete x)) (hchanges : ∀ c, some c ∈ changes → Q (.change c)) (last : Bool)
    (habove : ∀ cell ∈ above, cell.All Q) :
    ∀ cell ∈ nextRow cost last x above (ys.zip changes), cell.All Q := by
  cases above with
  | nil => exact fun cell hcell => nomatch hcell
  | cons corner cells =>
      obtain ⟨hcorner, hcells⟩ := List.forall_mem_cons.1 habove
      refine List.forall_mem_cons.2 ⟨hcorner.remove hx, all_rowCells hx last _ ?_ _ _ _
        (hcorner.remove hx) hcorner hcells⟩
      rintro ⟨y, change⟩ hcolumn
      obtain ⟨hy, hchange⟩ := List.of_mem_zip hcolumn
      exact ⟨hys y hy, fun c hc => hchanges c (hc ▸ hchange)⟩

theorem all_rowsBelow (rows : List (α × List (Option γ)))
    (hrows : ∀ row ∈ rows, Q (.delete row.1) ∧ ∀ c, some c ∈ row.2 → Q (.change c)) :
    ∀ above : List (Cell α β γ), (∀ cell ∈ above, cell.All Q) →
      ∀ row ∈ rowsBelow cost ys above rows, ∀ cell ∈ row, cell.All Q := by
  induction rows with
  | nil => exact fun _ _ _ hrow => nomatch hrow
  | cons row rows ih =>
      intro above habove
      obtain ⟨⟨hx, hchanges⟩, hrest⟩ := List.forall_mem_cons.1 hrows
      have hnext : ∀ cell ∈ nextRow cost rows.isEmpty row.1 above (ys.zip row.2), cell.All Q :=
        all_nextRow hys hx hchanges rows.isEmpty habove
      exact List.forall_mem_cons.2 ⟨hnext, ih hrest _ hnext⟩

/-- All operations satisfy what additions, removals and the given changes satisfy. -/
theorem forall_mem_ofChanges {rows : List (α × List (Option γ))}
    (hrows : ∀ row ∈ rows, Q (.delete row.1) ∧ ∀ c, some c ∈ row.2 → Q (.change c)) :
    ∀ op ∈ ofChanges cost rows ys, Q op := by
  have htop : ∀ cell ∈ topRow (γ := γ) rows.isEmpty ys, cell.All Q :=
    List.forall_mem_cons.2 ⟨Cell.All.start, all_topCells hys _ _ Cell.All.start⟩
  have htable : ∀ row ∈ table cost rows ys, ∀ cell ∈ row, cell.All Q :=
    List.forall_mem_cons.2 ⟨htop, all_rowsBelow hys rows hrows _ htop⟩
  have hcorner : (corner (table cost rows ys)).All Q := by
    unfold corner
    cases hlast : (table cost rows ys).getLast?.bind (·.getLast?) with
    | none => exact Cell.All.start
    | some cell =>
        obtain ⟨row, hrow, hcell⟩ := Option.bind_eq_some_iff.1 hlast
        exact htable row (List.mem_of_getLast? hrow) cell (List.mem_of_getLast? hcell)
  intro op hop
  exact hcorner op (List.mem_reverse.1 hop)

end StorageUpgrade.Alignment
