/-!
# Alignment of two sequences

An alignment turns a sequence into another one by cheapest operations.  Two elements can be matched
without a change at no cost, or with a change at the cost of the change; an element can be inserted
or deleted at cost 2.  An element that is added behind everything else is appended, which costs as
much as an insertion.

The table of the alignment has a row for each prefix of the first sequence and a column for each
prefix of the second.  A cell holds the operations of its alignment, last one first; a row is built
from the one above it.  Of equally cheap steps an insertion comes before a match or a change, and a
deletion comes last.
-/

namespace StorageUpgrade
namespace Alignment

/-- An operation that turns a sequence of `α` into one of `β`, where `γ` is a change of an
element. -/
inductive Op (α β γ : Type) where
  | insert (updated : β)
  | append (updated : β)
  | delete (old : α)
  | change (change : γ)
deriving DecidableEq, Repr

/-- The cost of adding an element. -/
def insertionCost : Int := 2

/-- The cost of removing an element. -/
def deletionCost : Int := 2

/-- The cost of a change that has none of its own. -/
def changeCost : Int := 3

/-- The last step of an alignment; `start` is the alignment of two empty sequences. -/
inductive Step where
  | start
  | insert
  | append
  | delete
  | keep
  | change
deriving DecidableEq, Repr

/-- The cheapest alignment of two prefixes: its last step, its cost, and its operations, last one
first. -/
structure Cell (α β γ : Type) where
  step : Step
  cost : Int
  ops : List (Op α β γ)
deriving Repr

section

variable {α β γ : Type}

/-- The alignment of two empty prefixes. -/
def Cell.start : Cell α β γ := ⟨.start, 0, []⟩

/-- Adds an element; `last` says that all of the first sequence is used up. -/
def Cell.add (last : Bool) (y : β) (left : Cell α β γ) : Cell α β γ :=
  if last then ⟨.append, left.cost + insertionCost, .append y :: left.ops⟩
  else ⟨.insert, left.cost + insertionCost, .insert y :: left.ops⟩

/-- Removes an element. -/
def Cell.remove (x : α) (above : Cell α β γ) : Cell α β γ :=
  ⟨.delete, above.cost + deletionCost, .delete x :: above.ops⟩

/-- Matches two elements, with a change or without one. -/
def Cell.meet (cost : γ → Option Int) (change : Option γ) (diagonal : Cell α β γ) : Cell α β γ :=
  match change with
  | none => ⟨.keep, diagonal.cost, diagonal.ops⟩
  | some c => ⟨.change, diagonal.cost + (cost c).getD changeCost, .change c :: diagonal.ops⟩

/-- The second cell if it is cheaper, and the first one otherwise. -/
def Cell.cheaper (a b : Cell α β γ) : Cell α β γ := if b.cost < a.cost then b else a

/-- The cells of the top row behind `left`, for the elements that are added. -/
def topCells (last : Bool) (left : Cell α β γ) : List β → List (Cell α β γ)
  | [] => []
  | y :: ys => left.add last y :: topCells last (left.add last y) ys

/-- The top row. -/
def topRow (last : Bool) (ys : List β) : List (Cell α β γ) :=
  .start :: topCells last .start ys

/-- The cells of the row of `x` behind `left`; `diagonal` stands above `left`, and the cells above
the new ones follow, each with the element of its column and the change of `x` to it. -/
def rowCells (cost : γ → Option Int) (last : Bool) (x : α) (left diagonal : Cell α β γ) :
    List (Cell α β γ) → List (β × Option γ) → List (Cell α β γ)
  | above :: cells, (y, change) :: columns =>
    let cell := ((left.add last y).cheaper (diagonal.meet cost change)).cheaper (above.remove x)
    cell :: rowCells cost last x cell above cells columns
  | _, _ => []

/-- The row of `x` below another row. -/
def nextRow (cost : γ → Option Int) (last : Bool) (x : α) (above : List (Cell α β γ))
    (columns : List (β × Option γ)) : List (Cell α β γ) :=
  match above with
  | [] => []
  | corner :: cells =>
    corner.remove x :: rowCells cost last x (corner.remove x) corner cells columns

/-- The rows below a row, one for each element of the first sequence with its changes. -/
def rowsBelow (cost : γ → Option Int) (ys : List β) (above : List (Cell α β γ)) :
    List (α × List (Option γ)) → List (List (Cell α β γ))
  | [] => []
  | (x, changes) :: rows =>
    let row := nextRow cost rows.isEmpty x above (ys.zip changes)
    row :: rowsBelow cost ys row rows

/-- The table of the alignment, given the change of each element of the first sequence to each of
the second. -/
def table (cost : γ → Option Int) (rows : List (α × List (Option γ))) (ys : List β) :
    List (List (Cell α β γ)) :=
  topRow rows.isEmpty ys :: rowsBelow cost ys (topRow rows.isEmpty ys) rows

/-- The last cell of the last row. -/
def corner (rows : List (List (Cell α β γ))) : Cell α β γ :=
  ((rows.getLast?.bind (·.getLast?))).getD .start

/-- The cheapest operations that turn the first sequence into the second, given the changes of their
elements. -/
def ofChanges (cost : γ → Option Int) (rows : List (α × List (Option γ))) (ys : List β) :
    List (Op α β γ) :=
  (corner (table cost rows ys)).ops.reverse

/-- The first sequence with the changes of its elements to those of the second. -/
def changesOf (change : α → β → Option γ) (xs : List α) (ys : List β) :
    List (α × List (Option γ)) :=
  xs.map fun x => (x, ys.map (change x))

/-- The cheapest operations that turn a sequence into another one. -/
def align (change : α → β → Option γ) (cost : γ → Option Int) (xs : List α) (ys : List β) :
    List (Op α β γ) :=
  ofChanges cost (changesOf change xs ys) ys

end

namespace Op

variable {α β γ : Type}

/-- Whether an operation adds an element behind everything else. -/
def isAppend : Op α β γ → Bool
  | append _ => true
  | _ => false

end Op

end Alignment
end StorageUpgrade
