import Mathlib.Data.List.Forall2
import StorageUpgrade.Layout.TypeGraph

/-!
# Types of the same meaning

The same types may be nodes of different graphs, in which other numbers refer to them.  A relation
between the types of two graphs is a correspondence if related types have the same attributes, and
the types they are made of are related in turn.  What is computed from the one can then be computed
from the other.
-/

namespace StorageUpgrade

variable {ρ σ : Type} {r : ρ → σ → Prop}

/-- Two variables have the same attributes, and related types. -/
structure Variable.Alike (r : ρ → σ → Prop) (v : Variable ρ) (w : Variable σ) : Prop where
  attributes : v.map (fun _ => ()) = w.map fun _ => ()
  type : r v.type w.type

/-- Two types have the same attributes, and are made of related types. -/
structure TypeNode.Alike (r : ρ → σ → Prop) (n : TypeNode ρ) (m : TypeNode σ) : Prop where
  info : n.toTypeInfo = m.toTypeInfo
  args : Option.Rel (List.Forall₂ r) n.args m.args
  members : Option.Rel (List.Forall₂ (Sum.LiftRel (Variable.Alike r) Eq)) n.members m.members

/-- Related types of two graphs have the same meaning. -/
def TypeGraph.Corresponds (g h : TypeGraph) (r : g.Ref → h.Ref → Prop) : Prop :=
  ∀ ⦃a : g.Ref⦄ ⦃b : h.Ref⦄, r a b → (g.node a).Alike r (h.node b)

theorem isNone_eq_of_rel {α β : Type} {R : α → β → Prop} {x : Option α} {y : Option β}
    (h : Option.Rel R x y) : x.isNone = y.isNone := by
  cases h <;> rfl

/-- A type means the same as itself. -/
theorem TypeGraph.corresponds_eq (g : TypeGraph) : g.Corresponds g Eq := by
  rintro a _ rfl
  refine ⟨rfl, ?_, ?_⟩
  · cases (g.node a).args with
    | none => exact .none
    | some args => exact .some (List.forall₂_same.2 fun _ _ => rfl)
  · cases (g.node a).members with
    | none => exact .none
    | some members =>
        refine .some (List.forall₂_same.2 fun m _ => ?_)
        cases m with
        | inl v => exact .inl ⟨rfl, rfl⟩
        | inr name => exact .inr rfl

namespace TypeGraph.Corresponds

variable {g h : TypeGraph} {r : g.Ref → h.Ref → Prop} (hr : g.Corresponds h r)

include hr

theorem info_eq {a : g.Ref} {b : h.Ref} (hab : r a b) : g.info a = h.info b := (hr hab).info

theorem isValue_eq {a : g.Ref} {b : h.Ref} (hab : r a b) : g.isValue a = h.isValue b := by
  have hhead : (g.node a).head = (h.node b).head := congrArg TypeInfo.head (hr hab).info
  have hargs : (g.node a).args.isNone = (h.node b).args.isNone := isNone_eq_of_rel (hr hab).args
  rw [isValue, isValue, hhead, hargs]

/-- What is known of the types of two variables is the same. -/
theorem map_info_eq {v : Variable g.Ref} {w : Variable h.Ref} (hvw : v.Alike r w) :
    v.map g.info = w.map h.info := by
  have htype := hr.info_eq hvw.type
  have hattributes := hvw.attributes
  simp only [Variable.map, Variable.mk.injEq] at hattributes ⊢
  exact ⟨hattributes.1, htype, hattributes.2.2⟩

theorem map_map_info_eq {vs : List (Variable g.Ref)} {ws : List (Variable h.Ref)}
    (hvs : List.Forall₂ (Variable.Alike r) vs ws) :
    vs.map (·.map g.info) = ws.map (·.map h.info) := by
  induction hvs with
  | nil => rfl
  | cons hvw _ ih => rw [List.map_cons, List.map_cons, hr.map_info_eq hvw, ih]

end TypeGraph.Corresponds

end StorageUpgrade
