import StorageUpgrade.Proofs.Json.Reading

/-!
# The first demand that is not met

A document is not checked before it is used: each step asks something of it, and what it is asked
for first in vain is the error.  So a reading is told by the list of its demands
(`FailsAtFirst`): it succeeds if they are all met, and otherwise it fails with what is wrong with
the first one that is not (`FailsAtFirst.cases`).  The list of a reading of several steps is put
together from those of the steps.
-/

namespace StorageUpgrade

variable {δ ε α β : Type} {problem? : δ → Option ε} {x : Except ε α} {demands others : List δ}

theorem ok_bind (a : α) (f : α → Except ε β) : (Except.ok a >>= f) = f a := rfl

/-- The error of a result. -/
def errorOf : Except ε α → Option ε
  | .ok _ => none
  | .error e => some e

/-- Of some demands this is the first one that is not met, and the error is what is wrong with
it. -/
def FirstUnmet (problem? : δ → Option ε) (demands : List δ) (d : δ) (e : ε) : Prop :=
  ∃ front back, demands = front ++ d :: back ∧ (∀ b ∈ front, problem? b = none) ∧
    problem? d = some e

/-- A result is an error if some demand is not met, namely what is wrong with the first of them. -/
def FailsAtFirst (problem? : δ → Option ε) (x : Except ε α) (demands : List δ) : Prop :=
  errorOf x = demands.findSome? problem?

namespace FailsAtFirst

theorem pure (a : α) : FailsAtFirst problem? (.ok a) [] := rfl

/-- A step that asks for one thing. -/
theorem single {d : δ} (h : problem? d = errorOf x) : FailsAtFirst problem? x [d] := by
  rw [FailsAtFirst, List.findSome?_singleton, h]

theorem map (h : FailsAtFirst problem? x demands) (f : α → β) :
    FailsAtFirst problem? (x.map f) demands := by
  rw [FailsAtFirst, ← h]
  cases x <;> rfl

theorem bind {f : α → Except ε β} (hx : FailsAtFirst problem? x demands)
    (hf : ∀ a, x = .ok a → FailsAtFirst problem? (f a) others) :
    FailsAtFirst problem? (x >>= f) (demands ++ others) := by
  rw [FailsAtFirst, List.findSome?_append, ← hx]
  cases x with
  | error e => rfl
  | ok a => exact hf a rfl

/-- Further steps that always succeed ask for nothing. -/
theorem bind_ok {f : α → Except ε β} (hx : FailsAtFirst problem? x demands)
    (hf : ∀ a, ∃ b, f a = .ok b) : FailsAtFirst problem? (x >>= f) demands := by
  rw [FailsAtFirst, ← hx]
  cases x with
  | error e => rfl
  | ok a =>
      obtain ⟨b, hb⟩ := hf a
      exact congrArg errorOf hb

theorem mapM {γ : Type} {f : γ → Except ε β} {each : γ → List δ} {xs : List γ}
    (h : ∀ y ∈ xs, FailsAtFirst problem? (f y) (each y)) :
    FailsAtFirst problem? (xs.mapM f) (xs.flatMap each) := by
  induction xs with
  | nil => exact .pure []
  | cons y xs ih =>
      rw [List.mapM_cons, List.flatMap_cons]
      refine (h y List.mem_cons_self).bind fun z _ => ?_
      exact (ih fun w hw => h w (List.mem_cons_of_mem _ hw)).bind_ok fun zs => ⟨z :: zs, rfl⟩

theorem forM {γ : Type} {f : γ → Except ε Unit} {each : γ → List δ} {xs : List γ}
    (h : ∀ y ∈ xs, FailsAtFirst problem? (f y) (each y)) :
    FailsAtFirst problem? (xs.forM f) (xs.flatMap each) := by
  induction xs with
  | nil => exact .pure ()
  | cons y xs ih =>
      rw [List.flatMap_cons]
      exact (h y List.mem_cons_self).bind fun _ _ =>
        ih fun w hw => h w (List.mem_cons_of_mem _ hw)

/-- Either all demands are met and there is a result, or the first one that is not met is the
error. -/
theorem cases (h : FailsAtFirst problem? x demands) :
    (∃ a, x = .ok a ∧ ∀ d ∈ demands, problem? d = none) ∨
      ∃ d e, x = .error e ∧ FirstUnmet problem? demands d e := by
  cases x with
  | ok a => exact .inl ⟨a, rfl, List.findSome?_eq_none_iff.1 h.symm⟩
  | error e =>
      obtain ⟨front, d, back, hdemands, hd, hfront⟩ := List.findSome?_eq_some_iff.1 h.symm
      exact .inr ⟨d, e, rfl, front, back, hdemands, hfront, hd⟩

end FailsAtFirst

end StorageUpgrade
