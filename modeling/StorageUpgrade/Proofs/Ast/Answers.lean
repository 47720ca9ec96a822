import StorageUpgrade.Proofs.Ast.Loading

/-!
# Runs that answer in every state

What a run answers may depend on the table of types, and the run may fail.  `Answers m a` says that it
does neither: whatever earlier runs have left behind, the run answers `a`.  The table may be filled, so
this goes through runs that load types, in which nothing is claimed of the table.
-/

namespace StorageUpgrade.SyntaxM

variable {α β : Type} {m : SyntaxM α} {a : α}

/-- A run answers a value in every state. -/
def Answers (m : SyntaxM α) (a : α) : Prop := ∀ s, (outcome m s).1 = .ok a

theorem Quiet.answers (h : Quiet m a) : Answers m a := by
  intro s
  obtain ⟨t, ht, -⟩ := h s
  rw [ht]

theorem answers_pure (a : α) : Answers (pure a) a := fun _ => rfl

theorem answers_ask {x : Except Json.Misuse α} (h : x = .ok a) : Answers (ask x) a :=
  (quiet_ask h).answers

theorem answers_lift {x : Except Error α} (h : x = .ok a) : Answers (x : SyntaxM α) a :=
  (quiet_lift h).answers

namespace Answers

/-- A run goes on from what an earlier one answers. -/
theorem outcome_bind (h : Answers m a) (f : α → SyntaxM β) (s : SyntaxState) :
    outcome (m >>= f) s = outcome (f a) (outcome m s).2 := by
  have hs := h s
  rw [SyntaxM.outcome_bind]
  rcases hm : outcome m s with ⟨_ | b, t⟩ <;> rw [hm] at hs <;> cases hs
  rfl

theorem bind {f : α → SyntaxM β} {b : β} (h : Answers m a) (hf : Answers (f a) b) :
    Answers (m >>= f) b := by
  intro s
  rw [h.outcome_bind]
  exact hf _

theorem mapM {f : α → SyntaxM β} {g : α → β} {xs : List α} (h : ∀ x ∈ xs, Answers (f x) (g x)) :
    Answers (xs.mapM f) (xs.map g) := by
  induction xs with
  | nil => exact answers_pure []
  | cons x xs ih =>
      obtain ⟨hx, hxs⟩ := List.forall_mem_cons.1 h
      rw [List.mapM_cons]
      exact hx.bind ((ih hxs).bind (answers_pure _))

theorem foldlM {f : β → α → SyntaxM β} {g : β → α → β} {xs : List α}
    (h : ∀ b, ∀ x ∈ xs, Answers (f b x) (g b x)) (b : β) :
    Answers (xs.foldlM f b) (xs.foldl g b) := by
  induction xs generalizing b with
  | nil => exact answers_pure b
  | cons x xs ih =>
      rw [List.foldlM_cons]
      exact (h b x List.mem_cons_self).bind (ih (fun b y hy => h b y (List.mem_cons_of_mem _ hy)) _)

end Answers

end StorageUpgrade.SyntaxM
