import StorageUpgrade.Ast.Index
import StorageUpgrade.Proofs.Json.Reading

/-!
# What a run over syntax trees answers

A run over syntax trees writes a log and fills a table of types, and it may fail.  Its answers do
not depend on what earlier runs have left behind, except for the table.  `Yields m a` says that `a`
is an answer of `m` in some state: this is enough wherever the table does not matter.
-/

namespace StorageUpgrade.SyntaxM

variable {α β : Type}

/-- The outcome of a run, and the state that it leaves behind. -/
def outcome (m : SyntaxM α) (s : SyntaxState) : Except Error α × SyntaxState := m.run.run s

/-! ### Outcomes of the single steps -/

@[simp] theorem outcome_pure (a : α) (s : SyntaxState) : outcome (pure a) s = (.ok a, s) := rfl

@[simp] theorem outcome_throw (e : Error) (s : SyntaxState) :
    outcome (throw e : SyntaxM α) s = (.error e, s) := rfl

@[simp] theorem outcome_get (s : SyntaxState) : outcome get s = (.ok s, s) := rfl

@[simp] theorem outcome_modify (f : SyntaxState → SyntaxState) (s : SyntaxState) :
    outcome (modify f) s = (.ok (), f s) := rfl

@[simp] theorem outcome_lift (x : Except Error α) (s : SyntaxState) :
    outcome (x : SyntaxM α) s = (x, s) := by
  cases x <;> rfl

@[simp] theorem outcome_ask (x : Except Json.Misuse α) (s : SyntaxState) :
    outcome (ask x) s = (Json.Misuse.lift x, s) := by
  cases x <;> rfl

@[simp] theorem outcome_say (topic message : String) (s : SyntaxState) :
    outcome (say topic message) s =
      (.ok (), { s with log := s.log ++ [⟨topic, Log.debug, message⟩] }) := rfl

theorem outcome_bind (m : SyntaxM α) (f : α → SyntaxM β) (s : SyntaxState) :
    outcome (m >>= f) s = match outcome m s with
      | (.ok a, t) => outcome (f a) t
      | (.error e, t) => (.error e, t) := by
  simp only [outcome, ExceptT.run_bind, StateT.run_bind]
  rcases m.run.run s with ⟨_ | _, _⟩ <;> rfl

/-! ### Answers -/

instance : Inhabited SyntaxState := ⟨{}⟩

/-- A run may answer a value. -/
def Yields (m : SyntaxM α) (a : α) : Prop := ∃ s t, outcome m s = (.ok a, t)

@[simp] theorem yields_pure {a b : α} : Yields (pure a) b ↔ b = a := by
  simp [Yields, eq_comm]

@[simp] theorem yields_throw {e : Error} {a : α} : ¬ Yields (throw e) a := by
  simp [Yields]

@[simp] theorem yields_lift {x : Except Error α} {a : α} : Yields (x : SyntaxM α) a ↔ x = .ok a := by
  simp [Yields]

@[simp] theorem yields_ask {x : Except Json.Misuse α} {a : α} : Yields (ask x) a ↔ x = .ok a := by
  cases x <;> simp [Yields, Json.Misuse.lift]

/-- A run that ends well answers something. -/
theorem exists_outcome {m : SyntaxM α} {s : SyntaxState}
    (h : (outcome m s).1.toBool = true) : ∃ a t, outcome m s = (.ok a, t) := by
  rcases hm : outcome m s with ⟨_ | a, t⟩
  · rw [hm] at h
    cases h
  · exact ⟨a, t, rfl⟩

/-- What a run answers in some state is an answer. -/
theorem exists_yields {m : SyntaxM α} {p : α → Bool} (s : SyntaxState)
    (h : (outcome m s).1.toOption.any p = true) : ∃ a, Yields m a ∧ p a = true := by
  rcases hm : outcome m s with ⟨_ | a, t⟩
  · rw [hm] at h
    cases h
  · rw [hm] at h
    exact ⟨a, ⟨s, t, hm⟩, h⟩

/-- An answer of two steps comes from an answer of the first. -/
theorem Yields.of_bind {m : SyntaxM α} {f : α → SyntaxM β} {b : β} (h : Yields (m >>= f) b) :
    ∃ a, Yields m a ∧ Yields (f a) b := by
  obtain ⟨s, t, h⟩ := h
  rw [outcome_bind] at h
  split at h
  · exact ⟨_, ⟨_, _, ‹_›⟩, ⟨_, _, h⟩⟩
  · simp at h

/-- An answer of a run that starts with a check comes from the rest of the run. -/
theorem Yields.of_check {c : Prop} [Decidable c] {e : Error} {f : β → SyntaxM α} {m : SyntaxM α}
    {a : α} (h : Yields (if c then throw e >>= f else m) a) : ¬ c ∧ Yields m a := by
  by_cases hc : c
  · rw [if_pos hc] at h
    obtain ⟨b, hb, -⟩ := h.of_bind
    exact absurd hb yields_throw
  · rw [if_neg hc] at h
    exact ⟨hc, h⟩

theorem Yields.of_mapM {f : α → SyntaxM β} {xs : List α} :
    ∀ {ys : List β}, Yields (xs.mapM f) ys → List.Forall₂ (fun x y => Yields (f x) y) xs ys := by
  induction xs with
  | nil =>
      intro ys h
      obtain rfl : ys = [] := by simpa using h
      exact .nil
  | cons x xs ih =>
      intro ys h
      rw [List.mapM_cons] at h
      obtain ⟨y, hx, h⟩ := h.of_bind
      obtain ⟨rest, hxs, h⟩ := h.of_bind
      obtain rfl := yields_pure.1 h
      exact .cons hx (ih hxs)

/-- What holds before a loop, with all values still to come, and is kept by each of its rounds, holds
in the end with none to come. -/
theorem Yields.of_foldlM {f : β → α → SyntaxM β} {I : List α → β → Prop}
    (step : ∀ {x xs b b'}, I (x :: xs) b → Yields (f b x) b' → I xs b') {xs : List α} :
    ∀ {b c : β}, Yields (xs.foldlM f b) c → I xs b → I [] c := by
  induction xs with
  | nil =>
      intro b c h hI
      obtain rfl : c = b := by simpa using h
      exact hI
  | cons x xs ih =>
      intro b c h hI
      rw [List.foldlM_cons] at h
      obtain ⟨b', hx, h⟩ := h.of_bind
      exact ih h (step hI hx)

end StorageUpgrade.SyntaxM
