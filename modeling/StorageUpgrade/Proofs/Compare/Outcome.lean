import StorageUpgrade.Compare.Comparator
import StorageUpgrade.Proofs.Json.Reading

/-!
# What a comparison answers

A comparison reads and changes the comparator that makes it, and it may fail.  Only the results that
the comparator remembers have a bearing on later answers, so three notions speak of them alone.

* `Ensures P m R`: if the remembered results satisfy `P` and `m` answers, then its answer satisfies
  `R`, and what is remembered then satisfies `P` again.
* `Returns P m a`: if the remembered results satisfy `P`, then `m` does answer, namely `a`, and what
  is remembered then satisfies `P` again.
* `Follows P Q m n`: whatever `m` answers under `P`, `n` answers under `Q`.

Each of them goes through the steps that comparisons are made of.
-/

namespace StorageUpgrade.Comparator

variable {α β : Type}

instance decidableEqOk {ε : Type} [DecidableEq α] (x : Except ε α) (a : α) :
    Decidable (x = .ok a) :=
  match x with
  | .ok b => decidable_of_iff (b = a) (by simp)
  | .error _ => isFalse nofun

instance decidableEqOkNone {ε : Type} (x : Except ε (Option α)) : Decidable (x = .ok none) :=
  match x with
  | .ok none => isTrue rfl
  | .ok (some _) => isFalse nofun
  | .error _ => isFalse nofun

instance decidableEqOkNil {ε : Type} (x : Except ε (List α)) : Decidable (x = .ok []) :=
  match x with
  | .ok [] => isTrue rfl
  | .ok (_ :: _) => isFalse nofun
  | .error _ => isFalse nofun

instance decidableEqOkMismatch {ε : Type} (x : Except ε (Option TypeChange)) (reason : Mismatch)
    (old updated : TypeInfo) : Decidable (x = .ok (some (.mismatch reason old updated))) :=
  match x with
  | .ok (some (.mismatch reason' old' updated')) =>
    decidable_of_iff (reason' = reason ∧ old' = old ∧ updated' = updated) (by simp)
  | .ok (some (.nested ..)) | .ok (some (.enumMembers ..)) | .ok (some (.structMembers ..))
  | .ok none | .error _ => isFalse nofun

/-- The outcome of a comparison, and the comparator that it leaves behind. -/
def outcome (m : CompareM α) (s : ComparatorState) : Except Error α × ComparatorState :=
  m.run.run s

/-- What a new comparator answers. -/
def answer (m : CompareM α) : Except Error α := (outcome m {}).1

/-- A property of remembered results. -/
abbrev MemoryProp := List (TypeKey × Option TypeChange) → Prop

/-- Nothing is asked of the remembered results. -/
def anyMemory : MemoryProp := fun _ => True

/-- Every answer of `m` satisfies `R`. -/
def Ensures (P : MemoryProp) (m : CompareM α) (R : α → Prop) : Prop :=
  ∀ ⦃s t a⦄, P s.cache → outcome m s = (.ok a, t) → P t.cache ∧ R a

/-- The answer of `m` is `a`. -/
def Returns (P : MemoryProp) (m : CompareM α) (a : α) : Prop :=
  ∀ ⦃s⦄, P s.cache → ∃ t, outcome m s = (.ok a, t) ∧ P t.cache

/-- Whatever `m` answers, `n` answers too. -/
def Follows (P Q : MemoryProp) (m n : CompareM α) : Prop := Ensures P m (Returns Q n)

/-! ### Outcomes of the single steps -/

@[simp] theorem outcome_pure (a : α) (s : ComparatorState) :
    outcome (pure a) s = (.ok a, s) := rfl

@[simp] theorem outcome_throw (e : Error) (s : ComparatorState) :
    outcome (throw e : CompareM α) s = (.error e, s) := rfl

@[simp] theorem outcome_get (s : ComparatorState) : outcome get s = (.ok s, s) := rfl

@[simp] theorem outcome_modify (f : ComparatorState → ComparatorState) (s : ComparatorState) :
    outcome (modify f) s = (.ok (), f s) := rfl

@[simp] theorem outcome_lift (x : Except Error α) (s : ComparatorState) :
    outcome (x : CompareM α) s = (x, s) := by
  cases x <;> rfl

theorem outcome_bind (m : CompareM α) (f : α → CompareM β) (s : ComparatorState) :
    outcome (m >>= f) s = match outcome m s with
      | (.ok a, t) => outcome (f a) t
      | (.error e, t) => (.error e, t) := by
  simp only [outcome, ExceptT.run_bind, StateT.run_bind]
  rcases m.run.run s with ⟨_ | _, _⟩ <;> rfl

/-- An answer of two steps comes from an answer of the first. -/
theorem exists_of_outcome_bind {m : CompareM α} {f : α → CompareM β} {s t : ComparatorState}
    {b : β} (h : outcome (m >>= f) s = (.ok b, t)) :
    ∃ a u, outcome m s = (.ok a, u) ∧ outcome (f a) u = (.ok b, t) := by
  rw [outcome_bind] at h
  split at h
  · exact ⟨_, _, ‹_›, h⟩
  · simp at h

theorem outcome_bind_of_ok {m : CompareM α} (f : α → CompareM β) {s t : ComparatorState} {a : α}
    (h : outcome m s = (.ok a, t)) : outcome (m >>= f) s = outcome (f a) t := by
  rw [outcome_bind, h]

/-- A tracked comparison has the outcome of the comparison itself, and its key is listed no longer
when it ends, by an answer or by an error. -/
theorem outcome_tracking (key : TypeKey) (m : CompareM α) (s : ComparatorState) :
    outcome (tracking key m) s =
      match outcome m { s with inProgress := key :: s.inProgress } with
      | (x, t) => (x, { t with inProgress := t.inProgress.erase key }) := by
  have hstart : outcome (tracking key m) s = outcome
      (tryFinally m (modify fun t => { t with inProgress := t.inProgress.erase key }))
      { s with inProgress := key :: s.inProgress } := rfl
  rw [hstart]
  generalize { s with inProgress := key :: s.inProgress } = u
  unfold outcome
  rcases hm : m u with ⟨_ | _, t⟩ <;>
    simp [tryFinally, tryFinally', ExceptT.run, StateT.run, ExceptT.mk, ExceptT.map, StateT.bind,
      bind, Functor.map, hm] <;> rfl

variable {P Q : MemoryProp}

/-! ### Answers that satisfy a property -/

theorem Ensures.mono {m : CompareM α} {R R' : α → Prop} (h : Ensures P m R)
    (himp : ∀ a, R a → R' a) : Ensures P m R' := fun _ _ a hP hm =>
  ⟨(h hP hm).1, himp a (h hP hm).2⟩

/-- A new comparator remembers nothing. -/
theorem Ensures.of_answer {m : CompareM α} {R : α → Prop} {a : α} (h : Ensures P m R) (hnil : P [])
    (ha : answer m = .ok a) : R a :=
  (h (s := {}) (t := (outcome m {}).2) hnil (Prod.ext ha rfl)).2

theorem Ensures.pure {a : α} {R : α → Prop} (h : R a) : Ensures P (pure a) R := by
  rintro s t b hP hm
  obtain ⟨rfl, rfl⟩ : a = b ∧ s = t := by simpa using hm
  exact ⟨hP, h⟩

theorem Ensures.throw {e : Error} {R : α → Prop} : Ensures P (throw e) R := by
  rintro s t b - hm
  simp at hm

theorem Ensures.bind {m : CompareM α} {f : α → CompareM β} {R : α → Prop} {R' : β → Prop}
    (hm : Ensures P m R) (hf : ∀ a, R a → Ensures P (f a) R') : Ensures P (m >>= f) R' := by
  rintro s t b hP h
  obtain ⟨a, u, ha, hb⟩ := exists_of_outcome_bind h
  obtain ⟨hu, hR⟩ := hm hP ha
  exact hf a hR hu hb

theorem Ensures.lift {x : Except Error α} {R : α → Prop} (h : ∀ a, x = .ok a → R a) :
    Ensures P (x : CompareM α) R := by
  rintro s t a hP hm
  obtain ⟨hx, rfl⟩ : x = .ok a ∧ s = t := by simpa using hm
  exact ⟨hP, h a hx⟩

theorem Ensures.say (level : Log.Level) (message : String) :
    Ensures P (say level message) fun _ => True := by
  rintro s t a hP hm
  cases hm
  exact ⟨hP, trivial⟩

theorem Ensures.tracking {key : TypeKey} {m : CompareM α} {R : α → Prop} (h : Ensures P m R) :
    Ensures P (tracking key m) R := by
  rintro s t a hP hm
  rw [outcome_tracking] at hm
  cases hu : outcome m { s with inProgress := key :: s.inProgress } with
  | mk x u =>
      rw [hu] at hm
      obtain ⟨rfl, rfl⟩ := Prod.mk.inj hm
      exact h (s := { s with inProgress := key :: s.inProgress }) (t := u) hP hu

theorem Ensures.mapM {f : α → CompareM β} {R : α → β → Prop} (xs : List α)
    (h : ∀ x ∈ xs, Ensures P (f x) (R x)) : Ensures P (xs.mapM f) (List.Forall₂ R xs) := by
  induction xs with
  | nil => exact Ensures.pure .nil
  | cons x xs ih =>
      rw [List.mapM_cons]
      refine (h x List.mem_cons_self).bind fun b hb => ?_
      refine (ih fun z hz => h z (List.mem_cons_of_mem _ hz)).bind fun bs hbs => ?_
      exact Ensures.pure (.cons hb hbs)

/-! ### Answers that are known -/

theorem Returns.pure (a : α) : Returns P (pure a) a := fun s hP => ⟨s, rfl, hP⟩

theorem Returns.bind {m : CompareM α} {f : α → CompareM β} {a : α} {b : β}
    (hm : Returns P m a) (hf : Returns P (f a) b) : Returns P (m >>= f) b := by
  intro s hP
  obtain ⟨t, ht, hPt⟩ := hm hP
  obtain ⟨u, hu, hPu⟩ := hf hPt
  exact ⟨u, (outcome_bind_of_ok f ht).trans hu, hPu⟩

theorem Returns.lift {x : Except Error α} {a : α} (h : x = .ok a) :
    Returns P (x : CompareM α) a := fun s hP => ⟨s, by rw [outcome_lift, h], hP⟩

theorem Returns.say (level : Log.Level) (message : String) : Returns P (say level message) () :=
  fun _ hP => ⟨_, rfl, hP⟩

theorem Returns.tracking {key : TypeKey} {m : CompareM α} {a : α} (h : Returns P m a) :
    Returns P (tracking key m) a := by
  intro s hP
  obtain ⟨t, ht, hPt⟩ := h (s := { s with inProgress := key :: s.inProgress }) hP
  exact ⟨{ t with inProgress := t.inProgress.erase key }, by rw [outcome_tracking, ht], hPt⟩

theorem Returns.mapM {f : α → CompareM β} {xs : List α} {bs : List β}
    (h : List.Forall₂ (fun x b => Returns P (f x) b) xs bs) : Returns P (xs.mapM f) bs := by
  induction h with
  | nil => exact Returns.pure []
  | cons hb _ ih =>
      rw [List.mapM_cons]
      exact hb.bind (ih.bind (Returns.pure _))

theorem Returns.answer_eq {m : CompareM α} {a : α} (h : Returns P m a) (hnil : P []) :
    answer m = .ok a := by
  obtain ⟨t, ht, -⟩ := h (s := {}) hnil
  rw [answer, ht]

/-- Answers under the same memory agree. -/
theorem Returns.eq {m : CompareM α} {a b : α} (ha : Returns P m a) {s t : ComparatorState}
    (hP : P s.cache) (hb : outcome m s = (.ok b, t)) : b = a := by
  obtain ⟨u, hu, -⟩ := ha hP
  rw [hu] at hb
  simpa using (congrArg Prod.fst hb).symm

theorem Returns.unique {m : CompareM α} {a b : α} {s : ComparatorState} (hP : P s.cache)
    (ha : Returns P m a) (hb : Returns P m b) : a = b := by
  obtain ⟨t, ht, -⟩ := ha hP
  exact hb.eq hP ht

/-! ### One comparison after another -/

theorem Follows.pure (a : α) : Follows P Q (pure a) (pure a) := Ensures.pure (Returns.pure a)

theorem Follows.throw (e : Error) : Follows P Q (throw e : CompareM α) (throw e) := Ensures.throw

theorem Follows.bind {m n : CompareM α} {f g : α → CompareM β} (hmn : Follows P Q m n)
    (hfg : ∀ a, Follows P Q (f a) (g a)) : Follows P Q (m >>= f) (n >>= g) :=
  Ensures.bind hmn fun a ha => (hfg a).mono fun _ hb => ha.bind hb

end StorageUpgrade.Comparator
