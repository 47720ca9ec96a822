import StorageUpgrade.Ast.TypeName
import StorageUpgrade.Proofs.Ast.Trees

/-!
# Runs that fill the table of types

A run that loads types only fills the table: no entry goes away or changes its label or its size, and
an entry gets members once.  What stands for a user defined value type may be set again, so a table
is filled with regard to what is `known` of the underlying types.

* `Grows`: one table comes from another one by filling it.  A property of tables is `Kept` if filling
  does not break it.
* `Loads`: under a condition on the table, a run answers with what is claimed of its answer and of the
  table, which has been filled, or it ends with an error of a certain kind.
* `Quiet`: a run answers a value and leaves the table alone.

Each of them goes through the steps that runs are made of.
-/

namespace StorageUpgrade

/-- Types by their identifiers. -/
abbrev TypeTable := List (String × TypeEntry)

/-- What is known of user defined value types: an identifier, and the identifier of the type that it
stands for. -/
abbrev KnownTypes := String → Json → Prop

variable {known : KnownTypes}

/-- An entry of a table is filled in. -/
structure TypeEntry.Filled (known : KnownTypes) (id : String) (e e' : TypeEntry) : Prop where
  label : e'.label = e.label
  numberOfBytes : e'.numberOfBytes = e.numberOfBytes
  members : e.members.isSome → e'.members = e.members
  underlying : e'.underlying = e.underlying ∨ known id e'.underlying

/-- A table of types comes from another one by filling it. -/
def Grows (known : KnownTypes) (t t' : TypeTable) : Prop :=
  ∀ id e, Json.find? id t = some e → ∃ e', Json.find? id t' = some e' ∧ e.Filled known id e'

/-- A property of tables that filling does not break. -/
def Kept (known : KnownTypes) (P : TypeTable → Prop) : Prop :=
  ∀ ⦃t t'⦄, Grows known t t' → P t → P t'

namespace Grows

theorem refl (t : TypeTable) : Grows known t t :=
  fun _ e h => ⟨e, h, ⟨rfl, rfl, fun _ => rfl, .inl rfl⟩⟩

theorem trans {t u v : TypeTable} (h : Grows known t u) (h' : Grows known u v) :
    Grows known t v := by
  intro id e he
  obtain ⟨f, hf, hef⟩ := h id e he
  obtain ⟨g, hg, hfg⟩ := h' id f hf
  refine ⟨g, hg, hfg.label.trans hef.label, hfg.numberOfBytes.trans hef.numberOfBytes, ?_, ?_⟩
  · intro hsome
    have hmembers := hef.members hsome
    rw [hfg.members (by rw [hmembers]; exact hsome), hmembers]
  · rcases hfg.underlying with hu | hu
    · rw [hu]
      exact hef.underlying
    · exact .inr hu

theorem append (t : TypeTable) (id : String) (e : TypeEntry) :
    Grows known t (t ++ [(id, e)]) := by
  intro id' e' he'
  refine ⟨e', ?_, ⟨rfl, rfl, fun _ => rfl, .inl rfl⟩⟩
  rw [Json.find?_append, he']
  rfl

/-- Changing an entry fills a table if it fills the entry. -/
theorem update {t : TypeTable} {id : String} {f : TypeEntry → TypeEntry}
    (h : ∀ e, Json.find? id t = some e → e.Filled known id (f e)) :
    Grows known t (t.map fun (i, e) => (i, if i = id then f e else e)) := by
  intro id' e he
  refine ⟨if id' = id then f e else e, by rw [Json.find?_update, he]; rfl, ?_⟩
  split
  · rename_i hid
    subst hid
    exact h e he
  · exact ⟨rfl, rfl, fun _ => rfl, .inl rfl⟩

end Grows

namespace Kept

theorem const (p : Prop) : Kept known fun _ => p := fun _ _ _ h => h

theorem and {P R : TypeTable → Prop} (hP : Kept known P) (hR : Kept known R) :
    Kept known fun t => P t ∧ R t := fun _ _ h ht => ⟨hP h ht.1, hR h ht.2⟩

theorem all {ι : Sort _} {P : ι → TypeTable → Prop} (h : ∀ i, Kept known (P i)) :
    Kept known fun t => ∀ i, P i t := fun _ _ hg ht i => h i hg (ht i)

theorem grows (t : TypeTable) : Kept known (Grows known t) := fun _ _ hg ht => ht.trans hg

theorem isKey (id : String) : Kept known fun t => (Json.find? id t).isSome := by
  intro t t' hg ht
  obtain ⟨e, he⟩ := Option.isSome_iff_exists.1 ht
  obtain ⟨e', he', -⟩ := hg id e he
  rw [he']
  rfl

end Kept

namespace SyntaxM

variable {α β : Type} {E : Error → Prop} {P S : TypeTable → Prop}

/-! ### Runs that leave the table alone -/

/-- A run answers a value, and leaves the table of types alone. -/
def Quiet (m : SyntaxM α) (a : α) : Prop := ∀ s, ∃ t, outcome m s = (.ok a, t) ∧ t.types = s.types

theorem quiet_pure (a : α) : Quiet (pure a) a := fun s => ⟨s, rfl, rfl⟩

theorem quiet_say (topic message : String) : Quiet (say topic message) () := fun _ => ⟨_, rfl, rfl⟩

theorem quiet_ask {x : Except Json.Misuse α} {a : α} (h : x = .ok a) : Quiet (ask x) a := by
  subst h
  exact fun s => ⟨s, rfl, rfl⟩

theorem quiet_lift {x : Except Error α} {a : α} (h : x = .ok a) : Quiet (x : SyntaxM α) a := by
  subst h
  exact fun s => ⟨s, rfl, rfl⟩

theorem Quiet.bind {m : SyntaxM α} {f : α → SyntaxM β} {a : α} {b : β} (h : Quiet m a)
    (hf : Quiet (f a) b) : Quiet (m >>= f) b := by
  intro s
  obtain ⟨t, ht, htypes⟩ := h s
  obtain ⟨u, hu, hutypes⟩ := hf t
  refine ⟨u, ?_, hutypes.trans htypes⟩
  rw [outcome_bind, ht]
  exact hu

theorem quiet_mapM {f : α → SyntaxM β} {xs : List α} {ys : List β}
    (h : List.Forall₂ (fun x y => Quiet (f x) y) xs ys) : Quiet (xs.mapM f) ys := by
  induction h with
  | nil => exact quiet_pure []
  | cons hx _ ih =>
      rw [List.mapM_cons]
      exact hx.bind (ih.bind (quiet_pure _))

/-! ### Runs that fill the table -/

/-- Under a condition on the table, a run fills the table and answers as claimed, or it ends with an
error of the given kind. -/
def Loads (known : KnownTypes) (E : Error → Prop) (P : TypeTable → Prop) (m : SyntaxM α)
    (Q : α → TypeTable → Prop) : Prop :=
  ∀ ⦃s x t⦄, P s.types → outcome m s = (x, t) → match x with
    | .ok a => Grows known s.types t.types ∧ Q a t.types
    | .error e => E e

variable {Q T : α → TypeTable → Prop} {R : β → TypeTable → Prop}

theorem loads_pure {a : α} (h : ∀ t, P t → Q a t) : Loads known E P (pure a) Q := by
  intro s x t hs hm
  cases hm
  exact ⟨.refl _, h _ hs⟩

theorem loads_throw {e : Error} (h : E e) : Loads known E P (throw e) Q := by
  intro s x t _ hm
  cases hm
  exact h

theorem loads_lift {x : Except Error α} (hok : ∀ a, x = .ok a → ∀ t, P t → Q a t)
    (herr : ∀ e, x = .error e → E e) : Loads known E P (x : SyntaxM α) Q := by
  intro s y t hs hm
  rw [outcome_lift] at hm
  cases hm
  cases x with
  | ok a => exact ⟨.refl _, hok a rfl _ hs⟩
  | error e => exact herr e rfl

/-- A run that changes the table by filling it. -/
theorem loads_modify {f : SyntaxState → SyntaxState} {Q : Unit → TypeTable → Prop}
    (h : ∀ s, P s.types → Grows known s.types (f s).types ∧ Q () (f s).types) :
    Loads known E P (modify f) Q := by
  intro s x t hs hm
  cases hm
  exact h s hs

theorem loads_get {Q : SyntaxState → TypeTable → Prop} (h : ∀ s, P s.types → Q s s.types) :
    Loads known E P get Q := by
  intro s x t hs hm
  cases hm
  exact ⟨.refl _, h s hs⟩

namespace Loads

theorem bind {m : SyntaxM α} {f : α → SyntaxM β} (h : Loads known E P m Q)
    (hf : ∀ a, Loads known E (Q a) (f a) R) : Loads known E P (m >>= f) R := by
  intro s x t hs hrun
  rw [outcome_bind] at hrun
  rcases hm : outcome m s with ⟨_ | a, u⟩ <;> rw [hm] at hrun
  · cases hrun
    exact h hs hm
  · obtain ⟨hgrows, hQ⟩ := h hs hm
    have hrest := hf a hQ hrun
    cases x with
    | ok b => exact ⟨hgrows.trans hrest.1, hrest.2⟩
    | error e => exact hrest

/-- Under a stronger condition. -/
theorem under {m : SyntaxM α} (h : Loads known E P m Q) (hP : ∀ t, S t → P t) :
    Loads known E S m Q := fun _ _ _ hs hm => h (hP _ hs) hm

theorem mono {m : SyntaxM α} (h : Loads known E P m Q) (hQ : ∀ a t, Q a t → T a t) :
    Loads known E P m T := by
  intro s x t hs hm
  have hrun := h hs hm
  cases x with
  | ok a => exact ⟨hrun.1, hQ a _ hrun.2⟩
  | error e => exact hrun

/-- A fact that the condition on the table implies may be used. -/
theorem of_condition {p : Prop} {m : SyntaxM α} (hp : ∀ t, P t → p)
    (h : p → Loads known E P m Q) : Loads known E P m Q :=
  fun _ _ _ hs hm => h (hp _ hs) hs hm

/-- What filling does not break holds in the end if it holds in the beginning. -/
theorem keep {m : SyntaxM α} {K : TypeTable → Prop} (h : Loads known E P m Q)
    (hK : Kept known K) : Loads known E (fun t => P t ∧ K t) m (fun a t => Q a t ∧ K t) := by
  intro s x t hs hm
  have hrun := h hs.1 hm
  cases x with
  | ok a => exact ⟨hrun.1, hrun.2, hK hrun.1 hs.2⟩
  | error e => exact hrun

/-- A run without a condition keeps what filling does not break. -/
theorem keeping {m : SyntaxM α} {K : TypeTable → Prop} (h : Loads known E (fun _ => True) m Q)
    (hK : Kept known K) : Loads known E K m (fun a t => Q a t ∧ K t) :=
  (h.keep hK).under fun _ ht => ⟨trivial, ht⟩

/-- How a run ends. -/
theorem ends {m : SyntaxM α} (h : Loads known E P m Q) {s : SyntaxState} (hs : P s.types) :
    (∃ a, (outcome m s).1 = .ok a ∧ Q a (outcome m s).2.types) ∨
      ∃ e, (outcome m s).1 = .error e ∧ E e := by
  rcases hm : outcome m s with ⟨e | a, t⟩
  · exact .inr ⟨e, rfl, h hs hm⟩
  · exact .inl ⟨a, rfl, (h hs hm).2⟩

theorem quiet_bind {m : SyntaxM α} {f : α → SyntaxM β} {a : α} (h : Quiet m a)
    (hf : Loads known E P (f a) R) : Loads known E P (m >>= f) R := by
  intro s x t hs hrun
  obtain ⟨u, hu, htypes⟩ := h s
  rw [outcome_bind, hu] at hrun
  rw [← htypes] at hs ⊢
  exact hf hs hrun

/-- Each run of a list fills the table, and what is claimed of earlier answers is kept by later
runs. -/
theorem mapM {f : α → SyntaxM β} {R : α → β → TypeTable → Prop} (hP : Kept known P)
    (hR : ∀ x y, Kept known (R x y)) {xs : List α}
    (h : ∀ x ∈ xs, Loads known E P (f x) (R x)) :
    Loads known E P (xs.mapM f) (fun ys t => List.Forall₂ (fun x y => R x y t) xs ys) := by
  induction xs with
  | nil => exact loads_pure fun _ _ => .nil
  | cons x xs ih =>
      rw [List.mapM_cons]
      have hx := ((h x List.mem_cons_self).keep hP).under (S := P) fun _ hs => ⟨hs, hs⟩
      refine hx.bind fun y => ?_
      have hxs := ((ih fun z hz => h z (List.mem_cons_of_mem _ hz)).keep (hR x y)).under
        (S := fun t => R x y t ∧ P t) fun _ hs => ⟨hs.2, hs.1⟩
      exact hxs.bind fun ys => loads_pure fun t ht => .cons ht.2 ht.1

theorem foldlM {f : β → α → SyntaxM β} {I : List α → β → TypeTable → Prop}
    (step : ∀ x xs b, Loads known E (I (x :: xs) b) (f b x) (I xs)) {xs : List α} :
    ∀ {b : β}, Loads known E (I xs b) (xs.foldlM f b) (I []) := by
  induction xs with
  | nil =>
      intro b
      exact loads_pure fun _ h => h
  | cons x xs ih =>
      intro b
      rw [List.foldlM_cons]
      exact (step x xs b).bind fun b' => ih

end Loads

end SyntaxM

/-! ### Looking nodes up -/

namespace SyntaxIndex

open SyntaxM

variable {index : SyntaxIndex} {nodes : List (Int × Json)}

theorem quiet_collected (h : index.nodes = .ok nodes) : Quiet index.collected nodes := by
  intro s
  unfold collected
  rw [h, outcome_bind, outcome_get]
  dsimp only
  split <;> exact ⟨_, rfl, rfl⟩

theorem isKey_of_find? {id v : Json} (h : find? nodes id = some v) : id.isKey = true := by
  obtain ⟨⟨n, w⟩, hfind, -⟩ := Option.map_eq_some_iff.1 h
  have hsame := List.find?_some hfind
  dsimp only at hsame
  cases id with
  | arr xs => cases hsame
  | obj es => cases hsame
  | _ => rfl

theorem quiet_deref (h : index.nodes = .ok nodes) {kinds : List String} {id v : Json}
    (hfind : find? nodes id = some v) (hkind : Ast.isOfKind kinds v = true) :
    Quiet (index.deref kinds id) v := by
  unfold deref
  refine (quiet_collected h).bind ?_
  obtain ⟨kind, hget, hkey⟩ : ∃ kind, v.get "nodeType" = .ok kind ∧ kind.isKey = true := by
    cases v with
    | obj es =>
        cases hfound : Json.find? "nodeType" es with
        | none => simp [Ast.isOfKind, Ast.kind?, hfound] at hkind
        | some kind =>
            refine ⟨kind, by simp [Json.get, hfound], ?_⟩
            cases kind <;> simp_all [Ast.isOfKind, Ast.kind?, Json.isKey]
    | _ => cases hkind
  simp only [isKey_of_find? hfind, hfind, Bool.not_true, Bool.false_eq_true, if_false]
  exact (quiet_ask hget).bind (by simpa [hkey, hkind] using quiet_pure v)

end SyntaxIndex
end StorageUpgrade
