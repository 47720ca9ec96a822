import Mathlib.Data.List.Forall2
import StorageUpgrade.Json.Basic

/-!
# Readings that may fail

A document is read step by step, and each step may fail.  What a reading of several steps comes to
is known from what its steps come to.  What a document is asked for is also given without errors:
`Json.field` and `Json.fields` are empty where there is nothing to read.
-/

namespace StorageUpgrade

variable {ε α β : Type}

/-- A result of two steps comes from a result of the first. -/
theorem exists_of_bind_ok {x : Except ε α} {f : α → Except ε β} {b : β}
    (h : x >>= f = .ok b) : ∃ a, x = .ok a ∧ f a = .ok b := by
  cases x with
  | error e => cases h
  | ok a => exact ⟨a, rfl, h⟩

/-- Two steps have a result if each has one. -/
theorem exists_bind_ok {x : Except ε α} {f : α → Except ε β} (hx : ∃ a, x = .ok a)
    (hf : ∀ a, ∃ b, f a = .ok b) : ∃ b, x >>= f = .ok b := by
  obtain ⟨a, rfl⟩ := hx
  exact hf a

/-- A changed result comes from a result. -/
theorem exists_of_map_ok {x : Except ε α} {f : α → β} {b : β} (h : x.map f = .ok b) :
    ∃ a, x = .ok a ∧ f a = b := by
  cases x with
  | error e => cases h
  | ok a =>
      cases h
      exact ⟨a, rfl, rfl⟩

theorem Except.exists_of_toBool {x : Except ε α} (h : x.toBool = true) : ∃ a, x = .ok a := by
  cases x with
  | error e => cases h
  | ok a => exact ⟨a, rfl⟩

theorem forall₂_of_mapM_ok {f : α → Except ε β} {xs : List α} :
    ∀ {ys : List β}, xs.mapM f = .ok ys → List.Forall₂ (fun x y => f x = .ok y) xs ys := by
  induction xs with
  | nil =>
      intro ys h
      cases h
      exact .nil
  | cons x xs ih =>
      intro ys h
      rw [List.mapM_cons] at h
      obtain ⟨y, hx, h⟩ := exists_of_bind_ok h
      obtain ⟨rest, hxs, h⟩ := exists_of_bind_ok h
      cases h
      exact .cons hx (ih hxs)

theorem exists_mapM_ok {f : α → Except ε β} {R : α → β → Prop} {xs : List α}
    (h : ∀ x ∈ xs, ∃ y, f x = .ok y ∧ R x y) :
    ∃ ys, xs.mapM f = .ok ys ∧ List.Forall₂ R xs ys := by
  induction xs with
  | nil => exact ⟨[], rfl, .nil⟩
  | cons x xs ih =>
      obtain ⟨y, hy, hR⟩ := h x List.mem_cons_self
      obtain ⟨ys, hys, hRs⟩ := ih fun z hz => h z (List.mem_cons_of_mem _ hz)
      refine ⟨y :: ys, ?_, .cons hR hRs⟩
      rw [List.mapM_cons, hy, hys]
      rfl

/-- If each element is accepted, then so is the list. -/
theorem exists_mapM_of_forall {xs : List α} {f : α → Except ε β} (h : ∀ x ∈ xs, ∃ y, f x = .ok y) :
    ∃ ys, xs.mapM f = .ok ys ∧ List.Forall₂ (fun x y => f x = .ok y) xs ys := by
  apply exists_mapM_ok
  intro x hx
  obtain ⟨y, hy⟩ := h x hx
  exact ⟨y, hy, hy⟩

/-- A reading that only accepts accepts a list of which it accepts each element. -/
theorem forM_eq_ok {f : α → Except ε Unit} {xs : List α} (h : ∀ x ∈ xs, f x = .ok ()) :
    xs.forM f = .ok () := by
  induction xs with
  | nil => rfl
  | cons x xs ih =>
      obtain ⟨hx, hxs⟩ := List.forall_mem_cons.1 h
      change (do f x; xs.forM f) = _
      rw [hx]
      exact ih hxs

/-! ### Reading without errors -/

namespace Json

/-- The entries of an object, none for any other value. -/
def fields : Json → List (String × Json)
  | .obj es => es
  | _ => []

/-- The items of a list, none for any other value. -/
def items : Json → List Json
  | .arr xs => xs
  | _ => []

/-- A whole number, `none` for any other value. -/
def int? : Json → Option Int
  | .int n => some n
  | _ => none

/-- The entry of a key of an object, `null` if there is none. -/
def field (v : Json) (key : String) : Json := (find? key v.fields).getD .null

theorem exists_int_of_isSome {v : Json} (h : v.int?.isSome) : ∃ n, v = .int n := by
  cases v with
  | int n => exact ⟨n, rfl⟩
  | _ => cases h

theorem fields_of_entries {v : Json} {es : List (String × Json)} (h : v.entries = .ok es) :
    v.fields = es := by
  cases v <;> cases h
  rfl

theorem field_of_get {v x : Json} {key : String} (h : v.get key = .ok x) : v.field key = x := by
  cases v with
  | obj es =>
      simp only [get] at h
      split at h <;> cases h
      simp [field, fields, *]
  | _ => cases h

/-- What a lookup answers, if there is an entry or the fallback stands for none. -/
theorem field_of_lookup {v x : Json} {key : String} {fallback : Json}
    (h : v.lookup key fallback = .ok x) : v.field key = x ∨ v.field key = .null ∧ x = fallback := by
  cases v with
  | obj es =>
      cases h
      cases hf : find? key es <;> simp [field, fields, hf]
  | _ => cases h

theorem field_of_lookup_null {v x : Json} {key : String} (h : v.lookup key = .ok x) :
    v.field key = x := by
  rcases field_of_lookup h with hx | ⟨hx, rfl⟩ <;> exact hx

theorem field_of_not_contains {v : Json} {key : String} (h : v.contains key = .ok false) :
    v.field key = .null := by
  cases v with
  | obj es =>
      have hfind : find? key es = none := by simpa [contains] using h
      rw [field, fields, hfind]
      rfl
  | _ => rfl

theorem field_of_contains {v : Json} {key : String} (h : v.field key ≠ .null) :
    v.get key = .ok (v.field key) := by
  cases v with
  | obj es =>
      simp only [field, fields, get] at h ⊢
      cases hf : find? key es <;> simp [hf] at h ⊢
  | _ => exact absurd rfl h

/-- The entry of a key that is there. -/
theorem get_eq {v : Json} {key : String} (h : (v.get key).toBool = true) :
    v.get key = .ok (v.field key) := by
  obtain ⟨x, hx⟩ := Except.exists_of_toBool h
  rw [hx, field_of_get hx]

/-- A value with an entry can be asked for any key. -/
theorem lookup_eq {v : Json} {k : String} (h : (v.get k).toBool = true) (key : String) :
    v.lookup key = .ok (v.field key) := by
  cases v with
  | obj es => rfl
  | _ => cases h

theorem mem_of_find? {α : Type} {key : String} {es : List (String × α)} {v : α}
    (h : find? key es = some v) : (key, v) ∈ es := by
  obtain ⟨⟨k, w⟩, hfind, rfl⟩ := Option.map_eq_some_iff.1 h
  have hk : k = key := by simpa using List.find?_some hfind
  exact hk ▸ List.mem_of_find?_eq_some hfind

theorem not_mem_of_find?_eq_none {α : Type} {key : String} {es : List (String × α)}
    (h : find? key es = none) : key ∉ es.map (·.1) := by
  intro hmem
  obtain ⟨entry, hentry, rfl⟩ := List.mem_map.1 hmem
  simpa using List.find?_eq_none.1 (Option.map_eq_none_iff.1 h) entry hentry

/-- A new key is put at the end. -/
theorem put_of_find?_eq_none {α : Type} {key : String} {value : α} {es : List (String × α)}
    (h : Json.find? key es = none) : Json.put key value es = es ++ [(key, value)] := by
  induction es with
  | nil => rfl
  | cons e es ih =>
      obtain ⟨k, v⟩ := e
      rw [Json.find?_cons] at h
      split at h
      · cases h
      · rename_i hk
        rw [Json.put, if_neg hk, ih h]
        rfl

theorem of_mem_put {α : Type} {key : String} {value : α} {es : List (String × α)}
    {entry : String × α} (h : entry ∈ put key value es) : entry = (key, value) ∨ entry ∈ es := by
  induction es with
  | nil => exact .inl (List.mem_singleton.1 h)
  | cons e es ih =>
      rw [put] at h
      split at h <;> rcases List.mem_cons.1 h with rfl | h
      · exact .inl rfl
      · exact .inr (List.mem_cons_of_mem _ h)
      · exact .inr List.mem_cons_self
      · exact (ih h).imp_right (List.mem_cons_of_mem _)

/-- Giving a key a value adds no key that is there already. -/
theorem nodup_keys_put {α : Type} {key : String} {value : α} {es : List (String × α)}
    (h : (es.map (·.1)).Nodup) : ((put key value es).map (·.1)).Nodup := by
  induction es with
  | nil => simp [put]
  | cons e es ih =>
      obtain ⟨hnot, hes⟩ := List.nodup_cons.1 h
      rw [put]
      split
      · rename_i he
        exact List.nodup_cons.2 ⟨he ▸ hnot, hes⟩
      · rename_i he
        refine List.nodup_cons.2 ⟨fun hmem => ?_, ih hes⟩
        obtain ⟨entry, hentry, hk⟩ := List.mem_map.1 hmem
        rcases of_mem_put hentry with rfl | hentry
        · exact he hk.symm
        · exact hnot (List.mem_map.2 ⟨entry, hentry, hk⟩)

theorem find?_of_mem {α : Type} {key : String} {es : List (String × α)} {v : α}
    (hes : (es.map (·.1)).Nodup) (h : (key, v) ∈ es) : find? key es = some v := by
  induction es with
  | nil => cases h
  | cons e es ih =>
      obtain ⟨hnot, hes⟩ := List.nodup_cons.1 hes
      rcases List.mem_cons.1 h with rfl | h
      · simp [find?_cons]
      · have hne : e.1 ≠ key := by
          rintro rfl
          exact hnot (List.mem_map.2 ⟨_, h, rfl⟩)
        rw [find?_cons, if_neg hne]
        exact ih hes h

theorem field_of_mem {v x : Json} {key : String} (hv : (v.fields.map (·.1)).Nodup)
    (h : (key, x) ∈ v.fields) : v.field key = x := by
  rw [field, find?_of_mem hv h]
  rfl

theorem mem_fields_of_field_ne {v : Json} {key : String} (h : v.field key ≠ .null) :
    (key, v.field key) ∈ v.fields := by
  cases hfind : find? key v.fields with
  | none =>
      rw [field, hfind] at h
      exact absurd rfl h
  | some x =>
      rw [field, hfind]
      exact mem_of_find? hfind

theorem find?_append {α : Type} {key : String} {es es' : List (String × α)} :
    find? key (es ++ es') = (find? key es).or (find? key es') := by
  rw [find?, find?, find?, List.find?_append, Option.map_or]

/-- Changing the value of a key changes what is found for that key. -/
theorem find?_update {α : Type} {key k : String} {f : α → α} {es : List (String × α)} :
    find? key (es.map fun (l, v) => (l, if l = k then f v else v)) =
      (find? key es).map fun v => if key = k then f v else v := by
  induction es with
  | nil => rfl
  | cons e es ih =>
      obtain ⟨l, v⟩ := e
      rw [List.map_cons, find?_cons, find?_cons]
      by_cases hl : l = key
      · simp [hl]
      · simpa [hl] using ih

/-- A value that is alike a text is this text. -/
theorem eq_str_of_alike {s : String} {v : Json} (h : (str s).alike v = true) : v = .str s := by
  have hsame : (str s).same v = true := ((Bool.and_eq_true _ _).mp h).2
  cases v <;> simp_all [same, number?]

theorem eq_str_of_alike_str {s : String} {v : Json} (h : v.alike (.str s) = true) : v = .str s := by
  have hsame : v.same (.str s) = true := ((Bool.and_eq_true _ _).mp h).2
  cases v with
  | str text =>
      rw [same, beq_iff_eq] at hsame
      rw [hsame]
  | real x => cases x <;> cases hsame
  | _ => cases hsame

@[simp] theorem alike_str (s t : String) : (str s).alike (.str t) = (s == t) := by
  simp [alike, same]

/-- What a lookup in an object that may be missing answers. -/
theorem field_of_lookup_lookup {v x : Json} {key inner : String}
    (h : (v.lookup key (.obj []) >>= fun w => w.lookup inner) = .ok x) :
    (v.field key).field inner = x := by
  obtain ⟨w, hw, hx⟩ := exists_of_bind_ok h
  have hinner := field_of_lookup_null hx
  rcases field_of_lookup hw with hv | ⟨hv, rfl⟩
  · rw [hv, hinner]
  · rw [hv]
    exact hinner

end Json

/-! ### Lists that correspond item by item -/

theorem exists_right_of_mem {R : α → β → Prop} {xs : List α} {ys : List β} {x : α}
    (h : List.Forall₂ R xs ys) (hx : x ∈ xs) : ∃ y ∈ ys, R x y := by
  induction h with
  | nil => cases hx
  | cons hxy _ ih =>
      rcases List.mem_cons.1 hx with rfl | hx
      · exact ⟨_, List.mem_cons_self, hxy⟩
      · obtain ⟨y, hy, hR⟩ := ih hx
        exact ⟨y, List.mem_cons_of_mem _ hy, hR⟩

theorem exists_left_of_mem {R : α → β → Prop} {xs : List α} {ys : List β} {y : β}
    (h : List.Forall₂ R xs ys) (hy : y ∈ ys) : ∃ x ∈ xs, R x y :=
  exists_right_of_mem (R := fun y x => R x y) h.flip hy

end StorageUpgrade
