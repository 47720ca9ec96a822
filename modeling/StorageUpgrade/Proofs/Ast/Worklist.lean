import Mathlib.Data.List.Perm.Subperm
import StorageUpgrade.Proofs.Ast.TypeNames

/-!
# Loading a type with all types that it refers to

A type name is loaded together with the type names that are reached from it: those inside it, and
those inside the definitions of the structs, enums and user defined value types that they refer to
(`Reaches`).  Definitions may refer back to themselves, so each encoded identifier is loaded once.

## Strategy

* Adding the type names of a tree to what is pending (`putAll`) adds those whose identifier is new,
  each to the identifiers seen and to the queue.
* While types are loaded, each identifier seen is that of a type name which waits in the queue, or
  which is entered in the table and whose definition has all its type names seen (`Tracked`).
* A step takes one type name from the queue, and no identifier is seen twice.  So the number of steps
  is bounded by the number of nodes, and the queue is empty when the steps are used up.
-/

namespace StorageUpgrade
namespace Ast

open SyntaxM

variable {known : KnownTypes} {index : SyntaxIndex} {pool : List Json} {E : Error → Prop}

/-! ### Pending type names -/

/-- Adds a type name unless its identifier was met before. -/
def Pending.put (p : Pending) (v : Json) : Pending :=
  if p.seen.contains (rawId v) then p else ⟨p.seen ++ [rawId v], p.queue ++ [v]⟩

/-- Adds some type names. -/
def Pending.putAll (p : Pending) (vs : List Json) : Pending := vs.foldl Pending.put p

theorem Pending.add_eq {p : Pending} {v : Json} (h : (describe v).toBool = true) :
    p.add v = .ok (p.put v) := by
  cases hv : describe v with
  | error e =>
      rw [hv] at h
      cases h
  | ok d =>
      obtain ⟨id, text⟩ := d
      rw [Pending.add, hv, Pending.put, rawId_eq hv]
      rfl

theorem Pending.foldlM_add_eq {vs : List Json} : ∀ {p : Pending},
    (∀ v ∈ vs, (describe v).toBool = true) → vs.foldlM Pending.add p = .ok (p.putAll vs) := by
  induction vs with
  | nil => intro p _; rfl
  | cons v vs ih =>
      intro p h
      rw [List.foldlM_cons, Pending.add_eq (h v List.mem_cons_self)]
      exact ih fun w hw => h w (List.mem_cons_of_mem _ hw)

theorem Pending.addAll_eq {p : Pending} {root : Json}
    (hkinds : ∀ v ∈ nodes (fun _ => false) root, hasCompositeKind v = false)
    (h : ∀ v ∈ typeNames root, (describe v).toBool = true) :
    p.addAll root = .ok (p.putAll (typeNames root)) := by
  have hfold : ((nodes (fun _ => false) root).filter (isOfKind typeNameKinds)).foldlM
      Pending.add p = .ok (p.putAll (typeNames root)) := Pending.foldlM_add_eq h
  rw [Pending.addAll, find_eq hkinds]
  dsimp only
  rw [hfold]
  rfl

/-- Adding type names adds the new ones among them, each to the identifiers seen and to the queue, and
all their identifiers are seen then. -/
theorem Pending.putAll_spec (vs : List Json) : ∀ (p : Pending),
    ∃ fresh, p.putAll vs = ⟨p.seen ++ fresh.map rawId, p.queue ++ fresh⟩ ∧
      (∀ v ∈ fresh, v ∈ vs) ∧ (∀ v ∈ vs, rawId v ∈ (p.putAll vs).seen) ∧
      (p.seen.Nodup → (p.putAll vs).seen.Nodup) := by
  induction vs with
  | nil => exact fun p => ⟨[], by simp [Pending.putAll], nofun, nofun, fun h => h⟩
  | cons v vs ih =>
      intro p
      obtain ⟨fresh, heq, hsub, hseen, hnodup⟩ := ih (p.put v)
      have hstep : p.putAll (v :: vs) = (p.put v).putAll vs := rfl
      rw [hstep]
      by_cases hv : rawId v ∈ p.seen
      · have hput : p.put v = p := by simp [Pending.put, hv]
        rw [hput] at heq hseen hnodup ⊢
        refine ⟨fresh, heq, fun w hw => List.mem_cons_of_mem _ (hsub w hw), ?_, hnodup⟩
        intro w hw
        rcases List.mem_cons.1 hw with rfl | hw
        · rw [heq]
          exact List.mem_append_left _ hv
        · exact hseen w hw
      · have hput : p.put v = ⟨p.seen ++ [rawId v], p.queue ++ [v]⟩ := by simp [Pending.put, hv]
        rw [hput] at heq hseen hnodup ⊢
        refine ⟨v :: fresh, by simp [heq], ?_, ?_, fun h => hnodup ?_⟩
        · intro w hw
          rcases List.mem_cons.1 hw with rfl | hw
          · exact List.mem_cons_self
          · exact List.mem_cons_of_mem _ (hsub w hw)
        · intro w hw
          rcases List.mem_cons.1 hw with rfl | hw
          · rw [heq]
            simp
          · exact hseen w hw
        · refine List.nodup_append.2 ⟨h, List.nodup_singleton _, fun raw hraw other hother => ?_⟩
          obtain rfl := List.mem_singleton.1 hother
          exact ne_of_mem_of_not_mem hraw hv

/-- The type names of a tree can be added. -/
theorem Setting.addAll_eq (hs : Setting known index pool) {root : Json} (hroot : root ∈ pool)
    {p : Pending} : p.addAll root = .ok (p.putAll (typeNames root)) := by
  refine Pending.addAll_eq (fun v hv => ?_) fun v hv => ?_
  · obtain ⟨hnode, hwithin⟩ := mem_nodes_iff.1 hv
    exact hs.resolve.kinds v (hs.spans.within root hroot v hnode hwithin)
  · obtain ⟨hpool, hkind⟩ := mem_of_mem_typeNames hs.spans hroot hv
    exact (hs.resolve.loadable v hpool hkind).described

/-! ### The worklist -/

/-- While types are loaded, each identifier seen is that of a type name which is in the queue, or which
is entered and whose definition has only type names with identifiers seen. -/
structure Tracked (index : SyntaxIndex) (pool : List Json) (p : Pending) (t : TypeTable) : Prop where
  nodup : p.seen.Nodup
  queue : ∀ v ∈ p.queue, v ∈ pool ∧ isOfKind typeNameKinds v = true
  seen : ∀ raw ∈ p.seen, ∃ v ∈ pool, isOfKind typeNameKinds v = true ∧ rawId v = raw ∧
    (v ∈ p.queue ∨ Entered index v t ∧
      ∀ d, definition? index v = some d → ∀ w ∈ typeNames d, rawId w ∈ p.seen)

theorem Setting.kept_tracked (hs : Setting known index pool) (p : Pending) :
    Kept known (Tracked index pool p) := by
  intro t t' hgrows h
  refine ⟨h.nodup, h.queue, fun raw hraw => ?_⟩
  obtain ⟨v, hv, hkind, hid, hcase⟩ := h.seen raw hraw
  refine ⟨v, hv, hkind, hid, hcase.imp_right fun ⟨hentered, hd⟩ => ⟨?_, hd⟩⟩
  exact hs.kept_entered hv hkind hgrows hentered

/-- Type names that are added wait in the queue. -/
theorem Tracked.putAll {p : Pending} {t : TypeTable} (h : Tracked index pool p t) {vs : List Json}
    (hvs : ∀ v ∈ vs, v ∈ pool ∧ isOfKind typeNameKinds v = true) :
    Tracked index pool (p.putAll vs) t := by
  obtain ⟨fresh, heq, hsub, -, hnodup⟩ := Pending.putAll_spec vs p
  refine ⟨hnodup h.nodup, ?_, ?_⟩
  · rw [heq]
    intro v hv
    rcases List.mem_append.1 hv with hv | hv
    · exact h.queue v hv
    · exact hvs v (hsub v hv)
  · rw [heq]
    intro raw hraw
    rcases List.mem_append.1 hraw with hraw | hraw
    · obtain ⟨v, hv, hkind, hid, hcase⟩ := h.seen raw hraw
      refine ⟨v, hv, hkind, hid, hcase.imp (List.mem_append_left _) fun ⟨hentered, hd⟩ => ?_⟩
      exact ⟨hentered, fun d hdef w hw => List.mem_append_left _ (hd d hdef w hw)⟩
    · obtain ⟨v, hv, rfl⟩ := List.mem_map.1 hraw
      obtain ⟨hpool, hkind⟩ := hvs v (hsub v hv)
      exact ⟨v, hpool, hkind, rfl, .inl (List.mem_append_right _ hv)⟩

/-- What is added does not depend on what waits in the queue. -/
theorem Pending.putAll_cons {v : Json} {vs : List Json} : ∀ (seen : List String) (queue : List Json),
    Pending.putAll ⟨seen, v :: queue⟩ vs =
      ⟨(Pending.putAll ⟨seen, queue⟩ vs).seen, v :: (Pending.putAll ⟨seen, queue⟩ vs).queue⟩ := by
  induction vs with
  | nil => intro seen queue; rfl
  | cons w vs ih =>
      intro seen queue
      have hstep : ∀ p : Pending, p.putAll (w :: vs) = (p.put w).putAll vs := fun _ => rfl
      rw [hstep, hstep]
      by_cases hw : rawId w ∈ seen
      · simpa [Pending.put, hw] using ih seen queue
      · simpa [Pending.put, hw] using ih (seen ++ [rawId w]) (queue ++ [w])

/-- A type name leaves the queue when it is entered and the type names of its definition are seen. -/
theorem Tracked.pop {v : Json} {queue : List Json} {seen : List String} {t : TypeTable}
    (h : Tracked index pool ⟨seen, v :: queue⟩ t) (hentered : Entered index v t)
    (hd : ∀ d, definition? index v = some d → ∀ w ∈ typeNames d, rawId w ∈ seen) :
    Tracked index pool ⟨seen, queue⟩ t := by
  refine ⟨h.nodup, fun w hw => h.queue w (List.mem_cons_of_mem _ hw), fun raw hraw => ?_⟩
  obtain ⟨w, hw, hkind, hid, hcase⟩ := h.seen raw hraw
  refine ⟨w, hw, hkind, hid, ?_⟩
  rcases hcase with hqueue | hcase
  · rcases List.mem_cons.1 hqueue with rfl | hqueue
    · exact .inr ⟨hentered, hd⟩
    · exact .inl hqueue
  · exact .inr hcase

/-- As many steps as there are nodes are enough to empty the queue. -/
theorem Tracked.queue_eq_nil {p : Pending} {t : TypeTable} (h : Tracked index pool p t)
    (hsteps : pool.length + p.queue.length ≤ p.seen.length) : p.queue = [] := by
  have hsub : p.seen ⊆ pool.map rawId := by
    intro raw hraw
    obtain ⟨v, hv, -, rfl, -⟩ := h.seen raw hraw
    exact List.mem_map_of_mem hv
  have hlength : p.seen.length ≤ pool.length := by
    simpa using (List.subperm_of_subset h.nodup hsub).length_le
  exact List.length_eq_zero_iff.1 (by omega)

theorem length_putAll (p : Pending) (vs : List Json) :
    (p.putAll vs).seen.length + p.queue.length = p.seen.length + (p.putAll vs).queue.length := by
  obtain ⟨fresh, heq, -⟩ := Pending.putAll_spec vs p
  rw [heq]
  simp
  omega

/-- Loading what is pending leaves nothing in the queue. -/
theorem Setting.loads_loadPending (hs : Setting known index pool) {steps : Nat} : ∀ {p : Pending},
    pool.length + p.queue.length ≤ steps + p.seen.length →
      Loads known E (Tracked index pool p) (loadPending index steps p)
        fun _ t => ∃ seen, (∀ raw ∈ p.seen, raw ∈ seen) ∧ Tracked index pool ⟨seen, []⟩ t := by
  induction steps with
  | zero =>
      intro p hsteps
      refine loads_pure fun t ht => ⟨p.seen, fun _ h => h, ?_⟩
      have hqueue := ht.queue_eq_nil (by omega)
      obtain ⟨seen, queue⟩ := p
      exact hqueue ▸ ht
  | succ steps ih =>
      intro p hsteps
      obtain ⟨seen, queue⟩ := p
      cases queue with
      | nil => exact loads_pure fun t ht => ⟨seen, fun _ h => h, ht⟩
      | cons v queue =>
          refine .of_condition (fun t ht => ht.queue v List.mem_cons_self) fun ⟨hv, hkind⟩ => ?_
          have hnode := (hs.loads_loadNode (E := E) hv hkind).keeping
            (hs.kept_tracked ⟨seen, v :: queue⟩)
          unfold loadPending
          refine hnode.bind fun found => .of_condition (fun t ht => ht.1.1) fun hfound => ?_
          subst hfound
          split
          · rename_i hnone
            refine (ih (p := ⟨seen, queue⟩) ?_).under fun t ht => ?_
            · simp only [List.length_cons] at hsteps ⊢
              omega
            · exact ht.2.pop ht.1.2 fun d hd => by rw [hnone] at hd; cases hd
          · rename_i d hd
            have hpool := mem_of_definition? hs.spans hd
            have hnames : ∀ w ∈ typeNames d, w ∈ pool ∧ isOfKind typeNameKinds w = true :=
              fun w hw => mem_of_mem_typeNames hs.spans hpool hw
            refine .quiet_bind (quiet_lift (hs.addAll_eq hpool)) ?_
            obtain ⟨fresh, heq, -, hall, -⟩ := Pending.putAll_spec (typeNames d) ⟨seen, queue⟩
            have hlength := length_putAll ⟨seen, queue⟩ (typeNames d)
            refine ((ih (p := Pending.putAll ⟨seen, queue⟩ (typeNames d)) ?_).under
              fun t ht => ?_).mono fun _ t ⟨seen', hsub, h⟩ => ⟨seen', fun raw hraw => hsub raw ?_, h⟩
            · simp only [List.length_cons] at hsteps hlength
              omega
            · have hadded := ht.2.putAll hnames
              rw [Pending.putAll_cons] at hadded
              refine hadded.pop ht.1.2 fun d' hd' w hw => hall w ?_
              obtain rfl := Option.some.inj (hd.symm.trans hd')
              exact hw
            · rw [heq]
              exact List.mem_append_left _ hraw

/-! ### Loading a type -/

theorem mem_of_reaches (hspans : index.Spans pool) {root v : Json} (hroot : root ∈ pool)
    (h : Reaches index root v) : v ∈ pool ∧ isOfKind typeNameKinds v = true := by
  cases h with
  | inside hv => exact mem_of_mem_typeNames hspans hroot hv
  | through _ hd hw => exact mem_of_mem_typeNames hspans (mem_of_definition? hspans hd) hw

/-- A type name is loaded: all type names that are reached from it are entered in the table. -/
def Loaded (index : SyntaxIndex) (root : Json) (t : TypeTable) : Prop :=
  ∀ v, Reaches index root v → Entered index v t

theorem Setting.kept_loaded (hs : Setting known index pool) {root : Json} (hroot : root ∈ pool) :
    Kept known (Loaded index root) := by
  intro t t' hgrows h v hv
  obtain ⟨hpool, hkind⟩ := mem_of_reaches hs.spans hroot hv
  exact hs.kept_entered hpool hkind hgrows (h v hv)

theorem Setting.definition?_eq (hs : Setting known index pool) {v w : Json} (hv : v ∈ pool)
    (hw : w ∈ pool) (hkind : isOfKind typeNameKinds v = true)
    (hkind' : isOfKind typeNameKinds w = true) (hid : rawId v = rawId w) :
    definition? index v = definition? index w :=
  hs.resolve.identified v hv w hw hkind hkind' (congrArg TypeId.normalize hid)

/-- With an empty queue, the identifiers of all type names that are reached have been seen. -/
theorem Setting.seen_of_reaches (hs : Setting known index pool) {seen : List String}
    {t : TypeTable} (h : Tracked index pool ⟨seen, []⟩ t) {root v : Json} (hroot : root ∈ pool)
    (hseen : ∀ w ∈ typeNames root, rawId w ∈ seen) (hv : Reaches index root v) :
    v ∈ pool ∧ isOfKind typeNameKinds v = true ∧ rawId v ∈ seen := by
  obtain ⟨hpool, hkind⟩ := mem_of_reaches hs.spans hroot hv
  refine ⟨hpool, hkind, ?_⟩
  clear hpool hkind
  induction hv with
  | inside hv => exact hseen _ hv
  | @through v d w hv hd hw ih =>
      obtain ⟨hpool, hkind⟩ := mem_of_reaches hs.spans hroot hv
      obtain ⟨u, hu, hukind, hid, hcase⟩ := h.seen _ ih
      obtain ⟨-, hnames⟩ := hcase.resolve_left List.not_mem_nil
      exact hnames d ((hs.definition?_eq hu hpool hukind hkind hid).trans hd) w hw

/-- Loading a type name enters all type names that are reached from it. -/
theorem Setting.loads_loadType (hs : Setting known index pool) {root : Json} (hroot : root ∈ pool)
    (hnode : isNode root = true) :
    Loads known E (fun _ => True) (loadType index root)
      fun _ t => Loaded index root t := by
  have hnull : root.isNull = false := by
    cases root with
    | null => cases hnode
    | _ => rfl
  obtain ⟨nodes', hnodes⟩ := Except.exists_of_toBool hs.resolve.collected
  have hsize := hs.spans.size nodes' hnodes
  obtain ⟨fresh, heq, -, hall, -⟩ := Pending.putAll_spec (typeNames root) {}
  have hlength := length_putAll {} (typeNames root)
  unfold loadType
  simp only [hnull, Bool.false_eq_true, if_false]
  refine .quiet_bind (quiet_lift (hs.addAll_eq hroot)) (((hs.loads_loadPending ?_).under ?_).mono ?_)
  · simp only [List.length_nil] at hlength
    omega
  · intro t _
    have hempty : Tracked index pool {} t :=
      ⟨List.nodup_nil, fun _ h => absurd h List.not_mem_nil, fun _ h => absurd h List.not_mem_nil⟩
    exact hempty.putAll fun w hw => mem_of_mem_typeNames hs.spans hroot hw
  · rintro - t ⟨seen, hsub, htracked⟩ v hv
    obtain ⟨hpool, hkind, hraw⟩ := hs.seen_of_reaches htracked hroot
      (fun w hw => hsub _ (hall w hw)) hv
    obtain ⟨u, hu, hukind, hid, hcase⟩ := htracked.seen _ hraw
    obtain ⟨⟨e, he, hd⟩, -⟩ := hcase.resolve_left List.not_mem_nil
    have hdefinition := hs.definition?_eq hu hpool hukind hkind hid
    refine ⟨e, ?_, fun d hdef => hd d (hdefinition.trans hdef)⟩
    rwa [layoutId, ← hid]

end Ast
end StorageUpgrade
