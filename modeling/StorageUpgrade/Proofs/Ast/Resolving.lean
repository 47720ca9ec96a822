import StorageUpgrade.Proofs.Ast.Answers
import StorageUpgrade.Proofs.Ast.Worklist

/-!
# Loading a type that resolves

Loading a type reads the type names that are reached from it and the definitions that these refer to,
and nothing else of the compilation.  A type name `Resolves` where all of these can be loaded, and
loading it then answers in every state (`Resolves.answers_loadType`), whatever the other type names of
the compilation are like: those inside the bodies of functions need not even be described.

All that is reached is found among some nodes which the type names of the tree belong to, and with a
type name those of its definition (`resolves_of_closed`).
-/

namespace StorageUpgrade
namespace Ast

open SyntaxM

variable {index : SyntaxIndex} {root v : Json}

/-- The nodes of a tree have kinds that can be looked up. -/
def HasKinds (root : Json) : Prop := ∀ v ∈ nodes (fun _ => false) root, hasCompositeKind v = false

instance (root : Json) : Decidable (HasKinds root) :=
  inferInstanceAs (Decidable (∀ v ∈ nodes (fun _ => false) root, hasCompositeKind v = false))

/-- What is reached from a type name can be loaded. -/
structure Resolves (index : SyntaxIndex) (root : Json) : Prop where
  node : isNode root = true
  kinds : HasKinds root
  loadable : ∀ v, Reaches index root v → Loadable index v
  defined : ∀ v, Reaches index root v → ∀ d ∈ definition? index v, Complete d ∧ HasKinds d

theorem isOfKind_of_reaches (h : Reaches index root v) : isOfKind typeNameKinds v = true := by
  cases h with
  | inside hv => exact (List.mem_filter.1 hv).2
  | through _ _ hw => exact (List.mem_filter.1 hw).2

/-! ### Nodes that nothing leads out of -/

/-- A type name can be loaded, and its definition has only type names that are among some nodes. -/
@[mk_iff]
structure Closed (index : SyntaxIndex) (pool : List Json) (v : Json) : Prop where
  loadable : Loadable index v
  defined : ∀ d ∈ definition? index v, Complete d ∧ HasKinds d ∧ ∀ w ∈ typeNames d, w ∈ pool

instance (index : SyntaxIndex) (pool : List Json) (v : Json) : Decidable (Closed index pool v) :=
  decidable_of_iff' _ (closed_iff index pool v)

theorem mem_of_reaches_closed {pool : List Json} (hroot : ∀ v ∈ typeNames root, v ∈ pool)
    (hclosed : ∀ v ∈ pool, Closed index pool v) (h : Reaches index root v) : v ∈ pool := by
  induction h with
  | inside hv => exact hroot _ hv
  | through _ hd hw ih => exact ((hclosed _ ih).defined _ hd).2.2 _ hw

/-- A type name resolves if it leads to nodes only that nothing leads out of. -/
theorem resolves_of_closed (pool : List Json) (hnode : isNode root = true) (hkinds : HasKinds root)
    (hroot : ∀ v ∈ typeNames root, v ∈ pool) (hclosed : ∀ v ∈ pool, Closed index pool v) :
    Resolves index root := by
  refine ⟨hnode, hkinds, fun v hv => ?_, fun v hv d hd => ?_⟩
  · exact (hclosed v (mem_of_reaches_closed hroot hclosed hv)).loadable
  · obtain ⟨hcomplete, hkinds, -⟩ := (hclosed v (mem_of_reaches_closed hroot hclosed hv)).defined d hd
    exact ⟨hcomplete, hkinds⟩

/-! ### Loading -/

/-- What is done with the members that are recorded may not depend on them. -/
theorem answers_recordedMembers {β : Type} {id : String} {b : β}
    {f : Option (List (Item ⊕ String)) → SyntaxM β} (h : ∀ members, Answers (f members) b) :
    Answers (recordedMembers id >>= f) b := by
  intro s
  have hmembers : outcome (recordedMembers id) s =
      (.ok ((Json.find? id s.types).bind (·.members)), s) := rfl
  rw [outcome_bind, hmembers]
  exact h _ s

theorem answers_recordDefinition {d : Json} (hnode : isNode d = true) (h : Complete d) (id : String) :
    Answers (recordDefinition id d) () := by
  have hasked : isDefinition .valueType d = .ok (isValueType d) := hasKind_eq hnode _
  unfold recordDefinition
  refine (answers_ask hasked).bind ?_
  split
  · rename_i htype
    rw [Complete, if_pos htype] at h
    obtain ⟨u, hu⟩ := Except.exists_of_toBool h
    exact (answers_ask hu).bind fun _ => rfl
  · rename_i htype
    rw [Complete, if_neg htype] at h
    obtain ⟨ms, hms⟩ := Except.exists_of_toBool h
    refine answers_recordedMembers fun members => ?_
    split
    · exact (answers_lift hms).bind fun _ => rfl
    · exact answers_pure ()

namespace Resolves

variable (h : Resolves index root)

include h

/-- Loading a type name that is reached leads to its definition. -/
theorem answers_loadNode (hv : Reaches index root v) :
    Answers (loadNode index v) (definition? index v) := by
  have hloadable := h.loadable v hv
  obtain ⟨⟨encoded, label⟩, hdescribe⟩ := Except.exists_of_toBool hloadable.described
  have hid : TypeId.normalize encoded = layoutId v := by rw [layoutId, rawId_eq hdescribe]
  have hregister : ∀ id label, Answers (register id label) () := fun _ _ _ => rfl
  unfold loadNode
  refine (answers_lift hdescribe).bind ?_
  simp only [hid]
  refine (hregister _ _).bind
    ((answers_ask (contains_eq (isNode_of_isOfKind (isOfKind_of_reaches hv)) _)).bind ?_)
  rw [hloadable.follows]
  cases hd : definition? index v with
  | none => exact answers_pure none
  | some d =>
      obtain ⟨nodes, number, hnodes, hget, hfind, hkind⟩ := definition?_spec hd
      have hrecorded := answers_recordDefinition (isNode_of_isOfKind hkind) (h.defined v hv d hd).1
        (layoutId v)
      exact (answers_ask hget).bind ((SyntaxIndex.quiet_deref hnodes hfind hkind).answers.bind
        (hrecorded.bind ((quiet_say _ _).answers.bind (answers_pure _))))

/-- Loading what is pending answers while only what is reached is pending. -/
theorem answers_loadPending {steps : Nat} : ∀ {p : Pending},
    (∀ v ∈ p.queue, Reaches index root v) → Answers (loadPending index steps p) () := by
  induction steps with
  | zero => exact fun _ => answers_pure ()
  | succ steps ih =>
      rintro ⟨seen, _ | ⟨v, queue⟩⟩ hqueue
      · exact answers_pure ()
      · have hv := hqueue v List.mem_cons_self
        have hlater : ∀ w ∈ queue, Reaches index root w :=
          fun w hw => hqueue w (List.mem_cons_of_mem v hw)
        unfold loadPending
        refine (h.answers_loadNode hv).bind ?_
        cases hd : definition? index v with
        | none => exact ih hlater
        | some d =>
            have hinside : ∀ w ∈ typeNames d, Reaches index root w := fun w hw => .through hv hd hw
            have hadded := Pending.addAll_eq (p := ⟨seen, queue⟩) (h.defined v hv d hd).2
              fun w hw => (h.loadable w (hinside w hw)).described
            obtain ⟨fresh, heq, hsub, -⟩ := Pending.putAll_spec (typeNames d) ⟨seen, queue⟩
            refine (answers_lift hadded).bind (ih fun w hw => ?_)
            rw [heq] at hw
            rcases List.mem_append.1 hw with hw | hw
            · exact hlater w hw
            · exact hinside w (hsub w hw)

theorem answers_loadType : Answers (loadType index root) () := by
  have hnull : root.isNull = false := by
    cases root with
    | null => cases h.node
    | _ => rfl
  have hinside : ∀ w ∈ typeNames root, Reaches index root w := fun w hw => .inside hw
  have hadded := Pending.addAll_eq (p := {}) h.kinds
    fun w hw => (h.loadable w (hinside w hw)).described
  obtain ⟨fresh, heq, hsub, -⟩ := Pending.putAll_spec (typeNames root) {}
  unfold loadType
  simp only [hnull, Bool.false_eq_true, if_false]
  refine (answers_lift hadded).bind (h.answers_loadPending fun w hw => ?_)
  rw [heq] at hw
  exact hinside w (hsub w (by simpa using hw))

end Resolves

end Ast
end StorageUpgrade
