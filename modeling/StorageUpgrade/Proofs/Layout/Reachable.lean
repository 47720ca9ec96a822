import Mathlib.Algebra.GroupWithZero.Nat
import Mathlib.Algebra.Order.BigOperators.Group.List
import Mathlib.Algebra.Order.Group.Nat
import Mathlib.Data.Finset.Card
import StorageUpgrade.Proofs.Layout.Correspondence
import StorageUpgrade.Proofs.Layout.Distinct

/-!
# The graph of the types is complete

`TypeGraph.reachable` follows the parts of types for a bounded number of steps, and the bound is
enough.  An identifier has no more pieces than characters, because each of them is followed by a
mark of its own (`sum_length_inner`), so all identifiers that can be met are found in a set that is
no larger than the bound (`exists_universe`).  Each step into a type that was not met before makes
what is left of this set smaller, so no type is left out (`partsListed_of_reachable`).
-/

namespace StorageUpgrade

namespace TypeId

/-! ### The pieces of an identifier -/

/-- Each element that is read is a piece of the text, and the mark that ends it is one more
character. -/
theorem length_readElements (cs : List Char) :
    ∀ (depth : Nat) (element : List Char) (elements : List (List Char)) (rest : List Char),
      readElements depth element cs = some (elements, rest) →
        (elements.map fun e => e.length + 1).sum + rest.length ≤ element.length + cs.length := by
  induction cs with
  | nil =>
      intro depth element elements rest h
      cases h
  | cons c cs ih =>
      intro depth element elements rest h
      have hlonger (depth : Nat) (h : readElements depth (element ++ [c]) cs =
          some (elements, rest)) := ih depth _ elements rest h
      simp only [List.length_append, List.length_cons, List.length_nil] at hlonger ⊢
      rw [readElements] at h
      split at h
      · have := hlonger _ h
        omega
      split at h
      · have := hlonger _ h
        omega
      split at h
      · obtain ⟨rfl, rfl⟩ := Prod.mk.inj (Option.some.inj h)
        split
        · simp only [List.map_nil, List.sum_nil]
          omega
        · simp only [List.map_cons, List.map_nil, List.sum_cons, List.sum_nil]
          omega
      split at h
      · obtain ⟨⟨later, rest'⟩, hlater, hpair⟩ := Option.map_eq_some_iff.1 h
        obtain ⟨rfl, rfl⟩ := Prod.mk.inj hpair
        have hrest := ih _ _ _ _ hlater
        simp only [List.length_nil, Nat.zero_add] at hrest
        split
        · omega
        · simp only [List.map_cons, List.sum_cons]
          omega
      · have := hlonger _ h
        omega

theorem sum_length_ofList (elements : List (List Char)) :
    ((elements.map String.ofList).map fun i => i.length + 1).sum =
      (elements.map fun e => e.length + 1).sum := by
  rw [List.map_map]
  exact congrArg List.sum (List.map_congr_left fun e _ => by simp)

/-- The return types that a tail lists are pieces of it. -/
theorem sum_length_returnsOf {tail : List Char} {rets : Option (List String)}
    (h : returnsOf tail = .ok rets) :
    ((rets.getD []).map fun i => i.length + 1).sum ≤ tail.length := by
  unfold returnsOf at h
  split at h
  · split at h
    · rename_i elements rest hread
      cases h
      have hlength := length_readElements _ _ _ _ _ hread
      rw [List.length_drop] at hlength
      rw [Option.getD_some, sum_length_ofList]
      simp only [List.length_nil] at hlength
      omega
    · cases h
  · cases h
    exact Nat.zero_le _

/-- The identifiers inside another one are pieces of it. -/
theorem sum_length_inner {id : String} {parts : Parts} (h : Parts.ofId id = .ok parts) :
    (parts.inner.map fun i => i.length + 1).sum ≤ id.length := by
  unfold Parts.ofId at h
  split at h
  · cases h
    exact Nat.zero_le _
  · rename_i head c inner hspan
    split at h
    · cases h
    · rename_i args tail hread
      cases hrets : returnsOf tail with
      | error e =>
          rw [hrets] at h
          cases h
      | ok rets =>
          rw [hrets] at h
          cases h
          have hid : id.length = head.length + (inner.length + 1) := by
            rw [List.span_eq_takeWhile_dropWhile] at hspan
            obtain ⟨hhead, hinner⟩ := Prod.mk.inj hspan
            calc id.length
                = (id.toList.takeWhile (· != '(') ++ id.toList.dropWhile (· != '(')).length := by
                  rw [List.takeWhile_append_dropWhile, String.length_toList]
              _ = head.length + (inner.length + 1) := by
                  rw [hhead, hinner, List.length_append, List.length_cons]
          have hargs := length_readElements _ _ _ _ _ hread
          have htail := sum_length_returnsOf hrets
          simp only [Parts.inner, Option.getD_some, List.map_append, List.sum_append,
            sum_length_ofList]
          simp only [List.length_nil] at hargs
          omega

/-- An identifier, and all that are found inside it, are no more than its characters and one. -/
theorem exists_pieces (id : String) : ∃ pieces : List String, id ∈ pieces ∧
    pieces.length ≤ id.length + 1 ∧
      ∀ x ∈ pieces, ∀ parts, Parts.ofId x = .ok parts → ∀ y ∈ parts.inner, y ∈ pieces := by
  induction hn : id.length using Nat.strongRecOn generalizing id with
  | _ n ih =>
    subst hn
    cases hid : Parts.ofId id with
    | error e =>
        refine ⟨[id], List.mem_singleton_self id, by simp, ?_⟩
        rintro x hx parts hparts
        rw [List.mem_singleton.1 hx, hid] at hparts
        cases hparts
    | ok parts =>
        have hsum := sum_length_inner hid
        have hshorter : ∀ y ∈ parts.inner, y.length < id.length := fun y hy =>
          lt_of_lt_of_le (Nat.lt_succ_self _)
            ((List.single_le_sum (fun _ _ => Nat.zero_le _) _
              (List.mem_map_of_mem (f := fun i : String => i.length + 1) hy)).trans hsum)
        have hinner : ∀ y ∈ parts.inner, ∃ pieces : List String, y ∈ pieces ∧
            pieces.length ≤ y.length + 1 ∧ ∀ x ∈ pieces, ∀ parts, Parts.ofId x = .ok parts →
              ∀ z ∈ parts.inner, z ∈ pieces := fun y hy => ih y.length (hshorter y hy) y rfl
        choose! pieces hmem hlength hclosed using hinner
        refine ⟨id :: parts.inner.flatMap pieces, List.mem_cons_self, ?_, ?_⟩
        · rw [List.length_cons, List.length_flatMap]
          exact Nat.succ_le_succ ((List.sum_le_sum hlength).trans hsum)
        · rintro x hx parts' hparts' y hy
          rcases List.mem_cons.1 hx with rfl | hx
          · obtain rfl : parts = parts' := Except.ok.inj (hid.symm.trans hparts')
            exact List.mem_cons_of_mem _ (List.mem_flatMap.2 ⟨y, hy, hmem y hy⟩)
          · obtain ⟨z, hz, hxz⟩ := List.mem_flatMap.1 hx
            exact List.mem_cons_of_mem _
              (List.mem_flatMap.2 ⟨z, hz, hclosed z hz x hxz parts' hparts' y hy⟩)

end TypeId

namespace TypeGraph

variable {types types' : List (String × TypeEntry)}

/-! ### All types are met -/

/-- An identifier can be taken apart, and its parts and the types of its members are listed. -/
def PartsListed (types : List (String × TypeEntry)) (ids : List String) (id : String) : Prop :=
  ∃ parts, TypeId.Parts.ofId id = .ok parts ∧
    ∀ type ∈ parts.inner.map Json.str ++ memberTypes types id, ∃ part ∈ ids, type = .str part

theorem PartsListed.mono {ids ids' : List String} {id : String} (h : PartsListed types ids id)
    (hsubset : ids ⊆ ids') : PartsListed types ids' id := by
  obtain ⟨parts, hparts, hlisted⟩ := h
  refine ⟨parts, hparts, fun type htype => ?_⟩
  obtain ⟨part, hpart, rfl⟩ := hlisted type htype
  exact ⟨part, hsubset hpart, rfl⟩

/-- A set of identifiers holds all that a step from one of them can lead to. -/
def ClosedUnderParts (types : List (String × TypeEntry)) (all : Finset String) : Prop :=
  ∀ id ∈ all, ∀ parts, TypeId.Parts.ofId id = .ok parts →
    ∀ part, .str part ∈ parts.inner.map Json.str ++ memberTypes types id → part ∈ all

theorem exists_pieces_of_types (roots : List Json) : ∃ pieces : List String,
    pieces.length ≤ idBound roots ∧ (∀ id, .str id ∈ roots → id ∈ pieces) ∧
      ∀ x ∈ pieces, ∀ parts, TypeId.Parts.ofId x = .ok parts → ∀ y ∈ parts.inner, y ∈ pieces := by
  induction roots with
  | nil => exact ⟨[], Nat.le_refl 0, by simp, by simp⟩
  | cons type roots ih =>
      obtain ⟨pieces, hlength, hroots, hclosed⟩ := ih
      cases type with
      | str id =>
          obtain ⟨pieces', hid, hlength', hclosed'⟩ := TypeId.exists_pieces id
          refine ⟨pieces' ++ pieces, ?_, ?_, ?_⟩
          · rw [List.length_append, idBound]
            omega
          · intro id' hid'
            rcases List.mem_cons.1 hid' with hid' | hid'
            · obtain rfl := Json.str.inj hid'
              exact List.mem_append_left _ hid
            · exact List.mem_append_right _ (hroots id' hid')
          · rintro x hx parts hparts y hy
            rcases List.mem_append.1 hx with hx | hx
            · exact List.mem_append_left _ (hclosed' x hx parts hparts y hy)
            · exact List.mem_append_right _ (hclosed x hx parts hparts y hy)
      | _ =>
          refine ⟨pieces, ?_, fun id hid => hroots id ?_, hclosed⟩
          · rw [idBound]
            · omega
            · exact nofun
          · exact (List.mem_cons.1 hid).resolve_left nofun

/-- The bound on the number of steps is an upper bound of the number of identifiers. -/
theorem exists_universe (types : List (String × TypeEntry)) (roots : List Json) :
    ∃ all : Finset String, ClosedUnderParts types all ∧ (∀ id, .str id ∈ roots → id ∈ all) ∧
      all.card ≤ idBound (roots ++ types.flatMap fun t => memberTypes types t.1) := by
  obtain ⟨pieces, hlength, hroots, hclosed⟩ :=
    exists_pieces_of_types (roots ++ types.flatMap fun t => memberTypes types t.1)
  refine ⟨pieces.toFinset, ?_, ?_, (List.toFinset_card_le pieces).trans hlength⟩
  · intro id hid parts hparts part hpart
    rw [List.mem_toFinset] at hid ⊢
    rcases List.mem_append.1 hpart with hpart | hpart
    · obtain ⟨y, hy, hstr⟩ := List.mem_map.1 hpart
      obtain rfl := Json.str.inj hstr
      exact hclosed id hid parts hparts y hy
    · refine hroots part (List.mem_append_right _ (List.mem_flatMap.2 ?_))
      -- only a type that the table lists has members
      cases hentry : types.find? (·.1 == id) with
      | none => simp [memberTypes, Json.find?, hentry] at hpart
      | some t =>
          have hkey : t.1 = id := by simpa using List.find?_some hentry
          exact ⟨t, List.mem_of_find?_eq_some hentry, hkey ▸ hpart⟩
  · intro id hid
    exact List.mem_toFinset.2 (hroots id (List.mem_append_left _ hid))

/-- What was seen before is kept, and what was added has its parts listed. -/
structure Completes (types : List (String × TypeEntry)) (seen seen' : List String) : Prop where
  subset : seen ⊆ seen'
  listed : ∀ id ∈ seen', id ∈ seen ∨ PartsListed types seen' id

theorem Completes.refl (seen : List String) : Completes types seen seen where
  subset := List.Subset.refl seen
  listed := fun _ hid => .inl hid

theorem Completes.trans {seen seen' seen'' : List String} (h : Completes types seen seen')
    (h' : Completes types seen' seen'') : Completes types seen seen'' where
  subset := List.Subset.trans h.subset h'.subset
  listed := fun id hid => by
    rcases h'.listed id hid with hid' | hlisted
    · exact (h.listed id hid').imp_right fun hlisted => hlisted.mono h'.subset
    · exact .inr hlisted

section

variable {all : Finset String} (hall : ClosedUnderParts types all)

variable (all) in
/-- If each single visit completes the list, then so do some visits in a row. -/
theorem completes_foldlM {steps : Nat} (bound : List String → Prop)
    (hbound : ∀ seen seen', seen ⊆ seen' → bound seen → bound seen')
    (hvisit : ∀ seen type seen', visit types steps seen type = .ok seen' → bound seen →
      (∀ id, type = .str id → id ∈ all) →
        Completes types seen seen' ∧ ∃ id ∈ seen', type = .str id)
    (roots : List Json) :
    ∀ seen seen', roots.foldlM (visit types steps) seen = .ok seen' → bound seen →
      (∀ id, .str id ∈ roots → id ∈ all) →
        Completes types seen seen' ∧ ∀ type ∈ roots, ∃ id ∈ seen', type = .str id := by
  induction roots with
  | nil =>
      intro seen seen' h _ _
      cases h
      exact ⟨Completes.refl seen, by simp⟩
  | cons type roots ih =>
      intro seen seen' h hseen hroots
      rw [List.foldlM_cons] at h
      cases hfirst : visit types steps seen type with
      | error e =>
          rw [hfirst] at h
          cases h
      | ok next =>
          rw [hfirst] at h
          obtain ⟨hcompletes, id, hid, hstr⟩ := hvisit seen type next hfirst hseen fun id hid =>
            hroots id (hid ▸ List.mem_cons_self)
          obtain ⟨hrest, hlisted⟩ := ih next seen' h (hbound _ _ hcompletes.subset hseen)
            fun id hid => hroots id (List.mem_cons_of_mem _ hid)
          refine ⟨hcompletes.trans hrest, fun type' htype' => ?_⟩
          rcases List.mem_cons.1 htype' with rfl | htype'
          · exact ⟨id, hrest.subset hid, hstr⟩
          · exact hlisted type' htype'

include hall

/-- A visit adds a type with all that can be reached from it, if it may take more steps than there
are types that were not seen before. -/
theorem completes_visit (steps : Nat) :
    ∀ seen type seen', visit types steps seen type = .ok seen' →
      (all \ seen.toFinset).card < steps → (∀ id, type = .str id → id ∈ all) →
        Completes types seen seen' ∧ ∃ id ∈ seen', type = .str id := by
  induction steps with
  | zero => exact fun _ _ _ _ hsteps => absurd hsteps (Nat.not_lt_zero _)
  | succ steps ih =>
      intro seen type seen' h hsteps hmem
      cases type with
      | str id =>
          simp only [visit] at h
          split at h
          · rename_i hseen
            cases h
            exact ⟨Completes.refl seen, id, List.contains_iff_mem.1 hseen, rfl⟩
          · rename_i hnew
            rw [List.contains_iff_mem] at hnew
            cases hparts : TypeId.Parts.ofId id with
            | error e =>
                rw [hparts] at h
                cases h
            | ok parts =>
                rw [hparts] at h
                have hless : (all \ (seen ++ [id]).toFinset).card < steps := by
                  refine lt_of_lt_of_le (Finset.card_lt_card ?_) (Nat.le_of_lt_succ hsteps)
                  refine Finset.ssubset_iff_of_subset ?_ |>.2 ⟨id, ?_, ?_⟩
                  · exact Finset.sdiff_subset_sdiff (Finset.Subset.refl _) fun x hx => by
                      rw [List.mem_toFinset] at hx ⊢
                      exact List.mem_append_left _ hx
                  · simp [hnew, hmem id rfl]
                  · simp
                obtain ⟨hcompletes, hlisted⟩ := completes_foldlM all
                  (fun seen => (all \ seen.toFinset).card < steps)
                  (fun seen seen' hsubset hlt => lt_of_le_of_lt (Finset.card_le_card
                    (Finset.sdiff_subset_sdiff (Finset.Subset.refl _) fun x hx => by
                      rw [List.mem_toFinset] at hx ⊢
                      exact hsubset hx)) hlt)
                  ih _ _ _ h hless (hall id (hmem id rfl) parts hparts)
                have hid : id ∈ seen' := hcompletes.subset (by simp)
                refine ⟨⟨fun x hx => hcompletes.subset (List.mem_append_left _ hx), ?_⟩,
                  id, hid, rfl⟩
                intro x hx
                rcases hcompletes.listed x hx with hx | hx
                · rcases List.mem_append.1 hx with hx | hx
                  · exact .inl hx
                  · rw [List.mem_singleton.1 hx]
                    exact .inr ⟨parts, hparts, hlisted⟩
                · exact .inr hx
      | _ => cases h

end

/-- All parts of listed types are listed, and so are the types that the list was made for. -/
theorem partsListed_of_reachable {roots : List Json} {ids : List String}
    (h : reachable types roots = .ok ids) :
    (∀ id ∈ ids, PartsListed types ids id) ∧ ∀ type ∈ roots, ∃ id ∈ ids, type = .str id := by
  obtain ⟨all, hall, hroots, hcard⟩ := exists_universe types roots
  obtain ⟨hcompletes, hlisted⟩ := completes_foldlM all (fun _ => True)
    (fun _ _ _ _ => trivial)
    (fun seen type seen' hvisit _ => completes_visit hall _ seen type seen' hvisit
      (lt_of_le_of_lt (Finset.card_le_card Finset.sdiff_subset) (Nat.lt_succ_of_le hcard)))
    roots [] ids h trivial hroots
  exact ⟨fun id hid => (hcompletes.listed id hid).resolve_left List.not_mem_nil, hlisted⟩

end TypeGraph

end StorageUpgrade
