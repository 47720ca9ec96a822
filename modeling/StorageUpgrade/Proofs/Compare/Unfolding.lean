import Mathlib.Data.Finset.Card
import Mathlib.Data.Finset.Image
import StorageUpgrade.Proofs.Compare.Memory

/-!
# Comparing cyclic types ends

A comparison of types asks for the comparison of their parts, which asks for that of theirs.  What
keeps it from going on forever is the list of the comparisons that are in progress: a comparison
that meets itself there fails.  `typeChangeBy` is this step of the recursion as it is, without any
bound on its depth: it leaves the comparison of the parts to another one.  `unfolded` takes some
steps and leaves what is deeper to whatever comparison it is given.

From a comparator in which `keys` are in progress, the recursion is no deeper than the number of
keys of the two graphs that are not among them (`idleKeys`), however the types refer to each other.
So what stands below that depth is never asked (`agreeWhile_unfolded`).

## Strategy

* Each step that goes on to the parts puts a new key in progress, so the measure gets smaller
  (`card_idleKeys_cons_lt`), and the rest of a comparison passes on what its parts do
  (`Congruence.compareNodes`).
* The comparator counts the pairs of types that are not in progress.  Distinct types have distinct
  keys, so its pairs in progress and the keys in progress are the same, and its count is never used
  up before it meets a pair again (`agreeWhile_typeChange`).
-/

namespace StorageUpgrade.Comparator

/-! ### The same steps -/

/-- Where the comparisons `keys` are in progress, two comparisons do the same, and `keys` are in
progress again when they end. -/
def AgreeWhile {α : Type} (keys : List TypeKey) (m n : CompareM α) : Prop :=
  ∀ s, s.inProgress = keys → outcome m s = outcome n s ∧ (outcome m s).2.inProgress = keys

section

variable {α β : Type} {keys : List TypeKey}

theorem AgreeWhile.bind {m n : CompareM α} {f k : α → CompareM β} (hmn : AgreeWhile keys m n)
    (hfk : ∀ a, AgreeWhile keys (f a) (k a)) : AgreeWhile keys (m >>= f) (n >>= k) := by
  intro s hs
  obtain ⟨hsame, hkeys⟩ := hmn s hs
  rw [outcome_bind, outcome_bind, ← hsame]
  cases hm : outcome m s with
  | mk x t =>
      rw [hm] at hkeys
      cases x with
      | error e => exact ⟨rfl, hkeys⟩
      | ok a => exact hfk a t hkeys

theorem congruence_agreeWhile (options : CompareOptions) (keys : List TypeKey) :
    Congruence options fun _ => AgreeWhile keys where
  pure := fun _ _ hs => ⟨rfl, hs⟩
  throw := fun _ _ hs => ⟨rfl, hs⟩
  note := fun _ hf s hs => ⟨rfl, (hf s).2.1.trans hs⟩
  bind := AgreeWhile.bind

theorem AgreeWhile.remembering {key : TypeKey} {m n : CompareM (Option TypeChange)}
    (hmn : AgreeWhile keys m n) : AgreeWhile keys (remembering key m) (remembering key n) := by
  intro s hs
  unfold Comparator.remembering
  rw [outcome_bind_of_ok _ (outcome_get s), outcome_bind_of_ok _ (outcome_get s)]
  cases remembered? key s with
  | some result => exact ⟨rfl, hs⟩
  | none =>
      refine AgreeWhile.bind hmn (fun result => ?_) s hs
      exact AgreeWhile.bind (fun t ht => ⟨rfl, ht⟩) fun _ _ ht => ⟨rfl, ht⟩

/-- A key in progress is taken off the list again. -/
theorem AgreeWhile.tracking {key : TypeKey} {m n : CompareM α}
    (hmn : AgreeWhile (key :: keys) m n) : AgreeWhile keys (tracking key m) (tracking key n) := by
  intro s hs
  obtain ⟨hsame, hkeys⟩ := hmn { s with inProgress := key :: s.inProgress } (by rw [hs])
  rw [outcome_tracking, outcome_tracking, ← hsame]
  refine ⟨rfl, ?_⟩
  dsimp only
  rw [hkeys, List.erase_cons_head]

end

/-! ### The recursion -/

variable (options : CompareOptions) {g h : TypeGraph}

/-- Under what the result for a pair of types is remembered. -/
def pairKey (g h : TypeGraph) (k : g.Ref × h.Ref × Bool) : TypeKey :=
  ⟨(g.info k.1).id, (h.info k.2.1).id, k.2.2⟩

/-- The change of a type, which fails if the comparison is in progress already, given how the types
it is made of are compared. -/
def typeChangeBy (rest : TypeComparison g h) : TypeComparison g h := fun old updated allowAppend =>
  remembering (pairKey g h (old, updated, allowAppend)) do
    if pairKey g h (old, updated, allowAppend) ∈ (← get).inProgress then
      throw (.upgrade (.recursiveType (h.info updated).label.display))
    else
      tracking (pairKey g h (old, updated, allowAppend))
        (compareNodes options rest (g.node old) (h.node updated) allowAppend)

/-- Some levels of the recursion, on top of another comparison. -/
def unfolded (base : TypeComparison g h) : (levels : Nat) → TypeComparison g h
  | 0 => base
  | levels + 1 => typeChangeBy options (unfolded base levels)

/-- The keys of two graphs that are not among those in progress. -/
def idleKeys (g h : TypeGraph) (keys : List TypeKey) : Finset TypeKey :=
  Finset.univ.image (pairKey g h) \ keys.toFinset

theorem card_idleKeys_le (keys : List TypeKey) : (idleKeys g h keys).card ≤ pairCount g h := by
  calc (idleKeys g h keys).card
      ≤ (Finset.univ.image (pairKey g h)).card := Finset.card_le_card Finset.sdiff_subset
    _ ≤ (Finset.univ : Finset (g.Ref × h.Ref × Bool)).card := Finset.card_image_le
    _ = pairCount g h := by rw [Finset.card_univ, card_pairs]

/-- A comparison that goes on to the parts of its types puts its key in progress. -/
theorem card_idleKeys_cons_lt {k : g.Ref × h.Ref × Bool} {keys : List TypeKey}
    (hk : pairKey g h k ∉ keys) :
    (idleKeys g h (pairKey g h k :: keys)).card < (idleKeys g h keys).card := by
  refine Finset.card_lt_card (Finset.ssubset_iff_of_subset ?_ |>.2 ⟨pairKey g h k, ?_, ?_⟩)
  · exact Finset.sdiff_subset_sdiff (Finset.Subset.refl _) fun key hkey => by
      rw [List.mem_toFinset] at hkey ⊢
      exact List.mem_cons_of_mem _ hkey
  · simp [idleKeys, hk]
  · simp [idleKeys]

variable {options}

theorem AgreeWhile.typeChangeBy {keys : List TypeKey} {rest rest' : TypeComparison g h}
    (old : g.Ref) (updated : h.Ref) (allowAppend : Bool)
    (hrest : pairKey g h (old, updated, allowAppend) ∉ keys →
      RelatedOnTypes (fun _ => AgreeWhile (pairKey g h (old, updated, allowAppend) :: keys)) Eq Eq
        rest rest') :
    AgreeWhile keys (typeChangeBy options rest old updated allowAppend)
      (typeChangeBy options rest' old updated allowAppend) := by
  refine AgreeWhile.remembering ?_
  intro s hs
  rw [outcome_bind_of_ok _ (outcome_get s), outcome_bind_of_ok _ (outcome_get s), hs]
  split
  · exact ⟨rfl, hs⟩
  · rename_i hnew
    exact ((congruence_agreeWhile options _).compareNodes_same (hrest hnew) old updated
      allowAppend).tracking s hs

/-- What stands below more levels than there are idle keys is never asked. -/
theorem agreeWhile_unfolded {base base' : TypeComparison g h} (levels : Nat) :
    ∀ (levels' : Nat) (keys : List TypeKey), (idleKeys g h keys).card < levels →
      (idleKeys g h keys).card < levels' →
      RelatedOnTypes (fun _ => AgreeWhile keys) Eq Eq (unfolded options base levels)
        (unfolded options base' levels') := by
  induction levels with
  | zero => exact fun _ _ hlt => absurd hlt (Nat.not_lt_zero _)
  | succ levels ih =>
      rintro levels' keys hlt hlt' old _ rfl updated _ rfl allowAppend
      obtain ⟨levels', rfl⟩ := Nat.exists_eq_succ_of_ne_zero (Nat.ne_zero_of_lt hlt')
      refine AgreeWhile.typeChangeBy old updated allowAppend fun hnew => ?_
      have hless := card_idleKeys_cons_lt hnew
      exact ih levels' _ (by omega) (by omega)

theorem exists_succ_of_pairCount_lt {inProgress : List (g.Ref × h.Ref × Bool)} {levels : Nat}
    (hnodup : inProgress.Nodup) (hlevels : pairCount g h < levels + inProgress.length) :
    ∃ levels', levels = levels' + 1 := by
  have hcard := hnodup.length_le_card
  rw [card_pairs] at hcard
  exact Nat.exists_eq_succ_of_ne_zero (by omega)

/-- The comparator's count of pairs is never used up before it meets a pair again. -/
theorem agreeWhile_typeChange (hg : g.Distinct) (hh : h.Distinct) {base : TypeComparison g h}
    (remaining : Nat) :
    ∀ (inProgress : List (g.Ref × h.Ref × Bool)) (levels : Nat), inProgress.Nodup →
      pairCount g h ≤ remaining + inProgress.length → pairCount g h < levels + inProgress.length →
      RelatedOnTypes (fun _ => AgreeWhile (inProgress.map (pairKey g h))) Eq Eq
        (typeChange options g h remaining inProgress) (unfolded options base levels) := by
  have hinjective : Function.Injective (pairKey g h) := fun k k' hkk' => by
    obtain ⟨hold, hupdated, hallow⟩ := TypeKey.mk.inj hkk'
    exact Prod.ext (hg hold) (Prod.ext (hh hupdated) hallow)
  induction remaining with
  | zero =>
      rintro inProgress levels hnodup hcount hlevels old _ rfl updated _ rfl allowAppend
      obtain ⟨levels, rfl⟩ := exists_succ_of_pairCount_lt hnodup hlevels
      -- all pairs are in progress, this one among them
      have hmem : (old, updated, allowAppend) ∈ inProgress := by
        by_contra hnew
        have hlength := length_lt_pairCount hnodup hnew
        omega
      refine AgreeWhile.remembering fun s hs => ?_
      rw [outcome_bind_of_ok _ (outcome_get s), hs, if_pos (List.mem_map_of_mem hmem)]
      exact ⟨rfl, hs⟩
  | succ remaining ih =>
      rintro inProgress levels hnodup hcount hlevels old _ rfl updated _ rfl allowAppend
      obtain ⟨levels, rfl⟩ := exists_succ_of_pairCount_lt hnodup hlevels
      refine AgreeWhile.remembering fun s hs => ?_
      rw [outcome_bind_of_ok _ (outcome_get s), hs]
      by_cases hmem : (old, updated, allowAppend) ∈ inProgress
      · rw [if_pos (List.contains_iff_mem.2 hmem), if_pos (List.mem_map_of_mem hmem)]
        exact ⟨rfl, hs⟩
      · have hparts := ih ((old, updated, allowAppend) :: inProgress) levels
          (List.nodup_cons.2 ⟨hmem, hnodup⟩) (by rw [List.length_cons]; omega)
          (by rw [List.length_cons]; omega)
        rw [if_neg (by simpa using hmem), if_neg fun hkey =>
          hmem ((List.mem_map_of_injective hinjective).1 hkey)]
        exact ((congruence_agreeWhile options _).compareNodes_same hparts old updated
          allowAppend).tracking s hs

variable (options) in
theorem agreeWhile_compareTypes (hg : g.Distinct) (hh : h.Distinct) (base : TypeComparison g h) :
    RelatedOnTypes (fun _ => AgreeWhile []) Eq Eq (compareTypes options g h)
      (unfolded options base (pairCount g h + 1)) :=
  agreeWhile_typeChange hg hh (pairCount g h) [] (pairCount g h + 1) List.nodup_nil (Nat.le_refl _)
    (Nat.lt_succ_self _)

variable (options) in
theorem agreeWhile_compareLayouts {old updated : DetailedLayout} (hold : old.graph.Distinct)
    (hupdated : updated.graph.Distinct) (base : TypeComparison old.graph updated.graph) :
    AgreeWhile [] (compareLayouts options old updated)
      (alignVariables options
        (unfolded options base (pairCount old.graph updated.graph + 1)) old.vars updated.vars
        true) :=
  (congruence_agreeWhile options []).alignVariables_same
    (agreeWhile_compareTypes options hold hupdated base) old.vars updated.vars true

/-- A comparison of types is the whole recursion: taking a step changes nothing, and where some
comparisons are in progress, it is what any unfolding amounts to that has more levels than there are
idle keys. -/
structure IsRecursion (options : CompareOptions) (recursion : TypeComparison g h) : Prop where
  step : typeChangeBy options recursion = recursion
  depth : ∀ (base : TypeComparison g h) (levels : Nat) (keys : List TypeKey),
    (idleKeys g h keys).card < levels → ∀ old updated allowAppend,
      AgreeWhile keys (unfolded options base levels old updated allowAppend)
        (recursion old updated allowAppend)

theorem isRecursion_unfolded (base : TypeComparison g h) :
    IsRecursion options (unfolded options base (pairCount g h + 1)) where
  step := by
    funext old updated allowAppend s
    have hidle := card_idleKeys_le (g := g) (h := h) s.inProgress
    exact (agreeWhile_unfolded (pairCount g h + 2) (pairCount g h + 1) s.inProgress (by omega)
      (by omega) rfl rfl allowAppend s rfl).1
  depth := by
    intro base' levels keys hlevels old updated allowAppend
    have hidle := card_idleKeys_le (g := g) (h := h) keys
    exact agreeWhile_unfolded levels _ keys hlevels (by omega) rfl rfl allowAppend

/-- Comparing two layouts ends, whatever their types refer to: it is built on the whole recursion of
the comparison of their types. -/
theorem exists_recursion_of_compareLayouts {l l' : Layout} {items items' : List Item}
    {old updated : DetailedLayout} (hold : l.detailItems items = .ok old)
    (hupdated : l'.detailItems items' = .ok updated) (options : CompareOptions) :
    ∃ recursion : TypeComparison old.graph updated.graph, IsRecursion options recursion ∧
      AgreeWhile [] (compareLayouts options old updated)
        (alignVariables options recursion old.vars updated.vars true) := by
  let base := compareTypes options old.graph updated.graph
  exact ⟨_, isRecursion_unfolded base, agreeWhile_compareLayouts options
    (Layout.distinct_of_detailItems hold) (Layout.distinct_of_detailItems hupdated) base⟩

/-- A struct that refers to itself through a mapping and through an array. -/
def nodeLayout : Layout where
  storage := [{ label := .str "root", type := .str "t_struct(Node)7_storage" }]
  types :=
    [("t_struct(Node)7_storage",
      { label := .str "struct Node"
        members := some
          [.inl { label := .str "next"
                  type := .str "t_mapping(t_uint256,t_struct(Node)7_storage)" },
           .inl { label := .str "children"
                  type := .str "t_array(t_struct(Node)7_storage)dyn_storage" }] })]

theorem exists_recursion_nodeLayout :
    ∃ d, nodeLayout.detailItems nodeLayout.storage = .ok d ∧
      ∃ recursion : TypeComparison d.graph d.graph, IsRecursion {} recursion ∧
        AgreeWhile [] (compareLayouts {} d d)
          (alignVariables {} recursion d.vars d.vars true) := by
  have hok : (nodeLayout.detailItems nodeLayout.storage).isOk = true := by decide
  cases hd : nodeLayout.detailItems nodeLayout.storage with
  | error e =>
      rw [hd] at hok
      cases hok
  | ok d => exact ⟨d, rfl, exists_recursion_of_compareLayouts hd hd {}⟩

end StorageUpgrade.Comparator
