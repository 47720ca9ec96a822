import Mathlib.Data.Finset.Lattice.Fold
import Mathlib.Data.Fintype.Card
import Mathlib.Data.Fintype.Prod
import StorageUpgrade.Proofs.Compare.Agreement
import StorageUpgrade.Proofs.Layout.Distinct

/-!
# Remembered results are right

A comparator answers with a remembered result where it has one, and it gives up on a pair of types
whose comparison is in progress.  Neither has a bearing on what it answers, when it does.

`plainChange` compares types without remembering anything, down to a given depth.  A change is
`Settled` if some depth is enough to find it, and a memory is `Faithful` if it holds settled changes
only.  With a faithful memory a comparator answers a change if and only if the change is settled
(`returns_compareTypes_iff`), whatever it has compared before.

## Strategy

* A deeper comparison answers all that a shallower one does (`plainChange_succ`), and there are
  finitely many pairs of types, so one depth is enough for all of them (`exists_enough`).
* An answer of the comparator is settled, by induction on the pairs that are not in progress
  (`settled_of_typeChange`).
* Conversely a settled pair is answered.  The pairs in progress need a greater depth than the one
  that is looked at, so it is not among them (`returns_typeChange`).
-/

namespace StorageUpgrade.Comparator

variable (options : CompareOptions) (g h : TypeGraph)

/-- The change of a type, found without remembering anything, in types with at most `depth` levels
of parts. -/
def plainChange : (depth : Nat) → TypeComparison g h
  | 0, _, updated, _ => throw (.upgrade (.recursiveType (h.info updated).label.display))
  | depth + 1, old, updated, allowAppend =>
    compareNodes options (plainChange depth) (g.node old) (h.node updated) allowAppend

/-- The change of a type is the given one, whatever was compared before. -/
def Settled (old : g.Ref) (updated : h.Ref) (allowAppend : Bool) (change : Option TypeChange) :
    Prop :=
  ∃ depth, Returns anyMemory (plainChange options g h depth old updated allowAppend) change

/-- All remembered results are the settled ones. -/
def Faithful : MemoryProp := fun cache => ∀ old updated allowAppend result,
  cache.find? (·.1 == ⟨(g.info old).id, (h.info updated).id, allowAppend⟩) = some result →
    Settled options g h old updated allowAppend result.2

variable {options g h}

theorem faithful_nil : Faithful options g h [] := fun _ _ _ _ hfind => by simp at hfind

/-! ### Comparing without a memory -/

/-- What is answered for some types is answered for the types that correspond to them. -/
theorem plainChange_related {g' h' : TypeGraph} {rg : g.Ref → g'.Ref → Prop}
    {rh : h.Ref → h'.Ref → Prop} (hrg : g.Corresponds g' rg) (hrh : h.Corresponds h' rh)
    (depth : Nat) :
    RelatedOnTypes (fun _ => Follows anyMemory anyMemory) rg rh (plainChange options g h depth)
      (plainChange options g' h' depth) := by
  induction depth with
  | zero => exact fun _ _ _ _ _ _ _ => Ensures.throw
  | succ depth ih => exact fun _ _ hold _ _ hupdated allowAppend =>
      (congruence_follows _ _ _).compareNodes hrg hrh ih (hrg hold) (hrh hupdated) allowAppend

theorem plainChange_self (depth : Nat) :
    FollowsOnTypes anyMemory anyMemory (plainChange options g h depth)
      (plainChange options g h depth) := fun _ _ allowAppend =>
  plainChange_related g.corresponds_eq h.corresponds_eq depth rfl rfl allowAppend

/-- A deeper comparison answers all that a shallower one does. -/
theorem plainChange_succ (depth : Nat) :
    FollowsOnTypes anyMemory anyMemory (plainChange options g h depth)
      (plainChange options g h (depth + 1)) := by
  induction depth with
  | zero => exact fun _ _ _ => Ensures.throw
  | succ depth ih => exact fun _ _ _ => Follows.compareNodes ih _ _ _

theorem Returns.of_follows {α : Type} {P Q : MemoryProp} {m n : CompareM α} {a : α}
    {s : ComparatorState} (hs : P s.cache) (hfollows : Follows P Q m n) (hm : Returns P m a) :
    Returns Q n a := by
  obtain ⟨t, ht, -⟩ := hm hs
  exact (hfollows hs ht).2

theorem returns_plainChange_mono {old : g.Ref} {updated : h.Ref} {allowAppend : Bool}
    {change : Option TypeChange} {depth depth' : Nat} (hle : depth ≤ depth')
    (hreturns : Returns anyMemory (plainChange options g h depth old updated allowAppend) change) :
    Returns anyMemory (plainChange options g h depth' old updated allowAppend) change := by
  induction depth', hle using Nat.le_induction with
  | base => exact hreturns
  | succ depth' _ ih =>
      exact Returns.of_follows (s := {}) trivial (plainChange_succ depth' _ _ _) ih

theorem not_returns_plainChange_zero {old : g.Ref} {updated : h.Ref} {allowAppend : Bool}
    {change : Option TypeChange} :
    ¬ Returns anyMemory (plainChange options g h 0 old updated allowAppend) change := by
  intro hreturns
  obtain ⟨t, ht, -⟩ := hreturns (s := {}) trivial
  cases ht

theorem Settled.unique {old : g.Ref} {updated : h.Ref} {allowAppend : Bool}
    {change change' : Option TypeChange} (hc : Settled options g h old updated allowAppend change)
    (hc' : Settled options g h old updated allowAppend change') : change = change' := by
  obtain ⟨depth, hdepth⟩ := hc
  obtain ⟨depth', hdepth'⟩ := hc'
  exact Returns.unique (s := {}) trivial
    (returns_plainChange_mono (Nat.le_max_left depth depth') hdepth)
    (returns_plainChange_mono (Nat.le_max_right depth depth') hdepth')

theorem Settled.of_corresponds {g' h' : TypeGraph} {rg : g.Ref → g'.Ref → Prop}
    {rh : h.Ref → h'.Ref → Prop} (hrg : g.Corresponds g' rg) (hrh : h.Corresponds h' rh)
    {old : g.Ref} {old' : g'.Ref} {updated : h.Ref} {updated' : h'.Ref} (hold : rg old old')
    (hupdated : rh updated updated') {allowAppend : Bool} {change : Option TypeChange}
    (hchange : Settled options g h old updated allowAppend change) :
    Settled options g' h' old' updated' allowAppend change := by
  obtain ⟨depth, hdepth⟩ := hchange
  exact ⟨depth, Returns.of_follows (s := {}) trivial
    (plainChange_related hrg hrh depth hold hupdated allowAppend) hdepth⟩

/-- One depth is enough to find all settled changes. -/
theorem exists_enough (options : CompareOptions) (g h : TypeGraph) :
    ∃ depth, ∀ old updated allowAppend change,
      Settled options g h old updated allowAppend change →
        Returns anyMemory (plainChange options g h depth old updated allowAppend) change := by
  classical
  -- a depth for each pair that is enough if any is
  have hpair : ∀ k : g.Ref × h.Ref × Bool, ∃ depth, ∀ change,
      Settled options g h k.1 k.2.1 k.2.2 change →
        Returns anyMemory (plainChange options g h depth k.1 k.2.1 k.2.2) change := by
    intro k
    by_cases hk : ∃ change, Settled options g h k.1 k.2.1 k.2.2 change
    · obtain ⟨change, depth, hdepth⟩ := hk
      refine ⟨depth, ?_⟩
      intro change' hchange'
      obtain rfl := hchange'.unique ⟨depth, hdepth⟩
      exact hdepth
    · exact ⟨0, fun change hchange => absurd ⟨change, hchange⟩ hk⟩
  choose depthOf hdepthOf using hpair
  refine ⟨Finset.univ.sup depthOf, ?_⟩
  intro old updated allowAppend change hsettled
  exact returns_plainChange_mono (Finset.le_sup (Finset.mem_univ (old, updated, allowAppend)))
    (hdepthOf (old, updated, allowAppend) change hsettled)

/-! ### What is remembered -/

theorem Ensures.remembering {P : MemoryProp} {key : TypeKey}
    {compare : CompareM (Option TypeChange)} {R : Option TypeChange → Prop}
    (hfound : ∀ cache result, P cache → cache.find? (·.1 == key) = some result → R result.2)
    (hcompare : Ensures P compare R)
    (hkeep : ∀ cache change, P cache → R change → P ((key, change) :: cache)) :
    Ensures P (remembering key compare) R := by
  rintro s t change hP houtcome
  unfold Comparator.remembering at houtcome
  rw [outcome_bind_of_ok _ (outcome_get s)] at houtcome
  cases hfind : remembered? key s with
  | some result =>
      obtain ⟨entry, hentry, rfl⟩ := Option.map_eq_some_iff.1 hfind
      rw [hfind] at houtcome
      obtain ⟨rfl, rfl⟩ : entry.2 = change ∧ s = t := by simpa using houtcome
      exact ⟨hP, hfound _ _ hP hentry⟩
  | none =>
      rw [hfind] at houtcome
      obtain ⟨a, u, ha, hrest⟩ := exists_of_outcome_bind houtcome
      obtain ⟨hPu, hR⟩ := hcompare hP ha
      obtain ⟨b, v, hb, hlast⟩ := exists_of_outcome_bind hrest
      cases hb
      obtain ⟨rfl, rfl⟩ : a = change ∧ _ = t := by simpa using hlast
      exact ⟨hkeep _ _ hPu hR, hR⟩

theorem Returns.remembering {P : MemoryProp} {key : TypeKey}
    {compare : CompareM (Option TypeChange)} {change : Option TypeChange}
    (hfound : ∀ cache result, P cache → cache.find? (·.1 == key) = some result →
      result.2 = change)
    (hcompare : Returns P compare change)
    (hkeep : ∀ cache, P cache → P ((key, change) :: cache)) :
    Returns P (remembering key compare) change := by
  intro s hP
  unfold Comparator.remembering
  rw [outcome_bind_of_ok _ (outcome_get s)]
  cases hfind : remembered? key s with
  | some result =>
      obtain ⟨entry, hentry, rfl⟩ := Option.map_eq_some_iff.1 hfind
      exact ⟨s, by simp [hfound _ _ hP hentry], hP⟩
  | none =>
      obtain ⟨t, ht, hPt⟩ := hcompare hP
      refine ⟨{ t with cache := (key, change) :: t.cache }, ?_, hkeep _ hPt⟩
      rw [outcome_bind_of_ok _ ht]
      rfl

theorem card_pairs (g h : TypeGraph) : Fintype.card (g.Ref × h.Ref × Bool) = pairCount g h := by
  simp only [Fintype.card_prod, Fintype.card_fin, Fintype.card_bool]
  rw [pairCount, Nat.mul_comm 2, Nat.mul_assoc]

theorem length_lt_pairCount {inProgress : List (g.Ref × h.Ref × Bool)}
    {k : g.Ref × h.Ref × Bool} (hnodup : inProgress.Nodup) (hk : k ∉ inProgress) :
    inProgress.length < pairCount g h := by
  rw [← card_pairs]
  exact (List.nodup_cons.2 ⟨hk, hnodup⟩).length_le_card

/-- Remembered results that satisfy `P` are right for the types of two graphs, and stay so when a
settled change is remembered. -/
structure RightMemory (options : CompareOptions) (g h : TypeGraph) (P : MemoryProp) : Prop where
  faithful : ∀ {cache}, P cache → Faithful options g h cache
  remember : ∀ {old updated allowAppend change},
    Settled options g h old updated allowAppend change → ∀ {cache}, P cache →
      P ((⟨(g.info old).id, (h.info updated).id, allowAppend⟩, change) :: cache)

section

variable {P : MemoryProp} (hright : RightMemory options g h P)

include hright

/-- What the comparator answers is settled. -/
theorem RightMemory.settled_of_typeChange (remaining : Nat) :
    ∀ (inProgress : List (g.Ref × h.Ref × Bool)) (old : g.Ref) (updated : h.Ref)
      (allowAppend : Bool),
      Ensures P (typeChange options g h remaining inProgress old updated allowAppend)
        (Settled options g h old updated allowAppend) := by
  induction remaining with
  | zero =>
      intro inProgress old updated allowAppend
      exact Ensures.remembering (fun _ _ hP hfind => hright.faithful hP _ _ _ _ hfind)
        Ensures.throw fun _ _ hP hR => hright.remember hR hP
  | succ remaining ih =>
      intro inProgress old updated allowAppend
      refine Ensures.remembering (fun _ _ hP hfind => hright.faithful hP _ _ _ _ hfind) ?_
        fun _ _ hP hR => hright.remember hR hP
      split
      · exact Ensures.throw
      · -- all changes of parts are settled, so one depth finds them
        obtain ⟨depth, hdepth⟩ := exists_enough options g h
        have hfollows : FollowsOnTypes P anyMemory
            (typeChange options g h remaining ((old, updated, allowAppend) :: inProgress))
            (plainChange options g h depth) := fun o u a =>
          (ih _ o u a).mono (hdepth o u a)
        exact Ensures.tracking
          ((Follows.compareNodes hfollows _ _ _).mono fun _ hreturns => ⟨depth + 1, hreturns⟩)

/-- The comparator answers what is settled.  The pairs in progress are deeper than the pair that is
compared, so it does not meet itself among them, and there are never too many of them. -/
theorem RightMemory.returns_typeChange (depth : Nat) :
    ∀ (remaining : Nat) (inProgress : List (g.Ref × h.Ref × Bool)) (old : g.Ref)
      (updated : h.Ref) (allowAppend : Bool) (change : Option TypeChange),
      Returns anyMemory (plainChange options g h depth old updated allowAppend) change →
      inProgress.Nodup → pairCount g h ≤ remaining + inProgress.length →
      (∀ k ∈ inProgress, ∀ change',
        ¬ Returns anyMemory (plainChange options g h depth k.1 k.2.1 k.2.2) change') →
      Returns P (typeChange options g h remaining inProgress old updated allowAppend) change := by
  induction depth with
  | zero =>
      intro remaining inProgress old updated allowAppend change hplain
      obtain ⟨t, ht, -⟩ := hplain (s := {}) trivial
      simp [plainChange] at ht
  | succ depth ih =>
      intro remaining inProgress old updated allowAppend change hplain hnodup hcount hdeeper
      by_cases hshallow : ∃ change', Returns anyMemory
          (plainChange options g h depth old updated allowAppend) change'
      · -- a smaller depth is enough
        obtain ⟨change', hchange'⟩ := hshallow
        obtain rfl := Settled.unique ⟨depth, hchange'⟩ ⟨depth + 1, hplain⟩
        exact ih _ _ _ _ _ _ hchange' hnodup hcount fun k hk c hc =>
          hdeeper k hk c (returns_plainChange_mono (Nat.le_succ depth) hc)
      have hsettled : Settled options g h old updated allowAppend change := ⟨depth + 1, hplain⟩
      have hnew : (old, updated, allowAppend) ∉ inProgress := fun hk => hdeeper _ hk change hplain
      have hlength := length_lt_pairCount hnodup hnew
      cases remaining with
      | zero => omega
      | succ remaining =>
          refine Returns.remembering
            (fun _ _ hP hfind => (hright.faithful hP _ _ _ _ hfind).unique hsettled) ?_
            fun _ hP => hright.remember hsettled hP
          rw [if_neg (by simpa using hnew)]
          have hfollows : FollowsOnTypes anyMemory P (plainChange options g h depth)
              (typeChange options g h remaining ((old, updated, allowAppend) :: inProgress)) := by
            intro o u a s t c hs hc
            refine ⟨trivial, ih _ _ o u a c (plainChange_self depth o u a hs hc).2
              (List.nodup_cons.2 ⟨hnew, hnodup⟩) (by rw [List.length_cons]; omega) ?_⟩
            intro k hk c' hc'
            rcases List.mem_cons.1 hk with rfl | hk
            · exact hshallow ⟨c', hc'⟩
            · exact hdeeper k hk c' (returns_plainChange_mono (Nat.le_succ depth) hc')
          exact Returns.tracking
            (Returns.of_follows (s := {}) trivial (Follows.compareNodes hfollows _ _ _) hplain)

end

section

variable (hg : g.Distinct) (hh : h.Distinct)

include hg hh

/-- Identifiers name one type each, so a settled change may be remembered. -/
theorem Faithful.cons {cache : List (TypeKey × Option TypeChange)}
    (hcache : Faithful options g h cache) {old : g.Ref} {updated : h.Ref} {allowAppend : Bool}
    {change : Option TypeChange} (hchange : Settled options g h old updated allowAppend change) :
    Faithful options g h
      ((⟨(g.info old).id, (h.info updated).id, allowAppend⟩, change) :: cache) := by
  intro old' updated' allowAppend' result hfind
  rw [List.find?_cons] at hfind
  split at hfind
  · rename_i hkey
    obtain rfl : _ = result := Option.some_inj.1 hfind
    simp only [beq_iff_eq, TypeKey.mk.injEq] at hkey
    obtain ⟨hold, hupdated, rfl⟩ := hkey
    obtain rfl := hg hold
    obtain rfl := hh hupdated
    exact hchange
  · exact hcache _ _ _ _ hfind

theorem rightMemory_faithful : RightMemory options g h (Faithful options g h) where
  faithful := fun hP => hP
  remember := fun hchange _ hP => hP.cons hg hh hchange

theorem settled_of_typeChange (remaining : Nat) (inProgress : List (g.Ref × h.Ref × Bool))
    (old : g.Ref) (updated : h.Ref) (allowAppend : Bool) :
    Ensures (Faithful options g h)
      (typeChange options g h remaining inProgress old updated allowAppend)
      (Settled options g h old updated allowAppend) :=
  (rightMemory_faithful hg hh).settled_of_typeChange remaining inProgress old updated allowAppend

/-- With a faithful memory the comparator answers exactly the settled changes. -/
theorem returns_compareTypes_iff {old : g.Ref} {updated : h.Ref} {allowAppend : Bool}
    {change : Option TypeChange} :
    Returns (Faithful options g h) (compareTypes options g h old updated allowAppend) change ↔
      Settled options g h old updated allowAppend change := by
  constructor
  · intro hreturns
    obtain ⟨t, ht, -⟩ := hreturns (s := {}) faithful_nil
    exact (settled_of_typeChange hg hh _ _ _ _ _ faithful_nil ht).2
  · rintro ⟨depth, hdepth⟩
    exact (rightMemory_faithful hg hh).returns_typeChange depth _ _ _ _ _ _ hdepth
      List.nodup_nil (Nat.le_refl _) fun k hk => absurd hk List.not_mem_nil

/-- What the comparator answers to one question it answers again, whatever it has compared in the
meantime. -/
theorem compareTypes_self : FollowsOnTypes (Faithful options g h) (Faithful options g h)
    (compareTypes options g h) (compareTypes options g h) := fun _ _ _ =>
  (settled_of_typeChange hg hh _ _ _ _ _).mono fun _ hsettled =>
    (returns_compareTypes_iff hg hh).2 hsettled

end
end StorageUpgrade.Comparator
