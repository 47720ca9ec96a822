import StorageUpgrade.Proofs.Compare.NodeCase
import StorageUpgrade.Proofs.Compare.Field
import StorageUpgrade.Proofs.Compare.Renames
import StorageUpgrade.Proofs.Compare.Session

/-!
# Types that may grow

A type may be compared with leave to grow at its end, as the value of a mapping is.  The leave only
relaxes the comparison: where two types have no change without it, they have none with it, for
whatever comparator is asked and in the middle of whatever comparison
(`eq_none_of_typeChange_append`).

## Strategy

* With the leave two types fall under the same case as without it, or under one where nothing changes
  (`nodeCase_append`), so none of them changes (`NodeVerdict.eq_none_of_append`).  Of two lists of
  members the same operations are found, and fewer of them may be reported.  Those that remain are
  dropped for the same gaps, because what is appended uses up none (`answer_reportable_nil`).
* So a settled change without the leave decides about the settled change with it
  (`Settled.eq_none_of_append`).
* A comparator that compares types of two layouts remembers settled changes only, at any time
  (`Reached.right`), so both of its answers are settled.
-/

namespace StorageUpgrade.Comparator

variable {g h : TypeGraph} {options : CompareOptions}

/-! ### Two types -/

/-- An array whose length stays the same may keep it with leave to grow, too. -/
theorem sizeChange_append {old updated : TypeInfo}
    (hsize : sizeChange old updated false = .ok none) : sizeChange old updated true = .ok none := by
  unfold sizeChange at hsize ⊢
  split
  · rename_i was is hwas his
    rw [hwas, his] at hsize
    dsimp only at hsize ⊢
    split
    · rename_i hdynamic
      rwa [if_pos hdynamic] at hsize
    · rename_i hdynamic
      rw [if_neg hdynamic] at hsize
      obtain ⟨after, hafter, hsize⟩ := exists_of_bind_ok hsize
      obtain ⟨before, hbefore, hsize⟩ := exists_of_bind_ok hsize
      have hle : ¬ after < before := by
        intro hlt
        rw [if_pos hlt] at hsize
        cases hsize
      rw [hafter, hbefore]
      simp [bind, Except.bind, hle]
  · rename_i hno
    split at hsize
    · rename_i was is hwas his
      exact absurd his (hno was is hwas)
    · cases hsize

section

variable {T : TypeRelation g h} {A : MemberRelation g h} {old : TypeNode g.Ref}
  {updated : TypeNode h.Ref} {change : Option TypeChange}

/-- With leave to grow, a comparison of two types finds no change where it finds none without. -/
theorem NodeVerdict.eq_none_of_append (hverdict : NodeVerdict options T A old updated false none)
    (happend : NodeVerdict options T A old updated true change)
    (hT : ∀ a b allow c c', T a b allow c → T a b allow c' → c = c')
    (hA : ∀ was is ops, A was is false [] → A was is true ops → ops = []) : change = none := by
  have hfinds := hverdict.finds
  have hgrown := happend.finds
  rcases nodeCase_append old updated with hcase | hcase <;> rw [hcase] at hgrown
  · generalize nodeCase old updated false = found at hfinds hgrown
    cases found with
    | functions => exact Except.ok.inj (hgrown.symm.trans hfinds)
    | same => exact hgrown
    | obvious | unknown => cases hfinds
    | missing => exact hgrown.trans hfinds.symm
    | userDefined =>
        obtain ⟨changed, hchanged, hnone⟩ := hfinds
        obtain ⟨changed', hchanged', rfl⟩ := hgrown
        rw [Except.ok.inj (hchanged'.symm.trans hchanged)]
        exact hnone.symm
    | struct was is =>
        obtain ⟨-, -, -, -, ops, hops, hnone⟩ := hfinds
        obtain ⟨-, -, -, -, ops', hops', rfl⟩ := hgrown
        obtain rfl : ops = [] := by
          by_contra hno
          rw [if_neg (by simpa using hno)] at hnone
          cases hnone
        rw [hA was is ops' hops hops']
        rfl
    | enum was is => exact hgrown.trans hfinds.symm
    | mapping oldKey oldValue newKey newValue =>
        obtain ⟨-, -, hfinds⟩ := hfinds
        obtain ⟨-, -, hgrown⟩ := hgrown
        rcases hfinds with ⟨inner, -, -, hnone⟩ | ⟨hkey, inner, hvalue, hnone⟩
        · cases hnone
        · obtain rfl : inner = none := Option.map_eq_none_iff.1 hnone.symm
          rcases hgrown with ⟨inner', hknown, hkey', -⟩ | ⟨-, inner', hvalue', rfl⟩
          · rcases hkey with hunknown | hkey
            · exact absurd (hknown.symm.trans hunknown) Bool.false_ne_true
            · cases hT _ _ _ _ _ hkey hkey'
          · rw [← hT _ _ _ _ _ hvalue hvalue']
            rfl
    | array oldElement newElement =>
        rcases hfinds with ⟨reason, -, hnone⟩ | ⟨hsize, a, ha, b, hb, -, -, inner, hpart, hnone⟩
        · cases hnone
        · obtain rfl : inner = none := Option.map_eq_none_iff.1 hnone.symm
          rcases hgrown with ⟨reason, hsize', -⟩ | ⟨-, a', ha', b', hb', -, -, inner', hpart', rfl⟩
          · cases (sizeChange_append hsize).symm.trans hsize'
          · obtain rfl := Option.mem_unique ha ha'
            obtain rfl := Option.mem_unique hb hb'
            rw [← hT _ _ _ _ _ hpart hpart']
            rfl
  · exact hgrown

end

/-! ### Members -/

/-- The old position of a gap that is used up must be known for the operations to be told apart. -/
theorem exists_span_of_consumesGap {ops reported : List FieldOp} {c : FieldChange}
    (h : answer (filterGapOps ops) = .ok reported) (hc : Alignment.Op.change c ∈ ops)
    (hconsumes : c.ConsumesGap) : ∃ span, c.old.span = .ok span := by
  obtain ⟨gaps, hgaps, -⟩ := (ensures_filterGapOps_noted ops).of_answer trivial h
  obtain ⟨gap, -, hgap⟩ := exists_right_of_mem (forall₂_of_mapM_ok hgaps) hc
  obtain ⟨old, updated, difference⟩ := c
  cases difference with
  | finishGap | shrinkGap =>
      cases hspan : old.span with
      | error e => simp [gapSpan?, hspan, Except.map] at hgap
      | ok span => exact ⟨span, hspan⟩
  | _ => exact hconsumes.elim

/-- If nothing is reported of some operations, then nothing is where what is appended may be left
out. -/
theorem answer_reportable_nil {ops reported : List FieldOp}
    (hnil : answer (filterGapOps (reportable false ops)) = .ok [])
    (hreported : answer (filterGapOps (reportable true ops)) = .ok reported) : reported = [] := by
  replace hnil : answer (filterGapOps ops) = .ok [] := hnil
  have hdropped := dropped_of_answer_nil hnil
  have hnil' : answer (filterGapOps (reportable true ops)) = .ok [] := by
    apply answer_filterGapOps_nil
    · intro op hop
      rcases hdropped op (mem_reportable.1 hop).1 with
        hconsumes | ⟨v, c, rfl, hc, hconsumes, hwithin⟩
      · exact .inl hconsumes
      · -- a change that uses up a gap is not left out
        exact .inr ⟨v, c, rfl, mem_reportable.2 ⟨hc, fun _ => rfl⟩, hconsumes, hwithin⟩
    · intro c hc
      have hmem := (mem_reportable.1 hc).1
      rcases hdropped _ hmem with ⟨_, hsame, hconsumes⟩ | ⟨_, _, hinsert, -⟩
      · cases hsame
        exact exists_span_of_consumesGap hnil hmem hconsumes
      · cases hinsert
  exact Except.ok.inj (hreported.symm.trans hnil')

/-- Members of which nothing is reported have nothing to report with leave to grow. -/
theorem MembersCompared.eq_nil_of_append {T : TypeRelation g h} {was : List (Variable g.Ref)}
    {is : List (Variable h.Ref)} {ops : List FieldOp}
    (hstrict : MembersCompared options T was is false [])
    (happend : MembersCompared options T was is true ops) : ops = [] := by
  obtain ⟨change, hchange, hnil⟩ := hstrict
  obtain ⟨change', hchange', hreported⟩ := happend
  have hsame : operations change was is = operations change' was is :=
    operations_congr fun x hx y hy => (hchange x hx y hy).unique (hchange' x hx y hy)
  exact answer_reportable_nil hnil (hsame ▸ hreported)

/-! ### Settled changes -/

/-- Two types that do not change do not change with leave to grow, if a change is settled at all. -/
theorem Settled.eq_none_of_append (hg : g.Distinct) (hh : h.Distinct) {old : g.Ref}
    {updated : h.Ref} {change : Option TypeChange}
    (hstrict : Settled options g h old updated false none)
    (happend : Settled options g h old updated true change) : change = none := by
  obtain ⟨depth, hdepth⟩ := hstrict
  obtain ⟨depth', hdepth'⟩ := happend
  have hle : depth ≤ max depth depth' + 1 := by omega
  have hle' : depth' ≤ max depth depth' + 1 := by omega
  have hverdict := nodeVerdict_of_plainChange hg hh (returns_plainChange_mono hle hdepth)
  have hverdict' := nodeVerdict_of_plainChange hg hh (returns_plainChange_mono hle' hdepth')
  refine hverdict.eq_none_of_append hverdict' ?_ fun _ _ _ => MembersCompared.eq_nil_of_append
  intro a b allow c c' hc hc'
  exact hc.unique (s := {}) trivial hc'

/-! ### What stays remembered -/

/-- What is remembered satisfies `P` after a comparison if it did before, also if the comparison
ends in an error. -/
def Keeps {α : Type} (P : MemoryProp) (m : CompareM α) : Prop :=
  ∀ s, P s.cache → P (outcome m s).2.cache

theorem congruence_keeps (options : CompareOptions) (P : MemoryProp) :
    Congruence options fun _ m _ => Keeps P m where
  pure := fun _ _ hs => hs
  throw := fun _ _ hs => hs
  note := fun f hf s hs => by
    rw [outcome_modify, (hf s).1]
    exact hs
  bind := by
    intro α β m _ f _ hm hf s hs
    have hkeep := hm s hs
    rw [outcome_bind]
    cases hms : outcome m s with
    | mk x t =>
        rw [hms] at hkeep
        cases x with
        | error e => exact hkeep
        | ok a => exact hf a t hkeep

theorem Keeps.remembering {P : MemoryProp} {key : TypeKey}
    {compare : CompareM (Option TypeChange)} {R : Option TypeChange → Prop}
    (hkeeps : Keeps P compare) (hanswer : Ensures P (remembering key compare) R) :
    Keeps P (remembering key compare) := by
  intro s hs
  cases houtcome : outcome (Comparator.remembering key compare) s with
  | mk x t =>
      cases x with
      | ok change => exact (hanswer hs houtcome).1
      | error e =>
          -- nothing was remembered for the key, and nothing is now
          have hnew : remembered? key s = none := by
            by_contra hfound
            obtain ⟨result, hfind⟩ := Option.ne_none_iff_exists'.1 hfound
            unfold Comparator.remembering at houtcome
            rw [outcome_bind_of_ok _ (outcome_get s), hfind] at houtcome
            cases houtcome
          rw [outcome_remembering_of_new hnew] at houtcome
          have hleft := hkeeps s hs
          rcases hcompare : outcome compare s with ⟨_ | _, u⟩
          · rw [hcompare] at houtcome hleft
            cases houtcome
            exact hleft
          · rw [hcompare] at houtcome
            cases houtcome

theorem Keeps.tracking {P : MemoryProp} {α : Type} {key : TypeKey} {m : CompareM α}
    (hm : Keeps P m) : Keeps P (tracking key m) := by
  intro s hs
  rw [outcome_tracking]
  exact hm { s with inProgress := key :: s.inProgress } hs

/-- A right memory stays right when types are compared, whichever pairs wait for the result. -/
theorem RightMemory.keeps_typeChange {P : MemoryProp} (hright : RightMemory options g h P)
    (remaining : Nat) : ∀ (inProgress : List (g.Ref × h.Ref × Bool)) (old : g.Ref)
      (updated : h.Ref) (allowAppend : Bool),
      Keeps P (typeChange options g h remaining inProgress old updated allowAppend) := by
  induction remaining with
  | zero =>
      intro inProgress old updated allowAppend
      exact ((congruence_keeps options P).throw _).remembering
        (hright.settled_of_typeChange 0 inProgress old updated allowAppend)
  | succ remaining ih =>
      intro inProgress old updated allowAppend
      refine Keeps.remembering ?_
        (hright.settled_of_typeChange (remaining + 1) inProgress old updated allowAppend)
      split
      · exact (congruence_keeps options P).throw _
      · have hparts : RelatedOnTypes (fun _ m _ => Keeps P m) Eq Eq
            (typeChange options g h remaining ((old, updated, allowAppend) :: inProgress))
            (typeChange options g h remaining ((old, updated, allowAppend) :: inProgress)) := by
          rintro o _ rfl u _ rfl a
          exact ih _ o u a
        exact ((congruence_keeps options P).compareNodes_same hparts old updated
          allowAppend).tracking

/-! ### Comparators in use -/

section

variable {l l' : Layout}

variable (options l l') in
/-- The comparators that there are while types of two layouts are compared: a new one, what a
comparison of two types leaves behind, by an answer or by an error and whichever pairs wait for it,
and any that remembers the same results as one of them. -/
inductive Reached : ComparatorState → Prop
  | new : Reached {}
  | compared {s : ComparatorState} (hs : Reached s) (d : l.Details) (d' : l'.Details)
      (remaining : Nat) (inProgress : List (d.layout.graph.Ref × d'.layout.graph.Ref × Bool))
      (old : d.layout.graph.Ref) (updated : d'.layout.graph.Ref) (allowAppend : Bool) :
      Reached (outcome (typeChange options d.layout.graph d'.layout.graph remaining inProgress old
        updated allowAppend) s).2
  | noted {s t : ComparatorState} (hs : Reached s) (hcache : t.cache = s.cache) : Reached t

/-- All that is remembered is right at any time. -/
theorem Reached.right {s : ComparatorState} (hs : Reached options l l' s) :
    RightForLayouts options l l' s.cache := by
  induction hs with
  | new => exact fun _ _ => faithful_nil
  | compared _ d d' remaining inProgress old updated allowAppend ih =>
      exact (rightMemory_layouts options d d').keeps_typeChange remaining inProgress old updated
        allowAppend _ ih
  | noted _ hcache ih => exact hcache ▸ ih

/-- Two comparisons do the same with a comparator that is in use, and it stays in use. -/
def SameInUse (options : CompareOptions) (l l' : Layout) {α : Type} (m n : CompareM α) : Prop :=
  ∀ s, Reached options l l' s →
    outcome m s = outcome n s ∧ Reached options l l' (outcome m s).2

theorem congruence_sameInUse (options : CompareOptions) (l l' : Layout) :
    Congruence options fun _ => SameInUse options l l' where
  pure := fun _ _ hs => ⟨rfl, hs⟩
  throw := fun _ _ hs => ⟨rfl, hs⟩
  note := fun f hf s hs => ⟨rfl, hs.noted (hf s).1⟩
  bind := by
    intro α β m n f k hmn hfk s hs
    obtain ⟨hsame, hreached⟩ := hmn s hs
    rw [outcome_bind, outcome_bind, ← hsame]
    cases hms : outcome m s with
    | mk x t =>
        rw [hms] at hreached
        cases x with
        | error e => exact ⟨rfl, hreached⟩
        | ok a => exact hfk a t hreached

/-- In the middle of a comparison of two types, their parts are compared by comparators in use: what
a comparison of parts would do with any others has no bearing on it. -/
theorem sameInUse_compareNodes (d : l.Details) (d' : l'.Details) (remaining : Nat)
    (inProgress : List (d.layout.graph.Ref × d'.layout.graph.Ref × Bool))
    {compare : TypeComparison d.layout.graph d'.layout.graph}
    (hcompare : ∀ old updated allowAppend s, Reached options l l' s →
      outcome (compare old updated allowAppend) s = outcome (typeChange options d.layout.graph
        d'.layout.graph remaining inProgress old updated allowAppend) s)
    (old : d.layout.graph.Ref) (updated : d'.layout.graph.Ref) (allowAppend : Bool) :
    SameInUse options l l'
      (compareNodes options compare (d.layout.graph.node old) (d'.layout.graph.node updated)
        allowAppend)
      (compareNodes options
        (typeChange options d.layout.graph d'.layout.graph remaining inProgress)
        (d.layout.graph.node old) (d'.layout.graph.node updated) allowAppend) := by
  refine (congruence_sameInUse options l l').compareNodes_same ?_ old updated allowAppend
  rintro o _ rfl u _ rfl a s hs
  have hsame := hcompare o u a s hs
  exact ⟨hsame, hsame ▸ hs.compared d d' remaining inProgress o u a⟩

/-- A comparator stays in use when it answers a query. -/
theorem Reached.ask {s : ComparatorState} (hs : Reached options l l' s) (q : Query l l') :
    Reached options l l' (outcome (q.ask options) s).2 := by
  have hstep := congruence_sameInUse options l l'
  have htypes (d : l.Details) (d' : l'.Details) : RelatedOnTypes
      (fun _ => SameInUse options l l') Eq Eq
      (compareTypes options d.layout.graph d'.layout.graph)
      (compareTypes options d.layout.graph d'.layout.graph) := by
    rintro o _ rfl u _ rfl a t ht
    exact ⟨rfl, ht.compared d d' _ _ o u a⟩
  cases q with
  | layouts d d' =>
      exact (hstep.bind (hstep.alignVariables_same (htypes d d') d.layout.vars d'.layout.vars true)
        (fun ops => hstep.pure (Reply.operations ops)) s hs).2
  | types d d' was is allowAppend =>
      exact (hstep.bind (htypes d d' rfl rfl allowAppend)
        (fun change => hstep.pure (Reply.change change)) s hs).2

/-- Leave to grow only relaxes the comparison: whatever comparators in use are asked, and whichever
pairs wait for the results, two types that have no change without the leave have none with it, if
the comparison answers. -/
theorem eq_none_of_typeChange_append {d : l.Details} {d' : l'.Details} {s t : ComparatorState}
    (hs : Reached options l l' s) (ht : Reached options l l' t) {remaining remaining' : Nat}
    {inProgress inProgress' : List (d.layout.graph.Ref × d'.layout.graph.Ref × Bool)}
    {old : d.layout.graph.Ref} {updated : d'.layout.graph.Ref} {change : Option TypeChange}
    (hstrict : (outcome (typeChange options d.layout.graph d'.layout.graph remaining inProgress old
      updated false) s).1 = .ok none)
    (happend : (outcome (typeChange options d.layout.graph d'.layout.graph remaining' inProgress'
      old updated true) t).1 = .ok change) : change = none := by
  have hright := rightMemory_layouts options d d'
  have hsettled := (hright.settled_of_typeChange remaining inProgress old updated false hs.right
    (Prod.ext hstrict rfl)).2
  have hsettled' := (hright.settled_of_typeChange remaining' inProgress' old updated true ht.right
    (Prod.ext happend rfl)).2
  exact hsettled.eq_none_of_append (Layout.distinct_of_detailItems d.detailed)
    (Layout.distinct_of_detailItems d'.detailed) hsettled'

end

/-! ### A gap in a struct -/

/-- A struct of some of the types of `gapTypes`. -/
def gapStructLayout (members : List Item) : Layout where
  storage :=
    [{ label := .str "limits", type := .str "t_struct(Limits)9_storage", slot := some "0"
       offset := some 0 }]
  types :=
    ("t_struct(Limits)9_storage",
      { label := .str "struct Limits", members := some (members.map .inl)
        numberOfBytes := some "96" }) :: gapTypes

/-- The details of a struct that uses the listed types. -/
def gapStructDetails (members : List Item) (ids : List String)
    (hids : TypeGraph.reachable (gapStructLayout members).types
      ((gapStructLayout members).storage.map (·.type)) = .ok ids) :
    (gapStructLayout members).Details where
  items := (gapStructLayout members).storage
  layout := ⟨.ofIds (gapStructLayout members).types ids,
    (gapStructLayout members).storage.filterMap (TypeGraph.resolve? ids)⟩
  detailed := Layout.detailItems_of_reachable hids

/-- A comparator that has compared two layouts remembers that a struct did not change, and finds
that it did not with leave to grow, either, in the middle of the first comparison. -/
theorem eq_none_gapStructLayout :
    ∃ (d : (gapStructLayout Upgrade.spareItems).Details)
      (d' : (gapStructLayout Upgrade.shrunkItems).Details) (s : ComparatorState)
      (old : d.layout.graph.Ref) (updated : d'.layout.graph.Ref) (change : Option TypeChange),
      Reached {} (gapStructLayout Upgrade.spareItems) (gapStructLayout Upgrade.shrunkItems) s ∧
        (outcome (typeChange {} d.layout.graph d'.layout.graph 0 [] old updated false) s).1 =
          .ok none ∧
        (outcome (typeChange {} d.layout.graph d'.layout.graph 8 [(old, updated, false)] old updated
          true) s).1 = .ok change ∧ change = none := by
  let d := gapStructDetails Upgrade.spareItems
    ["t_struct(Limits)9_storage", "Limits", "t_uint256", "t_array(t_uint256)2_storage"] rfl
  let d' := gapStructDetails Upgrade.shrunkItems
    ["t_struct(Limits)9_storage", "Limits", "t_uint256", "t_array(t_uint256)1_storage"] rfl
  let s := (outcome (Query.ask {} (.layouts d d')) {}).2
  have hs : Reached {} _ _ s := Reached.new.ask (.layouts d d')
  have hstrict : (outcome (typeChange {} d.layout.graph d'.layout.graph 0 [] ⟨0, by decide⟩
      ⟨0, by decide⟩ false) s).1 = .ok none := by
    decide +kernel
  have happend : (outcome (typeChange {} d.layout.graph d'.layout.graph 8
      [(⟨0, by decide⟩, ⟨0, by decide⟩, false)] ⟨0, by decide⟩ ⟨0, by decide⟩ true) s).1 =
        .ok none := by
    decide +kernel
  exact ⟨d, d', s, ⟨0, by decide⟩, ⟨0, by decide⟩, none, hs, hstrict, happend,
    eq_none_of_typeChange_append hs hs hstrict happend⟩

end StorageUpgrade.Comparator
