import StorageUpgrade.Proofs.Compare.Relaxing
import StorageUpgrade.Proofs.Compare.Session

/-!
# Types that pass unchecked

A comparison may be asked to let structs and enums pass whose members are unknown.  The option
counts only where two such types are compared (`LacksMembers`).  Until then a comparator with the
option does what one without it does, step by step.  From then on it has noted that types passed
unchecked, and it remembers that the two types did not change, where the other one remembers that
members are missing (`agreeUntilPassed_compareLayouts`).

## Strategy

* Two types that do not lack members are compared in the same way with the option and without it
  (`compareNodes_congr`), and then no answer without it is that members are missing
  (`ensures_not_isMissing`).
* Two types that lack members part the two comparators: each answer is remembered as soon as it is
  given (`agreeUntilPassed_missingMembers`).
* Neither the note nor what is remembered is ever taken back (`Later`), so two comparators that are
  parted stay so, whatever they compare next (`AgreeUntilPassed.bind`).
-/

namespace StorageUpgrade

/-- The same options, without leave for types whose members are unknown. -/
def CompareOptions.strict (options : CompareOptions) : CompareOptions :=
  { options with allowCustomTypes := false }

namespace Comparator

variable {α β : Type} {g h : TypeGraph} {options options' : CompareOptions}

/-! ### Where the option counts -/

/-- Two structs or two enums are compared by their heads, and the members of one of them are
unknown. -/
structure LacksMembers (old : TypeNode g.Ref) (updated : TypeNode h.Ref) (allowAppend : Bool) :
    Prop where
  same : ∃ was is, SameHead old updated allowAppend was is
  head : old.head = "t_struct" ∨ old.head = "t_enum"
  members : old.members = none ∨ updated.members = none

theorem bind_lift_congr {x : Except Error α} {f k : α → CompareM β}
    (h : ∀ a, x = .ok a → f a = k a) : ((x : CompareM α) >>= f) = ((x : CompareM α) >>= k) := by
  cases x with
  | error e => rfl
  | ok a =>
      change (pure a >>= f : CompareM β) = pure a >>= k
      rw [pure_bind, pure_bind, h a rfl]

section

variable {compare : TypeComparison g h} {old : TypeNode g.Ref} {updated : TypeNode h.Ref}
  {allowAppend : Bool}

theorem compareStructs_of_unknown (hmembers : old.members = none ∨ updated.members = none) :
    compareStructs options compare old updated allowAppend =
      missingMembers options old.toTypeInfo updated.toTypeInfo := by
  unfold compareStructs
  rcases hmembers with hnone | hnone
  · rw [hnone]
  · rw [hnone]
    cases old.members <;> rfl

theorem compareEnums_of_unknown (hmembers : old.members = none ∨ updated.members = none) :
    compareEnums options old updated =
      missingMembers options old.toTypeInfo updated.toTypeInfo := by
  unfold compareEnums
  rcases hmembers with hnone | hnone
  · rw [hnone]
  · rw [hnone]
    cases old.members <;> rfl

/-- The options count for structs and enums only. -/
theorem compareApplied_congr {was : List g.Ref} {is : List h.Ref} (hstruct : old.head ≠ "t_struct")
    (henum : old.head ≠ "t_enum") :
    compareApplied options compare old updated was is allowAppend =
      compareApplied options' compare old updated was is allowAppend := by
  unfold compareApplied
  simp only [if_neg hstruct, if_neg henum]

/-- Two types that lack members are not compared any further. -/
theorem LacksMembers.compareNodes_eq (hlacks : LacksMembers old updated allowAppend) :
    compareNodes options compare old updated allowAppend =
      missingMembers options old.toTypeInfo updated.toTypeInfo := by
  obtain ⟨⟨was, is, hsame⟩, hhead, hmembers⟩ := hlacks
  rw [hsame.compareNodes_eq]
  rcases hhead with hhead | hhead
  · rw [compareApplied_of_struct hhead]
    exact compareStructs_of_unknown hmembers
  · rw [compareApplied_of_enum hhead]
    exact compareEnums_of_unknown hmembers

section

variable (hrenames : options.allowRenames = options'.allowRenames)

include hrenames

/-- Variables are compared in the same way if the options say the same of names. -/
theorem fieldChange_congr (x : Variable g.Ref) (y : Variable h.Ref) :
    fieldChange options compare x y = fieldChange options' compare x y := by
  have hrenamed : isRenamed options (x.map g.info) (y.map h.info) =
      isRenamed options' (x.map g.info) (y.map h.info) := by
    unfold isRenamed
    rw [hrenames]
  unfold fieldChange
  simp only [differenceOf_congr hrenamed]

theorem alignVariables_congr (xs : List (Variable g.Ref)) (ys : List (Variable h.Ref)) :
    alignVariables options compare xs ys allowAppend =
      alignVariables options' compare xs ys allowAppend := by
  unfold alignVariables
  simp only [fieldChange_congr hrenames]

/-- Two types that do not lack members are compared in the same way whether types with unknown
members are let pass or not. -/
theorem compareNodes_congr (hlacks : ¬ LacksMembers old updated allowAppend) :
    compareNodes options compare old updated allowAppend =
      compareNodes options' compare old updated allowAppend := by
  by_cases hsame : ∃ was is, SameHead old updated allowAppend was is
  · obtain ⟨was, is, hsame⟩ := hsame
    have hknown (hhead : old.head = "t_struct" ∨ old.head = "t_enum") :
        ∃ m n, old.members = some m ∧ updated.members = some n := by
      have hmembers := fun hnone => hlacks ⟨⟨was, is, hsame⟩, hhead, hnone⟩
      obtain ⟨hold, hupdated⟩ := not_or.1 hmembers
      obtain ⟨m, hm⟩ := Option.ne_none_iff_exists'.1 hold
      obtain ⟨n, hn⟩ := Option.ne_none_iff_exists'.1 hupdated
      exact ⟨m, n, hm, hn⟩
    rw [hsame.compareNodes_eq, hsame.compareNodes_eq]
    by_cases hstruct : old.head = "t_struct"
    · obtain ⟨m, n, hm, hn⟩ := hknown (.inl hstruct)
      rw [compareApplied_of_struct hstruct, compareApplied_of_struct hstruct]
      unfold compareStructs
      simp only [hm, hn, alignVariables_congr hrenames]
    by_cases henum : old.head = "t_enum"
    · obtain ⟨m, n, hm, hn⟩ := hknown (.inr henum)
      rw [compareApplied_of_enum henum, compareApplied_of_enum henum]
      unfold compareEnums
      simp only [hm, hn]
    exact compareApplied_congr hstruct henum
  · -- the heads are not what decides
    unfold compareNodes
    split
    · rfl
    split
    · rfl
    rename_i hfunctions hbytes
    refine bind_lift_congr fun widen hwiden => ?_
    split
    · rfl
    rename_i hno
    obtain rfl : widen = false := Bool.eq_false_iff.2 hno
    split
    · rfl
    rename_i hhead
    split
    · rfl
    · rename_i was is hold hupdated
      have hcompared : ComparedByHead old.toTypeInfo updated.toTypeInfo allowAppend :=
        ⟨Bool.eq_false_iff.2 hfunctions, Bool.eq_false_iff.2 hbytes, hwiden⟩
      exact absurd ⟨was, is, hcompared, not_not.1 hhead, hold, hupdated⟩ hsame
    · rfl

end

end

/-! ### What is found to lack members -/

/-- The members of a type were found to be missing. -/
def IsMissing (change : Option TypeChange) : Prop :=
  ∃ was is, change = some (.mismatch .missingMembers was is)

theorem not_isMissing_none : ¬ IsMissing none := nofun

theorem not_isMissing_visibilityChange {old updated : TypeInfo} {change : Option TypeChange}
    (hchange : visibilityChange old updated = .ok change) : ¬ IsMissing change := by
  rintro ⟨was, is, rfl⟩
  unfold visibilityChange at hchange
  split at hchange
  · split at hchange <;> cases hchange
  · cases hchange

theorem not_isMissing_enumChange (old updated : TypeInfo) (was is : List String) :
    ¬ IsMissing (enumChange old updated was is) := by
  rintro ⟨_, _, hchange⟩
  unfold enumChange at hchange
  dsimp only at hchange
  split at hchange
  · cases hchange
  · split at hchange <;> cases hchange

theorem ne_missingMembers_of_sizeChange {old updated : TypeInfo} {allowAppend : Bool}
    {reason : Mismatch} (hsize : sizeChange old updated allowAppend = .ok (some reason)) :
    reason ≠ .missingMembers := by
  rintro rfl
  unfold sizeChange at hsize
  split at hsize
  · split at hsize
    · split at hsize <;> cases hsize
    · obtain ⟨after, -, hsize⟩ := exists_of_bind_ok hsize
      obtain ⟨before, -, hsize⟩ := exists_of_bind_ok hsize
      replace hsize := Except.ok.inj hsize
      split at hsize
      · cases hsize
      · split at hsize <;> cases hsize
  · cases hsize

/-- Only types that lack members are found to do so. -/
theorem NodeVerdict.lacksMembers {T : TypeRelation g h} {A : MemberRelation g h}
    {old : TypeNode g.Ref} {updated : TypeNode h.Ref} {allowAppend : Bool}
    {change : Option TypeChange} (hverdict : NodeVerdict options T A old updated allowAppend change)
    (hmissing : IsMissing change) : LacksMembers old updated allowAppend := by
  cases hverdict with
  | missing hsame hhead hmembers => exact ⟨⟨_, _, hsame⟩, hhead, hmembers⟩
  | functions hfunctions hchange => exact absurd hmissing (not_isMissing_visibilityChange hchange)
  | enum => exact absurd hmissing (not_isMissing_enumChange _ _ _ _)
  | bytes | widened | plain | contract => exact absurd hmissing not_isMissing_none
  | obvious | mappingKey | unknown => obtain ⟨_, _, hchange⟩ := hmissing; cases hchange
  | arraySize hsame hhead hsize =>
      -- a change of the length has a reason of its own
      obtain ⟨_, _, hchange⟩ := hmissing
      cases hchange
      exact absurd rfl (ne_missingMembers_of_sizeChange hsize)
  | userDefined | struct =>
      obtain ⟨_, _, hchange⟩ := hmissing
      split at hchange <;> cases hchange
  | mapping | array =>
      obtain ⟨_, _, hchange⟩ := hmissing
      obtain ⟨inner, -, hinner⟩ := Option.map_eq_some_iff.1 hchange
      cases hinner

/-- Types that do not lack members are not found to do so. -/
theorem ensures_not_isMissing {compare : TypeComparison g h} {old : TypeNode g.Ref}
    {updated : TypeNode h.Ref} {allowAppend : Bool}
    (hlacks : ¬ LacksMembers old updated allowAppend) :
    Ensures anyMemory (compareNodes options compare old updated allowAppend)
      fun change => ¬ IsMissing change := by
  have hany {γ : Type} (m : CompareM γ) : Ensures anyMemory m fun _ => True :=
    fun _ _ _ _ _ => ⟨trivial, trivial⟩
  have hverdict : Ensures anyMemory (compareNodes options compare old updated allowAppend)
      (NodeVerdict options (fun _ _ _ _ => True) (fun _ _ _ _ => True) old updated allowAppend) :=
    ensures_compareNodes (fun _ _ _ => hany _) (fun _ _ _ => hany _) old updated allowAppend
  exact hverdict.mono fun change hchange hmissing => hlacks (hchange.lacksMembers hmissing)

/-! ### Two comparators that agree until a type passes unchecked -/

/-- What a comparator has noted and remembered is not taken back. -/
structure Later (s t : ComparatorState) : Prop where
  unchecked : s.unchecked = true → t.unchecked = true
  cache : s.cache ⊆ t.cache

theorem Later.refl (s : ComparatorState) : Later s s := ⟨id, List.Subset.refl _⟩

theorem Later.trans {s t u : ComparatorState} (hst : Later s t) (htu : Later t u) : Later s u :=
  ⟨fun hs => htu.unchecked (hst.unchecked hs), List.Subset.trans hst.cache htu.cache⟩

theorem later_bind {m : CompareM α} {f : α → CompareM β}
    (hf : ∀ a s, Later s (outcome (f a) s).2) (s : ComparatorState) :
    Later (outcome m s).2 (outcome (m >>= f) s).2 := by
  rw [outcome_bind]
  rcases outcome m s with ⟨_ | a, t⟩
  · exact Later.refl t
  · exact hf a t

/-- Two types are remembered as unchanged by one comparator, and by another one as types whose
members are missing. -/
def Passed (cache cache' : List (TypeKey × Option TypeChange)) : Prop :=
  ∃ key change, IsMissing change ∧ (key, none) ∈ cache ∧ (key, change) ∈ cache'

theorem Passed.mono {cache cache' later later' : List (TypeKey × Option TypeChange)}
    (h : Passed cache cache') (hcache : cache ⊆ later) (hcache' : cache' ⊆ later') :
    Passed later later' := by
  obtain ⟨key, change, hmissing, hmem, hmem'⟩ := h
  exact ⟨key, change, hmissing, hcache hmem, hcache' hmem'⟩

/-- No type is remembered as one whose members are missing. -/
def NothingMissing : MemoryProp := fun cache => ∀ entry ∈ cache, ¬ IsMissing entry.2

/-- The first comparison lets types pass unchecked and the second one does not: either they do the
same, or the first one has noted that types passed, and both remember it in their ways. -/
structure AgreeUntilPassed (m n : CompareM α) : Prop where
  agree : ∀ s, NothingMissing s.cache →
    (outcome n s = outcome m s ∧ (outcome m s).2.unchecked = s.unchecked ∧
        NothingMissing (outcome m s).2.cache) ∨
      ((outcome m s).2.unchecked = true ∧ Passed (outcome m s).2.cache (outcome n s).2.cache)
  later : ∀ s, Later s (outcome m s).2
  later' : ∀ s, Later s (outcome n s).2

theorem AgreeUntilPassed.bind {m n : CompareM α} {f k : α → CompareM β}
    (hmn : AgreeUntilPassed m n) (hfk : ∀ a, AgreeUntilPassed (f a) (k a)) :
    AgreeUntilPassed (m >>= f) (n >>= k) where
  agree s hs := by
    rcases hmn.agree s hs with ⟨hsame, hkept, hnone⟩ | ⟨hunchecked, hpassed⟩
    · rw [outcome_bind, outcome_bind, hsame]
      rcases hm : outcome m s with ⟨_ | a, t⟩
      · rw [hm] at hkept hnone
        exact .inl ⟨rfl, hkept, hnone⟩
      · rw [hm] at hkept hnone
        rcases (hfk a).agree t hnone with ⟨hsame', hkept', hnone'⟩ | hparted
        · exact .inl ⟨hsame', hkept'.trans hkept, hnone'⟩
        · exact .inr hparted
    · -- the two are parted, and what they do next cannot bring them together again
      have hlater := later_bind (m := m) (fun a => (hfk a).later) s
      have hlater' := later_bind (m := n) (fun a => (hfk a).later') s
      exact .inr ⟨hlater.unchecked hunchecked, hpassed.mono hlater.cache hlater'.cache⟩
  later s := (hmn.later s).trans (later_bind (fun a => (hfk a).later) s)
  later' s := (hmn.later' s).trans (later_bind (fun a => (hfk a).later') s)

/-- Without leave for types whose members are unknown, all steps of a comparison keep two
comparators in agreement. -/
theorem congruence_agreeUntilPassed (hstrict : options.allowCustomTypes = false) :
    Congruence options fun _ => AgreeUntilPassed where
  pure _ := ⟨fun _ hs => .inl ⟨rfl, rfl, hs⟩, Later.refl, Later.refl⟩
  throw _ := ⟨fun _ hs => .inl ⟨rfl, rfl, hs⟩, Later.refl, Later.refl⟩
  note f hf := by
    have hlater (s : ComparatorState) : Later s (f s) :=
      ⟨fun hs => ((hf s).2.2 hstrict).trans hs, (hf s).1 ▸ List.Subset.refl _⟩
    refine ⟨fun s hs => .inl ⟨rfl, (hf s).2.2 hstrict, ?_⟩, hlater, hlater⟩
    rw [outcome_modify, (hf s).1]
    exact hs
  bind := AgreeUntilPassed.bind

theorem AgreeUntilPassed.tracking {key : TypeKey} {m n : CompareM α} (hmn : AgreeUntilPassed m n) :
    AgreeUntilPassed (tracking key m) (tracking key n) where
  agree s hs := by
    rw [outcome_tracking, outcome_tracking]
    rcases hmn.agree { s with inProgress := key :: s.inProgress } hs with ⟨hsame, hrest⟩ | hparted
    · rw [hsame]
      exact .inl ⟨rfl, hrest⟩
    · exact .inr hparted
  later s := by
    rw [outcome_tracking]
    have hlater := hmn.later { s with inProgress := key :: s.inProgress }
    exact ⟨hlater.unchecked, hlater.cache⟩
  later' s := by
    rw [outcome_tracking]
    have hlater := hmn.later' { s with inProgress := key :: s.inProgress }
    exact ⟨hlater.unchecked, hlater.cache⟩

theorem outcome_remembering_of_found {key : TypeKey} {m : CompareM (Option TypeChange)}
    {s : ComparatorState} {result : Option TypeChange} (hfound : remembered? key s = some result) :
    outcome (remembering key m) s = (.ok result, s) := by
  unfold remembering
  rw [outcome_bind_of_ok _ (outcome_get s), hfound]
  rfl

/-- Remembering an answer takes nothing back. -/
theorem later_remembering_of_new {key : TypeKey} {m : CompareM (Option TypeChange)}
    {s : ComparatorState} (hnew : remembered? key s = none) :
    Later (outcome m s).2 (outcome (remembering key m) s).2 := by
  rw [outcome_remembering_of_new hnew]
  cases outcome m s with
  | mk x t =>
      cases x with
      | error e => exact Later.refl t
      | ok result => exact ⟨id, List.subset_cons_self _ _⟩

theorem later_remembering {key : TypeKey} {m : CompareM (Option TypeChange)}
    (hm : ∀ s, Later s (outcome m s).2) (s : ComparatorState) :
    Later s (outcome (remembering key m) s).2 := by
  cases hremembered : remembered? key s with
  | some result =>
      rw [outcome_remembering_of_found hremembered]
      exact Later.refl s
  | none => exact (hm s).trans (later_remembering_of_new hremembered)

theorem AgreeUntilPassed.remembering {key : TypeKey} {m n : CompareM (Option TypeChange)}
    (hmn : AgreeUntilPassed m n) (hfound : Ensures anyMemory n fun change => ¬ IsMissing change) :
    AgreeUntilPassed (remembering key m) (remembering key n) where
  agree s hs := by
    cases hremembered : remembered? key s with
    | some result =>
        rw [outcome_remembering_of_found hremembered, outcome_remembering_of_found hremembered]
        exact .inl ⟨rfl, rfl, hs⟩
    | none =>
        rcases hmn.agree s hs with ⟨hsame, hkept, hnone⟩ | ⟨hunchecked, hpassed⟩
        · rw [outcome_remembering_of_new hremembered, outcome_remembering_of_new hremembered, hsame]
          cases hm : outcome m s with
          | mk x t =>
              rw [hm] at hsame hkept hnone
              cases x with
              | error e => exact .inl ⟨rfl, hkept, hnone⟩
              | ok result =>
                  -- the answer is new in both memories, and it is not that members are missing
                  have hnew := (hfound trivial hsame).2
                  exact .inl ⟨rfl, hkept, List.forall_mem_cons.2 ⟨hnew, hnone⟩⟩
        · have hlater := later_remembering_of_new (m := m) hremembered
          have hlater' := later_remembering_of_new (m := n) hremembered
          exact .inr ⟨hlater.unchecked hunchecked, hpassed.mono hlater.cache hlater'.cache⟩
  later := later_remembering hmn.later
  later' := later_remembering hmn.later'

/-! ### Comparing types -/

/-- Two types that lack members part a comparator that lets them pass from one that does not. -/
theorem agreeUntilPassed_missingMembers (key : TypeKey) (old updated : TypeInfo)
    (hcustom : options.allowCustomTypes = true) :
    AgreeUntilPassed (remembering key (tracking key (missingMembers options old updated)))
      (remembering key (tracking key (missingMembers options.strict old updated))) := by
  have hpass (s : ComparatorState) : ∃ t : ComparatorState,
      outcome (missingMembers options old updated) s = (.ok none, t) ∧
        t.unchecked = true ∧ t.cache = s.cache := by
    unfold missingMembers
    rw [if_pos hcustom]
    exact ⟨_, rfl, rfl, rfl⟩
  have hfail (s : ComparatorState) : outcome (missingMembers options.strict old updated) s =
      (.ok (some (.mismatch .missingMembers old updated)), s) := rfl
  refine ⟨fun s hs => ?_, later_remembering ?_, later_remembering ?_⟩
  · cases hremembered : remembered? key s with
    | some result =>
        rw [outcome_remembering_of_found hremembered, outcome_remembering_of_found hremembered]
        exact .inl ⟨rfl, rfl, hs⟩
    | none =>
        obtain ⟨t, ht, hnoted, -⟩ := hpass { s with inProgress := key :: s.inProgress }
        rw [outcome_remembering_of_new hremembered, outcome_remembering_of_new hremembered,
          outcome_tracking, outcome_tracking, ht, hfail]
        exact .inr ⟨hnoted, key, _, ⟨old, updated, rfl⟩, List.mem_cons_self, List.mem_cons_self⟩
  · intro s
    obtain ⟨t, ht, hnoted, hcache⟩ := hpass { s with inProgress := key :: s.inProgress }
    rw [outcome_tracking, ht]
    exact ⟨fun _ => hnoted, hcache ▸ List.Subset.refl _⟩
  · intro s
    rw [outcome_tracking, hfail]
    exact ⟨id, List.Subset.refl _⟩

section

variable (hcustom : options.allowCustomTypes = true)

include hcustom

/-- Two types are compared in the same way with leave for types whose members are unknown and
without it, until such types pass. -/
theorem agreeUntilPassed_typeChange (remaining : Nat) :
    ∀ inProgress : List (g.Ref × h.Ref × Bool),
      RelatedOnTypes (fun _ => AgreeUntilPassed) Eq Eq
        (typeChange options g h remaining inProgress)
        (typeChange options.strict g h remaining inProgress) := by
  have hstep : Congruence options.strict fun _ => AgreeUntilPassed :=
    congruence_agreeUntilPassed rfl
  induction remaining with
  | zero =>
      rintro inProgress old _ rfl updated _ rfl allowAppend
      exact (hstep.throw _).remembering Ensures.throw
  | succ remaining ih =>
      rintro inProgress old _ rfl updated _ rfl allowAppend
      unfold typeChange
      split
      · exact (hstep.throw _).remembering Ensures.throw
      -- only types that lack members are compared in two ways, and then no parts are looked at
      by_cases hlacks : LacksMembers (g.node old) (h.node updated) allowAppend
      · rw [hlacks.compareNodes_eq, hlacks.compareNodes_eq]
        exact agreeUntilPassed_missingMembers _ _ _ hcustom
      · have hoptions (compare : TypeComparison g h) :
            compareNodes options compare (g.node old) (h.node updated) allowAppend =
              compareNodes options.strict compare (g.node old) (h.node updated) allowAppend :=
          compareNodes_congr rfl hlacks
        rw [hoptions]
        have hparts := ih ((old, updated, allowAppend) :: inProgress)
        have hnodes := hstep.compareNodes_same hparts old updated allowAppend
        exact hnodes.tracking.remembering (ensures_not_isMissing hlacks).tracking

theorem agreeUntilPassed_compareLayouts (old updated : DetailedLayout) :
    AgreeUntilPassed (compareLayouts options old updated)
      (compareLayouts options.strict old updated) := by
  have htypes : RelatedOnTypes (fun _ => AgreeUntilPassed) Eq Eq
      (compareTypes options old.graph updated.graph)
      (compareTypes options.strict old.graph updated.graph) :=
    agreeUntilPassed_typeChange hcustom _ []
  have hstep : Congruence options.strict fun _ => AgreeUntilPassed :=
    congruence_agreeUntilPassed rfl
  have hoptions : alignVariables options (compareTypes options old.graph updated.graph) old.vars
      updated.vars true = alignVariables options.strict
        (compareTypes options old.graph updated.graph) old.vars updated.vars true :=
    alignVariables_congr rfl old.vars updated.vars
  unfold compareLayouts align
  rw [hoptions]
  exact hstep.alignVariables_same htypes old.vars updated.vars true

end

end Comparator
end StorageUpgrade
