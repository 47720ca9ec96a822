import StorageUpgrade.Proofs.Alignment.Origin
import StorageUpgrade.Proofs.Compare.Memory
import StorageUpgrade.Proofs.Compare.Review
import StorageUpgrade.Proofs.Compare.WellFormed

/-!
# The errors of a comparison

`Safe E m R` says that every error of a comparison satisfies `E`, and every answer `R`, whatever the
comparator has done before.  On well formed types no step of a comparison fails by itself, so it has
only the errors that the comparisons of parts have (`Safe.compareNodes`).  And the only error that
comes from no part is that a pair of types is met again while its comparison is in progress; then
both types are inside themselves (`safe_compareTypes`).
-/

namespace StorageUpgrade.Comparator

variable {α β : Type} {E : Error → Prop}

/-- Every error satisfies `E`, and every answer satisfies `R`. -/
def Safe (E : Error → Prop) (m : CompareM α) (R : α → Prop) : Prop := ∀ s,
  match (outcome m s).1 with
  | .ok a => R a
  | .error e => E e

/-- What has no errors answers. -/
theorem Safe.exists_answer {m : CompareM α} {R : α → Prop} (h : Safe (fun _ => False) m R) :
    ∃ a, answer m = .ok a ∧ R a := by
  have hnew := h {}
  rw [answer]
  split at hnew
  · rename_i a ha
    exact ⟨a, ha, hnew⟩
  · cases hnew

/-! ### Single steps -/

theorem Safe.pure {a : α} {R : α → Prop} (h : R a) : Safe E (pure a) R := fun _ => h

theorem Safe.throw {e : Error} {R : α → Prop} (h : E e) : Safe E (throw e) R := fun _ => h

theorem Safe.modify (f : ComparatorState → ComparatorState) :
    Safe E (modify f : CompareM Unit) fun _ => True := fun _ => trivial

theorem Safe.bind {m : CompareM α} {f : α → CompareM β} {R : α → Prop} {R' : β → Prop}
    (hm : Safe E m R) (hf : ∀ a, R a → Safe E (f a) R') : Safe E (m >>= f) R' := by
  intro s
  have hs := hm s
  rw [outcome_bind]
  split at hs
  · rename_i a ha
    cases hresult : outcome m s with
    | mk x t =>
        rw [hresult] at ha
        obtain rfl : x = .ok a := ha
        exact hf a hs t
  · rename_i e he
    cases hresult : outcome m s with
    | mk x t =>
        rw [hresult] at he
        obtain rfl : x = .error e := he
        exact hs

theorem Safe.mono {m : CompareM α} {R R' : α → Prop} (h : Safe E m R) (himp : ∀ a, R a → R' a) :
    Safe E m R' := by
  intro s
  have hs := h s
  split
  · rename_i a ha
    rw [ha] at hs
    exact himp a hs
  · rename_i e he
    rw [he] at hs
    exact hs

/-- A check that does not fail. -/
theorem Safe.lift {x : Except Error α} (h : ∃ a, x = .ok a) :
    Safe E (x : CompareM α) fun _ => True := by
  obtain ⟨a, rfl⟩ := h
  exact Safe.pure trivial

theorem Safe.liftMisuse {x : Except Json.Misuse α} (h : ∃ a, x = .ok a) :
    Safe E (x : CompareM α) fun _ => True :=
  Safe.lift (h.imp fun _ hx => congrArg Json.Misuse.lift hx)

theorem Safe.mapM {f : α → CompareM β} {R : α → β → Prop} (xs : List α)
    (h : ∀ x ∈ xs, Safe E (f x) (R x)) : Safe E (xs.mapM f) (List.Forall₂ R xs) := by
  induction xs with
  | nil => exact Safe.pure .nil
  | cons x xs ih =>
      rw [List.mapM_cons]
      refine (h x List.mem_cons_self).bind fun b hb => ?_
      refine (ih fun z hz => h z (List.mem_cons_of_mem _ hz)).bind fun bs hbs => ?_
      exact Safe.pure (.cons hb hbs)

theorem Safe.remembering {key : TypeKey} {m : CompareM (Option TypeChange)}
    (h : Safe E m fun _ => True) : Safe E (remembering key m) fun _ => True := by
  intro s
  unfold Comparator.remembering
  rw [outcome_bind_of_ok _ (outcome_get s)]
  cases remembered? key s with
  | some result => trivial
  | none => exact (h.bind fun _ _ => (Safe.modify _).bind fun _ _ => Safe.pure trivial) s

theorem Safe.tracking {key : TypeKey} {m : CompareM α} {R : α → Prop} (h : Safe E m R) :
    Safe E (tracking key m) R := by
  intro s
  rw [outcome_tracking]
  exact h _

/-! ### Variables -/

/-- The places of the variables of an operation can be read. -/
def ReadableOp : FieldOp → Prop
  | .insert v | .append v | .delete v => v.Readable
  | .change c => c.old.Readable ∧ c.updated.Readable

theorem exists_consumesGap {op : FieldOp} (hop : ReadableOp op) :
    ∃ consumes, consumesGap op = .ok consumes := by
  cases op with
  | change c =>
      obtain ⟨old, updated, difference⟩ := c
      cases difference with
      | shrinkGap shrink => exact hop.2.exists_endsWith hop.1
      | _ => exact ⟨_, rfl⟩
  | _ => exact ⟨_, rfl⟩

theorem exists_gapSpan? {op : FieldOp} (hop : ReadableOp op) : ∃ gap, gapSpan? op = .ok gap := by
  cases op with
  | change c =>
      obtain ⟨old, updated, difference⟩ := c
      cases difference with
      | finishGap | shrinkGap =>
          obtain ⟨span, hspan⟩ := hop.1.exists_span
          exact ⟨some span, by rw [gapSpan?, show old.span = .ok span from hspan]; rfl⟩
      | _ => exact ⟨_, rfl⟩
  | _ => exact ⟨_, rfl⟩

theorem exists_review (gaps : List (Option Int × Option Int)) {op : FieldOp}
    (hop : ReadableOp op) : ∃ note, review gaps op = .ok note := by
  obtain ⟨consumes, hconsumes⟩ := exists_consumesGap hop
  unfold review
  rw [hconsumes]
  cases op with
  | insert v =>
      cases consumes with
      | true => exact ⟨_, rfl⟩
      | false =>
          obtain ⟨span, hspan⟩ := Variable.Readable.exists_span hop
          by_cases hwithin : gaps.any (withinSpan span) = true
          · exact ⟨_, by simp [bind, Except.bind, hspan, hwithin]; rfl⟩
          · exact ⟨none, by simp [bind, Except.bind, hspan, hwithin]⟩
  | _ => cases consumes <;> exact ⟨_, rfl⟩

theorem Safe.filterGapOps {ops : List FieldOp} (hops : ∀ op ∈ ops, ReadableOp op) :
    Safe E (filterGapOps ops) fun _ => True := by
  have hgaps : ∃ gaps, ops.mapM gapSpan? = .ok gaps := by
    obtain ⟨gaps, hgaps, -⟩ := exists_mapM_ok (R := fun _ _ => True) fun op hop =>
      (exists_gapSpan? (hops op hop)).imp fun _ h => ⟨h, trivial⟩
    exact ⟨gaps, hgaps⟩
  refine (Safe.lift hgaps).bind fun gaps _ => ?_
  refine (Safe.mapM (R := fun _ _ => True) ops fun op hop => ?_).bind fun _ _ => Safe.pure trivial
  refine (Safe.lift (exists_review _ (hops op hop))).bind fun note _ => ?_
  cases note with
  | none => exact Safe.pure trivial
  | some note => exact (Safe.modify _).bind fun _ _ => Safe.pure trivial

variable {g h : TypeGraph} {options : CompareOptions} {compare : TypeComparison g h}

/-- A variable of a well formed layout, with its type. -/
def WellFormedVariable (g : TypeGraph) (v : Variable g.Ref) : Prop :=
  v.WellFormed ∧ HasNumeral (g.info v.type).numberOfBytes

theorem WellFormedVariable.readable {v : Variable g.Ref} (hv : WellFormedVariable g v) :
    (v.map g.info).Readable := ⟨hv.1.slot, hv.2⟩

theorem Safe.fieldChange {old : Variable g.Ref} {updated : Variable h.Ref}
    (hold : WellFormedVariable g old) (hupdated : WellFormedVariable h updated)
    (hcompare : Safe E (compare old.type updated.type false) fun _ => True) :
    Safe E (fieldChange options compare old updated) fun change =>
      ∀ c, change = some c → ReadableOp (.change c) := by
  -- what is left when the change of the type is known, and when a declared type saves asking for it
  have hrest (change : Option TypeChange) : Safe E (do
      let difference ← (differenceOf options (old.map g.info) (updated.map h.info) change :
        Except Error _)
      return difference.map (FieldChange.mk (old.map g.info) (updated.map h.info)))
      fun change => ∀ c, change = some c → ReadableOp (.change c) := by
    refine (Safe.lift (exists_differenceOf options hold.readable hupdated.readable change)).bind
      fun d _ => Safe.pure ?_
    rintro c hc
    obtain ⟨_, -, rfl⟩ := Option.map_eq_some_iff.1 hc
    exact ⟨hold.readable, hupdated.readable⟩
  unfold Comparator.fieldChange
  refine (Safe.liftMisuse (exists_isRetyped _ _ hupdated.1.retypedFrom)).bind fun retyped _ => ?_
  cases retyped with
  | true => exact (Safe.pure trivial (R := fun _ => True)).bind fun change _ => hrest change
  | false => exact hcompare.bind fun change _ => hrest change

theorem Safe.alignVariables {old : List (Variable g.Ref)} {updated : List (Variable h.Ref)}
    (hold : ∀ x ∈ old, WellFormedVariable g x) (hupdated : ∀ y ∈ updated, WellFormedVariable h y)
    (hcompare : ∀ x ∈ old, ∀ y ∈ updated, Safe E (compare x.type y.type false) fun _ => True)
    (allowAppend : Bool) :
    Safe E (alignVariables options compare old updated allowAppend) fun _ => True := by
  unfold Comparator.alignVariables
  have hrow (x : Variable g.Ref) (hx : x ∈ old) : Safe E (do
        let changes ← updated.mapM fun y => Comparator.fieldChange options compare x y
        return (x.map g.info, changes))
      fun row => row.1.Readable ∧ ∀ c, some c ∈ row.2 → ReadableOp (.change c) := by
    refine (Safe.mapM updated fun y hy => Safe.fieldChange (hold x hx) (hupdated y hy)
      (hcompare x hx y hy)).bind fun changes hchanges => Safe.pure ⟨(hold x hx).readable, ?_⟩
    intro c hc
    obtain ⟨y, -, hy⟩ := exists_left_of_mem hchanges hc
    exact hy c rfl
  refine (Safe.mapM old hrow).bind fun rows hrows => ?_
  -- no operation holds other variables than those that were aligned
  have hops : ∀ op ∈ Alignment.ofChanges costOf rows (updated.map (·.map h.info)),
      ReadableOp op := by
    refine Alignment.forall_mem_ofChanges ?_ ?_
    · intro y hy
      obtain ⟨v, hv, rfl⟩ := List.mem_map.1 hy
      exact ⟨(hupdated v hv).readable, (hupdated v hv).readable⟩
    · intro row hrow
      obtain ⟨x, -, hx⟩ := exists_left_of_mem hrows hrow
      exact hx
  refine (Safe.modify _).bind fun _ _ => Safe.filterGapOps fun op hop => hops op ?_
  split at hop
  · exact List.mem_of_mem_filter hop
  · exact hop

/-! ### Types -/

theorem Safe.missingMembers (old updated : TypeInfo) :
    Safe E (missingMembers options old updated) fun _ => True := by
  unfold Comparator.missingMembers
  split
  · exact (Safe.modify _).bind fun _ _ => (Safe.modify _).bind fun _ _ => Safe.pure trivial
  · exact Safe.pure trivial

/-- What a comparison of two types needs to know of their parts: their sizes can be read, and
comparing them has no errors but the given ones. -/
structure SafeParts (E : Error → Prop) (compare : TypeComparison g h) (old : TypeNode g.Ref)
    (updated : TypeNode h.Ref) : Prop where
  oldBytes : ∀ a ∈ old.parts, HasNumeral (g.info a).numberOfBytes
  newBytes : ∀ b ∈ updated.parts, HasNumeral (h.info b).numberOfBytes
  compare : ∀ a ∈ old.parts, ∀ b ∈ updated.parts, ∀ allowAppend,
    Safe E (compare a b allowAppend) fun _ => True

section

variable {old : TypeNode g.Ref} {updated : TypeNode h.Ref}

theorem Safe.compareStructs (hold : WellFormedNode g.isValue old)
    (hupdated : WellFormedNode h.isValue updated) (hparts : SafeParts E compare old updated)
    (hhead : old.head = "t_struct") (hhead' : updated.head = "t_struct") (allowAppend : Bool) :
    Safe E (compareStructs options compare old updated allowAppend) fun _ => True := by
  unfold Comparator.compareStructs
  split
  · rename_i was is hwas his
    have hpart (v) (hv : v ∈ old.fields) : v.type ∈ old.parts := TypeNode.type_mem_parts hhead hv
    have hpart' (v) (hv : v ∈ updated.fields) : v.type ∈ updated.parts :=
      TypeNode.type_mem_parts hhead' hv
    rw [structMembers?_eq_fields hwas (hold.struct hhead was hwas),
      structMembers?_eq_fields his (hupdated.struct hhead' is his)]
    refine (Safe.alignVariables (fun x hx => ?_) (fun y hy => ?_)
      (fun x hx y hy => hparts.compare _ (hpart x hx) _ (hpart' y hy) false) allowAppend).bind
        fun _ _ => Safe.pure trivial
    · exact ⟨hold.fields hhead x hx, hparts.oldBytes _ (hpart x hx)⟩
    · exact ⟨hupdated.fields hhead' y hy, hparts.newBytes _ (hpart' y hy)⟩
  · exact Safe.missingMembers _ _

theorem Safe.compareEnums (hold : WellFormedNode g.isValue old)
    (hupdated : WellFormedNode h.isValue updated) (hhead : old.head = "t_enum")
    (hhead' : updated.head = "t_enum") :
    Safe E (compareEnums options old updated) fun _ => True := by
  unfold Comparator.compareEnums
  split
  · rename_i was is hwas his
    obtain ⟨names, hnames⟩ := Option.isSome_iff_exists.1 (hold.enum hhead was hwas)
    obtain ⟨names', hnames'⟩ := Option.isSome_iff_exists.1 (hupdated.enum hhead' is his)
    rw [hnames, hnames']
    exact Safe.pure trivial
  · exact Safe.missingMembers _ _

theorem Safe.compareMappings (hold : WellFormedNode g.isValue old)
    (hupdated : WellFormedNode h.isValue updated) (hparts : SafeParts E compare old updated)
    (hhead : old.head = "t_mapping") (hhead' : updated.head = "t_mapping") {was : List g.Ref}
    {is : List h.Ref} (hwas : old.args = some was) (his : updated.args = some is) :
    Safe E (compareMappings compare old updated was is) fun _ => True := by
  obtain ⟨key, value, hargs, hkey⟩ := hold.exists_keyAndValue hhead
  obtain ⟨key', value', hargs', hkey'⟩ := hupdated.exists_keyAndValue hhead'
  obtain rfl : was = [key, value] := Option.some.inj (hwas.symm.trans hargs)
  obtain rfl : is = [key', value'] := Option.some.inj (his.symm.trans hargs')
  have hsafe := hparts.compare
  rw [TypeNode.parts_of_args (.inl hhead) hargs, TypeNode.parts_of_args (.inl hhead') hargs']
    at hsafe
  have hvalues : Safe E (do
      let change ← compare value value' true
      return change.map (TypeChange.nested .mappingValue old.toTypeInfo updated.toTypeInfo))
      fun _ => True :=
    (hsafe value (by simp) value' (by simp) true).bind fun _ _ => Safe.pure trivial
  unfold Comparator.compareMappings
  simp only [keyAndValue, pure_bind, hkey, hkey', Bool.and_self, if_true]
  split
  · exact hvalues
  · refine (hsafe key (by simp) key' (by simp) false).bind fun keyChange _ => ?_
    cases keyChange with
    | some change => exact Safe.pure trivial
    | none => exact hvalues

theorem Safe.compareArrays (hold : WellFormedNode g.isValue old)
    (hupdated : WellFormedNode h.isValue updated) (hparts : SafeParts E compare old updated)
    (hhead : old.head = "t_array") (hhead' : updated.head = "t_array") {was : List g.Ref}
    {is : List h.Ref} (hwas : old.args = some was) (his : updated.args = some is)
    (allowAppend : Bool) :
    Safe E (compareArrays compare old updated was is allowAppend) fun _ => True := by
  obtain ⟨element, hargs⟩ := hold.exists_element hhead
  obtain ⟨element', hargs'⟩ := hupdated.exists_element hhead'
  obtain ⟨size, hsize, hnumber⟩ := hold.size hhead
  obtain ⟨size', hsize', hnumber'⟩ := hupdated.size hhead'
  obtain rfl : was = [element] := Option.some.inj (hwas.symm.trans hargs)
  obtain rfl : is = [element'] := Option.some.inj (his.symm.trans hargs')
  have hsafe := hparts.compare
  rw [TypeNode.parts_of_args (.inr hhead) hargs, TypeNode.parts_of_args (.inr hhead') hargs']
    at hsafe
  unfold Comparator.compareArrays
  refine (Safe.lift (exists_sizeChange hsize hsize' hnumber hnumber' allowAppend)).bind
    fun reason _ => ?_
  cases reason with
  | some reason => exact Safe.pure trivial
  | none =>
      exact (hsafe element (by simp) element' (by simp) false).bind fun _ _ => Safe.pure trivial

theorem Safe.compareApplied (hold : WellFormedNode g.isValue old)
    (hupdated : WellFormedNode h.isValue updated) (hparts : SafeParts E compare old updated)
    (hhead : old.head = updated.head) {was : List g.Ref} {is : List h.Ref}
    (hwas : old.args = some was) (his : updated.args = some is) (allowAppend : Bool) :
    Safe E (compareApplied options compare old updated was is allowAppend) fun _ => True := by
  unfold Comparator.compareApplied
  split
  · exact Safe.pure trivial
  split
  · rename_i huser
    exact (Safe.liftMisuse (exists_underlyingChanged (hold.userDefined huser)
      (hupdated.userDefined (hhead ▸ huser)))).bind fun _ _ => Safe.pure trivial
  split
  · rename_i hstruct
    exact Safe.compareStructs hold hupdated hparts hstruct (hhead ▸ hstruct) allowAppend
  split
  · rename_i henum
    exact Safe.compareEnums hold hupdated henum (hhead ▸ henum)
  split
  · rename_i hmapping
    exact Safe.compareMappings hold hupdated hparts hmapping (hhead ▸ hmapping) hwas his
  split
  · rename_i harray
    exact Safe.compareArrays hold hupdated hparts harray (hhead ▸ harray) hwas his allowAppend
  · exact Safe.pure trivial

/-- Comparing well formed types has only the errors that comparing their parts has. -/
theorem Safe.compareNodes (hold : WellFormedNode g.isValue old)
    (hupdated : WellFormedNode h.isValue updated) (hparts : SafeParts E compare old updated)
    (allowAppend : Bool) :
    Safe E (compareNodes options compare old updated allowAppend) fun _ => True := by
  unfold Comparator.compareNodes
  split
  · rename_i hfunctions
    obtain ⟨hfunction, hfunction'⟩ := Bool.and_eq_true_iff.1 hfunctions
    exact Safe.lift
      (exists_visibilityChange (hold.function hfunction) (hupdated.function hfunction'))
  rename_i hfunctions
  split
  · exact Safe.pure trivial
  refine (Safe.lift (exists_mayWiden hold hupdated allowAppend)).bind fun wide _ => ?_
  split
  · exact Safe.pure trivial
  split
  · exact Safe.pure trivial
  rename_i hheads
  have hhead : old.head = updated.head := not_not.1 hheads
  -- types of the same head are both functions, or neither is
  have hsame : isFunction old.toTypeInfo = isFunction updated.toTypeInfo := by
    rw [isFunction, isFunction, hhead]
  have hnot : isFunction old.toTypeInfo = false := by simpa [← hsame] using hfunctions
  have hargs : old.args.isSome ↔ updated.args.isSome := by
    rw [hold.args hnot, hupdated.args (hsame ▸ hnot), hhead]
  cases hwas : old.args with
  | none =>
      cases his : updated.args with
      | none => exact Safe.pure trivial
      | some is => simp [hwas, his] at hargs
  | some was =>
      cases his : updated.args with
      | none => simp [hwas, his] at hargs
      | some is => exact Safe.compareApplied hold hupdated hparts hhead hwas his allowAppend

end

/-! ### The recursion -/

section

variable {S : g.Ref → Prop} {T : h.Ref → Prop}
  (hS : ∀ a, S a → ∀ part, g.IsPart part a → S part)
  (hT : ∀ b, T b → ∀ part, h.IsPart part b → T part)
  (hnodes : ∀ (compare : TypeComparison g h) (a : g.Ref) (b : h.Ref) (allowAppend : Bool),
    S a → T b → (∀ x ∈ (g.node a).parts, ∀ y ∈ (h.node b).parts, ∀ allow,
      Safe E (compare x y allow) fun _ => True) →
    Safe E (compareNodes options compare (g.node a) (h.node b) allowAppend) fun _ => True)
  (hrecursive : ∀ a b label, S a → Relation.TransGen g.IsPart a a → T b →
    Relation.TransGen h.IsPart b b → E (.upgrade (.recursiveType label)))

include hS hT hnodes hrecursive

/-- A pair of types is met again only inside itself, so both of its types are inside themselves. -/
theorem safe_typeChange_of_nodes (remaining : Nat) :
    ∀ (inProgress : List (g.Ref × h.Ref × Bool)) (old : g.Ref) (updated : h.Ref)
      (allowAppend : Bool), inProgress.Nodup → pairCount g h ≤ remaining + inProgress.length →
      (∀ k ∈ inProgress, Relation.TransGen g.IsPart old k.1 ∧
        Relation.TransGen h.IsPart updated k.2.1) → S old → T updated →
      Safe E (typeChange options g h remaining inProgress old updated allowAppend)
        fun _ => True := by
  induction remaining with
  | zero =>
      intro inProgress old updated allowAppend hnodup hcount hinside hold hupdated
      refine Safe.remembering (Safe.throw ?_)
      -- there is no room for another pair, so this one is in progress
      have hmem : (old, updated, allowAppend) ∈ inProgress := by
        by_contra hnew
        have hlength := length_lt_pairCount hnodup hnew
        omega
      exact hrecursive old updated _ hold (hinside _ hmem).1 hupdated (hinside _ hmem).2
  | succ remaining ih =>
      intro inProgress old updated allowAppend hnodup hcount hinside hold hupdated
      refine Safe.remembering ?_
      split
      · rename_i hmem
        rw [List.contains_iff_mem] at hmem
        exact Safe.throw
          (hrecursive old updated _ hold (hinside _ hmem).1 hupdated (hinside _ hmem).2)
      · rename_i hnew
        refine Safe.tracking (hnodes _ old updated allowAppend hold hupdated ?_)
        -- parts are inside the pair at hand, and with it inside the pairs in progress
        intro a ha b hb allow
        refine ih _ a b allow (List.nodup_cons.2 ⟨by simpa using hnew, hnodup⟩)
          (by rw [List.length_cons]; omega) ?_ (hS old hold a ha) (hT updated hupdated b hb)
        intro k hk
        rcases List.mem_cons.1 hk with rfl | hk
        · exact ⟨.single ha, .single hb⟩
        · exact ⟨.head ha (hinside k hk).1, .head hb (hinside k hk).2⟩

theorem safe_compareTypes_of_nodes {old : g.Ref} {updated : h.Ref} (hold : S old)
    (hupdated : T updated) (allowAppend : Bool) :
    Safe E (compareTypes options g h old updated allowAppend) fun _ => True :=
  safe_typeChange_of_nodes hS hT hnodes hrecursive (pairCount g h) [] old updated allowAppend
    List.nodup_nil (Nat.le_refl _) (fun _ hk => absurd hk List.not_mem_nil) hold hupdated

end

/-- Some types are well formed, and all their parts are among them. -/
structure ClosedTypes (g : TypeGraph) (S : g.Ref → Prop) : Prop where
  wellFormed : ∀ a, S a → WellFormedNode g.isValue (g.node a)
  closed : ∀ a, S a → ∀ part, g.IsPart part a → S part

theorem closedTypes_of_wellFormed {d : DetailedLayout} (hd : d.WellFormed) :
    ClosedTypes d.graph d.Holds where
  wellFormed := hd.types
  closed := fun _ ha _ hpart => ha.of_isPart hpart

theorem wellFormedVariable_of_mem {d : DetailedLayout} (hd : d.WellFormed)
    {v : Variable d.graph.Ref} (hv : v ∈ d.vars) : WellFormedVariable d.graph v :=
  ⟨hd.vars v hv, (hd.types v.type ⟨v, hv, .refl⟩).bytes⟩

/-- Among well formed types a comparison gives up only where types of both sides are inside
themselves. -/
theorem safe_compareTypes {S : g.Ref → Prop} {T : h.Ref → Prop} (hS : ClosedTypes g S)
    (hT : ClosedTypes h T)
    (hrecursive : ∀ a b label, S a → Relation.TransGen g.IsPart a a → T b →
      Relation.TransGen h.IsPart b b → E (.upgrade (.recursiveType label)))
    {old : g.Ref} {updated : h.Ref} (hold : S old) (hupdated : T updated) (allowAppend : Bool) :
    Safe E (compareTypes options g h old updated allowAppend) fun _ => True := by
  refine safe_compareTypes_of_nodes hS.closed hT.closed ?_ hrecursive hold hupdated allowAppend
  intro compare a b allowAppend ha hb hparts
  refine Safe.compareNodes (hS.wellFormed a ha) (hT.wellFormed b hb) ⟨?_, ?_, hparts⟩ allowAppend
  · exact fun x hx => (hS.wellFormed x (hS.closed a ha x hx)).bytes
  · exact fun y hy => (hT.wellFormed y (hT.closed b hb y hy)).bytes

end StorageUpgrade.Comparator
