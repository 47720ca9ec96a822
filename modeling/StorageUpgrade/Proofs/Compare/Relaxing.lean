import StorageUpgrade.Proofs.Compare.NodeCase
import StorageUpgrade.Proofs.Compare.Field

/-!
# Comparisons that let more pass

Two comparisons of the same types may be asked to let different things pass.  If one lets pass
whatever the other does, then two types without a change for the stricter one have none for the more
lenient one, and an array that got shorter did so for both (`NodeVerdict.eq_of_lenient`).  The same
is so of two variables whose names the stricter comparison accepts
(`FieldVerdict.eq_of_lenient`).  Other changes may turn into different ones.

## Strategy

* Both comparisons fall under the case of the two types, `nodeCase`.  In each case the change that the
  stricter one finds, or the absence of one, says enough of the parts for the more lenient one.
-/

namespace StorageUpgrade.Comparator

variable {g h : TypeGraph} {options options' : CompareOptions}

/-- A type did not change, or it is an array that got shorter. -/
def OnlyShrinks (change : Option TypeChange) : Prop := ∀ c ∈ change, c.isArrayShrink = true

@[simp] theorem onlyShrinks_none : OnlyShrinks none := nofun

theorem OnlyShrinks.of_some {c : TypeChange} (h : OnlyShrinks (some c)) : c.isArrayShrink = true :=
  h c rfl

/-! ### Types -/

section

variable {T T' : TypeRelation g h} {A A' : MemberRelation g h} {old : TypeNode g.Ref}
  {updated : TypeNode h.Ref} {allowAppend : Bool} {change change' : Option TypeChange}

/-- A change of a part is no array that got shorter, so there is none. -/
theorem OnlyShrinks.eq_none_of_map {part : Part} {inner : Option TypeChange} {was is : TypeInfo}
    (h : OnlyShrinks (inner.map (.nested part was is))) : inner = none := by
  cases inner with
  | none => rfl
  | some c => cases h.of_some

/-- A more lenient comparison of two types finds no change where a stricter one finds none, and it
finds that an array got shorter where the stricter one does. -/
theorem NodeVerdict.eq_of_lenient
    (hverdict : NodeVerdict options T A old updated allowAppend change)
    (hverdict' : NodeVerdict options' T' A' old updated allowAppend change')
    (hcustom : options.allowCustomTypes = true → options'.allowCustomTypes = true)
    (hT : ∀ a ∈ old.parts, ∀ b ∈ updated.parts, ∀ allow c, T a b allow none → T' a b allow c →
      c = none)
    (hA : change = none → old.head = "t_struct" → updated.head = "t_struct" → ∀ was is ops,
      old.members.bind structMembers? = some was → updated.members.bind structMembers? = some is →
        A was is allowAppend [] → A' was is allowAppend ops → ops = [])
    (hshrinks : OnlyShrinks change) : change' = change := by
  have hfinds := hverdict.finds
  have hfinds' := hverdict'.finds
  generalize nodeCase old updated allowAppend = found at hfinds hfinds'
  cases found with
  | functions => exact Except.ok.inj (hfinds'.symm.trans hfinds)
  | same | obvious | unknown => exact hfinds'.trans hfinds.symm
  | userDefined =>
      obtain ⟨changed, hchanged, rfl⟩ := hfinds
      obtain ⟨changed', hchanged', rfl⟩ := hfinds'
      rw [Except.ok.inj (hchanged'.symm.trans hchanged)]
  | missing =>
      obtain rfl := hfinds
      obtain rfl := hfinds'
      -- the stricter comparison lets such types pass, so the more lenient one does, too
      have hallow : options.allowCustomTypes = true := by
        by_contra hno
        rw [if_neg hno] at hshrinks
        cases hshrinks.of_some
      rw [if_pos hallow, if_pos (hcustom hallow)]
  | struct was is =>
      obtain ⟨hhead, hhead', hwas, his, ops, hops, rfl⟩ := hfinds
      obtain ⟨-, -, -, -, ops', hops', rfl⟩ := hfinds'
      obtain rfl : ops = [] := by
        by_contra hno
        rw [if_neg (by simpa using hno)] at hshrinks
        cases hshrinks.of_some
      obtain rfl := hA rfl hhead hhead' was is ops' hwas his hops hops'
      rfl
  | enum was is => exact hfinds'.trans hfinds.symm
  | mapping oldKey oldValue newKey newValue =>
      obtain ⟨hold, hupdated, hfinds⟩ := hfinds
      obtain ⟨-, -, hfinds'⟩ := hfinds'
      rcases hfinds with ⟨inner, -, -, rfl⟩ | ⟨hkey, inner, hvalue, rfl⟩
      · cases hshrinks.of_some
      · obtain rfl : inner = none := hshrinks.eq_none_of_map
        rcases hfinds' with ⟨inner', hknown, hkey', rfl⟩ | ⟨-, inner', hvalue', rfl⟩
        · rcases hkey with hunknown | hkey
          · exact absurd (hknown.symm.trans hunknown) Bool.false_ne_true
          · cases hT oldKey (by simp [hold]) newKey (by simp [hupdated]) _ _ hkey hkey'
        · rw [hT oldValue (by simp [hold]) newValue (by simp [hupdated]) _ _ hvalue hvalue']
  | array oldElement newElement =>
      rcases hfinds with ⟨reason, hsize, rfl⟩ | ⟨hsize, a, ha, b, hb, hold, hupdated, inner, hpart, rfl⟩
      · rcases hfinds' with ⟨reason', hsize', rfl⟩ | ⟨hsize', -⟩
        · cases hsize.symm.trans hsize'
          rfl
        · cases hsize.symm.trans hsize'
      · obtain rfl : inner = none := hshrinks.eq_none_of_map
        rcases hfinds' with ⟨reason', hsize', -⟩ | ⟨-, a', ha', b', hb', -, -, inner', hpart', rfl⟩
        · cases hsize.symm.trans hsize'
        · obtain rfl := Option.mem_unique ha ha'
          obtain rfl := Option.mem_unique hb hb'
          rw [hT a hold b hupdated _ _ hpart hpart']

end

/-! ### Variables -/

section

variable {T T' : Option TypeChange → Prop} {old updated : TypedVariable}
  {change change' : Option FieldChange}

/-- The options have a bearing on the difference of two variables only through what they say of the
names. -/
theorem differenceOf_congr
    (hrenamed : isRenamed options old updated = isRenamed options' old updated)
    (typeChange : Option TypeChange) :
    differenceOf options old updated typeChange = differenceOf options' old updated typeChange := by
  unfold differenceOf
  rw [hrenamed]

theorem isRenamed_of_allowRenames (hrenames : options.allowRenames = true) :
    isRenamed options old updated = false := by
  simp [isRenamed, hrenames]

/-- Two variables that do not differ have types without a change, and one that uses up a gap without
another name is an array that got shorter. -/
theorem onlyShrinks_of_differenceOf {typeChange : Option TypeChange}
    {difference : Option Difference}
    (hd : differenceOf options old updated typeChange = .ok difference)
    (hgap : ∀ d ∈ difference, (FieldChange.mk old updated d).ConsumesGap)
    (hrenamed : isRenamed options old updated = false) : OnlyShrinks typeChange := by
  cases difference with
  | none =>
      rw [(differenceOf_eq_none_iff.1 hd).1]
      exact onlyShrinks_none
  | some d =>
      have hconsumes := hgap d rfl
      cases d with
      | finishGap =>
          obtain ⟨c, rfl, hof⟩ := differenceOfTypes_of_differenceOf rfl (by simp) hd
          rw [(differenceOfTypes_finishGap_iff.1 hof).1] at hrenamed
          cases hrenamed
      | shrinkGap shrink =>
          obtain ⟨c, rfl, hof⟩ := differenceOfTypes_of_differenceOf rfl (by simp) hd
          rintro _ ⟨⟩
          exact (differenceOfTypes_shrinkGap_iff.1 hof).2.1
      | _ => exact hconsumes.elim

/-- Where a comparison accepts the names of two variables and does not report them, one that accepts
all names finds the same. -/
theorem FieldVerdict.eq_of_lenient (hverdict : FieldVerdict options T old updated change)
    (hverdict' : FieldVerdict options' T' old updated change')
    (hrenames : options'.allowRenames = true)
    (hT : ∀ c c', OnlyShrinks c → T c → T' c' → c' = c)
    (hgap : ∀ c ∈ change, c.ConsumesGap ∧ isRenamed options old updated = false) :
    change' = change := by
  obtain ⟨retyped, typeChange, difference, hretyped, hcases, hd, rfl⟩ := hverdict
  obtain ⟨retyped', typeChange', difference', hretyped', hcases', hd', rfl⟩ := hverdict'
  obtain rfl : retyped = retyped' := Except.ok.inj (hretyped.symm.trans hretyped')
  have hrenamed : isRenamed options old updated = false := by
    cases difference with
    | none => exact (differenceOf_eq_none_iff.1 hd).2.1
    | some d => exact (hgap _ rfl).2
  have hshrinks : OnlyShrinks typeChange := by
    refine onlyShrinks_of_differenceOf hd ?_ hrenamed
    rintro d hsome
    exact (hgap _ (Option.mem_map_of_mem _ hsome)).1
  obtain rfl : typeChange' = typeChange := by
    rcases hcases with ⟨hyes, hnone⟩ | ⟨hno, hchange⟩
    · rcases hcases' with ⟨-, hnone'⟩ | ⟨hno', -⟩
      · rw [hnone, hnone']
      · rw [hyes] at hno'
        cases hno'
    · rcases hcases' with ⟨hyes', -⟩ | ⟨-, hchange'⟩
      · rw [hno] at hyes'
        cases hyes'
      · exact hT _ _ hshrinks hchange hchange'
  have hsame : isRenamed options old updated = isRenamed options' old updated :=
    hrenamed.trans (isRenamed_of_allowRenames hrenames).symm
  rw [differenceOf_congr hsame, hd'] at hd
  rw [Except.ok.inj hd]

end

end StorageUpgrade.Comparator
