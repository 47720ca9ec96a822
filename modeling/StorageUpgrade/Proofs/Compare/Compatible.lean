import StorageUpgrade.Proofs.Compare.Enums
import StorageUpgrade.Proofs.Compare.Field

/-!
# Types that are compatible

`Compatible` says, without reference to an algorithm, when values of one type may be read as values
of another one: the least relation that is closed under the ways in which types can correspond.
Its flag says whether the type may grow at its end.  Only values of mappings may do so, since
nothing is stored behind them.

If a comparator finds no change of a type, then the two types are compatible
(`compatible_of_compareTypes`).  What it remembers does not matter as long as it is right, so this
holds of comparators that have been used before.
-/

namespace StorageUpgrade.Comparator

/-! ### Types without parts -/

/-- The number of bits of an unsigned integer type. -/
def UintWidth (t : TypeInfo) (bits : Nat) : Prop :=
  ∃ ds, uintBits? t.id = some ds ∧ digitsNumber ds = .ok bits

/-- The length of a static array. -/
def ArrayLength (t : TypeInfo) (length : Nat) : Prop :=
  leadingDigits t.tail ≠ [] ∧ digitsNumber (leadingDigits t.tail) = .ok length

/-- An array is dynamic. -/
def IsDynamic (t : TypeInfo) : Prop :=
  leadingDigits t.tail = [] ∧ startsWithText "dyn" (t.tail.getD "") = true

/-- Two arrays are dynamic, or static of the same length; where it may grow, the second one may also
be longer. -/
def SameLength (allowAppend : Bool) (old updated : TypeInfo) : Prop :=
  (IsDynamic old ∧ IsDynamic updated) ∨
    ∃ m n, ArrayLength old m ∧ ArrayLength updated n ∧ (m = n ∨ allowAppend = true ∧ m ≤ n)

/-- No difference is recorded between the types that two user defined value types stand for. -/
structure SameUnderlying (old updated : TypeInfo) : Prop where
  ids : ∀ a b, old.underlying = .str a → updated.underlying = .str b →
    TypeId.normalize a = TypeId.normalize b
  sizes : ∀ m n, old.numberOfBytes = some m → updated.numberOfBytes = some n → m = n

section

variable {old updated : TypeInfo} {allowAppend : Bool}

theorem visibility_of_visibilityChange (hchange : visibilityChange old updated = .ok none) :
    ∃ v, visibility? old = some v ∧ visibility? updated = some v := by
  unfold visibilityChange at hchange
  split at hchange
  · rename_i was is hwas his
    split at hchange
    · rename_i hsame
      exact ⟨was, hwas, hsame ▸ his⟩
    · cases hchange
  · cases hchange

theorem widths_of_mayWiden (hwiden : mayWiden old updated allowAppend = .ok true) :
    allowAppend = true ∧ ∃ m n, UintWidth old m ∧ UintWidth updated n ∧ m ≤ n := by
  unfold mayWiden at hwiden
  split at hwiden
  · rename_i hgrow
    refine ⟨hgrow, ?_⟩
    unfold isUintGrowth at hwiden
    split at hwiden
    · rename_i was is hwas his
      obtain ⟨n, hn, hwiden⟩ := exists_of_bind_ok hwiden
      obtain ⟨m, hm, hwiden⟩ := exists_of_bind_ok hwiden
      exact ⟨m, n, ⟨was, hwas, hm⟩, ⟨is, his, hn⟩, by simpa using hwiden⟩
    · cases hwiden
  · cases hwiden

theorem isDigit_of_mem_leadingDigits {tail : Option String} {c : Char}
    (hc : c ∈ leadingDigits tail) : isDigit c = true := by
  rw [leadingDigits, spanDigits, List.span_eq_takeWhile_dropWhile] at hc
  exact List.all_eq_true.1 List.all_takeWhile c hc

/-- Digits are no `dyn`. -/
theorem ofList_leadingDigits_ne_dyn (tail : Option String) :
    String.ofList (leadingDigits tail) ≠ "dyn" := by
  intro hdyn
  have hchars : leadingDigits tail = ['d', 'y', 'n'] := by
    have htoList := congrArg String.toList hdyn
    rwa [String.toList_ofList] at htoList
  have hdigit : isDigit 'd' = true :=
    isDigit_of_mem_leadingDigits (hchars ▸ List.mem_cons_self)
  exact absurd hdigit (by decide)

theorem ArrayLength.arraySize?_eq {length : Nat} (hlength : ArrayLength old length) :
    arraySize? old = some (String.ofList (leadingDigits old.tail)) := by
  unfold arraySize?
  split
  · rename_i hnil
    exact absurd hnil hlength.1
  · rfl

theorem isDynamic_of_arraySize? (hsize : arraySize? old = some "dyn") : IsDynamic old := by
  unfold arraySize? at hsize
  split at hsize
  · rename_i hnil
    split at hsize
    · rename_i hdyn
      exact ⟨hnil, hdyn⟩
    · cases hsize
  · exact absurd (Option.some_inj.1 hsize) (ofList_leadingDigits_ne_dyn _)

theorem arrayLength_of_arraySize? {size : String} {length : Nat}
    (hsize : arraySize? old = some size) (hstatic : size ≠ "dyn")
    (hlength : digitsNumber size.toList = .ok length) : ArrayLength old length := by
  unfold arraySize? at hsize
  split at hsize
  · split at hsize
    · exact absurd (Option.some_inj.1 hsize).symm hstatic
    · cases hsize
  · rename_i hdigits
    obtain rfl := Option.some_inj.1 hsize
    rw [String.toList_ofList] at hlength
    exact ⟨hdigits, hlength⟩

theorem sameLength_of_sizeChange (hsize : sizeChange old updated allowAppend = .ok none) :
    SameLength allowAppend old updated := by
  unfold sizeChange at hsize
  split at hsize
  · rename_i was is hwas his
    split at hsize
    · rename_i hdyn
      split at hsize
      · rename_i hsame
        subst hsame
        obtain rfl : was = "dyn" := hdyn.elim id id
        exact .inl ⟨isDynamic_of_arraySize? hwas, isDynamic_of_arraySize? his⟩
      · cases hsize
    · rename_i hstatic
      obtain ⟨hwasStatic, hisStatic⟩ := not_or.1 hstatic
      obtain ⟨n, hn, hsize⟩ := exists_of_bind_ok hsize
      obtain ⟨m, hm, hsize⟩ := exists_of_bind_ok hsize
      refine .inr ⟨m, n, arrayLength_of_arraySize? hwas hwasStatic hm,
        arrayLength_of_arraySize? his hisStatic hn, ?_⟩
      split at hsize
      · cases hsize
      · split at hsize
        · cases hsize
        · rename_i hshrink hgrow
          cases allowAppend with
          | true => exact .inr ⟨rfl, by omega⟩
          | false =>
              simp only [Bool.not_false, Bool.true_and, decide_eq_true_eq] at hgrow
              exact .inl (by omega)
  · cases hsize

theorem ids_of_underlyingChanged (hchanged : underlyingChanged old updated = .ok false)
    {a b : String} (ha : old.underlying = .str a) (hb : updated.underlying = .str b) :
    TypeId.normalize a = TypeId.normalize b := by
  unfold underlyingChanged at hchanged
  rw [ha, hb] at hchanged
  obtain ⟨was, hwas, hchanged⟩ := exists_of_bind_ok hchanged
  obtain ⟨is, his, hchanged⟩ := exists_of_bind_ok hchanged
  cases hwas
  cases his
  have hids := (Bool.or_eq_false_iff.1 (Except.ok.inj hchanged)).1
  simpa using hids

theorem sizes_of_underlyingChanged (hchanged : underlyingChanged old updated = .ok false)
    {m n : String} (hm : old.numberOfBytes = some m) (hn : updated.numberOfBytes = some n) :
    m = n := by
  unfold underlyingChanged at hchanged
  rw [hm, hn] at hchanged
  dsimp only at hchanged
  split at hchanged
  · simpa using hchanged
  · obtain ⟨was, -, hchanged⟩ := exists_of_bind_ok hchanged
    obtain ⟨is, -, hchanged⟩ := exists_of_bind_ok hchanged
    have hsizes := (Bool.or_eq_false_iff.1 (Except.ok.inj hchanged)).2
    simpa using hsizes

theorem sameUnderlying_of_underlyingChanged (hchanged : underlyingChanged old updated = .ok false) :
    SameUnderlying old updated where
  ids _ _ ha hb := ids_of_underlyingChanged hchanged ha hb
  sizes _ _ hm hn := sizes_of_underlyingChanged hchanged hm hn

end

/-! ### Types and their parts -/

/-- The updated variable declares that its type was the old one before. -/
def Retyped (old updated : TypedVariable) : Prop :=
  ∃ label, updated.retypedFrom = .str label ∧ old.type.label = .str (trimText label)

theorem retyped_of_isRetyped {old updated : TypedVariable}
    (hretyped : isRetyped old updated = .ok true) : Retyped old updated := by
  unfold isRetyped at hretyped
  split at hretyped
  · cases hretyped
  · rename_i label hlabel
    exact ⟨label, hlabel, by simpa using hretyped⟩
  · cases hretyped
  · cases hretyped

/-- `partner` gives the place of the partner of each old member: the two do not differ, or they use
up a gap.  What is nobody's partner lies within a gap that is used up, or behind all partners where
members may be appended. -/
structure MembersKept (options : CompareOptions) (g h : TypeGraph) (allowAppend : Bool)
    (old : List (Variable g.Ref)) (updated : List (Variable h.Ref)) (partner : Nat → Nat) :
    Prop where
  increasing : ∀ ⦃i j : Nat⦄, i < j → j < old.length → partner i < partner j
  meets : ∀ ⦃i : Nat⦄ ⦃x : Variable g.Ref⦄, old[i]? = some x →
    ∃ y change, updated[partner i]? = some y ∧ fieldChange? options g h x y = .ok change ∧
      ∀ c, change = some c → c.ConsumesGap
  others : ∀ ⦃j : Nat⦄ ⦃y : Variable h.Ref⦄, updated[j]? = some y →
    (∃ i < old.length, partner i = j) ∨
      (∃ i x z c, old[i]? = some x ∧ updated[partner i]? = some z ∧
        fieldChange? options g h x z = .ok (some c) ∧ c.ConsumesGap ∧
          (y.map h.info).LiesWithin (x.map g.info)) ∨
      allowAppend = true ∧ ∀ i < old.length, partner i < j

variable {options : CompareOptions} {g h : TypeGraph}

theorem MembersKept.of_passing (hg : g.Distinct) (hh : h.Distinct)
    {change : Variable g.Ref → Variable h.Ref → Option FieldChange} {old : List (Variable g.Ref)}
    {updated : List (Variable h.Ref)} {allowAppend : Bool} {partner : Nat → Nat}
    (hchange : ∀ x ∈ old, ∀ y ∈ updated, fieldChange? options g h x y = .ok (change x y))
    (hpassing : Passing change old updated allowAppend partner) :
    MembersKept options g h allowAppend old updated partner where
  increasing := hpassing.increasing
  meets i x hx := by
    obtain ⟨y, hy, hgap⟩ := hpassing.meets hx
    exact ⟨y, change x y, hy, hchange x (List.mem_of_getElem? hx) y (List.mem_of_getElem? hy), hgap⟩
  others j y hy := by
    rcases hpassing.others hy with hpartner | ⟨i, x, z, c, hx, hz, hc, hgap, hwithin⟩ | hbehind
    · exact .inl hpartner
    · have hxz := hchange x (List.mem_of_getElem? hx) z (List.mem_of_getElem? hz)
      rw [hc] at hxz
      rw [((fieldVerdict_of_fieldChange? hg hh hxz).gap hgap).1] at hwithin
      exact .inr (.inl ⟨i, x, z, c, hx, hz, hxz, hgap, hwithin⟩)
    · exact .inr (.inr hbehind)

/-- Values of the first type may be read as values of the second; the flag says whether the type may
grow at its end. -/
inductive Compatible (options : CompareOptions) (g h : TypeGraph) : Bool → g.Ref → h.Ref → Prop
  | function {allowAppend old updated visibility} (hold : isFunction (g.info old) = true)
      (hupdated : isFunction (h.info updated) = true)
      (hwas : visibility? (g.info old) = some visibility)
      (his : visibility? (h.info updated) = some visibility) :
      Compatible options g h allowAppend old updated
  | byte {allowAppend old updated} (hold : isByteLabel (g.info old).label = true)
      (hupdated : isByteLabel (h.info updated).label = true) :
      Compatible options g h allowAppend old updated
  | wider {old updated m n} (hold : UintWidth (g.info old) m)
      (hupdated : UintWidth (h.info updated) n) (hle : m ≤ n) :
      Compatible options g h true old updated
  | plain {allowAppend old updated} (hhead : (g.info old).head = (h.info updated).head)
      (hold : (g.node old).args = none) (hupdated : (h.node updated).args = none) :
      Compatible options g h allowAppend old updated
  | contract {allowAppend old updated} (hold : (g.info old).head = "t_contract")
      (hupdated : (h.info updated).head = "t_contract") :
      Compatible options g h allowAppend old updated
  | userDefined {allowAppend old updated} (hold : (g.info old).head = "t_userDefinedValueType")
      (hupdated : (h.info updated).head = "t_userDefinedValueType")
      (hsame : SameUnderlying (g.info old) (h.info updated)) :
      Compatible options g h allowAppend old updated
  | enum {allowAppend old updated was is} (hold : (g.info old).head = "t_enum")
      (hupdated : (h.info updated).head = "t_enum")
      (hwas : (g.node old).members.bind enumMembers? = some was)
      (his : (h.node updated).members.bind enumMembers? = some is)
      (hsize : enumSize was.length = enumSize is.length) (hfront : was <+: is) :
      Compatible options g h allowAppend old updated
  | struct {allowAppend old updated was is partner} (hold : (g.info old).head = "t_struct")
      (hupdated : (h.info updated).head = "t_struct")
      (hwas : (g.node old).members.bind structMembers? = some was)
      (his : (h.node updated).members.bind structMembers? = some is)
      (hkept : MembersKept options g h allowAppend was is partner)
      (htypes : ∀ (i : Nat) x y, was[i]? = some x → is[partner i]? = some y →
        fieldChange? options g h x y = .ok none → ¬ Retyped (x.map g.info) (y.map h.info) →
          Compatible options g h false x.type y.type) :
      Compatible options g h allowAppend old updated
  /-- Members that are unknown are not looked at if that is asked for. -/
  | unchecked {allowAppend old updated} (hallow : options.allowCustomTypes = true)
      (hold : (g.info old).head = "t_struct" ∨ (g.info old).head = "t_enum")
      (hhead : (g.info old).head = (h.info updated).head)
      (hmembers : (g.node old).members = none ∨ (h.node updated).members = none) :
      Compatible options g h allowAppend old updated
  | mapping {allowAppend old updated oldKey oldValue newKey newValue}
      (hold : (g.info old).head = "t_mapping") (hupdated : (h.info updated).head = "t_mapping")
      (hwas : (g.node old).args = some [oldKey, oldValue])
      (his : (h.node updated).args = some [newKey, newValue])
      (hkey : (g.info oldKey).head ≠ "unknown" → Compatible options g h false oldKey newKey)
      (hvalue : Compatible options g h true oldValue newValue) :
      Compatible options g h allowAppend old updated
  | array {allowAppend old updated oldElement newElement was is}
      (hold : (g.info old).head = "t_array") (hupdated : (h.info updated).head = "t_array")
      (hwas : (g.node old).args = some (oldElement :: was))
      (his : (h.node updated).args = some (newElement :: is))
      (hlength : SameLength allowAppend (g.info old) (h.info updated))
      (helement : Compatible options g h false oldElement newElement) :
      Compatible options g h allowAppend old updated

/-- The types of members that do not differ are compatible, unless a type is declared. -/
theorem FieldVerdict.retyped_or {T : Option TypeChange → Prop} {old updated : TypedVariable}
    (hverdict : FieldVerdict options T old updated none) : Retyped old updated ∨ T none := by
  obtain ⟨retyped, typeChange, difference, hretyped, hcases, hd, hnone⟩ := hverdict
  obtain rfl := Option.map_eq_none_iff.1 hnone.symm
  obtain ⟨rfl, -, -⟩ := differenceOf_eq_none_iff.1 hd
  rcases hcases with ⟨rfl, -⟩ | ⟨-, hT⟩
  · exact .inl (retyped_of_isRetyped hretyped)
  · exact .inr hT

/-- Types without a change in some depth are compatible.  The induction is on the depth: parts of
types are compared with one level less. -/
theorem compatible_of_plainChange (hg : g.Distinct) (hh : h.Distinct) (depth : Nat) :
    ∀ (old : g.Ref) (updated : h.Ref) (allowAppend : Bool),
      Returns anyMemory (plainChange options g h depth old updated allowAppend) none →
        Compatible options g h allowAppend old updated := by
  induction depth with
  | zero =>
      intro old updated allowAppend hplain
      exact absurd hplain not_returns_plainChange_zero
  | succ depth ih =>
      intro old updated allowAppend hplain
      have hverdict := nodeVerdict_of_plainChange hg hh hplain
      generalize hnone : (none : Option TypeChange) = change at hverdict
      cases hverdict with
      | functions hfunctions hchange =>
          subst hnone
          obtain ⟨hold, hupdated⟩ := (Bool.and_eq_true _ _).mp hfunctions
          obtain ⟨visibility, hwas, his⟩ := visibility_of_visibilityChange hchange
          exact .function hold hupdated hwas his
      | bytes hfunctions hbytes =>
          obtain ⟨hold, hupdated⟩ := (Bool.and_eq_true _ _).mp hbytes
          exact .byte hold hupdated
      | widened hfunctions hbytes hwiden =>
          obtain ⟨rfl, m, n, hold, hupdated, hle⟩ := widths_of_mayWiden hwiden
          exact .wider hold hupdated hle
      | plain hcompared hhead hold hupdated => exact .plain hhead hold hupdated
      | contract hsame hhead => exact .contract hhead (hsame.head ▸ hhead)
      | userDefined hsame hhead hchanged =>
          split at hnone
          · cases hnone
          · rename_i hno
            rw [Bool.eq_false_iff.2 hno] at hchanged
            exact .userDefined hhead (hsame.head ▸ hhead)
              (sameUnderlying_of_underlyingChanged hchanged)
      | missing hsame hhead hmembers =>
          split at hnone
          · rename_i hallow
            exact .unchecked hallow hhead hsame.head hmembers
          · cases hnone
      | struct hsame hhead hold hupdated hops =>
          split at hnone
          · rename_i hempty
            rw [List.isEmpty_iff.1 hempty] at hops
            obtain ⟨change, hchange, hnil⟩ := hops
            obtain ⟨partner, hpassing⟩ := exists_passing hnil
            refine .struct hhead (hsame.head ▸ hhead) hold hupdated
              (.of_passing hg hh (fun x hx y hy => (hchange x hx y hy).eq_ok) hpassing) ?_
            -- partners that do not differ have types without a change in a smaller depth
            intro i x y hx hy hxy hretyped
            obtain ⟨hfield, hverdict⟩ := hchange x (List.mem_of_getElem? hx) y
              (List.mem_of_getElem? hy)
            rw [hxy] at hfield
            rw [← Except.ok.inj hfield] at hverdict
            exact ih _ _ _ (hverdict.retyped_or.resolve_left hretyped)
          · cases hnone
      | enum hsame hhead hold hupdated =>
          obtain ⟨hfront, hsize⟩ := enumChange_eq_none_iff.1 hnone.symm
          exact .enum hhead (hsame.head ▸ hhead) hold hupdated hsize hfront
      | mapping hsame hhead hvalues hkey hvalue =>
          obtain rfl := Option.map_eq_none_iff.1 hnone.symm
          refine .mapping hhead (hsame.head ▸ hhead) hsame.oldArgs hsame.newArgs ?_
            (ih _ _ _ hvalue)
          intro hknown
          rcases hkey with hunknown | hkey
          · exact absurd (beq_iff_eq.1 hunknown) hknown
          · exact ih _ _ _ hkey
      | array hsame hhead hsize helement =>
          obtain rfl := Option.map_eq_none_iff.1 hnone.symm
          exact .array hhead (hsame.head ▸ hhead) hsame.oldArgs hsame.newArgs
            (sameLength_of_sizeChange hsize) (ih _ _ _ helement)
      | obvious | mappingKey | arraySize | unknown => cases hnone

/-- If a comparator finds no change of a type, then the types are compatible. -/
theorem compatible_of_compareTypes (hg : g.Distinct) (hh : h.Distinct) {s t : ComparatorState}
    {old : g.Ref} {updated : h.Ref} {allowAppend : Bool} (hs : Faithful options g h s.cache)
    (hnone : outcome (compareTypes options g h old updated allowAppend) s = (.ok none, t)) :
    Compatible options g h allowAppend old updated := by
  obtain ⟨depth, hdepth⟩ := (settled_of_typeChange hg hh _ _ _ _ _ hs hnone).2
  exact compatible_of_plainChange hg hh depth _ _ _ hdepth

/-- Mappings of addresses to a type. -/
def mappingGraph (value : String) : TypeGraph :=
  .ofIds [] ["t_mapping(t_address," ++ value ++ ")", "t_address", value]

theorem answer_mappingGraph :
    answer (compareTypes {} (mappingGraph "t_uint128") (mappingGraph "t_uint256") ⟨0, by decide⟩
      ⟨0, by decide⟩ false) = .ok none := by
  decide +kernel

/-- The values of mappings may get wider. -/
theorem compatible_mappingGraph :
    Compatible {} (mappingGraph "t_uint128") (mappingGraph "t_uint256") false ⟨0, by decide⟩
      ⟨0, by decide⟩ :=
  compatible_of_compareTypes (TypeGraph.distinct_ofIds (by decide))
    (TypeGraph.distinct_ofIds (by decide)) (s := {}) faithful_nil
    (Prod.ext answer_mappingGraph rfl)

end StorageUpgrade.Comparator
