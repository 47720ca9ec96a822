import StorageUpgrade.Proofs.Compare.Positional
import StorageUpgrade.Proofs.Report.GapSize

/-!
# Explaining what a comparison finds

`Report.explainOp` fails on operations and changes of unknown kinds, and on arrays without a fixed
length whose length changed.  A comparison finds no such operation, so all that it finds in variables
whose positions are presentable can be explained.

## Strategy

* A change is `Explained` if its text can be written for every pair of variables, and so can the text
  of the operations inside it.  Each case of a comparison gives such a change when its parts do
  (`explained_of_nodeVerdict`).
* The text of a resized gap needs the length that the gap had.  The comparison of two arrays reads
  both lengths unless it finds a change that is said without them, so the change of the type of a
  variable can be said for this variable (`exists_explainType_of_nodeVerdict`).
* Changes are settled in some depth, so both hold of all of them by induction on the depth
  (`sayable_of_plainChange`).
-/

namespace StorageUpgrade

/-- The change of the type of a variable in a difference, if it is one. -/
def Difference.typeChange? : Difference → Option TypeChange
  | type change | shrinkGap change => some change
  | _ => none

namespace Report

open Comparator

/-! ### What can be explained -/

/-- The operations inside a changed type can be said. -/
def MembersSayable (change : TypeChange) : Prop :=
  ∀ c ∈ (levels change).flatten, ∃ lines, explainMembers c = .ok lines

/-- A change can be explained for every two variables, where the length of a gap can be read. -/
structure Explained (change : TypeChange) : Prop where
  text : ∀ old updated : TypedVariable, old.Presentable → updated.Presentable →
    (old.isGap = true → Variable.HasLength old.type) →
      ∃ text, explainType old updated change = .ok text
  members : MembersSayable change

/-- The difference of two variables can be explained. -/
structure DifferenceSayable (old updated : TypedVariable) (difference : Difference) : Prop where
  known : ∀ kind, difference ≠ .other kind
  text : ∀ c, difference.typeChange? = some c → ∃ text, explainType old updated c = .ok text
  members : ∀ c, difference.typeChange? = some c → MembersSayable c

/-- An operation can be explained, whatever it is. -/
def OpSayable : FieldOp → Prop
  | .change (.mk old updated difference) => DifferenceSayable old updated difference
  | _ => True

/-! ### The text of operations -/

/-- An operation is explained if the changes inside its types are. -/
theorem exists_explainOp {details : TypeChange → Except Error (List String)}
    (hdetails : ∀ c, MembersSayable c → ∃ lines, details c = .ok lines) (context : Context)
    (allowAppend : Bool) {op : FieldOp} (hop : OpSayable op) :
    ∃ text, explainOp details context allowAppend op = .ok text := by
  cases op with
  | change c =>
      obtain ⟨old, updated, difference⟩ := c
      have htyped (c : TypeChange) (hc : difference.typeChange? = some c) :
          ∃ text lines, explainType old updated c = .ok text ∧ details c = .ok lines := by
        obtain ⟨text, htext⟩ := hop.text c hc
        obtain ⟨lines, hlines⟩ := hdetails c (hop.members c hc)
        exact ⟨text, lines, htext, hlines⟩
      unfold explainOp
      cases difference with
      | type change | shrinkGap change =>
          obtain ⟨text, lines, htext, hlines⟩ := htyped change rfl
          simp only [htext, hlines, bind, Except.bind]
          exact ⟨_, rfl⟩
      | other kind => exact absurd rfl (hop.known kind)
      | _ => exact ⟨_, rfl⟩
  | _ => exact ⟨_, rfl⟩

theorem mem_of_mem_withoutFollowers {ops : List FieldOp} {op : FieldOp}
    (h : op ∈ withoutFollowers ops) : op ∈ ops := by
  cases ops with
  | nil => cases h
  | cons first ops =>
      rcases List.mem_cons.1 h with rfl | h
      · exact List.mem_cons_self
      · exact List.mem_cons_of_mem _ (List.mem_of_mem_filter h)

/-! ### Changes and what is inside them -/

theorem mem_flatten_joinLevels {α : Type} {x : α} {as bs : List (List α)} :
    x ∈ (joinLevels as bs).flatten ↔ x ∈ as.flatten ∨ x ∈ bs.flatten := by
  induction as generalizing bs with
  | nil => simp [joinLevels]
  | cons a as ih =>
      cases bs with
      | nil => simp [joinLevels]
      | cons b bs =>
          rw [joinLevels, List.flatten_cons, List.flatten_cons, List.flatten_cons, List.mem_append,
            List.mem_append, List.mem_append, List.mem_append, ih]
          tauto

/-- The changes inside some members are those inside the type of one of them. -/
theorem exists_of_mem_levelsOfOps {ops : List FieldOp} {c : TypeChange}
    (hc : c ∈ (levelsOfOps ops).flatten) :
    ∃ old updated change, Alignment.Op.change (.mk old updated (.type change)) ∈ ops ∧
      c ∈ (levels change).flatten := by
  induction ops with
  | nil => simp [levelsOfOps] at hc
  | cons op ops ih =>
      rw [levelsOfOps, mem_flatten_joinLevels] at hc
      rcases hc with hc | hc
      · cases op with
        | change change =>
            obtain ⟨old, updated, difference⟩ := change
            cases difference with
            | type change => exact ⟨old, updated, change, List.mem_cons_self, hc⟩
            | _ => simp [levelsOfOp, levelsOfChange, levelsOfDifference] at hc
        | _ => simp [levelsOfOp] at hc
      · obtain ⟨old, updated, change, hop, hc⟩ := ih hc
        exact ⟨old, updated, change, List.mem_cons_of_mem _ hop, hc⟩

/-- A change without parts has no operations inside. -/
theorem membersSayable_mismatch (reason : Mismatch) (was is : TypeInfo) :
    MembersSayable (.mismatch reason was is) := by
  intro c hc
  simp only [levels, List.flatten_cons, List.flatten_nil, List.append_nil, List.mem_singleton] at hc
  subst hc
  exact ⟨none, rfl⟩

theorem Explained.mismatch {reason : Mismatch} {was is : TypeInfo}
    (htext : ∀ old updated : TypedVariable, old.Presentable → updated.Presentable →
      (old.isGap = true → Variable.HasLength old.type) →
        ∃ text, explainMismatch reason was is old updated = .ok text) :
    Explained (.mismatch reason was is) where
  text := htext
  members := membersSayable_mismatch reason was is

theorem Explained.nested {inner : TypeChange} (hinner : Explained inner) (part : Part)
    (was is : TypeInfo) : Explained (.nested part was is inner) where
  text := by
    intro old updated hold hupdated hgap
    obtain ⟨text, htext⟩ := hinner.text old updated hold hupdated hgap
    unfold explainType
    rw [htext]
    exact ⟨_, rfl⟩
  members := by
    intro c hc
    -- a change of a key is not looked into
    cases part <;> simp only [levels, List.flatten_cons, List.flatten_nil, List.append_nil,
      List.mem_append, List.mem_singleton] at hc
    · subst hc
      exact ⟨none, rfl⟩
    all_goals
      rcases hc with rfl | hc
      · exact ⟨none, rfl⟩
      · exact hinner.members c hc

theorem Explained.enumMembers (was is : TypeInfo) (ops : List EnumOp) :
    Explained (.enumMembers was is ops) where
  text := fun _ _ _ _ _ => ⟨_, rfl⟩
  members := by
    intro c hc
    simp only [levels, List.flatten_cons, List.flatten_nil, List.append_nil,
      List.mem_singleton] at hc
    subst hc
    exact ⟨_, rfl⟩

theorem Explained.structMembers {ops : List FieldOp} (hops : ∀ op ∈ ops, OpSayable op)
    (was is : TypeInfo) (allowAppend : Bool) : Explained (.structMembers was is ops allowAppend) where
  text := fun _ _ _ _ _ => ⟨_, rfl⟩
  members := by
    intro c hc
    simp only [levels, List.flatten_cons, List.mem_append, List.mem_singleton] at hc
    rcases hc with rfl | hc
    · have hplain : ∀ op ∈ withoutFollowers ops,
          ∃ text, explainOp (fun _ => .ok []) .struct allowAppend op = .ok text := fun op hop =>
        exists_explainOp (fun _ _ => ⟨[], rfl⟩) .struct allowAppend
          (hops op (mem_of_mem_withoutFollowers hop))
      obtain ⟨lines, hlines, -⟩ := exists_mapM_of_forall hplain
      exact ⟨_, by rw [explainMembers, hlines]; rfl⟩
    · obtain ⟨old, updated, change, hop, hc⟩ := exists_of_mem_levelsOfOps hc
      exact (hops _ hop).members change rfl c hc

/-! ### What a comparison of types finds -/

section

variable {was is : TypeInfo}

theorem exists_describeUnderlying {changed : Bool}
    (hchanged : underlyingChanged was is = .ok changed) :
    ∃ text, describeUnderlying was is = .ok text := by
  unfold describeUnderlying
  split
  · exact ⟨_, rfl⟩
  · rename_i hdiffer
    rw [Bool.not_eq_true, Bool.or_eq_false_iff] at hdiffer
    unfold underlyingChanged at hchanged
    dsimp only at hchanged
    rw [hdiffer.1, if_neg Bool.false_ne_true] at hchanged
    -- both were given and could be normalized, so they are texts
    obtain ⟨old, hold, hchanged⟩ := exists_of_bind_ok hchanged
    obtain ⟨updated, hupdated, -⟩ := exists_of_bind_ok hchanged
    obtain ⟨hwas, his⟩ := Bool.or_eq_false_iff.1 hdiffer.1
    have htext {underlying : Json} {id : Option String} (hnull : underlying.isNull = false)
        (hid : underlyingId? underlying = .ok id) : ∃ text, underlying = .str text := by
      cases underlying with
      | str text => exact ⟨text, rfl⟩
      | null => cases hnull
      | _ => cases hid
    obtain ⟨old, hold⟩ := htext hwas hold
    obtain ⟨updated, hupdated⟩ := htext his hupdated
    rw [hold, hupdated]
    exact ⟨_, rfl⟩

/-- An array is resized from one fixed length to another, or between fixed and dynamic. -/
theorem resized_of_sizeChange {allowAppend : Bool} {reason : Mismatch}
    (hsize : sizeChange was is allowAppend = .ok (some reason)) :
    reason = .arrayDynamic ∨ (reason = .arrayShrink ∨ reason = .arrayGrow) ∧
      (∃ length, ArrayLength was length) ∧ ∃ length, ArrayLength is length := by
  unfold sizeChange at hsize
  split at hsize
  · rename_i hwas his
    split at hsize
    · split at hsize
      · cases hsize
      · cases hsize
        exact .inl rfl
    · rename_i hstatic
      obtain ⟨hwasStatic, hisStatic⟩ := not_or.1 hstatic
      obtain ⟨n, hn, hsize⟩ := exists_of_bind_ok hsize
      obtain ⟨m, hm, hsize⟩ := exists_of_bind_ok hsize
      refine .inr ⟨?_, ⟨m, arrayLength_of_arraySize? hwas hwasStatic hm⟩,
        n, arrayLength_of_arraySize? his hisStatic hn⟩
      split at hsize
      · cases hsize
        exact .inl rfl
      · split at hsize
        · cases hsize
          exact .inr rfl
        · cases hsize
  · cases hsize

theorem hasLength_of_sizeChange {allowAppend : Bool}
    (hsize : sizeChange was is allowAppend = .ok none) : Variable.HasLength was := by
  rcases sameLength_of_sizeChange hsize with ⟨hdynamic, -⟩ | ⟨m, -, hlength, -⟩
  · exact .inl hdynamic.1
  · exact .inr ⟨m, hlength⟩

theorem explained_of_visibilityChange {change : TypeChange}
    (hchange : visibilityChange was is = .ok (some change)) : Explained change := by
  unfold visibilityChange at hchange
  split at hchange
  · split at hchange
    · cases hchange
    · cases hchange
      exact .mismatch fun _ _ _ _ _ => ⟨_, rfl⟩
  · cases hchange

theorem explained_of_enumChange {old updated : List String} {change : TypeChange}
    (hchange : enumChange was is old updated = some change) : Explained change := by
  unfold enumChange at hchange
  dsimp only at hchange
  split at hchange
  · cases hchange
    exact .mismatch fun _ _ _ _ _ => ⟨_, rfl⟩
  · split at hchange
    · cases hchange
    · cases hchange
      exact .enumMembers was is _

theorem explained_of_sizeChange {allowAppend : Bool} {reason : Mismatch}
    (hsize : sizeChange was is allowAppend = .ok (some reason)) :
    Explained (.mismatch reason was is) := by
  refine .mismatch fun old updated hold hupdated hgap => ?_
  rcases resized_of_sizeChange hsize with rfl | ⟨rfl | rfl, hwas, his⟩
  · exact ⟨_, rfl⟩
  · exact exists_explainResize false hold hupdated hgap hwas his
  · exact exists_explainResize true hold hupdated hgap hwas his

end

variable {g h : TypeGraph} {options : CompareOptions} {T : TypeRelation g h}
  {A : MemberRelation g h} {old : TypeNode g.Ref} {updated : TypeNode h.Ref} {allowAppend : Bool}
  {change : TypeChange}

/-- A change of a type is explained if the changes of its parts and the operations on its members
are. -/
theorem explained_of_nodeVerdict
    (hT : ∀ o u a c, T o u a (some c) → Explained c)
    (hA : ∀ a ops, A old.fields updated.fields a ops → ∀ op ∈ ops, OpSayable op)
    (hverdict : NodeVerdict options T A old updated allowAppend (some change)) :
    Explained change := by
  generalize hresult : some change = result at hverdict
  cases hverdict with
  | functions hfunctions hchange => exact explained_of_visibilityChange (hresult ▸ hchange)
  | bytes | widened | plain | contract => cases hresult
  | obvious | unknown =>
      cases hresult
      exact .mismatch fun _ _ _ _ _ => ⟨_, rfl⟩
  | userDefined hsame hhead hchanged =>
      split at hresult
      · cases hresult
        obtain ⟨text, htext⟩ := exists_describeUnderlying hchanged
        exact .mismatch fun _ _ _ _ _ => ⟨_, by rw [explainMismatch, htext]; rfl⟩
      · cases hresult
  | missing =>
      split at hresult
      · cases hresult
      · cases hresult
        exact .mismatch fun _ _ _ _ _ => ⟨_, rfl⟩
  | struct hsame hhead hold hupdated hops =>
      split at hresult
      · cases hresult
      · cases hresult
        rw [← fields_of_bind_structMembers? hold, ← fields_of_bind_structMembers? hupdated] at hops
        exact .structMembers (hA _ _ hops) _ _ _
  | enum => exact explained_of_enumChange hresult.symm
  | mappingKey hsame hhead hvalues hknown hkey =>
      cases hresult
      exact (hT _ _ _ _ hkey).nested _ _ _
  | mapping hsame hhead hvalues hkey hvalue =>
      obtain ⟨inner, rfl, rfl⟩ := Option.map_eq_some_iff.1 hresult.symm
      exact (hT _ _ _ _ hvalue).nested _ _ _
  | arraySize hsame hhead hsize =>
      cases hresult
      exact explained_of_sizeChange hsize
  | array hsame hhead hsize helement =>
      obtain ⟨inner, rfl, rfl⟩ := Option.map_eq_some_iff.1 hresult.symm
      exact (hT _ _ _ _ helement).nested _ _ _

/-- The change of an array is said without its length, or the length can be read. -/
theorem hasLength_of_nodeVerdict (hhead : old.head = "t_array")
    (hverdict : NodeVerdict options T A old updated allowAppend (some change)) :
    Variable.HasLength old.toTypeInfo ∨
      change = .mismatch .obvious old.toTypeInfo updated.toTypeInfo ∨
        change = .mismatch .arrayDynamic old.toTypeInfo updated.toTypeInfo := by
  have hother {head : String} (hne : head ≠ "t_array") : old.head ≠ head :=
    fun heq => hne (heq.symm.trans hhead)
  generalize hresult : some change = result at hverdict
  cases hverdict with
  | functions hfunctions =>
      have hfunction := ((Bool.and_eq_true _ _).mp hfunctions).1
      rw [isFunction, hhead] at hfunction
      exact absurd hfunction (by decide)
  | obvious =>
      cases hresult
      exact .inr (.inl rfl)
  | arraySize hsame _ hsize =>
      cases hresult
      rcases resized_of_sizeChange hsize with rfl | ⟨-, hlength, -⟩
      · exact .inr (.inr rfl)
      · exact .inl (.inr hlength)
  | array hsame _ hsize => exact .inl (hasLength_of_sizeChange hsize)
  | bytes | widened | plain | contract => cases hresult
  | userDefined hsame hhead' | struct hsame hhead' | enum hsame hhead' | mappingKey hsame hhead'
  | mapping hsame hhead' => exact absurd hhead' (hother (by decide))
  | missing hsame hhead' =>
      rcases hhead' with hhead' | hhead'
      · exact absurd hhead' (hother (by decide))
      · exact absurd hhead' (hother (by decide))
  | unknown hsame hhead' => simp [hhead] at hhead'

/-- The change of the type of a variable can be said for this variable. -/
theorem exists_explainType_of_nodeVerdict (hexplained : Explained change)
    (hverdict : NodeVerdict options T A old updated allowAppend (some change))
    {x y : TypedVariable} (hx : x.Presentable) (hy : y.Presentable)
    (htype : x.type = old.toTypeInfo) : ∃ text, explainType x y change = .ok text := by
  by_cases hgap : x.isGap = true
  · have hhead : x.type.head = "t_array" := beq_iff_eq.1 ((Bool.and_eq_true _ _).mp hgap).2
    rcases hasLength_of_nodeVerdict (htype ▸ hhead) hverdict with hlength | rfl | rfl
    · exact hexplained.text x y hx hy fun _ => htype ▸ hlength
    · exact ⟨_, rfl⟩
    · exact ⟨_, rfl⟩
  · exact hexplained.text x y hx hy fun h => absurd h hgap

/-! ### What a comparison of variables finds -/

theorem typeChange?_of_differenceOf {x y : TypedVariable} {typeChange : Option TypeChange}
    {difference : Difference}
    (hdifference : differenceOf options x y typeChange = .ok (some difference)) :
    (∀ kind, difference ≠ .other kind) ∧
      ∀ c, difference.typeChange? = some c → typeChange = some c := by
  have hknown {renamed : Bool} {change : TypeChange} {difference : Difference}
      (hd : differenceOfTypes renamed x y change = .ok difference) :
      (∀ kind, difference ≠ .other kind) ∧
        ∀ c, difference.typeChange? = some c → some change = some c := by
    unfold differenceOfTypes at hd
    split at hd
    · obtain ⟨takes, -, hd⟩ := exists_of_bind_ok hd
      cases hd
      cases takes <;> exact ⟨nofun, nofun⟩
    · split at hd
      · obtain ⟨-, -, hd⟩ := exists_of_bind_ok hd
        cases hd
        exact ⟨nofun, fun _ hc => hc⟩
      · cases hd
        exact ⟨nofun, fun _ hc => hc⟩
  unfold differenceOf at hdifference
  dsimp only at hdifference
  split at hdifference
  · cases hdifference
    exact ⟨nofun, nofun⟩
  · obtain ⟨d, hd, hsome⟩ := exists_of_map_ok hdifference
    cases hsome
    exact hknown hd
  · split at hdifference
    · cases hdifference
      exact ⟨nofun, nofun⟩
    · obtain ⟨moved, -, rfl⟩ := Option.map_eq_some_iff.1 (Except.ok.inj hdifference)
      exact ⟨nofun, nofun⟩

/-- A change of a type is explained, and it can be said for the variables of this type. -/
structure Sayable (type : TypeInfo) (change : TypeChange) : Prop where
  explained : Explained change
  text : ∀ x y : TypedVariable, x.Presentable → y.Presentable → x.type = type →
    ∃ text, explainType x y change = .ok text

/-- The change of a variable can be explained if the change of its type can. -/
theorem opSayable_of_fieldVerdict {T : Option TypeChange → Prop} {x y : TypedVariable}
    (hx : x.Presentable) (hy : y.Presentable) (hT : ∀ c, T (some c) → Sayable x.type c)
    {c : FieldChange} (hverdict : FieldVerdict options T x y (some c)) : OpSayable (.change c) := by
  obtain ⟨retyped, typeChange, difference, -, hchange, hdifference, hc⟩ := hverdict
  obtain ⟨difference, rfl, rfl⟩ := Option.map_eq_some_iff.1 hc.symm
  obtain ⟨hknown, htyped⟩ := typeChange?_of_differenceOf hdifference
  have hsayable (c : TypeChange) (hc : difference.typeChange? = some c) : Sayable x.type c := by
    obtain rfl := htyped c hc
    rcases hchange with ⟨-, hnone⟩ | ⟨-, hsome⟩
    · cases hnone
    · exact hT c hsome
  exact ⟨hknown, fun c hc => (hsayable c hc).text x y hx hy rfl,
    fun c hc => (hsayable c hc).explained.members⟩

/-- What is reported of two lists of variables satisfies what all operations on them do. -/
theorem forall_mem_reported {Q : FieldOp → Prop}
    {change : Variable g.Ref → Variable h.Ref → Option FieldChange} {old : List (Variable g.Ref)}
    {updated : List (Variable h.Ref)} {reported : List FieldOp}
    (hanswer : answer (filterGapOps (reportable allowAppend (operations change old updated))) =
      .ok reported)
    (hold : ∀ x ∈ old, Q (.delete (x.map g.info)))
    (hupdated : ∀ y ∈ updated, Q (.insert (y.map h.info)) ∧ Q (.append (y.map h.info)))
    (hchange : ∀ x ∈ old, ∀ y ∈ updated, ∀ c, change x y = some c → Q (.change c)) :
    ∀ op ∈ reported, Q op := by
  intro op hop
  have hmem := (mem_reportable.1 (subset_of_answer_filterGapOps hanswer hop)).1
  refine Alignment.forall_mem_ofChanges ?_ ?_ op hmem
  · intro _ hmapped
    obtain ⟨y, hy, rfl⟩ := List.mem_map.1 hmapped
    exact hupdated y hy
  · intro _ hrow
    obtain ⟨x, hx, rfl⟩ := List.mem_map.1 hrow
    refine ⟨hold x hx, fun c hc => ?_⟩
    obtain ⟨y, hy, hc⟩ := List.mem_map.1 hc
    exact hchange x hx y hy c hc

section

variable (hg : g.Distinct) (hh : h.Distinct)
  (hold : ∀ a, ∀ v ∈ (g.node a).fields, (v.map g.info).Presentable)
  (hupdated : ∀ a, ∀ v ∈ (h.node a).fields, (v.map h.info).Presentable)

include hg hh hold hupdated

/-- Every change that is found in some depth can be explained, by induction on the depth. -/
theorem sayable_of_plainChange (depth : Nat) : ∀ (a : g.Ref) (b : h.Ref) (allowAppend : Bool)
    (c : TypeChange), Returns anyMemory (plainChange options g h depth a b allowAppend) (some c) →
      Sayable (g.info a) c := by
  induction depth with
  | zero => exact fun a b allowAppend c hplain => absurd hplain not_returns_plainChange_zero
  | succ depth ih =>
      intro a b allowAppend c hplain
      have hverdict := nodeVerdict_of_plainChange hg hh hplain
      have hmembers (allowAppend : Bool) (ops : List FieldOp)
          (hops : MembersCompared options
            (fun o u a c => Returns anyMemory (plainChange options g h depth o u a) c)
            (g.node a).fields (h.node b).fields allowAppend ops) : ∀ op ∈ ops, OpSayable op := by
        obtain ⟨change, hchange, hreported⟩ := hops
        refine forall_mem_reported hreported (fun _ _ => trivial) (fun _ _ => ⟨trivial, trivial⟩)
          fun x hx y hy c hc => ?_
        exact opSayable_of_fieldVerdict (hold a x hx) (hupdated b y hy)
          (fun c hc => ih x.type y.type false c hc) (hc ▸ (hchange x hx y hy).verdict)
      have hexplained := explained_of_nodeVerdict (fun o u a c hc => (ih o u a c hc).explained)
        hmembers hverdict
      exact ⟨hexplained, fun x y hx hy htype =>
        exists_explainType_of_nodeVerdict hexplained hverdict hx hy htype⟩

end

end Report
end StorageUpgrade
