import StorageUpgrade.Proofs.Alignment.Appending
import StorageUpgrade.Proofs.Compare.Cases
import StorageUpgrade.Proofs.Compare.Session
import StorageUpgrade.Proofs.TypeId.Refused

/-!
# Enums that are extended

An enum may get more members at its end, as long as its values take as many bytes as before.  The
names of the members are aligned like variables, and names that are appended are not reported, so no
change is found exactly if the old names are at the front of the new ones (`enumChange_cases`).
Otherwise the new size is reported, or the operations that are left, none of which appends.

A comparator says so of any two enums whose members are known, unless both are labelled like bytes
(`compareTypes_enums`).
-/

namespace StorageUpgrade

open StorageUpgrade.Alignment TypeId

namespace Comparator

/-! ### The names of the members -/

/-- The change of a name, which has no cost of its own. -/
def nameChange (a b : String) : Option (String × String) := if a = b then none else some (a, b)

theorem unchanged_nameChange_iff {was is : List String} : Unchanged nameChange was is ↔ was = is := by
  have hname : (fun a b => nameChange a b = none) = Eq := by
    funext a b
    simp [nameChange]
  rw [Unchanged, hname, List.forall₂_eq_eq_eq]

/-- Names are only appended if the old ones are at the front of the new ones. -/
theorem forall_isAppend_names_iff {was is : List String} :
    (∀ op ∈ Alignment.align nameChange (fun _ => none) was is, op.isAppend = true) ↔ was <+: is := by
  rw [forall_isAppend_align_iff fun _ _ => price_nonneg nofun _]
  constructor
  · rintro ⟨rest, new, rfl, hsame⟩
    exact unchanged_nameChange_iff.1 hsame ▸ List.prefix_append _ _
  · rintro ⟨new, rfl⟩
    exact ⟨was, new, rfl, unchanged_nameChange_iff.2 rfl⟩

/-- What becomes of an enum: it is only extended, its values get another size, or its members differ
by operations that do not append. -/
theorem enumChange_cases (old updated : TypeInfo) (was is : List String) :
    (enumSize was.length = enumSize is.length ∧ was <+: is ∧
      enumChange old updated was is = none) ∨
    (enumSize was.length ≠ enumSize is.length ∧
      enumChange old updated was is = some (.mismatch .enumResize old updated)) ∨
    (enumSize was.length = enumSize is.length ∧ ¬ was <+: is ∧
      ∃ ops, enumChange old updated was is = some (.enumMembers old updated ops) ∧ ops ≠ [] ∧
        ∀ op ∈ ops, op.isAppend = false) := by
  have hchange : enumChange old updated was is =
      if enumSize was.length ≠ enumSize is.length then some (.mismatch .enumResize old updated)
      else if ((Alignment.align nameChange (fun _ => none) was is).filter (!·.isAppend)).isEmpty
      then none
      else some (.enumMembers old updated
        ((Alignment.align nameChange (fun _ => none) was is).filter (!·.isAppend))) := rfl
  rw [hchange]
  by_cases hsize : enumSize was.length = enumSize is.length
  · have hempty : (Alignment.align nameChange (fun _ => none) was is).filter (!·.isAppend) = [] ↔
        was <+: is := by
      rw [← forall_isAppend_names_iff, List.filter_eq_nil_iff]
      simp only [Bool.not_eq_true', Bool.not_eq_false]
    rw [if_neg (not_not.2 hsize)]
    by_cases hfront : was <+: is
    · exact .inl ⟨hsize, hfront, if_pos (List.isEmpty_iff.2 (hempty.2 hfront))⟩
    · have hne := mt hempty.1 hfront
      refine .inr (.inr ⟨hsize, hfront, _, if_neg fun h => hne (List.isEmpty_iff.1 h), hne, ?_⟩)
      intro op hop
      simpa using (List.mem_filter.1 hop).2
  · exact .inr (.inl ⟨hsize, if_pos hsize⟩)

/-- An enum does not change exactly if it is only extended and its values keep their size. -/
theorem enumChange_eq_none_iff {old updated : TypeInfo} {was is : List String} :
    enumChange old updated was is = none ↔
      was <+: is ∧ enumSize was.length = enumSize is.length := by
  rcases enumChange_cases old updated was is with
    ⟨hsize, hfront, hchange⟩ | ⟨hsize, hchange⟩ | ⟨-, hfront, _, hchange, -⟩ <;> rw [hchange]
  · exact iff_of_true rfl ⟨hfront, hsize⟩
  · exact iff_of_false nofun fun h => hsize h.2
  · exact iff_of_false nofun fun h => hfront h.1

/-! ### The types -/

/-- A type that stands for an enum with known members, by their names. -/
structure IsEnum {ρ : Type} (n : TypeNode ρ) (names : List String) : Prop where
  head : n.head = "t_enum"
  args : n.args.isSome
  members : n.members.bind enumMembers? = some names

/-- An identifier with arguments has parentheses. -/
theorem mem_id_of_args {types : List (String × TypeEntry)} {ids : List String}
    {a : (TypeGraph.ofIds types ids).Ref} (h : ((TypeGraph.ofIds types ids).node a).args.isSome) :
    '(' ∈ ((TypeGraph.ofIds types ids).node a).id.toList := by
  have hnode : (TypeGraph.ofIds types ids).node a = TypeGraph.nodeOf types ids (ids.get a) :=
    TypeGraph.node_ofIds types ids a
  rw [hnode] at h ⊢
  unfold TypeGraph.nodeOf at h ⊢
  dsimp only at h ⊢
  split at h
  · rename_i parts hparts
    cases takenApart_of_ofId hparts with
    | plain => cases h
    | applied hid =>
        rw [hid, applied]
        exact List.mem_append_right _ List.mem_cons_self
  · cases h

section

variable {g h : TypeGraph} {options : CompareOptions} {compare : TypeComparison g h}
  {old : TypeNode g.Ref} {updated : TypeNode h.Ref} {allowAppend : Bool} {was is : List String}
  (hold : IsEnum old was) (hupdated : IsEnum updated is)

include hold hupdated

theorem compareEnums_of_isEnum : compareEnums options old updated =
    pure (enumChange old.toTypeInfo updated.toTypeInfo was is) := by
  obtain ⟨ms, hms, hwas⟩ := Option.bind_eq_some_iff.1 hold.members
  obtain ⟨ns, hns, his⟩ := Option.bind_eq_some_iff.1 hupdated.members
  unfold compareEnums
  rw [hms, hns]
  dsimp only
  rw [hwas, his]

/-- Enums are compared by their members, unless both are labelled like bytes. -/
theorem compareNodes_of_isEnum (hid : '(' ∈ old.id.toList) :
    compareNodes options compare old updated allowAppend =
      pure (if isByteLabel old.label && isByteLabel updated.label then none
        else enumChange old.toTypeInfo updated.toTypeInfo was is) := by
  have hfunction : isFunction old.toTypeInfo = false := by
    unfold isFunction
    rw [hold.head]
    decide
  cases hbytes : isByteLabel old.label && isByteLabel updated.label with
  | true =>
      unfold compareNodes
      rw [hfunction, Bool.false_and, hbytes]
      rfl
  | false =>
      obtain ⟨args, hargs⟩ := Option.isSome_iff_exists.1 hold.args
      obtain ⟨args', hargs'⟩ := Option.isSome_iff_exists.1 hupdated.args
      have hsame : SameHead old updated allowAppend args args' :=
        ⟨comparedByHead_of_mem hid hfunction hbytes, hold.head.trans hupdated.head.symm, hargs, hargs'⟩
      rw [hsame.compareNodes_eq, compareApplied_of_enum hold.head,
        compareEnums_of_isEnum hold hupdated]
      rfl

end

/-- A comparison of types that are not remembered, and whose change is known, leaves nothing behind
but this change. -/
theorem outcome_compareTypes_of_pure {g h : TypeGraph} {options : CompareOptions} {a : g.Ref}
    {b : h.Ref} {allowAppend : Bool} {s : ComparatorState} {change : Option TypeChange}
    (hnew : remembered? (pairKey g h (a, b, allowAppend)) s = none)
    (hnodes : ∀ compare : TypeComparison g h,
      compareNodes options compare (g.node a) (h.node b) allowAppend = pure change) :
    outcome (compareTypes options g h a b allowAppend) s =
      (.ok change, { s with cache := (pairKey g h (a, b, allowAppend), change) :: s.cache }) := by
  have hpairs : 0 < pairCount g h :=
    length_lt_pairCount (k := (a, b, allowAppend)) List.nodup_nil List.not_mem_nil
  obtain ⟨remaining, hremaining⟩ := Nat.exists_eq_add_of_lt hpairs
  rw [compareTypes, hremaining, Nat.zero_add, typeChange, List.contains_nil, hnodes]
  refine (outcome_remembering_of_new hnew).trans ?_
  rw [if_neg Bool.false_ne_true, outcome_tracking, outcome_pure]
  dsimp only
  rw [List.erase_cons_head]

/-- Two enums with known members, which a comparator has not compared before, are compatible exactly
if both are labelled like bytes, or the old members are the first of the updated ones and values
keep their size.  Otherwise their sizes are reported if they differ, and else operations that do not
append. -/
theorem compareTypes_enums {l l' : Layout} {items items' : List Item} {d d' : DetailedLayout}
    (hd : l.detailItems items = .ok d) (hd' : l'.detailItems items' = .ok d')
    (options : CompareOptions) {a : d.graph.Ref} {b : d'.graph.Ref} {was is : List String}
    (ha : IsEnum (d.graph.node a) was) (hb : IsEnum (d'.graph.node b) is) (allowAppend : Bool)
    {s : ComparatorState} (hnew : remembered? (pairKey d.graph d'.graph (a, b, allowAppend)) s = none) :
    ∃ change, (outcome (compareTypes options d.graph d'.graph a b allowAppend) s).1 = .ok change ∧
      (change = none ↔
        isByteLabel (d.graph.info a).label = true ∧ isByteLabel (d'.graph.info b).label = true ∨
        was <+: is ∧ enumSize was.length = enumSize is.length) ∧
      ∀ c, change = some c →
        (enumSize was.length ≠ enumSize is.length →
          c = .mismatch .enumResize (d.graph.info a) (d'.graph.info b)) ∧
        (enumSize was.length = enumSize is.length →
          ∃ ops, c = .enumMembers (d.graph.info a) (d'.graph.info b) ops ∧ ops ≠ [] ∧
            ∀ op ∈ ops, op.isAppend = false) := by
  obtain ⟨ids, -, rfl⟩ := Layout.exists_of_detailItems hd
  obtain ⟨ids', -, rfl⟩ := Layout.exists_of_detailItems hd'
  refine ⟨_, congrArg Prod.fst (outcome_compareTypes_of_pure hnew fun _ =>
    compareNodes_of_isEnum ha hb (mem_id_of_args ha.args)), ?_⟩
  rw [← Bool.and_eq_true, TypeGraph.info, TypeGraph.info]
  split
  · rename_i hbytes
    exact ⟨iff_of_true rfl (.inl hbytes), fun c hc => absurd hc.symm (Option.some_ne_none c)⟩
  · rename_i hbytes
    rcases enumChange_cases ((TypeGraph.ofIds l.types ids).node a).toTypeInfo
      ((TypeGraph.ofIds l'.types ids').node b).toTypeInfo was is with
      ⟨hsize, hfront, hchange⟩ | ⟨hsize, hchange⟩ | ⟨hsize, hfront, ops, hchange, hops⟩
    · rw [hchange]
      exact ⟨iff_of_true rfl (.inr ⟨hfront, hsize⟩), fun c hc => absurd hc.symm (Option.some_ne_none c)⟩
    · rw [hchange]
      refine ⟨iff_of_false (Option.some_ne_none _) fun h => hsize (h.resolve_left hbytes).2, ?_⟩
      rintro c ⟨⟩
      exact ⟨fun _ => rfl, fun h => absurd h hsize⟩
    · rw [hchange]
      refine ⟨iff_of_false (Option.some_ne_none _) fun h => hfront (h.resolve_left hbytes).1, ?_⟩
      rintro c ⟨⟩
      exact ⟨fun h => absurd hsize h, fun _ => ⟨ops, rfl, hops⟩⟩

/-- A layout of one variable of an enum with the given members. -/
def modeLayout (names : List String) : Layout where
  storage := [{ label := .str "mode", type := .str "t_enum(Mode)4" }]
  types :=
    [("t_enum(Mode)4", { label := .str "enum Mode", members := some (names.map .inr) })]

/-- The types of its variable. -/
def modeGraph (names : List String) : TypeGraph :=
  .ofIds (modeLayout names).types ["t_enum(Mode)4", "Mode"]

/-- Members that change their order are reported, although others are appended behind them. -/
theorem compareTypes_enums_reordered :
    ∃ ops, (outcome (compareTypes {} (modeGraph ["Idle", "Open"])
        (modeGraph ["Open", "Idle", "Done"]) ⟨0, by decide⟩ ⟨0, by decide⟩ true) {}).1 =
          .ok (some (.enumMembers ((modeGraph ["Idle", "Open"]).info ⟨0, by decide⟩)
            ((modeGraph ["Open", "Idle", "Done"]).info ⟨0, by decide⟩) ops)) ∧
      ops ≠ [] ∧ ∀ op ∈ ops, op.isAppend = false := by
  have hdetail (names : List String) (hnames : names ∈ [["Idle", "Open"], ["Open", "Idle", "Done"]]) :
      (modeLayout names).detailItems (modeLayout names).storage = .ok ⟨modeGraph names,
        (modeLayout names).storage.filterMap
          (TypeGraph.resolve? ["t_enum(Mode)4", "Mode"])⟩ :=
    Layout.detailItems_of_reachable (by revert names; decide +kernel)
  have hwas : IsEnum ((modeGraph ["Idle", "Open"]).node ⟨0, by decide⟩) ["Idle", "Open"] :=
    ⟨by decide, by decide, by decide⟩
  have his : IsEnum ((modeGraph ["Open", "Idle", "Done"]).node ⟨0, by decide⟩)
      ["Open", "Idle", "Done"] := ⟨by decide, by decide, by decide⟩
  obtain ⟨change, hchange, hnone, hsome⟩ := compareTypes_enums (hdetail _ List.mem_cons_self)
    (hdetail _ (List.mem_cons_of_mem _ List.mem_cons_self)) {} hwas his true (s := {}) rfl
  cases change with
  | none => exact absurd (hnone.1 rfl) (by decide)
  | some c =>
      obtain ⟨ops, rfl, hops⟩ := (hsome c rfl).2 (by decide)
      exact ⟨ops, hchange, hops⟩

end Comparator
end StorageUpgrade
