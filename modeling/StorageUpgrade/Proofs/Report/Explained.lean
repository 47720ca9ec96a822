import StorageUpgrade.Proofs.Compare.GapUse
import StorageUpgrade.Proofs.Compare.Session
import StorageUpgrade.Proofs.Report.Changes

/-!
# Every report of a comparison can be explained

The operations that a comparison reports are among those that it finds, all of which can be explained
in presentable layouts.  So `Report.explain` gives a text for every report: it has one block for each
operation, except for changes of position behind the first one, and it is empty if and only if the
report passes (`exists_blocks_of_compareLayouts`).  Slots with one digit more are read all the same,
but what comes of them may be too long to be written (`not_explained_lastSlot`).
-/

namespace StorageUpgrade

/-- The position of every variable and of every member of a struct is presentable, and the places
where variables are declared are texts. -/
structure DetailedLayout.Presentable (d : DetailedLayout) : Prop where
  vars : ∀ v ∈ d.vars, (v.map d.graph.info).Presentable
  places : ∀ v ∈ d.vars, IsOptionalText v.src ∧ IsOptionalText v.contract
  fields : ∀ a, ∀ v ∈ (d.graph.node a).fields, (v.map d.graph.info).Presentable

namespace Report

open Comparator

variable {options : CompareOptions}

/-! ### The text of a report -/

theorem exists_placeText {place : Json} (hplace : IsOptionalText place) :
    ∃ text, placeText place = .ok text := by
  cases hplace <;> exact ⟨_, rfl⟩

theorem exists_explainNested {change : TypeChange} (h : MembersSayable change) :
    ∃ lines, explainNested change = .ok lines := by
  obtain ⟨lines, hlines, -⟩ := exists_mapM_of_forall h
  exact ⟨_, by rw [explainNested, hlines]; rfl⟩

/-- The operations that are explained: the first one, and all that are no change of position. -/
theorem withoutFollowers_eq (ops : List FieldOp) : withoutFollowers ops =
    (ops.zipIdx.filter fun p => p.2 == 0 || !p.1.isLayout).map Prod.fst := by
  cases ops with
  | nil => rfl
  | cons op ops =>
      have hrest : (ops.zipIdx 1).filter (fun p => p.2 == 0 || !p.1.isLayout) =
          (ops.zipIdx 1).filter ((!FieldOp.isLayout ·) ∘ Prod.fst) := by
        refine List.filter_congr fun p hp => ?_
        have hindex : (p.2 == 0) = false := by
          have := List.le_snd_of_mem_zipIdx hp
          rw [beq_eq_false_iff_ne]
          omega
        rw [hindex, Bool.false_or]
        rfl
      rw [withoutFollowers, List.zipIdx_cons, List.filter_cons_of_pos rfl, List.map_cons, hrest,
        ← List.filter_map, List.zipIdx_map_fst]

/-- A block has a colon behind the place, at least. -/
theorem ne_empty_of_block {bold : Bool} {op : FieldOp} {text : String}
    (h : block bold op = .ok text) : text ≠ "" := by
  obtain ⟨place, -, h⟩ := exists_of_bind_ok h
  obtain ⟨body, -, h⟩ := exists_of_bind_ok h
  cases h
  intro hempty
  have hchars := congrArg String.toList hempty
  simp at hchars

theorem intercalate_eq_empty_iff {blocks : List String} (hne : ∀ text ∈ blocks, text ≠ "") :
    "\n\n".intercalate blocks = "" ↔ blocks = [] := by
  rw [← String.toList_inj, String.toList_intercalate]
  cases blocks with
  | nil => simp
  | cons text blocks =>
      have htext : text.toList ≠ [] := fun h =>
        hne text List.mem_cons_self (String.toList_inj.1 h)
      cases blocks <;> simp [List.intercalate_cons_cons, htext]

/-- Whatever a comparator has compared before, each report that it makes on presentable layouts can
be explained, in blocks for the first operation and for all others that are no change of position;
the text is empty if and only if the report passes. -/
theorem exists_blocks_of_compareLayouts {l l' : Layout} (old : l.Details) (updated : l'.Details)
    (hold : old.layout.Presentable) (hupdated : updated.layout.Presentable) {s : ComparatorState}
    (hright : RightForLayouts options l l' s.cache) {ops : List FieldOp}
    (hops : (outcome (compareLayouts options old.layout updated.layout) s).1 = .ok ops)
    (bold : Bool) :
    ∃ blocks, List.Forall₂ (fun op text => block bold op = .ok text)
        ((ops.zipIdx.filter fun p => p.2 == 0 || !p.1.isLayout).map Prod.fst) blocks ∧
      explain bold ⟨ops⟩ = .ok ("\n\n".intercalate blocks) ∧
      ("\n\n".intercalate blocks = "" ↔ passes ⟨ops⟩ = true) := by
  have hg := Layout.distinct_of_detailItems old.detailed
  have hh := Layout.distinct_of_detailItems updated.detailed
  have hanswer : answer (compareLayouts options old.layout updated.layout) = .ok ops := by
    rw [answer, ← hops]
    exact (sameResult_compareLayouts old updated (s := {}) (fun _ _ => faithful_nil) hright).1
  obtain ⟨change, hchange, hreported⟩ := exists_of_answer_align hg hh hanswer
  have hsayable : ∀ op ∈ ops, OpSayable op := by
    refine forall_mem_reported hreported (fun _ _ => trivial) (fun _ _ => ⟨trivial, trivial⟩)
      fun x hx y hy c hc => ?_
    have hverdict := fieldVerdict_of_fieldChange? hg hh (hchange x hx y hy)
    refine opSayable_of_fieldVerdict (hold.vars x hx) (hupdated.vars y hy) (fun c hsettled => ?_)
      (hc ▸ hverdict)
    obtain ⟨depth, hdepth⟩ := hsettled
    exact sayable_of_plainChange hg hh hold.fields hupdated.fields depth _ _ _ c hdepth
  have hplaces : ∀ op ∈ ops, IsOptionalText (place op) := by
    refine forall_mem_reported hreported (fun x hx => (hold.places x hx).2)
      (fun y hy => ⟨(hupdated.places y hy).1, (hupdated.places y hy).1⟩) fun x hx y hy c hc => ?_
    obtain ⟨-, -, difference, -, -, -, hverdict⟩ :=
      fieldVerdict_of_fieldChange? hg hh (hchange x hx y hy)
    obtain ⟨difference, -, rfl⟩ := Option.map_eq_some_iff.1 (hverdict.symm.trans hc)
    exact (hupdated.places y hy).1
  have hblocks : ∀ op ∈ withoutFollowers ops, ∃ text, block bold op = .ok text := by
    intro op hop
    have hmem := mem_of_mem_withoutFollowers hop
    obtain ⟨place, hplace⟩ := exists_placeText (hplaces op hmem)
    obtain ⟨text, htext⟩ := exists_explainOp (fun _ => exists_explainNested) .layout true
      (hsayable op hmem)
    exact ⟨_, by rw [block, hplace, htext]; rfl⟩
  obtain ⟨blocks, hmap, hforall⟩ := exists_mapM_of_forall hblocks
  refine ⟨blocks, withoutFollowers_eq ops ▸ hforall, by rw [explain, hmap]; rfl, ?_⟩
  have hne : ∀ text ∈ blocks, text ≠ "" := by
    intro text htext
    obtain ⟨op, -, hblock⟩ := exists_left_of_mem hforall htext
    exact ne_empty_of_block hblock
  rw [intercalate_eq_empty_iff hne, ← List.length_eq_zero_iff, ← hforall.length_eq,
    List.length_eq_zero_iff, passes, List.isEmpty_iff]
  cases ops <;> simp [withoutFollowers]

/-! ### Gaps that are resized -/

/-- Books by their owner, the members of which are given. -/
def booksLayout (members : List Item) : Layout where
  storage :=
    [{ label := .str "books", type := .str "t_mapping(t_address,t_struct(Book)7_storage)"
       src := .str "Library.sol:3", slot := some "0", offset := some 0
       contract := .str "Library" }]
  types :=
    [("t_address", { label := .str "address", numberOfBytes := some "20" }),
     ("t_mapping(t_address,t_struct(Book)7_storage)",
      { label := .str "mapping(address => struct Book)", numberOfBytes := some "32" }),
     ("t_struct(Book)7_storage",
      { label := .str "struct Book", members := some (members.map .inl)
        numberOfBytes := some "96" }),
     ("t_uint256", { label := .str "uint256", numberOfBytes := some "32" }),
     ("t_array(t_uint256)2_storage", { label := .str "uint256[2]", numberOfBytes := some "64" }),
     ("t_array(t_uint256)1_storage", { label := .str "uint256[1]", numberOfBytes := some "32" })]

/-- A number of pages, and a gap for two numbers. -/
def pagesAndGap : List Item :=
  [{ label := .str "pages", type := .str "t_uint256", slot := some "0", offset := some 0 },
    { label := .str "__gap", type := .str "t_array(t_uint256)2_storage", slot := some "1"
      offset := some 0 }]

/-- A gap for one number, and a number of pages. -/
def gapAndPages : List Item :=
  [{ label := .str "__gap", type := .str "t_array(t_uint256)1_storage", slot := some "0"
     offset := some 0 },
    { label := .str "pages", type := .str "t_uint256", slot := some "1", offset := some 0 }]

/-- The details of books that use the listed types. -/
def booksDetails (members : List Item) (ids : List String)
    (hids : TypeGraph.reachable (booksLayout members).types
      ((booksLayout members).storage.map (·.type)) = .ok ids) : (booksLayout members).Details where
  items := (booksLayout members).storage
  layout := ⟨.ofIds (booksLayout members).types ids,
    (booksLayout members).storage.filterMap (TypeGraph.resolve? ids)⟩
  detailed := Layout.detailItems_of_reachable hids

/-- A gap in the struct that a mapping holds gets shorter and moves to the front. -/
theorem exists_blocks_booksLayout :
    ∃ (old : (booksLayout pagesAndGap).Details) (updated : (booksLayout gapAndPages).Details)
      (ops : List FieldOp) (blocks : List String),
      old.layout.Presentable ∧ updated.layout.Presentable ∧
        answer (compareLayouts {} old.layout updated.layout) = .ok ops ∧
          List.Forall₂ (fun op text => block false op = .ok text)
            ((ops.zipIdx.filter fun p => p.2 == 0 || !p.1.isLayout).map Prod.fst) blocks ∧
          explain false ⟨ops⟩ = .ok ("\n\n".intercalate blocks) ∧
          ("\n\n".intercalate blocks = "" ↔ passes ⟨ops⟩ = true) ∧ passes ⟨ops⟩ = false := by
  let old := booksDetails pagesAndGap
    ["t_mapping(t_address,t_struct(Book)7_storage)", "t_address", "t_struct(Book)7_storage", "Book",
      "t_uint256", "t_array(t_uint256)2_storage"] rfl
  let updated := booksDetails gapAndPages
    ["t_mapping(t_address,t_struct(Book)7_storage)", "t_address", "t_struct(Book)7_storage", "Book",
      "t_array(t_uint256)1_storage", "t_uint256"] rfl
  have hold : old.layout.Presentable := ⟨by decide +kernel, by decide +kernel, by decide +kernel⟩
  have hupdated : updated.layout.Presentable :=
    ⟨by decide +kernel, by decide +kernel, by decide +kernel⟩
  have hfails : (answer (compareLayouts {} old.layout updated.layout)).toOption.map List.isEmpty =
      some false := by
    decide +kernel
  cases hanswer : answer (compareLayouts {} old.layout updated.layout) with
  | error e =>
      rw [hanswer] at hfails
      cases hfails
  | ok ops =>
      rw [hanswer] at hfails
      obtain ⟨blocks, hblocks, htext, hempty⟩ := exists_blocks_of_compareLayouts old updated hold
        hupdated (fun _ _ => faithful_nil) hanswer false
      exact ⟨old, updated, ops, blocks, hold, hupdated, hanswer, hblocks, htext, hempty,
        Option.some.inj hfails⟩

/-! ### A slot with one digit too many -/

/-- Rows of 32 and of 16 bytes. -/
def rowLayout : Layout where
  types :=
    [("t_uint8", { label := .str "uint8", numberOfBytes := some "1" }),
     ("t_array(t_uint8)32_storage", { label := .str "uint8[32]", numberOfBytes := some "32" }),
     ("t_array(t_uint8)16_storage", { label := .str "uint8[16]", numberOfBytes := some "32" })]

/-- A gap in a slot. -/
def rowItem (type slot : String) : Item :=
  { label := .str "__gap", type := .str type, slot := some slot, offset := some 0 }

/-- The types of the longer row. -/
def longGraph : TypeGraph := .ofIds rowLayout.types ["t_array(t_uint8)32_storage", "t_uint8"]

/-- The types of the shorter row. -/
def shortGraph : TypeGraph := .ofIds rowLayout.types ["t_array(t_uint8)16_storage", "t_uint8"]

/-- A gap of 32 bytes in a slot. -/
def longRow (slot : String) : Variable longGraph.Ref :=
  { label := .str "__gap", type := ⟨0, by decide⟩, slot := some slot, offset := some 0 }

/-- A gap of 16 bytes in the first slot. -/
def shortRow : Variable shortGraph.Ref :=
  { label := .str "__gap", type := ⟨0, by decide⟩, slot := some "0", offset := some 0 }

theorem detailItems_longRow (slot : String) :
    rowLayout.detailItems [rowItem "t_array(t_uint8)32_storage" slot] =
      .ok ⟨longGraph, [longRow slot]⟩ := by
  have hids : TypeGraph.reachable rowLayout.types [.str "t_array(t_uint8)32_storage"] =
      .ok ["t_array(t_uint8)32_storage", "t_uint8"] := rfl
  exact Layout.detailItems_of_reachable hids

theorem detailItems_shortRow :
    rowLayout.detailItems [rowItem "t_array(t_uint8)16_storage" "0"] =
      .ok ⟨shortGraph, [shortRow]⟩ := by
  have hids : TypeGraph.reachable rowLayout.types [.str "t_array(t_uint8)16_storage"] =
      .ok ["t_array(t_uint8)16_storage", "t_uint8"] := rfl
  exact Layout.detailItems_of_reachable hids

/-- How the type of the gap changes from the longer row to the shorter one. -/
def rowShrink : TypeChange :=
  .mismatch .arrayShrink (longGraph.info ⟨0, by decide⟩) (shortGraph.info ⟨0, by decide⟩)

/-- How the gap changes from the longer row to the shorter one. -/
def rowChange (slot : String) : FieldChange :=
  .mk ((longRow slot).map longGraph.info) (shortRow.map shortGraph.info) (.shrinkGap rowShrink)

section

variable {slot : String} {n : Nat} (hn : numeral slot = .ok n)

include hn

theorem start?_longRow : ((longRow slot).map longGraph.info).start? = .ok (some (n * 32)) := by
  simp [longRow, Variable.start?, Variable.map, hn, slotSize, bind, Except.bind]

theorem end?_longRow : ((longRow slot).map longGraph.info).end? = .ok (some (n * 32 + 32)) := by
  rw [Variable.end?, start?_longRow hn]
  rfl

/-- The shorter row does not end where the longer one did, unless that was in the first slot. -/
theorem endsWith_longRow (hpos : n ≠ 0) :
    (shortRow.map shortGraph.info).endsWith ((longRow slot).map longGraph.info) = .ok false := by
  have hend : (shortRow.map shortGraph.info).end? = .ok (some 32) := rfl
  have hne : (some (n * 32 + 32 : Int) == some 32) = false := by
    rw [beq_eq_false_iff_ne, Ne, Option.some.injEq]
    omega
  simp [Variable.endsWith, hend, end?_longRow hn, bind, Except.bind, hne]

theorem fieldChange?_longRow (hpos : n ≠ 0) :
    fieldChange? {} longGraph shortGraph (longRow slot) shortRow =
      .ok (some (rowChange slot)) := by
  have hshrinks : differenceOfTypes false ((longRow slot).map longGraph.info)
      (shortRow.map shortGraph.info) rowShrink = .ok (.shrinkGap rowShrink) :=
    differenceOfTypes_shrinkGap_iff.2 ⟨rfl, rfl, rfl, rfl, _, endsWith_longRow hn hpos⟩
  have hdifference : differenceOf {} ((longRow slot).map longGraph.info)
      (shortRow.map shortGraph.info) (some rowShrink) = .ok (some (.shrinkGap rowShrink)) := by
    rw [differenceOf_some rfl]
    exact congrArg (Except.map some) hshrinks
  have hanswer : answer (compareTypes {} longGraph shortGraph ⟨0, by decide⟩ ⟨0, by decide⟩
      false) = .ok (some rowShrink) := by
    unfold rowShrink
    rfl
  obtain ⟨t, hchange⟩ : ∃ t, outcome (compareTypes {} longGraph shortGraph (longRow slot).type
      shortRow.type false) {} = (.ok (some rowShrink), t) := ⟨_, Prod.ext hanswer rfl⟩
  have houtcome : outcome (fieldChange {} (compareTypes {} longGraph shortGraph) (longRow slot)
      shortRow) {} = (.ok (some (rowChange slot)), t) := by
    rw [outcome_fieldChange rfl hchange, hdifference]
    rfl
  exact congrArg Prod.fst houtcome

/-- The comparison finds that the gap got shorter, and reports this. -/
theorem answer_longRow (hpos : n ≠ 0) :
    answer (compareLayouts {} ⟨longGraph, [longRow slot]⟩ ⟨shortGraph, [shortRow]⟩) =
      .ok [.change (rowChange slot)] := by
  have hends := endsWith_longRow hn hpos
  have hcost : costOf (rowChange slot) = none := by
    have haligned : endsAligned (rowChange slot) = false := by
      rw [endsAligned, rowChange, FieldChange.updated, FieldChange.old, hends]
    rw [costOf, rowChange, FieldChange.difference]
    dsimp only
    rw [← rowChange, haligned]
    rfl
  have hoperations : operations (fun _ _ => some (rowChange slot)) [longRow slot] [shortRow] =
      [.change (rowChange slot)] :=
    Alignment.ofChanges_singleton (by rw [hcost]; decide)
  have hspan : ((longRow slot).map longGraph.info).span =
      .ok (some (n * 32), some (n * 32 + 32)) := by
    rw [Variable.span, start?_longRow hn, end?_longRow hn]
    rfl
  have hg : longGraph.Distinct := TypeGraph.distinct_ofIds (by decide)
  have hh : shortGraph.Distinct := TypeGraph.distinct_ofIds (by decide)
  have hchange : ∀ x ∈ [longRow slot], ∀ y ∈ [shortRow],
      fieldChange? {} longGraph shortGraph x y = .ok (some (rowChange slot)) := by
    simpa using fieldChange?_longRow hn hpos
  refine (answer_align_iff hg hh hchange).2 ?_
  rw [hoperations]
  have hgaps : (reportable true [Alignment.Op.change (rowChange slot)]).mapM gapSpan? =
      .ok [some (some (n * 32), some (n * 32 + 32))] := by
    simp [reportable, Alignment.Op.isAppend, rowChange, gapSpan?, hspan, Except.map, pure,
      Except.pure, bind, Except.bind]
  refine answer_filterGapOps_self hgaps ?_
  simp [reportable, Alignment.Op.isAppend, rowChange, review, consumesGap, hends, bind, Except.bind]

/-- Each item of the gap is a byte, so all bytes up to the old end are its expected length. -/
theorem expectedGapSize?_longRow :
    ((longRow slot).map longGraph.info).expectedGapSize? (shortRow.map shortGraph.info) =
      .ok (some (n * 32 + 32)) := by
  have hstart : (shortRow.map shortGraph.info).start? = .ok (some 0) := rfl
  have hsize : numeral "32" = .ok 32 := rfl
  have hlength : ((longRow slot).map longGraph.info).arrayLength? = .ok (some 32) := by
    have hdigits : leadingDigits (longGraph.info ⟨0, by decide⟩).tail = ['3', '2'] := rfl
    have hnumber : digitsNumber ['3', '2'] = .ok 32 := rfl
    rw [Variable.arrayLength?, longRow, Variable.map]
    dsimp only
    rw [hdigits]
    exact congrArg (Except.map some) hnumber
  rw [Variable.expectedGapSize?, end?_longRow hn, hstart, hlength]
  change (do
    let perItem := Int.fdiv (← numeral "32") (32 : Nat)
    if perItem = 0 then .ok none
      else .ok (some (Int.fdiv (n * 32 + 32 - 0) perItem)) : Except Error _) = _
  rw [hsize]
  simp [bind, Except.bind]

/-- An expected length with too many digits cannot be written. -/
theorem explain_longRow (hlong : Numeral.isTooLong (n * 32 + 32) = true) (bold : Bool) :
    explain bold ⟨[.change (rowChange slot)]⟩ =
      .error (.misuse (.badForm (.int (n * 32 + 32)))) := by
  have hnote : gapNote false (some (n * 32 + 32 : Int)) =
      .error (.misuse (.badForm (.int (n * 32 + 32)))) := by
    rw [gapNote, if_neg Bool.false_ne_true]
    exact if_pos hlong
  have hresize : explainResize false (longGraph.info ⟨0, by decide⟩)
      (shortGraph.info ⟨0, by decide⟩) ((longRow slot).map longGraph.info)
      (shortRow.map shortGraph.info) = .error (.misuse (.badForm (.int (n * 32 + 32)))) := by
    have hbefore : fixedSize (longGraph.info ⟨0, by decide⟩) = .ok "32" := rfl
    have hafter : fixedSize (shortGraph.info ⟨0, by decide⟩) = .ok "16" := rfl
    have hgap : ((longRow slot).map longGraph.info).isGap = true := rfl
    rw [explainResize, hbefore, hafter, hgap, expectedGapSize?_longRow hn]
    simp [bind, Except.bind, hnote]
  have hop : explainOp explainNested .layout true (.change (rowChange slot)) =
      .error (.misuse (.badForm (.int (n * 32 + 32)))) := by
    change (explainResize _ _ _ _ _ >>= _) = _
    rw [hresize]
    rfl
  have hblock : block bold (.change (rowChange slot)) =
      .error (.misuse (.badForm (.int (n * 32 + 32)))) := by
    rw [block, hop]
    rfl
  rw [explain, withoutFollowers, List.filter_nil, List.mapM_cons, hblock]
  rfl

end

/-- The last slot that is written with one digit less than may be read. -/
def lastSlot : String := String.ofList (List.replicate (maxDigits - 1) '9')

theorem isDecimal_lastSlot : IsDecimal lastSlot where
  ne_nil := by
    rw [lastSlot, String.toList_ofList, Ne, List.replicate_eq_nil_iff]
    decide
  digits := by
    intro c hc
    rw [lastSlot, String.toList_ofList] at hc
    rw [List.eq_of_mem_replicate hc]
    rfl

theorem digitsValue_nines (k : Nat) : digitsValue (List.replicate k '9') + 1 = 10 ^ k := by
  induction k with
  | zero => rfl
  | succ k ih =>
      have hnine : (digitValue? '9').getD 0 = 9 := rfl
      have hvalue : digitsValue (List.replicate (k + 1) '9') =
          10 * digitsValue (List.replicate k '9') + 9 := by
        rw [List.replicate_succ', digitsValue, List.foldl_append]
        exact congrArg _ hnine
      rw [hvalue, Nat.pow_succ]
      omega

/-- With one digit more in a slot, all positions and sizes can be read, and the report of a comparison
still cannot be explained. -/
theorem not_explained_lastSlot :
    IsDecimal lastSlot ∧ lastSlot.toList.length = 4299 ∧
      ∃ old updated ops size,
        rowLayout.detailItems [rowItem "t_array(t_uint8)32_storage" lastSlot] = .ok old ∧
        rowLayout.detailItems [rowItem "t_array(t_uint8)16_storage" "0"] = .ok updated ∧
        answer (compareLayouts {} old updated) = .ok ops ∧
        ∀ bold, explain bold ⟨ops⟩ = .error (.misuse (.badForm (.int size))) := by
  have hlength : lastSlot.toList.length = maxDigits - 1 := by
    rw [lastSlot, String.toList_ofList, List.length_replicate]
  have hnumeral : numeral lastSlot = .ok (digitsValue lastSlot.toList : Nat) := by
    rw [numeral_of_isDecimal isDecimal_lastSlot,
      digitsNumber_of_short (hlength.trans_le (Nat.sub_le _ _))]
    rfl
  have hvalue : digitsValue lastSlot.toList + 1 = 10 * slotBound := by
    rw [lastSlot, String.toList_ofList, digitsValue_nines, ten_mul_slotBound]
  have hslots : 0 < slotBound := Nat.pow_pos (by decide)
  have hlong : Numeral.isTooLong ((digitsValue lastSlot.toList : Nat) * 32 + 32) = true := by
    have hpow : Nat.pow 10 maxDigits = 100 * slotBound := by
      rw [Nat.pow_eq, hundred_mul_slotBound]
    rw [Numeral.isTooLong, decide_eq_true_eq, hpow]
    omega
  exact ⟨isDecimal_lastSlot, hlength, _, _, _, _, detailItems_longRow lastSlot,
    detailItems_shortRow, answer_longRow hnumeral (by omega), explain_longRow hnumeral hlong⟩

end Report
end StorageUpgrade
