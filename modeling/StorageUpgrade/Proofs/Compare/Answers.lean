import Mathlib.Data.List.TakeWhile
import StorageUpgrade.Proofs.Compare.Positions
import StorageUpgrade.Proofs.Compare.Recursion

/-!
# When a comparison answers

Comparing two well formed layouts answers, or gives up because a type is inside itself; there is no
other way for it to end (`answers_or_recursion`).  Positions and sizes have to be numerals that can
be read, which decimal texts of at most `maxDigits` digits are (`hasNumeral_of_isDecimal`), and
longer ones are not (`numeral_of_isDecimal`).
-/

namespace StorageUpgrade

/-! ### Decimal texts -/

/-- A text of one or more decimal digits. -/
structure IsDecimal (text : String) : Prop where
  ne_nil : text.toList ≠ []
  digits : ∀ c ∈ text.toList, c.isDigit = true

namespace Numeral

/-- A plain digit is a digit, and neither a blank nor a mark of a numeral. -/
theorem of_isDigit {c : Char} (hc : c.isDigit = true) :
    isDigit c = true ∧ isPadding c = false ∧ c ≠ '_' ∧ c ≠ '-' ∧ c ≠ '+' := by
  have hrange : 48 ≤ c.toNat ∧ c.toNat ≤ 57 := by
    rw [Char.isDigit, Bool.and_eq_true, decide_eq_true_eq, decide_eq_true_eq] at hc
    exact ⟨UInt32.le_iff_toNat_le.1 hc.1, UInt32.le_iff_toNat_le.1 hc.2⟩
  have hne (d : Char) (hd : d.toNat < 48 ∨ 57 < d.toNat) : c ≠ d := by
    rintro rfl
    omega
  refine ⟨?_, ?_, hne '_' (by decide), hne '-' (by decide), hne '+' (by decide)⟩
  · rw [isDigit, digitValue?, Option.isSome_map, List.find?_isSome]
    have hzero : 0x30 ∈ zeroDigits := List.mem_cons_self
    refine ⟨0x30, hzero, ?_⟩
    rw [Bool.and_eq_true, decide_eq_true_eq, decide_eq_true_eq]
    omega
  · rw [isPadding, isBlank]
    simp
    omega

variable {ds : List Char}

theorem unpadded_eq_self (hdigits : ∀ c ∈ ds, c.isDigit = true) : unpadded ds = ds := by
  have hkeep (cs : List Char) (hcs : ∀ c ∈ cs, c.isDigit = true) :
      cs.dropWhile isPadding = cs := by
    cases cs with
    | nil => rfl
    | cons c cs =>
        have hc := (of_isDigit (hcs c List.mem_cons_self)).2.1
        rw [List.dropWhile_cons, hc]
        rfl
  rw [unpadded, hkeep ds hdigits, hkeep ds.reverse fun c hc => hdigits c (List.mem_reverse.1 hc),
    List.reverse_reverse]

theorem digits?_eq_some (hne : ds ≠ []) (hdigits : ∀ c ∈ ds, c.isDigit = true) :
    digits? ds = some ds := by
  induction ds with
  | nil => exact absurd rfl hne
  | cons c ds ih =>
      have hc := (of_isDigit (hdigits c List.mem_cons_self)).1
      cases ds with
      | nil => rw [digits?, if_pos hc]
      | cons d ds =>
          -- the next character is a digit, so it is no underscore
          have hd := (of_isDigit (hdigits d (by simp))).2.2.1
          rw [digits?, if_pos hc, ih (by simp) fun x hx => hdigits x (List.mem_cons_of_mem c hx)]
          · rfl
          · simp
          · exact fun cs h => hd (List.cons.inj h).1

theorem unsigned_of_digits (hne : ds ≠ []) (hdigits : ∀ c ∈ ds, c.isDigit = true) :
    unsigned ds = (ofDigits ds).map Int.ofNat := by
  have hrun : ds.span (fun c => isDigit c || c == '_') = (ds, []) := by
    rw [List.span_eq_takeWhile_dropWhile]
    have hall : ∀ c ∈ ds, (isDigit c || c == '_') = true := fun c hc => by
      rw [(of_isDigit (hdigits c hc)).1, Bool.true_or]
    rw [List.takeWhile_eq_self_iff.2 hall, List.dropWhile_eq_nil_iff.2 hall]
  unfold unsigned
  rw [hrun]
  dsimp only
  rw [digits?_eq_some hne hdigits]
  dsimp only
  cases ofDigits ds <;> rfl

theorem parse_of_isDecimal {text : String} (h : IsDecimal text) :
    parse text = (ofDigits text.toList).map Int.ofNat := by
  unfold parse
  rw [unpadded_eq_self h.digits]
  split
  · rename_i cs hcs
    exact absurd rfl (of_isDigit (h.digits '-' (hcs ▸ List.mem_cons_self))).2.2.2.1
  · rename_i cs hcs
    exact absurd rfl (of_isDigit (h.digits '+' (hcs ▸ List.mem_cons_self))).2.2.2.2
  · exact unsigned_of_digits h.ne_nil h.digits

end Numeral

/-- A decimal text stands for the number of its digits. -/
theorem numeral_of_isDecimal {text : String} (h : IsDecimal text) :
    numeral text = (digitsNumber text.toList).map Int.ofNat := by
  unfold numeral Json.toInt digitsNumber
  dsimp only
  rw [Numeral.parse_of_isDecimal h, Numeral.ofDigits]
  by_cases hlong : maxDigits < text.toList.length
  · rw [if_pos hlong]
    rfl
  · rw [if_neg hlong]
    rfl

theorem digitsNumber_of_long {ds : List Char} (hlong : maxDigits < ds.length) :
    digitsNumber ds = .error (.misuse (.tooLong ds.length)) := by
  rw [digitsNumber, Numeral.ofDigits, if_pos hlong]

theorem digitsNumber_of_short {ds : List Char} (hshort : ds.length ≤ maxDigits) :
    digitsNumber ds = .ok (digitsValue ds) := by
  rw [digitsNumber, Numeral.ofDigits, if_neg (Nat.not_lt.2 hshort)]

/-- A decimal text can be read unless it has too many digits. -/
theorem hasNumeral_of_isDecimal {text : String} (h : IsDecimal text)
    (hshort : text.toList.length ≤ maxDigits) : HasNumeral (some text) := by
  intro t ht
  obtain rfl := Option.mem_some.1 ht
  exact ⟨digitsValue text.toList, by
    rw [numeral_of_isDecimal h, digitsNumber_of_short hshort]
    rfl⟩

namespace Comparator

/-- Comparing two well formed layouts answers, or gives up on a type that is inside itself. -/
theorem answers_or_recursion {old updated : DetailedLayout} (hold : old.WellFormed)
    (hupdated : updated.WellFormed) (options : CompareOptions) (s : ComparatorState) :
    (∃ ops, (outcome (compareLayouts options old updated) s).1 = .ok ops) ∨
      ∃ label, (outcome (compareLayouts options old updated) s).1 =
        .error (.upgrade (.recursiveType label)) := by
  have hsafe : Safe (fun e => ∃ label, e = .upgrade (.recursiveType label))
      (compareLayouts options old updated) fun _ => True := by
    refine Safe.alignVariables (fun x hx => wellFormedVariable_of_mem hold hx)
      (fun y hy => wellFormedVariable_of_mem hupdated hy) (fun x hx y hy => ?_) true
    exact safe_compareTypes (closedTypes_of_wellFormed hold) (closedTypes_of_wellFormed hupdated)
      (fun _ _ label _ _ _ _ => ⟨label, rfl⟩) ⟨x, hx, .refl⟩ ⟨y, hy, .refl⟩ false
  have hs := hsafe s
  cases hresult : (outcome (compareLayouts options old updated) s).1 with
  | ok ops => exact .inl ⟨ops, rfl⟩
  | error e =>
      rw [hresult] at hs
      obtain ⟨label, rfl⟩ := hs
      exact .inr ⟨label, rfl⟩

/-- A vault and the nodes of `nodeLayout` are well formed. -/
theorem answers_or_recursion_vaultLayout_nodeLayout :
    (vaultDetail vaultIds vaultLayout.storage).WellFormed ∧ nodeDetail.WellFormed ∧
      ((∃ ops, answer (compareLayouts {} (vaultDetail vaultIds vaultLayout.storage) nodeDetail) =
          .ok ops) ∨
        ∃ label, answer (compareLayouts {} (vaultDetail vaultIds vaultLayout.storage) nodeDetail) =
          .error (.upgrade (.recursiveType label))) := by
  have hnode : ∀ a, WellFormedNode nodeDetail.graph.isValue (nodeDetail.graph.node a) := by
    decide +kernel
  have hnodeDetail : nodeDetail.WellFormed := ⟨by decide +kernel, fun a _ => hnode a⟩
  let vault := vaultDetail vaultIds vaultLayout.storage
  have hvault : ∀ a, WellFormedNode vault.graph.isValue (vault.graph.node a) := by decide +kernel
  have hvaultDetail : vault.WellFormed := ⟨by decide +kernel, fun a _ => hvault a⟩
  exact ⟨hvaultDetail, hnodeDetail, answers_or_recursion hvaultDetail hnodeDetail {} {}⟩

/-! ### A slot with too many digits -/

section

variable {options : CompareOptions} {g h : TypeGraph} {x : Variable g.Ref} {y : Variable h.Ref}
  {change : Option TypeChange} {s t : ComparatorState}

/-- An alignment fails if the way in which the first variable differs from an updated one cannot be
told, though the ways in which it differs from those before can be. -/
theorem answer_align_of_error (xs : List (Variable g.Ref)) (before after : List (Variable h.Ref))
    {changes : List (Option FieldChange)} {e : Error}
    (hbefore : outcome (before.mapM fun z => fieldChange options (compareTypes options g h) x z)
      {} = (.ok changes, s))
    (hretyped : isRetyped (x.map g.info) (y.map h.info) = .ok false)
    (hchange : outcome (compareTypes options g h x.type y.type false) s = (.ok change, t))
    (hdifference : differenceOf options (x.map g.info) (y.map h.info) change = .error e)
    (allowAppend : Bool) :
    answer (align options g h (x :: xs) (before ++ y :: after) allowAppend) = .error e := by
  have hfield : outcome (fieldChange options (compareTypes options g h) x y) s = (.error e, t) := by
    rw [outcome_fieldChange hretyped hchange, hdifference]
    rfl
  have hfields : outcome ((before ++ y :: after).mapM fun z =>
      fieldChange options (compareTypes options g h) x z) {} = (.error e, t) := by
    rw [List.mapM_append, outcome_bind_of_ok _ hbefore]
    simp only [List.mapM_cons, outcome_bind, hfield]
  have hrows : outcome ((x :: xs).mapM fun x => do
      let changes ← (before ++ y :: after).mapM fun y =>
        fieldChange options (compareTypes options g h) x y
      return (x.map g.info, changes)) {} = (.error e, t) := by
    simp only [List.mapM_cons, outcome_bind, hfields]
  rw [answer, align, alignVariables, outcome_bind, hrows]

end

/-- To know whether a variable takes the end of a gap, its position has to be read. -/
theorem differenceOf_of_start_error {options : CompareOptions} {gap v : TypedVariable}
    {change : TypeChange} {e : Error} (hgap : gap.isGap = true)
    (hrenamed : isRenamed options gap v = true) (hretyped : v.retypedFrom.isSet = false)
    (hstart : v.start? = .error e) : differenceOf options gap v (some change) = .error e := by
  have hends : v.endsWith gap = .error e := by
    rw [Variable.endsWith, Variable.end?, hstart]
    rfl
  have htypes : differenceOfTypes true gap v change = .error e := by
    rw [differenceOfTypes, if_pos rfl, Variable.endMatchesGap, if_pos hgap, hends]
    rfl
  rw [differenceOf_some hretyped, hrenamed, htypes]
  rfl

/-- The types of `gapTypes`. -/
def gapGraph : TypeGraph := .ofIds gapTypes (gapTypes.map Prod.fst)

/-- A gap for two numbers in a slot. -/
def gapAt (slot : String) : DetailedLayout :=
  ⟨gapGraph,
    [{ label := .str "__gap", type := ⟨1, by decide⟩, slot := some slot, offset := some 0 }]⟩

/-- A number in a slot. -/
def numberAt (slot : String) : DetailedLayout :=
  ⟨gapGraph, [{ label := .str "a", type := ⟨0, by decide⟩, slot := some slot, offset := some 0 }]⟩

theorem answer_gapAt_numberAt {slot : String} {e : Error} (herror : numeral slot = .error e) :
    answer (compareLayouts {} (gapAt slot) (numberAt slot)) = .error e := by
  obtain ⟨change, t, hchange⟩ : ∃ change t, outcome (compareTypes {} gapGraph gapGraph
      ⟨1, by decide⟩ ⟨0, by decide⟩ false) {} = (.ok (some change), t) := ⟨_, _, rfl⟩
  refine answer_align_of_error (h := gapGraph) [] [] [] rfl rfl hchange ?_ true
  refine differenceOf_of_start_error rfl rfl rfl ?_
  simp [Variable.start?, Variable.map, herror, bind, Except.bind]

/-- A slot that is written with one digit more than can be read. -/
def longSlot : String := String.ofList (List.replicate (maxDigits + 1) '1')

theorem isDecimal_longSlot : IsDecimal longSlot where
  ne_nil := by
    rw [longSlot, String.toList_ofList]
    simp
  digits := by
    intro c hc
    rw [longSlot, String.toList_ofList] at hc
    rw [List.eq_of_mem_replicate hc]
    rfl

theorem numeral_longSlot : numeral longSlot = .error (.misuse (.tooLong 4301)) := by
  have hlength : longSlot.toList.length = maxDigits + 1 := by
    rw [longSlot, String.toList_ofList, List.length_replicate]
  rw [numeral_of_isDecimal isDecimal_longSlot,
    digitsNumber_of_long (Nat.lt_of_lt_of_eq (Nat.lt_succ_self maxDigits) hlength.symm), hlength]
  rfl

/-- A slot may be a decimal text and still not be read: then the comparison of two layouts of well
formed types ends with neither an answer nor a recursion. -/
theorem answer_longSlot :
    IsDecimal longSlot ∧ (∀ a, WellFormedNode gapGraph.isValue (gapGraph.node a)) ∧
      answer (compareLayouts {} (gapAt longSlot) (numberAt longSlot)) =
        .error (.misuse (.tooLong 4301)) :=
  ⟨isDecimal_longSlot, by decide +kernel, answer_gapAt_numberAt numeral_longSlot⟩

/-- A gap for two numbers, and behind it a number that claims the same slot. -/
def gapAndNumberAt (slot : String) : DetailedLayout :=
  ⟨gapGraph, (gapAt slot).vars.append (numberAt slot).vars⟩

theorem answer_gapAt_gapAndNumberAt {slot : String} {e : Error} (herror : numeral slot = .error e) :
    answer (compareLayouts {} (gapAt slot) (gapAndNumberAt slot)) = .error e := by
  let gap : Variable gapGraph.Ref :=
    { label := .str "__gap", type := ⟨1, by decide⟩, slot := some slot, offset := some 0 }
  let number : Variable gapGraph.Ref :=
    { label := .str "a", type := ⟨0, by decide⟩, slot := some slot, offset := some 0 }
  obtain ⟨s, hsame, change, t, hchange⟩ : ∃ s, outcome (compareTypes {} gapGraph gapGraph
      ⟨1, by decide⟩ ⟨1, by decide⟩ false) {} = (.ok none, s) ∧
        ∃ change t, outcome (compareTypes {} gapGraph gapGraph
          ⟨1, by decide⟩ ⟨0, by decide⟩ false) s = (.ok (some change), t) :=
    ⟨_, rfl, _, _, rfl⟩
  have hkept : outcome ([gap].mapM fun z =>
      fieldChange {} (compareTypes {} gapGraph gapGraph) gap z) {} = (.ok [none], s) := by
    have hplaced : (gap.map gapGraph.info).PlacedIfRetyped := fun hset => nomatch hset
    rw [List.mapM_cons, List.mapM_nil, outcome_bind, outcome_fieldChange rfl hsame,
      differenceOf_self (.str _) .null hplaced]
    rfl
  have hdifference : differenceOf {} (gap.map gapGraph.info) (number.map gapGraph.info)
      (some change) = .error e := by
    refine differenceOf_of_start_error rfl rfl rfl ?_
    simp [number, Variable.start?, Variable.map, herror, bind, Except.bind]
  exact answer_align_of_error (x := gap) (y := number) [] [gap] [] hkept rfl hchange hdifference
    true

/-- A gap whose slot cannot be read cannot be kept when a variable is added behind it, though the
slot is a decimal text and all types are well formed, known and not inside themselves. -/
theorem not_passes_append_longSlot :
    IsDecimal longSlot ∧ (∀ a, WellFormedNode gapGraph.isValue (gapGraph.node a)) ∧
      (gapAt longSlot).Acyclic ∧ (gapAt longSlot).Complete ∧
        answer (compareLayouts {} (gapAt longSlot) (gapAndNumberAt longSlot)) =
          .error (.misuse (.tooLong 4301)) ∧
        ¬ Passes {} (gapAt longSlot) (gapAndNumberAt longSlot) := by
  have hacyclic : (gapAt longSlot).Acyclic :=
    DetailedLayout.acyclic_of_rank (fun a : gapGraph.Ref => [0, 1, 1].getD a 0) (by decide +kernel)
  have hheads : ∀ a, (gapGraph.node a).head ≠ "t_struct" ∧ (gapGraph.node a).head ≠ "t_enum" ∧
      (gapGraph.node a).fields = [] := by
    decide +kernel
  have hcomplete : (gapAt longSlot).Complete := by
    refine ⟨fun v hv => ?_, fun a _ hhead => ?_, fun a _ v hv => ?_⟩
    · rw [List.mem_singleton.1 hv]
      exact nofun
    · exact absurd hhead (not_or.2 ⟨(hheads a).1, (hheads a).2.1⟩)
    · exact absurd ((hheads a).2.2 ▸ hv) List.not_mem_nil
  have herror := answer_gapAt_gapAndNumberAt numeral_longSlot
  refine ⟨isDecimal_longSlot, by decide +kernel, hacyclic, hcomplete, herror, fun hpasses => ?_⟩
  rw [Passes, herror] at hpasses
  cases hpasses

end Comparator

end StorageUpgrade
