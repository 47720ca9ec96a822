import StorageUpgrade.Proofs.Extract.Recording

/-!
# The full layout of a contract

The full layout of a contract is made of the layouts that are recorded: that of the contract itself
if the compiler laid it out, and otherwise those of all contracts that it inherits from and that are
recorded, joined so that the most basic one comes first.

## Strategy

* The variables that some contracts of a linearization declare are all different, and a contract comes
  behind those that it inherits from (`nodup_inherited`, `pairwise_inherited`).
* Joining layouts joins their variables in the opposite order (`storage_joined`), so what is recorded
  of the contracts gives what the full layout lists.

A layout that the compiler computed for a base lists the variables of the contracts behind that base
as well.  When those declare variables and are recorded too, the full layout of a contract that the
compiler did not lay out lists such variables twice.
-/

namespace StorageUpgrade.Validation

open SyntaxM

variable {output : Json} {decode : SourceDecoder} {d : Definition}

/-- A layout lists the variables of some contracts: each of them once, and those of a contract behind
those of the contracts that it inherits from. -/
structure Lists (output : Json) (decode : SourceDecoder) (contracts : List Definition)
    (l : Layout) : Prop where
  items : Items decode l.storage (inherited contracts)
  nodup : (inherited contracts).Nodup
  basesFirst : (inherited contracts).Pairwise fun v w => w.1 ∉ (linearization output v.1).tail

/-- The layout that the compiler computed for a contract, if there is one, lists no variables of
other contracts. -/
def OwnOnly (output : Json) (d : Definition) : Prop :=
  compilerLayout output d ≠ .null → ∀ b ∈ (linearization output d).tail, b.declared = []

/-! ### The variables of a linearization -/

theorem fst_of_mem_declared {v : Definition × Json} (h : v ∈ d.declared) : v.1 = d := by
  obtain ⟨part, -, rfl⟩ := List.mem_map.1 (List.mem_filter.1 h).1
  rfl

theorem nodup_declared (hwf : WellFormed output) (hd : d ∈ definitions output) :
    d.declared.Nodup := by
  have hparts := List.Nodup.of_map _ hwf.parts
  exact ((List.nodup_flatMap.1 hparts).1 d hd).filter _

theorem nodup_inherited (hwf : WellFormed output) {contracts : List Definition}
    (hcontracts : contracts.Nodup) (hmem : ∀ c ∈ contracts, c ∈ definitions output) :
    (inherited contracts).Nodup := by
  refine List.nodup_flatMap.2 ⟨fun c hc => nodup_declared hwf (hmem c (List.mem_reverse.1 hc)), ?_⟩
  refine (List.nodup_reverse.2 hcontracts).imp fun {b c} hne => ?_
  intro v hb hc
  exact hne ((fst_of_mem_declared hb).symm.trans (fst_of_mem_declared hc))

theorem not_sublist_swap {α : Type} {a b : α} {l : List α} (hl : l.Nodup)
    (h : [a, b].Sublist l) : ¬ [b, a].Sublist l := by
  induction l with
  | nil => cases h
  | cons x l ih =>
      obtain ⟨hnot, hl⟩ := List.nodup_cons.1 hl
      intro hswap
      cases h with
      | cons _ h =>
          cases hswap with
          | cons _ hswap => exact ih hl h hswap
          | cons_cons _ _ => exact hnot (h.subset (by simp))
      | cons_cons _ h =>
          cases hswap with
          | cons _ hswap => exact hnot (hswap.subset (by simp))
          | cons_cons _ _ => exact hnot (h.subset (by simp))

/-- In a linearization, no contract stands before one that inherits from it. -/
theorem pairwise_linearization (hwf : WellFormed output) (hd : d ∈ definitions output) :
    (linearization output d).Pairwise fun c b => c ∉ (linearization output b).tail := by
  refine List.pairwise_iff_forall_sublist.2 fun {c b} h hc => ?_
  have hb : b ∈ linearization output d := h.subset (by simp)
  have hlin := hwf.linearization_eq (mem_definitions_of_mem_linearization hb)
  have hbc : [b, c].Sublist (linearization output b) := by
    rw [hlin]
    exact .cons_cons b (List.singleton_sublist.2 hc)
  exact not_sublist_swap (hwf.nodup_linearization hd) h
    (hbc.trans (hwf.lineageSublist d hd b hb))

theorem not_mem_tail_linearization (hwf : WellFormed output) (hd : d ∈ definitions output) :
    d ∉ (linearization output d).tail := by
  have hnodup := hwf.nodup_linearization hd
  rw [hwf.linearization_eq hd] at hnodup
  exact (List.nodup_cons.1 hnodup).1

/-- The variables of a contract come behind those of the contracts that it inherits from. -/
theorem pairwise_inherited (hwf : WellFormed output) (hd : d ∈ definitions output)
    {contracts : List Definition} (h : contracts.Sublist (linearization output d)) :
    (inherited contracts).Pairwise fun v w => w.1 ∉ (linearization output v.1).tail := by
  refine List.pairwise_flatMap.2 ⟨fun c hc => ?_, ?_⟩
  · have hc := mem_definitions_of_mem_linearization (h.subset (List.mem_reverse.1 hc))
    refine List.pairwise_of_forall_mem_list fun v hv w hw => ?_
    rw [fst_of_mem_declared hv, fst_of_mem_declared hw]
    exact not_mem_tail_linearization hwf hc
  · refine List.pairwise_reverse.2 (((pairwise_linearization hwf hd).sublist h).imp ?_)
    intro c b hcb v hv w hw
    rwa [fst_of_mem_declared hv, fst_of_mem_declared hw]

theorem inherited_cons (contracts : List Definition) :
    inherited (d :: contracts) = inherited contracts ++ d.declared := by
  simp [inherited]

/-! ### Joining layouts -/

/-- Joining the layouts of contracts puts their variables in front, those of the last one first. -/
theorem storage_joined {bases : List ContractInfo} : ∀ {l : Layout},
    (bases.foldl (fun l base =>
      { l with
        storage := base.layout.storage ++ l.storage
        types := addTypes l.types base.layout.types }) l).storage =
      bases.reverse.flatMap (·.layout.storage) ++ l.storage := by
  induction bases with
  | nil => intro l; rfl
  | cons base bases ih =>
      intro l
      rw [List.foldl_cons, ih]
      simp

variable {contracts : List (String × ContractInfo)}

/-- A base whose own layout lists no variables of others adds those that it declares. -/
theorem items_of_ownOnly (hwf : WellFormed output) (hd : d ∈ definitions output)
    (hown : OwnOnly output d) {l : Layout} (h : Extracted output decode d l) :
    Items decode l.storage d.declared := by
  by_cases hcompiled : compilerLayout output d = .null
  · exact (h.own hcompiled).2
  · have hitems := (h.flat hcompiled).2
    have hbases : inherited (linearization output d).tail = [] := by
      refine List.flatMap_eq_nil_iff.2 fun b hb => ?_
      exact hown hcompiled b (List.mem_reverse.1 hb)
    rwa [hwf.linearization_eq hd, inherited_cons, hbases, List.nil_append] at hitems

/-- The layouts of the bases that are recorded list the variables that these declare. -/
theorem items_of_bases (hwf : WellFormed output) (hrun : Yields (run decode output) contracts)
    {bases : List Definition} (hbases : ∀ b ∈ bases, b ∈ definitions output)
    (hown : ∀ b ∈ bases, b.key ∈ contracts.map (·.1) → OwnOnly output b) :
    Items decode
      (((bases.map (·.key)).filterMap (Json.find? · contracts)).reverse.flatMap (·.layout.storage))
      (inherited (bases.filter (·.key ∈ contracts.map (·.1)))) := by
  induction bases with
  | nil => exact .nil
  | cons b bases ih =>
      have hrest := ih (fun c hc => hbases c (List.mem_cons_of_mem _ hc))
        (fun c hc => hown c (List.mem_cons_of_mem _ hc))
      cases hfind : Json.find? b.key contracts with
      | none =>
          have hnot : b.key ∉ contracts.map (·.1) := Json.not_mem_of_find?_eq_none hfind
          simpa [hfind, hnot] using hrest
      | some info =>
          have hmem : b.key ∈ contracts.map (·.1) :=
            List.mem_map.2 ⟨_, Json.mem_of_find? hfind, rfl⟩
          obtain ⟨c, hc, hkey, hextracted, -⟩ := of_run hwf hrun hfind
          have hb := hbases b List.mem_cons_self
          obtain rfl := hwf.eq_of_key_eq hc hb hkey
          have hitems := items_of_ownOnly hwf hb (hown c List.mem_cons_self hmem) hextracted
          rw [List.filter_cons_of_pos (by simpa using hmem), inherited_cons]
          simp only [List.map_cons, List.filterMap_cons, hfind, List.reverse_cons,
            List.flatMap_append, List.flatMap_singleton]
          exact List.rel_append hrest hitems

/-! ### Contracts of two sources -/

/-- The declaration of a variable of the type `uint256`. -/
def variableNode (id : Int) (name : String) : Json :=
  let descriptions : Json :=
    .obj [("typeIdentifier", .str "t_uint256"), ("typeString", .str "uint256")]
  .obj [("id", .int id), ("nodeType", .str "VariableDeclaration"), ("name", .str name),
    ("src", .str "0:1:0"), ("typeDescriptions", descriptions),
    ("typeName", .obj [("id", .int (id + 1)), ("nodeType", .str "ElementaryTypeName"),
      ("typeDescriptions", descriptions)])]

/-- The definition of a contract with one variable. -/
def contractNode (lineage : List Int) (name : String) (part : Json) : Json :=
  .obj [("id", .int (lineage.headD 0)), ("nodeType", .str "ContractDefinition"), ("name", .str name),
    ("src", .str "0:1:0"), ("linearizedBaseContracts", .arr (lineage.map .int)),
    ("nodes", .arr [part])]

/-- A source with its syntax tree. -/
def sourceNode (id : Int) (contracts : List Json) : Json :=
  .obj [("ast", .obj [("id", .int id), ("nodeType", .str "SourceUnit"),
    ("nodes", .arr contracts)])]

/-- A compilation of `Root`, of `Base`, which inherits from it, and of `Derived`, which inherits from
both. -/
def threeContracts (contracts : List (String × Json)) : Json :=
  .obj [("contracts", .obj contracts), ("sources", .obj [
    ("A.sol", sourceNode 1 [contractNode [2] "Root" (variableNode 3 "a")]),
    ("B.sol", sourceNode 5 [contractNode [6, 2] "Base" (variableNode 7 "b"),
      contractNode [9, 6, 2] "Derived" (variableNode 10 "c")])])]

/-- What a compiler puts out for a contract that it laid out. -/
def laidOutAs (entries : List (Int × String)) : Json :=
  .obj [("storageLayout", .obj [
    ("storage", .arr (entries.mapIdx fun slot (id, label) =>
      .obj [("astId", .int id), ("label", .str label), ("offset", .int 0),
        ("slot", .str (toString slot)), ("type", .str "t_uint256")])),
    ("types", .obj [("t_uint256",
      .obj [("label", .str "uint256"), ("numberOfBytes", .str "32")])])])]

/-- All contracts were put out, and `Root` was laid out. -/
def rootLaidOut : Json :=
  threeContracts [("A.sol", .obj [("Root", laidOutAs [(3, "a")])]),
    ("B.sol", .obj [("Base", .obj []), ("Derived", .obj [])])]

/-- All contracts were put out, and `Base` was laid out. -/
def baseLaidOut : Json :=
  threeContracts [("A.sol", .obj [("Root", .obj [])]),
    ("B.sol", .obj [("Base", laidOutAs [(3, "a"), (7, "b")]), ("Derived", .obj [])])]

/-- `Root` was not put out. -/
def rootMissing : Json :=
  threeContracts [("B.sol", .obj [("Base", .obj []), ("Derived", .obj [])])]

/-- All nodes are at one place. -/
def onePlace : SourceDecoder := fun _ => .ok "A.sol:1"

/-! ### What the full layout lists -/

/-- The full layout of a contract that the compiler laid out lists the variables of all contracts that
it inherits from.  That of another contract lists the variables of those of these contracts that are
recorded, unless there is a base whose own layout lists variables of others. -/
theorem lists_of_layoutOf (hwf : WellFormed output) (hrun : Yields (run decode output) contracts)
    {key : String} (hkey : key ∈ contracts.map (·.1)) :
    ∃ d ∈ definitions output, d.key = key ∧ ∃ l, layoutOf contracts key = .ok l ∧
      (compilerLayout output d ≠ .null → Lists output decode (linearization output d) l) ∧
      (compilerLayout output d = .null →
        (∀ b ∈ (linearization output d).tail, b.key ∈ contracts.map (·.1) → OwnOnly output b) →
        Lists output decode
          ((linearization output d).filter (·.key ∈ contracts.map (·.1))) l) := by
  obtain ⟨info, hfind⟩ : ∃ info, Json.find? key contracts = some info := by
    by_contra hnone
    exact Json.not_mem_of_find?_eq_none (Option.eq_none_iff_forall_ne_some.2
      fun info hinfo => hnone ⟨info, hinfo⟩) hkey
  obtain ⟨d, hd, rfl, hextracted, hbases⟩ := of_run hwf hrun hfind
  have hnodup := hwf.nodup_linearization hd
  have hdefined : ∀ b ∈ linearization output d, b ∈ definitions output :=
    fun b hb => mem_definitions_of_mem_linearization hb
  refine ⟨d, hd, rfl, ?_⟩
  by_cases hcompiled : compilerLayout output d = .null
  · obtain ⟨hflat, hown⟩ := hextracted.own hcompiled
    refine ⟨_, by rw [layoutOf, hfind]; simp only [hflat]; rfl, fun h => absurd hcompiled h,
      fun _ hbasesOwn => ?_⟩
    have hfilter : (linearization output d).filter (·.key ∈ contracts.map (·.1)) =
        d :: (linearization output d).tail.filter (·.key ∈ contracts.map (·.1)) := by
      conv_lhs => rw [hwf.linearization_eq hd]
      rw [List.filter_cons_of_pos (by simpa using hkey)]
    refine ⟨?_, nodup_inherited hwf (hnodup.filter _)
      (fun b hb => hdefined b (List.mem_filter.1 hb).1),
      pairwise_inherited hwf hd List.filter_sublist⟩
    rw [storage_joined, hbases, hfilter, inherited_cons]
    exact List.rel_append (items_of_bases hwf hrun
      (fun b hb => hdefined b (List.mem_of_mem_tail hb)) hbasesOwn) hown
  · obtain ⟨hflat, hitems⟩ := hextracted.flat hcompiled
    refine ⟨info.layout, by rw [layoutOf, hfind]; simp only [hflat]; rfl, fun _ => ?_,
      fun h => absurd h hcompiled⟩
    exact ⟨hitems, nodup_inherited hwf hnodup hdefined,
      pairwise_inherited hwf hd (List.Sublist.refl _)⟩

theorem lists_of_layoutOf_rootLaidOut : ∃ contracts, Yields (run onePlace rootLaidOut) contracts ∧
    "B.sol:Derived" ∈ contracts.map (·.1) ∧
    ∃ d ∈ definitions rootLaidOut, d.key = "B.sol:Derived" ∧
      ∃ l, layoutOf contracts "B.sol:Derived" = .ok l ∧
        Lists rootLaidOut onePlace
          ((linearization rootLaidOut d).filter (·.key ∈ contracts.map (·.1))) l := by
  have hwf : WellFormed rootLaidOut := by decide +kernel
  obtain ⟨contracts, hrun, hkey⟩ :
      ∃ contracts, Yields (run onePlace rootLaidOut) contracts ∧
        (contracts.map (·.1)).contains "B.sol:Derived" = true :=
    exists_yields {} (by decide +kernel)
  have hkey : "B.sol:Derived" ∈ contracts.map (·.1) := List.contains_iff_mem.1 hkey
  obtain ⟨d, hd, hname, l, hl, -, hown⟩ := lists_of_layoutOf hwf hrun hkey
  have hnotCompiled : ∀ d ∈ definitions rootLaidOut, d.key = "B.sol:Derived" →
      compilerLayout rootLaidOut d = .null := by decide +kernel
  have hbases : ∀ d ∈ definitions rootLaidOut, ∀ b ∈ (linearization rootLaidOut d).tail,
      compilerLayout rootLaidOut b ≠ .null →
        ∀ c ∈ (linearization rootLaidOut b).tail, c.declared = [] := by decide +kernel
  exact ⟨contracts, hrun, hkey, d, hd, hname, l, hl,
    hown (hnotCompiled d hd hname) fun b hb _ => hbases d hd b hb⟩

/-- The full layout of a contract does not list the variables of its linearization once each. -/
def Deviates (output : Json) (key : String) : Prop :=
  WellFormed output ∧ ∃ contracts, Yields (run onePlace output) contracts ∧
    key ∈ contracts.map (·.1) ∧ ∃ d ∈ definitions output, d.key = key ∧
      ¬ ∃ l, layoutOf contracts key = .ok l ∧ Lists output onePlace (linearization output d) l

theorem deviates_of_length {key : String} (hwf : WellFormed output) (n : Nat)
    (h : (outcome (run onePlace output) {}).1.toOption.any (fun contracts =>
      (contracts.map (·.1)).contains key &&
        (layoutOf contracts key).toOption.any (·.storage.length == n)) = true)
    (hd : ∃ d ∈ definitions output, d.key = key ∧
      (inherited (linearization output d)).length ≠ n) : Deviates output key := by
  obtain ⟨contracts, hrun, hfound⟩ := exists_yields {} h
  obtain ⟨d, hd, hname, hlength⟩ := hd
  obtain ⟨hkey, hn⟩ := Bool.and_eq_true_iff.1 hfound
  refine ⟨hwf, contracts, hrun, List.contains_iff_mem.1 hkey, d, hd, hname, ?_⟩
  rintro ⟨l, hl, hlists⟩
  rw [hl] at hn
  have hstorage : l.storage.length = n := eq_of_beq hn
  exact hlength (hlists.items.length_eq.symm.trans hstorage)

/-- The full layout of a contract may not be that of its linearization: variables of a contract that
was not put out are missing, and those that a base was laid out with are listed once more. -/
theorem not_lists_linearization :
    Deviates rootMissing "B.sol:Derived" ∧ Deviates baseLaidOut "B.sol:Derived" := by
  constructor
  · exact deviates_of_length (by decide +kernel) 2 (by decide +kernel) (by decide +kernel)
  · exact deviates_of_length (by decide +kernel) 4 (by decide +kernel) (by decide +kernel)

end StorageUpgrade.Validation
