import StorageUpgrade.Proofs.Extract.Contracts

/-!
# What is recorded of the contracts of a compilation

The contracts that a compiler put out are recorded under their full names: each with its layout, and
with the full names of the contracts that it inherits from.

## Strategy

* Adding a contract whose name is listed records its layout and the numbers of the contracts that it
  inherits from (`of_addContract`).
* The contracts of a source are added one after the other.  While this goes on, each name that is
  listed belongs to a contract that is recorded or still to come (`Known`).
* In the end the numbers are replaced by full names, and nothing else changes (`of_setBases`).
-/

namespace StorageUpgrade.Validation

open SyntaxM

variable {output : Json} {decode : SourceDecoder} {d : Definition}

/-! ### Recording -/

/-- A contract is recorded: the numbers of the contracts that it inherits from, and its layout. -/
structure Recorded (output : Json) (decode : SourceDecoder) (bases : List (String × List Json))
    (d : Definition) (info : ContractInfo) : Prop where
  layout : Extracted output decode d info.layout
  bases : Json.find? d.key bases = some ((linearization output d).tail.map (·.id))

/-- The names that are listed belong to contracts, and what is listed for a contract is recorded of
it, unless the contract is still to come. -/
structure Known (output : Json) (decode : SourceDecoder) (pending : List Definition)
    (p : Progress) : Prop where
  nodup : (p.bases.map (·.1)).Nodup
  known : ∀ key info, Json.find? key p.contracts = some info → ∃ d ∈ definitions output,
    d.key = key ∧ (Recorded output decode p.bases d info ∨ d ∈ pending)

theorem WellFormed.eq_of_withoutFirst (hwf : WellFormed output) (hd : d ∈ definitions output)
    {bases : List Json}
    (h : d.node.lookup "linearizedBaseContracts" (.arr []) >>= withoutFirst = .ok bases) :
    bases = (linearization output d).tail.map (·.id) := by
  obtain ⟨listed, hlisted, hbases⟩ := exists_of_bind_ok h
  have hfield := hwf.field_lineage hd
  rcases Json.field_of_lookup hlisted with hx | ⟨hx, -⟩
  · rw [← hx, hfield] at hbases
    rw [List.map_tail]
    exact (Except.ok.inj hbases).symm
  · rw [hfield] at hx
    cases hx

theorem eq_compilerLayout (hwf : WellFormed output) {outputs compiled : Json}
    (houtputs : (d.source, outputs) ∈ (output.field "contracts").fields)
    (h : (do (← outputs.part d.name).lookup "storageLayout") = Except.ok compiled) :
    compilerLayout output d = compiled := by
  obtain ⟨data, hdata, hcompiled⟩ := exists_of_bind_ok h
  rw [compilerLayout, Json.field_of_mem hwf.outputs houtputs, hdata]
  exact Json.field_of_lookup_null hcompiled

/-- Adding a contract whose name is listed records it, and nothing changes if it is not listed. -/
theorem of_addContract (hwf : WellFormed output) (hd : d ∈ definitions output) {outputs : Json}
    (houtputs : (d.source, outputs) ∈ (output.field "contracts").fields) {p p' : Progress}
    (h : Yields (addContract decode (SyntaxIndex.ofOutput 0 output) d.source outputs p d.node) p') :
    p' = p ∧ Json.find? d.key p.contracts = none ∨
      ∃ info, Extracted output decode d info.layout ∧ p' = {
        contracts := Json.put d.key info p.contracts
        bases := Json.put d.key ((linearization output d).tail.map (·.id)) p.bases } := by
  unfold addContract at h
  obtain ⟨name, hname, h⟩ := h.of_bind
  obtain rfl : d.name = name := Json.field_of_get (yields_ask.1 hname)
  dsimp only at h
  split at h
  · rename_i hnone
    exact .inl ⟨yields_pure.1 h, hnone⟩
  · obtain ⟨-, -, h⟩ := h.of_bind
    obtain ⟨bases, hbases, h⟩ := h.of_bind
    obtain ⟨src, -, h⟩ := h.of_bind
    obtain ⟨compiled, hcompiled, h⟩ := h.of_bind
    obtain ⟨l, hl, h⟩ := h.of_bind
    obtain ⟨external, -, h⟩ := h.of_bind
    obtain ⟨methods, -, h⟩ := h.of_bind
    obtain ⟨-, -, h⟩ := h.of_bind
    obtain rfl := yields_pure.1 h
    obtain rfl := eq_compilerLayout hwf houtputs (yields_ask.1 hcompiled)
    obtain rfl := hwf.eq_of_withoutFirst hd (yields_ask.1 hbases)
    exact .inr ⟨_, hwf.extracted_of_layout hd hl, rfl⟩

/-- Adding a contract that is to come keeps what is known. -/
theorem known_addContract (hwf : WellFormed output) (hd : d ∈ definitions output) {outputs : Json}
    (houtputs : (d.source, outputs) ∈ (output.field "contracts").fields) {p p' : Progress}
    {pending : List Definition} (hknown : Known output decode (d :: pending) p)
    (h : Yields (addContract decode (SyntaxIndex.ofOutput 0 output) d.source outputs p d.node) p') :
    Known output decode pending p' := by
  rcases of_addContract hwf hd houtputs h with ⟨rfl, hnone⟩ | ⟨info, hinfo, rfl⟩
  · refine ⟨hknown.nodup, fun key info hfind => ?_⟩
    obtain ⟨b, hb, rfl, hcase⟩ := hknown.known key info hfind
    refine ⟨b, hb, rfl, hcase.imp_right fun hmem => ?_⟩
    rcases List.mem_cons.1 hmem with rfl | hmem
    · rw [hnone] at hfind
      cases hfind
    · exact hmem
  · refine ⟨Json.nodup_keys_put hknown.nodup, fun key other hfind => ?_⟩
    rw [Json.find?_put] at hfind
    split at hfind
    · rename_i hkey
      cases hfind
      exact ⟨d, hd, hkey.symm, .inl ⟨hinfo, by simp⟩⟩
    · rename_i hkey
      obtain ⟨b, hb, rfl, hcase⟩ := hknown.known key other hfind
      refine ⟨b, hb, rfl, ?_⟩
      rcases hcase with ⟨hlayout, hbases⟩ | hmem
      · exact .inl ⟨hlayout, by rw [Json.find?_put, if_neg hkey]; exact hbases⟩
      · rcases List.mem_cons.1 hmem with rfl | hmem
        · exact absurd rfl hkey
        · exact .inr hmem

/-! ### The contracts of a source -/

/-- The contracts that the source of a name defines. -/
def definitionsIn (output : Json) (source : String) : List Definition :=
  definitionsOf (source, (output.field "sources").field source)

theorem mem_definitionsIn (hwf : WellFormed output) {source : String} :
    d ∈ definitionsIn output source ↔ d ∈ definitions output ∧ d.source = source := by
  constructor
  · intro hd
    obtain ⟨node, hnode, rfl⟩ := List.mem_map.1 hd
    refine ⟨List.mem_flatMap.2 ⟨_, Json.mem_fields_of_field_ne fun hnull => ?_, hd⟩, rfl⟩
    dsimp only at hnode
    rw [hnull] at hnode
    cases hnode
  · rintro ⟨hd, rfl⟩
    obtain ⟨data, hsource, hnode⟩ := mem_definitions hd
    rw [definitionsIn, Json.field_of_mem hwf.sources hsource]
    exact List.mem_map.2 ⟨d.node, hnode, rfl⟩

/-- A name that is listed was listed before, or it is that of a contract put out for the source. -/
theorem find?_listed {source key : String} {info : ContractInfo} {names : List Json} :
    ∀ {contracts : List (String × ContractInfo)},
      Json.find? key (names.foldl (fun contracts name =>
        Json.put (fullName source name) { src := name } contracts) contracts) = some info →
      (∃ name ∈ names, fullName source name = key) ∨ Json.find? key contracts = some info := by
  induction names with
  | nil => exact .inr
  | cons name names ih =>
      intro contracts h
      rcases ih h with ⟨other, hother, hkey⟩ | h
      · exact .inl ⟨other, List.mem_cons_of_mem _ hother, hkey⟩
      · rw [Json.find?_put] at h
        split at h
        · rename_i hkey
          exact .inl ⟨name, List.mem_cons_self, hkey.symm⟩
        · exact .inr h

/-- Adding the contracts of a source keeps what is known. -/
theorem known_addSource (hwf : WellFormed output) {source : String} {outputs : Json}
    (houtputs : (source, outputs) ∈ (output.field "contracts").fields) {p p' : Progress}
    (hknown : Known output decode [] p)
    (h : Yields (addSource decode (SyntaxIndex.ofOutput 0 output) output p source outputs) p') :
    Known output decode [] p' := by
  unfold addSource at h
  obtain ⟨listed, hlisted, h⟩ := h.of_bind
  obtain ⟨data, hdata, h⟩ := h.of_bind
  have hadded : Yields (do
      let tree ← ask (data.get "ast")
      let found := Ast.find contractKind tree
      let p ← found.nodes.foldlM
        (addContract decode (SyntaxIndex.ofOutput 0 output) source outputs)
        { p with contracts := listed.foldl (fun contracts name =>
          Json.put (fullName source name) { src := name } contracts) p.contracts }
      ask found.finish
      return p) p' := by
    dsimp only at h
    split at h <;> obtain ⟨hasTree, -, h⟩ := h.of_bind <;> exact h.of_check.2
  obtain ⟨tree, htree, hadded⟩ := hadded.of_bind
  obtain ⟨found, hfound, hadded⟩ := hadded.of_bind
  obtain ⟨-, -, hadded⟩ := hadded.of_bind
  obtain rfl := yields_pure.1 hadded
  have hnames : outputNames outputs = listed := by rw [outputNames, yields_ask.1 hlisted]
  have hin : definitionsIn output source = (Ast.find contractKind tree).nodes.map (⟨source, ·⟩) := by
    rw [definitionsIn, Json.field_of_lookup_lookup (yields_ask.1 hdata), definitionsOf,
      Json.field_of_get (yields_ask.1 htree)]
  -- What remains to be added belongs to the source, and covers the names that were listed anew.
  let I (nodes : List Json) (p : Progress) : Prop :=
    (∀ node ∈ nodes, (⟨source, node⟩ : Definition) ∈ definitions output) ∧
      Known output decode (nodes.map (⟨source, ·⟩)) p
  refine (hfound.of_foldlM (I := I) (fun {node nodes p p'} hI hadd => ?_) ?_).2
  · obtain ⟨hmem, hknown⟩ := hI
    exact ⟨fun other hother => hmem other (List.mem_cons_of_mem _ hother),
      known_addContract hwf (hmem node List.mem_cons_self) houtputs hknown hadd⟩
  · constructor
    · intro node hnode
      have hd : (⟨source, node⟩ : Definition) ∈ definitionsIn output source :=
        hin ▸ List.mem_map.2 ⟨node, hnode, rfl⟩
      exact ((mem_definitionsIn hwf).1 hd).1
    · refine ⟨hknown.nodup, fun key info hfind => ?_⟩
      rcases find?_listed hfind with ⟨name, hname, rfl⟩ | hfind
      · obtain ⟨d, hd, hsource, rfl⟩ := hwf.defined _ houtputs name (hnames ▸ hname)
        refine ⟨d, hd, by rw [Definition.key, hsource], .inr ?_⟩
        rw [← hin]
        exact (mem_definitionsIn hwf).2 ⟨hd, hsource⟩
      · obtain ⟨d, hd, hkey, hcase⟩ := hknown.known key info hfind
        exact ⟨d, hd, hkey, .inl (hcase.resolve_right List.not_mem_nil)⟩

/-! ### All contracts -/

theorem exists_definition_of_mem_names {known : List (Json × String)}
    (hknown : names output = .ok known) {id : Json} {name : String} (h : (id, name) ∈ known) :
    ∃ d ∈ definitions output, d.id = id ∧ d.key = name := by
  obtain ⟨sources, hsources, hknown⟩ := exists_of_bind_ok hknown
  obtain ⟨listed, hlisted, hentries⟩ := exists_of_bind_ok hsources
  obtain ⟨found, hfound, hknown⟩ := exists_of_bind_ok hknown
  cases hknown
  obtain ⟨group, hgroup, hmem⟩ := List.mem_flatten.1 (List.mem_reverse.1 h)
  obtain ⟨⟨source, data⟩, hsource, hnames⟩ := exists_left_of_mem (forall₂_of_mapM_ok hfound) hgroup
  obtain ⟨tree, htree, hnames⟩ := exists_of_bind_ok hnames
  obtain ⟨pairs, hpairs, hnames⟩ := exists_of_bind_ok hnames
  obtain ⟨-, -, hnames⟩ := exists_of_bind_ok hnames
  cases hnames
  obtain ⟨node, hnode, hpair⟩ := exists_left_of_mem (forall₂_of_mapM_ok hpairs) hmem
  obtain ⟨contractName, hname, hpair⟩ := exists_of_bind_ok hpair
  obtain ⟨number, hnumber, hpair⟩ := exists_of_bind_ok hpair
  have hnodeIn : node ∈ (Ast.find contractKind (data.field "ast")).nodes := by
    rcases Json.field_of_lookup htree with hx | ⟨-, rfl⟩
    · rwa [hx]
    · cases hnode
  have hsourceIn : (source, data) ∈ (output.field "sources").fields := by
    rcases Json.field_of_lookup hlisted with hx | ⟨-, rfl⟩
    · rwa [hx, Json.fields_of_entries hentries]
    · cases hentries
      cases hsource
  refine ⟨⟨source, node⟩, List.mem_flatMap.2 ⟨_, hsourceIn, List.mem_map.2 ⟨node, hnodeIn, rfl⟩⟩, ?_⟩
  split at hpair
  · obtain ⟨rfl, rfl⟩ := Prod.mk.inj (Except.ok.inj hpair)
    exact ⟨Json.field_of_get hnumber, by
      rw [Definition.key, Definition.name, Json.field_of_get hname]⟩
  · cases hpair

/-- The full names that are found for the numbers of contracts are their full names. -/
theorem eq_key_of_nameOf (hwf : WellFormed output) (hd : d ∈ definitions output)
    {known : List (Json × String)} (hknown : names output = .ok known) {name : String}
    (h : nameOf known d.id = .ok name) : name = d.key := by
  unfold nameOf at h
  split at h
  · rename_i id found hfind
    cases h
    obtain ⟨b, hb, hid, rfl⟩ :=
      exists_definition_of_mem_names hknown (List.mem_of_find?_eq_some hfind)
    obtain ⟨m, hm⟩ := Json.exists_int_of_isSome (hwf.numbered b hb)
    obtain ⟨n, hn⟩ := Json.exists_int_of_isSome (hwf.numbered d hd)
    have hsame : (Json.int m).same (.int n) = true := by
      have hfound := List.find?_some hfind
      rwa [← hm, ← hn, hid]
    have hmn : m = n := by simpa using hsame
    rw [hwf.eq_of_id_eq hb hd (by rw [hm, hn, hmn])]
  · cases h

theorem eq_map_key_of_mapM (hwf : WellFormed output) {known : List (Json × String)}
    (hknown : names output = .ok known) {bases : List Definition} :
    ∀ {found : List String}, (∀ b ∈ bases, b ∈ definitions output) →
      (bases.map (·.id)).mapM (nameOf known) = .ok found → found = bases.map (·.key) := by
  induction bases with
  | nil =>
      intro found _ h
      cases h
      rfl
  | cons b bases ih =>
      intro found hbases h
      rw [List.map_cons, List.mapM_cons] at h
      obtain ⟨name, hname, h⟩ := exists_of_bind_ok h
      obtain ⟨rest, hrest, h⟩ := exists_of_bind_ok h
      cases h
      rw [List.map_cons, eq_key_of_nameOf hwf (hbases b List.mem_cons_self) hknown hname,
        ih (fun c hc => hbases c (List.mem_cons_of_mem _ hc)) hrest]

/-- What `run` does in the end: the contracts that each contract inherits from get their names. -/
def setBases (known : List (Json × String)) (bases : List (String × List Json))
    (contracts : List (String × ContractInfo)) : Except Json.Misuse (List (String × ContractInfo)) :=
  bases.foldlM (fun contracts (key, ids) => do
    let bases ← ids.mapM (nameOf known)
    .ok (contracts.map fun (k, info) => (k, if k = key then { info with bases } else info)))
    contracts

theorem of_setBases {known : List (Json × String)} {key : String} {info' : ContractInfo}
    {bases : List (String × List Json)} : ∀ {contracts contracts' : List (String × ContractInfo)},
    (bases.map (·.1)).Nodup → setBases known bases contracts = .ok contracts' →
    Json.find? key contracts' = some info' →
      ∃ info, Json.find? key contracts = some info ∧ info'.layout = info.layout ∧
        (Json.find? key bases = none → info'.bases = info.bases) ∧
        ∀ ids, Json.find? key bases = some ids → ids.mapM (nameOf known) = .ok info'.bases := by
  induction bases with
  | nil =>
      intro contracts contracts' _ h hfind
      cases h
      exact ⟨info', hfind, rfl, fun _ => rfl, nofun⟩
  | cons first bases ih =>
      obtain ⟨k, ids⟩ := first
      intro contracts contracts' hnodup h hfind
      obtain ⟨hnot, hnodup⟩ := List.nodup_cons.1 hnodup
      rw [setBases, List.foldlM_cons] at h
      obtain ⟨changed, hchanged, h⟩ := exists_of_bind_ok h
      obtain ⟨named, hnamed, hchanged⟩ := exists_of_bind_ok hchanged
      cases hchanged
      obtain ⟨info, hinfo, hlayout, hnone, hsome⟩ := ih hnodup h hfind
      have hupdate := (Json.find?_update
        (f := fun info : ContractInfo => { info with bases := named })).symm.trans hinfo
      obtain ⟨before, hbefore, rfl⟩ := Option.map_eq_some_iff.1 hupdate
      refine ⟨before, hbefore, ?_, ?_⟩
      · rw [hlayout]
        split <;> rfl
      · rw [Json.find?_cons]
        by_cases hk : k = key
        · -- The names are set now, and never again.
          subst hk
          have hlater : Json.find? k bases = none := by
            by_contra hsome
            obtain ⟨later, hlater⟩ := Option.ne_none_iff_exists'.1 hsome
            exact hnot (List.mem_map.2 ⟨_, Json.mem_of_find? hlater, rfl⟩)
          rw [if_pos rfl]
          refine ⟨nofun, fun ids' hids => ?_⟩
          cases hids
          rw [hnone hlater, if_pos rfl]
          exact hnamed
        · rw [if_neg hk, if_neg (Ne.symm hk)] at *
          exact ⟨hnone, hsome⟩

/-- Each contract that is recorded is one of the compilation, with its layout and with the full names
of the contracts that it inherits from. -/
theorem of_run (hwf : WellFormed output) {contracts : List (String × ContractInfo)}
    (h : Yields (run decode output) contracts) {key : String} {info : ContractInfo}
    (hfind : Json.find? key contracts = some info) :
    ∃ d ∈ definitions output, d.key = key ∧ Extracted output decode d info.layout ∧
      info.bases = (linearization output d).tail.map (·.key) := by
  unfold run at h
  obtain ⟨known, hknown, h⟩ := h.of_bind
  obtain ⟨sources, hsources, h⟩ := h.of_bind
  obtain ⟨p, hp, h⟩ := h.of_bind
  have hentries : ∀ entry ∈ sources, entry ∈ (output.field "contracts").fields := by
    intro entry hentry
    obtain ⟨listed, hlisted, hsources⟩ := exists_of_bind_ok (yields_ask.1 hsources)
    rcases Json.field_of_lookup hlisted with hx | ⟨-, rfl⟩
    · rwa [hx, Json.fields_of_entries hsources]
    · cases hsources
      cases hentry
  let I (entries : List (String × Json)) (p : Progress) : Prop :=
    (∀ entry ∈ entries, entry ∈ (output.field "contracts").fields) ∧ Known output decode [] p
  have hp : Known output decode [] p := by
    refine (hp.of_foldlM (I := I) (fun {entry entries p p'} hI hadd => ?_) ?_).2
    · obtain ⟨hmem, hknown⟩ := hI
      exact ⟨fun other hother => hmem other (List.mem_cons_of_mem _ hother),
        known_addSource hwf (hmem entry List.mem_cons_self) hknown hadd⟩
    · exact ⟨hentries, List.nodup_nil, nofun⟩
  obtain ⟨info', hinfo, hlayout, -, hbases⟩ := of_setBases hp.nodup (yields_ask.1 h) hfind
  obtain ⟨d, hd, rfl, hcase⟩ := hp.known key info' hinfo
  obtain ⟨hextracted, hids⟩ := hcase.resolve_right List.not_mem_nil
  exact ⟨d, hd, rfl, hlayout ▸ hextracted, eq_map_key_of_mapM hwf (yields_ask.1 hknown)
    (fun _ hb => mem_definitions_of_mem_linearization (List.mem_of_mem_tail hb)) (hbases _ hids)⟩

end StorageUpgrade.Validation
