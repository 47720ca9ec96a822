import StorageUpgrade.Proofs.Extract.NamespaceSites
import StorageUpgrade.Proofs.Extract.TypesClosed

/-!
# Namespaces that are defined twice

The namespaces of a contract are gathered in one table while its contracts are gone through, and whether
each of them is defined once is only asked in the end.  The answer is that of the sites: if a location
occurs again among them, the first such location is reported with the places of all its sites, and
otherwise the namespaces are those of the sites, in their order (`load_cases`).

## Strategy

* Going through the contracts adds one site after the other to the table, whatever the state of the run
  is (`answers_found`).
* A site of a location that is known adds its place to the first entry of this location, so the places of
  an entry are those of all later sites with its location (`foldl_addTo_cons`).
* The first entry of the table tells whether the first location occurs again.  If it does not, then the
  rest of the table is that of the other sites (`unique_foldl_addTo`).
-/

namespace StorageUpgrade.Extract

open SyntaxM Namespace

/-! ### The first location that occurs again -/

/-- The first text of a list that occurs in it again. -/
def firstRepeated? : List String → Option String
  | [] => none
  | x :: xs => if x ∈ xs then some x else firstRepeated? xs

theorem firstRepeated?_eq_none_iff {xs : List String} : firstRepeated? xs = none ↔ xs.Nodup := by
  induction xs with
  | nil => exact ⟨fun _ => .nil, fun _ => rfl⟩
  | cons x xs ih =>
      rw [firstRepeated?, List.nodup_cons]
      split
      · rename_i hmem
        exact ⟨nofun, fun h => absurd hmem h.1⟩
      · rename_i hnot
        exact ih.trans ⟨fun h => ⟨hnot, h⟩, fun h => h.2⟩

theorem mem_of_firstRepeated? {xs : List String} {x : String} (h : firstRepeated? xs = some x) :
    x ∈ xs := by
  induction xs with
  | nil => cases h
  | cons y xs ih =>
      rw [firstRepeated?] at h
      split at h
      · cases h
        exact List.mem_cons_self
      · exact List.mem_cons_of_mem y (ih h)

/-! ### The table of namespaces -/

namespace Site

variable (decode : SourceDecoder) (layout : Json)

/-- Adds a site to the namespaces that were found before. -/
def addTo (found : List (String × Found)) (site : Site) : List (String × Found) :=
  match Json.find? site.location found with
  | some known => Json.put site.location { known with srcs := known.srcs ++ [site.place decode] } found
  | none => Json.put site.location ⟨site.items decode layout, [site.place decode]⟩ found

/-- The places of all sites with a location. -/
def places (sites : List Site) (location : String) : List String :=
  (sites.filter fun site => site.location = location).map (place decode)

variable {decode layout}

theorem addTo_cons_self {f : Found} {found : List (String × Found)} (site : Site) :
    addTo decode layout ((site.location, f) :: found) site =
      (site.location, { f with srcs := f.srcs ++ [site.place decode] }) :: found := by
  rw [addTo, Json.find?_cons, if_pos rfl]
  dsimp only
  rw [Json.put, if_pos rfl]

theorem addTo_cons_of_ne {location : String} {f : Found} {found : List (String × Found)} {site : Site}
    (h : site.location ≠ location) :
    addTo decode layout ((location, f) :: found) site =
      (location, f) :: addTo decode layout found site := by
  rw [addTo, addTo, Json.find?_cons, if_neg h.symm]
  cases Json.find? site.location found with
  | none => exact if_neg h.symm
  | some known => exact if_neg h.symm

/-- The first entry of the table takes the places of its sites, and the rest is that of the others. -/
theorem foldl_addTo_cons (location : String) (sites : List Site) :
    ∀ (f : Found) (found : List (String × Found)),
      sites.foldl (addTo decode layout) ((location, f) :: found) =
        (location, { f with srcs := f.srcs ++ places decode sites location }) ::
          (sites.filter fun site => site.location ≠ location).foldl (addTo decode layout) found := by
  induction sites with
  | nil =>
      intro f found
      simp [places]
  | cons site sites ih =>
      intro f found
      rw [List.foldl_cons]
      by_cases h : site.location = location
      · subst h
        rw [addTo_cons_self, ih]
        simp [places]
      · rw [addTo_cons_of_ne h, ih]
        simp [places, h]

theorem places_cons_self (site : Site) (sites : List Site) :
    places decode (site :: sites) site.location =
      site.place decode :: places decode sites site.location := by
  simp [places]

theorem places_cons_of_ne {site : Site} {location : String} (h : site.location ≠ location)
    (sites : List Site) : places decode (site :: sites) location = places decode sites location := by
  simp [places, h]

section

variable {sites : List Site} {location : String} (h : location ∉ sites.map (·.location))

include h

theorem ne_of_not_mem {site : Site} (hsite : site ∈ sites) : site.location ≠ location :=
  fun heq => h (List.mem_map.2 ⟨site, hsite, heq⟩)

theorem places_eq_nil : places decode sites location = [] := by
  rw [places, List.filter_eq_nil_iff.2 fun site hsite => ?_]
  · rfl
  · simpa using ne_of_not_mem h hsite

theorem filter_ne_eq_self : (sites.filter fun site => site.location ≠ location) = sites :=
  List.filter_eq_self.2 fun site hsite => by simpa using ne_of_not_mem h hsite

end

theorem places_ne_nil {sites : List Site} {location : String} (h : location ∈ sites.map (·.location)) :
    places decode sites location ≠ [] := by
  obtain ⟨site, hsite, rfl⟩ := List.mem_map.1 h
  exact List.ne_nil_of_mem (List.mem_map_of_mem (List.mem_filter.2 ⟨hsite, by simp⟩))

end Site

/-- The name of a contract in a report. -/
def titleOf (contract : Json) : Json :=
  if (contract.field "canonicalName").isSet then contract.field "canonicalName"
  else contract.field "name"

section Unique

variable {contract : Json} (hname : (contract.get "name").toBool = true)
  {location : String} {f : Found} {found : List (String × Found)}

include hname in
theorem unique_of_many (h : 1 < f.srcs.length) : unique contract ((location, f) :: found) =
    .error (.upgrade (.duplicateNamespace location (titleOf contract) f.srcs)) := by
  rw [unique, if_pos h, lift_bind (Json.lookup_eq hname _), titleOf]
  split
  · rfl
  · rw [lift_bind (Json.get_eq hname)]

theorem unique_of_one (h : ¬ 1 < f.srcs.length) : unique contract ((location, f) :: found) =
    (unique contract found).map ((location, f.items) :: ·) := by
  rw [unique, if_neg h]
  cases unique contract found <;> rfl

include hname in
/-- What the table of some sites comes to. -/
theorem unique_foldl_addTo (decode : SourceDecoder) (layout : Json) (sites : List Site) :
    unique contract (sites.foldl (Site.addTo decode layout) []) =
      match firstRepeated? (sites.map (·.location)) with
      | some location => .error (.upgrade (.duplicateNamespace location (titleOf contract)
          (Site.places decode sites location)))
      | none => .ok (sites.map fun site => (site.location, site.items decode layout)) := by
  induction sites with
  | nil => rfl
  | cons site sites ih =>
      -- The first entry has the places of all sites with its location, and no other entry has them.
      have hfirst : Site.addTo decode layout [] site =
          [(site.location, ⟨site.items decode layout, [site.place decode]⟩)] := rfl
      rw [List.foldl_cons, hfirst, Site.foldl_addTo_cons, List.map_cons, firstRepeated?]
      by_cases hagain : site.location ∈ sites.map (·.location)
      · rw [if_pos hagain, unique_of_many hname]
        · dsimp only
          rw [Site.places_cons_self]
          rfl
        · exact Nat.succ_lt_succ (List.length_pos_iff.2 (Site.places_ne_nil hagain))
      · rw [if_neg hagain, unique_of_one, Site.filter_ne_eq_self hagain, ih]
        · cases hrepeated : firstRepeated? (sites.map (·.location)) with
          | none => rfl
          | some location =>
              have hmem := mem_of_firstRepeated? hrepeated
              dsimp only
              rw [Site.places_cons_of_ne fun h => hagain (h ▸ hmem)]
              rfl
        · rw [Site.places_eq_nil hagain]
          exact Nat.lt_irrefl 1

end Unique

/-! ### Going through contracts -/

variable {c : CompiledContract} {decode : SourceDecoder}

theorem location?_eq {struct : Json} {location : Option String}
    (h : Documentation.location? struct = .ok location) : location? struct = location := by
  rw [location?, h]
  rfl

section Contract

variable (h : c.ReadsSites decode) (hresolves : ∀ v ∈ c.memberTypes, Ast.Resolves c.index v) {b : Json}
  (hb : b ∈ c.inherited)

include h hresolves hb

/-- A struct with a location adds its site. -/
theorem answers_addStruct {struct : Json} (hstruct : struct ∈ structsOf b)
    (found : List (String × Found)) :
    Answers (addStruct decode (c.compilationOf b) b found struct)
      (((location? struct).map (Site.mk b struct)).toList.foldl (Site.addTo decode c.layout) found) := by
  have hcontract := h.contracts b hb
  obtain ⟨location, hlocation⟩ := Except.exists_of_toBool (hcontract.locations struct hstruct)
  rw [location?_eq hlocation]
  unfold addStruct
  refine (answers_lift hlocation).bind ?_
  cases location with
  | none => exact answers_pure found
  | some location =>
      have hhas : hasLocation struct = true := hasLocation_eq hlocation
      have hreads := h.sites b hb struct hstruct hhas
      refine (answers_ask (hcontract.canonicalName hstruct)).bind
        ((quiet_plainStruct hcontract hstruct).answers.bind
          ((answers_lift (placeOf_eq hreads.place)).bind ?_))
      rw [Option.map_some, Option.toList_some, List.foldl_cons, List.foldl_nil, Site.addTo]
      cases Json.find? location found with
      | some f => exact answers_pure _
      | none =>
          exact (answers_ask (Json.get_eq hcontract.name)).bind ((quiet_say _ _).answers.bind
            ((answers_namespaceItems h hb hstruct hhas location hresolves).bind (answers_pure _)))

/-- The structs among some parts of a contract add their sites. -/
theorem answers_addStructs {nodes : List Json} (hnodes : ∀ v ∈ nodes, v ∈ Ast.parts "nodes" b)
    (found : List (String × Found)) :
    Answers (addStructs decode (c.compilationOf b) b found nodes)
      (((nodes.filter isStruct).filterMap fun struct => (location? struct).map (Site.mk b struct)).foldl
        (Site.addTo decode c.layout) found) := by
  induction nodes generalizing found with
  | nil => exact answers_pure found
  | cons node nodes ih =>
      obtain ⟨hnode, hnodes⟩ := List.forall_mem_cons.1 hnodes
      have hasked : Ast.isDefinition .struct node = .ok (isStruct node) :=
        Ast.hasKind_eq ((h.contracts b hb).nodes node hnode) _
      unfold addStructs
      refine (answers_ask hasked).bind ?_
      by_cases hstruct : isStruct node = true
      · rw [if_pos hstruct, List.filter_cons_of_pos hstruct, List.filterMap_eq_flatMap_toList,
          List.flatMap_cons, List.foldl_append, ← List.filterMap_eq_flatMap_toList]
        exact (answers_addStruct h hresolves hb (List.mem_filter.2 ⟨hnode, hstruct⟩) found).bind
          (ih hnodes _)
      · rw [if_neg hstruct, List.filter_cons_of_neg hstruct]
        exact ih hnodes found

theorem answers_addContract (found : List (String × Found)) :
    Answers (addContract decode (c.compilationOf b) b found)
      ((sitesOf b).foldl (Site.addTo decode c.layout) found) := by
  unfold addContract
  exact (answers_ask (partsOf_eq (h.contracts b hb).listed)).bind
    (answers_addStructs h hresolves hb (fun _ hv => hv) found)

end Contract

/-- Going through the contracts adds their sites. -/
theorem answers_found (h : c.ReadsSites decode)
    (hresolves : ∀ v ∈ c.memberTypes, Ast.Resolves c.index v) :
    Answers ((c.inherited.zip c.inherited).foldlM (fun found (b, plain) =>
        addContract decode (c.compilationOf b) plain found) [])
      (c.sites.foldl (Site.addTo decode c.layout) []) := by
  rw [List.zip_eq_zipWith, List.zipWith_self, List.foldlM_map, CompiledContract.sites,
    List.foldl_flatMap]
  exact Answers.foldlM (fun found b hb => answers_addContract h hresolves hb found) []

/-- The namespaces of a contract are those of its sites if each location is declared once, and else the
first location that is declared again is reported, with the places of its sites. -/
theorem load_cases (hc : c.Inherits) (h : c.ReadsSites decode)
    (hresolves : ∀ v ∈ c.memberTypes, Ast.Resolves c.index v) (s : SyntaxState) :
    (¬ (c.sites.map (·.location)).Nodup ∧
      ∃ location, firstRepeated? (c.sites.map (·.location)) = some location ∧
        (outcome (load decode c.compilation none) s).1 =
          .error (.upgrade (.duplicateNamespace location (titleOf c.contract)
            (Site.places decode c.sites location)))) ∨
    ((c.sites.map (·.location)).Nodup ∧
      (outcome (load decode c.compilation none) s).1 =
        .ok (c.sites.map fun site => (site.location, site.items decode c.layout))) := by
  have hsteps := answers_found h hresolves
  have hload : (outcome (load decode c.compilation none) s).1 =
      unique c.contract (c.sites.foldl (Site.addTo decode c.layout) []) := by
    unfold load
    rw [hc.quiet_linearizedContracts.answers.outcome_bind, (answers_pure _).outcome_bind]
    exact congrArg Prod.fst (hsteps.outcome_bind _ _)
  rw [hload, unique_foldl_addTo (h.contracts c.contract hc.self).name]
  cases hrepeated : firstRepeated? (c.sites.map (·.location)) with
  | some location =>
      refine .inl ⟨fun hnodup => ?_, location, rfl, rfl⟩
      rw [firstRepeated?_eq_none_iff.2 hnodup] at hrepeated
      cases hrepeated
  | none => exact .inr ⟨firstRepeated?_eq_none_iff.1 hrepeated, rfl⟩

/-! ### A location that is declared again by a base contract -/

/-- A function with a type name in its body that a compiler does not describe, that of `address(0)`. -/
def callsAddress (id : Int) : Json :=
  .obj [("id", .int id), ("nodeType", .str "FunctionDefinition"), ("name", .str "renounce"),
    ("body", .obj [("id", .int (id + 1)), ("nodeType", .str "ElementaryTypeName"),
      ("name", .str "address"), ("typeDescriptions", .obj [])])]

/-- A contract with a function, and with a struct that declares a location, at a place in the sources. -/
def placedContract (id : Int) (name place : String) (lineage : List Json) : Json :=
  .obj [("id", .int id), ("nodeType", .str "ContractDefinition"), ("name", .str name),
    ("src", .str "0:1:0"), ("linearizedBaseContracts", .arr lineage),
    ("nodes", .arr [callsAddress (id + 4),
      .obj [("id", .int (id + 1)), ("nodeType", .str "StructDefinition"),
      ("name", .str "Main"), ("canonicalName", .str (name ++ ".Main")), ("src", .str place),
      ("documentation", .str "@custom:storage-location erc7201:main"),
      ("members", .arr [declarationNode (id + 2) "total" "t_uint256" "uint256"
        (.obj [("id", .int (id + 3)), ("nodeType", .str "ElementaryTypeName"),
          typed "t_uint256" "uint256"])])]])]

/-- A contract and its base, with a struct each.  The type names in their functions are not described. -/
def token : CompiledContract where
  number := 0
  output := .obj [("sources", .obj [("A.sol", .obj [("ast", .obj [("id", .int 1),
    ("nodeType", .str "SourceUnit"), ("nodes", .arr [
      placedContract 10 "Base" "0:9:0" [.int 10],
      placedContract 20 "Token" "30:9:0" [.int 20, .int 10]])])])])]
  contract := placedContract 20 "Token" "30:9:0" [.int 20, .int 10]

/-- Each node is at the place that it names itself. -/
def ownPlace : SourceDecoder := fun node => .ok (node.field "src").display

/-- The location is reported, although not all type names of the compilation resolve. -/
theorem load_cases_token :
    ¬ token.WellFormed ∧ (outcome (load ownPlace token.compilation none) {}).1 =
      .error (.upgrade (.duplicateNamespace "erc7201:main" (.str "Token") ["30:9:0", "0:9:0"])) := by
  refine ⟨by decide +kernel, ?_⟩
  have hinherits : token.Inherits := by decide +kernel
  have hreads : token.ReadsSites ownPlace := by decide +kernel
  have hresolves : ∀ v ∈ token.memberTypes, Ast.Resolves token.index v := by
    have hinside : ∀ v ∈ token.memberTypes, Ast.isNode v = true ∧ Ast.HasKinds v ∧
        ∀ w ∈ Ast.typeNames v, w ∈ token.memberTypes := by decide +kernel
    have hclosed : ∀ v ∈ token.memberTypes, Ast.Closed token.index token.memberTypes v := by
      decide +kernel
    intro v hv
    obtain ⟨hnode, hkinds, hnames⟩ := hinside v hv
    exact Ast.resolves_of_closed token.memberTypes hnode hkinds hnames hclosed
  have hlocations : token.sites.map (·.location) = ["erc7201:main", "erc7201:main"] := by
    decide +kernel
  rcases load_cases hinherits hreads hresolves {} with ⟨-, location, hfirst, hload⟩ | ⟨hnodup, -⟩
  · rw [hlocations] at hfirst
    obtain rfl : "erc7201:main" = location := Option.some.inj hfirst
    have htitle : titleOf token.contract = .str "Token" := by decide +kernel
    have hplaces : Site.places ownPlace token.sites "erc7201:main" = ["30:9:0", "0:9:0"] := by
      decide +kernel
    rw [hload, htitle, hplaces]
  · rw [hlocations] at hnodup
    exact absurd hnodup (by decide)

end StorageUpgrade.Extract
