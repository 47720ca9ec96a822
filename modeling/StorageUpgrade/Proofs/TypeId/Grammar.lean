import StorageUpgrade.Proofs.TypeId.Decoding

/-!
# Well formed identifiers

An identifier is a name, or a name with a list of identifiers in parentheses and a tail, or the
identifier of a function type, which lists its return types, too.  Names neither start nor end with
an underscore.  So an identifier can stand beside any other one or a mark (`WellFormedId.isolated`),
and it is decoded to itself unless a comma follows a closing parenthesis in it
(`decode_encode_iff`).  This happens if a list goes on after a function type, or after a type whose
identifier has no tail.
-/

namespace StorageUpgrade
namespace TypeId

/-- A letter, a digit, a dot or an underscore. -/
def isNameChar (c : Char) : Bool := isWord c || c == '.'

/-- A name, of which an underscore is neither the first character nor the last one. -/
structure IsName (cs : List Char) : Prop where
  ne_nil : cs ≠ []
  chars : ∀ c ∈ cs, isNameChar c = true
  start : cs.head? ≠ some '_'
  stop : cs.getLast? ≠ some '_'

instance (cs : List Char) : Decidable (IsName cs) :=
  decidable_of_iff (cs ≠ [] ∧ cs.all isNameChar = true ∧ cs.head? ≠ some '_' ∧
      cs.getLast? ≠ some '_')
    ⟨fun ⟨hne, hchars, hstart, hstop⟩ => ⟨hne, List.all_eq_true.1 hchars, hstart, hstop⟩,
      fun h => ⟨h.ne_nil, List.all_eq_true.2 h.chars, h.start, h.stop⟩⟩

/-- A list of identifiers in parentheses. -/
def inParens (ids : List (List Char)) : List Char := '(' :: ([','].intercalate ids ++ [')'])

/-- The identifiers of types. -/
inductive WellFormedId : List Char → Prop
  | name {head : List Char} (hhead : IsName head) : WellFormedId head
  | applied {head tail : List Char} {args : List (List Char)} (hhead : IsName head)
      (hargs : ∀ id ∈ args, WellFormedId id) (htail : tail = [] ∨ IsName tail) :
      WellFormedId (head ++ inParens args ++ tail)
  | function {head : List Char} {args rets : List (List Char)} (hhead : IsName head)
      (hargs : ∀ id ∈ args, WellFormedId id) (hrets : ∀ id ∈ rets, WellFormedId id) :
      WellFormedId (head ++ inParens args ++ "returns".toList ++ inParens rets)

/-! ### Texts that can stand beside marks -/

/-- A separated text that stays so beside marks and other such texts. -/
structure Isolated (cs : List Char) : Prop extends Separated cs where
  start : cs.head? ≠ some '_'
  stop : cs.getLast? ≠ some '_'

variable {xs ys : List Char} {ids : List (List Char)}

theorem isolated_nil : Isolated [] := ⟨⟨List.not_mem_nil, .nil⟩, nofun, nofun⟩

theorem isolated_mark {c : Char} (hc : isMark c = true) : Isolated [c] := by
  have hne (d : Char) (hd : isMark d = false) : c ≠ d := fun hcd => by simp [← hcd, hc] at hd
  refine ⟨⟨fun hmem => ?_, .singleton c⟩, fun hstart => ?_, fun hstop => ?_⟩
  · exact hne '$' rfl (List.mem_singleton.1 hmem).symm
  · exact hne '_' rfl (Option.some.inj hstart)
  · exact hne '_' rfl (Option.some.inj hstop)

theorem head?_append_ne {c : Char} (hxs : xs.head? ≠ some c) (hys : ys.head? ≠ some c) :
    (xs ++ ys).head? ≠ some c := by
  rw [List.head?_append]
  revert hxs
  cases xs.head? with
  | none => exact fun _ => hys
  | some d => exact id

theorem getLast?_append_ne {c : Char} (hxs : xs.getLast? ≠ some c) (hys : ys.getLast? ≠ some c) :
    (xs ++ ys).getLast? ≠ some c := by
  rw [List.getLast?_append]
  revert hys
  cases ys.getLast? with
  | none => exact fun _ => hxs
  | some d => exact id

theorem Isolated.append (hxs : Isolated xs) (hys : Isolated ys) : Isolated (xs ++ ys) where
  plain hmem := (List.mem_append.1 hmem).elim hxs.plain hys.plain
  meet := by
    refine List.isChain_append.2 ⟨hxs.meet, hys.meet, fun a ha b hb => ⟨fun _ hunder => ?_, ?_⟩⟩
    · exact hys.start (hunder ▸ hb)
    · exact fun hunder => absurd (hunder ▸ ha) hxs.stop
  start := head?_append_ne hxs.start hys.start
  stop := getLast?_append_ne hxs.stop hys.stop

theorem isMark_of_isNameChar {c : Char} (hc : isNameChar c = true) : isMark c = false := by
  rcases mark_cases c with rfl | rfl | rfl | hmark
  · cases hc
  · cases hc
  · cases hc
  · exact hmark

/-- A text of such characters is no piece of the code. -/
theorem separated_of_isNameChar (h : ∀ c ∈ xs, isNameChar c = true) : Separated xs where
  plain hmem := absurd (h _ hmem) (by decide)
  meet := by
    refine (List.pairwise_of_forall_mem_list fun a ha b hb => ⟨fun hmark => ?_, ?_⟩).isChain
    · rw [isMark_of_isNameChar (h a ha)] at hmark
      cases hmark
    · rintro - rfl
      exact absurd (h _ hb) (by decide)

theorem IsName.isolated (h : IsName xs) : Isolated xs :=
  ⟨separated_of_isNameChar h.chars, h.start, h.stop⟩

theorem isolated_intercalate (h : ∀ id ∈ ids, Isolated id) :
    Isolated ([','].intercalate ids) := by
  induction ids with
  | nil => exact isolated_nil
  | cons id ids ih =>
      obtain ⟨hid, hids⟩ := List.forall_mem_cons.1 h
      cases ids with
      | nil => rwa [List.intercalate_singleton]
      | cons id' ids =>
          rw [List.intercalate_cons_cons]
          exact (hid.append (isolated_mark rfl)).append (ih hids)

theorem isolated_inParens (h : ∀ id ∈ ids, Isolated id) : Isolated (inParens ids) :=
  (isolated_mark (c := '(') rfl).append ((isolated_intercalate h).append (isolated_mark rfl))

/-- Names and marks stand apart in identifiers. -/
theorem WellFormedId.isolated (h : WellFormedId xs) : Isolated xs := by
  induction h with
  | name hhead => exact hhead.isolated
  | applied hhead _ htail ihargs =>
      have htail' : Isolated _ := htail.elim (fun hnil => hnil ▸ isolated_nil) IsName.isolated
      exact (hhead.isolated.append (isolated_inParens ihargs)).append htail'
  | function hhead _ _ ihargs ihrets =>
      have hreturns : IsName "returns".toList := by decide
      have hfront := (hhead.isolated.append (isolated_inParens ihargs)).append hreturns.isolated
      exact hfront.append (isolated_inParens ihrets)

/-! ### Decoding -/

theorem decode_encode_eq_iff (id : String) :
    decode (encode id) = id ↔ decodeChars (encodeChars id.toList) = id.toList := by
  unfold decode encode
  rw [String.toList_ofList]
  exact ⟨fun h => String.toList_ofList.symm.trans (congrArg String.toList h),
    fun h => (congrArg String.ofList h).trans String.ofList_toList⟩

/-- A well formed identifier is decoded to itself if and only if no comma follows a closing
parenthesis in it. -/
theorem decode_encode_iff {id : String} (hid : WellFormedId id.toList) :
    decode (encode id) = id ↔ ¬ "),".toList <:+: id.toList :=
  (decode_encode_eq_iff id).trans (decodeChars_encodeChars_iff hid.isolated.toSeparated)

/-- The identifier of a function from numbers to truth values. -/
def predicateId : String := "t_function_internal_pure(t_uint256)returns(t_bool)"

theorem wellFormedId_predicateId : WellFormedId predicateId.toList := by
  have hargs : ∀ id ∈ ["t_uint256".toList], WellFormedId id :=
    List.forall_mem_singleton.2 (.name (by decide))
  have hrets : ∀ id ∈ ["t_bool".toList], WellFormedId id :=
    List.forall_mem_singleton.2 (.name (by decide))
  have hhead : IsName "t_function_internal_pure".toList := by decide
  have htext : predicateId.toList = "t_function_internal_pure".toList ++
      inParens ["t_uint256".toList] ++ "returns".toList ++ inParens ["t_bool".toList] := rfl
  exact htext ▸ .function hhead hargs hrets

/-- A mapping to functions is decoded to itself. -/
theorem decode_encode_mapping :
    WellFormedId ("t_mapping(t_address," ++ predicateId ++ ")").toList ∧
      decode (encode ("t_mapping(t_address," ++ predicateId ++ ")")) =
        "t_mapping(t_address," ++ predicateId ++ ")" := by
  have hargs : ∀ id ∈ ["t_address".toList, predicateId.toList], WellFormedId id :=
    List.forall_mem_cons.2
      ⟨.name (by decide), List.forall_mem_singleton.2 wellFormedId_predicateId⟩
  have hhead : IsName "t_mapping".toList := by decide
  have htext : ("t_mapping(t_address," ++ predicateId ++ ")").toList = "t_mapping".toList ++
      inParens ["t_address".toList, predicateId.toList] ++ [] := rfl
  have hid : WellFormedId ("t_mapping(t_address," ++ predicateId ++ ")").toList := by
    rw [htext]
    exact .applied hhead hargs (.inl rfl)
  exact ⟨hid, (decode_encode_iff hid).2 (by decide +kernel)⟩

/-- The identifier of a function that takes another function and a number. -/
def callbackId : String :=
  "t_function_internal_pure(" ++ predicateId ++ ",t_uint256)returns(t_bool)"

/-- The parenthesis behind the return types of a function is taken for a comma if another argument
follows. -/
theorem decode_encode_callbackId :
    WellFormedId callbackId.toList ∧ decode (encode callbackId) ≠ callbackId ∧
      decode (encode callbackId) =
        "t_function_internal_pure(t_function_internal_pure(t_uint256)returns(t_bool,(t_uint256)" ++
          "returns(t_bool)" := by
  have hargs : ∀ id ∈ [predicateId.toList, "t_uint256".toList], WellFormedId id :=
    List.forall_mem_cons.2
      ⟨wellFormedId_predicateId, List.forall_mem_singleton.2 (.name (by decide))⟩
  have hrets : ∀ id ∈ ["t_bool".toList], WellFormedId id :=
    List.forall_mem_singleton.2 (.name (by decide))
  have hhead : IsName "t_function_internal_pure".toList := by decide
  have htext : callbackId.toList = "t_function_internal_pure".toList ++
      inParens [predicateId.toList, "t_uint256".toList] ++ "returns".toList ++
        inParens ["t_bool".toList] := rfl
  have hdecoded : decode (encode callbackId) =
      "t_function_internal_pure(t_function_internal_pure(t_uint256)returns(t_bool,(t_uint256)" ++
        "returns(t_bool)" := by
    decide +kernel
  refine ⟨htext ▸ .function hhead hargs hrets, ?_, hdecoded⟩
  rw [hdecoded]
  decide +kernel

end TypeId
end StorageUpgrade
