import StorageUpgrade.Proofs.Compare.Outcome
import StorageUpgrade.Proofs.TypeId.Named

/-!
# Identifiers of the types of variables, taken apart

The identifier by which the type of a variable is known is taken apart into its head, its arguments
and its tail, down to the names (`parse_id`).  So the identifier of a named type in a syntax tree
gives the kind and the name of the type, if and only if the name is told from what stands beside it
(`NamedType.parse_normalize_iff`).
-/

namespace StorageUpgrade
namespace TypeId

variable {cs : List Char}

/-! ### Lists of arguments -/

theorem not_mem_of_isWord (h : ∀ c ∈ cs, isWord c = true) : '(' ∉ cs :=
  not_mem_of_isMark h rfl

theorem balanced_of_isWord {depth : Nat} (h : ∀ c ∈ cs, isWord c = true) : Balanced depth cs := by
  refine balanced_of_plain fun c hc => ⟨?_, ?_, ?_⟩
  · exact fun hopen => not_mem_of_isMark h rfl (hopen ▸ hc)
  · exact fun hclose => not_mem_of_isMark h rfl (hclose ▸ hc)
  · exact fun hcomma => not_mem_of_isMark h rfl (hcomma ▸ hc)

theorem applied_ne_nil (head inner tail : List Char) : applied head inner tail ≠ [] :=
  List.append_ne_nil_of_right_ne_nil _ (List.cons_ne_nil _ _)

theorem NamedType.balanced_id {depth : Nat} (u : NamedType) : Balanced depth u.id :=
  (balanced_of_isWord u.kind.isHead_head.word).applied (balanced_of_isWord u.name.isWord)
    (balanced_of_isWord (u.kind.isTail_tail u.node false).word)

theorem isWord_elementary_id (name : Word) :
    ∀ c ∈ (BaseType.elementary name).id, isWord c = true :=
  fun c hc => name.isWord_elementary c (mem_of_mem_shorten hc)

theorem BaseType.balanced_id {depth : Nat} (key : BaseType) : Balanced depth key.id := by
  cases key with
  | elementary name => exact balanced_of_isWord (isWord_elementary_id name)
  | named u => exact u.balanced_id

theorem BaseType.id_ne_nil (key : BaseType) : key.id ≠ [] := by
  cases key with
  | elementary name =>
      exact shorten_ne_nil (List.append_ne_nil_of_right_ne_nil _ name.ne_nil)
  | named u => exact applied_ne_nil _ _ _

theorem StoredType.balanced_id {depth : Nat} (t : StoredType) : Balanced depth t.id := by
  induction t generalizing depth with
  | base type => exact type.balanced_id
  | array element length pointer ih =>
      exact (balanced_of_isWord isHead_array.word).applied ih
        (balanced_of_isWord (isTail_length length false).word)
  | mapping key value ih =>
      -- the comma stands within the parentheses
      have hcomma : Balanced (depth + 1) [','] :=
        balanced_char (by decide) (by decide) (.inr (Nat.succ_pos depth))
      have hinner : Balanced (depth + 1) (key.id ++ ',' :: value.id) :=
        key.balanced_id.append (hcomma.append ih)
      exact (balanced_of_isWord isHead_mapping.word).applied hinner
        (balanced_of_isWord isTail_nil.word)

theorem StoredType.id_ne_nil (t : StoredType) : t.id ≠ [] := by
  cases t with
  | base type => exact type.id_ne_nil
  | array element length pointer => exact applied_ne_nil _ _ _
  | mapping key value => exact applied_ne_nil _ _ _

theorem NamedType.lists_name (u : NamedType) : Lists u.name.chars [u.name.chars] :=
  lists_one u.name.ne_nil (balanced_of_isWord u.name.isWord)

/-! ### Trees -/

theorem length_applied (head inner tail : List Char) :
    (applied head inner tail).length = head.length + inner.length + tail.length + 2 := by
  unfold applied
  simp only [List.length_append, List.length_cons]
  omega

open TypeTree

theorem if_isEmpty {tail : List Char} (hne : tail ≠ []) :
    (if tail.isEmpty then none else some (String.ofList tail)) = some (String.ofList tail) :=
  if_neg (by simpa using hne)

theorem NamedType.parse_id (u : NamedType) {levels : Nat} (hlevels : 0 < levels) :
    parseWithin levels (String.ofList u.id) = .ok u.tree := by
  obtain ⟨levels, rfl⟩ := Nat.exists_eq_succ_of_ne_zero hlevels.ne'
  have hargs : ([u.name.chars].map String.ofList).mapM (parseWithin levels) =
      .ok [.plain (String.ofList u.name.chars)] := by
    rw [List.map_singleton, List.mapM_cons,
      parseWithin_of_not_mem (not_mem_of_isWord u.name.isWord)]
    rfl
  have happlied := parseWithin_applied (not_mem_of_isWord u.kind.isHead_head.word) u.lists_name
    (not_mem_of_isWord (u.kind.isTail_tail u.node false).word) hargs
  rwa [if_isEmpty (u.kind.tail_ne_nil u.node false), String.ofList_toList] at happlied

theorem BaseType.parse_id (key : BaseType) {levels : Nat} (hlevels : 0 < levels) :
    parseWithin levels (String.ofList key.id) = .ok key.tree := by
  cases key with
  | elementary name => exact parseWithin_of_not_mem (not_mem_of_isWord (isWord_elementary_id name))
  | named u => exact u.parse_id hlevels

/-- The identifier of a type is taken apart down to its names. -/
theorem StoredType.parseWithin_id (t : StoredType) {levels : Nat} (hlevels : t.id.length < levels) :
    parseWithin levels (String.ofList t.id) = .ok t.tree := by
  induction t generalizing levels with
  | base type => exact type.parse_id (Nat.zero_lt_of_lt hlevels)
  | array element length pointer ih =>
      obtain ⟨levels, rfl⟩ := Nat.exists_eq_succ_of_ne_zero (Nat.ne_zero_of_lt hlevels)
      have hinner : element.id.length < levels := by
        have hlength := length_applied "t_array".toList element.id
          (lengthText length ++ storageSuffix false)
        change (applied _ _ _).length < _ at hlevels
        omega
      have hargs : ([element.id].map String.ofList).mapM (parseWithin levels) =
          .ok [element.tree] := by
        rw [List.map_singleton, List.mapM_cons, ih hinner]
        rfl
      have htail : lengthText length ++ storageSuffix false ≠ [] :=
        List.append_ne_nil_of_right_ne_nil _ (by decide)
      have happlied := parseWithin_applied (not_mem_of_isWord isHead_array.word)
        (lists_one element.id_ne_nil element.balanced_id)
        (not_mem_of_isWord (isTail_length length false).word) hargs
      rwa [if_isEmpty htail] at happlied
  | mapping key value ih =>
      obtain ⟨levels, rfl⟩ := Nat.exists_eq_succ_of_ne_zero (Nat.ne_zero_of_lt hlevels)
      have hinner : value.id.length < levels := by
        have hlength := length_applied "t_mapping".toList (key.id ++ ',' :: value.id) []
        rw [List.length_append, List.length_cons] at hlength
        change (applied _ _ _).length < _ at hlevels
        omega
      have hargs : ([key.id, value.id].map String.ofList).mapM (parseWithin levels) =
          .ok [key.tree, value.tree] := by
        rw [List.map_cons, List.map_singleton, List.mapM_cons, List.mapM_cons,
          key.parse_id (Nat.zero_lt_of_lt hinner), ih hinner]
        rfl
      exact parseWithin_applied (not_mem_of_isWord isHead_mapping.word)
        (lists_cons key.id_ne_nil key.balanced_id (lists_one value.id_ne_nil value.balanced_id))
        (not_mem_of_isWord isTail_nil.word) hargs

theorem StoredType.parse_id (t : StoredType) : parse (String.ofList t.id) = .ok t.tree :=
  t.parseWithin_id (by rw [String.length_ofList]; exact Nat.lt_succ_self _)

/-- An identifier that was taken apart is known as it was written. -/
theorem id_of_parseWithin {levels : Nat} {id : String} {tree : TypeTree}
    (h : parseWithin levels id = .ok tree) : tree.id = id := by
  cases levels with
  | zero =>
      cases h
      rfl
  | succ levels =>
      rw [parseWithin] at h
      obtain ⟨⟨_, args, _, rets⟩, -, h⟩ := exists_of_bind_ok h
      cases args with
      | none =>
          cases h
          rfl
      | some args =>
          obtain ⟨trees, -, h⟩ := exists_of_bind_ok h
          cases rets with
          | none =>
              cases h
              rfl
          | some rets =>
              obtain ⟨retTrees, -, h⟩ := exists_of_bind_ok h
              cases h
              rfl

/-! ### The identifiers of named types in syntax trees -/

theorem encodeChars_append (xs ys : List Char) :
    encodeChars (xs ++ ys) = encodeChars xs ++ encodeChars ys := List.flatMap_append

theorem encodeChars_of_isWord (h : ∀ c ∈ cs, isWord c = true) : encodeChars cs = cs := by
  induction cs with
  | nil => rfl
  | cons c cs ih =>
      obtain ⟨hc, hcs⟩ := List.forall_mem_cons.1 h
      rw [encodeChars_cons (isMark_of_isWord hc), ih hcs]

theorem NamedType.encode_chars (u : NamedType) : encode (String.ofList u.chars) = u.encoded := by
  unfold encode NamedType.encoded NamedType.chars applied
  rw [String.toList_ofList, encodeChars_append, encodeChars_open, encodeChars_append,
    encodeChars_close, encodeChars_of_isWord u.kind.isHead_head.word,
    encodeChars_of_isWord u.name.isWord,
    encodeChars_of_isWord (u.kind.isTail_tail u.node u.pointer).word]
  simp

theorem NamedType.normalize_encoded (u : NamedType) (hu : u.KeepsName) :
    normalize u.encoded = String.ofList u.id :=
  (congrArg normalize u.encode_chars.symm).trans
    (StoredType.normalize_encode (.base (.named u)) hu)

/-- A word is no piece of the code, unless its last underscore goes on as one. -/
theorem decodeChars_append {rest : List Char} (hword : ∀ c ∈ cs, isWord c = true)
    (hrest : cs.getLast? = some '_' → rest.head? ≠ some '$') :
    decodeChars (cs ++ rest) = cs ++ decodeChars rest := by
  induction cs with
  | nil => rfl
  | cons c cs ih =>
      obtain ⟨hc, hcs⟩ := List.forall_mem_cons.1 hword
      have hnext : c = '_' → (cs ++ rest).head? ≠ some '$' := by
        intro hunder
        cases cs with
        | nil => exact hrest (congrArg some hunder)
        | cons d ds =>
            exact fun hd => absurd (hcs d List.mem_cons_self) (Option.some.inj hd ▸ nofun)
      have hdollar : c ≠ '$' := fun hd => absurd hc (hd ▸ nofun)
      rw [List.cons_append, decodeChars_of_no_mark (mark?_cons hdollar hnext), List.cons_append]
      exact congrArg (c :: ·) (ih hcs fun hlast =>
        hrest (by rw [List.getLast?_cons, hlast, Option.getD_some]))

/-- The first parenthesis of a named type is not found if an underscore follows. -/
theorem NamedType.decodeChars_encoded (u : NamedType) (hstart : u.name.chars.head? = some '_') :
    ∃ rest, decodeChars u.encoded.toList = u.kind.head.toList ++ '$' :: rest := by
  obtain ⟨name, hname⟩ := List.head?_eq_some_iff.1 hstart
  let rest := name ++ '_' :: '$' :: u.kind.tail u.node u.pointer
  have htext : u.encoded.toList = u.kind.head.toList ++ '$' :: '_' :: '_' :: rest := by
    unfold NamedType.encoded
    rw [String.toList_ofList, hname]
    simp [rest]
  have hrest : rest.head? ≠ some '$' := by
    refine head?_append_ne (fun hdollar => ?_) nofun
    have hmem : '$' ∈ u.name.chars := hname ▸ List.mem_cons_of_mem _ (List.mem_of_mem_head? hdollar)
    exact absurd (u.name.isWord _ hmem) (by decide)
  -- what stands behind the piece cannot be cut into pieces
  have hmark : mark? ('$' :: '_' :: '_' :: rest) = none :=
    if_neg (by rw [isCodeRun_underscore hrest]; decide)
  refine ⟨decodeChars ('_' :: '_' :: rest), ?_⟩
  rw [htext, decodeChars_append u.kind.isHead_head.word fun hlast =>
    absurd hlast u.kind.isHead_head.stop, decodeChars_of_no_mark hmark]

theorem NamedType.keepsName_of_normalize (u : NamedType)
    (h : normalize u.encoded = String.ofList u.id) : u.KeepsName := by
  have hstart : u.name.chars.head? ≠ some '_' := by
    intro hstart
    obtain ⟨rest, hdecoded⟩ := u.decodeChars_encoded hstart
    have hdropped : dropPointers (u.kind.head.toList ++ '$' :: rest) =
        u.kind.head.toList ++ '$' :: dropPointers rest := by
      rw [dropPointers_append u.kind.isHead_head.word rfl, u.kind.isHead_head.noPointer,
        dropPointers_mark rfl]
    unfold normalize at h
    rw [hdecoded, hdropped] at h
    have hmark := List.append_cancel_left (String.ofList_injective h)
    exact absurd (List.cons.inj hmark).1 (by decide)
  -- so the identifier is decoded, and only the name can have become shorter
  refine ⟨hstart, shorten_eq_self_iff.1 ?_⟩
  rw [← u.encode_chars, normalize_encode_of_legible (u.legible hstart) u.shortens] at h
  have hargs := (List.cons.inj (List.append_cancel_left (String.ofList_injective h))).2
  exact List.append_cancel_right hargs

/-- The identifier of a named type in a syntax tree gives its kind and its name if and only if the
name is told from what stands beside it. -/
theorem NamedType.parse_normalize_iff (u : NamedType) :
    parse (normalize u.encoded) = .ok u.tree ↔ u.KeepsName := by
  refine ⟨fun hparse => ?_, fun hu => ?_⟩
  · exact u.keepsName_of_normalize (id_of_parseWithin hparse).symm
  · rw [u.normalize_encoded hu]
    exact StoredType.parse_id (.base (.named u))

end TypeId
end StorageUpgrade
