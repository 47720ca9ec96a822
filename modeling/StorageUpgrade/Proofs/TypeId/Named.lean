import StorageUpgrade.Proofs.TypeId.Grammar
import StorageUpgrade.Proofs.TypeId.Parsing
import StorageUpgrade.Proofs.TypeId.Pointers

/-!
# The types of variables

Contracts give names to structs, enums, contracts and user defined value types.  The identifier of
such a type has the name as its only argument, be it the type of a variable, the type of the
elements of an array or the type of the values of a mapping.

If no name starts with an underscore or ends in `_storage_ptr`, then each identifier that stands in
a syntax tree is decoded and shortened as it should (`normalize_encode`), and it is taken apart at
all its parentheses (`parse_id`).
-/

namespace StorageUpgrade
namespace TypeId

/-! ### Types and their identifiers -/

/-- A text of letters, digits and underscores. -/
structure Word where
  chars : List Char
  ne_nil : chars ≠ []
  isWord : ∀ c ∈ chars, StorageUpgrade.isWord c = true

/-- The kinds of types that contracts give names to. -/
inductive NamedKind where
  | struct
  | enum
  | contract
  | userDefined
deriving DecidableEq

/-- The head of the identifiers of a kind. -/
def NamedKind.head : NamedKind → String
  | struct => "t_struct"
  | enum => "t_enum"
  | contract => "t_contract"
  | userDefined => "t_userDefinedValueType"

/-- How an identifier ends that refers to something in storage. -/
def storageSuffix (pointer : Bool) : List Char :=
  if pointer then pointerSuffix else "_storage".toList

/-- The tail of an identifier: the number of the node that defines the type, and the suffix of a
struct. -/
def NamedKind.tail (kind : NamedKind) (node : Nat) (pointer : Bool) : List Char :=
  (toString node).toList ++ if kind = .struct then storageSuffix pointer else []

/-- A type with a name. -/
structure NamedType where
  kind : NamedKind
  name : Word
  node : Nat
  pointer : Bool := false

/-- A type that can be the key of a mapping. -/
inductive BaseType where
  | elementary (name : Word)
  | named (type : NamedType)

/-- The length of an array, which may be dynamic. -/
def lengthText : Option Nat → List Char
  | none => "dyn".toList
  | some length => (toString length).toList

/-- The type of a variable. -/
inductive StoredType where
  | base (type : BaseType)
  | array (element : StoredType) (length : Option Nat) (pointer : Bool)
  | mapping (key : BaseType) (value : StoredType)

/-- The identifier of a named type as it stands in a syntax tree. -/
def NamedType.encoded (u : NamedType) : String :=
  String.ofList (u.kind.head.toList ++ "$_".toList ++ u.name.chars ++ "_$".toList ++
    u.kind.tail u.node u.pointer)

/-- The text that the encoded identifier stands for. -/
def NamedType.chars (u : NamedType) : List Char :=
  applied u.kind.head.toList u.name.chars (u.kind.tail u.node u.pointer)

def BaseType.chars : BaseType → List Char
  | elementary name => "t_".toList ++ name.chars
  | named type => type.chars

def StoredType.chars : StoredType → List Char
  | base type => type.chars
  | array element length pointer =>
    applied "t_array".toList element.chars (lengthText length ++ storageSuffix pointer)
  | mapping key value => applied "t_mapping".toList (key.chars ++ ',' :: value.chars) []

/-- The identifier by which a type is known in layouts. -/
def NamedType.id (u : NamedType) : List Char :=
  applied u.kind.head.toList u.name.chars (u.kind.tail u.node false)

def BaseType.id : BaseType → List Char
  | elementary name => shorten ("t_".toList ++ name.chars)
  | named type => type.id

def StoredType.id : StoredType → List Char
  | base type => type.id
  | array element length _ =>
    applied "t_array".toList element.id (lengthText length ++ storageSuffix false)
  | mapping key value => applied "t_mapping".toList (key.id ++ ',' :: value.id) []

/-- The identifier of a named type, taken apart. -/
def NamedType.tree (u : NamedType) : TypeTree :=
  .applied (String.ofList u.id) u.kind.head [.plain (String.ofList u.name.chars)]
    (some (String.ofList (u.kind.tail u.node false))) none

def BaseType.tree : BaseType → TypeTree
  | elementary name => .plain (String.ofList (elementary name).id)
  | named type => type.tree

def StoredType.tree : StoredType → TypeTree
  | base type => type.tree
  | array element length pointer =>
    .applied (String.ofList (array element length pointer).id) "t_array" [element.tree]
      (some (String.ofList (lengthText length ++ storageSuffix false))) none
  | mapping key value =>
    .applied (String.ofList (mapping key value).id) "t_mapping" [key.tree, value.tree] none none

/-- The name is told from what stands beside it: it neither starts with an underscore nor ends in
the suffix of a pointer. -/
def NamedType.KeepsName (u : NamedType) : Prop :=
  u.name.chars.head? ≠ some '_' ∧ ¬ pointerSuffix <:+ u.name.chars

instance (u : NamedType) : Decidable u.KeepsName := inferInstanceAs (Decidable (_ ∧ _))

def BaseType.KeepsNames : BaseType → Prop
  | elementary _ => True
  | named type => type.KeepsName

/-- All names in a type are told from what stands beside them. -/
def StoredType.KeepsNames : StoredType → Prop
  | base type => type.KeepsNames
  | array element _ _ => element.KeepsNames
  | mapping key value => key.KeepsNames ∧ value.KeepsNames

/-! ### Words -/

variable {c : Char} {xs ys xs' ys' head inner tail : List Char}

theorem isNameChar_of_isWord (hc : isWord c = true) : isNameChar c = true :=
  Bool.or_eq_true_iff.2 (.inl hc)

theorem isMark_of_isWord (hc : isWord c = true) : isMark c = false :=
  isMark_of_isNameChar (isNameChar_of_isWord hc)

theorem not_mem_of_isMark (hxs : ∀ c ∈ xs, isWord c = true) (hc : isMark c = true) : c ∉ xs := by
  intro hmem
  rw [isMark_of_isWord (hxs c hmem)] at hc
  cases hc

theorem isWord_append (hxs : ∀ c ∈ xs, isWord c = true) (hys : ∀ c ∈ ys, isWord c = true) :
    ∀ c ∈ xs ++ ys, isWord c = true :=
  fun c hc => (List.mem_append.1 hc).elim (hxs c) (hys c)

theorem isDigit_toString (n : Nat) : ∀ c ∈ (toString n).toList, c.isDigit = true := by
  intro c hc
  rw [Nat.toString_eq_repr, Nat.toList_repr] at hc
  exact Nat.isDigit_of_mem_toDigits (by decide) (by decide) hc

theorem toString_ne_nil (n : Nat) : (toString n).toList ≠ [] := by
  rw [Nat.toString_eq_repr, Nat.toList_repr]
  exact Nat.toDigits_ne_nil

theorem isWord_of_isDigit (hc : c.isDigit = true) : isWord c = true := by
  simp only [Char.isDigit, Bool.and_eq_true, decide_eq_true_eq, ge_iff_le,
    UInt32.le_iff_toNat_le] at hc
  have hlow : 48 ≤ c.toNat := hc.1
  have hhigh : c.toNat ≤ 57 := hc.2
  have hascii : c.toNat < 128 := by omega
  simp [isWord, hascii, hlow, hhigh]

theorem isWord_storageSuffix (pointer : Bool) :
    ∀ c ∈ storageSuffix pointer, isWord c = true := by
  cases pointer <;> exact List.all_eq_true.1 (by decide)

/-- What stands behind the closing parenthesis of an identifier: a word that does not start with an
underscore. -/
structure IsTail (tail : List Char) : Prop where
  word : ∀ c ∈ tail, isWord c = true
  start : tail.head? ≠ some '_'

theorem isTail_nil : IsTail [] := ⟨nofun, nofun⟩

theorem isTail_toString_append (n : Nat) (hxs : ∀ c ∈ xs, isWord c = true) :
    IsTail ((toString n).toList ++ xs) := by
  have hdigits := isDigit_toString n
  refine ⟨isWord_append (fun c hc => isWord_of_isDigit (hdigits c hc)) hxs, fun hstart => ?_⟩
  rw [List.head?_append_of_ne_nil _ (toString_ne_nil n)] at hstart
  exact absurd (hdigits _ (List.mem_of_mem_head? hstart)) (by decide)

theorem NamedKind.isTail_tail (kind : NamedKind) (node : Nat) (pointer : Bool) :
    IsTail (kind.tail node pointer) := by
  refine isTail_toString_append node ?_
  split
  · exact isWord_storageSuffix pointer
  · nofun

theorem isTail_length (length : Option Nat) (pointer : Bool) :
    IsTail (lengthText length ++ storageSuffix pointer) := by
  cases length with
  | none => cases pointer <;> exact ⟨List.all_eq_true.1 (by decide), by decide⟩
  | some n => exact isTail_toString_append n (isWord_storageSuffix pointer)

theorem NamedKind.tail_ne_nil (kind : NamedKind) (node : Nat) (pointer : Bool) :
    kind.tail node pointer ≠ [] :=
  List.append_ne_nil_of_left_ne_nil (toString_ne_nil node) _

/-- The heads of the identifiers of types with arguments. -/
structure IsHead (head : List Char) : Prop where
  word : ∀ c ∈ head, isWord c = true
  start : head.head? ≠ some '_'
  stop : head.getLast? ≠ some '_'
  noPointer : shorten head = head

theorem NamedKind.isHead_head (kind : NamedKind) : IsHead kind.head.toList := by
  cases kind <;> exact ⟨List.all_eq_true.1 (by decide), by decide, by decide, by decide⟩

theorem isHead_array : IsHead "t_array".toList :=
  ⟨List.all_eq_true.1 (by decide), by decide, by decide, by decide⟩

theorem isHead_mapping : IsHead "t_mapping".toList :=
  ⟨List.all_eq_true.1 (by decide), by decide, by decide, by decide⟩

theorem Word.isWord_elementary (name : Word) :
    ∀ c ∈ "t_".toList ++ name.chars, StorageUpgrade.isWord c = true :=
  isWord_append (List.all_eq_true.1 (by decide)) name.isWord

/-! ### Decoding -/

/-- A text that is decoded to itself, as it stands and beside marks. -/
structure Legible (cs : List Char) : Prop extends Separated cs where
  start : cs.head? ≠ some '_'
  commas : cs.IsChain fun a b => a = ')' → b ≠ ','

theorem Legible.decodeChars_encodeChars (h : Legible xs) :
    decodeChars (encodeChars xs) = xs := by
  refine (decodeChars_encodeChars_iff h.toSeparated).2 ?_
  rintro ⟨front, back, rfl⟩
  have hmeet := (List.isChain_append.1 (List.isChain_append.1 h.commas).1).2.1
  exact (List.isChain_cons_cons.1 hmeet).1 rfl rfl

theorem Legible.append (hxs : Legible xs) (hys : Legible ys)
    (hopen : xs.getLast? = some '_' → ys.head? ≠ some '(')
    (hcomma : xs.getLast? = some ')' → ys.head? ≠ some ',') : Legible (xs ++ ys) where
  plain hmem := (List.mem_append.1 hmem).elim hxs.plain hys.plain
  meet := by
    refine List.isChain_append.2 ⟨hxs.meet, hys.meet, fun a ha b hb => ⟨fun _ hunder => ?_, ?_⟩⟩
    · exact hys.start (hunder ▸ hb)
    · exact fun hunder hparen => hopen (hunder ▸ ha) (hparen ▸ hb)
  start := head?_append_ne hxs.start hys.start
  commas := List.isChain_append.2 ⟨hxs.commas, hys.commas, fun _ ha _ hb hclose hsep =>
    hcomma (hclose ▸ ha) (hsep ▸ hb)⟩

theorem legible_mark (hc : isMark c = true) : Legible [c] :=
  ⟨(isolated_mark hc).toSeparated, (isolated_mark hc).start, .singleton c⟩

theorem legible_word (hword : ∀ c ∈ xs, isWord c = true) (hstart : xs.head? ≠ some '_') :
    Legible xs where
  toSeparated := separated_of_isNameChar fun c hc => isNameChar_of_isWord (hword c hc)
  start := hstart
  commas := by
    refine (List.pairwise_of_forall_mem_list fun a ha b _ hclose _ => ?_).isChain
    exact not_mem_of_isMark hword rfl (hclose ▸ ha)

theorem getLast?_ne_of_isWord (hword : ∀ c ∈ xs, isWord c = true) (hc : isMark c = true) :
    xs.getLast? ≠ some c :=
  fun hlast => not_mem_of_isMark hword hc (List.mem_of_mem_getLast? hlast)

theorem head?_ne_of_isWord (hword : ∀ c ∈ xs, isWord c = true) (hc : isMark c = true) :
    xs.head? ≠ some c :=
  fun hhead => not_mem_of_isMark hword hc (List.mem_of_mem_head? hhead)

theorem legible_applied (hhead : IsHead head) (hinner : Legible inner) (htail : IsTail tail) :
    Legible (applied head inner tail) := by
  have hclosed : Legible (')' :: tail) :=
    (legible_mark rfl).append (legible_word htail.word htail.start) nofun
      fun _ => head?_ne_of_isWord htail.word rfl
  have hlist : Legible (inner ++ ')' :: tail) :=
    hinner.append hclosed (fun _ => nofun) fun _ => nofun
  have hargs : Legible ('(' :: (inner ++ ')' :: tail)) :=
    (legible_mark rfl).append hlist nofun nofun
  exact (legible_word hhead.word hhead.start).append hargs
    (fun hlast => absurd hlast hhead.stop)
    fun hlast => absurd hlast (getLast?_ne_of_isWord hhead.word rfl)

theorem getLast?_applied (htail : tail ≠ []) :
    (applied head inner tail).getLast? = tail.getLast? := by
  have hsplit : applied head inner tail = (head ++ '(' :: (inner ++ [')'])) ++ tail := by
    unfold applied
    simp
  rw [hsplit, List.getLast?_append_of_ne_nil _ htail]

theorem BaseType.getLast?_ne (key : BaseType) : key.chars.getLast? ≠ some ')' := by
  cases key with
  | elementary name => exact getLast?_ne_of_isWord name.isWord_elementary rfl
  | named u =>
      have hlast : u.chars.getLast? = (u.kind.tail u.node u.pointer).getLast? :=
        getLast?_applied (u.kind.tail_ne_nil u.node u.pointer)
      change u.chars.getLast? ≠ some ')'
      rw [hlast]
      exact getLast?_ne_of_isWord (u.kind.isTail_tail u.node u.pointer).word rfl

theorem NamedType.legible (u : NamedType) (hstart : u.name.chars.head? ≠ some '_') :
    Legible u.chars :=
  legible_applied u.kind.isHead_head (legible_word u.name.isWord hstart)
    (u.kind.isTail_tail u.node u.pointer)

theorem BaseType.legible (key : BaseType) (hkey : key.KeepsNames) : Legible key.chars := by
  cases key with
  | elementary name => exact legible_word name.isWord_elementary nofun
  | named u => exact u.legible hkey.1

/-- The code of an identifier is read back. -/
theorem StoredType.legible (t : StoredType) (ht : t.KeepsNames) : Legible t.chars := by
  induction t with
  | base type => exact type.legible ht
  | array element length pointer ih =>
      exact legible_applied isHead_array (ih ht) (isTail_length length pointer)
  | mapping key value ih =>
      -- the key ends in a name or a number, so no parenthesis stands before the comma
      have hvalue : Legible (',' :: value.chars) := (legible_mark rfl).append (ih ht.2) nofun nofun
      have hinner : Legible (key.chars ++ ',' :: value.chars) :=
        (key.legible ht.1).append hvalue (fun _ => nofun) fun hlast => absurd hlast key.getLast?_ne
      exact legible_applied isHead_mapping hinner isTail_nil

/-! ### Dropping pointers -/

/-- A text loses its pointers wherever it stands before a mark. -/
def Shortens (xs ys : List Char) : Prop :=
  ∀ rest, endsWord rest = true → dropPointers (xs ++ rest) = ys ++ dropPointers rest

theorem Shortens.dropPointers_eq (h : Shortens xs ys) : dropPointers xs = ys := by
  have hnil := h [] rfl
  rwa [List.append_nil, show dropPointers [] = [] from rfl, List.append_nil] at hnil

theorem shortens_word (hword : ∀ c ∈ xs, isWord c = true) : Shortens xs (shorten xs) :=
  fun _ hrest => dropPointers_append hword hrest

theorem Shortens.append_mark (hc : isWord c = false) (h : Shortens xs xs')
    (h' : Shortens ys ys') : Shortens (xs ++ c :: ys) (xs' ++ c :: ys') := by
  intro rest hrest
  have hends : endsWord (c :: (ys ++ rest)) = true := by rw [endsWord_cons, hc]; rfl
  rw [List.append_assoc, List.cons_append, h _ hends, dropPointers_mark hc, h' rest hrest,
    List.append_assoc, List.cons_append]

theorem Shortens.applied (hhead : IsHead head) (hinner : Shortens inner xs)
    (htail : Shortens tail ys) : Shortens (applied head inner tail) (applied head xs ys) := by
  have hhead' : Shortens head head := by
    have hword := shortens_word hhead.word
    rwa [hhead.noPointer] at hword
  exact hhead'.append_mark rfl (hinner.append_mark rfl htail)

theorem shorten_append_storageSuffix (xs : List Char) (pointer : Bool) :
    shorten (xs ++ storageSuffix pointer) = xs ++ storageSuffix false := by
  cases pointer with
  | false =>
      refine shorten_of_getLast? ?_
      rw [List.getLast?_append]
      exact fun hlast => absurd (Option.some.inj hlast) (by decide)
  | true =>
      have hsuffix : pointerSuffix <:+ xs ++ storageSuffix true := List.suffix_append _ _
      have hlength : (xs ++ storageSuffix true).length - 4 = xs.length + 8 := by
        rw [List.length_append]
        rfl
      rw [shorten_of_suffix hsuffix, hlength, List.take_length_add_append]
      rfl

theorem shortens_length (length : Option Nat) (pointer : Bool) :
    Shortens (lengthText length ++ storageSuffix pointer)
      (lengthText length ++ storageSuffix false) := by
  have hword := shortens_word (isTail_length length pointer).word
  rwa [shorten_append_storageSuffix] at hword

theorem NamedKind.shortens_tail (kind : NamedKind) (node : Nat) (pointer : Bool) :
    Shortens (kind.tail node pointer) (kind.tail node false) := by
  have hword := shortens_word (kind.isTail_tail node pointer).word
  unfold NamedKind.tail at hword ⊢
  split
  · rename_i hstruct
    rwa [if_pos hstruct, shorten_append_storageSuffix] at hword
  · rename_i hstruct
    have hlast : ((toString node).toList ++ []).getLast? ≠ some 'r' := by
      rw [List.append_nil]
      intro hlast
      exact absurd (isDigit_toString node _ (List.mem_of_mem_getLast? hlast)) (by decide)
    rwa [if_neg hstruct, shorten_of_getLast? hlast] at hword

/-- All words of the identifier of a named type are shortened, the name as well. -/
theorem NamedType.shortens (u : NamedType) :
    Shortens u.chars (TypeId.applied u.kind.head.toList (shorten u.name.chars)
      (u.kind.tail u.node false)) :=
  .applied u.kind.isHead_head (shortens_word u.name.isWord)
    (u.kind.shortens_tail u.node u.pointer)

theorem BaseType.shortens (key : BaseType) (hkey : key.KeepsNames) :
    Shortens key.chars key.id := by
  cases key with
  | elementary name => exact shortens_word name.isWord_elementary
  | named u =>
      have hname : shorten u.name.chars = u.name.chars := shorten_of_not_suffix hkey.2
      have hshortens := u.shortens
      rwa [hname] at hshortens

theorem StoredType.shortens (t : StoredType) (ht : t.KeepsNames) : Shortens t.chars t.id := by
  induction t with
  | base type => exact type.shortens ht
  | array element length pointer ih =>
      exact .applied isHead_array (ih ht) (shortens_length length pointer)
  | mapping key value ih =>
      exact .applied isHead_mapping ((key.shortens ht.1).append_mark rfl (ih ht.2))
        (shortens_word isTail_nil.word)

/-! ### Normalizing -/

theorem normalize_encode_of_legible (h : Legible xs) (hxs : Shortens xs ys) :
    normalize (encode (String.ofList xs)) = String.ofList ys := by
  unfold normalize encode
  rw [String.toList_ofList, String.toList_ofList, h.decodeChars_encodeChars, hxs.dropPointers_eq]

/-- The identifier of a type in a syntax tree is normalized to the one in layouts. -/
theorem StoredType.normalize_encode (t : StoredType) (ht : t.KeepsNames) :
    normalize (encode (String.ofList t.chars)) = String.ofList t.id :=
  normalize_encode_of_legible (t.legible ht) (t.shortens ht)

end TypeId
end StorageUpgrade
