import StorageUpgrade.Proofs.Layout.Reachable
import StorageUpgrade.Proofs.TypeId.Matching
import StorageUpgrade.Proofs.TypeId.Trees

/-!
# Identifiers that are refused

The arguments of an identifier stand between its first parenthesis and the match of this parenthesis,
and the return types of a function in the same way behind `returns(`.  An identifier is refused if and
only if one of these two parentheses has no match (`LacksMatch`).  Any other identifier is taken apart
at these matches and at the commas between its arguments, and so are its arguments and return types in
turn (`parse_cases`).

## Strategy

* The first parenthesis of an identifier, and the one of its return types, are all that can be wrong
  with the identifier itself (`ofId_eq_error_iff`).
* The parentheses of an argument have their matches in the argument, so none is refused
  (`TakenApart.matched_inner`, `not_lacksMatch_of_matched`).
* The levels of `parse` are never used up, because arguments are shorter than the text that they come
  from (`parse_eq`).
-/

namespace StorageUpgrade
namespace TypeId

variable {commas : Bool} {cs head tail : List Char}

/-! ### Taking an identifier apart -/

/-- The return types that a tail lists. -/
inductive ListsReturns (tail : List Char) : Option (List (List Char)) → Prop
  | none (h : ¬ returnsMark <+: tail) : ListsReturns tail none
  | some {inner rest : List Char} {pieces : List (List Char)}
      (htail : tail = returnsMark ++ (inner ++ ')' :: rest)) (hinner : SplitsInto inner pieces) :
      ListsReturns tail (some (nonempty pieces))

/-- An identifier is a name, or it is a head, a list in parentheses and a tail; its arguments are the
pieces of the list that are not empty. -/
inductive TakenApart (id : String) : Parts → Prop
  | plain (hid : '(' ∉ id.toList) : TakenApart id { head := id }
  | applied {head inner tail : List Char} {pieces : List (List Char)}
      {rets : Option (List (List Char))} (hid : id.toList = applied head inner tail)
      (hhead : '(' ∉ head) (hinner : SplitsInto inner pieces) (hrets : ListsReturns tail rets) :
      TakenApart id
        { head := String.ofList head
          args := some ((nonempty pieces).map String.ofList)
          tail := if tail.isEmpty then none else some (String.ofList tail)
          rets := rets.map (·.map String.ofList) }

/-- The first parenthesis of an identifier has no match, or else the text behind its match starts a
list of return types whose parenthesis has none; `text` is the identifier, or the text behind. -/
inductive LacksMatch (id : String) : (text : String) → Prop
  | args {head cs : List Char} (hid : id.toList = head ++ '(' :: cs) (hhead : '(' ∉ head)
      (hcs : ¬ ∃ inner rest, ClosedBy inner rest cs) : LacksMatch id id
  | returns {head inner cs : List Char} (hid : id.toList = applied head inner (returnsMark ++ cs))
      (hhead : '(' ∉ head) (hinner : Matched true inner)
      (hcs : ¬ ∃ inner rest, ClosedBy inner rest cs) :
      LacksMatch id (String.ofList (returnsMark ++ cs))

theorem returnsOf_of_unmarked (h : ¬ returnsMark <+: tail) : returnsOf tail = .ok none :=
  if_neg fun hfront => h (List.isPrefixOf_iff_prefix.1 hfront)

theorem returnsOf_append (cs : List Char) :
    returnsOf (returnsMark ++ cs) = match readElements 0 [] cs with
      | some (rets, _) => .ok (some (rets.map String.ofList))
      | none => .error ⟨String.ofList (returnsMark ++ cs)⟩ := by
  have hfront : returnsMark.isPrefixOf (returnsMark ++ cs) = true :=
    List.isPrefixOf_iff_prefix.2 (List.prefix_append _ _)
  have hread : returnsOf (returnsMark ++ cs) =
      match readElements 0 [] ((returnsMark ++ cs).drop returnsMark.length) with
      | some (rets, _) => .ok (some (rets.map String.ofList))
      | none => .error ⟨String.ofList (returnsMark ++ cs)⟩ := if_pos hfront
  rw [hread, List.drop_left]

theorem of_returnsOf_ok {rets : Option (List String)} (h : returnsOf tail = .ok rets) :
    ∃ listed, ListsReturns tail listed ∧ rets = listed.map (·.map String.ofList) := by
  by_cases hfront : returnsMark <+: tail
  · obtain ⟨cs, rfl⟩ := hfront
    rw [returnsOf_append] at h
    split at h
    · rename_i elements rest hread
      cases h
      obtain ⟨inner, pieces, hsplit, rfl, rfl⟩ := exists_of_closed hread
      exact ⟨_, .some rfl hsplit, rfl⟩
    · cases h
  · rw [returnsOf_of_unmarked hfront] at h
    cases h
    exact ⟨_, .none hfront, rfl⟩

theorem returnsOf_eq_error_iff {e : Unbalanced} :
    returnsOf tail = .error e ↔ ∃ cs, tail = returnsMark ++ cs ∧
      (¬ ∃ inner rest, ClosedBy inner rest cs) ∧ e.text = String.ofList tail := by
  constructor
  · intro h
    by_cases hfront : returnsMark <+: tail
    · obtain ⟨cs, rfl⟩ := hfront
      rw [returnsOf_append] at h
      split at h
      · cases h
      · rename_i hread
        cases h
        exact ⟨cs, rfl, readElements_eq_none_iff.1 hread, rfl⟩
    · rw [returnsOf_of_unmarked hfront] at h
      cases h
  · rintro ⟨cs, rfl, hcs, htext⟩
    rw [returnsOf_append, readElements_eq_none_iff.2 hcs, ← htext]

/-- What stands in front of the first parenthesis is the head. -/
theorem ofId_of_open {id : String} (hid : id.toList = head ++ '(' :: cs) (hhead : '(' ∉ head) :
    Parts.ofId id = match readElements 0 [] cs with
      | none => .error ⟨id⟩
      | some (args, tail) => (returnsOf tail).map fun rets =>
        ⟨String.ofList head, some (args.map String.ofList),
          if tail.isEmpty then none else some (String.ofList tail), rets⟩ := by
  have hspan : id.toList.span (· != '(') = (head, '(' :: cs) := by
    rw [hid, span_append hhead]
    simp
  unfold Parts.ofId
  rw [hspan]
  rfl

theorem ofId_of_plain {id : String} (hid : '(' ∉ id.toList) :
    Parts.ofId id = .ok { head := id } := by
  have h := ofId_of_not_mem hid
  rwa [String.ofList_toList] at h

theorem takenApart_of_ofId {id : String} {parts : Parts} (h : Parts.ofId id = .ok parts) :
    TakenApart id parts := by
  by_cases hid : '(' ∈ id.toList
  · obtain ⟨head, cs, hid, hhead⟩ := List.eq_append_cons_of_mem hid
    rw [ofId_of_open hid hhead] at h
    split at h
    · cases h
    · rename_i args tail hread
      obtain ⟨rets, hrets, rfl⟩ := exists_of_map_ok h
      obtain ⟨inner, pieces, hsplit, rfl, rfl⟩ := exists_of_closed hread
      obtain ⟨listed, hlisted, rfl⟩ := of_returnsOf_ok hrets
      exact .applied hid hhead hsplit hlisted
  · rw [ofId_of_plain hid] at h
    cases h
    exact .plain hid

theorem ofId_eq_error_iff {id : String} {e : Unbalanced} :
    Parts.ofId id = .error e ↔ LacksMatch id e.text := by
  constructor
  · intro h
    by_cases hid : '(' ∈ id.toList
    · obtain ⟨head, cs, hid, hhead⟩ := List.eq_append_cons_of_mem hid
      rw [ofId_of_open hid hhead] at h
      split at h
      · rename_i hread
        cases h
        exact .args hid hhead (readElements_eq_none_iff.1 hread)
      · rename_i args tail hread
        obtain ⟨inner, pieces, hsplit, rfl, -⟩ := exists_of_closed hread
        cases hrets : returnsOf tail with
        | ok rets =>
            rw [hrets] at h
            cases h
        | error e' =>
            rw [hrets] at h
            cases h
            obtain ⟨cs, rfl, hcs, htext⟩ := returnsOf_eq_error_iff.1 hrets
            rw [htext]
            exact .returns hid hhead hsplit.matched_inner hcs
    · rw [ofId_of_plain hid] at h
      cases h
  · obtain ⟨text⟩ := e
    intro h
    dsimp only at h
    cases h with
    | args hid hhead hcs => rw [ofId_of_open hid hhead, readElements_eq_none_iff.2 hcs]
    | @returns head inner cs hid hhead hinner hcs =>
        obtain ⟨elements, hread⟩ := exists_readElements hinner []
        have hrets : returnsOf (returnsMark ++ cs) = .error ⟨_⟩ :=
          returnsOf_eq_error_iff.2 ⟨cs, rfl, hcs, rfl⟩
        rw [ofId_of_open hid hhead, hread]
        dsimp only
        rw [hrets]
        rfl

/-! ### The pieces of an identifier -/

/-- No parenthesis lacks its match in a text whose parentheses match. -/
theorem not_lacksMatch_of_matched {id text : String} (h : Matched commas id.toList) :
    ¬ LacksMatch id text := by
  intro hlacks
  cases hlacks with
  | args hid hhead hcs =>
      rw [hid] at h
      obtain ⟨inner, rest, hclosed, -⟩ := h.of_open hhead
      exact hcs ⟨inner, rest, hclosed⟩
  | @returns head inner cs hid hhead hinner hcs =>
      rw [hid] at h
      obtain ⟨inner', rest, hclosed, hrest⟩ := h.of_open hhead
      -- A parenthesis has one match, so the return types are a part of what follows it.
      obtain rfl : returnsMark ++ cs = rest := ClosedBy.rest_eq ⟨hinner, rfl⟩ hclosed
      have hreturns : Matched commas ("returns".toList ++ '(' :: cs) := hrest
      obtain ⟨inner', rest, hclosed, -⟩ := hreturns.of_open (by decide)
      exact hcs ⟨inner', rest, hclosed⟩

theorem exists_ofId_of_matched {id : String} (h : Matched commas id.toList) :
    ∃ parts, Parts.ofId id = .ok parts := by
  cases hid : Parts.ofId id with
  | ok parts => exact ⟨parts, rfl⟩
  | error e => exact absurd (ofId_eq_error_iff.1 hid) (not_lacksMatch_of_matched h)

/-- The parentheses of the parts inside an identifier match. -/
theorem TakenApart.matched_inner {id : String} {parts : Parts} (h : TakenApart id parts) :
    ∀ part ∈ parts.inner, Matched false part.toList := by
  have hnonempty {inner : List Char} {pieces : List (List Char)} (h : SplitsInto inner pieces) :
      ∀ part ∈ (nonempty pieces).map String.ofList, Matched false part.toList := by
    intro part hpart
    obtain ⟨piece, hpiece, rfl⟩ := List.mem_map.1 hpart
    rw [String.toList_ofList]
    exact h.matched piece (List.mem_filter.1 hpiece).1
  cases h with
  | plain => nofun
  | applied _ _ hinner hrets =>
      intro part hpart
      rcases List.mem_append.1 hpart with hpart | hpart
      · exact hnonempty hinner part hpart
      · cases hrets with
        | none => cases hpart
        | some _ hinner' => exact hnonempty hinner' part hpart

theorem length_lt_of_mem_inner {id part : String} {parts : Parts} (h : Parts.ofId id = .ok parts)
    (hpart : part ∈ parts.inner) : part.length < id.length :=
  lt_of_lt_of_le (Nat.lt_succ_self _) ((List.single_le_sum (fun _ _ => Nat.zero_le _) _
    (List.mem_map_of_mem (f := fun i : String => i.length + 1) hpart)).trans (sum_length_inner h))

end TypeId

namespace TypeTree

open TypeId

variable {id : String} {parts : Parts} {levels levels' : Nat}

theorem mapM_congr {ε α β : Type} {f g : α → Except ε β} {xs : List α}
    (h : ∀ x ∈ xs, f x = g x) : xs.mapM f = xs.mapM g := by
  induction xs with
  | nil => rfl
  | cons x xs ih =>
      obtain ⟨hx, hxs⟩ := List.forall_mem_cons.1 h
      rw [List.mapM_cons, List.mapM_cons, hx, ih hxs]

/-- The trees of identifiers that may be absent, as `read` gives them. -/
def readOptional (read : String → Except Unbalanced TypeTree) :
    Option (List String) → Except Unbalanced (Option (List TypeTree))
  | none => .ok none
  | some ids => (ids.mapM read).map some

/-- The tree of an identifier with some parts, whose own trees `read` gives. -/
def ofParts? (id : String) (read : String → Except Unbalanced TypeTree) (parts : Parts) :
    Except Unbalanced TypeTree :=
  match parts.args with
  | none => .ok (.plain id)
  | some args => do
    let args ← args.mapM read
    let rets ← readOptional read parts.rets
    .ok (.applied id parts.head args parts.tail rets)

theorem readOptional_eq_ok {read : String → Except Unbalanced TypeTree}
    {ids : Option (List String)} {trees : Option (List TypeTree)}
    (h : readOptional read ids = .ok trees) :
    Option.Rel (List.Forall₂ fun part u => read part = .ok u) ids trees := by
  cases ids with
  | none =>
      cases h
      exact .none
  | some ids =>
      obtain ⟨us, hus, rfl⟩ := exists_of_map_ok h
      exact .some (forall₂_of_mapM_ok hus)

theorem exists_readOptional {read : String → Except Unbalanced TypeTree}
    {ids : Option (List String)} (h : ∀ part ∈ ids.getD [], ∃ t, read part = .ok t) :
    ∃ trees, readOptional read ids = .ok trees := by
  cases ids with
  | none => exact ⟨none, rfl⟩
  | some ids =>
      obtain ⟨us, hus, -⟩ := exists_mapM_of_forall h
      rw [Option.getD_some] at hus
      exact ⟨some us, by rw [readOptional, hus]; rfl⟩

theorem ofParts?_congr {read read' : String → Except Unbalanced TypeTree}
    (h : ∀ part ∈ parts.inner, read part = read' part) :
    ofParts? id read parts = ofParts? id read' parts := by
  obtain ⟨head, args, tail, rets⟩ := parts
  cases args with
  | none => rfl
  | some args =>
      have hargs : args.mapM read = args.mapM read' :=
        mapM_congr fun part hpart => h part (List.mem_append_left _ hpart)
      cases rets with
      | none => simp only [ofParts?, readOptional, hargs]
      | some rets =>
          have hrets : rets.mapM read = rets.mapM read' :=
            mapM_congr fun part hpart => h part (List.mem_append_right _ hpart)
          simp only [ofParts?, readOptional, hargs, hrets]

theorem parseWithin_succ (levels : Nat) (id : String) :
    parseWithin (levels + 1) id = Parts.ofId id >>= ofParts? id (parseWithin levels) := by
  rw [parseWithin]
  refine congrArg (Parts.ofId id >>= ·) (funext fun parts => ?_)
  obtain ⟨head, args, tail, rets⟩ := parts
  cases args with
  | none => rfl
  | some args => cases rets <;> rfl

/-- More levels than characters are never used up. -/
theorem parseWithin_eq (hlevels : id.length < levels) (hlevels' : id.length < levels') :
    parseWithin levels id = parseWithin levels' id := by
  induction levels generalizing id levels' with
  | zero => exact absurd hlevels (Nat.not_lt_zero _)
  | succ levels ih =>
      obtain ⟨levels', rfl⟩ := Nat.exists_eq_succ_of_ne_zero (Nat.ne_zero_of_lt hlevels')
      rw [parseWithin_succ, parseWithin_succ]
      cases hparts : Parts.ofId id with
      | error e => rfl
      | ok parts =>
          refine ofParts?_congr fun part hpart => ?_
          have hshorter := length_lt_of_mem_inner hparts hpart
          exact ih (by omega) (by omega)

/-- An identifier is taken apart, and its arguments and return types in turn. -/
theorem parse_eq (id : String) : parse id = Parts.ofId id >>= ofParts? id parse := by
  rw [parse, parseWithin_succ]
  cases hparts : Parts.ofId id with
  | error e => rfl
  | ok parts =>
      refine ofParts?_congr fun part hpart => parseWithin_eq ?_ (Nat.lt_succ_self _)
      exact length_lt_of_mem_inner hparts hpart

/-- A tree has the parts of an identifier, and its arguments and return types are the trees of the
identifiers inside it. -/
structure MadeOf (id : String) (parts : Parts) (t : TypeTree) : Prop where
  id : t.id = id
  head : t.head = parts.head
  tail : t.tail = parts.tail
  args : Option.Rel (List.Forall₂ fun part u => parse part = .ok u) parts.args t.args
  rets : Option.Rel (List.Forall₂ fun part u => parse part = .ok u) parts.rets t.rets

theorem eq_of_takenApart (h : TakenApart id parts) (hargs : parts.args = none) :
    parts = { head := id } := by
  cases h with
  | plain => rfl
  | applied => cases hargs

theorem madeOf_of_ofParts? {t : TypeTree} (h : TakenApart id parts)
    (ht : ofParts? id parse parts = .ok t) : MadeOf id parts t := by
  unfold ofParts? at ht
  split at ht
  · rename_i hargs
    obtain rfl := eq_of_takenApart h hargs
    cases ht
    exact ⟨rfl, rfl, rfl, .none, .none⟩
  · rename_i args hargs
    obtain ⟨trees, htrees, ht⟩ := exists_of_bind_ok ht
    obtain ⟨retTrees, hretTrees, ht⟩ := exists_of_bind_ok ht
    cases ht
    refine ⟨rfl, rfl, rfl, ?_, readOptional_eq_ok hretTrees⟩
    rw [hargs]
    exact .some (forall₂_of_mapM_ok htrees)

/-- An identifier that can be taken apart has a tree, since its parts can be taken apart, too. -/
theorem exists_parse (h : Parts.ofId id = .ok parts) : ∃ t, parse id = .ok t := by
  induction hn : id.length using Nat.strongRecOn generalizing id parts with
  | _ n ih =>
    subst hn
    -- The parts are shorter, and as their parentheses match they can be taken apart again.
    have hinner : ∀ part ∈ parts.inner, ∃ t, parse part = .ok t := by
      intro part hpart
      obtain ⟨parts', hparts'⟩ :=
        exists_ofId_of_matched ((takenApart_of_ofId h).matched_inner part hpart)
      exact ih _ (length_lt_of_mem_inner h hpart) hparts' rfl
    rw [parse_eq, h]
    change ∃ t, ofParts? id parse parts = .ok t
    unfold ofParts?
    split
    · exact ⟨_, rfl⟩
    · rename_i args hargs
      obtain ⟨trees, htrees, -⟩ := exists_mapM_of_forall fun part (hpart : part ∈ args) =>
        hinner part (List.mem_append_left _ (by rw [hargs]; exact hpart))
      refine exists_bind_ok ⟨trees, htrees⟩ fun _ => exists_bind_ok ?_ fun _ => ⟨_, rfl⟩
      exact exists_readOptional fun part hpart => hinner part (List.mem_append_right _ hpart)

theorem parse_eq_error_iff {e : Unbalanced} :
    parse id = .error e ↔ Parts.ofId id = .error e := by
  cases hparts : Parts.ofId id with
  | ok parts =>
      obtain ⟨t, ht⟩ := exists_parse hparts
      rw [ht]
      exact ⟨nofun, nofun⟩
  | error e' =>
      have hparse : parse id = .error e' := by rw [parse_eq, hparts]; rfl
      rw [hparse]
      exact ⟨fun h => congrArg _ (Except.error.inj h), fun h => congrArg _ (Except.error.inj h)⟩

theorem exists_parts_of_parse {t : TypeTree} (h : parse id = .ok t) :
    ∃ parts, Parts.ofId id = .ok parts ∧ TakenApart id parts ∧ MadeOf id parts t := by
  rw [parse_eq] at h
  obtain ⟨parts, hparts, ht⟩ := exists_of_bind_ok h
  have htaken := takenApart_of_ofId hparts
  exact ⟨parts, hparts, htaken, madeOf_of_ofParts? htaken ht⟩

/-- The parts of an identifier are those of its tree. -/
theorem exists_madeOf (h : Parts.ofId id = .ok parts) :
    ∃ t, parse id = .ok t ∧ MadeOf id parts t := by
  obtain ⟨t, ht⟩ := exists_parse h
  obtain ⟨parts', hparts', -, hmade⟩ := exists_parts_of_parse ht
  obtain rfl : parts = parts' := Except.ok.inj (h.symm.trans hparts')
  exact ⟨t, ht, hmade⟩

/-- Either a parenthesis of an identifier lacks its match, and parsing refuses what starts with it, or
there is no such parenthesis, and parsing takes the identifier apart: at the match of its first
parenthesis, at the commas between its arguments, and at those between its return types. -/
theorem parse_cases (id : String) :
    (∃ text, LacksMatch id text ∧ parse id = .error ⟨text⟩) ∨
      (¬ ∃ text, LacksMatch id text) ∧
        ∃ parts t, TakenApart id parts ∧ parse id = .ok t ∧ MadeOf id parts t := by
  cases hparse : parse id with
  | error e => exact .inl ⟨e.text, ofId_eq_error_iff.1 (parse_eq_error_iff.1 hparse), rfl⟩
  | ok t =>
      obtain ⟨parts, -, htaken, hmade⟩ := exists_parts_of_parse hparse
      refine .inr ⟨?_, parts, t, htaken, rfl, hmade⟩
      rintro ⟨text, hlacks⟩
      have herror : parse id = .error ⟨text⟩ := parse_eq_error_iff.2 (ofId_eq_error_iff.2 hlacks)
      rw [hparse] at herror
      cases herror

example : parse "t_function(t_bool)returns(t_array(t_bool)" =
    .error ⟨"returns(t_array(t_bool)"⟩ := rfl

end TypeTree
end StorageUpgrade
