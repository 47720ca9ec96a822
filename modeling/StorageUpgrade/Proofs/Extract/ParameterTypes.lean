import StorageUpgrade.Extract.Signature
import StorageUpgrade.Proofs.Compare.Answers
import StorageUpgrade.Proofs.TypeId.Named

/-!
# Types of parameters, as the binary interface writes them

The parameters of a function have elementary types, arrays, structs, enums, contracts, user defined
value types and functions as types.  The binary interface knows them by their canonical texts: a
struct is the tuple of its members, and the length of an array is written in decimals.

The sources may write a length otherwise, `0x10` or `1e3`.  What a type is written as depends on how
its lengths are spelled, and two spellings write a type alike only if they spell all of its lengths
alike (`text_eq_text_iff`).  So nothing else makes up for a length that is not written in decimals.

The last part is about two readings of the text that a compiler gives for a type: the elementary
name in front of the words that say where values are kept (`dropQualifiers_qualified`), and the
length of an array at its end (`lastLength?_bracketed`).
-/

namespace StorageUpgrade
namespace Signature

/-- A type that a parameter may have.  An array of a fixed length comes with the literal by which
the source gives the length, if it does so by a literal. -/
inductive ParameterType where
  | elementary (name : String)
  | function
  | enum
  | contract
  | valueType (underlying : ParameterType)
  | array (element : ParameterType)
  | fixedArray (element : ParameterType) (length : Nat) (literal : Option String)
  | struct (members : List ParameterType)

/-- How the length of an array is written, from its value and its literal. -/
abbrev Spelling := Nat → Option String → String

namespace Spelling

/-- Lengths are written in decimals. -/
def decimal : Spelling := fun length _ => toString length

/-- Lengths are written as in the source where it gives them by literals, and in decimals
elsewhere. -/
def asInSource : Spelling := fun length literal => literal.getD (toString length)

end Spelling

namespace ParameterType

/-! ### The text of a type -/

mutual

/-- The text of a type, with its lengths spelled in some way. -/
def text (spell : Spelling) : ParameterType → String
  | elementary name => name
  | function => "function"
  | enum => "uint8"
  | contract => "address"
  | valueType underlying => underlying.text spell
  | array element => element.text spell ++ "[]"
  | fixedArray element length literal =>
    element.text spell ++ "[" ++ spell length literal ++ "]"
  | struct members => "(" ++ ",".intercalate (texts spell members) ++ ")"

/-- The texts of some types. -/
def texts (spell : Spelling) : List ParameterType → List String
  | [] => []
  | t :: ts => t.text spell :: texts spell ts

end

mutual

/-- The lengths in a type, with their literals. -/
def lengths : ParameterType → List (Nat × Option String)
  | valueType underlying => underlying.lengths
  | array element => element.lengths
  | fixedArray element length literal => element.lengths ++ [(length, literal)]
  | struct members => lengthsIn members
  | _ => []

/-- The lengths in some types. -/
def lengthsIn : List ParameterType → List (Nat × Option String)
  | [] => []
  | t :: ts => t.lengths ++ lengthsIn ts

end

theorem mem_lengthsIn {ts : List ParameterType} {l : Nat × Option String} :
    l ∈ lengthsIn ts ↔ ∃ t ∈ ts, l ∈ t.lengths := by
  induction ts with
  | nil => simp [lengthsIn]
  | cons t ts ih => rw [lengthsIn, List.mem_append, ih, List.exists_mem_cons_iff]

/-- The canonical text of a type in the binary interface. -/
def canonical (t : ParameterType) : String := t.text .decimal

theorem texts_eq_map (spell : Spelling) (ts : List ParameterType) :
    texts spell ts = ts.map (·.text spell) := by
  induction ts with
  | nil => rfl
  | cons t ts ih => rw [texts, ih, List.map_cons]

/-! ### Types inside a type -/

/-- The types that a type is made of. -/
def parts : ParameterType → List ParameterType
  | valueType underlying => [underlying]
  | array element => [element]
  | fixedArray element _ _ => [element]
  | struct members => members
  | _ => []

mutual

/-- The number of levels of a type. -/
def height : ParameterType → Nat
  | valueType underlying => underlying.height + 1
  | array element => element.height + 1
  | fixedArray element _ _ => element.height + 1
  | struct members => heightOf members + 1
  | _ => 1

/-- The number of levels of the highest type. -/
def heightOf : List ParameterType → Nat
  | [] => 0
  | t :: ts => max t.height (heightOf ts)

end

theorem heightOf_le_iff {ts : List ParameterType} {n : Nat} :
    heightOf ts ≤ n ↔ ∀ t ∈ ts, t.height ≤ n := by
  induction ts with
  | nil => simp [heightOf]
  | cons t ts ih => rw [heightOf, Nat.max_le, ih, List.forall_mem_cons]

theorem height_eq (t : ParameterType) : t.height = heightOf t.parts + 1 := by
  cases t <;> simp [height, parts, heightOf]

theorem height_lt_of_mem_parts {t p : ParameterType} (h : p ∈ t.parts) : p.height < t.height := by
  rw [height_eq t]
  exact Nat.lt_succ_of_le (heightOf_le_iff.1 (Nat.le_refl _) p h)

/-- What holds of a type if it holds of its parts holds of all types. -/
@[elab_as_elim]
theorem parts_induction {P : ParameterType → Prop} (step : ∀ t, (∀ p ∈ t.parts, P p) → P t)
    (t : ParameterType) : P t :=
  step t fun p hp =>
    have := height_lt_of_mem_parts hp
    parts_induction step p
termination_by t.height

/-! ### Spellings -/

/-- A spelling is read up to the bracket behind it. -/
def Closes (spell : Spelling) (lengths : List (Nat × Option String)) : Prop :=
  ∀ l ∈ lengths, ']' ∉ (spell l.1 l.2).toList

/-- Two spellings agree on some lengths. -/
def Agree (spell spell' : Spelling) (lengths : List (Nat × Option String)) : Prop :=
  ∀ l ∈ lengths, spell l.1 l.2 = spell' l.1 l.2

variable {spell spell' : Spelling}

/-- Texts without a mark are told from what the mark separates them from. -/
theorem append_mark_inj {mark : Char} {xs ys rest rest' : List Char} (hxs : mark ∉ xs)
    (hys : mark ∉ ys) : xs ++ mark :: rest = ys ++ mark :: rest' ↔ xs = ys ∧ rest = rest' := by
  refine ⟨fun h => ?_, by rintro ⟨rfl, rfl⟩; rfl⟩
  induction xs generalizing ys with
  | nil =>
      cases ys with
      | nil => exact ⟨rfl, (List.cons.inj h).2⟩
      | cons y ys => exact absurd ((List.cons.inj h).1 ▸ List.mem_cons_self) hys
  | cons x xs ih =>
      cases ys with
      | nil => exact absurd ((List.cons.inj h).1 ▸ List.mem_cons_self) hxs
      | cons y ys =>
          obtain ⟨rfl, htail⟩ := List.cons.inj h
          obtain ⟨rfl, hrest⟩ := ih (fun hx => hxs (List.mem_cons_of_mem _ hx))
            (fun hy => hys (List.mem_cons_of_mem _ hy)) htail
          exact ⟨rfl, hrest⟩

mutual

/-- Two spellings write a type alike, whatever follows it, only if they agree on its lengths. -/
theorem text_append_inj : (t : ParameterType) → {rest rest' : List Char} →
    Closes spell t.lengths → Closes spell' t.lengths →
    ((t.text spell).toList ++ rest = (t.text spell').toList ++ rest' ↔
      Agree spell spell' t.lengths ∧ rest = rest')
  | elementary name, _, _, _, _ => by simp [text, Agree, lengths]
  | function, _, _, _, _ => by simp [text, Agree, lengths]
  | enum, _, _, _, _ => by simp [text, Agree, lengths]
  | contract, _, _, _, _ => by simp [text, Agree, lengths]
  | valueType underlying, rest, rest', h, h' => by
      simp only [text, lengths] at h h' ⊢
      exact text_append_inj underlying h h'
  | array element, rest, rest', h, h' => by
      simp only [text, lengths, String.toList_append, List.append_assoc] at h h' ⊢
      rw [text_append_inj element h h', List.append_cancel_left_eq]
  | fixedArray element length literal, rest, rest', h, h' => by
      simp only [lengths] at h h' ⊢
      obtain ⟨helement, hlength⟩ := List.forall_mem_append.1 h
      obtain ⟨helement', hlength'⟩ := List.forall_mem_append.1 h'
      have htext (spell : Spelling) (rest : List Char) :
          ((element.fixedArray length literal).text spell).toList ++ rest =
            (element.text spell).toList ++
              ('[' :: ((spell length literal).toList ++ ']' :: rest)) := by
        simp [text]
      rw [htext, htext, text_append_inj element helement helement', List.cons_inj_right,
        append_mark_inj (hlength _ (List.mem_singleton_self _))
          (hlength' _ (List.mem_singleton_self _)), String.toList_inj, ← and_assoc, Agree, Agree,
        List.forall_mem_append, List.forall_mem_singleton]
  | struct members, rest, rest', h, h' => by
      have htext (spell : Spelling) (rest : List Char) :
          ((struct members).text spell).toList ++ rest =
            '(' :: ([','].intercalate ((texts spell members).map String.toList) ++ ')' :: rest) := by
        simp [text, String.toList_intercalate]
      rw [htext, htext, List.cons_inj_right, texts_append_inj members h h', List.cons_inj_right,
        lengths]

/-- The same of several types, with commas between them. -/
theorem texts_append_inj : (ts : List ParameterType) → {rest rest' : List Char} →
    Closes spell (lengthsIn ts) → Closes spell' (lengthsIn ts) →
    ([','].intercalate ((texts spell ts).map String.toList) ++ rest =
        [','].intercalate ((texts spell' ts).map String.toList) ++ rest' ↔
      Agree spell spell' (lengthsIn ts) ∧ rest = rest')
  | [], _, _, _, _ => by simp [texts, lengthsIn, Agree]
  | [t], rest, rest', h, h' => by
      simp only [texts, lengthsIn, List.append_nil, List.map_cons, List.map_nil,
        List.intercalate_singleton] at h h' ⊢
      exact text_append_inj t h h'
  | t :: u :: ts, rest, rest', h, h' => by
      obtain ⟨ht, hts⟩ := List.forall_mem_append.1 h
      obtain ⟨ht', hts'⟩ := List.forall_mem_append.1 h'
      have htexts (spell : Spelling) (rest : List Char) :
          [','].intercalate ((texts spell (t :: u :: ts)).map String.toList) ++ rest =
            (t.text spell).toList ++
              (',' :: ([','].intercalate ((texts spell (u :: ts)).map String.toList) ++ rest)) := by
        simp [texts, List.intercalate_cons_cons]
      have hlengths : lengthsIn (t :: u :: ts) = t.lengths ++ lengthsIn (u :: ts) := rfl
      rw [htexts, htexts, text_append_inj t ht ht', List.cons_inj_right,
        texts_append_inj (u :: ts) hts hts', ← and_assoc, hlengths, Agree, Agree, Agree,
        List.forall_mem_append]

end

/-- Two spellings write a type alike if and only if they agree on its lengths. -/
theorem text_eq_text_iff {t : ParameterType} (h : Closes spell t.lengths)
    (h' : Closes spell' t.lengths) : t.text spell = t.text spell' ↔ Agree spell spell' t.lengths := by
  have happend : (t.text spell).toList ++ [] = (t.text spell').toList ++ [] ↔
      Agree spell spell' t.lengths ∧ ([] : List Char) = [] := text_append_inj t h h'
  rwa [List.append_nil, List.append_nil, String.toList_inj, and_iff_left rfl] at happend

end ParameterType

/-! ### What a compiler writes of a type -/

/-- A name, followed by words that say where the values are kept. -/
def qualified (name : String) (words : List String) : String :=
  name ++ String.join (words.map (" " ++ ·))

theorem dropQualifiersFrom_of_not_mem {cs : List Char} (h : ' ' ∉ cs) (rest : List Char) :
    dropQualifiersFrom 0 (cs ++ rest) = cs ++ dropQualifiersFrom 0 rest := by
  induction cs with
  | nil => rfl
  | cons c cs ih =>
      obtain ⟨hc, hcs⟩ := List.ne_and_not_mem_of_not_mem_cons h
      rw [List.cons_append, dropQualifiersFrom, if_neg (Ne.symm hc), ih hcs, List.cons_append]

theorem dropQualifiersFrom_length (cs rest : List Char) :
    dropQualifiersFrom cs.length (cs ++ rest) = dropQualifiersFrom 0 rest := by
  induction cs with
  | nil => rfl
  | cons c cs ih => rw [List.length_cons, List.cons_append, dropQualifiersFrom, ih]

/-- None of the words starts with another one. -/
theorem eq_of_prefix_of_mem_qualifiers :
    ∀ q ∈ qualifiers, ∀ q' ∈ qualifiers, q <+: q' → q = q' := by decide

/-- A word that says where values are kept is found in front of what no word goes on with. -/
theorem qualifierLength?_append {q rest : List Char} (hq : q ∈ qualifiers)
    (hrest : endsWord rest = true) : qualifierLength? (q ++ rest) = some q.length := by
  unfold qualifierLength?
  cases hfound : qualifiers.find? fun p =>
      p.isPrefixOf (q ++ rest) && endsWord ((q ++ rest).drop p.length) with
  | none =>
      have hno := List.find?_eq_none.1 hfound q hq
      rw [List.drop_left, hrest, Bool.and_true, List.isPrefixOf_iff_prefix] at hno
      exact absurd (List.prefix_append q rest) hno
  | some p =>
      have hp := List.mem_of_find?_eq_some hfound
      have hasked := List.find?_some hfound
      have hfront : p <+: q ++ rest := List.isPrefixOf_iff_prefix.1 (Bool.and_eq_true_iff.1 hasked).1
      obtain rfl : p = q := by
        rcases List.prefix_or_prefix_of_prefix hfront (List.prefix_append q rest) with h | h
        · exact eq_of_prefix_of_mem_qualifiers p hp q hq h
        · exact (eq_of_prefix_of_mem_qualifiers q hq p hp h).symm
      rfl

theorem toList_words (word : String) (words : List String) :
    (String.join ((word :: words).map (" " ++ ·))).toList =
      ' ' :: (word.toList ++ (String.join (words.map (" " ++ ·))).toList) := by
  simp

theorem dropQualifiersFrom_words {words : List String}
    (hwords : ∀ word ∈ words, word.toList ∈ qualifiers) :
    dropQualifiersFrom 0 (String.join (words.map (" " ++ ·))).toList = [] := by
  induction words with
  | nil => rfl
  | cons word words ih =>
      obtain ⟨hword, hwords⟩ := List.forall_mem_cons.1 hwords
      have hends : endsWord (String.join (words.map (" " ++ ·))).toList = true := by
        cases words with
        | nil => rfl
        | cons next words => rw [toList_words, endsWord_cons]; rfl
      rw [toList_words, dropQualifiersFrom, if_pos rfl, qualifierLength?_append hword hends]
      exact (dropQualifiersFrom_length _ _).trans (ih hwords)

/-- Without the words behind it, the name is left. -/
theorem dropQualifiers_qualified {name : String} {words : List String} (hname : ' ' ∉ name.toList)
    (hwords : ∀ word ∈ words, word.toList ∈ qualifiers) :
    dropQualifiers (qualified name words) = name := by
  rw [dropQualifiers, qualified, String.toList_append, dropQualifiersFrom_of_not_mem hname,
    dropQualifiersFrom_words hwords, List.append_nil, String.ofList_toList]

theorem not_mem_toString {c : Char} (hc : c.isDigit = false) (n : Nat) :
    c ∉ (toString n).toList := by
  intro hmem
  rw [TypeId.isDigit_toString n c hmem] at hc
  cases hc

theorem bracketed?_toString (n : Nat) (rest : List Char) :
    bracketed? ('[' :: ((toString n).toList ++ ']' :: rest)) = some (toString n).toList := by
  have hdigits : ∀ c ∈ (toString n).toList, isDigit c = true :=
    fun c hc => (Numeral.of_isDigit (TypeId.isDigit_toString n c hc)).1
  have hspan : spanDigits ((toString n).toList ++ ']' :: rest) =
      ((toString n).toList, ']' :: rest) := by
    rw [spanDigits, List.span_eq_takeWhile_dropWhile, List.takeWhile_append_of_pos hdigits,
      List.dropWhile_append_of_pos hdigits, List.takeWhile_cons_of_neg (by decide),
      List.dropWhile_cons_of_neg (by decide), List.append_nil]
  rw [bracketed?, hspan]
  cases hds : (toString n).toList with
  | nil => exact absurd hds (TypeId.toString_ne_nil n)
  | cons d ds => rfl

theorem lastLength?_of_not_mem {cs : List Char} (h : '[' ∉ cs) : lastLength? cs = none := by
  induction cs with
  | nil => rfl
  | cons c cs ih =>
      obtain ⟨hc, hcs⟩ := List.ne_and_not_mem_of_not_mem_cons h
      rw [lastLength?, ih hcs, Option.none_or, bracketed?]
      intro ds heq
      exact hc (List.cons.inj heq).1.symm

/-- A length in brackets at the end of a text is found. -/
theorem lastLength?_bracketed (front : List Char) (length : Nat) :
    lastLength? (front ++ '[' :: ((toString length).toList ++ [']'])) =
      some (toString length).toList := by
  induction front with
  | nil =>
      have hnone : lastLength? ((toString length).toList ++ [']']) = none := by
        refine lastLength?_of_not_mem fun h => ?_
        rcases List.mem_append.1 h with h | h
        · exact not_mem_toString rfl length h
        · exact absurd h (by decide)
      rw [List.nil_append, lastLength?, hnone, Option.none_or, bracketed?_toString]
  | cons c front ih => rw [List.cons_append, lastLength?, ih, Option.some_or]

end Signature
end StorageUpgrade
