import StorageUpgrade.Number.Double
import StorageUpgrade.Text.Numeral
import StorageUpgrade.Text.Surrogate

/-!
# Documents

Layouts, configurations and the output of a compiler are documents of one format.  An object keeps
its entries in the order in which they were written, because namespaces, sources and syntax nodes
are walked in that order.

A document is not checked before it is used.  `Misuse` names what goes wrong when a value is asked
for something that values of its kind do not have.
-/

namespace StorageUpgrade

/-- A value of a document. -/
inductive Json where
  | null
  | bool (b : Bool)
  | int (n : Int)
  | real (x : Double)
  | str (s : String)
  /-- A text with halves of surrogate pairs in it, by its code points. -/
  | rawText (points : List Nat)
  | arr (items : List Json)
  | obj (entries : List (String × Json))
deriving Repr, Inhabited

namespace Json

/-- What a value of the wrong kind was used for. -/
inductive Use where
  | entryOf (v : Json)
  | elementsOf (v : Json)
  | numberOf (v : Json)
  | other
deriving Repr

/-- What a value was asked for in vain. -/
inductive Misuse where
  /-- An object has no entry of that key. -/
  | missingKey (key : Json)
  /-- A member of an object was asked from a value that is no object. -/
  | notObject
  /-- An operation does not apply to a value of this kind. -/
  | wrongKind (use : Use := .other)
  /-- A text, a number or a list does not have the form that is needed. -/
  | badForm (found : Json := .null)
  /-- A number has more digits than are read. -/
  | tooLong (digits : Nat)
  /-- An element of an empty list. -/
  | empty
  /-- The whole part of an infinity. -/
  | unbounded
deriving Repr

/-! ### Equality -/

mutual

/-- Structural equality of documents is decidable. -/
def decEq : (a b : Json) → Decidable (a = b)
  | .null, .null => isTrue rfl
  | .bool a, .bool b => if h : a = b then isTrue (by rw [h]) else isFalse (by simp [h])
  | .int a, .int b => if h : a = b then isTrue (by rw [h]) else isFalse (by simp [h])
  | .real a, .real b => if h : a = b then isTrue (by rw [h]) else isFalse (by simp [h])
  | .str a, .str b => if h : a = b then isTrue (by rw [h]) else isFalse (by simp [h])
  | .rawText a, .rawText b => if h : a = b then isTrue (by rw [h]) else isFalse (by simp [h])
  | .arr a, .arr b => match decEqItems a b with
    | isTrue h => isTrue (by rw [h])
    | isFalse h => isFalse (by simp [h])
  | .obj a, .obj b => match decEqEntries a b with
    | isTrue h => isTrue (by rw [h])
    | isFalse h => isFalse (by simp [h])
  | .null, .bool _ | .null, .int _ | .null, .real _ | .null, .str _ | .null, .rawText _
  | .null, .arr _ | .null, .obj _ | .bool _, .null | .bool _, .int _ | .bool _, .real _
  | .bool _, .str _ | .bool _, .rawText _ | .bool _, .arr _ | .bool _, .obj _ | .int _, .null
  | .int _, .bool _ | .int _, .real _ | .int _, .str _ | .int _, .rawText _ | .int _, .arr _
  | .int _, .obj _ | .real _, .null | .real _, .bool _ | .real _, .int _ | .real _, .str _
  | .real _, .rawText _ | .real _, .arr _ | .real _, .obj _ | .str _, .null | .str _, .bool _
  | .str _, .int _ | .str _, .real _ | .str _, .rawText _ | .str _, .arr _ | .str _, .obj _
  | .rawText _, .null | .rawText _, .bool _ | .rawText _, .int _ | .rawText _, .real _
  | .rawText _, .str _ | .rawText _, .arr _ | .rawText _, .obj _ | .arr _, .null
  | .arr _, .bool _ | .arr _, .int _ | .arr _, .real _ | .arr _, .str _ | .arr _, .rawText _
  | .arr _, .obj _ | .obj _, .null | .obj _, .bool _ | .obj _, .int _ | .obj _, .real _
  | .obj _, .str _ | .obj _, .rawText _ | .obj _, .arr _ => isFalse (by simp)

/-- Decides the equality of two lists of items. -/
def decEqItems : (a b : List Json) → Decidable (a = b)
  | [], [] => isTrue rfl
  | [], _ :: _ | _ :: _, [] => isFalse (by simp)
  | a :: as, b :: bs => match a.decEq b with
    | isFalse h => isFalse (by simp [h])
    | isTrue h => match decEqItems as bs with
      | isFalse h => isFalse (by simp [h])
      | isTrue g => isTrue (by rw [h, g])

/-- Decides the equality of two lists of entries. -/
def decEqEntries : (a b : List (String × Json)) → Decidable (a = b)
  | [], [] => isTrue rfl
  | [], _ :: _ | _ :: _, [] => isFalse (by simp)
  | (k, a) :: as, (l, b) :: bs => if g : k = l then match a.decEq b with
    | isFalse h => isFalse (by simp [h])
    | isTrue h => match decEqEntries as bs with
      | isFalse h => isFalse (by simp [h])
      | isTrue i => isTrue (by rw [g, h, i])
    else isFalse (by simp [g])

end

instance : DecidableEq Json := decEq

/-! ### Entries -/

/-- The value of the first entry of a key. -/
def find? (key : String) (entries : List (String × α)) : Option α :=
  (entries.find? (·.1 == key)).map (·.2)

@[simp] theorem find?_nil (key : String) : find? key ([] : List (String × α)) = none := rfl

theorem find?_cons (key k : String) (v : α) (entries : List (String × α)) :
    find? key ((k, v) :: entries) = if k = key then some v else find? key entries := by
  by_cases h : k = key <;> simp [find?, h]

/-- Gives a key a value: in its place if the key has one already, and at the end otherwise. -/
def put [DecidableEq κ] (key : κ) (value : α) : List (κ × α) → List (κ × α)
  | [] => [(key, value)]
  | (k, v) :: entries =>
    if k = key then (key, value) :: entries else (k, v) :: put key value entries

@[simp] theorem find?_put (key k : String) (value : α) (entries : List (String × α)) :
    find? k (put key value entries) = if k = key then some value else find? k entries := by
  induction entries with
  | nil => simp [put, find?_cons, eq_comm]
  | cons e entries ih =>
    obtain ⟨l, v⟩ := e
    by_cases h : l = key
    · subst h
      simp only [put, if_true, find?_cons]
      by_cases hk : l = k
      · simp [hk]
      · simp [hk, Ne.symm hk]
    · simp only [put, h, if_false, find?_cons, ih]
      by_cases hl : l = k
      · have : k ≠ key := fun e => h (hl.trans e)
        simp [hl, this]
      · simp [hl]

/-! ### Questions to a value -/

/-- The text of some code points. -/
def ofPoints (points : List Nat) : Json :=
  if points.any Surrogate.isHalf then .rawText points
  else .str (String.ofList (points.map Char.ofNat))

/-- Whether a value is neither absent, nor false, nor zero, nor empty. -/
def isSet : Json → Bool
  | .null => false
  | .bool b => b
  | .int n => n != 0
  | .real x => !x.isZero
  | .str s => !s.isEmpty
  | .rawText points => !points.isEmpty
  | .arr xs => !xs.isEmpty
  | .obj es => !es.isEmpty

/-- Whether a value is absent. -/
def isNull : Json → Bool
  | .null => true
  | _ => false

/-- The value itself, `none` when it is absent. -/
def given? : Json → Option Json
  | .null => none
  | v => some v

/-- The entry of a key that must be there. -/
def get (v : Json) (key : String) : Except Misuse Json :=
  match v with
  | .obj es => match find? key es with
    | some x => .ok x
    | none => .error (.missingKey (.str key))
  | v => .error (.wrongKind (.entryOf v))

/-- Whether a value can be a key: lists and objects cannot. -/
def isKey : Json → Bool
  | .arr _ | .obj _ => false
  | _ => true

/-- The item at a place, counted from the end when it is negative. -/
def item (place : Int) (items : List α) : Except Misuse α :=
  match items[(if place < 0 then place + items.length else place).toNat]? with
  | some x => if place < -items.length then .error .empty else .ok x
  | none => .error .empty

/-- The part of a value that another value leads to: the entry of a key, or the item at a place. -/
def part (v key : Json) : Except Misuse Json :=
  match v, key with
  | .obj es, .str key => get (.obj es) key
  | .obj _, key => .error (if key.isKey then .missingKey key else .wrongKind)
  | .arr xs, .int n => item n xs
  | .arr xs, .bool b => item (if b then 1 else 0) xs
  | .str s, .int n => (item n s.toList).map fun c => .str (String.ofList [c])
  | .str s, .bool b =>
    (item (if b then 1 else 0) s.toList).map fun c => .str (String.ofList [c])
  | _, _ => .error .wrongKind

/-- The entry of a key of an object, `fallback` when there is none. -/
def lookup (v : Json) (key : String) (fallback : Json := .null) : Except Misuse Json :=
  match v with
  | .obj es => .ok ((find? key es).getD fallback)
  | _ => .error .notObject

/-- The entries of an object. -/
def entries : Json → Except Misuse (List (String × Json))
  | .obj es => .ok es
  | _ => .error .notObject

/-- The elements of a value: the items of a list, the keys of an object, the characters of a
text. -/
def elements : Json → Except Misuse (List Json)
  | .arr xs => .ok xs
  | .obj es => .ok (es.map fun e => .str e.1)
  | .str s => .ok (s.toList.map fun c => .str (String.ofList [c]))
  | .rawText points => .ok (points.map fun n => ofPoints [n])
  | v => .error (.wrongKind (.elementsOf v))

/-- Whether a sequence occurs in another one. -/
def occursIn [BEq α] (piece : List α) : List α → Bool
  | [] => piece.isEmpty
  | c :: cs => piece.isPrefixOf (c :: cs) || occursIn piece cs

/-- Whether a key occurs in an object, an item in a list, or a piece in a text. -/
def contains (v : Json) (key : String) : Except Misuse Bool :=
  match v with
  | .obj es => .ok (find? key es).isSome
  | .arr xs => .ok (xs.any (· == .str key))
  | .str s => .ok (occursIn key.toList s.toList)
  | .rawText points => .ok (occursIn (key.toList.map Char.toNat) points)
  | _ => .error .wrongKind

/-- The text of a value that is a text. -/
def text? : Json → Option String
  | .str s => some s
  | _ => none

/-- The whole number that a value stands for: a number without its fraction, a truth value as zero
or one, or a numeral. -/
def toInt : Json → Except Misuse Int
  | .int n => .ok n
  | .bool b => .ok (if b then 1 else 0)
  | .real x => match x, x.truncate? with
    | _, some n => .ok n
    | .infinite _, none => .error .unbounded
    | x, none => .error (.badForm (.real x))
  | .str s => match Numeral.parse s with
    | .ok n => .ok n
    | .error .malformed => .error (.badForm (.str s))
    | .error (.tooLong digits) => .error (.tooLong digits)
  | .rawText points => .error (.badForm (.rawText points))
  | v => .error (.wrongKind (.numberOf v))

/-- The number that a value is counted as when it is compared: truth values are zero and one. -/
def number? : Json → Option (Int ⊕ Double)
  | .int n => some (.inl n)
  | .bool b => some (.inl (if b then 1 else 0))
  | .real x => some (.inr x)
  | _ => none

mutual

/-- Whether two values are the same key: numbers and truth values by their size, lists item by item,
and objects by the values of their keys, whatever the order.  What is no number is the same as
itself. -/
def same : Json → Json → Bool
  | .null, .null => true
  | .str a, .str b => a == b
  | .rawText a, .rawText b => a == b
  | .arr as, .arr bs => sameItems as bs
  | .obj as, .obj bs => as.length == bs.length && sameEntries as bs
  | .real .nan, .real .nan => true
  | a, b => match a.number?, b.number? with
    | some (.inl m), some (.inl n) => m == n
    | some (.inl m), some (.inr y) => y.equalsInt m
    | some (.inr x), some (.inl n) => x.equalsInt n
    | some (.inr x), some (.inr y) => x.equals y
    | _, _ => false

/-- Whether two lists are the same item by item. -/
def sameItems : List Json → List Json → Bool
  | [], [] => true
  | a :: as, b :: bs => same a b && sameItems as bs
  | _, _ => false

/-- Whether each of the entries is the same as the one of its key among `others`. -/
def sameEntries : List (String × Json) → List (String × Json) → Bool
  | [], _ => true
  | (k, a) :: as, others => (match find? k others with
      | some b => same a b
      | none => false) && sameEntries as others

end

/-- Whether two values are alike: they are the same, and no number is not alike to itself. -/
def alike (a b : Json) : Bool := a != .real .nan && same a b

mutual

/-- Whether a whole number in a value has more digits than it may be written with. -/
def holdsTooLong : Json → Bool
  | .int n => Numeral.isTooLong n
  | .arr xs => holdsTooLongItem xs
  | .obj es => holdsTooLongEntry es
  | _ => false

/-- Whether an item of a list holds such a number. -/
def holdsTooLongItem : List Json → Bool
  | [] => false
  | x :: xs => holdsTooLong x || holdsTooLongItem xs

/-- Whether an entry of an object holds such a number. -/
def holdsTooLongEntry : List (String × Json) → Bool
  | [] => false
  | (_, x) :: es => holdsTooLong x || holdsTooLongEntry es

end

/-- The values directly inside a value: those of the entries of an object, or the items of a
list. -/
def children : Json → List Json
  | .arr xs => xs
  | .obj es => es.map (·.2)
  | _ => []

mutual

/-- The number of levels of a value. -/
def depth : Json → Nat
  | .arr xs => depthItems xs + 1
  | .obj es => depthEntries es + 1
  | _ => 1

/-- The number of levels of the deepest item. -/
def depthItems : List Json → Nat
  | [] => 0
  | x :: xs => max x.depth (depthItems xs)

/-- The number of levels of the deepest entry. -/
def depthEntries : List (String × Json) → Nat
  | [] => 0
  | (_, x) :: es => max x.depth (depthEntries es)

end

end Json

end StorageUpgrade
