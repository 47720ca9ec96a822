/-!
# Lines of a report

Texts of several lines: indentation, bulleted items whose continuation lines are aligned with the
first one, and the escape sequences that colour a text on a terminal.
-/

namespace StorageUpgrade

/-- The pieces of a text between the characters that pass a test; there is always at least one. -/
def splitWhere (separates : Char → Bool) : List Char → List (List Char)
  | [] => [[]]
  | c :: cs =>
    if separates c then [] :: splitWhere separates cs
    else match splitWhere separates cs with
      | [] => [[c]]
      | piece :: pieces => (c :: piece) :: pieces

theorem splitWhere_ne_nil (separates : Char → Bool) (cs : List Char) :
    splitWhere separates cs ≠ [] := by
  cases cs with
  | nil => simp [splitWhere]
  | cons c cs =>
    simp only [splitWhere]
    split
    · simp
    · split <;> simp

/-- The pieces of a text between the occurrences of a character. -/
def splitAt (sep : Char) (cs : List Char) : List (List Char) := splitWhere (· == sep) cs

/-- The lines of a text. -/
def linesOf (s : String) : List String := (splitAt '\n' s.toList).map String.ofList

/-- A text of `n` spaces, none when `n` is negative. -/
def spaces (n : Int) : String := String.ofList (List.replicate n.toNat ' ')

/-- Indents every line, empty ones included, by `amount`, and the first one by `first`. -/
def indent (text : String) (amount first : Int) : String :=
  match linesOf text with
  | [] => ""
  | line :: lines => "\n".intercalate ((spaces first ++ line) :: lines.map (spaces amount ++ ·))

/-- Renders each item on a line of its own behind a bullet; the result starts with a new line. -/
def itemizeWith (bullet : String) (items : List String) : String :=
  String.join (items.map fun item => "\n" ++ bullet ++ " " ++ indent item 2 0)

/-- Renders each item on a line of its own behind a dash. -/
def itemize (items : List String) : String := itemizeWith "-" items

@[simp] theorem itemizeWith_nil (bullet : String) : itemizeWith bullet [] = "" := rfl

/-! ### Terminal colours -/

/-- The escape sequences of a terminal that the tool uses. -/
inductive Style where
  | orange
  | green
  | red
  | bold
deriving DecidableEq, Repr

/-- The number of a style in its escape sequence. -/
def Style.code : Style → String
  | .orange => "33"
  | .green => "32"
  | .red => "31"
  | .bold => "1"

/-- A text between the escape sequence of a style and the one that ends all styles. -/
def Style.apply (style : Style) (text : String) : String :=
  "\x1b[" ++ style.code ++ "m" ++ text ++ "\x1b[0m"

/-- The rest of a text behind the parameters and the final `m` of an escape sequence, if it is
one. -/
def afterStyle? : List Char → Option (List Char)
  | 'm' :: cs => some cs
  | c :: cs => if ('0' ≤ c && c ≤ '9') || c = ';' then afterStyle? cs else none
  | [] => none

theorem length_of_afterStyle? {cs rest : List Char} (h : afterStyle? cs = some rest) :
    rest.length < cs.length := by
  fun_induction afterStyle? cs with
  | case1 cs => simp_all
  | case2 c cs _ _ ih => exact Nat.lt_succ_of_lt (ih h)
  | case3 => simp_all
  | case4 => simp_all

/-- The text without the escape sequences of its styles. -/
def stripStyles : List Char → List Char
  | [] => []
  | '\x1b' :: '[' :: cs =>
    match _h : afterStyle? cs with
    | some rest => stripStyles rest
    | none => '\x1b' :: '[' :: stripStyles cs
  | c :: cs => c :: stripStyles cs
termination_by cs => cs.length
decreasing_by
  · have := length_of_afterStyle? _h
    simp only [List.length_cons]
    omega
  · simp only [List.length_cons]
    omega
  · simp only [List.length_cons]
    omega

end StorageUpgrade
