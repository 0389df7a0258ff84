import Mathlib.Data.List.Basic
import Mathlib.Tactic.SplitIfs

/-! The parts of Python's text methods that look into the Unicode tables, on lists of code
points. -/
namespace PyText

abbrev Text := List Nat

def isSpace (c : Nat) : Bool :=
  decide (9 ≤ c ∧ c ≤ 13) || decide (0x1C ≤ c ∧ c ≤ 0x20) || c == 0x85 || c == 0xA0 || c == 0x1680 ||
    decide (0x2000 ≤ c ∧ c ≤ 0x200A) || c == 0x2028 || c == 0x2029 || c == 0x202F || c == 0x205F || c == 0x3000

def strip (text : Text) : Text := ((text.dropWhile isSpace).reverse.dropWhile isSpace).reverse

/-- The words of a text in reverse, where the last one may still grow. -/
def splitStep (words : List Text × Text) (c : Nat) : List Text × Text :=
  if isSpace c then (if words.2 = [] then words else (words.2.reverse :: words.1,[]))
  else (words.1,c :: words.2)

/-- `str.split`, without a separator. -/
def split (text : Text) : List Text :=
  let (words,last) := text.foldl splitStep ([],[])
  (if last = [] then words else last.reverse :: words).reverse

/-- The first of ten consecutive decimal digits, for every script that has them. -/
def decimalZeros : List Nat :=
  [0x30,0x660,0x6F0,0x7C0,0x966,0x9E6,0xA66,0xAE6,0xB66,0xBE6,0xC66,0xCE6,0xD66,0xDE6,0xE50,0xED0,0xF20,0x1040,0x1090,
    0x17E0,0x1810,0x1946,0x19D0,0x1A80,0x1A90,0x1B50,0x1BB0,0x1C40,0x1C50,0xA620,0xA8D0,0xA900,0xA9D0,0xA9F0,0xAA50,
    0xABF0,0xFF10,0x104A0,0x10D30,0x11066,0x110F0,0x11136,0x111D0,0x112F0,0x11450,0x114D0,0x11650,0x116C0,0x11730,
    0x118E0,0x11950,0x11C50,0x11D50,0x11DA0,0x11F50,0x16A60,0x16AC0,0x16B50,0x1D7CE,0x1D7D8,0x1D7E2,0x1D7EC,0x1D7F6,
    0x1E140,0x1E2F0,0x1E4D0,0x1E950,0x1FBF0]

/-- What `\d` matches in a pattern for texts. -/
def isDecimal (c : Nat) : Bool := decimalZeros.any fun first => decide (first ≤ c ∧ c ≤ first + 9)

def isAsciiDigit (c : Nat) : Bool := decide (48 ≤ c ∧ c ≤ 57)

def isAsciiLower (c : Nat) : Bool := decide (97 ≤ c ∧ c ≤ 122)

def isAsciiAlnum (c : Nat) : Bool := isAsciiDigit c || isAsciiLower c || decide (65 ≤ c ∧ c ≤ 90)

theorem strip_sublist (text : Text) : (strip text).Sublist text := by
  have inner := (List.dropWhile_sublist (l := (text.dropWhile isSpace).reverse) isSpace).reverse
  rw [List.reverse_reverse] at inner
  exact inner.trans (List.dropWhile_sublist isSpace)

theorem head_dropWhile {p : Nat → Bool} {text : Text} {c : Nat} (head : (text.dropWhile p).head? = some c) : p c = false := by
  induction text with
  | nil => simp at head
  | cons d rest ih =>
    by_cases space : p d = true
    · rw [List.dropWhile_cons_of_pos space] at head
      exact ih head
    · rw [List.dropWhile_cons_of_neg space] at head
      obtain rfl : d = c := by simpa using head
      simpa using space

theorem dropWhile_eq_self_of_head {p : Nat → Bool} {text : Text} (head : ∀ c, text.head? = some c → p c = false) :
    text.dropWhile p = text := by
  cases text with
  | nil => rfl
  | cons c rest => rw [List.dropWhile_cons_of_neg (by simp [head c rfl])]

/-- A text without white space at its ends stays as it is. -/
theorem strip_eq_self {text : Text} (first : ∀ c, text.head? = some c → isSpace c = false)
    (last : ∀ c, text.getLast? = some c → isSpace c = false) : strip text = text := by
  rw [strip,dropWhile_eq_self_of_head first,dropWhile_eq_self_of_head,List.reverse_reverse]
  intro c head
  exact last c (by rwa [List.head?_reverse] at head)

end PyText
