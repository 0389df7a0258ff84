import BackupTelebot.JsonValue

/-! `bytes.decode("utf-8")` and `json.loads`, following the scanner of the `json`
module. The nesting depth is what the interpreter's recursion limit leaves; every other
loop consumes at least one character a round. -/
namespace PyJson

/-- What the two calls raise. None of these is an error class of the caller. -/
inductive Fault where
  | unicode
  | syntax_
  | digits
  | recursion
  deriving DecidableEq, Repr

abbrev Scan (α : Type) := Except Fault (α × Str)

def isTail (b : Nat) : Bool := decide (0x80 ≤ b ∧ b ≤ 0xBF)

/-- Strict decoding: overlong forms, surrogates and values above U+10FFFF are refused. -/
def decodeUtf8 : List Nat → Except Fault Str
  | [] => .ok []
  | a :: rest =>
    if a ≤ 0x7F then (decodeUtf8 rest).map (a :: ·)
    else match rest with
    | b :: rest =>
      if 0xC2 ≤ a ∧ a ≤ 0xDF ∧ isTail b then
        (decodeUtf8 rest).map (((a - 0xC0) * 64 + (b - 0x80)) :: ·)
      else match rest with
      | c :: rest =>
        if 0xE0 ≤ a ∧ a ≤ 0xEF ∧ isTail b ∧ isTail c ∧ (a = 0xE0 → 0xA0 ≤ b) ∧ (a = 0xED → b ≤ 0x9F) then
          (decodeUtf8 rest).map (((a - 0xE0) * 4096 + (b - 0x80) * 64 + (c - 0x80)) :: ·)
        else match rest with
        | d :: rest =>
          if 0xF0 ≤ a ∧ a ≤ 0xF4 ∧ isTail b ∧ isTail c ∧ isTail d ∧ (a = 0xF0 → 0x90 ≤ b) ∧
              (a = 0xF4 → b ≤ 0x8F) then
            (decodeUtf8 rest).map
              (((a - 0xF0) * 262144 + (b - 0x80) * 4096 + (c - 0x80) * 64 + (d - 0x80)) :: ·)
          else .error .unicode
        | [] => .error .unicode
      | [] => .error .unicode
    | [] => .error .unicode

theorem decodeUtf8_ascii (text : Str) (ascii : ∀ c ∈ text, c ≤ 0x7F) :
    decodeUtf8 text = .ok text := by
  induction text with
  | nil => rfl
  | cons c rest ih =>
    have low : c ≤ 0x7F := ascii c (by simp)
    unfold decodeUtf8
    simp only [if_pos low,ih (fun d member => ascii d (by simp [member]))]
    rfl

def isSpace (c : Nat) : Bool := c == 32 || c == 9 || c == 10 || c == 13

def skipSpace (text : Str) : Str := text.dropWhile isSpace

def isDigit (c : Nat) : Bool := decide (48 ≤ c ∧ c ≤ 57)

def hexValue (c : Nat) : Option Nat :=
  if 48 ≤ c ∧ c ≤ 57 then some (c - 48)
  else if 97 ≤ c ∧ c ≤ 102 then some (c - 87)
  else if 65 ≤ c ∧ c ≤ 70 then some (c - 55)
  else none

def hex4 (text : Str) : Option (Nat × Str) :=
  match text with
  | a :: b :: c :: d :: rest => do
      let a ← hexValue a
      let b ← hexValue b
      let c ← hexValue c
      let d ← hexValue d
      some (4096 * a + 256 * b + 16 * c + d,rest)
  | _ => none

def isHigh (c : Nat) : Bool := decide (0xD800 ≤ c ∧ c ≤ 0xDBFF)
def isLow (c : Nat) : Bool := decide (0xDC00 ≤ c ∧ c ≤ 0xDFFF)
def joinPair (high low : Nat) : Nat := 0x10000 + (high - 0xD800) * 0x400 + (low - 0xDC00)

def simpleEscape (c : Nat) : Option Nat :=
  if c = 34 then some 34
  else if c = 92 then some 92
  else if c = 47 then some 47
  else if c = 98 then some 8
  else if c = 102 then some 12
  else if c = 110 then some 10
  else if c = 114 then some 13
  else if c = 116 then some 9
  else none

/-- One character of a string body, or the end of the string. A high surrogate takes the
escaped low surrogate that follows it. -/
def scanChar (text : Str) : Except Fault (Option Nat × Str) :=
  match text with
  | [] => .error .syntax_
  | c :: rest =>
    if c = 34 then .ok (none,rest)
    else if c = 92 then
      match rest with
      | [] => .error .syntax_
      | e :: rest =>
        if e = 117 then
          match hex4 rest with
          | none => .error .syntax_
          | some (u,rest) =>
            if isHigh u ∧ rest.take 2 = [92,117] then
              match hex4 (rest.drop 2) with
              | none => .error .syntax_
              | some (v,after) =>
                if isLow v then .ok (some (joinPair u v),after) else .ok (some u,rest)
            else .ok (some u,rest)
        else match simpleEscape e with
          | some value => .ok (some value,rest)
          | none => .error .syntax_
    else if c < 32 then .error .syntax_
    else .ok (some c,rest)

/-- The body of a string after its opening quote; `bound` is the length of the input. -/
def scanChars : Nat → Str → Scan Str
  | 0, _ => .error .syntax_
  | bound + 1, text =>
    match scanChar text with
    | .error e => .error e
    | .ok (none,rest) => .ok ([],rest)
    | .ok (some c,rest) => (scanChars bound rest).map fun (value,rest) => (c :: value,rest)

def scanStr (text : Str) : Scan Str := scanChars text.length text

def natOfDigits (digits : Str) : Nat := Nat.ofDigits 10 (digits.reverse.map (· - 48))

/-- The digits of the integer part: a leading zero stands alone. -/
def wholePart (text : Str) : Option (Str × Str) :=
  match text with
  | [] => none
  | c :: rest =>
    if c = 48 then some ([48],rest)
    else if isDigit c then some (c :: rest.takeWhile isDigit,rest.dropWhile isDigit)
    else none

def fractionPart (text : Str) : Str × Str :=
  match text with
  | 46 :: c :: rest =>
      if isDigit c then (46 :: c :: rest.takeWhile isDigit,rest.dropWhile isDigit) else ([],text)
  | _ => ([],text)

def exponentPart (text : Str) : Str × Str :=
  match text with
  | e :: rest =>
    if e = 101 ∨ e = 69 then
      let sign := rest.takeWhile (fun c => c == 43 || c == 45) |>.take 1
      let digits := (rest.drop sign.length).takeWhile isDigit
      if digits = [] then ([],text)
      else (e :: sign ++ digits,(rest.drop sign.length).dropWhile isDigit)
    else ([],text)
  | [] => ([],[])

/-- The longest integer that `int()` accepts, in digits. -/
def maxStrDigits : Nat := 4300

def scanNumber (text : Str) : Scan Json :=
  let negative := text.head? = some 45
  let body := if negative then text.drop 1 else text
  match wholePart body with
  | none => .error .syntax_
  | some (whole,rest) =>
    let (fraction,rest) := fractionPart rest
    let (exponent,rest) := exponentPart rest
    if fraction = [] ∧ exponent = [] then
      if maxStrDigits < whole.length then .error .digits
      else .ok (.int (if negative then -(natOfDigits whole : Int) else natOfDigits whole),rest)
    else .ok (.float ((if negative then [45] else []) ++ whole ++ fraction ++ exponent),rest)

/-- `null`, `true`, `false` and the three names for floats, else a number. -/
def scanAtom (text : Str) : Scan Json :=
  let names : List (Str × Json) := [(str "null",.null),(str "true",.bool true),
    (str "false",.bool false),(str "NaN",.float (str "NaN")),
    (str "Infinity",.float (str "Infinity")),(str "-Infinity",.float (str "-Infinity"))]
  match names.find? (fun (name,_) => name.isPrefixOf text) with
  | some (name,value) => .ok (value,text.drop name.length)
  | none => scanNumber text

def scanItems (value : Str → Scan Json) : Nat → Str → Scan (List Json)
  | 0, _ => .error .syntax_
  | bound + 1, text =>
    match value text with
    | .error e => .error e
    | .ok (item,rest) =>
      match skipSpace rest with
      | 93 :: rest => .ok ([item],rest)
      | 44 :: rest =>
          (scanItems value bound (skipSpace rest)).map fun (items,rest) => (item :: items,rest)
      | _ => .error .syntax_

def scanMembers (value : Str → Scan Json) : Nat → Str → Scan (List (Str × Json))
  | 0, _ => .error .syntax_
  | bound + 1, text =>
    match text with
    | 34 :: rest =>
      match scanStr rest with
      | .error e => .error e
      | .ok (key,rest) =>
        match skipSpace rest with
        | 58 :: rest =>
          match value (skipSpace rest) with
          | .error e => .error e
          | .ok (item,rest) =>
            match skipSpace rest with
            | 125 :: rest => .ok ([(key,item)],rest)
            | 44 :: rest =>
                (scanMembers value bound (skipSpace rest)).map fun (members,rest) =>
                  ((key,item) :: members,rest)
            | _ => .error .syntax_
        | _ => .error .syntax_
    | _ => .error .syntax_

/-- One value. `depth` is how many more containers the recursion limit lets it enter. -/
def scanOnce (depth : Nat) (text : Str) : Scan Json :=
  match text with
  | 34 :: rest => (scanStr rest).map fun (value,rest) => (.str value,rest)
  | 123 :: rest =>
    match depth with
    | 0 => .error .recursion
    | depth + 1 =>
      match skipSpace rest with
      | 125 :: rest => .ok (.obj [],rest)
      | rest => (scanMembers (scanOnce depth) rest.length rest).map fun (members,rest) =>
          (.obj (ofPairs members),rest)
  | 91 :: rest =>
    match depth with
    | 0 => .error .recursion
    | depth + 1 =>
      match skipSpace rest with
      | 93 :: rest => .ok (.arr [],rest)
      | rest => (scanItems (scanOnce depth) rest.length rest).map fun (items,rest) =>
          (.arr items,rest)
  | text => scanAtom text

/-- `json.loads` of a decoded text. -/
def loads (depth : Nat) (text : Str) : Except Fault Json :=
  match scanOnce depth (skipSpace text) with
  | .error e => .error e
  | .ok (value,rest) => if skipSpace rest = [] then .ok value else .error .syntax_

example : (loads 5 (str "[1, \x7b\"a\": -2.50\x7d, \"\\ud83d\\ude00\"]")).map Json.isObj = .ok false := by
  decide +kernel
example : (loads 1 (str "[[]]")).map Json.isObj = .error .recursion := by decide +kernel

end PyJson
