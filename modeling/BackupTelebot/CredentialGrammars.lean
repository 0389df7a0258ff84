import BackupTelebot.PythonText

/-! How three clients read what they are given: the password file of libpq, the option files
of MySQL and MariaDB, and the tokens of Transact-SQL. All three work on characters below 128
and take the others as they are, so that texts stand for their encodings. -/

namespace Ascii

def newline : Nat := 10
def return_ : Nat := 13
def numberSign : Nat := 35
def doubleQuote : Nat := 34
def apostrophe : Nat := 39
def backslash : Nat := 92

end Ascii

namespace Pgpass

open PyText Ascii

def colon : Nat := 58
def wildcard : Nat := 42

inductive Pattern where
  | any
  | literal (text : Text)
  deriving DecidableEq, Repr

structure Entry where
  host : Pattern
  port : Pattern
  database : Pattern
  user : Pattern
  password : Text
  deriving DecidableEq, Repr

/-- A field up to its colon, and what follows. A backslash stands for the next character. -/
def field : Text → Option (Text × Text)
  | [] => none
  | c :: rest =>
      if c = colon then some ([],rest)
      else if c = backslash then match rest with
        | [] => none
        | d :: more => (field more).map fun read => (d :: read.1,read.2)
      else (field rest).map fun read => (c :: read.1,read.2)

theorem field_colon (rest : Text) : field (colon :: rest) = some ([],rest) := by cases rest <;> simp [field]

theorem field_escaped (d : Nat) (rest : Text) :
    field (backslash :: d :: rest) = (field rest).map fun read => (d :: read.1,read.2) := by
  simp [field,backslash,colon]

theorem field_plain {c : Nat} (separator : c ≠ colon) (escape : c ≠ backslash) (rest : Text) :
    field (c :: rest) = (field rest).map fun read => (c :: read.1,read.2) := by
  cases rest <;> simp [field,separator,escape]

def pattern (text : Text) : Option (Pattern × Text) :=
  if text.take 2 = [wildcard,colon] then some (.any,text.drop 2)
  else (field text).map fun read => (.literal read.1,read.2)

/-- The last field: a further colon ends it, a backslash at the end stands for itself. -/
def password : Text → Text
  | [] => []
  | c :: rest =>
      if c = colon then []
      else if c = backslash then match rest with
        | [] => [backslash]
        | d :: more => d :: password more
      else c :: password rest

theorem password_escaped (d : Nat) (rest : Text) : password (backslash :: d :: rest) = d :: password rest := by
  simp [password,backslash,colon]

theorem password_plain {c : Nat} (separator : c ≠ colon) (escape : c ≠ backslash) (rest : Text) :
    password (c :: rest) = c :: password rest := by
  cases rest <;> simp [password,separator,escape]

/-- A line that starts with `#` is a comment. -/
def entry (line : Text) : Option Entry :=
  if line.head? = some numberSign then none
  else do
    let (host,rest) ← pattern line
    let (port,rest) ← pattern rest
    let (database,rest) ← pattern rest
    let (user,rest) ← pattern rest
    return ⟨host,port,database,user,password rest⟩

def trimReturns (line : Text) : Text := (line.reverse.dropWhile (· = return_)).reverse

def read (file : Text) : List Entry := (file.splitOn newline).filterMap fun line => entry (trimReturns line)

end Pgpass

namespace OptionFile

open PyText Ascii

def equals : Nat := 61
def semicolon : Nat := 59
def exclamation : Nat := 33
def openBracket : Nat := 91
def closeBracket : Nat := 93

def isQuote (c : Nat) : Bool := c = doubleQuote || c = apostrophe

def isBlank (c : Nat) : Bool := decide (9 ≤ c ∧ c ≤ 13) || c = 32

def trimRight (text : Text) : Text := (text.reverse.dropWhile isBlank).reverse

def quoteAfter (quote : Option Nat) (escaped : Bool) (c : Nat) : Option Nat :=
  if isQuote c && !escaped then
    match quote with
    | none => some c
    | some q => if q = c then none else some q
  else quote

/-- A comment begins at `#` outside of quotation marks. -/
def dropComment (quote : Option Nat) (escaped : Bool) : Text → Text
  | [] => []
  | c :: rest =>
      if quoteAfter quote escaped c = none ∧ c = numberSign then []
      else c :: dropComment (quoteAfter quote escaped c)
        ((quoteAfter quote escaped c).isSome && c = backslash && !escaped) rest

theorem dropComment_plain {c : Nat} (bare : isQuote c = false) (kept : c ≠ numberSign) (rest : Text) :
    dropComment none false (c :: rest) = c :: dropComment none false rest := by
  simp [dropComment,quoteAfter,bare,kept]

theorem dropComment_open {c : Nat} (mark : isQuote c = true) (rest : Text) :
    dropComment none false (c :: rest) = c :: dropComment (some c) false rest := by
  have other : c ≠ backslash := by
    rintro rfl
    cases mark
  simp [dropComment,quoteAfter,mark,other]

/-- Within quotation marks a number sign and the other mark are characters like any. -/
theorem dropComment_quoted {q c : Nat} (inside : c ≠ q) (literal : c ≠ backslash) (rest : Text) :
    dropComment (some q) false (c :: rest) = c :: dropComment (some q) false rest := by
  have stays : quoteAfter (some q) false c = some q := by simp [quoteAfter,Ne.symm inside]
  simp [dropComment,stays,literal]

theorem dropComment_escaped {q : Nat} (mark : q ≠ backslash) (d : Nat) (rest : Text) :
    dropComment (some q) false (backslash :: d :: rest) = backslash :: d :: dropComment (some q) false rest := by
  have stays : quoteAfter (some q) false backslash = some q := by simp [quoteAfter,mark]
  have escaped : quoteAfter (some q) true d = some q := by simp [quoteAfter]
  simp [dropComment,stays,escaped]

theorem dropComment_close {q : Nat} (mark : isQuote q = true) : dropComment (some q) false [q] = [q] := by
  simp only [dropComment,quoteAfter,mark]
  rw [if_neg]
  rintro ⟨_,rfl⟩
  cases mark

def escapes : List (Nat × Nat) :=
  [(110,10),(116,9),(114,13),(98,8),(115,32),(doubleQuote,doubleQuote),(apostrophe,apostrophe),(backslash,backslash)]

/-- An unknown escape keeps its backslash, and so does one at the end. -/
def unescape : Text → Text
  | [] => []
  | c :: rest =>
      if c = backslash then match rest with
        | [] => [backslash]
        | d :: more => match escapes.lookup d with
          | some e => e :: unescape more
          | none => backslash :: d :: unescape more
      else c :: unescape rest

theorem unescape_escaped {d e : Nat} (known : escapes.lookup d = some e) (rest : Text) :
    unescape (backslash :: d :: rest) = e :: unescape rest := by
  simp [unescape,known]

theorem unescape_plain {c : Nat} (escape : c ≠ backslash) (rest : Text) : unescape (c :: rest) = c :: unescape rest := by
  cases rest <;> simp [unescape,escape]

/-- Quotation marks around a value do not belong to it. -/
def unquote (value : Text) : Text :=
  match value with
  | [] => []
  | c :: rest => if isQuote c ∧ rest.getLast? = some c then rest.dropLast else c :: rest

inductive Line where
  | skipped
  | directive (text : Text)
  | group (name : Text)
  | option (key : Text) (value : Option Text)
  deriving DecidableEq, Repr

def readOption (text : Text) : Line :=
  let kept := dropComment none false text
  let key := trimRight (kept.takeWhile (· ≠ equals))
  match kept.dropWhile (· ≠ equals) with
  | [] => .option key none
  | _ :: value => .option key (some (unescape (unquote (trimRight (value.dropWhile isBlank)))))

def readLine (line : Text) : Line :=
  match line.dropWhile isBlank with
  | [] => .skipped
  | c :: rest =>
      if c = numberSign ∨ c = semicolon then .skipped
      else if c = exclamation then .directive rest
      else if c = openBracket then .group (trimRight (rest.takeWhile (· ≠ closeBracket)))
      else readOption (c :: rest)

def read (file : Text) : List Line := ((file.splitOn newline).map readLine).filter (· ≠ .skipped)

end OptionFile

namespace TransactSql

open PyText Ascii

def openBracket : Nat := 91
def closeBracket : Nat := 93

inductive Token where
  | word (text : Text)
  | bracketed (text : Text)
  | quoted (text : Text)
  | literal (national : Bool) (text : Text)
  | symbol (c : Nat)
  deriving DecidableEq, Repr

def Token.identifier? : Token → Option Text
  | .bracketed text => some text
  | _ => none

def Token.literal? : Token → Option Text
  | .literal _ text => some text
  | _ => none

inductive State where
  | between
  | word (text : Text)
  | bracketed (text : Text)
  | bracketEnd (text : Text)
  | quoted (text : Text)
  | quoteEnd (text : Text)
  | literal (national : Bool) (text : Text)
  | literalEnd (national : Bool) (text : Text)
  | dash
  | lineComment
  | slash
  | comment (depth : Nat)
  | commentSlash (depth : Nat)
  | commentStar (depth : Nat)
  deriving DecidableEq, Repr

/-! A backslash right before a line break in a string constant continues the constant on the next
line: neither belongs to it. Whether a carriage return alone is a line break is left open. -/

section Continuation

variable (loneReturn : Bool)

def lineBreak : Text → Nat
  | [] => 0
  | c :: rest =>
      if c = newline then 1
      else if c = return_ then (if rest.head? = some newline then 2 else if loneReturn then 1 else 0)
      else 0

/-- A string constant without its continuations; so many characters of one are still to be left out. -/
def joinLines : Nat → Text → Text
  | _, [] => []
  | skip + 1, _ :: rest => joinLines skip rest
  | 0, c :: rest =>
      if c = backslash ∧ 0 < lineBreak loneReturn rest then joinLines (lineBreak loneReturn rest) rest
      else c :: joinLines 0 rest

def Continued (text : Text) : Prop := ∃ front back, text = front ++ backslash :: back ∧ 0 < lineBreak loneReturn back

variable {loneReturn}

theorem joinLines_length (skip : Nat) (text : Text) : (joinLines loneReturn skip text).length ≤ text.length := by
  induction text generalizing skip with
  | nil => simp [joinLines]
  | cons c rest ih =>
    cases skip with
    | succ skip => exact Nat.le_succ_of_le (ih skip)
    | zero =>
      rw [joinLines]
      split_ifs
      · exact Nat.le_succ_of_le (ih _)
      · exact Nat.succ_le_succ (ih 0)

/-- A backslash at a line break is lost, and everything else is kept. -/
theorem joinLines_eq_self_iff {text : Text} : joinLines loneReturn 0 text = text ↔ ¬Continued loneReturn text := by
  induction text with
  | nil => simp [joinLines,Continued]
  | cons c rest ih =>
    rw [joinLines]
    by_cases here : c = backslash ∧ 0 < lineBreak loneReturn rest
    · rw [if_pos here]
      refine iff_of_false (fun same => ?_) (not_not.mpr ⟨[],rest,by rw [here.1]; rfl,here.2⟩)
      have shorter : (joinLines loneReturn (lineBreak loneReturn rest) rest).length ≤ rest.length := joinLines_length _ rest
      rw [same] at shorter
      exact absurd shorter (Nat.not_succ_le_self _)
    · rw [if_neg here,List.cons.injEq,ih]
      refine (and_iff_right rfl).trans (not_congr ⟨?_,?_⟩)
      · rintro ⟨front,back,rfl,breaks⟩
        exact ⟨c :: front,back,rfl,breaks⟩
      · rintro ⟨front,back,split,breaks⟩
        cases front with
        | nil =>
          obtain ⟨rfl,rfl⟩ := List.cons.inj split
          exact absurd ⟨rfl,breaks⟩ here
        | cons d front =>
          obtain ⟨rfl,rfl⟩ := List.cons.inj split
          exact ⟨front,back,rfl,breaks⟩

instance (text : Text) : Decidable (Continued loneReturn text) :=
  decidable_of_iff (joinLines loneReturn 0 text ≠ text) (by rw [ne_eq,joinLines_eq_self_iff,not_not])

end Continuation

def isWordCharacter (c : Nat) : Bool := isAsciiAlnum c || c = 95 || c = 64 || c = numberSign || c = 36 || decide (128 ≤ c)

def start (tokens : List Token) (c : Nat) : State × List Token :=
  if c ≤ 32 then (.between,tokens)
  else if c = openBracket then (.bracketed [],tokens)
  else if c = doubleQuote then (.quoted [],tokens)
  else if c = apostrophe then (.literal false [],tokens)
  else if c = 45 then (.dash,tokens)
  else if c = 47 then (.slash,tokens)
  else if isWordCharacter c then (.word [c],tokens)
  else (.between,tokens ++ [.symbol c])

section Lexer

variable (loneReturn : Bool)

/-- One character. A closing mark that is doubled is a character of the text. -/
def step : State × List Token → Nat → State × List Token
  | (.between,tokens),c => start tokens c
  | (.word text,tokens),c =>
      if c = apostrophe ∧ (text = [78] ∨ text = [110]) then (.literal true [],tokens)
      else if isWordCharacter c then (.word (text ++ [c]),tokens)
      else start (tokens ++ [.word text]) c
  | (.bracketed text,tokens),c => if c = closeBracket then (.bracketEnd text,tokens) else (.bracketed (text ++ [c]),tokens)
  | (.bracketEnd text,tokens),c =>
      if c = closeBracket then (.bracketed (text ++ [c]),tokens) else start (tokens ++ [.bracketed text]) c
  | (.quoted text,tokens),c => if c = doubleQuote then (.quoteEnd text,tokens) else (.quoted (text ++ [c]),tokens)
  | (.quoteEnd text,tokens),c =>
      if c = doubleQuote then (.quoted (text ++ [c]),tokens) else start (tokens ++ [.quoted text]) c
  | (.literal national text,tokens),c =>
      if c = apostrophe then (.literalEnd national text,tokens) else (.literal national (text ++ [c]),tokens)
  | (.literalEnd national text,tokens),c =>
      if c = apostrophe then (.literal national (text ++ [c]),tokens)
      else start (tokens ++ [.literal national (joinLines loneReturn 0 text)]) c
  | (.dash,tokens),c => if c = 45 then (.lineComment,tokens) else start (tokens ++ [.symbol 45]) c
  | (.lineComment,tokens),c => if 0 < lineBreak loneReturn [c] then (.between,tokens) else (.lineComment,tokens)
  | (.slash,tokens),c => if c = 42 then (.comment 0,tokens) else start (tokens ++ [.symbol 47]) c
  | (.comment depth,tokens),c =>
      if c = 47 then (.commentSlash depth,tokens) else if c = 42 then (.commentStar depth,tokens) else (.comment depth,tokens)
  | (.commentSlash depth,tokens),c =>
      if c = 42 then (.comment (depth + 1),tokens) else if c = 47 then (.commentSlash depth,tokens) else (.comment depth,tokens)
  | (.commentStar depth,tokens),c =>
      if c = 47 then (if depth = 0 then .between else .comment (depth - 1),tokens)
      else if c = 42 then (.commentStar depth,tokens) else (.comment depth,tokens)

def finish : State × List Token → Option (List Token)
  | (.between,tokens) => some tokens
  | (.word text,tokens) => some (tokens ++ [.word text])
  | (.bracketEnd text,tokens) => some (tokens ++ [.bracketed text])
  | (.quoteEnd text,tokens) => some (tokens ++ [.quoted text])
  | (.literalEnd national text,tokens) => some (tokens ++ [.literal national (joinLines loneReturn 0 text)])
  | (.dash,tokens) => some (tokens ++ [.symbol 45])
  | (.lineComment,tokens) => some tokens
  | (.slash,tokens) => some (tokens ++ [.symbol 47])
  | _ => none

def lex (text : Text) : Option (List Token) := finish loneReturn (text.foldl (step loneReturn) (.between,[]))

end Lexer

end TransactSql
