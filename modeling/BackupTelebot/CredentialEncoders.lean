import BackupTelebot.CredentialGrammars
import BackupTelebot.PythonReplace
import BackupTelebot.WorkerChecks

/-! What the database tools are told in files and statements: the line of the PostgreSQL
password file, the option file of the MySQL client and the statements for SQL Server, each
read back by the grammar of the program that reads it. -/
namespace BackupTelebot.Credentials

open PyJson PyText Ascii Config

def strInt (n : ℤ) : Str := (Json.int n).dump

/-! ### PostgreSQL -/

/-- The line that `_postgres` puts together. -/
def passfileLine (source : DatabaseSource) (password : Str) : Except Failure Str := do
  let host ← pgpassField source.host
  let database ← pgpassField source.databaseName
  let username ← pgpassField source.username
  let secret ← pgpassField password
  return List.intercalate (str ":") [host,strInt source.port,database,username,secret]

/-- The two replacements of `_pgpass_field`, one after the other. -/
def pgpassEscape (value : Str) : Str := replaceChar 58 [92,58] (replaceChar 92 [92,92] value)

theorem pgpassEscape_cons (c : Nat) (rest : Str) :
    pgpassEscape (c :: rest) = (if c = 92 then [92,92] else if c = 58 then [92,58] else [c]) ++ pgpassEscape rest := by
  rw [pgpassEscape,replaceChar_cons,replaceChar_append]
  congr 1
  split_ifs with slash colon
  · rfl
  · subst colon
    rfl
  · simp [replaceChar,colon]

theorem pgpassEscape_eq (value : Str) :
    pgpassEscape value = value.flatMap fun c => if c = 92 then [92,92] else if c = 58 then [92,58] else [c] := by
  induction value with
  | nil => rfl
  | cons c rest ih => rw [pgpassEscape_cons,List.flatMap_cons,ih]

theorem pgpassField_eq_ok {value text : Str} :
    pgpassField value = .ok text ↔ (∀ c ∈ value, isUnsafe c = false) ∧ text = pgpassEscape value := by
  rw [← pgpassField_ok,pgpassEscape_eq,pgpassField]
  cases value.any isUnsafe with
  | true => simp
  | false => simp [eq_comm]

/-! ### MySQL -/

inductive MySQLDumpFlavor where
  | mysql
  | mariadb
  deriving DecidableEq

def mysqlOption (value : Str) : Str :=
  let escaped := replaceChar 9 (str "\\t") (replaceChar 13 (str "\\r") (replaceChar 10 (str "\\n") (replaceChar 0 (str "\\0")
    (replaceChar 34 (str "\\\"") (replaceChar 92 (str "\\\\") value)))))
  str "\"" ++ escaped ++ str "\""

def mysqlSslMode : TLSMode → Str
  | .disabled => str "DISABLED"
  | .preferred => str "PREFERRED"
  | .required => str "REQUIRED"
  | .verifyCa => str "VERIFY_CA"
  | .verifyFull => str "VERIFY_IDENTITY"

/-- `_mysql_tls_options`. MariaDB verifies the identity with the certificate. -/
def mysqlTlsOptions (flavor : MySQLDumpFlavor) (mode : TLSMode) (caFile : Option Str) : Except Failure (List (Str × Str)) :=
  if mode.verifies ∧ caFile = none then .error (.pipeline "MYSQL_TLS_CA_MISSING")
  else match flavor with
    | .mysql => .ok ((str "ssl-mode",mysqlSslMode mode) :: (caFile.map fun file => (str "ssl-ca",file)).toList)
    | .mariadb => match mode with
      | .disabled => .ok [(str "ssl",str "0"),(str "ssl-verify-server-cert",str "0")]
      | .preferred => .ok [(str "ssl",str "1"),(str "ssl-verify-server-cert",str "0")]
      | .required => .ok [(str "ssl",str "1"),(str "ssl-verify-server-cert",str "0")]
      | _ => .ok [(str "ssl",str "1"),(str "ssl-ca",caFile.getD (str "None")),(str "ssl-verify-server-cert",str "1")]

/-- The options that `_mysql` writes, in their order. -/
def mysqlOptions (source : DatabaseSource) (password : Str) (flavor : MySQLDumpFlavor) (caFile : Option Str) :
    Except Failure (List (Str × Str)) := do
  let tls ← mysqlTlsOptions flavor source.tlsMode caFile
  return (str "host",source.host) :: (str "port",strInt source.port) :: (str "user",source.username) ::
    (str "password",password) :: tls

def optionLine (option : Str × Str) : Str := option.1 ++ str "=" ++ mysqlOption option.2

/-- The option file of `_mysql`. -/
def mysqlConfig (options : List (Str × Str)) : Str :=
  str "[client]\n" ++ options.flatMap fun option => optionLine option ++ str "\n"

/-! ### SQL Server -/

def sqlIdentifier (value : Str) : Str := str "[" ++ replaceChar 93 (str "]]") value ++ str "]"

def sqlLiteral (value : Str) : Str := str "N'" ++ replaceChar 39 (str "''") value ++ str "'"

structure MSSQLStatements where
  backup : Str
  /-- Executed where the server does not compress. -/
  uncompressed : Str
  verify : Str

/-- The statements of `_mssql_backup`. -/
def mssqlStatements (source : DatabaseSource) : Except Failure MSSQLStatements :=
  match source.mssqlBackupPath with
  | none => .error (.pipeline "INVALID_PROFILE")
  | some path =>
      let backup := str "BACKUP DATABASE " ++ sqlIdentifier source.databaseName ++ str " TO DISK = " ++ sqlLiteral path ++
        str " WITH INIT, COPY_ONLY, CHECKSUM, COMPRESSION"
      .ok ⟨backup, removesuffix (str ", COMPRESSION") backup,
        str "RESTORE VERIFYONLY FROM DISK = " ++ sqlLiteral path ++ str " WITH CHECKSUM"⟩

/-! ### The password file, read back -/

section Pgpass

open Pgpass

/-- What a written value is read as: a star alone matches anything. -/
def asPattern (value : Str) : Pattern := if value = [wildcard] then .any else .literal value

theorem field_escape (value rest : Str) : field (pgpassEscape value ++ colon :: rest) = some (value,rest) := by
  induction value with
  | nil => exact field_colon rest
  | cons c more ih =>
    rw [pgpassEscape_cons,List.append_assoc]
    by_cases escaped : c = 92
    · rw [if_pos escaped,escaped]
      exact (field_escaped 92 (pgpassEscape more ++ colon :: rest)).trans (by rw [ih]; rfl)
    · rw [if_neg escaped]
      by_cases separator : c = 58
      · rw [if_pos separator,separator]
        exact (field_escaped 58 (pgpassEscape more ++ colon :: rest)).trans (by rw [ih]; rfl)
      · rw [if_neg separator,List.singleton_append,field_plain separator escaped,ih]
        rfl

theorem escape_star {value rest : Str} : (pgpassEscape value ++ colon :: rest).take 2 = [wildcard,colon] ↔ value = [wildcard] := by
  cases value with
  | nil => simp [pgpassEscape,colon,wildcard]
  | cons c more =>
    rw [pgpassEscape_cons]
    by_cases escaped : c = 92
    · simp [escaped,wildcard]
    · by_cases separator : c = 58
      · simp [separator,wildcard]
      · cases more with
        | nil => simp [escaped,separator,pgpassEscape,wildcard,colon]
        | cons d others =>
          rw [pgpassEscape_cons]
          split_ifs <;> simp_all [wildcard,colon]

theorem pattern_escape (value rest : Str) : pattern (pgpassEscape value ++ colon :: rest) = some (asPattern value,rest) := by
  rw [pattern,asPattern]
  by_cases alone : value = [wildcard]
  · rw [if_pos (escape_star.mpr alone),if_pos alone,alone]
    rfl
  · rw [if_neg (mt escape_star.mp alone),if_neg alone,field_escape]
    rfl

theorem password_escape (value : Str) : Pgpass.password (pgpassEscape value) = value := by
  induction value with
  | nil => rfl
  | cons c more ih =>
    rw [pgpassEscape_cons]
    by_cases escaped : c = 92
    · rw [if_pos escaped,escaped]
      exact (password_escaped 92 (pgpassEscape more)).trans (by rw [ih])
    · rw [if_neg escaped]
      by_cases separator : c = 58
      · rw [if_pos separator,separator]
        exact (password_escaped 58 (pgpassEscape more)).trans (by rw [ih])
      · rw [if_neg separator,List.singleton_append,password_plain separator escaped,ih]

theorem strInt_digits (n : ℤ) : ∀ c ∈ strInt n, c = 45 ∨ 48 ≤ c ∧ c ≤ 57 := by
  intro c member
  simp only [strInt,Json.dump] at member
  split_ifs at member
  · rcases List.mem_cons.mp member with rfl | digit
    · exact .inl rfl
    · exact .inr (dumpNat_digit _ c digit)
  · exact .inr (dumpNat_digit _ c member)

theorem strInt_escape (n : ℤ) : pgpassEscape (strInt n) = strInt n := by
  have kept : ∀ text : Str, (∀ c ∈ text, c = 45 ∨ 48 ≤ c ∧ c ≤ 57) → pgpassEscape text = text := by
    intro text plain
    induction text with
    | nil => rfl
    | cons c rest ih =>
      have here := plain c List.mem_cons_self
      rw [pgpassEscape_cons,ih fun d member => plain d (List.mem_cons_of_mem _ member),if_neg (by omega),if_neg (by omega)]
      rfl
  exact kept _ (strInt_digits n)

theorem strInt_ne_wildcard (n : ℤ) : strInt n ≠ [wildcard] := by
  intro same
  have digit := strInt_digits n wildcard (by rw [same]; exact List.mem_singleton_self _)
  simp [wildcard] at digit

def entryOf (source : DatabaseSource) (password : Str) : Pgpass.Entry :=
  ⟨.literal source.host,.literal (strInt source.port),.literal source.databaseName,.literal source.username,password⟩

/-- A number sign in front makes the line a comment, a star alone matches anything. -/
def Literal (source : DatabaseSource) : Prop :=
  source.host.head? ≠ some numberSign ∧ source.host ≠ [wildcard] ∧ source.databaseName ≠ [wildcard] ∧ source.username ≠ [wildcard]

theorem passfileLine_eq {source : DatabaseSource} {password line : Str} (accepted : passfileLine source password = .ok line) :
    line = pgpassEscape source.host ++ colon :: (pgpassEscape (strInt source.port) ++ colon ::
      (pgpassEscape source.databaseName ++ colon :: (pgpassEscape source.username ++ colon :: pgpassEscape password))) ∧
    ∀ c ∈ line, c ≠ newline ∧ c ≠ return_ := by
  simp only [passfileLine,bind_eq_ok,pure_eq_ok,pgpassField_eq_ok] at accepted
  obtain ⟨host,⟨hostSafe,rfl⟩,database,⟨databaseSafe,rfl⟩,username,⟨usernameSafe,rfl⟩,secret,⟨secretSafe,rfl⟩,rfl⟩ := accepted
  have safe : ∀ value : Str, (∀ c ∈ value, isUnsafe c = false) → ∀ c ∈ pgpassEscape value, c ≠ newline ∧ c ≠ return_ := by
    intro value all c member
    rw [pgpassEscape_eq,List.mem_flatMap] at member
    obtain ⟨d,inside,made⟩ := member
    have plain := all d inside
    simp only [isUnsafe,Bool.or_eq_false_iff,beq_eq_false_iff_ne] at plain
    split_ifs at made with first second
    · simp only [List.mem_cons,List.not_mem_nil,or_false,or_self] at made
      subst made
      exact ⟨by decide,by decide⟩
    · simp only [List.mem_cons,List.not_mem_nil,or_false] at made
      rcases made with rfl | rfl
      · exact ⟨by decide,by decide⟩
      · exact ⟨by decide,by decide⟩
    · obtain rfl := List.mem_singleton.mp made
      exact ⟨plain.1.1,plain.1.2⟩
  have port : ∀ c ∈ strInt source.port, c ≠ newline ∧ c ≠ return_ := by
    intro c member
    have digit := strInt_digits _ c member
    simp only [newline,return_]
    omega
  have separator : colon ≠ newline ∧ colon ≠ return_ := by decide
  have shape : List.intercalate (str ":") [pgpassEscape source.host,strInt source.port,pgpassEscape source.databaseName,
      pgpassEscape source.username,pgpassEscape password] = pgpassEscape source.host ++ colon :: (strInt source.port ++ colon ::
      (pgpassEscape source.databaseName ++ colon :: (pgpassEscape source.username ++ colon :: pgpassEscape password))) := by
    simp [List.intercalate,str,colon]
  rw [shape,strInt_escape]
  refine ⟨rfl,?_⟩
  intro c member
  simp only [List.mem_append,List.mem_cons] at member
  rcases member with here | rfl | here | rfl | here | rfl | here | rfl | here
  · exact safe _ hostSafe c here
  · exact separator
  · exact port c here
  · exact separator
  · exact safe _ databaseSafe c here
  · exact separator
  · exact safe _ usernameSafe c here
  · exact separator
  · exact safe _ secretSafe c here

theorem head_escape (value rest : Str) :
    (pgpassEscape value ++ colon :: rest).head? = some numberSign ↔ value.head? = some numberSign := by
  cases value with
  | nil => simp [pgpassEscape,colon,numberSign]
  | cons c more =>
    rw [pgpassEscape_cons]
    by_cases escaped : c = 92
    · simp [escaped,numberSign]
    · by_cases separator : c = 58
      · simp [separator,numberSign]
      · simp [escaped,separator]

theorem trimReturns_eq_self {line : Str} (plain : ∀ c ∈ line, c ≠ return_) : trimReturns line = line := by
  rw [trimReturns,PyText.dropWhile_eq_self_of_head,List.reverse_reverse]
  intro c head
  rw [List.head?_reverse] at head
  exact decide_eq_false (plain c (List.mem_of_getLast? head))

theorem asPattern_eq_literal {value : Str} : asPattern value = .literal value ↔ value ≠ [wildcard] := by
  rw [asPattern]
  split_ifs with alone
  · simp [alone]
  · simp [alone]

/-- The password file says what is meant exactly if its fields read as literals. -/
theorem pgpass_read_iff {source : DatabaseSource} {password line : Str} (accepted : passfileLine source password = .ok line) :
    Pgpass.read (line ++ str "\n") = [entryOf source password] ↔ Literal source := by
  obtain ⟨shape,plain⟩ := passfileLine_eq accepted
  have lines : (line ++ str "\n").splitOn newline = [line,[]] := by
    have apart : newline ∉ line := fun inside => (plain newline inside).1 rfl
    exact (List.splitOn_append_cons_self_of_not_mem apart []).trans (by simp)
  have whole : trimReturns line = line := trimReturns_eq_self fun c member => (plain c member).2
  have last : entry (trimReturns []) = none := rfl
  have port : asPattern (strInt source.port) = .literal (strInt source.port) := asPattern_eq_literal.mpr (strInt_ne_wildcard _)
  have read : entry line = if source.host.head? = some numberSign then none
      else some ⟨asPattern source.host,.literal (strInt source.port),asPattern source.databaseName,asPattern source.username,
        password⟩ := by
    rw [shape,entry]
    simp only [head_escape,pattern_escape,password_escape,port,Option.bind_eq_bind,Option.bind_some,Option.pure_def]
  rw [Pgpass.read,lines,List.filterMap_cons,List.filterMap_cons,List.filterMap_nil,last,whole,read,Literal]
  by_cases comment : source.host.head? = some numberSign
  · simp [comment]
  · rw [if_neg comment]
    simp only [entryOf,List.cons.injEq,and_true,Pgpass.Entry.mk.injEq,asPattern_eq_literal,true_and,ne_eq,comment,
      not_false_eq_true]

end Pgpass

/-! ### The option file, read back -/

section OptionFile

open OptionFile

/-- What the six replacements of `_mysql_option` make of one character. -/
def mysqlEscape (c : Nat) : Str :=
  if c = 92 then str "\\\\" else if c = 34 then str "\\\"" else if c = 0 then str "\\0" else if c = 10 then str "\\n"
  else if c = 13 then str "\\r" else if c = 9 then str "\\t" else [c]

theorem mysqlOption_eq (value : Str) : mysqlOption value = doubleQuote :: (value.flatMap mysqlEscape ++ [doubleQuote]) := by
  have escaped : replaceChar 9 (str "\\t") (replaceChar 13 (str "\\r") (replaceChar 10 (str "\\n") (replaceChar 0 (str "\\0")
      (replaceChar 34 (str "\\\"") (replaceChar 92 (str "\\\\") value))))) = value.flatMap mysqlEscape := by
    induction value with
    | nil => rfl
    | cons c rest ih =>
      rw [List.flatMap_cons,← ih,replaceChar_cons]
      simp only [replaceChar_append]
      congr 1
      unfold mysqlEscape
      split_ifs with a b c' d e f
      · rfl
      · subst b; rfl
      · subst c'; rfl
      · subst d; rfl
      · subst e; rfl
      · subst f; rfl
      · simp [replaceChar,b,c',d,e,f]
  simp only [mysqlOption,escaped]
  rfl

/-- An escape of two characters that reads back as the one, or the character itself. -/
theorem mysqlEscape_shape (c : Nat) :
    (∃ d, mysqlEscape c = [backslash,d] ∧ d ≠ newline ∧ (c ≠ 0 → escapes.lookup d = some c)) ∨
      mysqlEscape c = [c] ∧ c ≠ backslash ∧ c ≠ doubleQuote ∧ c ≠ newline := by
  unfold mysqlEscape
  split_ifs with a b c' d e f
  · exact .inl ⟨92,rfl,by decide,fun _ => by rw [a]; rfl⟩
  · exact .inl ⟨34,rfl,by decide,fun _ => by rw [b]; rfl⟩
  · exact .inl ⟨48,rfl,by decide,fun other => absurd c' other⟩
  · exact .inl ⟨110,rfl,by decide,fun _ => by rw [d]; rfl⟩
  · exact .inl ⟨114,rfl,by decide,fun _ => by rw [e]; rfl⟩
  · exact .inl ⟨116,rfl,by decide,fun _ => by rw [f]; rfl⟩
  · exact .inr ⟨rfl,a,b,d⟩

theorem dropComment_value (value rest : Str) : dropComment (some doubleQuote) false (value.flatMap mysqlEscape ++ rest) =
    value.flatMap mysqlEscape ++ dropComment (some doubleQuote) false rest := by
  induction value with
  | nil => rfl
  | cons c more ih =>
    rw [List.flatMap_cons,List.append_assoc,List.append_assoc]
    rcases mysqlEscape_shape c with ⟨d,two,_⟩ | ⟨one,slash,mark,_⟩
    · simp only [two,List.cons_append,List.nil_append]
      rw [dropComment_escaped (by decide),ih]
    · simp only [one,List.cons_append,List.nil_append]
      rw [dropComment_quoted mark slash,ih]

theorem unescape_value {value : Str} (noNul : 0 ∉ value) : unescape (value.flatMap mysqlEscape) = value := by
  induction value with
  | nil => rfl
  | cons c more ih =>
    rw [List.mem_cons,not_or] at noNul
    rw [List.flatMap_cons]
    rcases mysqlEscape_shape c with ⟨d,two,_,known⟩ | ⟨one,slash,_⟩
    · simp only [two,List.cons_append,List.nil_append]
      rw [unescape_escaped (known (Ne.symm noNul.1)),ih noNul.2]
    · simp only [one,List.cons_append,List.nil_append]
      rw [unescape_plain slash,ih noNul.2]

theorem newline_value (value : Str) : newline ∉ value.flatMap mysqlEscape := by
  intro inside
  obtain ⟨c,_,made⟩ := List.mem_flatMap.mp inside
  rcases mysqlEscape_shape c with ⟨d,two,other,_⟩ | ⟨one,_,_,other⟩
  · rw [two] at made
    rcases List.mem_cons.mp made with slash | made
    · exact absurd slash (by decide)
    · exact other (List.mem_singleton.mp made).symm
  · rw [one] at made
    exact other (List.mem_singleton.mp made).symm

structure IsKey (key : Str) : Prop where
  nonempty : key ≠ []
  plain : ∀ c ∈ key, 97 ≤ c ∧ c ≤ 122 ∨ c = 45

theorem IsKey.bare {key : Str} (isKey : IsKey key) {c : Nat} (member : c ∈ key) :
    isBlank c = false ∧ isQuote c = false ∧ c ≠ numberSign ∧ c ≠ semicolon ∧ c ≠ exclamation ∧ c ≠ openBracket ∧
      c ≠ equals ∧ c ≠ newline := by
  have range := isKey.plain c member
  have blank : isBlank c = false := by
    simp only [isBlank,Bool.or_eq_false_iff,decide_eq_false_iff_not]
    omega
  have quote : isQuote c = false := by
    have first : c ≠ doubleQuote := by simp only [doubleQuote]; omega
    have second : c ≠ apostrophe := by simp only [apostrophe]; omega
    simp [isQuote,first,second]
  refine ⟨blank,quote,?_⟩
  simp only [numberSign,semicolon,exclamation,openBracket,equals,newline]
  omega

theorem dropComment_key {key : Str} (isKey : IsKey key) (rest : Str) :
    dropComment none false (key ++ equals :: doubleQuote :: rest) =
      key ++ equals :: doubleQuote :: dropComment (some doubleQuote) false rest := by
  have whole : ∀ text : Str, (∀ c ∈ text, c ∈ key) → dropComment none false (text ++ equals :: doubleQuote :: rest) =
      text ++ equals :: doubleQuote :: dropComment (some doubleQuote) false rest := by
    intro text part
    induction text with
    | nil =>
      rw [List.nil_append,dropComment_plain (by decide) (by decide),dropComment_open (by decide)]
      rfl
    | cons c more ih =>
      obtain ⟨_,bare,kept,_⟩ := isKey.bare (part c List.mem_cons_self)
      rw [List.cons_append,dropComment_plain bare kept,ih fun d member => part d (List.mem_cons_of_mem _ member)]
      rfl
  exact whole key fun _ member => member

theorem trimRight_eq_self {text : Str} (solid : ∀ c, text.getLast? = some c → isBlank c = false) : trimRight text = text := by
  rw [trimRight,PyText.dropWhile_eq_self_of_head,List.reverse_reverse]
  intro c head
  exact solid c (by rwa [List.head?_reverse] at head)

theorem optionLine_eq (key value : Str) :
    optionLine (key,value) = key ++ equals :: doubleQuote :: (value.flatMap mysqlEscape ++ [doubleQuote]) := by
  rw [optionLine,mysqlOption_eq,List.append_assoc]
  rfl

/-- One line is read as the one option that was written. -/
theorem readLine_option {key value : Str} (isKey : IsKey key) (noNul : 0 ∉ value) :
    readLine (optionLine (key,value)) = .option key (some value) := by
  have kept : dropComment none false (optionLine (key,value)) = optionLine (key,value) := by
    rw [optionLine_eq,dropComment_key isKey,dropComment_value,dropComment_close (by decide)]
  have front : ∀ rest : Str, (key ++ equals :: rest).takeWhile (· ≠ equals) = key ∧
      (key ++ equals :: rest).dropWhile (· ≠ equals) = equals :: rest := by
    intro rest
    have all : ∀ c ∈ key, decide (c ≠ equals) = true := fun c member => decide_eq_true (isKey.bare member).2.2.2.2.2.2.1
    constructor
    · rw [List.takeWhile_append_of_pos all]
      simp
    · rw [List.dropWhile_append_of_pos all]
      simp
  have last : trimRight key = key := trimRight_eq_self fun c here => (isKey.bare (List.mem_of_getLast? here)).1
  have quoted : unquote (trimRight ((doubleQuote :: (value.flatMap mysqlEscape ++ [doubleQuote])).dropWhile isBlank)) =
      value.flatMap mysqlEscape := by
    rw [List.dropWhile_cons_of_neg (by decide),trimRight_eq_self]
    · simp [unquote,isQuote]
    · intro c here
      have mark : c = doubleQuote := by
        rw [← List.cons_append,List.getLast?_append_of_ne_nil _ (by simp)] at here
        simpa using here.symm
      rw [mark]
      rfl
  have option : readOption (optionLine (key,value)) = .option key (some value) := by
    rw [readOption,kept,optionLine_eq]
    simp only [(front _).1,(front _).2,last,quoted,unescape_value noNul]
  obtain ⟨c,more,rfl⟩ := List.exists_cons_of_ne_nil isKey.nonempty
  obtain ⟨solid,_,sign,semi,mark,bracket,_⟩ := @IsKey.bare (c :: more) isKey c List.mem_cons_self
  rw [readLine]
  have begins : (optionLine (c :: more,value)).dropWhile isBlank = optionLine (c :: more,value) := by
    rw [optionLine_eq,List.cons_append,List.dropWhile_cons_of_neg (by simp [solid])]
  rw [begins]
  rw [optionLine_eq,List.cons_append] at option ⊢
  simp only [sign,semi,mark,bracket,or_self,if_false]
  exact option

theorem newline_optionLine {key : Str} (isKey : IsKey key) (value : Str) : newline ∉ optionLine (key,value) := by
  rw [optionLine_eq]
  intro inside
  simp only [List.mem_append,List.mem_cons,List.not_mem_nil,or_false] at inside
  rcases inside with name | sign | mark | text | mark
  · exact (isKey.bare name).2.2.2.2.2.2.2 rfl
  · exact absurd sign (by decide)
  · exact absurd mark (by decide)
  · exact newline_value value text
  · exact absurd mark (by decide)

theorem splitOn_line {line : Str} (apart : newline ∉ line) (rest : Str) :
    (line ++ (str "\n" ++ rest)).splitOn newline = line :: rest.splitOn newline :=
  List.splitOn_append_cons_self_of_not_mem apart rest

/-- The whole file is one group with the options that were written. -/
theorem mysqlConfig_read {options : List (Str × Str)} (keys : ∀ option ∈ options, IsKey option.1)
    (noNul : ∀ option ∈ options, 0 ∉ option.2) :
    OptionFile.read (mysqlConfig options) =
      .group (str "client") :: options.map fun option => .option option.1 (some option.2) := by
  have lines : ∀ options : List (Str × Str), (∀ option ∈ options, IsKey option.1) →
      (options.flatMap fun option => optionLine option ++ str "\n").splitOn newline = options.map optionLine ++ [[]] := by
    intro options keys
    induction options with
    | nil => simp
    | cons option rest ih =>
      have apart : newline ∉ optionLine option := newline_optionLine (keys option List.mem_cons_self) option.2
      rw [List.flatMap_cons,List.append_assoc,splitOn_line apart,ih fun other member => keys other (List.mem_cons_of_mem _ member)]
      rfl
  have first : (mysqlConfig options).splitOn newline = str "[client]" :: (options.map optionLine ++ [[]]) := by
    have header : str "[client]\n" = str "[client]" ++ str "\n" := by decide
    have apart : newline ∉ str "[client]" := by decide
    rw [mysqlConfig,header,List.append_assoc,splitOn_line apart,lines options keys]
  have group : readLine (str "[client]") = .group (str "client") := by decide
  have each : (options.map optionLine).map readLine = options.map fun option => .option option.1 (some option.2) := by
    rw [List.map_map]
    apply List.map_congr_left
    intro option member
    exact readLine_option (keys option member) (noNul option member)
  rw [OptionFile.read,first,List.map_cons,List.map_append,each,group]
  have skipped : ([[]] : List Str).map readLine = [.skipped] := rfl
  have kept : (options.map fun option => Line.option option.1 (some option.2)).filter (· ≠ .skipped) =
      options.map fun option => Line.option option.1 (some option.2) := by
    rw [List.filter_eq_self]
    intro line member
    obtain ⟨option,_,rfl⟩ := List.mem_map.mp member
    rfl
  rw [skipped,List.filter_cons_of_pos rfl,List.filter_append,kept]
  simp

theorem isKey_of_all {key : Str} (nonempty : key ≠ []) (plain : key.all (fun c => decide (97 ≤ c ∧ c ≤ 122 ∨ c = 45)) = true) :
    IsKey key := ⟨nonempty,fun c member => of_decide_eq_true (List.all_eq_true.mp plain c member)⟩

theorem mysqlTlsOptions_keys {flavor : MySQLDumpFlavor} {mode : TLSMode} {caFile : Option Str} {options : List (Str × Str)}
    (accepted : mysqlTlsOptions flavor mode caFile = .ok options) : ∀ option ∈ options, IsKey option.1 := by
  have sslMode : IsKey (str "ssl-mode") := isKey_of_all (by decide) (by decide)
  have sslCa : IsKey (str "ssl-ca") := isKey_of_all (by decide) (by decide)
  have ssl : IsKey (str "ssl") := isKey_of_all (by decide) (by decide)
  have verify : IsKey (str "ssl-verify-server-cert") := isKey_of_all (by decide) (by decide)
  unfold mysqlTlsOptions at accepted
  split_ifs at accepted
  cases flavor with
  | mysql =>
    obtain rfl := Except.ok.inj accepted
    cases caFile <;> simp [sslMode,sslCa]
  | mariadb => cases mode <;> · obtain rfl := Except.ok.inj accepted; simp [sslCa,ssl,verify]

theorem mysqlOptions_keys {source : DatabaseSource} {password : Str} {flavor : MySQLDumpFlavor} {caFile : Option Str}
    {options : List (Str × Str)} (accepted : mysqlOptions source password flavor caFile = .ok options) :
    ∀ option ∈ options, IsKey option.1 := by
  have host : IsKey (str "host") := isKey_of_all (by decide) (by decide)
  have port : IsKey (str "port") := isKey_of_all (by decide) (by decide)
  have user : IsKey (str "user") := isKey_of_all (by decide) (by decide)
  have secret : IsKey (str "password") := isKey_of_all (by decide) (by decide)
  simp only [mysqlOptions,bind_eq_ok,pure_eq_ok] at accepted
  obtain ⟨tls,given,rfl⟩ := accepted
  intro option member
  simp only [List.mem_cons] at member
  rcases member with rfl | rfl | rfl | rfl | later
  · exact host
  · exact port
  · exact user
  · exact secret
  · exact mysqlTlsOptions_keys given option later

end OptionFile

/-! ### The statements, read back -/

section TransactSql

open TransactSql

variable {loneReturn : Bool}

/-- A text whose closing marks are doubled stays within its marks. -/
theorem step_doubled {closing : Nat} {state : Str → State} {tokens : List Token}
    (plain : ∀ text c, c ≠ closing → step loneReturn (state text,tokens) c = (state (text ++ [c]),tokens))
    (doubled : ∀ text, [closing,closing].foldl (step loneReturn) (state text,tokens) = (state (text ++ [closing]),tokens))
    (value text : Str) :
    (replaceChar closing [closing,closing] value).foldl (step loneReturn) (state text,tokens) = (state (text ++ value),tokens) := by
  induction value generalizing text with
  | nil => simp
  | cons c more ih =>
    rw [replaceChar_cons,List.foldl_append]
    by_cases mark : c = closing
    · subst mark
      rw [if_pos rfl,doubled,ih]
      simp
    · have one : [c].foldl (step loneReturn) (state text,tokens) = (state (text ++ [c]),tokens) := plain text c mark
      rw [if_neg mark,one,ih]
      simp

theorem step_bracketed (name text : Str) (tokens : List Token) :
    (replaceChar 93 (str "]]") name).foldl (step loneReturn) (.bracketed text,tokens) = (.bracketed (text ++ name),tokens) :=
  @step_doubled loneReturn 93 .bracketed tokens (fun _ _ mark => if_neg mark) (fun _ => rfl) name text

theorem step_literal (path text : Str) (tokens : List Token) :
    (replaceChar 39 (str "''") path).foldl (step loneReturn) (.literal true text,tokens) = (.literal true (text ++ path),tokens) :=
  @step_doubled loneReturn 39 (.literal true) tokens (fun _ _ mark => if_neg mark) (fun _ => rfl) path text

def word (text : String) : Token := .word (str text)

def backupTokens (name path : Str) : List Token :=
  [word "BACKUP",word "DATABASE",.bracketed name,word "TO",word "DISK",.symbol 61,.literal true path,word "WITH",word "INIT",
    .symbol 44,word "COPY_ONLY",.symbol 44,word "CHECKSUM"]

def verifyTokens (path : Str) : List Token :=
  [word "RESTORE",word "VERIFYONLY",word "FROM",word "DISK",.symbol 61,.literal true path,word "WITH",word "CHECKSUM"]

/-- What the texts between the values leave open and complete. -/
theorem lex_backup (name path back : Str) :
    (str "BACKUP DATABASE " ++ sqlIdentifier name ++ str " TO DISK = " ++ sqlLiteral path ++ back).foldl (step loneReturn) (.between,[]) =
      back.foldl (step loneReturn) (.literalEnd true path,
        [word "BACKUP",word "DATABASE",.bracketed name,word "TO",word "DISK",.symbol 61]) := by
  have front : (str "BACKUP DATABASE [").foldl (step loneReturn) (.between,[]) = (.bracketed [],[word "BACKUP",word "DATABASE"]) := rfl
  have middle : (str "] TO DISK = N'").foldl (step loneReturn) (.bracketed name,[word "BACKUP",word "DATABASE"]) =
      (.literal true [],[word "BACKUP",word "DATABASE",.bracketed name,word "TO",word "DISK",.symbol 61]) := rfl
  have parts : str "BACKUP DATABASE " ++ sqlIdentifier name ++ str " TO DISK = " ++ sqlLiteral path ++ back =
      str "BACKUP DATABASE [" ++ replaceChar 93 (str "]]") name ++ str "] TO DISK = N'" ++
        replaceChar 39 (str "''") path ++ (39 :: back) := by
    simp [sqlIdentifier,sqlLiteral,str]
  rw [parts,List.foldl_append,List.foldl_append,List.foldl_append,List.foldl_append,front,step_bracketed,
    List.nil_append,middle,step_literal,List.nil_append]
  rfl

theorem lex_verify (path : Str) :
    lex loneReturn (str "RESTORE VERIFYONLY FROM DISK = " ++ sqlLiteral path ++ str " WITH CHECKSUM") = some (verifyTokens (joinLines loneReturn 0 path)) := by
  have front : (str "RESTORE VERIFYONLY FROM DISK = N'").foldl (step loneReturn) (.between,[]) =
      (.literal true [],[word "RESTORE",word "VERIFYONLY",word "FROM",word "DISK",.symbol 61]) := rfl
  have parts : str "RESTORE VERIFYONLY FROM DISK = " ++ sqlLiteral path ++ str " WITH CHECKSUM" =
      str "RESTORE VERIFYONLY FROM DISK = N'" ++ replaceChar 39 (str "''") path ++ str "' WITH CHECKSUM" := by
    simp [sqlLiteral,str]
  rw [lex,parts,List.foldl_append,List.foldl_append,front,step_literal,List.nil_append]
  rfl

/-- The three statements are these tokens, with the name as one identifier and the path, without its
continuations, as one literal. -/
theorem mssqlStatements_lex {source : DatabaseSource} {statements : MSSQLStatements}
    (accepted : mssqlStatements source = .ok statements) : ∃ path, source.mssqlBackupPath = some path ∧
    lex loneReturn statements.backup =
      some (backupTokens source.databaseName (joinLines loneReturn 0 path) ++ [.symbol 44,word "COMPRESSION"]) ∧
    lex loneReturn statements.uncompressed = some (backupTokens source.databaseName (joinLines loneReturn 0 path)) ∧
    lex loneReturn statements.verify = some (verifyTokens (joinLines loneReturn 0 path)) := by
  unfold mssqlStatements at accepted
  cases given : source.mssqlBackupPath with
  | none => simp [given] at accepted
  | some path =>
    simp only [given] at accepted
    obtain rfl := Except.ok.inj accepted
    refine ⟨path,rfl,?_,?_,lex_verify path⟩
    · rw [lex,lex_backup]
      rfl
    · have shorter : removesuffix (str ", COMPRESSION") (str "BACKUP DATABASE " ++ sqlIdentifier source.databaseName ++
          str " TO DISK = " ++ sqlLiteral path ++ str " WITH INIT, COPY_ONLY, CHECKSUM, COMPRESSION") =
          str "BACKUP DATABASE " ++ sqlIdentifier source.databaseName ++ str " TO DISK = " ++ sqlLiteral path ++
            str " WITH INIT, COPY_ONLY, CHECKSUM" := by
        have split : str " WITH INIT, COPY_ONLY, CHECKSUM, COMPRESSION" =
            str " WITH INIT, COPY_ONLY, CHECKSUM" ++ str ", COMPRESSION" := by decide
        rw [split,← List.append_assoc,removesuffix_append]
      simp only [shorter]
      rw [lex,lex_backup]
      rfl

theorem backupTokens_values (name path : Str) : (backupTokens name path).filterMap Token.identifier? = [name] ∧
    (backupTokens name path).filterMap Token.literal? = [path] := ⟨rfl,rfl⟩

end TransactSql

/-! ### All three -/

section Faithful

open TransactSql

variable (loneReturn : Bool)

/-- A statement has one bracketed identifier and one literal, and they are the name and the path. -/
structure Names (statement name path : Str) : Prop where
  tokens : ∃ tokens, lex loneReturn statement = some tokens ∧ tokens.filterMap Token.identifier? = [name] ∧
    tokens.filterMap Token.literal? = [path]

structure StatementsFaithful (source : DatabaseSource) (statements : MSSQLStatements) (path : Str) : Prop where
  given : source.mssqlBackupPath = some path
  backup : Names loneReturn statements.backup source.databaseName path
  uncompressed : Names loneReturn statements.uncompressed source.databaseName path
  verify : lex loneReturn statements.verify = some (verifyTokens path)

def Unbroken (source : DatabaseSource) : Prop := ∀ path, source.mssqlBackupPath = some path → ¬Continued loneReturn path

variable {loneReturn}

theorem statements_faithful_iff {source : DatabaseSource} {statements : MSSQLStatements}
    (accepted : mssqlStatements source = .ok statements) :
    (∃ path, StatementsFaithful loneReturn source statements path) ↔ Unbroken loneReturn source := by
  obtain ⟨path,given,backup,uncompressed,verify⟩ := @mssqlStatements_lex loneReturn source statements accepted
  constructor
  · rintro ⟨path',faithful⟩ other given'
    obtain rfl := Option.some.inj (faithful.given.symm.trans given')
    obtain rfl := Option.some.inj (given.symm.trans given')
    have same := Option.some.inj (verify.symm.trans faithful.verify)
    have literal := congrArg (List.filterMap Token.literal?) same
    exact joinLines_eq_self_iff.mp (List.singleton_inj.mp literal)
  · intro unbroken
    rw [joinLines_eq_self_iff.mpr (unbroken path given)] at backup uncompressed verify
    exact ⟨path,given,⟨_,backup,rfl,rfl⟩,⟨_,uncompressed,backupTokens_values _ _⟩,verify⟩

/-- What was written comes back in all three formats, exactly if the fields of the password
file read as literals and the path of the backup is not continued on another line. -/
theorem encoders_faithful_iff {pg my ms : DatabaseSource} {password secret line : Str} {flavor : MySQLDumpFlavor}
    {caFile : Option Str} {options : List (Str × Str)} {statements : MSSQLStatements}
    (pgAccepted : passfileLine pg password = .ok line) (myAccepted : mysqlOptions my secret flavor caFile = .ok options)
    (noNul : ∀ option ∈ options, 0 ∉ option.2) (msAccepted : mssqlStatements ms = .ok statements) :
    (Pgpass.read (line ++ str "\n") = [entryOf pg password] ∧
      (∀ option ∈ options, OptionFile.readLine (optionLine option) = .option option.1 (some option.2)) ∧
      OptionFile.read (mysqlConfig options) =
        .group (str "client") :: options.map (fun option => .option option.1 (some option.2)) ∧
      ∃ path, StatementsFaithful loneReturn ms statements path) ↔ Literal pg ∧ Unbroken loneReturn ms := by
  have keys := mysqlOptions_keys myAccepted
  rw [pgpass_read_iff pgAccepted,statements_faithful_iff msAccepted]
  refine and_congr_right fun _ => ?_
  rw [← and_assoc]
  refine and_iff_right ⟨?_,mysqlConfig_read keys noNul⟩
  intro option member
  exact readLine_option (keys option member) (noNul option member)

/-- A source with quotation marks, brackets, backslashes and line breaks where they are allowed. -/
def awkward : DatabaseSource where
  engine := .mssql
  host := str "db"
  port := 5432
  databaseName := str "a]b:c\\"
  username := str "o'neil"
  encryptedPassword := []
  tlsMode := .disabled
  tlsCaCertificate := none
  mssqlInDocker := false
  mssqlBackupPath := some (str "/b/o'x\\y\nz.bak")
  mssqlHostBackupPath := none
  artifactRemoteServerId := none

theorem encoders_faithful_awkward : ∃ line options statements,
    Pgpass.read (line ++ str "\n") = [entryOf awkward (str "p:w")] ∧
    (∀ option ∈ options, OptionFile.readLine (optionLine option) = .option option.1 (some option.2)) ∧
    OptionFile.read (mysqlConfig options) =
      .group (str "client") :: options.map (fun option => .option option.1 (some option.2)) ∧
    ∃ path, StatementsFaithful true awkward statements path := by
  refine ⟨_,_,_,(@encoders_faithful_iff true awkward awkward awkward (str "p:w") (str "#\"\n") _ .mysql none _ _ rfl rfl
    (by decide) rfl).mpr ⟨by unfold Literal; decide,?_⟩⟩
  intro path given
  obtain rfl := Option.some.inj given
  decide

/-- A profile whose database is called `*` is accepted, and its line matches every database; so is
one with a continued path, and its statements name another file. -/
theorem credentials_misread :
    ((DatabaseConfig.validate ⟨.postgresql,str "db",5432,str "*",str "u",some (str "p"),.disabled,none,false,none,none,none⟩
      false).isOk = true ∧
    ∃ line, passfileLine { awkward with databaseName := str "*" } (str "p") = .ok line ∧
      Pgpass.read (line ++ str "\n") = [⟨.literal (str "db"),.literal (str "5432"),.any,.literal (str "o'neil"),str "p"⟩] ∧
      Pgpass.read (line ++ str "\n") ≠ [entryOf { awkward with databaseName := str "*" } (str "p")]) ∧
    (DatabaseConfig.validate ⟨.mssql,str "db",1433,str "app",str "u",some (str "p"),.disabled,none,false,
      some (str "/b/x\\\ny.bak"),none,none⟩ false).isOk = true ∧
    ∃ statements, mssqlStatements { awkward with mssqlBackupPath := some (str "/b/x\\\ny.bak") } = .ok statements ∧
      TransactSql.lex false statements.verify = some (verifyTokens (str "/b/xy.bak")) := by
  refine ⟨⟨by decide +kernel,_,rfl,by decide +kernel,by decide +kernel⟩,by decide +kernel,_,rfl,by decide +kernel⟩

end Faithful

end BackupTelebot.Credentials
