import BackupTelebot.PathAgreement
import BackupTelebot.JsonRoundTrip

/-! The two ends of the socket over which the bot lets the worker check a local source:
what each writes, and what it makes of the other's line. Both write ASCII only, so a line is
its own decoding. -/
namespace BackupTelebot.LocalSourceValidation

open PyJson Config

def maxMessageBytes : Nat := 4096
def maxConcurrentRequests : Nat := 4

def invalidReasons : List String :=
  ["invalid_path","outside_configured_roots","container_escape","denied_root","root_not_allowed",
    "invalid_configuration","unavailable","unsafe_object","symlink_escape","source_changed","invalid_request"]

def newline : Nat := 10

/-- `set(fields) == keys`. -/
def hasKeys (fields : List (Str × Json)) (keys : List Str) : Bool :=
  fields.all (fun field => keys.contains field.1) && keys.all fun key => (lookup key fields).isSome

/-- Only lexical confinement is checked. -/
def normalizeWorkerPath (m : LocalSourcePathMapper) (raw : Str) : Except LocalSourcePathError Str :=
  m.validateContainerPath raw

def request (path : Str) : Str :=
  dumpInOrder [32] [(str "operation",.str (str "validate_local_source")),(str "path",.str path)] ++ [newline]

/-- The path that `validate_local_source` asks the worker about. -/
def askedPath (m : LocalSourcePathMapper) (raw : Str) : Except LocalSourcePathError Str := do
  let path ← normalizeWorkerPath m raw
  refuse (decide (maxMessageBytes < (request path).length)) ⟨"invalid_path","local source path is too long"⟩
  return path

inductive RequestError where
  | invalidRequest
  | recursion
  | rejected (error : LocalSourcePathError)
  deriving DecidableEq

def namedPath : Json → Option Str
  | .obj fields =>
      if hasKeys fields [str "operation",str "path"] &&
          (lookup (str "operation") fields).any (fun value => value.eqStr (str "validate_local_source")) then
        (lookup (str "path") fields).bind Json.asStr
      else none
  | _ => none

def requestPath (m : LocalSourcePathMapper) (depth : Nat) (raw : Str) : Except RequestError Str :=
  if raw = [] ∨ maxMessageBytes < raw.length ∨ raw.getLast? ≠ some newline then .error .invalidRequest
  else match loads depth raw with
    | .error .recursion => .error .recursion
    | .error _ => .error .invalidRequest
    | .ok document =>
      match namedPath document with
      | none => .error .invalidRequest
      | some path => (normalizeWorkerPath m path).mapError .rejected

inductive Kind where
  | file
  | directory
  deriving DecidableEq

def Kind.text : Kind → Str
  | .file => str "file"
  | .directory => str "directory"

inductive Response where
  | accepted (path : Str) (kind : Kind)
  | rejected (reason : String)
  deriving DecidableEq

def Response.fields : Response → List (Str × Json)
  | .accepted path kind => [(str "valid",.bool true),(str "path",.str path),(str "type",.str kind.text)]
  | .rejected reason => [(str "valid",.bool false),(str "reason",.str (str reason))]

def Response.line (response : Response) : Str := dumpInOrder [] response.fields ++ [newline]

/-- No verdict: the handler ran out of time, all four checks are taken, or one failed oddly. -/
def serviceUnavailable : Response := .rejected "service_unavailable"

/-- How `preflight_local_source` ends; a `PipelineError` may carry a reason. -/
inductive Preflight where
  | found (kind : Kind)
  | pipelineError (reason : Option String)
  | osOrValueError
  | otherError
  deriving DecidableEq

/-- `_validate`, and what the handler answers when it raises. -/
def validated (path : Str) : Preflight → Response
  | .found kind => .accepted path kind
  | .pipelineError reason =>
      .rejected ((reason.filter fun reason => invalidReasons.contains reason).getD "source_changed")
  | .osOrValueError => .rejected "unavailable"
  | .otherError => serviceUnavailable

def RequestError.response : RequestError → Response
  | .invalidRequest => .rejected "invalid_request"
  | .recursion => serviceUnavailable
  | .rejected error => .rejected error.reason

/-- What a call comes to: the path, `LocalSourcePathError` or `LocalValidationUnavailable`. -/
inductive Verdict where
  | valid (path : Str)
  | invalid (reason : String)
  | unavailable
  deriving DecidableEq

def knownReason (value : Json) : Option String := invalidReasons.find? fun reason => value.eqStr (str reason)

def readResponse (path : Str) : Json → Verdict
  | .obj fields =>
    match lookup (str "valid") fields with
    | some (.bool true) =>
        if hasKeys fields [str "valid",str "path",str "type"] &&
            (lookup (str "path") fields).any (fun value => value.eqStr path) &&
            (lookup (str "type") fields).any (fun value => value.eqStr Kind.file.text || value.eqStr Kind.directory.text) then
          .valid path
        else .unavailable
    | some (.bool false) =>
        if hasKeys fields [str "valid",str "reason"] then
          (((lookup (str "reason") fields).bind knownReason).map Verdict.invalid).getD .unavailable
        else .unavailable
    | _ => .unavailable
  | _ => .unavailable

def readReply (depth : Nat) (path reply : Str) : Verdict :=
  if reply.getLast? ≠ some newline ∨ maxMessageBytes < reply.length then .unavailable
  else match loads depth reply with
    | .ok document => readResponse path document
    | .error _ => .unavailable

def Response.verdict : Response → Verdict
  | .accepted path _ => .valid path
  | .rejected reason => if reason = "service_unavailable" then .unavailable else .invalid reason

section Paths

variable {m : LocalSourcePathMapper}

/-- What `validate_absolute_path` asks of a stripped text. -/
structure Acceptable (text : Str) : Prop where
  absolute : text.head? = some PurePosix.slash
  level : (PurePosix.parse text).climbs = false
  noNul : 0 ∉ text
  short : text.length ≤ 1024

theorem sourcePath_iff {value : Str} {path : PurePosix.Path} : sourcePath false value = .ok path ↔
    Acceptable (PyText.strip value) ∧ path = PurePosix.parse (PyText.strip value) := by
  constructor
  · intro read
    cases checked : validateAbsolutePath value with
    | error e => simp [sourcePath,checked] at read
    | ok clean =>
      obtain ⟨absolute,level,noNul,short⟩ := (validateAbsolutePath_ok.mp checked).1
      exact ⟨⟨absolute,level,noNul,short⟩,(sourcePath_ok read).1⟩
  · intro ⟨good,same⟩
    have checked := validateAbsolutePath_ok.mpr ⟨⟨good.absolute,good.level,good.noNul,good.short⟩,rfl⟩
    have back := PurePosix.parse_text (PurePosix.parse_normal (PyText.strip value))
      (PurePosix.isAbsolute_parse.mpr good.absolute)
    simp only [sourcePath,checked,back,Bool.false_and,Bool.false_eq_true,if_false,same]

theorem normalizeWorkerPath_iff {raw path : Str} : normalizeWorkerPath m raw = .ok path ↔
    Acceptable (PyText.strip raw) ∧ path = (PurePosix.parse (PyText.strip raw)).text ∧
      ∃ c, m.configuration = .ok c ∧ c.confines (PurePosix.parse (PyText.strip raw)) = true := by
  constructor
  · intro normal
    have configured : ∃ c, m.configuration = .ok c := by
      simp only [normalizeWorkerPath,LocalSourcePathMapper.validateContainerPath,bind_eq_ok] at normal
      obtain ⟨_,_,c,configured,_⟩ := normal
      exact ⟨c,configured⟩
    obtain ⟨c,configured⟩ := configured
    obtain ⟨q,read,confined,rfl⟩ := (validateContainerPath_ok configured).mp normal
    obtain ⟨good,rfl⟩ := sourcePath_iff.mp read
    exact ⟨good,rfl,c,configured,confined⟩
  · intro ⟨good,same,c,configured,confined⟩
    exact (validateContainerPath_ok configured).mpr ⟨_,sourcePath_iff.mpr ⟨good,rfl⟩,confined,same⟩

/-- A normalized path is the text it was read from with some characters left out. -/
theorem normalizeWorkerPath_sublist {raw path : Str} (normal : normalizeWorkerPath m raw = .ok path) :
    path.Sublist (PyText.strip raw) := by
  obtain ⟨good,rfl,_⟩ := normalizeWorkerPath_iff.mp normal
  exact PurePosix.text_parse_sublist (PurePosix.isAbsolute_parse.mpr good.absolute)

/-- The check strips first, so it is repeatable only where nothing is left to strip. -/
theorem normalizeWorkerPath_again {raw path : Str} (normal : normalizeWorkerPath m raw = .ok path) :
    normalizeWorkerPath m path = .ok path ↔ PyText.strip path = path := by
  constructor
  · intro again
    have kept := normalizeWorkerPath_sublist again
    exact (PyText.strip_sublist path).eq_of_length_le kept.length_le
  · intro stripped
    obtain ⟨good,same,c,configured,confined⟩ := normalizeWorkerPath_iff.mp normal
    have fewer := normalizeWorkerPath_sublist normal
    have absolute := PurePosix.isAbsolute_parse.mpr good.absolute
    have back : PurePosix.parse path = PurePosix.parse (PyText.strip raw) := by
      rw [same,PurePosix.parse_text (PurePosix.parse_normal _) absolute]
    apply normalizeWorkerPath_iff.mpr
    rw [stripped,back]
    refine ⟨⟨?_,?_,?_,?_⟩,same,c,configured,confined⟩
    · rw [same]
      exact PurePosix.head_text absolute
    · rw [back]
      exact good.level
    · exact fun nul => good.noNul (fewer.mem nul)
    · exact fewer.length_le.trans good.short

end Paths

/-- A path that the worker's own reading of the request leaves as it is: nothing to strip, and
no pair of surrogates to join. -/
structure Plain (path : Str) : Prop where
  stripped : PyText.strip path = path
  unpaired : joinPairs path = path

instance (path : Str) : Decidable (Plain path) :=
  decidable_of_iff (PyText.strip path = path ∧ joinPairs path = path)
    ⟨fun both => ⟨both.1,both.2⟩,fun plain => ⟨plain.stripped,plain.unpaired⟩⟩

theorem request_joinPairs (path : Str) : request (joinPairs path) = request path := by
  simp only [request,dumpInOrder,List.map_cons,List.map_nil,memberGap,Json.dumpGap,dumpStr_joinPairs]

theorem getLast?_request (path : Str) : (request path).getLast? = some newline := by
  rw [request,List.getLast?_append_of_ne_nil _ (by simp)]
  rfl

theorem loads_request {path : Str} (ok : StrOk path) (depth : Nat) : loads (depth + 1) (request path) =
    .ok (.obj [(str "operation",.str (str "validate_local_source")),(str "path",.str path)]) := by
  have word (text : Str) (ascii : ∀ c ∈ text, c ≤ 0x7F) : StrOk text := strOk_of_ascii ascii
  have read := @loads_dumpInOrder [32] (by decide)
    [(str "operation",.str (str "validate_local_source")),(str "path",.str path)] depth [newline] (by simp [str])
    (by simp [Json.Encodable,ok,word (str "operation") (by decide),word (str "path") (by decide),
      word (str "validate_local_source") (by decide)])
    (by simp [Json.depth]) rfl
  simpa [request] using read

theorem namedPath_request (path : Str) :
    namedPath (.obj [(str "operation",.str (str "validate_local_source")),(str "path",.str path)]) = some path := by
  simp [namedPath,hasKeys,str,Json.eqStr,Json.asStr]

/-- The worker reads a request within the limit as the path with its pairs joined, and checks that. -/
theorem requestPath_request (m : LocalSourcePathMapper) (depth : Nat) {path : Str} (codes : ∀ c ∈ path, c < 0x110000)
    (fits : (request path).length ≤ maxMessageBytes) : requestPath m (depth + 1) (request path) =
      (normalizeWorkerPath m (joinPairs path)).mapError .rejected := by
  have line : ¬(request path = [] ∨ maxMessageBytes < (request path).length ∨
      (request path).getLast? ≠ some newline) := by
    have last := getLast?_request path
    rintro (empty | long | open_)
    · simp [empty] at last
    · omega
    · exact open_ last
  have read := loads_request (strOk_joinPairs codes) depth
  rw [request_joinPairs] at read
  simp only [requestPath,if_neg line,read,namedPath_request]

/-- What is read is no more than was asked. -/
theorem requestPath_sublist {m : LocalSourcePathMapper} {depth : Nat} {path q : Str} (codes : ∀ c ∈ path, c < 0x110000)
    (fits : (request path).length ≤ maxMessageBytes) (read : requestPath m (depth + 1) (request path) = .ok q) :
    q.Sublist (joinPairs path) := by
  rw [requestPath_request m depth codes fits] at read
  cases normal : normalizeWorkerPath m (joinPairs path) with
  | error e => simp [normal,Except.mapError] at read
  | ok q' =>
    obtain rfl : q' = q := by simpa [normal,Except.mapError] using read
    exact (normalizeWorkerPath_sublist normal).trans (PyText.strip_sublist _)

theorem askedPath_ok {m : LocalSourcePathMapper} {raw path : Str} : askedPath m raw = .ok path ↔
    normalizeWorkerPath m raw = .ok path ∧ (request path).length ≤ maxMessageBytes := by
  simp only [askedPath,bind_eq_ok,refuse_eq_ok,pure_eq_ok,decide_eq_false_iff_not,Nat.not_lt,exists_const]
  constructor
  · rintro ⟨_,normal,fits,rfl⟩
    exact ⟨normal,fits⟩
  · intro both
    exact ⟨path,both.1,both.2,rfl⟩

/-- It is the path that was asked for exactly when that is plain. -/
theorem requestPath_request_iff {m : LocalSourcePathMapper} (depth : Nat) {raw path : Str}
    (codes : ∀ c ∈ path, c < 0x110000) (asked : askedPath m raw = .ok path) :
    requestPath m (depth + 1) (request path) = .ok path ↔ Plain path := by
  obtain ⟨normal,fits⟩ := askedPath_ok.mp asked
  constructor
  · intro read
    have unpaired := joinPairs_eq_of_length (requestPath_sublist codes fits read).length_le
    rw [requestPath_request m depth codes fits,unpaired] at read
    have again : normalizeWorkerPath m path = .ok path := by
      cases second : normalizeWorkerPath m path <;> simp [second,Except.mapError] at read
      rw [read]
    exact ⟨(normalizeWorkerPath_again normal).mp again,unpaired⟩
  · intro ⟨stripped,unpaired⟩
    rw [requestPath_request m depth codes fits,unpaired,(normalizeWorkerPath_again normal).mpr stripped]
    rfl

theorem request_length (path : Str) : (request path).length = (dumpStr path).length + 49 := by
  have operation : (dumpStr (str "operation")).length = 11 := by decide
  have name : (dumpStr (str "validate_local_source")).length = 23 := by decide
  have key : (dumpStr (str "path")).length = 6 := by decide
  simp only [request,dumpInOrder,List.map_cons,List.map_nil,joinGap,memberGap,Json.dumpGap,List.length_append,
    List.length_cons,List.length_nil,operation,name,key]
  omega

theorem accepted_length_le (path : Str) (kind : Kind) :
    (Response.accepted path kind).line.length ≤ (dumpStr path).length + 42 := by
  have valid : (dumpStr (str "valid")).length = 7 := by decide
  have true_ : (str "true").length = 4 := by decide
  have key : (dumpStr (str "path")).length = 6 := by decide
  have type_ : (dumpStr (str "type")).length = 6 := by decide
  have word : (dumpStr kind.text).length ≤ 11 := by cases kind <;> decide
  simp only [Response.line,Response.fields,dumpInOrder,List.map_cons,List.map_nil,joinGap,memberGap,Json.dumpGap,
    if_true,List.length_append,List.length_cons,List.length_nil,valid,true_,key,type_]
  omega

theorem accepted_joinPairs (path : Str) (kind : Kind) :
    (Response.accepted (joinPairs path) kind).line = (Response.accepted path kind).line := by
  simp only [Response.line,Response.fields,dumpInOrder,List.map_cons,List.map_nil,memberGap,Json.dumpGap,
    dumpStr_joinPairs]

theorem getLast?_line (response : Response) : response.line.getLast? = some newline := by
  rw [Response.line,List.getLast?_append_of_ne_nil _ (by simp)]
  rfl

theorem loads_accepted {path : Str} (ok : StrOk path) (kind : Kind) (depth : Nat) :
    loads (depth + 1) (Response.accepted path kind).line = .ok (.obj (Response.accepted path kind).fields) := by
  have word (text : Str) (ascii : ∀ c ∈ text, c ≤ 0x7F) : StrOk text := strOk_of_ascii ascii
  have type_ : StrOk kind.text := word _ (by cases kind <;> decide)
  have read := @loads_dumpInOrder [] (by decide) (Response.accepted path kind).fields depth [newline]
    (by simp [Response.fields,str])
    (by simp [Response.fields,Json.Encodable,ok,type_,word (str "valid") (by decide),word (str "path") (by decide),
      word (str "type") (by decide)])
    (by simp [Response.fields,Json.depth]) rfl
  simpa [Response.line,Response.fields,Json.sorted] using read

theorem loads_rejected {reason : String} (ascii : ∀ c ∈ str reason, c ≤ 0x7F) (depth : Nat) :
    loads (depth + 1) (Response.rejected reason).line = .ok (.obj (Response.rejected reason).fields) := by
  have word (text : Str) (ascii : ∀ c ∈ text, c ≤ 0x7F) : StrOk text := strOk_of_ascii ascii
  have read := @loads_dumpInOrder [] (by decide) (Response.rejected reason).fields depth [newline]
    (by simp [Response.fields,str])
    (by simp [Response.fields,Json.Encodable,word _ ascii,word (str "valid") (by decide),
      word (str "reason") (by decide)])
    (by simp [Response.fields,Json.depth]) rfl
  simpa [Response.line,Response.fields,Json.sorted] using read

theorem readResponse_accepted (asked path : Str) (kind : Kind) :
    readResponse asked (.obj (Response.accepted path kind).fields) =
      if path = asked then .valid asked else .unavailable := by
  have type_ : (kind.text == Kind.file.text || kind.text == Kind.directory.text) = true := by cases kind <;> decide
  by_cases same : path = asked
  · subst same
    simp [readResponse,Response.fields,hasKeys,str,Json.eqStr,type_]
  · simp [readResponse,Response.fields,hasKeys,str,Json.eqStr,same]

theorem readResponse_rejected (asked : Str) (reason : String) :
    readResponse asked (.obj (Response.rejected reason).fields) =
      ((knownReason (.str (str reason))).map Verdict.invalid).getD .unavailable := by
  simp [readResponse,Response.fields,hasKeys,str]

def Response.Known : Response → Prop
  | .accepted _ _ => True
  | .rejected reason => reason ∈ "service_unavailable" :: invalidReasons

theorem known_reasons : ∀ reason ∈ "service_unavailable" :: invalidReasons, (∀ c ∈ str reason, c ≤ 0x7F) ∧
    (Response.rejected reason).line.length ≤ maxMessageBytes ∧
      ((knownReason (.str (str reason))).map Verdict.invalid).getD .unavailable = (Response.rejected reason).verdict := by
  decide +kernel

theorem readReply_line {response : Response} {document : Json} (depth : Nat) (asked : Str)
    (fits : response.line.length ≤ maxMessageBytes) (read : loads depth response.line = .ok document) :
    readReply depth asked response.line = readResponse asked document := by
  have line : ¬(response.line.getLast? ≠ some newline ∨ maxMessageBytes < response.line.length) := by
    rintro (open_ | long)
    · exact open_ (getLast?_line response)
    · omega
  simp only [readReply,if_neg line,read]

/-- Every reply that names no path is understood. -/
theorem rejected_understood {reason : String} (known : (Response.rejected reason).Known) (depth : Nat) (asked : Str) :
    (Response.rejected reason).line.length ≤ maxMessageBytes ∧
      readReply (depth + 1) asked (Response.rejected reason).line = (Response.rejected reason).verdict := by
  obtain ⟨ascii,fits,meant⟩ := known_reasons reason known
  refine ⟨fits,?_⟩
  rw [readReply_line (depth + 1) asked fits (loads_rejected ascii depth),readResponse_rejected,meant]

/-- A reply that names the path of a request within the limit is understood. -/
theorem accepted_understood {path : Str} (ok : StrOk path) (fits : (request path).length ≤ maxMessageBytes) (kind : Kind)
    (depth : Nat) : (Response.accepted path kind).line.length ≤ maxMessageBytes ∧
      readReply (depth + 1) path (Response.accepted path kind).line = (Response.accepted path kind).verdict := by
  have room : (Response.accepted path kind).line.length ≤ maxMessageBytes := by
    have longer := request_length path
    have shorter := accepted_length_le path kind
    omega
  refine ⟨room,?_⟩
  rw [readReply_line (depth + 1) path room (loads_accepted ok kind depth),readResponse_accepted,if_pos rfl,
    Response.verdict]

theorem validated_known (path : Str) (outcome : Preflight) : (validated path outcome).Known := by
  cases outcome with
  | found kind => trivial
  | pipelineError reason =>
    cases reason with
    | none => simp [validated,Response.Known,invalidReasons]
    | some reason =>
      by_cases listed : reason ∈ invalidReasons
      · simp [validated,Response.Known,Option.filter,listed]
      · have dropped : (some reason).filter (fun reason => invalidReasons.contains reason) = none := by
          simp [Option.filter,listed]
        simp only [validated,dropped,Option.getD_none,Response.Known]
        decide
  | osOrValueError => simp [validated,Response.Known,invalidReasons]
  | otherError => simp [validated,serviceUnavailable,Response.Known]

theorem newline_not_mem_dumpStr (s : Str) : 10 ∉ dumpStr s := by
  have hex (n : Nat) : 10 ∉ u4 n := by
    have digit (d : Nat) : 10 ≠ hexDigit d := by
      unfold hexDigit
      split <;> omega
    simp [u4,digit]
  have escaped (c : Nat) : 10 ∉ escape c := by
    refine escape_cases c ?_ ?_ ?_ ?_
    · intro letter graphic _ _ _
      simp only [List.mem_cons,List.not_mem_nil,or_false]
      omega
    · intro printable _ _
      simp only [List.mem_cons,List.not_mem_nil,or_false]
      omega
    · intro _
      simp [hex c]
    · intro _
      simp [hex (0xD800 + (c - 0x10000) / 0x400),hex (0xDC00 + (c - 0x10000) % 0x400)]
  simp [dumpStr,escaped]

/-- A line that was cut off has no end. -/
theorem eq_line_of_newline {body got : Str} (single : newline ∉ body) (begun : got <+: body ++ [newline])
    (ended : got.getLast? = some newline) : got = body ++ [newline] := by
  rcases List.prefix_concat_iff.mp begun with whole | cut
  · exact whole
  · exact absurd (cut.mem (List.mem_of_getLast? ended)) single

theorem newline_not_mem_request (path : Str) : newline ∉ dumpInOrder [32]
    [(str "operation",.str (str "validate_local_source")),(str "path",.str path)] := by
  simp [dumpInOrder,joinGap,memberGap,Json.dumpGap,newline_not_mem_dumpStr,newline]

theorem newline_not_mem_response (response : Response) : newline ∉ dumpInOrder [] response.fields := by
  cases response with
  | accepted path kind =>
    simp [Response.fields,dumpInOrder,joinGap,memberGap,Json.dumpGap,newline_not_mem_dumpStr,newline,str]
  | rejected reason =>
    simp [Response.fields,dumpInOrder,joinGap,memberGap,Json.dumpGap,newline_not_mem_dumpStr,newline,str]

/-- Only the whole request names a path. -/
theorem requestPath_whole {m : LocalSourcePathMapper} {depth : Nat} {path got q : Str} (begun : got <+: request path)
    (read : requestPath m depth got = .ok q) : got = request path := by
  by_cases ended : got.getLast? = some newline
  · exact eq_line_of_newline (newline_not_mem_request path) begun ended
  · simp [requestPath,ended] at read

/-- Only the whole reply, and one that names the path asked for, makes a call return. -/
theorem readReply_valid {response : Response} {depth : Nat} {asked got path : Str} (known : response.Known)
    (codes : ∀ named kind, response = .accepted named kind → ∀ c ∈ named, c < 0x110000) (begun : got <+: response.line)
    (valid : readReply (depth + 1) asked got = .valid path) :
    path = asked ∧ ∃ named kind, response = .accepted named kind ∧ joinPairs named = asked := by
  have ended : got.getLast? = some newline := by
    by_contra open_
    simp [readReply,open_] at valid
  obtain rfl : got = response.line := eq_line_of_newline (newline_not_mem_response response) begun ended
  have fits : response.line.length ≤ maxMessageBytes := by
    by_contra long
    simp [readReply,Nat.not_le.mp long] at valid
  cases response with
  | accepted named kind =>
    rw [← accepted_joinPairs] at fits valid
    rw [readReply_line (depth + 1) asked fits (loads_accepted (strOk_joinPairs (codes named kind rfl)) kind depth),
      readResponse_accepted] at valid
    split at valid
    · rename_i same
      exact ⟨(Verdict.valid.inj valid).symm,named,kind,rfl,same⟩
    · simp at valid
  | rejected reason =>
    rw [(rejected_understood known depth asked).2,Response.verdict] at valid
    split at valid <;> simp at valid

section Reasons

variable {α β ε : Type}

theorem bind_eq_error {x : Except ε α} {f : α → Except ε β} {e : ε} :
    (x >>= f) = .error e ↔ x = .error e ∨ ∃ a, x = .ok a ∧ f a = .error e := by
  cases x with
  | error e' => simp [bind,Except.bind]
  | ok a => simp [bind,Except.bind]

theorem refuse_eq_error {bad : Bool} {error e : ε} : refuse bad error = .error e ↔ bad = true ∧ error = e := by
  cases bad <;> simp [refuse]

theorem mapM_error {f : α → Except ε β} {list : List α} {e : ε} (failed : list.mapM f = .error e) :
    ∃ a ∈ list, f a = .error e := by
  induction list with
  | nil => simp [pure,Except.pure] at failed
  | cons a rest ih =>
    simp only [List.mapM_cons,bind_eq_error] at failed
    rcases failed with here | ⟨b,_,later | ⟨bs,_,impossible⟩⟩
    · exact ⟨a,by simp,here⟩
    · obtain ⟨a',member,there⟩ := ih later
      exact ⟨a',List.mem_cons_of_mem _ member,there⟩
    · simp [pure,Except.pure] at impossible

end Reasons

theorem sourcePath_reason {configuredRoot : Bool} {value : Str} {error : LocalSourcePathError}
    (refused : sourcePath configuredRoot value = .error error) : error.reason ∈ invalidReasons := by
  unfold sourcePath at refused
  cases checked : validateAbsolutePath value with
  | error e =>
    rw [checked] at refused
    obtain rfl := Except.error.inj refused
    decide
  | ok clean =>
    simp only [checked] at refused
    split at refused
    · obtain rfl := Except.error.inj refused
      decide
    · simp at refused

theorem configuration_reason {m : LocalSourcePathMapper} {error : LocalSourcePathError}
    (refused : m.configuration = .error error) : error.reason ∈ invalidReasons := by
  simp only [LocalSourcePathMapper.configuration,bind_eq_error,refuse_eq_error] at refused
  rcases refused with identity | ⟨_,_,denied | ⟨_,_,mappings | ⟨_,_,⟨_,rfl⟩ | ⟨_,_,⟨_,rfl⟩ | ⟨_,_,impossible⟩⟩⟩⟩⟩
  · obtain ⟨root,_,refused⟩ := mapM_error identity
    exact sourcePath_reason refused
  · obtain ⟨root,_,refused⟩ := mapM_error denied
    exact sourcePath_reason refused
  · obtain ⟨mapping,_,refused⟩ := mapM_error mappings
    simp only [mappingPaths,bind_eq_error] at refused
    rcases refused with host | ⟨_,_,container | ⟨_,_,impossible⟩⟩
    · exact sourcePath_reason host
    · exact sourcePath_reason container
    · simp [pure,Except.pure] at impossible
  · decide
  · decide
  · simp [pure,Except.pure] at impossible

theorem normalizeWorkerPath_reason {m : LocalSourcePathMapper} {raw : Str} {error : LocalSourcePathError}
    (refused : normalizeWorkerPath m raw = .error error) : error.reason ∈ invalidReasons := by
  simp only [normalizeWorkerPath,LocalSourcePathMapper.validateContainerPath,bind_eq_error,refuse_eq_error] at refused
  rcases refused with read | ⟨_,_,configured | ⟨_,_,⟨_,rfl⟩ | ⟨_,_,⟨_,rfl⟩ | ⟨_,_,impossible⟩⟩⟩⟩
  · exact sourcePath_reason read
  · exact configuration_reason configured
  · decide
  · decide
  · simp [pure,Except.pure] at impossible

theorem requestPath_known {m : LocalSourcePathMapper} {depth : Nat} {raw : Str} {error : RequestError}
    (refused : requestPath m depth raw = .error error) : error.response.Known := by
  cases error with
  | invalidRequest => simp [RequestError.response,Response.Known,invalidReasons]
  | recursion => simp [RequestError.response,serviceUnavailable,Response.Known]
  | rejected error =>
    apply List.mem_cons_of_mem
    unfold requestPath at refused
    split at refused
    · simp at refused
    · split at refused
      · simp at refused
      · simp at refused
      · split at refused
        · simp at refused
        · rename_i path _
          cases normal : normalizeWorkerPath m path with
          | ok clean => simp [normal,Except.mapError] at refused
          | error other =>
            rw [normal] at refused
            obtain rfl : other = error := by simpa [Except.mapError] using refused
            exact normalizeWorkerPath_reason normal

end BackupTelebot.LocalSourceValidation
