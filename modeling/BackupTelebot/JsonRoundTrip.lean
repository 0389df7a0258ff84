import BackupTelebot.JsonScan
import Mathlib.Data.List.Chain
import Mathlib.Data.Nat.Digits.Lemmas

/-! `json.dumps(value, ensure_ascii=True, sort_keys=True)` and its inverse. What is read
back is the same document with its dictionaries in key order. -/
namespace PyJson

/-! ### Writer -/

def hexDigit (d : Nat) : Nat := if d < 10 then 48 + d else 87 + d

def u4 (n : Nat) : Str :=
  [hexDigit (n / 4096),hexDigit (n / 256 % 16),hexDigit (n / 16 % 16),hexDigit (n % 16)]

def escape (c : Nat) : Str :=
  if c = 92 then [92,92]
  else if c = 34 then [92,34]
  else if c = 10 then [92,110]
  else if c = 13 then [92,114]
  else if c = 9 then [92,116]
  else if c = 12 then [92,102]
  else if c = 8 then [92,98]
  else if 32 ≤ c ∧ c ≤ 126 then [c]
  else if c < 0x10000 then 92 :: 117 :: u4 c
  else 92 :: 117 :: u4 (0xD800 + (c - 0x10000) / 0x400) ++
    92 :: 117 :: u4 (0xDC00 + (c - 0x10000) % 0x400)

def dumpStr (s : Str) : Str := 34 :: s.flatMap escape ++ [34]

def dumpNat (n : Nat) : Str := if n = 0 then [48] else (Nat.digits 10 n).reverse.map (48 + ·)

def joinComma : List Str → Str
  | [] => []
  | [text] => text
  | text :: rest => text ++ 44 :: 32 :: joinComma rest

def dumpMember (field : Str × Str) : Str := dumpStr field.1 ++ 58 :: 32 :: field.2

mutual
def Json.dump : Json → Str
  | .null => str "null"
  | .bool b => if b then str "true" else str "false"
  | .int v => if v < 0 then 45 :: dumpNat v.natAbs else dumpNat v.natAbs
  | .float literal => literal
  | .str s => dumpStr s
  | .arr items => 91 :: joinComma (dumpItems items) ++ [93]
  | .obj fields => 123 :: joinComma ((sortFields (dumpFields fields)).map dumpMember) ++ [125]
def dumpItems : List Json → List Str
  | [] => []
  | item :: rest => item.dump :: dumpItems rest
def dumpFields : List (Str × Json) → List (Str × Str)
  | [] => []
  | (key,value) :: rest => (key,value.dump) :: dumpFields rest
end

/-! The same writer with other separators: what stands between a comma or a colon and the
text behind it. -/

def joinGap (gap : Str) : List Str → Str
  | [] => []
  | [text] => text
  | text :: rest => text ++ 44 :: (gap ++ joinGap gap rest)

def memberGap (gap : Str) (field : Str × Str) : Str := dumpStr field.1 ++ 58 :: (gap ++ field.2)

mutual
def Json.dumpGap (gap : Str) : Json → Str
  | .null => str "null"
  | .bool b => if b then str "true" else str "false"
  | .int v => if v < 0 then 45 :: dumpNat v.natAbs else dumpNat v.natAbs
  | .float literal => literal
  | .str s => dumpStr s
  | .arr items => 91 :: joinGap gap (itemsGap gap items) ++ [93]
  | .obj fields => 123 :: joinGap gap ((sortFields (fieldsGap gap fields)).map (memberGap gap)) ++ [125]
def itemsGap (gap : Str) : List Json → List Str
  | [] => []
  | item :: rest => item.dumpGap gap :: itemsGap gap rest
def fieldsGap (gap : Str) : List (Str × Json) → List (Str × Str)
  | [] => []
  | (key,value) :: rest => (key,value.dumpGap gap) :: fieldsGap gap rest
end

theorem itemsGap_eq (gap : Str) (items : List Json) : itemsGap gap items = items.map (Json.dumpGap gap) := by
  induction items with
  | nil => rfl
  | cons item rest ih => simp [itemsGap,ih]

theorem fieldsGap_eq (gap : Str) (fields : List (Str × Json)) :
    fieldsGap gap fields = fields.map fun field => (field.1,field.2.dumpGap gap) := by
  induction fields with
  | nil => rfl
  | cons field rest ih => simp [fieldsGap,ih]

theorem dumpItems_eq (items : List Json) : dumpItems items = items.map Json.dump := by
  induction items with
  | nil => rfl
  | cons item rest ih => simp [dumpItems,ih]

theorem dumpFields_eq (fields : List (Str × Json)) :
    dumpFields fields = fields.map fun field => (field.1,field.2.dump) := by
  induction fields with
  | nil => rfl
  | cons field rest ih => simp [dumpFields,ih]

theorem joinGap_space (texts : List Str) : joinGap [32] texts = joinComma texts := by
  induction texts with
  | nil => rfl
  | cons text rest ih =>
    cases rest with
    | nil => rfl
    | cons next rest => simpa [joinGap,joinComma] using ih

/-- The default separators have one space. -/
theorem dumpGap_space (value : Json) : value.dumpGap [32] = value.dump := by
  induction value using Json.induction with
  | null => rfl
  | bool b => rfl
  | int v => rfl
  | float literal => rfl
  | str s => rfl
  | arr items ih =>
    have same : items.map (Json.dumpGap [32]) = items.map Json.dump := List.map_congr_left ih
    simp only [Json.dumpGap,Json.dump,itemsGap_eq,dumpItems_eq,joinGap_space,same]
  | obj fields ih =>
    have same : fields.map (fun field => (field.1,field.2.dumpGap [32])) =
        fields.map fun field => (field.1,field.2.dump) :=
      List.map_congr_left fun field member => by rw [ih field member]
    have members : memberGap [32] = dumpMember := rfl
    simp only [Json.dumpGap,Json.dump,fieldsGap_eq,dumpFields_eq,joinGap_space,same,members]

/-! ### What survives the round trip -/

/-- Code points only, and no high surrogate directly before a low one: the reader would
join such a pair into one character. -/
def StrOk (s : Str) : Prop :=
  (∀ c ∈ s, c < 0x110000) ∧ s.IsChain (fun a b => ¬(isHigh a = true ∧ isLow b = true))

theorem strOk_of_ascii {s : Str} (ascii : ∀ c ∈ s, c ≤ 0x7F) : StrOk s := by
  constructor
  · intro c member
    have small := ascii c member
    omega
  · apply (List.pairwise_of_forall_mem_list ?_).isChain
    intro high first low _
    have small := ascii high first
    simp only [isHigh,decide_eq_true_eq]
    omega

mutual
def Json.Encodable : Json → Prop
  | .int v => (dumpNat v.natAbs).length ≤ maxStrDigits
  | .float _ => False
  | .str s => StrOk s
  | .arr items => EncodableItems items
  | .obj fields => (fields.map (·.1)).Nodup ∧ EncodableFields fields
  | _ => True
def EncodableItems : List Json → Prop
  | [] => True
  | item :: rest => item.Encodable ∧ EncodableItems rest
def EncodableFields : List (Str × Json) → Prop
  | [] => True
  | (key,value) :: rest => StrOk key ∧ value.Encodable ∧ EncodableFields rest
end

mutual
def Json.depth : Json → Nat
  | .arr items => depthItems items + 1
  | .obj fields => depthFields fields + 1
  | _ => 0
def depthItems : List Json → Nat
  | [] => 0
  | item :: rest => max item.depth (depthItems rest)
def depthFields : List (Str × Json) → Nat
  | [] => 0
  | (_,value) :: rest => max value.depth (depthFields rest)
end

theorem encodableItems_iff {items : List Json} :
    EncodableItems items ↔ ∀ item ∈ items, item.Encodable := by
  induction items with
  | nil => simp [EncodableItems]
  | cons item rest ih => simp [EncodableItems,ih]

theorem encodableFields_iff {fields : List (Str × Json)} :
    EncodableFields fields ↔ ∀ field ∈ fields, StrOk field.1 ∧ field.2.Encodable := by
  induction fields with
  | nil => simp [EncodableFields]
  | cons field rest ih => simp [EncodableFields,ih,and_assoc]

theorem depthItems_le {items : List Json} {bound : Nat} :
    depthItems items ≤ bound ↔ ∀ item ∈ items, item.depth ≤ bound := by
  induction items with
  | nil => simp [depthItems]
  | cons item rest ih => simp [depthItems,ih]

theorem depthFields_le {fields : List (Str × Json)} {bound : Nat} :
    depthFields fields ≤ bound ↔ ∀ field ∈ fields, field.2.depth ≤ bound := by
  induction fields with
  | nil => simp [depthFields]
  | cons field rest ih => simp [depthFields,ih]

theorem encodable_assign {key : Str} {value : Json} {fields : List (Str × Json)} (whole : (Json.obj fields).Encodable)
    (keyOk : StrOk key) (valueOk : value.Encodable) : (Json.obj (assign key value fields)).Encodable := by
  refine ⟨assign_distinct key value whole.1,encodableFields_iff.mpr fun field member => ?_⟩
  rcases mem_assign member with rfl | old
  · exact ⟨keyOk,valueOk⟩
  · exact encodableFields_iff.mp whole.2 field old

theorem depth_assign_le {key : Str} {value : Json} {fields : List (Str × Json)} {bound : Nat}
    (whole : (Json.obj fields).depth ≤ bound + 1) (inner : value.depth ≤ bound) :
    (Json.obj (assign key value fields)).depth ≤ bound + 1 := by
  refine Nat.succ_le_succ (depthFields_le.mpr fun field member => ?_)
  rcases mem_assign member with rfl | old
  · exact inner
  · exact depthFields_le.mp (Nat.le_of_succ_le_succ whole) field old

/-! ### Strings -/

theorem hexValue_hexDigit (d : Nat) (small : d < 16) : hexValue (hexDigit d) = some d := by
  unfold hexDigit
  split
  · rw [hexValue,if_pos (by omega)]
    congr 1
    omega
  · rw [hexValue,if_neg (by omega),if_pos (by omega)]
    congr 1
    omega

theorem hex4_u4 (n : Nat) (small : n < 0x10000) (rest : Str) :
    hex4 (u4 n ++ rest) = some (n,rest) := by
  have a := hexValue_hexDigit (n / 4096) (by omega)
  have b := hexValue_hexDigit (n / 256 % 16) (by omega)
  have c := hexValue_hexDigit (n / 16 % 16) (by omega)
  have d := hexValue_hexDigit (n % 16) (by omega)
  have value : 4096 * (n / 4096) + 256 * (n / 256 % 16) + 16 * (n / 16 % 16) + n % 16 = n := by omega
  simp [u4,hex4,a,b,c,d,value]

/-- The rest of a string never supplies a low surrogate escape. -/
def NoLowEscape (text : Str) : Prop :=
  text.take 2 = [92,117] → ∃ v after, hex4 (text.drop 2) = some (v,after) ∧ isLow v = false

theorem scanChar_unit (n : Nat) (small : n < 0x10000) (rest : Str)
    (apart : isHigh n = true → NoLowEscape rest) :
    scanChar (92 :: 117 :: u4 n ++ rest) = .ok (some n,rest) := by
  have digits := hex4_u4 n small rest
  by_cases pair : isHigh n = true ∧ rest.take 2 = [92,117]
  · obtain ⟨v,after,read,notLow⟩ := apart pair.1 pair.2
    simp [scanChar,digits,pair.1,pair.2,read,notLow]
  · simp [scanChar,digits,pair]

theorem scanChar_pair (c : Nat) (large : 0x10000 ≤ c) (small : c < 0x110000) (rest : Str) :
    scanChar (92 :: 117 :: u4 (0xD800 + (c - 0x10000) / 0x400) ++
      92 :: 117 :: u4 (0xDC00 + (c - 0x10000) % 0x400) ++ rest) = .ok (some c,rest) := by
  have high := hex4_u4 (0xD800 + (c - 0x10000) / 0x400) (by omega)
    (92 :: 117 :: u4 (0xDC00 + (c - 0x10000) % 0x400) ++ rest)
  have low := hex4_u4 (0xDC00 + (c - 0x10000) % 0x400) (by omega) rest
  have isHigh : isHigh (0xD800 + (c - 0x10000) / 0x400) = true := by simp [isHigh]; omega
  have isLow : isLow (0xDC00 + (c - 0x10000) % 0x400) = true := by simp [isLow]; omega
  have joined : joinPair (0xD800 + (c - 0x10000) / 0x400) (0xDC00 + (c - 0x10000) % 0x400) = c := by
    unfold joinPair; omega
  simp only [List.cons_append] at high low
  simp [scanChar,high,low,isHigh,isLow,joined]

/-- What becomes of a code point: a backslash and a letter, itself, one unit or two. -/
@[elab_as_elim]
theorem escape_cases {motive : Str → Prop} (c : Nat)
    (named : ∀ letter, 32 < letter ∧ letter ≤ 126 → letter ≠ 117 → c ≤ 92 →
      (∀ rest, scanChar (92 :: letter :: rest) = .ok (some c,rest)) → motive [92,letter])
    (plain : 32 ≤ c ∧ c ≤ 126 → c ≠ 92 → c ≠ 34 → motive [c])
    (unit : c < 0x10000 → motive (92 :: 117 :: u4 c))
    (pair : ¬c < 0x10000 → motive (92 :: 117 :: u4 (0xD800 + (c - 0x10000) / 0x400) ++
      92 :: 117 :: u4 (0xDC00 + (c - 0x10000) % 0x400))) : motive (escape c) := by
  unfold escape
  by_cases backslash : c = 92
  · rw [if_pos backslash]
    exact named 92 (by decide) (by decide) (by omega) fun _ => by rw [backslash]; rfl
  by_cases quote : c = 34
  · rw [if_neg backslash,if_pos quote]
    exact named 34 (by decide) (by decide) (by omega) fun _ => by rw [quote]; rfl
  by_cases newline : c = 10
  · rw [if_neg backslash,if_neg quote,if_pos newline]
    exact named 110 (by decide) (by decide) (by omega) fun _ => by rw [newline]; rfl
  by_cases return_ : c = 13
  · rw [if_neg backslash,if_neg quote,if_neg newline,if_pos return_]
    exact named 114 (by decide) (by decide) (by omega) fun _ => by rw [return_]; rfl
  by_cases tab : c = 9
  · rw [if_neg backslash,if_neg quote,if_neg newline,if_neg return_,if_pos tab]
    exact named 116 (by decide) (by decide) (by omega) fun _ => by rw [tab]; rfl
  by_cases feed : c = 12
  · rw [if_neg backslash,if_neg quote,if_neg newline,if_neg return_,if_neg tab,if_pos feed]
    exact named 102 (by decide) (by decide) (by omega) fun _ => by rw [feed]; rfl
  rw [if_neg backslash,if_neg quote,if_neg newline,if_neg return_,if_neg tab,if_neg feed]
  by_cases back : c = 8
  · rw [if_pos back]
    exact named 98 (by decide) (by decide) (by omega) fun _ => by rw [back]; rfl
  rw [if_neg back]
  by_cases printable : 32 ≤ c ∧ c ≤ 126
  · rw [if_pos printable]
    exact plain printable backslash quote
  rw [if_neg printable]
  by_cases small : c < 0x10000
  · rw [if_pos small]
    exact unit small
  · rw [if_neg small]
    exact pair small

theorem scanChar_escape (c : Nat) (small : c < 0x110000) (rest : Str)
    (apart : isHigh c = true → NoLowEscape rest) :
    scanChar (escape c ++ rest) = .ok (some c,rest) := by
  refine escape_cases c ?_ ?_ ?_ ?_
  · intro letter _ _ _ read
    exact read rest
  · intro printable backslash quote
    have large : ¬c < 32 := by omega
    simp [scanChar,backslash,quote,large]
  · intro unit
    exact scanChar_unit c unit rest apart
  · intro large
    exact scanChar_pair c (by omega) small rest

theorem noLowEscape_quote (rest : Str) : NoLowEscape (34 :: rest) := by
  intro starts
  cases rest <;> simp at starts

theorem noLowEscape_escape (c : Nat) (small : c < 0x110000) (notLow : isLow c = false) (rest : Str) :
    NoLowEscape (escape c ++ rest) := by
  refine escape_cases c ?_ ?_ ?_ ?_
  · intro letter _ other _ _ starts
    simp [other] at starts
  · intro _ backslash _ starts
    simp [backslash] at starts
  · intro unit _
    exact ⟨c,rest,hex4_u4 c unit rest,notLow⟩
  · intro large _
    refine ⟨0xD800 + (c - 0x10000) / 0x400,
      92 :: 117 :: u4 (0xDC00 + (c - 0x10000) % 0x400) ++ rest,?_,?_⟩
    · simpa using hex4_u4 (0xD800 + (c - 0x10000) / 0x400) (by omega)
        (92 :: 117 :: u4 (0xDC00 + (c - 0x10000) % 0x400) ++ rest)
    · simp only [isLow,decide_eq_false_iff_not]
      omega

theorem scanChars_dump (s : Str) (ok : StrOk s) (rest : Str) (bound : Nat) (room : s.length < bound) :
    scanChars bound (s.flatMap escape ++ 34 :: rest) = .ok (s,rest) := by
  induction s generalizing bound with
  | nil =>
    obtain ⟨bound,rfl⟩ : ∃ b, bound = b + 1 := ⟨bound - 1,by simp at room; omega⟩
    simp [scanChars,scanChar]
  | cons c s ih =>
    obtain ⟨bound,rfl⟩ : ∃ b, bound = b + 1 := ⟨bound - 1,by simp at room; omega⟩
    have small : c < 0x110000 := ok.1 c (by simp)
    have tail : StrOk s := ⟨fun d member => ok.1 d (by simp [member]),ok.2.tail⟩
    have apart : isHigh c = true → NoLowEscape (s.flatMap escape ++ 34 :: rest) := by
      intro high
      cases s with
      | nil => exact noLowEscape_quote rest
      | cons d s =>
        have notLow : isLow d = false := by
          have pair := (List.isChain_cons_cons.mp ok.2).1
          simpa [high] using pair
        simpa using noLowEscape_escape d (tail.1 d (by simp)) notLow (s.flatMap escape ++ 34 :: rest)
    have step := scanChar_escape c small (s.flatMap escape ++ 34 :: rest) apart
    simp only [List.flatMap_cons,List.append_assoc,scanChars,step]
    rw [ih tail bound (by simpa using room)]
    rfl

theorem escape_length (c : Nat) : 1 ≤ (escape c).length := by
  refine escape_cases c ?_ ?_ ?_ ?_ <;> simp

theorem scanStr_dump (s : Str) (ok : StrOk s) (rest : Str) :
    scanStr (s.flatMap escape ++ 34 :: rest) = .ok (s,rest) := by
  apply scanChars_dump s ok rest
  have grows : s.length ≤ (s.flatMap escape).length := by
    induction s with
    | nil => simp
    | cons c s ih =>
      have tail : StrOk s := ⟨fun d member => ok.1 d (by simp [member]),ok.2.tail⟩
      have := ih tail
      have := escape_length c
      simp only [List.flatMap_cons,List.length_append,List.length_cons]
      omega
  simp only [List.length_append,List.length_cons]
  omega

/-! ### Numbers -/

/-- What may follow a number: nothing that would extend it. -/
def Follow (rest : Str) : Prop :=
  ∀ c, rest.head? = some c → isDigit c = false ∧ c ≠ 46 ∧ c ≠ 101 ∧ c ≠ 69

theorem digits_isDigit (n : Nat) : ∀ c ∈ (Nat.digits 10 n).reverse.map (48 + ·), isDigit c = true := by
  intro c member
  obtain ⟨d,digit,rfl⟩ := List.mem_map.mp member
  have := Nat.digits_lt_base (by decide) (List.mem_reverse.mp digit)
  simp [isDigit]
  omega

theorem natOfDigits_digits (n : Nat) :
    natOfDigits ((Nat.digits 10 n).reverse.map (48 + ·)) = n := by
  have undo : ((Nat.digits 10 n).map (48 + ·)).map (· - 48) = Nat.digits 10 n := by
    simp [List.map_map,Function.comp_def]
  rw [natOfDigits,← List.map_reverse,List.reverse_reverse,undo]
  exact Nat.ofDigits_digits 10 n

theorem takeWhile_digits (digits rest : Str) (all : ∀ c ∈ digits, isDigit c = true)
    (stop : ∀ c, rest.head? = some c → isDigit c = false) :
    (digits ++ rest).takeWhile isDigit = digits ∧ (digits ++ rest).dropWhile isDigit = rest := by
  induction digits with
  | nil =>
    cases rest with
    | nil => simp
    | cons c rest => simp [stop c rfl]
  | cons d digits ih =>
    have tail := ih (fun c member => all c (by simp [member]))
    simp [all d (by simp),tail.1,tail.2]

theorem wholePart_dump (n : Nat) (rest : Str) (follow : Follow rest) :
    wholePart (dumpNat n ++ rest) = some (dumpNat n,rest) := by
  have stop : ∀ c, rest.head? = some c → isDigit c = false := fun c head => (follow c head).1
  unfold dumpNat
  split
  · rfl
  · rename_i positive
    have nonempty : (Nat.digits 10 n) ≠ [] := Nat.digits_ne_nil_iff_ne_zero.mpr positive
    obtain ⟨lead,ds,shape⟩ : ∃ lead ds, (Nat.digits 10 n).reverse = lead :: ds :=
      List.exists_cons_of_ne_nil (by simpa using nonempty)
    have leading : lead ≠ 0 := by
      have order : Nat.digits 10 n = ds.reverse ++ [lead] := by
        rw [← List.reverse_reverse (Nat.digits 10 n),shape,List.reverse_cons]
      have last := Nat.getLast_digit_ne_zero 10 positive
      simpa only [order,List.getLast_append_singleton] using last
    have all := digits_isDigit n
    simp only [shape,List.map_cons] at all ⊢
    have split := takeWhile_digits (ds.map (48 + ·)) rest (fun c member => all c (by simp [member])) stop
    have first : isDigit (48 + lead) = true := all _ (by simp)
    simp [wholePart,leading,first,split.1,split.2]

theorem fractionPart_follow (rest : Str) (follow : Follow rest) : fractionPart rest = ([],rest) := by
  cases rest with
  | nil => rfl
  | cons c rest =>
    have notDot : c ≠ 46 := (follow c rfl).2.1
    unfold fractionPart
    split
    · rename_i shape
      simp at shape
      exact absurd shape.1 notDot
    · rfl

theorem exponentPart_follow (rest : Str) (follow : Follow rest) : exponentPart rest = ([],rest) := by
  cases rest with
  | nil => rfl
  | cons c rest =>
    have no := (follow c rfl).2.2
    simp [exponentPart,no.1,no.2]

theorem scanNumber_unsigned {text whole rest : Str} (unsigned : text.head? ≠ some 45)
    (parts : wholePart text = some (whole,rest)) (fits : whole.length ≤ maxStrDigits)
    (follow : Follow rest) : scanNumber text = .ok (.int (natOfDigits whole),rest) := by
  simp only [scanNumber,if_neg unsigned,parts,fractionPart_follow rest follow,
    exponentPart_follow rest follow,and_self,if_true,if_neg (Nat.not_lt.mpr fits)]

theorem scanNumber_signed {text whole rest : Str}
    (parts : wholePart text = some (whole,rest)) (fits : whole.length ≤ maxStrDigits)
    (follow : Follow rest) : scanNumber (45 :: text) = .ok (.int (-(natOfDigits whole : Int)),rest) := by
  simp only [scanNumber,List.head?_cons,if_true,List.drop_succ_cons,List.drop_zero,parts,
    fractionPart_follow rest follow,exponentPart_follow rest follow,and_self,
    if_neg (Nat.not_lt.mpr fits)]

theorem dumpNat_ne (n : Nat) : dumpNat n ≠ [] := by
  unfold dumpNat
  split_ifs with zero
  · simp
  · simp [Nat.digits_ne_nil_iff_ne_zero.mpr zero]

theorem natOfDigits_dump (n : Nat) : natOfDigits (dumpNat n) = n := by
  unfold dumpNat
  split
  · rename_i zero
    simp [zero,natOfDigits]
  · exact natOfDigits_digits _

theorem dumpNat_head (n : Nat) : ∃ c text, dumpNat n = c :: text ∧ isDigit c = true := by
  unfold dumpNat
  split
  · exact ⟨48,[],rfl,rfl⟩
  · rename_i positive
    have nonempty : (Nat.digits 10 n) ≠ [] := Nat.digits_ne_nil_iff_ne_zero.mpr positive
    obtain ⟨lead,ds,shape⟩ : ∃ lead ds, (Nat.digits 10 n).reverse = lead :: ds :=
      List.exists_cons_of_ne_nil (by simpa using nonempty)
    have all := digits_isDigit n
    simp only [shape,List.map_cons] at all ⊢
    exact ⟨_,_,rfl,all _ (by simp)⟩

theorem scanNumber_dump (v : Int) (fits : (dumpNat v.natAbs).length ≤ maxStrDigits) (rest : Str)
    (follow : Follow rest) : scanNumber ((Json.int v).dump ++ rest) = .ok (.int v,rest) := by
  have parts := wholePart_dump v.natAbs rest follow
  by_cases negative : v < 0
  · have sign : -(v.natAbs : Int) = v := by omega
    have read := scanNumber_signed parts fits follow
    rw [natOfDigits_dump,sign] at read
    simpa only [Json.dump,if_pos negative,List.cons_append] using read
  · have sign : (v.natAbs : Int) = v := by omega
    have unsigned : (dumpNat v.natAbs ++ rest).head? ≠ some 45 := by
      obtain ⟨c,text,shape,digit⟩ := dumpNat_head v.natAbs
      simp only [shape,List.cons_append,List.head?_cons,ne_eq,Option.some.injEq]
      rintro rfl
      contradiction
    have read := scanNumber_unsigned unsigned parts fits follow
    rw [natOfDigits_dump,sign] at read
    simpa only [Json.dump,if_neg negative] using read

/-! ### Values -/

theorem skipSpace_of_head {c : Nat} {rest : Str} (h : isSpace c = false) :
    skipSpace (c :: rest) = c :: rest := by simp [skipSpace,h]

@[simp] theorem skipSpace_quote (rest : Str) : skipSpace (34 :: rest) = 34 :: rest := rfl
@[simp] theorem skipSpace_colon (rest : Str) : skipSpace (58 :: rest) = 58 :: rest := rfl
@[simp] theorem skipSpace_comma (rest : Str) : skipSpace (44 :: rest) = 44 :: rest := rfl
@[simp] theorem skipSpace_bracket (rest : Str) : skipSpace (93 :: rest) = 93 :: rest := rfl
@[simp] theorem skipSpace_brace (rest : Str) : skipSpace (125 :: rest) = 125 :: rest := rfl
@[simp] theorem skipSpace_space (rest : Str) : skipSpace (32 :: rest) = skipSpace rest := rfl

section Gap

variable {gap : Str}

theorem skip_gap (blank : ∀ c ∈ gap, isSpace c = true) (text : Str) : skipSpace (gap ++ text) = skipSpace text := by
  rw [skipSpace,List.dropWhile_append_of_pos blank,skipSpace]

/-- A written value starts with a character that neither is a space nor closes an array. -/
theorem dump_head (gap : Str) (value : Json) (encodable : value.Encodable) :
    ∃ c rest, value.dumpGap gap = c :: rest ∧ isSpace c = false ∧ c ≠ 93 := by
  cases value with
  | null => exact ⟨110,_,rfl,rfl,by decide⟩
  | bool b => cases b <;> exact ⟨_,_,rfl,rfl,by decide⟩
  | int v =>
    obtain ⟨c,text,shape,digit⟩ := dumpNat_head v.natAbs
    by_cases negative : v < 0
    · exact ⟨45,dumpNat v.natAbs,by simp only [Json.dumpGap,if_pos negative],rfl,by decide⟩
    · refine ⟨c,text,by simp only [Json.dumpGap,if_neg negative,shape],?_,?_⟩
      · simp [isDigit] at digit
        simp [isSpace]
        omega
      · rintro rfl
        contradiction
  | float literal => exact False.elim encodable
  | str s => exact ⟨34,_,rfl,rfl,by decide⟩
  | arr items => exact ⟨91,_,rfl,rfl,by decide⟩
  | obj fields => exact ⟨123,_,rfl,rfl,by decide⟩

/-- What the reader does with the text of one value, whatever follows it. -/
def ReadsBack (gap : Str) (depth : Nat) (value : Json) : Prop :=
  ∀ rest, Follow rest → scanOnce depth (value.dumpGap gap ++ rest) = .ok (value.sorted,rest)

theorem follow_of_head {c : Nat} {rest : Str}
    (h : isDigit c = false ∧ c ≠ 46 ∧ c ≠ 101 ∧ c ≠ 69) : Follow (c :: rest) := by
  intro d head
  obtain rfl : c = d := by simpa using head
  exact h

theorem scanItems_dump {depth : Nat} (blank : ∀ c ∈ gap, isSpace c = true) (first : Json) (items : List Json) (rest : Str) (bound : Nat)
    (encodable : ∀ item ∈ first :: items, item.Encodable)
    (reads : ∀ item ∈ first :: items, ReadsBack gap depth item) (room : items.length < bound) :
    scanItems (scanOnce depth) bound (joinGap gap ((first :: items).map (Json.dumpGap gap)) ++ 93 :: rest) =
      .ok ((first :: items).map Json.sorted,rest) := by
  induction items generalizing first bound with
  | nil =>
    obtain ⟨bound,rfl⟩ : ∃ b, bound = b + 1 := ⟨bound - 1,by simp at room; omega⟩
    have value := reads first (by simp) (93 :: rest) (follow_of_head (by decide))
    simp [joinGap,scanItems,value]
  | cons second items ih =>
    obtain ⟨bound,rfl⟩ : ∃ b, bound = b + 1 := ⟨bound - 1,by simp at room; omega⟩
    have value := reads first (by simp)
      (44 :: (gap ++ (joinGap gap ((second :: items).map (Json.dumpGap gap)) ++ 93 :: rest))) (follow_of_head (by decide))
    have later := ih second bound (fun item member => encodable item (List.mem_cons_of_mem _ member))
      (fun item member => reads item (List.mem_cons_of_mem _ member)) (by simpa using room)
    obtain ⟨c,text,shape,notSpace,-⟩ := dump_head gap second (encodable second (by simp))
    have start : skipSpace (joinGap gap ((second :: items).map (Json.dumpGap gap)) ++ 93 :: rest) =
        joinGap gap ((second :: items).map (Json.dumpGap gap)) ++ 93 :: rest := by
      cases items <;> simp [joinGap,shape,skipSpace_of_head notSpace]
    simp only [List.map_cons] at value later start ⊢
    simp only [joinGap,List.append_assoc,List.cons_append,scanItems,value,skipSpace_comma,
      skip_gap blank,start,later]
    rfl

theorem scanMembers_dump {depth : Nat} (blank : ∀ c ∈ gap, isSpace c = true) (first : Str × Json) (fields : List (Str × Json)) (rest : Str)
    (bound : Nat) (ok : ∀ field ∈ first :: fields, StrOk field.1 ∧ field.2.Encodable)
    (reads : ∀ field ∈ first :: fields, ReadsBack gap depth field.2) (room : fields.length < bound) :
    scanMembers (scanOnce depth) bound
      (joinGap gap ((first :: fields).map fun field => memberGap gap (field.1,field.2.dumpGap gap)) ++ 125 :: rest) =
      .ok ((first :: fields).map fun field => (field.1,field.2.sorted),rest) := by
  have member (field : Str × Json) (text : Str) (here : StrOk field.1 ∧ field.2.Encodable) :
      ∃ c tail, field.2.dumpGap gap = c :: tail ∧ isSpace c = false ∧ scanStr (field.1.flatMap escape ++ 34 :: text) =
        .ok (field.1,text) := by
    obtain ⟨c,tail,shape,notSpace,-⟩ := dump_head gap field.2 here.2
    exact ⟨c,tail,shape,notSpace,scanStr_dump field.1 here.1 text⟩
  induction fields generalizing first bound with
  | nil =>
    obtain ⟨bound,rfl⟩ : ∃ b, bound = b + 1 := ⟨bound - 1,by simp at room; omega⟩
    have value := reads first (by simp) (125 :: rest) (follow_of_head (by decide))
    obtain ⟨c,tail,shape,notSpace,key⟩ := member first (58 :: (gap ++ (first.2.dumpGap gap ++ 125 :: rest)))
      (ok first (by simp))
    have start : skipSpace (first.2.dumpGap gap ++ 125 :: rest) = first.2.dumpGap gap ++ 125 :: rest := by
      simp [shape,skipSpace_of_head notSpace]
    simp only [List.map_cons,List.map_nil,joinGap,memberGap,dumpStr,List.append_assoc,
      List.cons_append,List.nil_append,scanMembers,key,skipSpace_colon,skip_gap blank,start,value,
      skipSpace_brace]
  | cons second fields ih =>
    obtain ⟨bound,rfl⟩ : ∃ b, bound = b + 1 := ⟨bound - 1,by simp at room; omega⟩
    let texts := joinGap gap ((second :: fields).map fun field => memberGap gap (field.1,field.2.dumpGap gap))
    have value := reads first (by simp) (44 :: (gap ++ (texts ++ 125 :: rest))) (follow_of_head (by decide))
    obtain ⟨c,tail,shape,notSpace,key⟩ := member first
      (58 :: (gap ++ (first.2.dumpGap gap ++ 44 :: (gap ++ (texts ++ 125 :: rest))))) (ok first (by simp))
    have start : skipSpace (first.2.dumpGap gap ++ 44 :: (gap ++ (texts ++ 125 :: rest))) =
        first.2.dumpGap gap ++ 44 :: (gap ++ (texts ++ 125 :: rest)) := by
      simp [shape,skipSpace_of_head notSpace]
    have next : skipSpace (texts ++ 125 :: rest) = texts ++ 125 :: rest := by
      cases fields <;> simp [texts,joinGap,memberGap,dumpStr]
    have later := ih second bound (fun field member => ok field (List.mem_cons_of_mem _ member))
      (fun field member => reads field (List.mem_cons_of_mem _ member)) (by simpa using room)
    change scanMembers (scanOnce depth) bound (texts ++ 125 :: rest) = _ at later
    have shapeText : joinGap gap ((first :: second :: fields).map fun field =>
        memberGap gap (field.1,field.2.dumpGap gap)) = memberGap gap (first.1,first.2.dumpGap gap) ++ 44 :: (gap ++ texts) := rfl
    rw [shapeText]
    simp only [memberGap,dumpStr,List.append_assoc,List.cons_append,List.nil_append,scanMembers,
      key,skipSpace_colon,skip_gap blank,start,value,skipSpace_comma,next,later]
    rfl

/-- Each text but the last is followed by a comma, so the loops have room. -/
theorem length_le_joinGap (gap : Str) (texts : List Str) : texts.length ≤ (joinGap gap texts).length + 1 := by
  induction texts with
  | nil => simp
  | cons first rest ih =>
    cases rest with
    | nil => simp
    | cons second rest =>
      simp only [joinGap,List.length_append,List.length_cons] at ih ⊢
      omega

theorem dump_int_head (gap : Str) (v : Int) :
    ∃ c text, (Json.int v).dumpGap gap = c :: text ∧ 
      (isDigit c = true ∨ c = 45 ∧ ∃ d tail, text = d :: tail ∧ isDigit d = true) := by
  obtain ⟨c,text,shape,digit⟩ := dumpNat_head v.natAbs
  by_cases negative : v < 0
  · exact ⟨45,c :: text,by simp only [Json.dumpGap,if_pos negative,shape],.inr ⟨rfl,c,text,rfl,digit⟩⟩
  · exact ⟨c,text,by simp only [Json.dumpGap,if_neg negative,shape],.inl digit⟩

/-- A digit, or a minus sign before one, starts none of the names. -/
theorem scanOnce_number (depth : Nat) {c : Nat} {text : Str}
    (lead : isDigit c = true ∨ c = 45 ∧ ∃ d tail, text = d :: tail ∧ isDigit d = true) :
    scanOnce depth (c :: text) = scanNumber (c :: text) := by
  have noName : List.find? (fun name : Str × Json => name.1.isPrefixOf (c :: text))
      [(str "null",.null),(str "true",.bool true),(str "false",.bool false),(str "NaN",.float (str "NaN")),
        (str "Infinity",.float (str "Infinity")),(str "-Infinity",.float (str "-Infinity"))] = none := by
    rw [List.find?_eq_none]
    rcases lead with digit | ⟨rfl,d,tail,rfl,digit⟩
    · simp [isDigit] at digit
      simp [str]
      omega
    · simp [isDigit] at digit
      simp [str]
      omega
  have notContainer : c ≠ 34 ∧ c ≠ 123 ∧ c ≠ 91 := by
    rcases lead with digit | ⟨rfl,-⟩
    · simp [isDigit] at digit
      omega
    · decide
  have atom : scanAtom (c :: text) = scanNumber (c :: text) := by
    unfold scanAtom
    simp only [noName]
  unfold scanOnce
  split
  · rename_i shape
    exact absurd (List.cons.inj shape).1 notContainer.1
  · rename_i shape
    exact absurd (List.cons.inj shape).1 notContainer.2.1
  · rename_i shape
    exact absurd (List.cons.inj shape).1 notContainer.2.2
  · exact atom

/-- A dictionary whose values are read back is read back, in the order of its members. -/
theorem scanOnce_members {depth : Nat} (blank : ∀ c ∈ gap, isSpace c = true) (fields : List (Str × Json)) (rest : Str)
    (keys : ((fields.map fun field => (field.1,field.2.sorted)).map (·.1)).Nodup)
    (ok : ∀ field ∈ fields, StrOk field.1 ∧ field.2.Encodable) (reads : ∀ field ∈ fields, ReadsBack gap depth field.2) :
    scanOnce (depth + 1)
      (123 :: (joinGap gap (fields.map fun field => memberGap gap (field.1,field.2.dumpGap gap)) ++ 125 :: rest)) =
      .ok (.obj (fields.map fun field => (field.1,field.2.sorted)),rest) := by
  cases fields with
  | nil => simp [joinGap,scanOnce]
  | cons first others =>
    have inner := scanMembers_dump blank first others rest
      (joinGap gap ((first :: others).map fun field => memberGap gap (field.1,field.2.dumpGap gap)) ++ 125 :: rest).length
      ok reads
      (by
        have := length_le_joinGap gap ((first :: others).map fun field => memberGap gap (field.1,field.2.dumpGap gap))
        simp only [List.length_map,List.length_cons,List.length_append] at this ⊢
        omega)
    obtain ⟨tail,text_⟩ : ∃ tail, joinGap gap ((first :: others).map fun field =>
        memberGap gap (field.1,field.2.dumpGap gap)) ++ 125 :: rest = 34 :: tail := by
      cases others <;> simp [joinGap,memberGap,dumpStr]
    rw [text_] at inner ⊢
    unfold scanOnce
    simp only [skipSpace_quote]
    rw [inner]
    simp only [Except.map,ofPairs_eq _ keys]

theorem readsBack (blank : ∀ c ∈ gap, isSpace c = true) (value : Json) : ∀ depth, value.Encodable → value.depth ≤ depth →
    ReadsBack gap depth value := by
  induction value using Json.induction with
  | null => intro depth _ _ rest _; unfold scanOnce; rfl
  | bool b => intro depth _ _ rest _; cases b <;> (unfold scanOnce; rfl)
  | int v =>
    intro depth fits _ rest follow
    have number : scanNumber ((Json.int v).dumpGap gap ++ rest) = _ := scanNumber_dump v fits rest follow
    have sorted : (Json.int v).sorted = .int v := by unfold Json.sorted; rfl
    obtain ⟨c,text,shape,lead⟩ := dump_int_head gap v
    rw [sorted]
    rw [shape,List.cons_append] at number ⊢
    refine (scanOnce_number depth ?_).trans number
    rcases lead with digit | ⟨minus,d,tail,rfl,digit⟩
    · exact .inl digit
    · exact .inr ⟨minus,d,tail ++ rest,rfl,digit⟩
  | float literal => intro _ encodable; exact False.elim encodable
  | str s =>
    intro depth ok _ rest _
    have body := scanStr_dump s ok rest
    unfold scanOnce
    simp only [Json.dumpGap,dumpStr,List.cons_append,List.append_assoc,List.nil_append,body]
    unfold Json.sorted
    rfl
  | arr items ih =>
    intro depth encodable deep rest _
    obtain ⟨depth,rfl⟩ : ∃ d, depth = d + 1 := ⟨depth - 1,by simp [Json.depth] at deep; omega⟩
    have encodable : ∀ item ∈ items, item.Encodable := encodableItems_iff.mp encodable
    have shallow : ∀ item ∈ items, item.depth ≤ depth :=
      depthItems_le.mp (by simpa [Json.depth] using deep)
    have sorted : (Json.arr items).sorted = .arr (items.map Json.sorted) := by
      unfold Json.sorted; rw [sortedItems_eq]
    rw [sorted]
    simp only [Json.dumpGap,itemsGap_eq,List.cons_append,List.append_assoc,List.nil_append]
    cases items with
    | nil => simp [joinGap,scanOnce]
    | cons first items =>
      obtain ⟨c,text,shape,notSpace,notEnd⟩ := dump_head gap first (encodable first (by simp))
      have inner := scanItems_dump blank first items rest
        (joinGap gap ((first :: items).map (Json.dumpGap gap)) ++ 93 :: rest).length encodable
        (fun item member => ih item member depth (encodable item member) (shallow item member))
        (by
          have := length_le_joinGap gap ((first :: items).map (Json.dumpGap gap))
          simp only [List.length_map,List.length_cons,List.length_append] at this ⊢
          omega)
      obtain ⟨tail,text_⟩ : ∃ tail, joinGap gap ((first :: items).map (Json.dumpGap gap)) ++ 93 :: rest = c :: tail := by
        cases items <;> simp [joinGap,shape]
      rw [text_] at inner ⊢
      unfold scanOnce
      simp only [skipSpace_of_head notSpace]
      split
      · rename_i same
        simp only [List.cons.injEq] at same
        exact absurd same.1 notEnd
      · rw [inner]
        rfl
  | obj fields ih =>
    intro depth encodable deep rest _
    obtain ⟨depth,rfl⟩ : ∃ d, depth = d + 1 := ⟨depth - 1,by simp [Json.depth] at deep; omega⟩
    obtain ⟨distinct,encodable⟩ := encodable
    have encodable : ∀ field ∈ fields, StrOk field.1 ∧ field.2.Encodable := encodableFields_iff.mp encodable
    have shallow : ∀ field ∈ fields, field.2.depth ≤ depth :=
      depthFields_le.mp (by simpa [Json.depth] using deep)
    have sorted : (Json.obj fields).sorted =
        .obj ((sortFields fields).map fun field => (field.1,field.2.sorted)) := by
      rw [Json.sorted,sortedFields_eq,sortFields_map]
    have members {field} (h : field ∈ sortFields fields) : field ∈ fields :=
      (sortFields_perm fields).mem_iff.mp h
    have keys : (((sortFields fields).map fun field => (field.1,field.2.sorted)).map (·.1)).Nodup := by
      have same := ((sortFields_perm fields).map (·.1)).nodup_iff.mpr distinct
      simpa [List.map_map,Function.comp_def] using same
    rw [sorted]
    simp only [Json.dumpGap,fieldsGap_eq,sortFields_map,List.map_map,List.cons_append,List.append_assoc,
      List.nil_append]
    exact scanOnce_members blank (sortFields fields) rest keys (fun field member => encodable field (members member))
      fun field member => ih field (members member) depth (encodable field (members member)).2
        (shallow field (members member))

/-- What `json.dumps` writes with any separators of white space, `json.loads` reads. -/
theorem loads_dumpGap (blank : ∀ c ∈ gap, isSpace c = true) (value : Json) (depth : Nat) (encodable : value.Encodable)
    (deep : value.depth ≤ depth) : loads depth (value.dumpGap gap) = .ok value.sorted := by
  obtain ⟨c,rest,shape,notSpace,-⟩ := dump_head gap value encodable
  have read := readsBack blank value depth encodable deep [] (by intro c head; simp at head)
  rw [List.append_nil] at read
  have start : skipSpace (value.dumpGap gap) = value.dumpGap gap := by rw [shape,skipSpace_of_head notSpace]
  simp only [loads,start,read]
  rfl

def dumpInOrder (gap : Str) (fields : List (Str × Json)) : Str :=
  123 :: joinGap gap (fields.map fun field => memberGap gap (field.1,field.2.dumpGap gap)) ++ [125]

/-- White space may follow. -/
theorem loads_dumpInOrder (blank : ∀ c ∈ gap, isSpace c = true) (fields : List (Str × Json)) (depth : Nat) (after : Str)
    (distinct : (fields.map (·.1)).Nodup) (ok : ∀ field ∈ fields, StrOk field.1 ∧ field.2.Encodable)
    (shallow : ∀ field ∈ fields, field.2.depth ≤ depth) (empty : skipSpace after = []) :
    loads (depth + 1) (dumpInOrder gap fields ++ after) =
      .ok (.obj (fields.map fun field => (field.1,field.2.sorted))) := by
  have keys : ((fields.map fun field => (field.1,field.2.sorted)).map (·.1)).Nodup := by
    simpa [List.map_map,Function.comp_def] using distinct
  have read := scanOnce_members blank fields after keys ok
    fun field member => readsBack blank field.2 depth (ok field member).2 (shallow field member)
  have start : skipSpace (dumpInOrder gap fields ++ after) = dumpInOrder gap fields ++ after := rfl
  simp only [loads,start]
  simp only [dumpInOrder,List.cons_append,List.append_assoc,List.nil_append,read,empty,if_true]

end Gap

/-- What `json.dumps` writes, `json.loads` reads. -/
theorem loads_dump (value : Json) (depth : Nat) (encodable : value.Encodable) (deep : value.depth ≤ depth) :
    loads depth value.dump = .ok value.sorted := by
  rw [← dumpGap_space]
  exact loads_dumpGap (by decide) value depth encodable deep

/-! ### Pairs of surrogates -/

/-- The text with every high surrogate that stands before a low one joined with it. -/
def joinPairs : Str → Str
  | high :: low :: rest =>
      if isHigh high && isLow low then joinPair high low :: joinPairs rest else high :: joinPairs (low :: rest)
  | short => short

theorem escape_unit {c : Nat} (large : 126 < c) (small : c < 0x10000) : escape c = 92 :: 117 :: u4 c := by
  refine escape_cases c ?_ ?_ ?_ ?_
  · intro letter _ _ early _
    omega
  · intro printable _ _
    omega
  · intro _
    rfl
  · intro beyond
    exact absurd small beyond

theorem escape_pair {c : Nat} (large : 0x10000 ≤ c) : escape c =
    92 :: 117 :: u4 (0xD800 + (c - 0x10000) / 0x400) ++ 92 :: 117 :: u4 (0xDC00 + (c - 0x10000) % 0x400) := by
  refine escape_cases c ?_ ?_ ?_ ?_
  · intro letter _ _ early _
    omega
  · intro printable _ _
    omega
  · intro small
    omega
  · intro _
    rfl

theorem escape_joinPair {high low : Nat} (first : isHigh high = true) (second : isLow low = true) :
    escape (joinPair high low) = escape high ++ escape low := by
  simp only [isHigh,isLow,decide_eq_true_eq] at first second
  have large : 0x10000 ≤ joinPair high low := by unfold joinPair; omega
  have upper : 0xD800 + (joinPair high low - 0x10000) / 0x400 = high := by unfold joinPair; omega
  have lower : 0xDC00 + (joinPair high low - 0x10000) % 0x400 = low := by unfold joinPair; omega
  have high_ : escape high = 92 :: 117 :: u4 high := escape_unit (by omega) (by omega)
  have low_ : escape low = 92 :: 117 :: u4 low := escape_unit (by omega) (by omega)
  rw [escape_pair large,upper,lower,high_,low_]

theorem not_isLow_joinPair (high low : Nat) : isLow (joinPair high low) = false := by
  unfold joinPair isLow
  simp only [decide_eq_false_iff_not]
  omega

theorem not_isHigh_joinPair (high low : Nat) : isHigh (joinPair high low) = false := by
  unfold joinPair isHigh
  simp only [decide_eq_false_iff_not]
  omega

theorem joinPairs_of_apart {high low : Nat} {rest : Str} (apart : ¬(isHigh high && isLow low) = true) :
    joinPairs (high :: low :: rest) = high :: joinPairs (low :: rest) := by
  rw [joinPairs,if_neg apart]

theorem joinPairs_of_pair {high low : Nat} {rest : Str} (pair : (isHigh high && isLow low) = true) :
    joinPairs (high :: low :: rest) = joinPair high low :: joinPairs rest := by
  rw [joinPairs,if_pos pair]

theorem joinPairs_short {short : Str} (apart : ∀ high low rest, short = high :: low :: rest → False) :
    joinPairs short = short := by
  cases short with
  | nil => rfl
  | cons c rest =>
    cases rest with
    | nil => rfl
    | cons d rest => exact absurd rfl (apart c d rest)

/-- The pairs are written as what they are joined to. -/
theorem dumpStr_joinPairs (s : Str) : dumpStr (joinPairs s) = dumpStr s := by
  have same : (joinPairs s).flatMap escape = s.flatMap escape := by
    induction s using joinPairs.induct with
    | case1 high low rest pair ih =>
      have both : isHigh high = true ∧ isLow low = true := by simpa using pair
      simp only [joinPairs_of_pair pair,List.flatMap_cons,ih,escape_joinPair both.1 both.2,List.append_assoc]
    | case2 high low rest apart ih =>
      rw [List.flatMap_cons] at ih
      simp only [joinPairs_of_apart apart,List.flatMap_cons,ih]
    | case3 short apart => rw [joinPairs_short apart]
  rw [dumpStr,dumpStr,same]

theorem length_joinPairs_le (s : Str) : (joinPairs s).length ≤ s.length := by
  induction s using joinPairs.induct with
  | case1 high low rest pair ih =>
    simp only [joinPairs_of_pair pair,List.length_cons]
    omega
  | case2 high low rest apart ih =>
    simp only [joinPairs_of_apart apart,List.length_cons] at ih ⊢
    omega
  | case3 short apart => rw [joinPairs_short apart]

/-- A text that joining leaves as long as it is holds no pair. -/
theorem joinPairs_eq_of_length {s : Str} (long : s.length ≤ (joinPairs s).length) : joinPairs s = s := by
  induction s using joinPairs.induct with
  | case1 high low rest pair ih =>
    have shorter := length_joinPairs_le rest
    simp only [joinPairs_of_pair pair,List.length_cons] at long
    omega
  | case2 high low rest apart ih =>
    simp only [joinPairs_of_apart apart,List.length_cons] at long ih ⊢
    rw [ih (by omega)]
  | case3 short apart => exact joinPairs_short apart

/-- A joined text begins with a low surrogate only where the text does. -/
theorem head_joinPairs {s : Str} {c : Nat} (head : (joinPairs s).head? = some c) (low : isLow c = true) :
    s.head? = some c := by
  cases s using joinPairs.induct with
  | case1 first second rest pair ih =>
    rw [joinPairs_of_pair pair,List.head?_cons,Option.some.injEq] at head
    simp [← head,not_isLow_joinPair] at low
  | case2 first second rest apart ih => rwa [joinPairs_of_apart apart,List.head?_cons] at head
  | case3 short apart => rwa [joinPairs_short apart] at head

/-- What the reader makes of any text is a text that it reads back. -/
theorem strOk_joinPairs {s : Str} (codes : ∀ c ∈ s, c < 0x110000) : StrOk (joinPairs s) := by
  induction s using joinPairs.induct with
  | case1 high low rest pair ih =>
    obtain ⟨small,chain⟩ := ih fun c member => codes c (by simp [member])
    have both : isHigh high = true ∧ isLow low = true := by simpa using pair
    rw [joinPairs_of_pair pair]
    refine ⟨List.forall_mem_cons.mpr ⟨?_,small⟩,List.isChain_cons.mpr ⟨?_,chain⟩⟩
    · have bounds := both
      simp only [isHigh,isLow,decide_eq_true_eq] at bounds
      unfold joinPair
      omega
    · intro next _ starts
      simp [not_isHigh_joinPair high low] at starts
  | case2 high low rest apart ih =>
    obtain ⟨small,chain⟩ := ih fun c member => codes c (List.mem_cons_of_mem _ member)
    rw [joinPairs_of_apart apart]
    refine ⟨List.forall_mem_cons.mpr ⟨codes high (by simp),small⟩,List.isChain_cons.mpr ⟨?_,chain⟩⟩
    intro next head starts
    have first := head_joinPairs head starts.2
    obtain rfl : low = next := by simpa using first
    exact apart (by simpa using starts)
  | case3 short apart =>
    rw [joinPairs_short apart]
    refine ⟨codes,?_⟩
    cases short with
    | nil => exact .nil
    | cons c rest =>
      cases rest with
      | nil => exact .singleton c
      | cons d rest => exact absurd rfl (apart c d rest)

/-! ### The text is ASCII -/

theorem hexDigit_ascii (d : Nat) (small : d < 16) : hexDigit d ≤ 0x7F := by
  unfold hexDigit
  split <;> omega

theorem u4_ascii (n : Nat) (small : n < 0x10000) : ∀ c ∈ u4 n, c ≤ 0x7F := by
  intro c member
  simp only [u4,List.mem_cons,List.not_mem_nil,or_false] at member
  rcases member with rfl | rfl | rfl | rfl <;> exact hexDigit_ascii _ (by omega)

theorem escape_ascii (c : Nat) (small : c < 0x110000) : ∀ d ∈ escape c, d ≤ 0x7F := by
  have unit (n : Nat) (small : n < 0x10000) : ∀ d ∈ 92 :: 117 :: u4 n, d ≤ 0x7F := by
    intro d member
    simp only [List.mem_cons] at member
    rcases member with rfl | rfl | digits
    · omega
    · omega
    · exact u4_ascii n small d digits
  refine escape_cases c ?_ ?_ ?_ ?_
  · intro letter ascii _ _ _ d member
    simp only [List.mem_cons,List.not_mem_nil,or_false] at member
    omega
  · intro printable _ _ d member
    simp only [List.mem_cons,List.not_mem_nil,or_false] at member
    omega
  · exact unit c
  · intro large d member
    rcases List.mem_append.mp member with high | low
    · exact unit _ (by omega) d high
    · exact unit _ (by omega) d low

theorem dumpStr_ascii (s : Str) (ok : StrOk s) : ∀ c ∈ dumpStr s, c ≤ 0x7F := by
  intro c member
  simp only [dumpStr,List.cons_append,List.mem_cons,List.mem_append,List.mem_flatMap,List.not_mem_nil,
    or_false] at member
  rcases member with rfl | ⟨d,inside,escaped⟩ | rfl
  · omega
  · exact escape_ascii d (ok.1 d inside) c escaped
  · omega

theorem dumpNat_digit (n : Nat) : ∀ c ∈ dumpNat n, 48 ≤ c ∧ c ≤ 57 := by
  intro c member
  unfold dumpNat at member
  split at member
  · simp at member
    omega
  · simpa [isDigit] using digits_isDigit n c member

theorem joinComma_ascii (texts : List Str) (ascii : ∀ text ∈ texts, ∀ c ∈ text, c ≤ 0x7F) :
    ∀ c ∈ joinComma texts, c ≤ 0x7F := by
  induction texts with
  | nil => simp [joinComma]
  | cons first rest ih =>
    cases rest with
    | nil => simpa [joinComma] using ascii
    | cons second rest =>
      intro c member
      simp only [joinComma,List.mem_append,List.mem_cons] at member
      rcases member with here | rfl | rfl | later
      · exact ascii first (by simp) c here
      · omega
      · omega
      · exact ih (fun text member => ascii text (List.mem_cons_of_mem _ member)) c later

theorem dump_ascii (value : Json) : value.Encodable → ∀ c ∈ value.dump, c ≤ 0x7F := by
  induction value using Json.induction with
  | null => intro _; simp [Json.dump,str]
  | bool b => intro _; cases b <;> simp [Json.dump,str]
  | int v =>
    intro _ c member
    have digits (written : c ∈ dumpNat v.natAbs) : c ≤ 0x7F := by
      have := dumpNat_digit v.natAbs c written
      omega
    by_cases negative : v < 0
    · simp only [Json.dump,if_pos negative,List.mem_cons] at member
      rcases member with rfl | member
      · omega
      · exact digits member
    · simp only [Json.dump,if_neg negative] at member
      exact digits member
  | float literal => intro encodable; exact False.elim encodable
  | str s => intro ok; simpa [Json.dump] using dumpStr_ascii s ok
  | arr items ih =>
    intro encodable c member
    have encodable : ∀ item ∈ items, item.Encodable := encodableItems_iff.mp encodable
    simp only [Json.dump,dumpItems_eq,List.cons_append,List.mem_cons,List.mem_append,List.not_mem_nil,
      or_false] at member
    rcases member with rfl | inside | rfl
    · omega
    · refine joinComma_ascii _ ?_ c inside
      intro text written
      obtain ⟨item,here,rfl⟩ := List.mem_map.mp written
      exact ih item here (encodable item here)
    · omega
  | obj fields ih =>
    intro encodable c member
    have encodable : ∀ field ∈ fields, StrOk field.1 ∧ field.2.Encodable :=
      encodableFields_iff.mp encodable.2
    simp only [Json.dump,dumpFields_eq,List.cons_append,List.mem_cons,List.mem_append,
      List.not_mem_nil,or_false] at member
    rcases member with rfl | inside | rfl
    · omega
    · refine joinComma_ascii _ ?_ c inside
      intro text written d letter
      obtain ⟨field,sorted,rfl⟩ := List.mem_map.mp written
      obtain ⟨origin,here,rfl⟩ := List.mem_map.mp ((sortFields_perm _).mem_iff.mp sorted)
      simp only [dumpMember,List.mem_append,List.mem_cons] at letter
      rcases letter with key | rfl | rfl | value
      · exact dumpStr_ascii _ (encodable origin here).1 d key
      · omega
      · omega
      · exact ih origin here (encodable origin here).2 d value
    · omega

end PyJson
