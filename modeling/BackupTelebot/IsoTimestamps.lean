import Mathlib.Algebra.Group.Nat.Defs
import Mathlib.Data.Nat.Notation
import Mathlib.Algebra.Order.Group.Unbundled.Int

/-! Moments as the Python `datetime` class holds them, and their ISO text. The reader takes
the forms that `isoformat` writes. -/
namespace IsoTime

abbrev Text := List ℕ

def daysInMonth (year month : ℕ) : ℕ :=
  if month = 2 then if year % 4 = 0 ∧ (year % 100 ≠ 0 ∨ year % 400 = 0) then 29 else 28
  else if month = 4 ∨ month = 6 ∨ month = 9 ∨ month = 11 then 30 else 31

/-- The fields of a moment. Its offset from UTC is in microseconds; a naive one has none. -/
structure Fields where
  year : ℕ
  month : ℕ
  day : ℕ
  hour : ℕ
  minute : ℕ
  second : ℕ
  microsecond : ℕ
  utcoffset : Option ℤ
  deriving DecidableEq, Repr

structure Fields.Valid (f : Fields) : Prop where
  year : 1 ≤ f.year ∧ f.year ≤ 9999
  month : 1 ≤ f.month ∧ f.month ≤ 12
  day : 1 ≤ f.day ∧ f.day ≤ daysInMonth f.year f.month
  hour : f.hour < 24
  minute : f.minute < 60
  second : f.second < 60
  microsecond : f.microsecond < 1000000
  utcoffset : ∀ offset ∈ f.utcoffset, offset.natAbs < 86400000000

theorem Fields.valid_iff (f : Fields) : f.Valid ↔
    (1 ≤ f.year ∧ f.year ≤ 9999) ∧ (1 ≤ f.month ∧ f.month ≤ 12) ∧
      (1 ≤ f.day ∧ f.day ≤ daysInMonth f.year f.month) ∧ f.hour < 24 ∧ f.minute < 60 ∧ f.second < 60 ∧
      f.microsecond < 1000000 ∧ ∀ offset ∈ f.utcoffset, offset.natAbs < 86400000000 :=
  ⟨fun v => ⟨v.year,v.month,v.day,v.hour,v.minute,v.second,v.microsecond,v.utcoffset⟩,
    fun ⟨y,m,d,h,mi,s,us,o⟩ => ⟨y,m,d,h,mi,s,us,o⟩⟩

instance (f : Fields) : Decidable f.Valid := decidable_of_iff _ f.valid_iff.symm

structure DateTime where
  fields : Fields
  valid : fields.Valid
  deriving DecidableEq

def digits : ℕ → ℕ → Text
  | 0,_ => []
  | width + 1,n => digits width (n / 10) ++ [48 + n % 10]

/-- Written only if it is not zero. -/
def fraction (n : ℕ) : Text := if n = 0 then [] else 46 :: digits 6 n

def offsetSeconds (n : ℕ) : Text := if n = 0 then [] else 58 :: (digits 2 (n / 1000000) ++ fraction (n % 1000000))

def offsetText (offset : ℤ) : Text :=
  let size := offset.natAbs
  (if offset < 0 then 45 else 43) :: (digits 2 (size / 3600000000) ++ 58 ::
    (digits 2 (size / 60000000 % 60) ++ offsetSeconds (size % 60000000)))

def Fields.isoformat (f : Fields) : Text :=
  digits 4 f.year ++ 45 :: (digits 2 f.month ++ 45 :: (digits 2 f.day ++ 84 :: (digits 2 f.hour ++ 58 ::
    (digits 2 f.minute ++ 58 :: (digits 2 f.second ++ (fraction f.microsecond ++ f.utcoffset.elim [] offsetText))))))

def isoformat (t : DateTime) : Text := t.fields.isoformat

theorem digits_ascii (width : ℕ) : ∀ n, ∀ c ∈ digits width n, c ≤ 0x7F := by
  induction width with
  | zero => simp [digits]
  | succ width ih =>
    intro n c member
    rcases List.mem_append.mp member with front | last
    · exact ih _ c front
    · have digit := List.mem_singleton.mp last
      omega

theorem fraction_ascii (n : ℕ) : ∀ c ∈ fraction n, c ≤ 0x7F := by
  unfold fraction
  split
  · simp
  · simpa using digits_ascii 6 n

theorem offsetText_ascii (offset : ℤ) : ∀ c ∈ offsetText offset, c ≤ 0x7F := by
  have seconds : ∀ n, ∀ c ∈ offsetSeconds n, c ≤ 0x7F := by
    intro n
    unfold offsetSeconds
    split
    · simp
    · simp only [List.forall_mem_cons,List.forall_mem_append]
      exact ⟨by omega,digits_ascii 2 _,fraction_ascii _⟩
  have sign : (if offset < 0 then 45 else 43) ≤ 0x7F := by split <;> omega
  simp only [offsetText,List.forall_mem_cons,List.forall_mem_append]
  exact ⟨sign,digits_ascii 2 _,by omega,digits_ascii 2 _,seconds _⟩

/-- The text has no character beyond ASCII. -/
theorem isoformat_ascii (t : DateTime) : ∀ c ∈ isoformat t, c ≤ 0x7F := by
  have offset : ∀ c ∈ t.fields.utcoffset.elim [] offsetText, c ≤ 0x7F := by
    cases t.fields.utcoffset with
    | none => simp
    | some offset => exact offsetText_ascii offset
  simp only [isoformat,Fields.isoformat,List.forall_mem_cons,List.forall_mem_append]
  exact ⟨digits_ascii 4 _,by omega,digits_ascii 2 _,by omega,digits_ascii 2 _,by omega,digits_ascii 2 _,by omega,
    digits_ascii 2 _,by omega,digits_ascii 2 _,fraction_ascii _,offset⟩

/-- A reader takes what it needs from the front of the text. -/
abbrev Reader := StateT Text Option

def digit : Reader ℕ := fun text =>
  match text with
  | c :: rest => if 48 ≤ c ∧ c ≤ 57 then some (c - 48,rest) else none
  | [] => none

def number : ℕ → Reader ℕ
  | 0 => pure 0
  | width + 1 => do
      let n ← number width
      let d ← digit
      return n * 10 + d

def expect (c : ℕ) : Reader Unit := fun text =>
  match text with
  | d :: rest => if d = c then some ((),rest) else none
  | [] => none

def after (mark : ℕ) (p : Reader ℕ) : Reader ℕ := fun text =>
  match text with
  | d :: rest => if d = mark then p rest else some (0,text)
  | [] => some (0,[])

def readFraction : Reader ℕ := after 46 (number 6)

def readSeconds : Reader ℕ := do
  let seconds ← number 2
  let micro ← readFraction
  return seconds * 1000000 + micro

def readSize : Reader ℕ := do
  let hours ← number 2
  expect 58
  let minutes ← number 2
  let rest ← after 58 readSeconds
  return hours * 3600000000 + minutes * 60000000 + rest

def readOffset : Reader (Option ℤ) := fun text =>
  match text with
  | [] => some (none,[])
  | c :: rest =>
      if c = 43 then (readSize rest).map fun r => (some (r.1 : ℤ),r.2)
      else if c = 45 then (readSize rest).map fun r => (some (-(r.1 : ℤ)),r.2)
      else none

def readFields : Reader Fields := do
  let year ← number 4
  expect 45
  let month ← number 2
  expect 45
  let day ← number 2
  expect 84
  let hour ← number 2
  expect 58
  let minute ← number 2
  expect 58
  let second ← number 2
  let microsecond ← readFraction
  let utcoffset ← readOffset
  return ⟨year,month,day,hour,minute,second,microsecond,utcoffset⟩

def fromisoformat (text : Text) : Option DateTime :=
  match readFields text with
  | some (fields,[]) => if valid : fields.Valid then some ⟨fields,valid⟩ else none
  | _ => none

/-- The reader returns the value from this text, and leaves what follows it. -/
def Reads {α : Type} (p : Reader α) (written : Text) (value : α) (rest : Text) : Prop :=
  p (written ++ rest) = some (value,rest)

theorem Reads.bind {α β : Type} {p : Reader α} {f : α → Reader β} {first second rest : Text} {a : α} {b : β}
    (head : Reads p first a (second ++ rest)) (tail : Reads (f a) second b rest) :
    Reads (p >>= f) (first ++ second) b rest := by
  have step : p (first ++ (second ++ rest)) = some (a,second ++ rest) := head
  show Option.bind (p (first ++ second ++ rest)) (fun r => f r.1 r.2) = _
  rw [List.append_assoc,step]
  exact tail

theorem Reads.pure {α : Type} (a : α) (rest : Text) : Reads (pure a) [] a rest := rfl

theorem reads_expect (c : ℕ) (rest : Text) : Reads (expect c) [c] () rest := by simp [Reads,expect]

theorem reads_digit {d : ℕ} (small : d < 10) (rest : Text) : Reads digit [48 + d] d rest := by
  have range : 48 + d ≤ 57 := by omega
  simp [Reads,digit,range]

theorem reads_number (width : ℕ) : ∀ {n : ℕ}, n < 10 ^ width → ∀ rest, Reads (number width) (digits width n) n rest := by
  induction width with
  | zero =>
    intro n small rest
    obtain rfl : n = 0 := by omega
    exact Reads.pure 0 rest
  | succ width ih =>
    intro n small rest
    have leading : n / 10 < 10 ^ width := by
      rw [Nat.pow_succ] at small
      omega
    have last : n % 10 < 10 := Nat.mod_lt _ (by omega)
    have value : n / 10 * 10 + n % 10 = n := by omega
    have ends : Reads (do let d ← digit; return n / 10 * 10 + d) ([48 + n % 10] ++ []) (n / 10 * 10 + n % 10) rest :=
      (reads_digit last ([] ++ rest)).bind (Reads.pure _ rest)
    have whole := (ih leading ([48 + n % 10] ++ rest)).bind (f := fun m => do
      let d ← digit
      return m * 10 + d) ends
    rw [value] at whole
    exact whole

def Stops (mark : ℕ) (rest : Text) : Prop := rest.head? ≠ some mark

theorem reads_after_none {mark : ℕ} {p : Reader ℕ} {rest : Text} (stops : Stops mark rest) :
    Reads (after mark p) [] 0 rest := by
  cases rest with
  | nil => rfl
  | cons d rest =>
    have other : d ≠ mark := by simpa [Stops] using stops
    simp [Reads,after,other]

theorem reads_after_some {mark : ℕ} {p : Reader ℕ} {written rest : Text} {n : ℕ} (inner : Reads p written n rest) :
    Reads (after mark p) (mark :: written) n rest := by
  simp only [Reads,after,List.cons_append,if_true]
  exact inner

theorem reads_fraction {n : ℕ} (small : n < 1000000) {rest : Text} (stops : Stops 46 rest) :
    Reads readFraction (fraction n) n rest := by
  by_cases zero : n = 0
  · subst n
    exact reads_after_none stops
  · rw [fraction,if_neg zero]
    exact reads_after_some (reads_number 6 (by omega) rest)

theorem reads_offsetSeconds {n : ℕ} (small : n < 60000000) :
    Reads (after 58 readSeconds) (offsetSeconds n) n [] := by
  by_cases zero : n = 0
  · subst n
    exact reads_after_none (by simp [Stops])
  · rw [offsetSeconds,if_neg zero]
    have value : n / 1000000 * 1000000 + n % 1000000 = n := by omega
    have seconds := reads_number 2 (n := n / 1000000) (by omega) (fraction (n % 1000000) ++ [] ++ [])
    have micro : Reads readFraction (fraction (n % 1000000)) (n % 1000000) ([] ++ []) :=
      reads_fraction (by omega) (by simp [Stops])
    have whole := seconds.bind (f := fun s => do
      let micro ← readFraction
      return s * 1000000 + micro) (micro.bind (Reads.pure _ []))
    rw [value,List.append_nil] at whole
    exact reads_after_some whole

theorem reads_size {n : ℕ} (small : n < 86400000000) :
    Reads readSize (digits 2 (n / 3600000000) ++ 58 :: (digits 2 (n / 60000000 % 60) ++ offsetSeconds (n % 60000000)))
      n [] := by
  have value : n / 3600000000 * 3600000000 + n / 60000000 % 60 * 60000000 + n % 60000000 = n := by omega
  have last := (reads_offsetSeconds (n := n % 60000000) (by omega)).bind
    (f := fun r => pure (n / 3600000000 * 3600000000 + n / 60000000 % 60 * 60000000 + r)) (Reads.pure _ [])
  rw [value,List.append_nil] at last
  have minutes := (reads_number 2 (n := n / 60000000 % 60) (by omega) _).bind
    (f := fun m => do
      let r ← after 58 readSeconds
      pure (n / 3600000000 * 3600000000 + m * 60000000 + r)) last
  have colon := (reads_expect 58 _).bind (f := fun _ => do
      let m ← number 2
      let r ← after 58 readSeconds
      pure (n / 3600000000 * 3600000000 + m * 60000000 + r)) minutes
  exact (reads_number 2 (n := n / 3600000000) (by omega) _).bind colon

theorem reads_offset {offset : Option ℤ} (small : ∀ o ∈ offset, o.natAbs < 86400000000) :
    Reads readOffset (offset.elim [] offsetText) offset [] := by
  cases offset with
  | none => rfl
  | some o =>
    have size : readSize _ = some (o.natAbs,[]) := reads_size (small o rfl)
    rw [List.append_nil] at size
    by_cases negative : o < 0
    · have value : -(o.natAbs : ℤ) = o := by omega
      have minus : ¬(45 : ℕ) = 43 := by omega
      simp only [Reads,readOffset,offsetText,Option.elim_some,if_pos negative,List.append_nil,if_true,if_neg minus,size,
        Option.map_some,value]
    · have value : (o.natAbs : ℤ) = o := by omega
      simp only [Reads,readOffset,offsetText,Option.elim_some,if_neg negative,List.append_nil,if_true,size,
        Option.map_some,value]

theorem reads_fields {f : Fields} (valid : f.Valid) : Reads readFields f.isoformat f [] := by
  have year : f.year < 10 ^ 4 := by have := valid.year; omega
  have month : f.month < 10 ^ 2 := by have := valid.month; omega
  have day : f.day < 10 ^ 2 := by
    have range := valid.day
    have short : daysInMonth f.year f.month ≤ 31 := by
      unfold daysInMonth
      split_ifs <;> omega
    omega
  have hour : f.hour < 10 ^ 2 := by have := valid.hour; omega
  have minute : f.minute < 10 ^ 2 := by have := valid.minute; omega
  have second : f.second < 10 ^ 2 := by have := valid.second; omega
  -- neither the end nor a sign continues the fraction
  have marked : Stops 46 (f.utcoffset.elim [] offsetText ++ [] ++ []) := by
    cases f.utcoffset with
    | none => simp [Stops]
    | some o => by_cases negative : o < 0 <;> simp [Stops,offsetText,negative]
  rw [Fields.isoformat,← List.append_nil (f.utcoffset.elim [] offsetText)]
  apply (reads_number 4 year _).bind
  apply (reads_expect 45 _).bind
  apply (reads_number 2 month _).bind
  apply (reads_expect 45 _).bind
  apply (reads_number 2 day _).bind
  apply (reads_expect 84 _).bind
  apply (reads_number 2 hour _).bind
  apply (reads_expect 58 _).bind
  apply (reads_number 2 minute _).bind
  apply (reads_expect 58 _).bind
  apply (reads_number 2 second _).bind
  apply (reads_fraction valid.microsecond marked).bind
  exact (reads_offset valid.utcoffset).bind (Reads.pure _ [])

/-- A moment is read back from its text. -/
theorem fromisoformat_isoformat (t : DateTime) : fromisoformat (isoformat t) = some t := by
  obtain ⟨fields,valid⟩ := t
  have whole := reads_fields valid
  rw [Reads,List.append_nil] at whole
  simp [fromisoformat,isoformat,whole,valid]

end IsoTime
