import Mathlib.Algebra.GroupWithZero.Nat
import Mathlib.Data.List.Basic
import Mathlib.Tactic.SplitIfs

/-! A terminal in canonical mode: bytes come in and lines go out. The special characters are those
of a new Linux terminal without echo. -/
namespace Tty

abbrev Line := List Nat

inductive Special where
  | signal
  | erase
  | kill
  | wordErase
  | literalNext
  | eof
  | flow
  | newline
  deriving DecidableEq

def special (b : Nat) : Option Special :=
  if b = 3 ∨ b = 28 ∨ b = 26 then some .signal
  else if b = 127 then some .erase
  else if b = 21 then some .kill
  else if b = 23 then some .wordErase
  else if b = 22 then some .literalNext
  else if b = 4 then some .eof
  else if b = 17 ∨ b = 19 then some .flow
  else if b = 10 ∨ b = 13 then some .newline
  else none

/-- How many bytes a line holds before its end. -/
def lineLimit : Nat := 4095

structure Input where
  lines : List Line
  /-- The unfinished line, its last byte first. -/
  current : Line
  /-- The next byte stands for itself. -/
  literal : Bool
  received : Nat

def Input.start : Input := ⟨[],[],false,0⟩

/-- Bytes that do not fit are lost. -/
def Input.push (i : Input) (b : Nat) : Input := if i.current.length < lineLimit then { i with current := b :: i.current } else i

def isContinuation (utf8 : Bool) (b : Nat) : Bool := utf8 && decide (0x80 ≤ b ∧ b < 0xC0)

/-- The last character, and what is before it. A character is not erased in part. -/
def eraseChar (utf8 : Bool) (current : Line) : Option (Nat × Line) :=
  match current.dropWhile (isContinuation utf8) with
  | [] => none
  | c :: rest => some (c,rest)

def isWord (b : Nat) : Bool :=
  decide (48 ≤ b ∧ b ≤ 57) || decide (65 ≤ b ∧ b ≤ 90) || decide (97 ≤ b ∧ b ≤ 122) || b == 95 ||
    decide (0xC0 ≤ b ∧ b ≠ 0xD7 ∧ b ≠ 0xF7)

/-- The last word and what follows it, as far as so many characters. -/
def eraseWord (utf8 : Bool) : Nat → Bool → Line → Line
  | 0, _, current => current
  | bound + 1, seen, current =>
    match eraseChar utf8 current with
    | none => current
    | some (c,rest) =>
      if isWord c then eraseWord utf8 bound true rest else if seen then current else eraseWord utf8 bound false rest

/-- The effect of a special character. A signal drops the input but for the lines that have been read. -/
def interpret (utf8 : Bool) (taken : Nat → Nat) (i : Input) : Special → Input
  | .signal => { i with lines := i.lines.take (taken i.received), current := [] }
  | .erase =>
      match eraseChar utf8 i.current with
      | none => i
      | some (_,rest) => { i with current := rest }
  | .kill => { i with current := [] }
  | .wordErase => { i with current := eraseWord utf8 i.current.length false i.current }
  | .literalNext => { i with literal := true }
  | .eof | .newline => { i with lines := i.lines ++ [i.current.reverse], current := [] }
  | .flow => i

def accept (utf8 : Bool) (taken : Nat → Nat) (i : Input) (b : Nat) : Input :=
  if i.literal then { i with literal := false }.push b
  else match special b with
    | none => i.push b
    | some kind => interpret utf8 taken i kind

def receive (utf8 : Bool) (taken : Nat → Nat) (i : Input) (b : Nat) : Input :=
  { accept utf8 taken i b with received := i.received + 1 }

/-- The lines that come out. `taken` says how many have been read when a signal drops the others. -/
def deliver (utf8 : Bool) (taken : Nat → Nat) (bytes : List Nat) : List Line := (bytes.foldl (receive utf8 taken) .start).lines

section Accounts

variable {utf8 : Bool} {taken : Nat → Nat} {i : Input} {b : Nat}

def Input.size (i : Input) : Nat := (i.lines.map fun line => line.length + 1).sum + i.current.length

def Input.Marked (i : Input) : Prop := ∃ b, special b ≠ none ∧ (b ∈ i.current ∨ ∃ line ∈ i.lines, b ∈ line)

/-- Every byte that came makes the input longer by one at most, and one did not if a special
character has been taken for itself. -/
structure Account (i : Input) : Prop where
  size : i.size ≤ i.received
  literal : i.literal = true → i.size + 1 ≤ i.received
  marked : i.Marked → i.size + 1 ≤ i.received
  short : i.current.length ≤ lineLimit
  lines : ∀ line ∈ i.lines, line.length ≤ lineLimit

theorem Account.start : Account .start where
  size := Nat.le_refl _
  literal h := by cases h
  marked h := by simp [Input.Marked,Input.start] at h
  short := Nat.zero_le _
  lines := by simp [Input.start]

@[simp] theorem push_lines : (i.push b).lines = i.lines := by unfold Input.push; split_ifs <;> rfl
@[simp] theorem push_literal : (i.push b).literal = i.literal := by unfold Input.push; split_ifs <;> rfl
@[simp] theorem push_received : (i.push b).received = i.received := by unfold Input.push; split_ifs <;> rfl

theorem push_size : (i.push b).size ≤ i.size + 1 := by
  unfold Input.push
  split_ifs
  · simp [Input.size,Nat.add_assoc]
  · exact Nat.le_succ _

theorem mem_push {c : Nat} (member : c ∈ (i.push b).current) : c = b ∨ c ∈ i.current := by
  unfold Input.push at member
  split_ifs at member
  · exact List.mem_cons.mp member
  · exact .inr member

theorem push_short (short : i.current.length ≤ lineLimit) : (i.push b).current.length ≤ lineLimit := by
  unfold Input.push
  split_ifs with room
  · exact room
  · exact short

theorem eraseChar_suffix {current rest : Line} {c : Nat} (erased : eraseChar utf8 current = some (c,rest)) : rest <:+ current := by
  unfold eraseChar at erased
  split at erased
  · cases erased
  · rename_i shape
    obtain ⟨rfl,rfl⟩ := Prod.mk.inj (Option.some.inj erased)
    exact (List.suffix_cons _ _).trans (shape ▸ List.dropWhile_suffix _)

theorem eraseWord_suffix (bound : Nat) (seen : Bool) (current : Line) : eraseWord utf8 bound seen current <:+ current := by
  induction bound generalizing seen current with
  | zero => exact List.suffix_rfl
  | succ bound ih =>
    rw [eraseWord]
    split
    · exact List.suffix_rfl
    · rename_i erased
      split_ifs
      · exact (ih true _).trans (eraseChar_suffix erased)
      · exact List.suffix_rfl
      · exact (ih false _).trans (eraseChar_suffix erased)

structure Shrinks (i i' : Input) : Prop where
  lines : i'.lines <+: i.lines
  current : i'.current <:+ i.current
  received : i'.received = i.received

theorem Shrinks.size {i' : Input} (shrinks : Shrinks i i') : i'.size ≤ i.size := by
  obtain ⟨dropped,lines⟩ := shrinks.lines
  have current := shrinks.current.length_le
  unfold Input.size
  rw [← lines,List.map_append,List.sum_append]
  omega

theorem Shrinks.marked {i' : Input} (shrinks : Shrinks i i') (marked : i'.Marked) : i.Marked := by
  obtain ⟨b,control,member | ⟨line,member,inside⟩⟩ := marked
  · exact ⟨b,control,.inl (shrinks.current.mem member)⟩
  · exact ⟨b,control,.inr ⟨line,shrinks.lines.mem member,inside⟩⟩

theorem interpret_shrinks {kind : Special} (inner : kind ≠ .eof ∧ kind ≠ .newline) :
    Shrinks i (interpret utf8 taken i kind) := by
  cases kind with
  | signal => exact ⟨List.take_prefix _ _,List.nil_suffix,rfl⟩
  | erase =>
    rw [interpret]
    split
    · exact ⟨List.prefix_rfl,List.suffix_rfl,rfl⟩
    · rename_i erased
      exact ⟨List.prefix_rfl,eraseChar_suffix erased,rfl⟩
  | kill => exact ⟨List.prefix_rfl,List.nil_suffix,rfl⟩
  | wordErase => exact ⟨List.prefix_rfl,eraseWord_suffix _ _ _,rfl⟩
  | literalNext => exact ⟨List.prefix_rfl,List.suffix_rfl,rfl⟩
  | flow => exact ⟨List.prefix_rfl,List.suffix_rfl,rfl⟩
  | eof => exact absurd rfl inner.1
  | newline => exact absurd rfl inner.2

/-- A byte that adds nothing. -/
theorem Account.shrink {i' : Input} (a : Account i) (shrinks : Shrinks i i') : Account { i' with received := i.received + 1 } where
  size := by
    have := shrinks.size
    have := a.size
    simp only [Input.size] at *
    omega
  literal _ := by
    have := shrinks.size
    have := a.size
    simp only [Input.size] at *
    omega
  marked _ := by
    have := shrinks.size
    have := a.size
    simp only [Input.size] at *
    omega
  short := Nat.le_trans shrinks.current.length_le a.short
  lines line member := a.lines line (shrinks.lines.mem member)

/-- The end of a line. -/
theorem Account.endLine (a : Account i) (plain : i.literal = false) :
    Account { i with lines := i.lines ++ [i.current.reverse], current := [], received := i.received + 1 } := by
  have grown : Input.size { i with lines := i.lines ++ [i.current.reverse], current := [], received := i.received + 1 } = i.size + 1 := by
    simp [Input.size]
    omega
  constructor
  · rw [grown]
    exact Nat.succ_le_succ a.size
  · intro literal
    rw [plain] at literal
    cases literal
  · intro marked
    rw [grown]
    apply Nat.succ_le_succ
    apply a.marked
    obtain ⟨b,control,member | ⟨line,member,inside⟩⟩ := marked
    · simp at member
    · rcases List.mem_append.mp member with old | new
      · exact ⟨b,control,.inr ⟨line,old,inside⟩⟩
      · obtain rfl := List.mem_singleton.mp new
        exact ⟨b,control,.inl (List.mem_reverse.mp inside)⟩
  · exact Nat.zero_le _
  · intro line member
    rcases List.mem_append.mp member with old | new
    · exact a.lines line old
    · obtain rfl := List.mem_singleton.mp new
      rw [List.length_reverse]
      exact a.short

theorem Account.pushLiteral (a : Account i) (literal : i.literal = true) :
    Account { Input.push { i with literal := false } b with received := i.received + 1 } := by
  have grown := push_size (i := { i with literal := false }) (b := b)
  have room := a.literal literal
  constructor
  · simp only [Input.size] at *
    omega
  · intro still
    simp at still
  · intro _
    simp only [Input.size] at *
    omega
  · exact push_short a.short
  · simpa using a.lines

theorem Account.pushPlain (a : Account i) (plain : i.literal = false) (ordinary : special b = none) :
    Account { i.push b with received := i.received + 1 } := by
  have grown := push_size (i := i) (b := b)
  have room := a.size
  constructor
  · simp only [Input.size] at *
    omega
  · intro still
    simp [plain] at still
  · intro marked
    have before : i.Marked := by
      obtain ⟨c,control,member | ⟨line,member,inside⟩⟩ := marked
      · rcases mem_push member with rfl | old
        · exact absurd ordinary control
        · exact ⟨c,control,.inl old⟩
      · exact ⟨c,control,.inr ⟨line,by simpa using member,inside⟩⟩
    have := a.marked before
    simp only [Input.size] at *
    omega
  · exact push_short a.short
  · simpa using a.lines

theorem Account.receive (a : Account i) : Account (receive utf8 taken i b) := by
  rw [Tty.receive,accept]
  split_ifs with literal
  · exact a.pushLiteral literal
  · rw [Bool.not_eq_true] at literal
    cases found : special b with
    | none => exact a.pushPlain literal found
    | some kind =>
      by_cases inner : kind ≠ .eof ∧ kind ≠ .newline
      · exact a.shrink (interpret_shrinks inner)
      · rw [not_and_or,not_not,not_not] at inner
        rcases inner with rfl | rfl
        · exact a.endLine literal
        · exact a.endLine literal

theorem Account.foldl (a : Account i) (bytes : List Nat) : Account (bytes.foldl (Tty.receive utf8 taken) i) := by
  induction bytes generalizing i with
  | nil => exact a
  | cons b rest ih => exact ih a.receive

theorem received_foldl (bytes : List Nat) : (bytes.foldl (receive utf8 taken) i).received = i.received + bytes.length := by
  induction bytes generalizing i with
  | nil => rfl
  | cons b rest ih =>
    have next : (receive utf8 taken i b).received = i.received + 1 := rfl
    rw [List.foldl_cons,ih,next,List.length_cons]
    omega

end Accounts

section Lines

variable {utf8 : Bool} {taken : Nat → Nat} {bytes : Line}

def Fits (bytes : Line) : Prop := (∀ b ∈ bytes, special b = none) ∧ bytes.length ≤ lineLimit

instance (bytes : Line) : Decidable (Fits bytes) := by
  unfold Fits
  infer_instance

theorem foldl_plain (i : Input) (plain : i.literal = false) (ordinary : ∀ b ∈ bytes, special b = none)
    (room : i.current.length + bytes.length ≤ lineLimit) :
    bytes.foldl (receive utf8 taken) i =
      { i with current := bytes.reverse ++ i.current, received := i.received + bytes.length } := by
  induction bytes generalizing i with
  | nil => rfl
  | cons b rest ih =>
    rw [List.length_cons] at room
    have push : receive utf8 taken i b = { i with current := b :: i.current, received := i.received + 1 } := by
      simp only [receive,accept,plain,Bool.false_eq_true,if_false,ordinary b List.mem_cons_self,Input.push]
      rw [if_pos (by omega)]
    have later := ih { i with current := b :: i.current, received := i.received + 1 } plain
      (fun c member => ordinary c (List.mem_cons_of_mem _ member)) (by rw [List.length_cons]; omega)
    rw [List.foldl_cons,push,later]
    simp [Nat.add_comm,Nat.add_left_comm]

/-- One more line. -/
theorem foldl_line (fits : Fits bytes) (lines : List Line) (received : Nat) :
    (bytes ++ [10]).foldl (receive utf8 taken) ⟨lines,[],false,received⟩ =
      ⟨lines ++ [bytes],[],false,received + bytes.length + 1⟩ := by
  rw [List.foldl_append,foldl_plain _ rfl fits.1 (by simpa using fits.2)]
  simp [receive,accept,special,interpret]

/-- A text that is written twice with the ends of two lines is delivered as these two lines exactly
if it fits into one. -/
theorem deliver_twice : (deliver utf8 taken (bytes ++ [10] ++ (bytes ++ [10]))).take 2 = [bytes,bytes] ↔ Fits bytes := by
  constructor
  · intro twice
    have account : Account ((bytes ++ [10] ++ (bytes ++ [10])).foldl (receive utf8 taken) .start) := Account.start.foldl _
    have received : ((bytes ++ [10] ++ (bytes ++ [10])).foldl (receive utf8 taken) .start).received =
        Input.start.received + (bytes ++ [10] ++ (bytes ++ [10])).length := received_foldl _
    rw [deliver] at twice
    generalize (bytes ++ [10] ++ (bytes ++ [10])).foldl (receive utf8 taken) .start = i at twice account received
    have first : bytes ∈ i.lines := List.mem_of_mem_take (twice ▸ List.mem_cons_self)
    refine ⟨fun b member => ?_,account.lines bytes first⟩
    -- two such lines take all bytes, so that none is left for what makes a special character literal
    by_contra control
    have room := account.marked ⟨b,control,.inr ⟨bytes,first,member⟩⟩
    have lines : i.lines = [bytes,bytes] ++ i.lines.drop 2 := by rw [← twice,List.take_append_drop]
    rw [Input.size,lines,received] at room
    simp [Input.start] at room
    omega
  · intro fits
    rw [deliver,Input.start,List.foldl_append,foldl_line fits,foldl_line fits]
    rfl

end Lines

end Tty
