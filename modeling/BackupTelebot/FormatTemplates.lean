import Mathlib.Data.List.Basic
import Mathlib.Tactic.SplitIfs

/-! `str.format` with named fields, as far as a field is a plain name with a plain specification. -/
namespace PyFormat

abbrev Text := List Nat

/-- A text with its characters beside it, which the kernel does not have to decode. -/
def text (source : String) {characters : List Char} (_same : source = String.ofList characters) : Text :=
  characters.map Char.toNat

inductive Piece where
  | literal (text : Text)
  | field (name spec : Text)
  deriving DecidableEq, Repr

def opening : Nat := 123
def closing : Nat := 125
def colon : Nat := 58

def isNameChar (c : Nat) : Bool :=
  decide (48 ≤ c ∧ c ≤ 57) || decide (65 ≤ c ∧ c ≤ 90) || c == 95 || decide (97 ≤ c ∧ c ≤ 122)

/-- What stands between the braces. Conversions, attributes, indices and numbered fields are
not read. -/
def field (content : Text) : Option Piece :=
  let name := content.takeWhile (· ≠ colon)
  if name.all isNameChar && name.any (fun c => !decide (48 ≤ c ∧ c ≤ 57)) then
    some (.field name (content.drop (name.length + 1)))
  else none

/-- Where the reader is; what it has read stands in reverse. -/
inductive Reading where
  | literal (text : Text)
  | opened (text : Text)
  | closed (text : Text)
  | field (content : Text)

def flush (text : Text) : List Piece := if text = [] then [] else [.literal text.reverse]

def parseFrom : Reading → Text → Option (List Piece)
  | .literal text, [] => some (flush text)
  | .opened _, [] => none
  | .closed _, [] => none
  | .field _, [] => none
  | .literal text, c :: rest =>
      if c = opening then parseFrom (.opened text) rest
      else if c = closing then parseFrom (.closed text) rest
      else parseFrom (.literal (c :: text)) rest
  | .opened text, c :: rest =>
      if c = opening then parseFrom (.literal (opening :: text)) rest
      else if c = closing then none
      else (parseFrom (.field [c]) rest).map (flush text ++ ·)
  | .closed text, c :: rest => if c = closing then parseFrom (.literal (closing :: text)) rest else none
  | .field content, c :: rest =>
      if c = closing then
        match field content.reverse with
        | some piece => (parseFrom (.literal []) rest).map (piece :: ·)
        | none => none
      else if c = opening then none
      else parseFrom (.field (c :: content)) rest

def parse (template : Text) : Option (List Piece) := parseFrom (.literal []) template

def render {ε : Type} (value : Text → Text → Except ε Text) : List Piece → Except ε Text
  | [] => .ok []
  | .literal text :: rest => do
      let behind ← render value rest
      return text ++ behind
  | .field name spec :: rest => do
      let text ← value name spec
      let behind ← render value rest
      return text ++ behind

section Returns

variable {ε α β : Type} {Q : α → Prop} {R : β → Prop}

def Returns (Q : α → Prop) (x : Except ε α) : Prop := ∀ a, x = .ok a → Q a

theorem returns_ok {a : α} (holds : Q a) : Returns Q (.ok a : Except ε α) := by
  intro b same
  cases same
  exact holds

theorem returns_error {e : ε} : Returns Q (.error e) := by
  intro a same
  cases same

theorem Returns.bind {x : Except ε α} {next : α → Except ε β} (first : Returns Q x)
    (then_ : ∀ a, x = .ok a → Q a → Returns R (next a)) : Returns R (x >>= next) := by
  intro b reached
  cases here : x with
  | error e => rw [here] at reached; cases reached
  | ok a =>
    rw [here] at reached
    exact then_ a here (first a here) b reached

theorem returns_any (x : Except ε α) : Returns (fun _ => True) x := fun _ _ => trivial

end Returns

section Both

variable {ε α β α' β' : Type} {R : α → β → Prop} {S : α' → β' → Prop}

def Both (R : α → β → Prop) (one : Except ε α) (other : Except ε β) : Prop :=
  ∀ a b, one = .ok a → other = .ok b → R a b

theorem both_ok {a : α} {b : β} (related : R a b) : Both R (.ok a : Except ε α) (.ok b) := by
  intro a' b' first second
  cases first
  cases second
  exact related

theorem both_error {e : ε} {other : Except ε β} : Both R (.error e) other := by
  intro a b first
  cases first

theorem both_any (one : Except ε α) (other : Except ε β) : Both (fun _ _ => True) one other := fun _ _ _ _ => trivial

theorem Both.bind {one : Except ε α} {other : Except ε β} {next : α → Except ε α'} {next' : β → Except ε β'}
    (first : Both R one other) (then_ : ∀ a b, R a b → Both S (next a) (next' b)) :
    Both S (one >>= next) (other >>= next') := by
  intro a b reached reached'
  cases here : one with
  | error e => rw [here] at reached; cases reached
  | ok found =>
    cases there : other with
    | error e => rw [there] at reached'; cases reached'
    | ok found' =>
      rw [here] at reached
      rw [there] at reached'
      exact then_ found found' (first found found' here there) a b reached reached'

theorem Both.map {one : Except ε α} {other : Except ε β} {f : α → α'} {f' : β → β'} (both : Both R one other)
    (related : ∀ a b, R a b → S (f a) (f' b)) : Both S (one.map f) (other.map f') :=
  both.bind fun a b found => both_ok (related a b found)

theorem Both.mono {T : α → β → Prop} {one : Except ε α} {other : Except ε β} (both : Both R one other)
    (implies : ∀ a b, R a b → T a b) : Both T one other :=
  fun a b first second => implies a b (both a b first second)

/-- What holds between the literals and between the values holds between the renderings. -/
theorem both_render {R : Text → Text → Prop} {value value' : Text → Text → Except ε Text} {pieces : List Piece}
    (nil : R [] []) (append : ∀ {a b c d}, R a b → R c d → R (a ++ c) (b ++ d))
    (literals : ∀ text, .literal text ∈ pieces → R text text)
    (fields : ∀ name spec, .field name spec ∈ pieces → Both R (value name spec) (value' name spec)) :
    Both R (render value pieces) (render value' pieces) := by
  induction pieces with
  | nil => exact both_ok nil
  | cons piece rest ih =>
    have behind := ih (fun text member => literals text (List.mem_cons_of_mem _ member))
      fun name spec member => fields name spec (List.mem_cons_of_mem _ member)
    cases piece with
    | literal text =>
      exact behind.bind fun more more' related => both_ok (append (literals text List.mem_cons_self) related)
    | field name spec =>
      exact (fields name spec List.mem_cons_self).bind fun here here' first =>
        behind.bind fun more more' second => both_ok (append first second)

end Both

end PyFormat
