import Mathlib.Data.List.Lex
import Mathlib.Data.Nat.Notation
import Mathlib.Order.Lattice

/-! Conditions of SQL. A column without a value makes a comparison unknown, and a CHECK
constraint refuses a row only where its condition is false. -/
namespace Sql

/-- Truth with a third value; `none` is unknown. -/
abbrev Truth := Option Bool

namespace Truth

def and : Truth → Truth → Truth
  | some false,_ => some false
  | some true,b => b
  | none,some false => some false
  | none,_ => none

def or : Truth → Truth → Truth
  | some true,_ => some true
  | some false,b => b
  | none,some true => some true
  | none,_ => none

def not (a : Truth) : Truth := a.map (!·)

/-- What a CHECK constraint lets pass. -/
def passes (a : Truth) : Prop := a ≠ some false

instance (a : Truth) : Decidable a.passes := inferInstanceAs (Decidable (a ≠ some false))

/-- Unknown never refuses, so a conjunction passes exactly if both sides do. -/
@[simp] theorem and_passes (a b : Truth) : (a.and b).passes ↔ a.passes ∧ b.passes := by
  rcases a with _ | _ | _ <;> rcases b with _ | _ | _ <;> decide

@[simp] theorem or_passes (a b : Truth) : (a.or b).passes ↔ a.passes ∨ b.passes := by
  rcases a with _ | _ | _ <;> rcases b with _ | _ | _ <;> decide

end Truth

section Comparisons

variable {α : Type}

def isNull (x : Option α) : Truth := some x.isNone

def isNotNull (x : Option α) : Truth := some x.isSome

/-- A comparison with constants: unknown without a value. -/
def test (p : α → Bool) (x : Option α) : Truth := x.map p

def eq [DecidableEq α] (x : Option α) (value : α) : Truth := test (fun a => a = value) x

def ne [DecidableEq α] (x : Option α) (value : α) : Truth := test (fun a => a ≠ value) x

def isIn [DecidableEq α] (x : Option α) (values : List α) : Truth := test (fun a => values.contains a) x

def notIn [DecidableEq α] (x : Option α) (values : List α) : Truth := (isIn x values).not

def le [LE α] [DecidableLE α] (x : Option α) (high : α) : Truth := test (fun a => a ≤ high) x

def gt [LT α] [DecidableLT α] (x : Option α) (low : α) : Truth := test (fun a => low < a) x

def between [LE α] [DecidableLE α] (x : Option α) (low high : α) : Truth := test (fun a => low ≤ a && a ≤ high) x

@[simp] theorem isNull_passes (x : Option α) : (isNull x).passes ↔ x = none := by
  cases x <;> simp [isNull,Truth.passes]

@[simp] theorem test_passes (p : α → Bool) (x : Option α) : (test p x).passes ↔ ∀ a, x = some a → p a = true := by
  cases x <;> simp [test,Truth.passes]

variable [DecidableEq α]

@[simp] theorem eq_passes (x : Option α) (value : α) : (eq x value).passes ↔ ∀ a, x = some a → a = value := by
  simp [eq]

@[simp] theorem notIn_passes (x : Option α) (values : List α) :
    (notIn x values).passes ↔ ∀ a, x = some a → a ∉ values := by
  cases x <;> simp [notIn,isIn,test,Truth.not,Truth.passes]

end Comparisons

section Texts

def length (x : Option (List ℕ)) : Option ℕ := x.map (·.length)

/-- `substr`, with positions from one. -/
def substr (x : Option (List ℕ)) (start count : ℕ) : Option (List ℕ) := x.map fun text => (text.drop (start - 1)).take count

end Texts

end Sql
