import Mathlib.Data.List.Basic
import Mathlib.Logic.Function.Basic

/-! Transactions that read what is committed, lock single rows until they end, and insert
into a table with unique keys. A transaction that would insert what an open transaction
has inserted already waits for it; against what is committed it fails at once. Nothing
here fixes what the rows hold. -/
namespace Transactions

/-- A database as its transactions see it. A draft is what a transaction has written, as
the change it makes of the committed contents; what it has inserted into the table of
unique rows is kept apart. `history` holds everything that was ever committed. -/
structure Db (δ κ ρ : Type) where
  contents : δ
  draft : Nat → δ → δ
  holder : κ → Option Nat
  rows : List ρ
  inserted : List (Nat × ρ)
  history : List δ

namespace Db

variable {δ κ ρ : Type}

def sees (db : Db δ κ ρ) (t : Nat) : δ := db.draft t db.contents

def insertedBy (db : Db δ κ ρ) (t : Nat) : List ρ := (db.inserted.filter (·.1 = t)).map Prod.snd

/-- The rows that a transaction reads: the committed ones and its own. -/
def table (db : Db δ κ ρ) (t : Nat) : List ρ := db.rows ++ db.insertedBy t

def free (db : Db δ κ ρ) (t : Nat) (k : κ) : Bool := (db.holder k).all (· = t)

def lock [DecidableEq κ] (db : Db δ κ ρ) (t : Nat) (k : κ) : Db δ κ ρ :=
  { db with holder := Function.update db.holder k (some t) }

def write (db : Db δ κ ρ) (t : Nat) (change : δ → δ) : Db δ κ ρ :=
  { db with draft := Function.update db.draft t (change ∘ db.draft t) }

def insert (db : Db δ κ ρ) (t : Nat) (row : ρ) : Db δ κ ρ := { db with inserted := db.inserted ++ [(t,row)] }

def release (db : Db δ κ ρ) (t : Nat) : κ → Option Nat := fun k => if db.holder k = some t then none else db.holder k

def commit (db : Db δ κ ρ) (t : Nat) : Db δ κ ρ where
  contents := db.sees t
  draft := Function.update db.draft t id
  holder := db.release t
  rows := db.table t
  inserted := db.inserted.filter (·.1 ≠ t)
  history := db.sees t :: db.history

def rollback (db : Db δ κ ρ) (t : Nat) : Db δ κ ρ :=
  { db with
    draft := Function.update db.draft t id
    holder := db.release t
    inserted := db.inserted.filter (·.1 ≠ t) }

/-- A statement that changes committed rows, together with its commit. -/
def amend (db : Db δ κ ρ) (change : ρ → ρ) : Db δ κ ρ := { db with rows := db.rows.map change }

def everything (db : Db δ κ ρ) : List ρ := db.rows ++ db.inserted.map Prod.snd

section Clash

variable (clash : ρ → ρ → Prop) [DecidableRel clash]

/-- Nobody else has an open insertion with the same key. -/
def clear (db : Db δ κ ρ) (t : Nat) (row : ρ) : Bool := db.inserted.all fun other => other.1 = t || !decide (clash row other.2)

def taken (db : Db δ κ ρ) (t : Nat) (row : ρ) : Bool := (db.table t).any fun other => decide (clash row other)

def Unique (db : Db δ κ ρ) : Prop := db.everything.Pairwise fun a b => ¬clash a b

instance (db : Db δ κ ρ) : Decidable (db.Unique clash) := by
  unfold Unique
  infer_instance

end Clash

theorem mem_insertedBy {db : Db δ κ ρ} {t : Nat} {row : ρ} : row ∈ db.insertedBy t ↔ (t,row) ∈ db.inserted := by
  simp [insertedBy]

theorem mem_table {db : Db δ κ ρ} {t : Nat} {row : ρ} : row ∈ db.table t ↔ row ∈ db.rows ∨ (t,row) ∈ db.inserted := by
  rw [table,List.mem_append,mem_insertedBy]

theorem free_iff {db : Db δ κ ρ} {t : Nat} {k : κ} : db.free t k = true ↔ db.holder k = none ∨ db.holder k = some t := by
  unfold free
  cases db.holder k <;> simp

variable (Same : κ → δ → δ → Prop) (Lasts : ρ → ρ → Prop)

/-- What a transaction finds again, whatever the others do: its own writes, its locks, the
rows it has locked, and in some form every committed row. -/
structure Kept (t : Nat) (a b : Db δ κ ρ) : Prop where
  draft : b.draft t = a.draft t
  inserted : b.insertedBy t = a.insertedBy t
  holder : ∀ k, a.holder k = some t → b.holder k = some t
  contents : ∀ k, a.holder k = some t → Same k a.contents b.contents
  rows : ∀ row ∈ a.rows, ∃ later ∈ b.rows, Lasts row later
  history : ∀ c ∈ a.history, c ∈ b.history

/-- A draft changes only rows that its transaction has locked. -/
def Disciplined (db : Db δ κ ρ) : Prop := ∀ t k c, db.holder k ≠ some t → Same k c (db.draft t c)

/-- What holds of a database between any two operations. -/
structure Valid (clash : ρ → ρ → Prop) (db : Db δ κ ρ) : Prop where
  disciplined : db.Disciplined Same
  unique : db.Unique clash
  recorded : db.contents ∈ db.history

structure Moves (clash : ρ → ρ → Prop) (t : Nat) (a b : Db δ κ ρ) : Prop where
  kept : ∀ u, u ≠ t → Kept Same Lasts u a b
  valid : Valid Same clash a → Valid Same clash b

section Laws

variable {Same Lasts} {clash : ρ → ρ → Prop} {t : Nat} {a b c : Db δ κ ρ}
variable (same : ∀ k, Equivalence (Same k)) (lasts : ∀ row, Lasts row row)
include same lasts

theorem Kept.refl (t : Nat) (a : Db δ κ ρ) : Kept Same Lasts t a a :=
  ⟨rfl,rfl,fun _ h => h,fun k _ => (same k).refl _,fun row member => ⟨row,member,lasts row⟩,fun _ h => h⟩

omit lasts in
theorem Kept.trans (trans : ∀ {x y z}, Lasts x y → Lasts y z → Lasts x z) (first : Kept Same Lasts t a b)
    (second : Kept Same Lasts t b c) : Kept Same Lasts t a c where
  draft := second.draft.trans first.draft
  inserted := second.inserted.trans first.inserted
  holder := fun k h => second.holder k (first.holder k h)
  contents := fun k h => (same k).trans (first.contents k h) (second.contents k (first.holder k h))
  rows := by
    intro row member
    obtain ⟨middle,there,lasted⟩ := first.rows row member
    obtain ⟨last,here,lasted'⟩ := second.rows middle there
    exact ⟨last,here,trans lasted lasted'⟩
  history := fun c h => second.history c (first.history c h)

theorem Moves.refl (t : Nat) (a : Db δ κ ρ) : Moves Same Lasts clash t a a :=
  ⟨fun u _ => Kept.refl same lasts u a,id⟩

theorem moves_lock [DecidableEq κ] {k : κ} (open_ : a.free t k = true) : Moves Same Lasts clash t a (a.lock t k) where
  kept := by
    intro u other
    refine ⟨rfl,rfl,fun k' held => ?_,fun k' _ => (same k').refl _,fun row member => ⟨row,member,lasts row⟩,fun _ h => h⟩
    by_cases here : k' = k
    · subst k'
      rcases free_iff.mp open_ with none_ | mine
      · simp [held] at none_
      · rw [held] at mine
        exact absurd (Option.some.inj mine) other
    · simpa [lock,here] using held
  valid := by
    intro valid
    refine ⟨fun u k' c held => ?_,valid.unique,valid.recorded⟩
    apply valid.disciplined
    intro before
    by_cases here : k' = k
    · subst k'
      rcases free_iff.mp open_ with none_ | mine
      · simp [before] at none_
      · rw [before] at mine
        exact held (by simpa [lock] using mine.symm)
    · exact held (by simpa [lock,here] using before)

/-- A transaction writes to rows that it has locked. -/
theorem moves_write {change : δ → δ} (locked : ∀ k c, a.holder k ≠ some t → Same k c (change c)) :
    Moves Same Lasts clash t a (a.write t change) where
  kept := by
    intro u other
    refine ⟨?_,rfl,fun _ h => h,fun k _ => (same k).refl _,fun row member => ⟨row,member,lasts row⟩,fun _ h => h⟩
    exact Function.update_of_ne other _ _
  valid := by
    intro valid
    refine ⟨fun u k c held => ?_,valid.unique,valid.recorded⟩
    by_cases mine : u = t
    · subst u
      simp only [write,Function.update_self,Function.comp]
      exact (same k).trans (valid.disciplined t k c held) (locked k _ held)
    · simp only [write,Function.update_of_ne mine]
      exact valid.disciplined u k c held

/-- What can be inserted keeps the keys unique. -/
theorem moves_insert [DecidableRel clash] (symmetric : ∀ x y, clash x y → clash y x) {row : ρ}
    (waited : a.clear clash t row = true) (fresh : a.taken clash t row = false) :
    Moves Same Lasts clash t a (a.insert t row) where
  kept := by
    intro u other
    refine ⟨rfl,?_,fun _ h => h,fun k _ => (same k).refl _,fun row member => ⟨row,member,lasts row⟩,fun _ h => h⟩
    simp [insertedBy,insert,Ne.symm other]
  valid := by
    intro valid
    refine ⟨valid.disciplined,?_,valid.recorded⟩
    have apart (other : ρ) (member : other ∈ a.everything) : ¬clash other row := by
      intro clashes
      have clashes := symmetric _ _ clashes
      have seen (here : other ∈ a.table t) : False := by
        simp only [taken,List.any_eq_false,decide_eq_true_eq] at fresh
        exact fresh other here clashes
      rcases List.mem_append.mp member with committed | open_
      · exact seen (mem_table.mpr (.inl committed))
      · obtain ⟨⟨u,_⟩,there,rfl⟩ := List.mem_map.mp open_
        simp only [clear,List.all_eq_true,Bool.or_eq_true,decide_eq_true_eq,Bool.not_eq_true',decide_eq_false_iff_not] at waited
        rcases waited _ there with mine | clear_
        · subst mine
          exact seen (mem_table.mpr (.inr there))
        · exact clear_ clashes
    unfold Unique everything insert
    rw [List.map_append,← List.append_assoc,List.pairwise_append]
    refine ⟨valid.unique,by simp,?_⟩
    intro other member last lastMember
    obtain rfl : last = row := by simpa using lastMember
    exact apart other member

omit same lasts in
/-- The rows of all transactions, with those of one of them next to the committed ones. -/
theorem everything_perm (t : Nat) (a : Db δ κ ρ) :
    a.everything.Perm (a.table t ++ (a.inserted.filter (·.1 ≠ t)).map Prod.snd) := by
  unfold everything table insertedBy
  rw [List.append_assoc,← List.map_append]
  apply List.Perm.append_left
  apply List.Perm.map
  have split := (List.filter_append_perm (fun entry : Nat × ρ => decide (entry.1 = t)) a.inserted).symm
  simpa using split

theorem moves_commit (symmetric : ∀ x y, clash x y → clash y x) (disciplined : Valid Same clash a) :
    Moves Same Lasts clash t a (a.commit t) where
  kept := by
    intro u other
    refine ⟨Function.update_of_ne other _ _,?_,fun k held => ?_,fun k held => ?_,fun row member => ?_,fun c h => ?_⟩
    · unfold insertedBy commit
      rw [List.filter_filter]
      congr 1
      apply List.filter_congr
      intro entry _
      by_cases theirs : entry.1 = u
      · simp [theirs,other]
      · simp [theirs]
    · simp only [commit,release]
      rw [if_neg (by rw [held]; exact fun same => other (Option.some.inj same)),held]
    · apply disciplined.disciplined
      rw [held]
      exact fun same => other (Option.some.inj same)
    · exact ⟨row,mem_table.mpr (.inl member),lasts row⟩
    · exact List.mem_cons_of_mem _ h
  valid := by
    intro valid
    refine ⟨fun u k c held => ?_,?_,List.mem_cons_self⟩
    · by_cases mine : u = t
      · subst u
        simp only [commit,Function.update_self]
        exact (same k).refl _
      · simp only [commit,Function.update_of_ne mine]
        apply valid.disciplined
        intro before
        apply held
        simp only [commit,release]
        rw [if_neg (by rw [before]; exact fun same => mine (Option.some.inj same)),before]
    · have perm := everything_perm t a
      exact (perm.pairwise_iff fun unlike clashes => unlike (symmetric _ _ clashes)).mp valid.unique

theorem moves_rollback : Moves Same Lasts clash t a (a.rollback t) where
  kept := by
    intro u other
    refine ⟨Function.update_of_ne other _ _,?_,fun k held => ?_,fun k _ => (same k).refl _,
      fun row member => ⟨row,member,lasts row⟩,fun _ h => h⟩
    · unfold insertedBy rollback
      rw [List.filter_filter]
      congr 1
      apply List.filter_congr
      intro entry _
      by_cases theirs : entry.1 = u
      · simp [theirs,other]
      · simp [theirs]
    · simp only [rollback,release]
      rw [if_neg (by rw [held]; exact fun same => other (Option.some.inj same)),held]
  valid := by
    intro valid
    refine ⟨fun u k c held => ?_,?_,valid.recorded⟩
    · by_cases mine : u = t
      · subst u
        simp only [rollback,Function.update_self]
        exact (same k).refl _
      · simp only [rollback,Function.update_of_ne mine]
        apply valid.disciplined
        intro before
        apply held
        simp only [rollback,release]
        rw [if_neg (by rw [before]; exact fun same => mine (Option.some.inj same)),before]
    · apply List.Pairwise.sublist _ valid.unique
      exact List.Sublist.append_left (List.Sublist.map _ List.filter_sublist) _

end Laws

end Db

end Transactions
