import Mathlib.Data.List.Nodup

/-! A Python dictionary: distinct keys in the order in which they came. -/
namespace PyDict

structure Dict (κ α : Type*) where
  entries : List (κ × α)
  distinct : (entries.map (·.1)).Nodup

namespace Dict

variable {κ α : Type*}

def empty : Dict κ α := ⟨[],List.nodup_nil⟩

def size (d : Dict κ α) : ℕ := d.entries.length

def changed (f : κ → α → Option α) (entry : κ × α) : Option (κ × α) := (f entry.1 entry.2).map fun value => (entry.1,value)

theorem changed_keys (f : κ → α → Option α) (entries : List (κ × α)) :
    ((entries.filterMap (changed f)).map (·.1)).Sublist (entries.map (·.1)) := by
  induction entries with
  | nil => exact List.Sublist.slnil
  | cons entry rest ih =>
    cases kept : f entry.1 entry.2 with
    | none => simpa [changed,kept] using ih.cons entry.1
    | some value => simpa [changed,kept] using ih.cons_cons entry.1

/-- Every value is kept, changed or removed, by its key and itself. -/
def update (d : Dict κ α) (f : κ → α → Option α) : Dict κ α where
  entries := d.entries.filterMap (changed f)
  distinct := d.distinct.sublist (changed_keys f d.entries)

def filter (d : Dict κ α) (keep : κ → α → Bool) : Dict κ α := d.update fun key value => if keep key value then some value else none

variable [DecidableEq κ]

def get (d : Dict κ α) (key : κ) : Option α := (d.entries.find? fun entry => decide (entry.1 = key)).map (·.2)

def pop (d : Dict κ α) (key : κ) : Dict κ α := d.filter fun other _ => decide (other ≠ key)

theorem get_eq_none {d : Dict κ α} {key : κ} : d.get key = none ↔ key ∉ d.entries.map (·.1) := by
  rw [get,Option.map_eq_none_iff,List.find?_eq_none,List.mem_map]
  constructor
  · rintro absent ⟨entry,member,same⟩
    exact absent entry member (decide_eq_true same)
  · intro absent entry member same
    exact absent ⟨entry,member,of_decide_eq_true same⟩

/-- An assignment keeps the place of a key that is there. -/
def set (d : Dict κ α) (key : κ) (value : α) : Dict κ α :=
  if fresh : key ∈ d.entries.map (·.1) then d.update fun other old => some (if other = key then value else old)
  else ⟨d.entries ++ [(key,value)],by
    rw [List.map_append,List.nodup_append]
    refine ⟨d.distinct,by simp,?_⟩
    intro other member last added same
    rw [List.map_cons,List.map_nil,List.mem_singleton] at added
    rw [same,added] at member
    exact fresh member⟩

@[simp] theorem get_empty (key : κ) : (empty : Dict κ α).get key = none := rfl

theorem mem_entries {d : Dict κ α} {key : κ} {value : α} : (key,value) ∈ d.entries ↔ d.get key = some value := by
  obtain ⟨entries,distinct⟩ := d
  simp only [get]
  induction entries with
  | nil => simp
  | cons entry rest ih =>
    obtain ⟨first,old⟩ := entry
    rw [List.map_cons,List.nodup_cons] at distinct
    rw [List.mem_cons,ih distinct.2,List.find?_cons]
    by_cases same : first = key
    · subst same
      have absent : ¬∃ value, (first,value) ∈ rest := by simpa using distinct.1
      have later : (rest.find? fun entry => decide (entry.1 = first)) = none := by
        rw [List.find?_eq_none]
        intro entry member here
        exact absent ⟨entry.2,by rwa [← of_decide_eq_true here]⟩
      rw [later]
      simp only [Prod.mk.injEq,true_and,Option.map_none,reduceCtorEq,or_false,decide_true,Option.map_some,Option.some.injEq]
      exact eq_comm
    · simp [same,Ne.symm same]

theorem get_update (d : Dict κ α) (f : κ → α → Option α) (key : κ) : (d.update f).get key = (d.get key).bind (f key) := by
  ext value
  rw [← mem_entries,update]
  simp only [List.mem_filterMap,changed,Option.map_eq_some_iff,Option.bind_eq_some_iff,← mem_entries]
  constructor
  · rintro ⟨⟨other,old⟩,member,new,kept,same⟩
    obtain ⟨rfl,rfl⟩ := Prod.mk.inj same
    exact ⟨old,member,kept⟩
  · rintro ⟨old,member,kept⟩
    exact ⟨(key,old),member,value,kept,rfl⟩

theorem get_filter (d : Dict κ α) (keep : κ → α → Bool) (key : κ) :
    (d.filter keep).get key = (d.get key).filter (keep key) := by
  rw [filter,get_update]
  cases d.get key with
  | none => rfl
  | some value => simp [Option.filter]

theorem get_pop (d : Dict κ α) (key other : κ) : (d.pop key).get other = if other = key then none else d.get other := by
  rw [pop,get_filter]
  by_cases same : other = key
  · simp [same]
  · cases d.get other <;> simp [same]

theorem get_set (d : Dict κ α) (key other : κ) (value : α) :
    (d.set key value).get other = if other = key then some value else d.get other := by
  unfold set
  split_ifs with present same same
  · subst same
    obtain ⟨old,found⟩ := Option.ne_none_iff_exists'.mp (mt get_eq_none.mp (not_not.mpr present))
    simp [get_update,found]
  · rw [get_update]
    cases d.get other <;> simp [same]
  · subst same
    rw [← mem_entries]
    simp
  · simp only [get,List.find?_append]
    have last : ([(key,value)].find? fun entry => decide (entry.1 = other)) = none := by simp [Ne.symm same]
    rw [last,Option.or_none]

@[simp] theorem get_set_self (d : Dict κ α) (key : κ) (value : α) : (d.set key value).get key = some value := by
  simp [get_set]

theorem get_set_ne (d : Dict κ α) {key other : κ} (value : α) (apart : other ≠ key) :
    (d.set key value).get other = d.get other := by
  simp [get_set,apart]

/-- A removal undoes an assignment. -/
theorem pop_set (d : Dict κ α) (key : κ) (value : α) : (d.set key value).pop key = d.pop key := by
  have entries : ((d.set key value).pop key).entries = (d.pop key).entries := by
    unfold set
    split_ifs with present
    · change (d.entries.filterMap _).filterMap _ = d.entries.filterMap _
      rw [List.filterMap_filterMap]
      refine List.filterMap_congr fun entry _ => ?_
      by_cases same : entry.1 = key <;> simp [changed,same]
    · change (d.entries ++ [(key,value)]).filterMap _ = d.entries.filterMap _
      rw [List.filterMap_append]
      simp [changed]
  cases left : (d.set key value).pop key with
  | mk _ _ =>
    cases right : d.pop key with
    | mk _ _ =>
      rw [left,right] at entries
      cases entries
      rfl

end Dict

end PyDict
