import Mathlib.Data.List.Sort
import Mathlib.Data.List.Lex
import Mathlib.Data.Nat.Digits.Defs

/-! JSON documents as the Python `json` module holds them. A string is the list of its
code points, surrogates included, and a dictionary keeps its keys in insertion order. -/
namespace PyJson

abbrev Str := List Nat

def str (literal : String) : Str := literal.toList.map Char.toNat

inductive Json where
  | null
  | bool (value : Bool)
  | int (value : Int)
  | float (literal : Str)
  | str (value : Str)
  | arr (items : List Json)
  | obj (fields : List (Str × Json))

/-- Assignment to a key of a dictionary: an existing key keeps its place. -/
def assign (key : Str) (value : α) : List (Str × α) → List (Str × α)
  | [] => [(key,value)]
  | (k,v) :: rest => if k = key then (key,value) :: rest else (k,v) :: assign key value rest

/-- The dictionary built from the pairs in the order in which they are read. -/
def ofPairs (pairs : List (Str × α)) : List (Str × α) :=
  pairs.foldl (fun fields (key,value) => assign key value fields) []

def lookup (key : Str) (fields : List (Str × α)) : Option α :=
  (fields.find? (fun field => field.1 = key)).map (·.2)

@[simp] theorem lookup_nil : lookup key ([] : List (Str × α)) = none := rfl

@[simp] theorem lookup_cons : lookup key ((k,v) :: rest : List (Str × α)) =
    if k = key then some v else lookup key rest := by
  by_cases same : k = key <;> simp [lookup,same]

theorem assign_keys (key : Str) (value : α) (fields : List (Str × α))
    (fresh : key ∉ fields.map (·.1)) : assign key value fields = fields ++ [(key,value)] := by
  induction fields with
  | nil => rfl
  | cons field rest ih =>
    obtain ⟨k,v⟩ := field
    simp only [List.map_cons,List.mem_cons,not_or] at fresh
    simp [assign,Ne.symm fresh.1,ih fresh.2]

theorem mem_assign {key : Str} {value : α} {fields : List (Str × α)} {field : Str × α}
    (member : field ∈ assign key value fields) : field = (key,value) ∨ field ∈ fields := by
  induction fields with
  | nil => exact .inl (List.mem_singleton.mp member)
  | cons first rest ih =>
    obtain ⟨k,v⟩ := first
    simp only [assign] at member
    split_ifs at member
    · exact (List.mem_cons.mp member).imp_right (List.mem_cons_of_mem _)
    · rcases List.mem_cons.mp member with rfl | later
      · exact .inr List.mem_cons_self
      · exact (ih later).imp_right (List.mem_cons_of_mem _)

theorem assign_distinct (key : Str) (value : α) {fields : List (Str × α)} (distinct : (fields.map (·.1)).Nodup) :
    ((assign key value fields).map (·.1)).Nodup := by
  induction fields with
  | nil => exact List.nodup_singleton key
  | cons first rest ih =>
    obtain ⟨k,v⟩ := first
    rw [List.map_cons,List.nodup_cons] at distinct
    rw [assign]
    split_ifs with same
    · rw [← same]
      exact List.nodup_cons.mpr distinct
    · rw [List.map_cons,List.nodup_cons]
      refine ⟨fun inside => ?_,ih distinct.2⟩
      obtain ⟨field,member,eq⟩ := List.mem_map.mp inside
      rcases mem_assign member with rfl | old
      · exact same eq.symm
      · exact distinct.1 (List.mem_map.mpr ⟨field,old,eq⟩)

/-- Pairs with distinct keys are the dictionary they build. -/
theorem ofPairs_eq (pairs : List (Str × α)) (distinct : (pairs.map (·.1)).Nodup) :
    ofPairs pairs = pairs := by
  have build : ∀ (rest before : List (Str × α)), ((before ++ rest).map (·.1)).Nodup →
      rest.foldl (fun fields (key,value) => assign key value fields) before = before ++ rest := by
    intro rest
    induction rest with
    | nil => intro before _; simp
    | cons pair rest ih =>
      intro before distinct
      obtain ⟨key,value⟩ := pair
      have fresh : key ∉ before.map (·.1) := by
        intro member
        simp only [List.map_append,List.map_cons] at distinct
        exact (List.nodup_append.mp distinct).2.2 _ member _ (by simp) rfl
      simp only [List.foldl_cons,assign_keys key value before fresh]
      rw [ih (before ++ [(key,value)]) (by simpa using distinct)]
      simp
  exact build pairs [] (by simpa using distinct)

/-- The order of `sort_keys=True`: by code point, the keys alone. -/
def keyLE (a b : Str × α) : Prop := a.1 ≤ b.1

instance : DecidableRel (keyLE (α := α)) := fun a b => inferInstanceAs (Decidable (a.1 ≤ b.1))
instance : Std.Total (keyLE (α := α)) := ⟨fun a b => le_total a.1 b.1⟩
instance : IsTrans (Str × α) keyLE := ⟨fun _ _ _ => le_trans⟩

def sortFields (fields : List (Str × α)) : List (Str × α) := fields.insertionSort keyLE

mutual
/-- The same document with every dictionary in key order. -/
def Json.sorted : Json → Json
  | .arr items => .arr (sortedItems items)
  | .obj fields => .obj (sortFields (sortedFields fields))
  | value => value
def sortedItems : List Json → List Json
  | [] => []
  | item :: rest => item.sorted :: sortedItems rest
def sortedFields : List (Str × Json) → List (Str × Json)
  | [] => []
  | (key,value) :: rest => (key,value.sorted) :: sortedFields rest
end

/-- Induction on a document: containers may use the claim for everything directly inside. -/
theorem Json.induction {P : Json → Prop} (null : P .null) (bool : ∀ b, P (.bool b))
    (int : ∀ n, P (.int n)) (float : ∀ l, P (.float l)) (str : ∀ s, P (.str s))
    (arr : ∀ items, (∀ item ∈ items, P item) → P (.arr items))
    (obj : ∀ fields, (∀ field ∈ fields, P field.2) → P (.obj fields)) (value : Json) : P value :=
  @Json.rec P (fun items => ∀ item ∈ items, P item) (fun fields => ∀ field ∈ fields, P field.2) (fun field => P field.2)
    null bool int float str arr obj (by simp)
    (fun _ _ head tail item member => by
      rcases List.mem_cons.mp member with rfl | later
      · exact head
      · exact tail item later)
    (by simp)
    (fun _ _ head tail field member => by
      rcases List.mem_cons.mp member with rfl | later
      · exact head
      · exact tail field later)
    (fun _ _ value => value) value

theorem sortedItems_eq (items : List Json) : sortedItems items = items.map Json.sorted := by
  induction items with
  | nil => rfl
  | cons item rest ih => simp [sortedItems,ih]

theorem sortedFields_eq (fields : List (Str × Json)) :
    sortedFields fields = fields.map fun field => (field.1,field.2.sorted) := by
  induction fields with
  | nil => rfl
  | cons field rest ih => simp [sortedFields,ih]

theorem sortFields_perm (fields : List (Str × α)) : (sortFields fields).Perm fields :=
  List.perm_insertionSort keyLE fields

/-- Sorting looks at keys only, so it commutes with a change of the values. -/
theorem sortFields_map (f : α → β) (fields : List (Str × α)) :
    sortFields (fields.map fun field => (field.1,f field.2)) =
      (sortFields fields).map fun field => (field.1,f field.2) :=
  (List.map_insertionSort keyLE keyLE (fun field => (field.1,f field.2)) fields
    (fun _ _ _ _ => Iff.rfl)).symm

/-- With distinct keys a lookup does not depend on the order. -/
theorem lookup_perm {fields sorted : List (Str × α)} (perm : sorted.Perm fields)
    (distinct : (fields.map (·.1)).Nodup) (key : Str) : lookup key sorted = lookup key fields := by
  induction perm with
  | nil => rfl
  | cons field _ ih =>
    obtain ⟨k,v⟩ := field
    have tail := ih (List.Nodup.of_cons (by simpa using distinct))
    simp [tail]
  | swap a b rest =>
    obtain ⟨j,x⟩ := a
    obtain ⟨k,y⟩ := b
    simp only [lookup_cons]
    by_cases first : j = key <;> by_cases second : k = key
    · subst first second
      simp at distinct
    all_goals simp [first,second]
  | trans first second ih₁ ih₂ =>
    have middle := (second.map (·.1)).nodup_iff.mpr distinct
    exact (ih₁ middle).trans (ih₂ distinct)

/-- `document.get(key)`, where the document is a dictionary. -/
def Json.get (document : Json) (key : Str) : Option Json :=
  match document with
  | .obj fields => lookup key fields
  | _ => none

@[simp] theorem Json.sorted_str (s : Str) : (Json.str s).sorted = .str s := by simp [Json.sorted]
@[simp] theorem Json.sorted_int (v : Int) : (Json.int v).sorted = .int v := by simp [Json.sorted]
@[simp] theorem Json.sorted_arr (items : List Json) :
    (Json.arr items).sorted = .arr (items.map Json.sorted) := by rw [Json.sorted,sortedItems_eq]

/-- Sorting changes no lookup, only the values found. -/
theorem Json.get_sorted {fields : List (Str × Json)} (distinct : (fields.map (·.1)).Nodup) (key : Str) :
    (Json.obj fields).sorted.get key = ((Json.obj fields).get key).map Json.sorted := by
  have keys : ((sortedFields fields).map (·.1)).Nodup := by
    simpa [sortedFields_eq,List.map_map,Function.comp_def] using distinct
  have values : ∀ fields : List (Str × Json), lookup key (fields.map fun field => (field.1,field.2.sorted)) =
      (lookup key fields).map Json.sorted := by
    intro fields
    induction fields with
    | nil => rfl
    | cons field rest ih =>
      obtain ⟨k,value⟩ := field
      by_cases same : k = key <;> simp [same,ih]
  have order := lookup_perm (sortFields_perm (sortedFields fields)) keys key
  rw [Json.sorted]
  simp only [Json.get]
  rw [order,sortedFields_eq,values]

def Json.isObj : Json → Bool
  | .obj _ => true
  | _ => false

/-- Sign, digits and decimal exponent of a float literal; the three names have none. -/
def decimalParts (literal : Str) : Option (Bool × Nat × Int) :=
  let negative := literal.head? = some 45
  let body := if negative then literal.drop 1 else literal
  let isDigit := fun c => decide (48 ≤ c ∧ c ≤ 57)
  let number : Str → Nat := fun ds => ds.foldl (fun n d => 10 * n + (d - 48)) 0
  let whole := body.takeWhile isDigit
  let rest := body.dropWhile isDigit
  if whole = [] then none else
    let fraction := if rest.head? = some 46 then (rest.drop 1).takeWhile isDigit else []
    let rest := if rest.head? = some 46 then (rest.drop 1).dropWhile isDigit else rest
    let exponent : Int := match rest with
      | _ :: 45 :: ds => -(number ds : Int)
      | _ :: 43 :: ds => number ds
      | _ :: ds => number ds
      | [] => 0
    some (negative,number (whole ++ fraction),exponent - fraction.length)

/-- Whether the binary double nearest to `num / den`, ties to even, is the integer `n`. -/
def roundsTo (num den n : Nat) : Bool :=
  if n = 0 then num * 2 ^ 1075 ≤ den
  else
    let a : Int := Nat.log2 num
    let b : Int := Nat.log2 den
    let scaled := fun (k : Int) => if 0 ≤ k then (num,den * 2 ^ k.toNat) else (num * 2 ^ (-k).toNat,den)
    let high := if (scaled (a - b)).2 ≤ (scaled (a - b)).1 then a - b else a - b - 1
    let k := max (high - 52) (-1074)
    let (p,q) := scaled k
    let half := p / q
    let mantissa :=
      if 2 * (p % q) < q then half
      else if q < 2 * (p % q) then half + 1
      else if half % 2 = 0 then half else half + 1
    decide (n < 2 ^ 1024) &&
      (if 0 ≤ k then mantissa * 2 ^ k.toNat == n else mantissa == n * 2 ^ (-k).toNat)

/-- A parsed float equals an integer when its nearest double does. -/
def floatEq (literal : Str) (n : Nat) : Bool :=
  match decimalParts literal with
  | none => false
  | some (negative,digits,exponent) =>
      if negative ∧ n ≠ 0 then false
      else if 0 ≤ exponent then roundsTo (digits * 10 ^ exponent.toNat) 1 n
      else roundsTo digits (10 ^ (-exponent).toNat) n

/-- Python's `value == n` for an integer `n`; booleans are the integers 0 and 1. -/
def Json.eqNat (value : Json) (n : Nat) : Bool :=
  match value with
  | .int v => v == (n : Int)
  | .bool b => (if b then 1 else 0) == n
  | .float literal => floatEq literal n
  | _ => false

/-- Python's `value == s` for a string. -/
def Json.eqStr (value : Json) (s : Str) : Bool :=
  match value with
  | .str v => v == s
  | _ => false

/-- `isinstance(value, int)` with the integer it then stands for. -/
def Json.asInt : Json → Option Int
  | .int v => some v
  | .bool b => some (if b then 1 else 0)
  | _ => none

/-- `isinstance(value, str)`. -/
def Json.asStr : Json → Option Str
  | .str v => some v
  | _ => none

/-- A dictionary or a list cannot be a member of a set. -/
def Json.hashable : Json → Bool
  | .arr _ | .obj _ => false
  | _ => true

example : [floatEq (str "5.0") 5,floatEq (str "5e0") 5,floatEq (str "5.5") 5,
    floatEq (str "9007199254740993.0") 9007199254740992,floatEq (str "1e400") 0] =
    [true,true,false,true,false] := by decide +kernel

end PyJson
