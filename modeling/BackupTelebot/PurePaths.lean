import Mathlib.Data.List.Infix
import Mathlib.Tactic.SplitIfs

/-! Pure POSIX paths: texts of code points taken apart at their slashes. Nothing is looked
up. Repeated slashes and single dots vanish, two dots stay, and exactly two slashes at the
beginning are a root of their own. -/
namespace PurePosix

abbrev Text := List Nat

def slash : Nat := 47
def dot : Nat := 46

inductive Root where
  | relative
  | single
  | double
  deriving DecidableEq, Repr

structure Path where
  root : Root
  names : List Text
  deriving DecidableEq, Repr

def Root.text : Root → Text
  | .relative => []
  | .single => [slash]
  | .double => [slash,slash]

def splitRoot : Text → Root × Text
  | [] => (.relative,[])
  | first :: rest =>
    if first ≠ slash then (.relative,first :: rest)
    else match rest with
      | second :: third =>
          if second = slash ∧ third.head? ≠ some slash then (.double,third) else (.single,second :: third)
      | [] => (.single,[])

/-- What remains between the slashes. -/
def names (text : Text) : List Text := (text.splitOn slash).filter fun name => name ≠ [] && name ≠ [dot]

def parse (text : Text) : Path := ⟨(splitRoot text).1,names (splitRoot text).2⟩

def join (names : List Text) : Text := List.intercalate [slash] names

/-- The text of a path; the empty relative one is a dot. -/
def Path.text (p : Path) : Text :=
  if p.root = .relative ∧ p.names = [] then [dot] else p.root.text ++ join p.names

def Path.isAbsolute (p : Path) : Bool := p.root ≠ .relative

/-- Two dots lead out of a directory. -/
def Path.climbs (p : Path) : Bool := p.names.contains [dot,dot]

structure IsName (name : Text) : Prop where
  nonempty : name ≠ []
  notDot : name ≠ [dot]
  noSlash : slash ∉ name

theorem mem_splitOn_noSlash {text name : Text} (member : name ∈ text.splitOn slash) : slash ∉ name := by
  induction text generalizing name with
  | nil =>
    obtain rfl : name = [] := by simpa using member
    simp
  | cons c rest ih =>
    rw [List.splitOn_cons_eq_if_modifyHead] at member
    split_ifs at member with here
    · rcases List.mem_cons.mp member with rfl | later
      · simp
      · exact ih later
    · cases pieces : rest.splitOn slash with
      | nil => simp [pieces] at member
      | cons head tail =>
        rw [pieces] at ih member
        rcases List.mem_cons.mp member with rfl | later
        · have other : c ≠ slash := by simpa using here
          intro inside
          rcases List.mem_cons.mp inside with same | inside
          · exact other same.symm
          · exact ih List.mem_cons_self inside
        · exact ih (List.mem_cons_of_mem _ later)

theorem isName_of_mem_names {text name : Text} (member : name ∈ names text) : IsName name := by
  simp only [names,List.mem_filter,Bool.and_eq_true,decide_eq_true_eq] at member
  exact ⟨member.2.1,member.2.2,mem_splitOn_noSlash member.1⟩

@[simp] theorem join_nil : join [] = [] := rfl

@[simp] theorem join_singleton (name : Text) : join [name] = name := by simp [join]

theorem join_cons_cons (first second : Text) (rest : List Text) :
    join (first :: second :: rest) = first ++ slash :: join (second :: rest) := by
  simp [join,List.intercalate]

theorem splitOn_join {list : List Text} (all : ∀ name ∈ list, IsName name) (nonempty : list ≠ []) :
    (join list).splitOn slash = list :=
  List.splitOn_intercalate slash (fun name member => (all name member).noSlash) nonempty

/-- Reading the names back. -/
theorem names_join {list : List Text} (all : ∀ name ∈ list, IsName name) : names (join list) = list := by
  cases list with
  | nil => rfl
  | cons first rest =>
    rw [names,splitOn_join all (by simp),List.filter_eq_self]
    intro name member
    simp [(all name member).nonempty,(all name member).notDot]

/-- A slash at the end is read over. -/
theorem names_trailing {list : List Text} (all : ∀ name ∈ list, IsName name) :
    names (join list ++ [slash]) = list := by
  cases list with
  | nil => rfl
  | cons first rest =>
    rw [names,List.splitOn_append_cons_self,splitOn_join all (by simp),List.filter_append]
    have kept : (first :: rest).filter (fun name => name ≠ [] && name ≠ [dot]) = first :: rest := by
      rw [List.filter_eq_self]
      intro name member
      simp [(all name member).nonempty,(all name member).notDot]
    rw [kept]
    simp

theorem head_join {first : Text} {rest : List Text} (name : IsName first) :
    (join (first :: rest)).head? = first.head? ∧ (join (first :: rest)).head? ≠ some slash := by
  obtain ⟨c,tail,rfl⟩ := List.exists_cons_of_ne_nil name.nonempty
  have other : c ≠ slash := fun same => name.noSlash (same ▸ List.mem_cons_self)
  cases rest with
  | nil => simp [other]
  | cons second rest => simp [join_cons_cons,other]

theorem join_ne_nil {list : List Text} (all : ∀ name ∈ list, IsName name) (nonempty : list ≠ []) : join list ≠ [] := by
  obtain ⟨first,rest,rfl⟩ := List.exists_cons_of_ne_nil nonempty
  have name := all first List.mem_cons_self
  intro empty
  have head : (join (first :: rest)).head? = first.head? := (head_join name).1
  rw [empty] at head
  exact name.nonempty (List.head?_eq_none_iff.mp head.symm)

theorem last_join {list : List Text} (all : ∀ name ∈ list, IsName name) : (join list).getLast? ≠ some slash := by
  induction list with
  | nil => simp
  | cons first rest ih =>
    cases rest with
    | nil =>
      intro last
      rw [join_singleton] at last
      exact (all first List.mem_cons_self).noSlash (List.mem_of_getLast? last)
    | cons second rest =>
      have others := ih fun name member => all name (List.mem_cons_of_mem _ member)
      obtain ⟨c,tail,eq⟩ := List.exists_cons_of_ne_nil
        (join_ne_nil (fun name member => all name (List.mem_cons_of_mem _ member)) (List.cons_ne_nil second rest))
      rw [join_cons_cons]
      simpa [eq,List.getLast?_append,List.getLast?_cons_cons] using others

theorem splitRoot_single {rest : Text} (notSlash : rest.head? ≠ some slash) :
    splitRoot (slash :: rest) = (.single,rest) := by
  cases rest with
  | nil => simp [splitRoot]
  | cons c tail =>
    have other : c ≠ slash := by simpa using notSlash
    simp [splitRoot,other]

theorem splitRoot_double {rest : Text} (notSlash : rest.head? ≠ some slash) :
    splitRoot (slash :: slash :: rest) = (.double,rest) := by simp [splitRoot,notSlash]

def Path.Normal (p : Path) : Prop := ∀ name ∈ p.names, IsName name

theorem parse_normal (text : Text) : (parse text).Normal := fun _ member => isName_of_mem_names member

/-- A text that ends in a slash, or in none, after a root and names. -/
theorem parse_rooted {root : Root} {list : List Text} (all : ∀ name ∈ list, IsName name) (nonempty : list ≠ [])
    (absolute : root ≠ .relative) (trailing : Bool) :
    parse (root.text ++ (join list ++ if trailing then [slash] else [])) = ⟨root,list⟩ := by
  obtain ⟨first,rest,rfl⟩ := List.exists_cons_of_ne_nil nonempty
  have notSlash : (join (first :: rest) ++ if trailing then [slash] else []).head? ≠ some slash := by
    rw [List.head?_append_of_ne_nil _ (join_ne_nil all nonempty)]
    exact (head_join (all first (by simp))).2
  have read : names (join (first :: rest) ++ if trailing then [slash] else []) = first :: rest := by
    cases trailing with
    | true => exact names_trailing all
    | false => simpa using names_join all
  cases root with
  | relative => exact absurd rfl absolute
  | single => simp only [parse,Root.text,List.cons_append,List.nil_append,splitRoot_single notSlash,read]
  | double => simp only [parse,Root.text,List.cons_append,List.nil_append,splitRoot_double notSlash,read]

/-- The text of an absolute path is read back as the path. -/
theorem parse_text {p : Path} (normal : p.Normal) (absolute : p.isAbsolute = true) : parse p.text = p := by
  obtain ⟨root,list⟩ := p
  have notSlash : (join list).head? ≠ some slash := by
    cases list with
    | nil => simp
    | cons first rest => exact (head_join (normal first List.mem_cons_self)).2
  cases root with
  | relative => simp [Path.isAbsolute] at absolute
  | single => simp [Path.text,parse,Root.text,splitRoot_single notSlash,names_join normal]
  | double => simp [Path.text,parse,Root.text,splitRoot_double notSlash,names_join normal]

theorem text_injective {p q : Path} (p_normal : p.Normal) (q_normal : q.Normal) (p_absolute : p.isAbsolute = true)
    (q_absolute : q.isAbsolute = true) (same : p.text = q.text) : p = q := by
  rw [← parse_text p_normal p_absolute,← parse_text q_normal q_absolute,same]

theorem head_text {p : Path} (absolute : p.isAbsolute = true) : p.text.head? = some slash := by
  obtain ⟨root,list⟩ := p
  cases root with
  | relative => simp [Path.isAbsolute] at absolute
  | single => simp [Path.text,Root.text]
  | double => simp [Path.text,Root.text]

theorem isAbsolute_parse {text : Text} : (parse text).isAbsolute = true ↔ text.head? = some slash := by
  cases text with
  | nil => simp [parse,splitRoot,Path.isAbsolute]
  | cons first rest =>
    by_cases here : first = slash
    · subst first
      cases rest with
      | nil => simp [parse,splitRoot,Path.isAbsolute]
      | cons second third =>
        by_cases double : second = slash ∧ third.head? ≠ some slash
        · simp [parse,splitRoot,Path.isAbsolute,double]
        · simp [parse,splitRoot,Path.isAbsolute,double]
    · simp [parse,splitRoot,Path.isAbsolute,here]

theorem splitRoot_text (text : Text) : (splitRoot text).1.text ++ (splitRoot text).2 = text := by
  cases text with
  | nil => rfl
  | cons first rest =>
    by_cases here : first = slash
    · subst first
      cases rest with
      | nil => rfl
      | cons second third =>
        by_cases double : second = slash ∧ third.head? ≠ some slash
        · simp [splitRoot,double,Root.text]
        · simp [splitRoot,double,Root.text]
    · simp [splitRoot,here,Root.text]

theorem join_sublist {short long : List Text} (fewer : short.Sublist long) : (join short).Sublist (join long) := by
  induction fewer with
  | slnil => exact .slnil
  | @cons short long name fewer ih =>
    cases long with
    | nil =>
      obtain rfl := List.sublist_nil.mp fewer
      exact List.nil_sublist _
    | cons second rest =>
      rw [join_cons_cons]
      exact (ih.cons slash).trans (List.sublist_append_right _ _)
  | @cons_cons short long name fewer ih =>
    cases short with
    | nil =>
      cases long with
      | nil => exact List.Sublist.refl _
      | cons second rest =>
        rw [join_singleton,join_cons_cons]
        exact List.sublist_append_left _ _
    | cons next rest =>
      cases long with
      | nil => exact absurd (List.sublist_nil.mp fewer) (List.cons_ne_nil next rest)
      | cons second others =>
        rw [join_cons_cons,join_cons_cons]
        exact (ih.cons_cons slash).append_left name

theorem join_splitOn (text : Text) : join (text.splitOn slash) = text := List.intercalate_splitOn slash

theorem text_parse_sublist {text : Text} (absolute : (parse text).isAbsolute = true) :
    (parse text).text.Sublist text := by
  have rooted : ¬((parse text).root = .relative ∧ (parse text).names = []) := by
    intro relative
    simp [Path.isAbsolute,relative.1] at absolute
  have below : (join (names (splitRoot text).2)).Sublist (splitRoot text).2 := by
    have kept := join_sublist (List.filter_sublist (p := fun name => name ≠ [] && name ≠ [dot])
      (l := (splitRoot text).2.splitOn slash))
    rwa [join_splitOn] at kept
  rw [Path.text,if_neg rooted]
  exact (below.append_left _).trans (by rw [parse,splitRoot_text])

/-- `path == root or root in path.parents`. -/
def Path.within (p root : Path) : Bool := root.root = p.root && root.names.isPrefixOf p.names

/-- `path.relative_to(root)`, as the names it leaves. -/
def Path.below (p root : Path) : List Text := p.names.drop root.names.length

def Path.extend (p : Path) (names : List Text) : Path := ⟨p.root,p.names ++ names⟩

theorem within_iff {p root : Path} :
    p.within root = true ↔ root.root = p.root ∧ root.names <+: p.names := by
  simp [Path.within,List.isPrefixOf_iff_prefix]

theorem extend_within (p : Path) (names : List Text) : (p.extend names).within p = true :=
  within_iff.mpr ⟨rfl,List.prefix_append _ _⟩

/-- What lies below a directory is found there again. -/
theorem extend_below {p root : Path} (inside : p.within root = true) : root.extend (p.below root) = p := by
  obtain ⟨roots,prefix_⟩ := within_iff.mp inside
  obtain ⟨rest,eq⟩ := prefix_
  obtain ⟨root',list⟩ := p
  obtain rfl : root.names ++ rest = list := eq
  simp [Path.extend,Path.below,roots]

theorem extend_left_cancel {p q : Path} {names : List Text} (same : p.extend names = q.extend names) : p = q := by
  obtain ⟨root,list⟩ := p
  obtain ⟨root',list'⟩ := q
  simp only [Path.extend,Path.mk.injEq,List.append_cancel_right_eq] at same
  simp [same]

/-- Roots of one path at the same depth are the same. -/
theorem eq_of_within {p a b : Path} (first : p.within a = true) (second : p.within b = true)
    (depth : a.names.length = b.names.length) : a = b := by
  obtain ⟨roots,inner⟩ := within_iff.mp first
  obtain ⟨roots',outer⟩ := within_iff.mp second
  obtain ⟨root,list⟩ := a
  obtain ⟨root',list'⟩ := b
  have lists : list = list' := (List.prefix_of_prefix_length_le inner outer depth.le).eq_of_length depth
  simp_all

@[simp] theorem below_extend (p : Path) (names : List Text) : (p.extend names).below p = names := by
  simp [Path.extend,Path.below]

/-- `path / text`. -/
def Path.joinpath (p : Path) (text : Text) : Path :=
  if (parse text).isAbsolute then parse text else ⟨p.root,p.names ++ (parse text).names⟩

theorem parse_name {name : Text} (isName : IsName name) : parse name = ⟨.relative,[name]⟩ := by
  obtain ⟨c,rest,rfl⟩ := List.exists_cons_of_ne_nil isName.nonempty
  have other : c ≠ slash := fun same => isName.noSlash (same ▸ List.mem_cons_self)
  have read : names (c :: rest) = [c :: rest] := by simpa using @names_join [c :: rest] (by simpa using isName)
  simp [parse,splitRoot,other,read]

theorem Path.joinpath_name (p : Path) {name : Text} (isName : IsName name) :
    p.joinpath name = ⟨p.root,p.names ++ [name]⟩ := by
  simp [joinpath,parse_name isName,isAbsolute]

end PurePosix
