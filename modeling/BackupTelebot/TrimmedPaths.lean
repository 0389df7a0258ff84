import BackupTelebot.PurePaths
import BackupTelebot.PythonText

/-! Texts of paths that end in white space. Reading a path removes slashes and dots from its
end, which can bare white space that an earlier `strip` did not reach. -/
namespace PurePosix

def endsBlank (text : Text) : Bool := text.getLast?.any PyText.isSpace

def trimEnd (text : Text) : Text := (text.reverse.dropWhile PyText.isSpace).reverse

theorem not_endsBlank_trimEnd (text : Text) : endsBlank (trimEnd text) = false := by
  rw [endsBlank,trimEnd,List.getLast?_reverse]
  cases head : (text.reverse.dropWhile PyText.isSpace).head? with
  | none => rfl
  | some c => simpa using PyText.head_dropWhile head

theorem strip_eq_trimEnd {text : Text} (front : ∀ c, text.head? = some c → PyText.isSpace c = false) :
    PyText.strip text = trimEnd text := by
  rw [PyText.strip,PyText.dropWhile_eq_self_of_head front,trimEnd]

/-- What stands before a character that is no white space stays. -/
theorem trimEnd_append {front : Text} (solid : ∀ c, front.getLast? = some c → PyText.isSpace c = false) (last : Text) :
    trimEnd (front ++ last) = front ++ trimEnd last := by
  have stays : front.reverse.dropWhile PyText.isSpace = front.reverse := by
    apply PyText.dropWhile_eq_self_of_head
    intro c head
    exact solid c (by rwa [List.head?_reverse] at head)
  have kept : (last.reverse ++ front.reverse).dropWhile PyText.isSpace =
      last.reverse.dropWhile PyText.isSpace ++ front.reverse := by
    rw [List.dropWhile_append]
    split_ifs with blank
    · rw [stays,List.isEmpty_iff.mp blank,List.nil_append]
    · rfl
  rw [trimEnd,List.reverse_append,kept,List.reverse_append,List.reverse_reverse,trimEnd]

theorem slash_solid : PyText.isSpace slash = false := rfl

theorem strip_text {p : Path} (absolute : p.isAbsolute = true) : PyText.strip p.text = trimEnd p.text := by
  apply strip_eq_trimEnd
  intro c head
  rw [head_text absolute] at head
  obtain rfl := Option.some.inj head
  exact slash_solid

theorem strip_text_eq_self {p : Path} (absolute : p.isAbsolute = true) (solid : endsBlank p.text = false) :
    PyText.strip p.text = p.text := by
  apply PyText.strip_eq_self
  · intro c head
    rw [head_text absolute] at head
    obtain rfl := Option.some.inj head
    exact slash_solid
  · intro c last
    simpa [endsBlank,last] using solid

theorem names_append (front back : Text) : names (front ++ slash :: back) = names front ++ names back := by
  rw [names,List.splitOn_append_cons_self,List.filter_append]
  rfl

def lead (root : Root) (before : List Text) : Text := root.text ++ if before = [] then [] else join before ++ [slash]

theorem text_concat {root : Root} (before : List Text) (last : Text) :
    Path.text ⟨root,before ++ [last]⟩ = lead root before ++ last := by
  have rooted : ¬(root = .relative ∧ before ++ [last] = []) := by simp
  rw [Path.text,if_neg rooted,lead]
  have joined : join (before ++ [last]) = (if before = [] then [] else join before ++ [slash]) ++ last := by
    clear rooted
    induction before with
    | nil => simp
    | cons first rest ih =>
      cases rest with
      | nil => simp [join_cons_cons]
      | cons second others =>
        rw [List.cons_append,List.cons_append,join_cons_cons,← List.cons_append,ih,if_neg (by simp),if_neg (by simp),
          join_cons_cons]
        simp
  rw [joined,List.append_assoc]

theorem lead_last {root : Root} (absolute : root ≠ .relative) (before : List Text) : (lead root before).getLast? = some slash := by
  by_cases none_ : before = []
  · cases root with
    | relative => exact absurd rfl absolute
    | single => simp [lead,none_,Root.text]
    | double => simp [lead,none_,Root.text]
  · simp [lead,none_]

theorem parse_lead {root : Root} (absolute : root ≠ .relative) {before : List Text} (all : ∀ name ∈ before, IsName name)
    {back : Text} (noSlash : slash ∉ back) : parse (lead root before ++ back) = ⟨root,before ++ names back⟩ := by
  have head : ((if before = [] then [] else join before ++ [slash]) ++ back).head? ≠ some slash := by
    by_cases none_ : before = []
    · intro first
      simp only [none_,if_pos,List.nil_append] at first
      exact noSlash (List.mem_of_head? first)
    · obtain ⟨name,rest,rfl⟩ := List.exists_cons_of_ne_nil none_
      rw [if_neg none_,List.append_assoc,List.head?_append_of_ne_nil _ (join_ne_nil all none_)]
      exact (head_join (all name List.mem_cons_self)).2
  have read : names ((if before = [] then [] else join before ++ [slash]) ++ back) = before ++ names back := by
    by_cases none_ : before = []
    · simp [none_]
    · rw [if_neg none_,List.append_assoc,List.singleton_append,names_append,names_join all]
  rw [lead,List.append_assoc]
  cases root with
  | relative => exact absurd rfl absolute
  | single => simp only [parse,Root.text,List.cons_append,List.nil_append,splitRoot_single head,read]
  | double => simp only [parse,Root.text,List.cons_append,List.nil_append,splitRoot_double head,read]

theorem mem_text {p : Path} {c : Nat} (member : c ∈ p.text) :
    c = slash ∨ c = dot ∨ ∃ name ∈ p.names, c ∈ name := by
  obtain ⟨root,list⟩ := p
  have joined : ∀ list : List Text, c ∈ join list → c = slash ∨ ∃ name ∈ list, c ∈ name := by
    intro list inside
    induction list with
    | nil => simp at inside
    | cons first rest ih =>
      cases rest with
      | nil => exact .inr ⟨first,by simp,by simpa using inside⟩
      | cons second others =>
        rw [join_cons_cons,List.mem_append,List.mem_cons] at inside
        rcases inside with here | rfl | later
        · exact .inr ⟨first,by simp,here⟩
        · exact .inl rfl
        · rcases ih later with rfl | ⟨name,among,here⟩
          · exact .inl rfl
          · exact .inr ⟨name,List.mem_cons_of_mem _ among,here⟩
  rw [Path.text] at member
  split_ifs at member
  · exact .inr (.inl (List.mem_singleton.mp member))
  · rcases List.mem_append.mp member with here | here
    · cases root with
      | relative => simp [Root.text] at here
      | single => simpa [Root.text] using Or.inl (List.mem_singleton.mp here)
      | double => exact .inl (by simpa [Root.text] using here)
    · rcases joined list here with rfl | found
      · exact .inl rfl
      · exact .inr (.inr found)

theorem mem_text_of_name {p : Path} {name : Text} (among : name ∈ p.names) {c : Nat} (here : c ∈ name) : c ∈ p.text := by
  obtain ⟨root,list⟩ := p
  have joined : ∀ list : List Text, name ∈ list → c ∈ join list := by
    intro list inside
    induction list with
    | nil => cases inside
    | cons first rest ih =>
      cases rest with
      | nil =>
        obtain rfl := List.mem_singleton.mp inside
        simpa using here
      | cons second others =>
        rw [join_cons_cons,List.mem_append,List.mem_cons]
        rcases List.mem_cons.mp inside with rfl | later
        · exact .inl here
        · exact .inr (.inr (ih later))
  rw [Path.text,if_neg (fun empty => by rw [empty.2] at among; cases among)]
  exact List.mem_append_right _ (joined list among)

theorem length_trimEnd_lt {text : Text} (blank : endsBlank text = true) : (trimEnd text).length < text.length := by
  have whole : text ≠ trimEnd text := by
    intro same
    rw [same,not_endsBlank_trimEnd] at blank
    cases blank
  have shorter := (List.dropWhile_sublist (l := text.reverse) PyText.isSpace).reverse
  rw [List.reverse_reverse] at shorter
  exact lt_of_le_of_ne shorter.length_le fun same => whole (shorter.eq_of_length same).symm

/-- An absolute path is its root, the names before the last one, and the last one. -/
theorem exists_concat {p : Path} (absolute : p.isAbsolute = true) (blank : endsBlank p.text = true) :
    ∃ before last, p = ⟨p.root,before ++ [last]⟩ := by
  obtain ⟨root,list⟩ := p
  rcases List.eq_nil_or_concat list with rfl | ⟨before,last,rfl⟩
  · cases root with
    | relative => simp [Path.isAbsolute] at absolute
    | single => simp [Path.text,Root.text,endsBlank,PyText.isSpace,slash] at blank
    | double => simp [Path.text,Root.text,endsBlank,PyText.isSpace,slash] at blank
  · exact ⟨before,last,by simp⟩

/-- Reading the stripped text again trims the last name, or leaves it out. -/
theorem parse_trimmed {root : Root} {before : List Text} {last : Text} (normal : Path.Normal ⟨root,before ++ [last]⟩)
    (absolute : root ≠ .relative) :
    parse (PyText.strip (Path.text ⟨root,before ++ [last]⟩)) = ⟨root,before ++ names (trimEnd last)⟩ := by
  have solid : ∀ c, (lead root before).getLast? = some c → PyText.isSpace c = false := by
    intro c here
    rw [lead_last absolute] at here
    obtain rfl := Option.some.inj here
    exact slash_solid
  have noSlash : slash ∉ trimEnd last := by
    have part := (List.dropWhile_sublist (l := last.reverse) PyText.isSpace).reverse
    rw [List.reverse_reverse] at part
    intro inside
    exact (normal last (by simp)).noSlash (part.subset inside)
  rw [strip_text (by simp [Path.isAbsolute,absolute]),text_concat,trimEnd_append solid]
  exact parse_lead absolute (fun name member => normal name (by simp [member])) noSlash

end PurePosix
