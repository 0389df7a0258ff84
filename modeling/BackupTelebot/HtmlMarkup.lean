import BackupTelebot.PythonReplace
import Mathlib.Data.List.Forall2

/-! Texts with HTML tags: `html.escape`, a lexer for tags, what a reader sees, and when two texts
are the same but for escaped passages. -/
namespace HtmlText

abbrev Text := List Nat

def ampersand : Nat := 38
def less : Nat := 60
def greater : Nat := 62
def quotation : Nat := 34
def apostrophe : Nat := 39

/-- `html.escape(text, quote=True)`. -/
def escape (text : Text) : Text :=
  PyText.replaceChar apostrophe [38,35,120,50,55,59] (PyText.replaceChar quotation [38,113,117,111,116,59]
    (PyText.replaceChar greater [38,103,116,59] (PyText.replaceChar less [38,108,116,59]
      (PyText.replaceChar ampersand [38,97,109,112,59] text))))

def escapeChar (c : Nat) : Text :=
  if c = ampersand then [38,97,109,112,59]
  else if c = less then [38,108,116,59]
  else if c = greater then [38,103,116,59]
  else if c = quotation then [38,113,117,111,116,59]
  else if c = apostrophe then [38,35,120,50,55,59]
  else [c]

@[simp] theorem escape_nil : escape [] = [] := rfl

theorem escape_append (front back : Text) : escape (front ++ back) = escape front ++ escape back := by simp [escape]

theorem escape_singleton (c : Nat) : escape [c] = escapeChar c := by
  unfold escapeChar
  split_ifs with amp lt gt quot apos
  · rw [amp]; decide
  · rw [lt]; decide
  · rw [gt]; decide
  · rw [quot]; decide
  · rw [apos]; decide
  · simp [escape,PyText.replaceChar,amp,lt,gt,quot,apos]

theorem escape_cons (c : Nat) (rest : Text) : escape (c :: rest) = escapeChar c ++ escape rest := by
  rw [← escape_singleton,← escape_append,List.singleton_append]

def isMarkup (c : Nat) : Bool := c == less || c == greater || c == quotation || c == apostrophe

theorem escapeChar_clean (c : Nat) : ∀ d ∈ escapeChar c, isMarkup d = false := by
  unfold escapeChar
  split_ifs with amp lt gt quot apos
  · decide
  · decide
  · decide
  · decide
  · decide
  · simp [isMarkup,lt,gt,quot,apos]

theorem escape_clean (text : Text) : ∀ c ∈ escape text, isMarkup c = false := by
  induction text with
  | nil => simp
  | cons c rest ih =>
    rw [escape_cons,List.forall_mem_append]
    exact ⟨escapeChar_clean c,ih⟩

/-- In running text, or in a tag, where a quotation may be open. -/
inductive Place where
  | text
  | tag (content : Text) (quote : Option Nat)
  deriving DecidableEq, Repr

/-- One character, and the tag that it ends. -/
def step : Place → Nat → Place × Option Text
  | .text, c => if c = less then (.tag [] none,none) else (.text,none)
  | .tag content (some quote), c => (.tag (content ++ [c]) (if c = quote then none else some quote),none)
  | .tag content none, c =>
      if c = greater then (.text,some content)
      else (.tag (content ++ [c]) (if c = quotation ∨ c = apostrophe then some c else none),none)

def scan : Place → Text → Place × List Text
  | place, [] => (place,[])
  | place, c :: rest =>
      ((scan (step place c).1 rest).1,(step place c).2.toList ++ (scan (step place c).1 rest).2)

def tags (text : Text) : List Text := (scan .text text).2

def Closed (text : Text) : Prop := (scan .text text).1 = .text

instance (text : Text) : Decidable (Closed text) := inferInstanceAs (Decidable (_ = _))

theorem scan_append (place : Place) (front back : Text) : scan place (front ++ back) =
    ((scan (scan place front).1 back).1,(scan place front).2 ++ (scan (scan place front).1 back).2) := by
  induction front generalizing place with
  | nil => rfl
  | cons c rest ih => simp [scan,ih]

theorem scan_plain {text : Text} (plain : less ∉ text) : scan .text text = (.text,[]) := by
  induction text with
  | nil => rfl
  | cons c rest ih =>
    rw [List.mem_cons,not_or] at plain
    simp [scan,step,Ne.symm plain.1,ih plain.2]

theorem less_notin_escape (text : Text) : less ∉ escape text := fun member =>
  absurd (escape_clean text less member) (by decide)

theorem Closed.append {front back : Text} (first : Closed front) (second : Closed back) : Closed (front ++ back) := by
  unfold Closed at first second ⊢
  rw [scan_append,first,second]

theorem Closed.tags_append {front : Text} (first : Closed front) (back : Text) :
    tags (front ++ back) = tags front ++ tags back := by
  unfold Closed at first
  unfold tags
  rw [scan_append,first]

theorem closed_escape (text : Text) : Closed (escape text) := by
  unfold Closed
  rw [scan_plain (less_notin_escape text)]

theorem tags_escape (text : Text) : tags (escape text) = [] := by
  unfold tags
  rw [scan_plain (less_notin_escape text)]

def running : Place → Text → Text
  | _, [] => []
  | place, c :: rest => (if place = .text ∧ c ≠ less then [c] else []) ++ running (step place c).1 rest

def plainText (text : Text) : Text := running .text text

/-- The references that `escape` writes, replaced by their characters. -/
def unescape : Text → Text
  | 38 :: 97 :: 109 :: 112 :: 59 :: rest => ampersand :: unescape rest
  | 38 :: 108 :: 116 :: 59 :: rest => less :: unescape rest
  | 38 :: 103 :: 116 :: 59 :: rest => greater :: unescape rest
  | 38 :: 113 :: 117 :: 111 :: 116 :: 59 :: rest => quotation :: unescape rest
  | 38 :: 35 :: 120 :: 50 :: 55 :: 59 :: rest => apostrophe :: unescape rest
  | c :: rest => c :: unescape rest
  | [] => []

def visibleText (text : Text) : Text := unescape (plainText text)

def visibleLength (text : Text) : Nat := (visibleText text).length

/-- After an ampersand comes a space, which makes no reference. -/
def standAlone : Text → Bool
  | [] => true
  | c :: rest => (c != ampersand || rest.head? == some 32) && standAlone rest

def Neat (text : Text) : Prop := Closed text ∧ standAlone (plainText text)

instance (text : Text) : Decidable (Neat text) := inferInstanceAs (Decidable (_ ∧ _))

theorem running_append (place : Place) (front back : Text) :
    running place (front ++ back) = running place front ++ running (scan place front).1 back := by
  induction front generalizing place with
  | nil => rfl
  | cons c rest ih => simp [running,scan,ih]

theorem Closed.plainText_append {front : Text} (first : Closed front) (back : Text) :
    plainText (front ++ back) = plainText front ++ plainText back := by
  unfold Closed at first
  unfold plainText
  rw [running_append,first]

theorem plainText_plain {text : Text} (plain : less ∉ text) : plainText text = text := by
  unfold plainText
  induction text with
  | nil => rfl
  | cons c rest ih =>
    rw [List.mem_cons,not_or] at plain
    simp [running,step,Ne.symm plain.1,ih plain.2]

theorem plainText_escape (text : Text) : plainText (escape text) = escape text := plainText_plain (less_notin_escape text)

theorem unescape_other {c : Nat} {rest : Text} (other : c ≠ ampersand ∨ rest.head? = some 32) :
    unescape (c :: rest) = c :: unescape rest := by
  rcases other with other | space
  · rw [unescape] <;> simp_all [ampersand]
  · obtain ⟨more,rfl⟩ : ∃ more, rest = 32 :: more := by
      cases rest with
      | nil => cases space
      | cons d more => exact ⟨more,by rw [List.head?_cons,Option.some.injEq] at space; rw [space]⟩
    rw [unescape] <;> simp

theorem unescape_escapeChar (c : Nat) (rest : Text) : unescape (escapeChar c ++ rest) = c :: unescape rest := by
  unfold escapeChar
  split_ifs with amp lt gt quot apos
  · simp [unescape,amp]
  · simp [unescape,lt]
  · simp [unescape,gt]
  · simp [unescape,quot]
  · simp [unescape,apos]
  · exact unescape_other (.inl amp)

theorem unescape_escape (text rest : Text) : unescape (escape text ++ rest) = text ++ unescape rest := by
  induction text with
  | nil => rfl
  | cons c more ih => rw [escape_cons,List.append_assoc,unescape_escapeChar,ih,List.cons_append]

theorem unescape_standAlone {text : Text} (alone : standAlone text) (rest : Text) :
    unescape (text ++ rest) = text ++ unescape rest := by
  induction text with
  | nil => rfl
  | cons c more ih =>
    simp only [standAlone,Bool.and_eq_true,Bool.or_eq_true,bne_iff_ne,beq_iff_eq] at alone
    have other : c ≠ ampersand ∨ (more ++ rest).head? = some 32 := by
      refine alone.1.imp id fun space => ?_
      rw [List.head?_append,space]
      rfl
    rw [List.cons_append,unescape_other other,ih alone.2,List.cons_append]

theorem Neat.visibleText_append {text : Text} (neat : Neat text) (rest : Text) :
    visibleText (text ++ rest) = plainText text ++ visibleText rest := by
  unfold visibleText
  rw [neat.1.plainText_append,unescape_standAlone neat.2]

theorem visibleText_escape (text rest : Text) : visibleText (escape text ++ rest) = text ++ visibleText rest := by
  unfold visibleText
  rw [(closed_escape text).plainText_append,plainText_escape,unescape_escape]

/-- A passage is markup, or what a user wrote, escaped. -/
inductive Fragment where
  | markup (text : Text)
  | user (text : Text)
  deriving DecidableEq, Repr

def Fragment.html : Fragment → Text
  | .markup text => text
  | .user text => escape text

def flatten (fragments : List Fragment) : Text := fragments.flatMap Fragment.html

/-- The same markup, with a property, or users' texts whatever they are. -/
inductive Fragment.Agrees (P : Text → Prop) : Fragment → Fragment → Prop
  | markup {text : Text} (holds : P text) : Agrees P (.markup text) (.markup text)
  | user (text text' : Text) : Agrees P (.user text) (.user text')

/-- Two texts that differ in escaped passages only. -/
def SameMarkup (P : Text → Prop) (text text' : Text) : Prop :=
  ∃ fragments fragments', text = flatten fragments ∧ text' = flatten fragments' ∧
    List.Forall₂ (Fragment.Agrees P) fragments fragments'

section SameMarkup

variable {P Q : Text → Prop} {text text' more more' : Text}

theorem sameMarkup_nil : SameMarkup P [] [] := ⟨[],[],rfl,rfl,.nil⟩

theorem SameMarkup.append (first : SameMarkup P text text') (second : SameMarkup P more more') :
    SameMarkup P (text ++ more) (text' ++ more') := by
  obtain ⟨fragments,fragments',rfl,rfl,agree⟩ := first
  obtain ⟨others,others',rfl,rfl,agree'⟩ := second
  exact ⟨fragments ++ others,fragments' ++ others',by simp [flatten],by simp [flatten],List.rel_append agree agree'⟩

theorem sameMarkup_of (holds : P text) : SameMarkup P text text :=
  ⟨[.markup text],[.markup text],by simp [flatten,Fragment.html],by simp [flatten,Fragment.html],
    .cons (.markup holds) .nil⟩

theorem sameMarkup_escape (user user' : Text) : SameMarkup P (escape user) (escape user') :=
  ⟨[.user user],[.user user'],by simp [flatten,Fragment.html],by simp [flatten,Fragment.html],.cons (.user user user') .nil⟩

theorem sameMarkup_intercalate {separator : Text} (holds : P separator) {texts texts' : List Text}
    (same : List.Forall₂ (SameMarkup P) texts texts') :
    SameMarkup P (separator.intercalate texts) (separator.intercalate texts') := by
  induction same with
  | nil => exact sameMarkup_nil
  | cons here rest ih =>
    cases rest with
    | nil => simpa using here
    | cons next others =>
      rw [List.intercalate_cons_cons,List.intercalate_cons_cons]
      exact (here.append (sameMarkup_of holds)).append ih

theorem SameMarkup.mono (same : SameMarkup P text text') (implies : ∀ text, P text → Q text) : SameMarkup Q text text' := by
  obtain ⟨fragments,fragments',first,second,agree⟩ := same
  refine ⟨fragments,fragments',first,second,agree.imp ?_⟩
  rintro _ _ (⟨holds⟩ | ⟨user,user'⟩)
  · exact .markup (implies _ holds)
  · exact .user user user'

/-- Nothing that makes a tag or a quotation comes from a user. -/
theorem SameMarkup.symbols (same : SameMarkup P text text') : text.filter isMarkup = text'.filter isMarkup := by
  obtain ⟨fragments,fragments',rfl,rfl,agree⟩ := same
  have clean (user : Text) : (escape user).filter isMarkup = [] := by
    rw [List.filter_eq_nil_iff]
    intro c member
    simp [escape_clean user c member]
  unfold flatten
  induction agree with
  | nil => rfl
  | cons here rest ih =>
    rw [List.flatMap_cons,List.flatMap_cons,List.filter_append,List.filter_append,ih]
    cases here with
    | markup holds => rfl
    | user user user' => rw [Fragment.html,Fragment.html,clean,clean]

/-- Where the markup leaves no tag open, the tags are the same. -/
theorem SameMarkup.tags (same : SameMarkup Closed text text') :
    Closed text ∧ Closed text' ∧ HtmlText.tags text = HtmlText.tags text' := by
  obtain ⟨fragments,fragments',rfl,rfl,agree⟩ := same
  unfold flatten
  induction agree with
  | nil => exact ⟨rfl,rfl,rfl⟩
  | cons here rest ih =>
    obtain ⟨closed,closed',tags⟩ := ih
    rw [List.flatMap_cons,List.flatMap_cons]
    cases here with
    | markup holds =>
      refine ⟨holds.append closed,holds.append closed',?_⟩
      rw [Fragment.html,holds.tags_append,holds.tags_append,tags]
    | user user user' =>
      have first := closed_escape user
      have second := closed_escape user'
      refine ⟨first.append closed,second.append closed',?_⟩
      rw [Fragment.html,Fragment.html,first.tags_append,second.tags_append,tags_escape,tags_escape,tags]

/-- A text made of neat markup and escaped texts is seen as it stands, whatever comes after it. -/
theorem SameMarkup.visibleText_append (same : SameMarkup Neat text text') (rest : Text) :
    visibleText (text ++ rest) = visibleText text ++ visibleText rest := by
  obtain ⟨fragments,fragments',rfl,-,agree⟩ := same
  unfold flatten
  induction agree with
  | nil => rfl
  | cons here _ ih =>
    rw [List.flatMap_cons,List.append_assoc]
    cases here with
    | markup neat =>
      rw [Fragment.html,neat.visibleText_append,neat.visibleText_append,ih,List.append_assoc]
    | user user user' => rw [Fragment.html,visibleText_escape,visibleText_escape,ih,List.append_assoc]

theorem SameMarkup.visibleLength_append (same : SameMarkup Neat text text') (rest : Text) :
    visibleLength (text ++ rest) = visibleLength text + visibleLength rest := by
  unfold visibleLength
  rw [same.visibleText_append,List.length_append]

end SameMarkup

end HtmlText
