import BackupTelebot.CaptionLength

/-! What a reader sees of a message, and when there is one. -/
namespace BackupTelebot.Messages

open HtmlText PyFormat Captions

/-- What is seen of a piece: the literal without its tags, a trusted value as it is seen alone, any
other value as it was formatted. -/
inductive Seen (values : Values) : Piece → HtmlText.Text → Prop
  | literal (text : HtmlText.Text) : Seen values (.literal text) (plainText text)
  | trusted {name text : HtmlText.Text} (found : values.lookup name = some (.html text)) :
      Seen values (.field name []) (visibleText text)
  | user {name spec text : HtmlText.Text} {object : Object} (found : values.lookup name = some (.plain object))
      (formatted : object.formatted spec = .ok text) : Seen values (.field name spec) text

/-- The trusted values are made of neat markup and escaped texts, as messages are. -/
def Values.Composed (values : Values) : Prop :=
  ∀ name text, values.lookup name = some (.html text) → SameMarkup Neat text text

theorem origin_seen {values : Values} (composed : values.Composed) {pieces : List Piece} {fragments : List Fragment}
    (literals : ∀ text, .literal text ∈ pieces → Neat text) (origin : List.Forall₂ (Origin values) pieces fragments) :
    ∃ seen, List.Forall₂ (Seen values) pieces seen ∧ SameMarkup Neat (flatten fragments) (flatten fragments) ∧
      visibleText (flatten fragments) = seen.flatten := by
  induction origin with
  | nil => exact ⟨[],.nil,sameMarkup_nil,rfl⟩
  | @cons piece fragment pieces fragments here _ ih =>
    obtain ⟨seen,behind,whole,shown⟩ := ih fun text member => literals text (List.mem_cons_of_mem _ member)
    have split : flatten (fragment :: fragments) = fragment.html ++ flatten fragments := List.flatMap_cons
    rw [split]
    cases here with
    | literal text =>
      have neat := literals text List.mem_cons_self
      refine ⟨plainText text :: seen,.cons (.literal text) behind,(sameMarkup_of neat).append whole,?_⟩
      rw [Fragment.html,neat.visibleText_append,shown,List.flatten_cons]
    | @trusted name text found =>
      have same := composed name text found
      refine ⟨visibleText text :: seen,.cons (.trusted found) behind,same.append whole,?_⟩
      rw [Fragment.html,same.visibleText_append,shown,List.flatten_cons]
    | @user name spec text object found formatted =>
      refine ⟨text :: seen,.cons (.user found formatted) behind,(sameMarkup_escape text text).append whole,?_⟩
      rw [Fragment.html,visibleText_escape,shown,List.flatten_cons]

theorem template_literals {language : LanguageCode} {key template_ : HtmlText.Text} {pieces : List Piece}
    (found : template language key = .ok template_) (read : parse template_ = some pieces) :
    ∀ text, .literal text ∈ pieces → Neat text := by
  intro text member
  obtain ⟨pieces',read',sound⟩ := template_wellFormed found
  obtain rfl := Option.some.inj (read.symm.trans read')
  exact sound _ member

/-- A reader sees the template without its tags and every value as it was given, whatever characters
it has; and the message can be a trusted value again. -/
theorem t_shows (language : Language) (key message : HtmlText.Text) (values : Values) (composed : values.Composed)
    (shown : t language key values = .ok message) :
    ∃ template_ pieces seen, template language.resolve key = .ok template_ ∧ parse template_ = some pieces ∧
      List.Forall₂ (Seen values) pieces seen ∧ visibleText message = seen.flatten ∧
      ∀ name, Values.Composed ((name,.html message) :: values) := by
  obtain ⟨pieces,fragments,read,origin,rfl⟩ := t_origin shown
  cases found : template language.resolve key with
  | error e => rw [found] at read; cases read
  | ok template_ =>
    rw [found] at read
    have parsed : parse template_ = some pieces := Except.ok.inj read
    obtain ⟨seen,each,whole,visible⟩ := origin_seen composed (template_literals found parsed) origin
    refine ⟨template_,pieces,seen,rfl,parsed,each,visible,?_⟩
    intro name name' text listed
    by_cases same : name' = name
    · rw [same,List.lookup_cons_self] at listed
      cases listed
      exact whole
    · have different : (name' == name) = false := by simpa using same
      simp only [List.lookup_cons,different] at listed
      exact composed name' text listed

def boldName : Value := .plain ⟨text "<b>&amp;" rfl,formatStr (text "<b>&amp;" rfl)⟩

/-- A kind that the catalogs do not know, as `audit_entry` shows it, and a target. -/
def boldTarget : Values := [(text "kind" rfl,.html (code boldName)),(text "target" rfl,boldName)]

theorem boldTarget_composed : boldTarget.Composed := by
  have trusted : SameMarkup Neat (code boldName) (code boldName) := sameMarkup_code (fun _ neat => neat) boldName boldName
  intro name text listed
  rw [boldTarget,List.lookup_cons,List.lookup_cons,List.lookup_nil] at listed
  split at listed
  · cases listed
    exact trusted
  · split at listed <;> cases listed

/-- Names full of markup are read as they are, in a trusted value and alone, in the language for a
code that is none. -/
theorem t_shows_bold_name : ∃ message template_ pieces seen,
    t (.text (text "de" rfl)) (text "audit_target" rfl) boldTarget = .ok message ∧
    template .english (text "audit_target" rfl) = .ok template_ ∧ parse template_ = some pieces ∧
    List.Forall₂ (Seen boldTarget) pieces seen ∧ visibleText message = seen.flatten := by
  obtain ⟨message,shown⟩ := exists_ok (show (t (.text (text "de" rfl)) (text "audit_target" rfl)
    boldTarget).toOption.isSome = true by decide +kernel)
  obtain ⟨template_,pieces,seen,found,read,each,visible,_⟩ :=
    t_shows (.text (text "de" rfl)) _ message _ boldTarget_composed shown
  exact ⟨message,template_,pieces,seen,shown,found,read,each,visible⟩

theorem render_returns {value : HtmlText.Text → HtmlText.Text → Except Failure HtmlText.Text} {pieces : List Piece} :
    (∃ text, render value pieces = .ok text) ↔ ∀ name spec, .field name spec ∈ pieces → ∃ text, value name spec = .ok text := by
  induction pieces with
  | nil =>
    apply iff_of_true ⟨[],rfl⟩
    intro name spec member
    exact absurd member List.not_mem_nil
  | cons piece rest ih =>
    cases piece with
    | literal literal =>
      have skip : (∀ name spec, Piece.field name spec ∈ Piece.literal literal :: rest → ∃ text, value name spec = .ok text) ↔
          ∀ name spec, Piece.field name spec ∈ rest → ∃ text, value name spec = .ok text := by
        simp only [List.mem_cons,reduceCtorEq,false_or]
      rw [skip,← ih]
      cases behind : render value rest with
      | error e => simp [render,behind,bind,Except.bind]
      | ok more => simp [render,behind,bind,Except.bind,pure,Except.pure]
    | field name spec =>
      have split : (∀ name' spec', Piece.field name' spec' ∈ Piece.field name spec :: rest →
            ∃ text, value name' spec' = .ok text) ↔
          (∃ text, value name spec = .ok text) ∧
            ∀ name' spec', Piece.field name' spec' ∈ rest → ∃ text, value name' spec' = .ok text := by
        simp only [List.mem_cons,Piece.field.injEq]
        constructor
        · intro each
          exact ⟨each name spec (.inl ⟨rfl,rfl⟩),fun name' spec' member => each name' spec' (.inr member)⟩
        · rintro ⟨here,behind⟩ name' spec' (⟨rfl,rfl⟩ | member)
          · exact here
          · exact behind name' spec' member
      rw [split,← ih]
      cases here : value name spec with
      | error e => simp [render,here,bind,Except.bind]
      | ok text =>
        cases behind : render value rest with
        | error e => simp [render,here,behind,bind,Except.bind]
        | ok more => simp [render,here,behind,bind,Except.bind,pure,Except.pure]

theorem fieldValue_returns {values : Values} {name spec : HtmlText.Text} : (∃ text, fieldValue values name spec = .ok text) ↔
    ∃ value text, values.lookup name = some value ∧ safeFormat value spec = .ok text := by
  unfold fieldValue
  cases values.lookup name with
  | none => simp
  | some value => simp

/-- A message is made exactly if English has the key and every field of the template in the reader's
language has a value that takes its specification; a catalog entry never raises by itself. -/
theorem t_returns_iff (language : Language) (key : HtmlText.Text) (values : Values) :
    (∃ message, t language key values = .ok message) ↔
      (∃ text, english.lookup key = some text) ∧
        ∀ name spec, .field name spec ∈ pieces language.resolve key →
          ∃ value text, values.lookup name = some value ∧ safeFormat value spec = .ok text := by
  cases listed : english.lookup key with
  | none =>
    apply iff_of_false
    · rintro ⟨message,shown⟩
      simp [t,template,listed,bind,Except.bind] at shown
    · rintro ⟨⟨text,some⟩,_⟩
      cases some
  | some fallback =>
    have found : template language.resolve key = .ok (((catalog language.resolve).lookup key).getD fallback) := by
      rw [template,listed]
    obtain ⟨read,parsed,_⟩ := template_wellFormed found
    rw [t_eq_render found parsed,pieces_eq found parsed,render_returns]
    simp only [fieldValue_returns]
    constructor
    · intro each
      exact ⟨⟨fallback,rfl⟩,each⟩
    · rintro ⟨_,each⟩
      exact each

end BackupTelebot.Messages
