import BackupTelebot.TelegramMessages

/-! What a user writes into a message stays text: with other values of the same trust, a message
has the same markup. -/
namespace BackupTelebot.Messages

open HtmlText PyFormat

variable {P : HtmlText.Text → Prop}

/-- Both are trusted and have the same markup, or neither is trusted. -/
inductive Value.Agrees (P : HtmlText.Text → Prop) : Value → Value → Prop
  | html {text text' : HtmlText.Text} (same : SameMarkup P text text') : Agrees P (.html text) (.html text')
  | plain (object object' : Object) : Agrees P (.plain object) (.plain object')

def Values.Agree (P : HtmlText.Text → Prop) (values values' : Values) : Prop :=
  List.Forall₂ (fun one other => one.1 = other.1 ∧ Value.Agrees P one.2 other.2) values values'

theorem sameMarkup_escaped (value value' : Value) : SameMarkup P (escaped value) (escaped value') :=
  sameMarkup_escape value.str value'.str

theorem sameMarkup_code (markup : ∀ text, Neat text → P text) (value value' : Value) :
    SameMarkup P (code value) (code value') :=
  ((sameMarkup_of (markup codeOpening (by decide))).append (sameMarkup_escaped value value')).append
    (sameMarkup_of (markup codeClosing (by decide)))

theorem both_formatStr {text text' : HtmlText.Text} (same : SameMarkup P text text') (spec : HtmlText.Text) :
    Both (SameMarkup P) (formatStr text spec) (formatStr text' spec) := by
  unfold formatStr
  split_ifs
  · exact both_ok same
  · exact both_error

theorem both_safeFormat {value value' : Value} (agrees : Value.Agrees P value value') (spec : HtmlText.Text) :
    Both (SameMarkup P) (safeFormat value spec) (safeFormat value' spec) := by
  cases agrees with
  | html same => exact both_formatStr same spec
  | plain object object' =>
    exact (both_any (object.formatted spec) (object'.formatted spec)).map fun user user' _ => sameMarkup_escape user user'

theorem Values.Agree.lookup {values values' : Values} (agree : values.Agree P values') (name : HtmlText.Text) :
    Option.Rel (Value.Agrees P) (values.lookup name) (values'.lookup name) := by
  induction agree with
  | nil => exact .none
  | @cons one other rest rest' here _ ih =>
    obtain ⟨key,value⟩ := one
    obtain ⟨key',value'⟩ := other
    obtain ⟨rfl,agrees⟩ := here
    by_cases same : name = key
    · rw [same,List.lookup_cons_self,List.lookup_cons_self]
      exact .some agrees
    · have different : (name == key) = false := by simpa using same
      simp only [List.lookup_cons,different]
      exact ih

theorem both_fieldValue {values values' : Values} (agree : values.Agree P values') (name spec : HtmlText.Text) :
    Both (SameMarkup P) (fieldValue values name spec) (fieldValue values' name spec) := by
  have found := agree.lookup name
  unfold fieldValue
  cases one : values.lookup name with
  | none => exact both_error
  | some value =>
    rw [one] at found
    cases other : values'.lookup name with
    | none => rw [other] at found; cases found
    | some value' =>
      rw [other] at found
      cases found with
      | some agrees => exact both_safeFormat agrees spec

theorem both_formatTemplate (markup : ∀ text, Neat text → P text) {template : HtmlText.Text}
    (wellFormed : WellFormed template) {values values' : Values} (agree : values.Agree P values') :
    Both (SameMarkup P) (formatTemplate template values) (formatTemplate template values') := by
  obtain ⟨pieces,read,sound⟩ := wellFormed
  unfold formatTemplate
  rw [read]
  refine both_render sameMarkup_nil SameMarkup.append ?_ fun name spec _ => both_fieldValue agree name spec
  intro text member
  exact sameMarkup_of (markup text (sound _ member))

/-- The markup of a message depends on the template and the trusted values. -/
theorem both_t (markup : ∀ text, Neat text → P text) (language : Language) (key : HtmlText.Text)
    {values values' : Values} (agree : values.Agree P values') :
    Both (SameMarkup P) (t language key values) (t language key values') := by
  intro text text' reached reached'
  unfold t at reached reached'
  cases found : template language.resolve key with
  | error e => rw [found] at reached; cases reached
  | ok template =>
    rw [found] at reached reached'
    exact both_formatTemplate markup (template_wellFormed found) agree text text' reached reached'

/-- A passage of a message: a literal of the template, a trusted value as it is, or an escaped text. -/
inductive Origin (values : Values) : Piece → Fragment → Prop
  | literal (text : HtmlText.Text) : Origin values (.literal text) (.markup text)
  | trusted {name text : HtmlText.Text} (found : values.lookup name = some (.html text)) :
      Origin values (.field name []) (.markup text)
  | user {name spec text : HtmlText.Text} {object : Object} (found : values.lookup name = some (.plain object))
      (formatted : object.formatted spec = .ok text) : Origin values (.field name spec) (.user text)

theorem fieldValue_origin {values : Values} {name spec text : HtmlText.Text} (shown : fieldValue values name spec = .ok text) :
    ∃ fragment, Origin values (.field name spec) fragment ∧ text = fragment.html := by
  unfold fieldValue at shown
  cases found : values.lookup name with
  | none => rw [found] at shown; cases shown
  | some value =>
    rw [found] at shown
    cases value with
    | html trusted =>
      simp only [safeFormat,formatStr] at shown
      split_ifs at shown with plain
      cases shown
      rw [plain]
      exact ⟨.markup text,.trusted found,rfl⟩
    | plain object =>
      change (object.formatted spec).map escape = .ok text at shown
      cases formatted : object.formatted spec with
      | error e => rw [formatted] at shown; cases shown
      | ok user =>
        rw [formatted] at shown
        cases shown
        exact ⟨.user user,.user found formatted,rfl⟩

theorem render_origin {values : Values} {pieces : List Piece} {text : HtmlText.Text}
    (shown : render (fieldValue values) pieces = .ok text) :
    ∃ fragments, List.Forall₂ (Origin values) pieces fragments ∧ text = flatten fragments := by
  induction pieces generalizing text with
  | nil =>
    cases shown
    exact ⟨[],.nil,rfl⟩
  | cons piece rest ih =>
    cases piece with
    | literal literal =>
      cases behind : render (fieldValue values) rest with
      | error e => rw [render,behind] at shown; cases shown
      | ok more =>
        rw [render,behind] at shown
        cases shown
        obtain ⟨fragments,origin,rfl⟩ := ih behind
        exact ⟨.markup literal :: fragments,.cons (.literal literal) origin,rfl⟩
    | field name spec =>
      cases here : fieldValue values name spec with
      | error e => rw [render,here] at shown; cases shown
      | ok value =>
        cases behind : render (fieldValue values) rest with
        | error e => rw [render,here,behind] at shown; cases shown
        | ok more =>
          rw [render,here,behind] at shown
          cases shown
          obtain ⟨fragment,first,rfl⟩ := fieldValue_origin here
          obtain ⟨fragments,origin,rfl⟩ := ih behind
          exact ⟨fragment :: fragments,.cons first origin,rfl⟩

theorem t_origin {language : Language} {key message : HtmlText.Text} {values : Values}
    (shown : t language key values = .ok message) : ∃ pieces fragments,
      (template language.resolve key).map parse = .ok (some pieces) ∧ List.Forall₂ (Origin values) pieces fragments ∧
        message = flatten fragments := by
  cases found : template language.resolve key with
  | error e => unfold t at shown; rw [found] at shown; cases shown
  | ok template =>
    obtain ⟨pieces,read,_⟩ := template_wellFormed found
    rw [t_eq_render found read] at shown
    obtain ⟨fragments,origin,same⟩ := render_origin shown
    exact ⟨pieces,fragments,by rw [Except.map,read],origin,same⟩

end BackupTelebot.Messages
