import BackupTelebot.CatalogPersian
import BackupTelebot.Errors
import BackupTelebot.HtmlMarkup
import BackupTelebot.JsonRoundTrip

/-! How messages are put together: `t`, `code` and the escaping of the values in between. -/
namespace BackupTelebot.Messages

open HtmlText PyFormat

inductive LanguageCode where
  | english
  | persian
  deriving DecidableEq, Repr

/-- A `LanguageCode | str`. -/
inductive Language where
  | code (language : LanguageCode)
  | text (value : HtmlText.Text)
  deriving DecidableEq, Repr

/-- Any object: `str(value)`, and `format(value, format_spec)`, which may raise. -/
structure Object where
  text : HtmlText.Text
  formatted : HtmlText.Text → Except Failure HtmlText.Text

/-- A value of a message: a `TelegramHtml`, or anything else. -/
inductive Value where
  | html (text : HtmlText.Text)
  | plain (object : Object)

/-- `str(value)`. -/
def Value.str : Value → HtmlText.Text
  | .html text => text
  | .plain object => object.text

/-- `str.__format__`. No template has another specification than a comma, which no text takes. -/
def formatStr (text spec : HtmlText.Text) : Except Failure HtmlText.Text := if spec = [] then .ok text else .error (.builtin "ValueError")

/-- `safe_format_value(value).__format__(format_spec)`. -/
def safeFormat (value : Value) (spec : HtmlText.Text) : Except Failure HtmlText.Text :=
  match value with
  | .html text => formatStr text spec
  | .plain object => (object.formatted spec).map escape

def escaped (value : Value) : HtmlText.Text := escape value.str

def codeOpening : HtmlText.Text := PyFormat.text "<code>" rfl
def codeClosing : HtmlText.Text := PyFormat.text "</code>" rfl

def code (value : Value) : HtmlText.Text := codeOpening ++ escaped value ++ codeClosing

/-- What is no language is English. -/
def Language.resolve : Language → LanguageCode
  | .code language => language
  | .text value => if value = PyFormat.text "fa" rfl then .persian else .english

def catalog : LanguageCode → List (HtmlText.Text × HtmlText.Text)
  | .english => english
  | .persian => persian

/-- `CATALOGS[code].get(key, EN[key])`. -/
def template (language : LanguageCode) (key : HtmlText.Text) : Except Failure HtmlText.Text :=
  match english.lookup key with
  | none => .error (.builtin "KeyError")
  | some fallback => .ok (((catalog language).lookup key).getD fallback)

abbrev Values := List (HtmlText.Text × Value)

def fieldValue (values : Values) (name spec : HtmlText.Text) : Except Failure HtmlText.Text :=
  match values.lookup name with
  | none => .error (.builtin "KeyError")
  | some value => safeFormat value spec

/-- `template.format(**safe_values)`. -/
def formatTemplate (template : HtmlText.Text) (values : Values) : Except Failure HtmlText.Text :=
  match parse template with
  | none => .error (.builtin "ValueError")
  | some pieces => render (fieldValue values) pieces

def t (language : Language) (key : HtmlText.Text) (values : Values) : Except Failure HtmlText.Text := do
  let template ← template language.resolve key
  formatTemplate template values

theorem t_eq_render {language : Language} {key template_ : HtmlText.Text} {pieces : List Piece}
    (found : template language.resolve key = .ok template_) (read : parse template_ = some pieces) (values : Values) :
    t language key values = render (fieldValue values) pieces := by
  change (template language.resolve key >>= fun template_ => formatTemplate template_ values) = _
  rw [found]
  change formatTemplate template_ values = _
  rw [formatTemplate,read]

/-- The template can be read, its fields are plain or take a comma, and between them is neat markup:
no field stands in a tag. -/
def WellFormed (template : HtmlText.Text) : Prop :=
  ∃ pieces, parse template = some pieces ∧ ∀ piece ∈ pieces, match piece with
    | .literal text => Neat text
    | .field _ spec => spec = [] ∨ spec = [44]

instance (piece : Piece) : Decidable (match piece with
    | .literal text => Neat text
    | .field _ spec => spec = [] ∨ spec = [44]) :=
  match piece with
  | .literal _ => inferInstanceAs (Decidable (Neat _))
  | .field _ _ => inferInstanceAs (Decidable (_ ∨ _))

instance (template : HtmlText.Text) : Decidable (WellFormed template) :=
  match read : parse template with
  | none => isFalse (by simp [WellFormed,read])
  | some pieces => decidable_of_iff (∀ piece ∈ pieces, match piece with
      | .literal text => Neat text
      | .field _ spec => spec = [] ∨ spec = [44]) (by simp [WellFormed,read])

theorem english_wellFormed : ∀ entry ∈ english, WellFormed entry.2 := by
  have first : ∀ entry ∈ englishFirst, WellFormed entry.2 := by decide +kernel
  have second : ∀ entry ∈ englishSecond, WellFormed entry.2 := by decide +kernel
  have third : ∀ entry ∈ englishThird, WellFormed entry.2 := by decide +kernel
  have fourth : ∀ entry ∈ englishFourth, WellFormed entry.2 := by decide +kernel
  have fifth : ∀ entry ∈ englishFifth, WellFormed entry.2 := by decide +kernel
  have sixth : ∀ entry ∈ englishSixth, WellFormed entry.2 := by decide +kernel
  have seventh : ∀ entry ∈ englishSeventh, WellFormed entry.2 := by decide +kernel
  have eighth : ∀ entry ∈ englishEighth, WellFormed entry.2 := by decide +kernel
  simp only [english,List.forall_mem_append]
  exact ⟨⟨⟨⟨⟨⟨⟨first,second⟩,third⟩,fourth⟩,fifth⟩,sixth⟩,seventh⟩,eighth⟩

theorem persian_wellFormed : ∀ entry ∈ persian, WellFormed entry.2 := by
  have first : ∀ entry ∈ persianFirst, WellFormed entry.2 := by decide +kernel
  have second : ∀ entry ∈ persianSecond, WellFormed entry.2 := by decide +kernel
  have third : ∀ entry ∈ persianThird, WellFormed entry.2 := by decide +kernel
  have fourth : ∀ entry ∈ persianFourth, WellFormed entry.2 := by decide +kernel
  have fifth : ∀ entry ∈ persianFifth, WellFormed entry.2 := by decide +kernel
  have sixth : ∀ entry ∈ persianSixth, WellFormed entry.2 := by decide +kernel
  have seventh : ∀ entry ∈ persianSeventh, WellFormed entry.2 := by decide +kernel
  have eighth : ∀ entry ∈ persianEighth, WellFormed entry.2 := by decide +kernel
  simp only [persian,List.forall_mem_append]
  exact ⟨⟨⟨⟨⟨⟨⟨first,second⟩,third⟩,fourth⟩,fifth⟩,sixth⟩,seventh⟩,eighth⟩

theorem mem_of_lookup {α : Type} {entries : List (HtmlText.Text × α)} {key : HtmlText.Text} {value : α}
    (found : entries.lookup key = some value) : (key,value) ∈ entries := by
  obtain ⟨front,back,rfl,_⟩ := List.lookup_eq_some_iff.mp found
  exact List.mem_append_right front List.mem_cons_self

theorem template_wellFormed {language : LanguageCode} {key template_ : HtmlText.Text}
    (found : template language key = .ok template_) : WellFormed template_ := by
  unfold template at found
  cases fallback : english.lookup key with
  | none => rw [fallback] at found; cases found
  | some text =>
    rw [fallback,Except.ok.injEq] at found
    have usual : WellFormed text := english_wellFormed (key,text) (mem_of_lookup fallback)
    cases own : (catalog language).lookup key with
    | none =>
      rw [own,Option.getD_none] at found
      rwa [← found]
    | some text' =>
      rw [own,Option.getD_some] at found
      have member := mem_of_lookup own
      rw [← found]
      cases language with
      | english => exact english_wellFormed (key,text') member
      | persian => exact persian_wellFormed (key,text') member

end BackupTelebot.Messages
