import BackupTelebot.JsonRoundTrip
import BackupTelebot.ProfileRows
import BackupTelebot.PythonDict
import BackupTelebot.PythonReplace
import Mathlib.Data.Finset.SymmDiff

/-! The keyboards on which access is assigned. A button says what it is for by its text only; the
text comes back as a message and is turned into the key of an option again. -/
namespace BackupTelebot.AccessKeyboard

open PyJson PyDict PyText Config

structure Listed where
  id : ℤ
  name : Str
  accepted : ∃ typed, validateName typed = .ok name

/-- The profiles of an admin, the admins of a profile, and the wizard's step on the admins of a new
profile. -/
inductive Screen
  | adminAccess
  | backupAccess
  | addBackupAdmins
  deriving DecidableEq

def checked : Str := str "✅ "
def unchecked : Str := str "⬜ "
def pageSize : ℕ := 8

def caption (screen : Screen) (object : Listed) (index : ℕ) : Str :=
  match screen with
  | .adminAccess => object.name
  | .backupAccess | .addBackupAdmins => object.name ++ str " · " ++ dumpNat index

/-- `option_ids`, from `_prepare_admin_access`, `_prepare_backup_access` and `_prepare_new_backup_admins`. -/
def optionIds (screen : Screen) (objects : List Listed) : Dict Str ℤ :=
  (objects.zipIdx 1).foldl (fun ids entry => ids.set (unchecked ++ caption screen entry.1 entry.2) entry.1.id) .empty

def mark (selected : Finset ℤ) (id : ℤ) : Str := if id ∈ selected then checked else unchecked

/-- The texts of the buttons of a page, each with the id for which it is rendered. -/
def accessKeyboard (ids : Dict Str ℤ) (selected : Finset ℤ) (page : ℕ) : List (Str × ℤ) :=
  ((ids.entries.drop (page * pageSize)).take pageSize).map fun choice =>
    (mark selected choice.2 ++ removeprefix unchecked choice.1,choice.2)

inductive Action
  | back
  | home
  | cancel
  | saveAccess
  | removeAll
  | confirmDelete
  | confirm
  | previousPage
  | nextPage
  deriving DecidableEq

/-- The button texts of both languages for the actions that the screens know or that begin with a
mark. Every other text of the catalogs, such as a section that begins with a mark, is an action
that the screens treat as none, and is left out. -/
def catalogs : List (Str × Action) := [
  (str "⬅️ Back",.back),(str "🏠 Home",.home),(str "❌ Cancel",.cancel),
  (str "✅ Save Access",.saveAccess),(str "🚫 Remove All",.removeAll),(str "✅ Confirm Delete",.confirmDelete),
  (str "✅ Confirm",.confirm),(str "◀️ Previous",.previousPage),(str "Next ▶️",.nextPage),
  (str "⬅️ بازگشت",.back),(str "🏠 خانه",.home),(str "❌ لغو",.cancel),
  (str "✅ ذخیره دسترسی",.saveAccess),(str "🚫 حذف همه",.removeAll),(str "✅ تأیید حذف",.confirmDelete),
  (str "✅ تأیید",.confirm),(str "◀️ قبلی",.previousPage),(str "بعدی ▶️",.nextPage)]

def actionForText (text : Str) : Option Action := (catalogs.find? fun entry => decide (entry.1 = text)).map (·.2)

inductive Outcome
  | cancelled
  | home
  | back
  | paginated (action : Action)
  | assigned (selected : Finset ℤ)
  | confirming (selected : Finset ℤ)
  | refused
  | toggled (selected : Finset ℤ)
  deriving DecidableEq

def toggle (ids : Dict Str ℤ) (selected : Finset ℤ) (text : Str) : Outcome :=
  match ids.get (replaceOnce checked unchecked text) with
  | none => .refused
  | some id => .toggled (symmDiff selected {id})

def kept (selected : Finset ℤ) (action : Option Action) : Finset ℤ := if action = some .removeAll then ∅ else selected

def handleAccessAction (ids : Dict Str ℤ) (selected : Finset ℤ) (text : Str) (action : Option Action) : Outcome :=
  if action = some .saveAccess ∨ action = some .removeAll then .assigned (kept selected action) else toggle ids selected text

/-- `_flow` in the state `ADD_BACKUP_ADMINS`. -/
def addBackupAdmins (ids : Dict Str ℤ) (selected : Finset ℤ) (text : Str) (action : Option Action) : Outcome :=
  if action = some .saveAccess ∨ action = some .removeAll then .confirming (kept selected action) else toggle ids selected text

def flow (screen : Screen) (ids : Dict Str ℤ) (selected : Finset ℤ) (text : Str) (action : Option Action) : Outcome :=
  match action with
  | some .previousPage => .paginated .previousPage
  | some .nextPage => .paginated .nextPage
  | _ =>
    match screen with
    | .adminAccess | .backupAccess => handleAccessAction ids selected text action
    | .addBackupAdmins => addBackupAdmins ids selected text action

def dispatch (screen : Screen) (ids : Dict Str ℤ) (selected : Finset ℤ) (text : Str) : Outcome :=
  let action := actionForText text
  if text = str "/cancel" ∨ action = some .cancel then .cancelled
  else if text = str "/start" ∨ action = some .home then .home
  else if action = some .back then .back
  else flow screen ids selected text action

/-- `_handle_event`, for a message in a conversation on the screen. -/
def handleEvent (screen : Screen) (ids : Dict Str ℤ) (selected : Finset ℤ) (rawText : Str) : Outcome :=
  dispatch screen ids selected (strip rawText)

def savingNames : List Str := [str "Save Access",str "ذخیره دسترسی"]

/-- The button of a selected object shows no name that makes it a saving text; the button of
another object shows no second mark. -/
def Readable (screen : Screen) (selected : Finset ℤ) (object : Listed) : Prop :=
  if object.id ∈ selected then screen = .adminAccess → object.name ∉ savingNames
  else ¬checked <:+: object.name ∧ (screen ≠ .adminAccess → ¬[0x2705] <:+ object.name)

instance (screen : Screen) (selected : Finset ℤ) (object : Listed) : Decidable (Readable screen selected object) := by
  unfold Readable
  infer_instance

section Options

variable {screen : Screen} {objects : List Listed} {selected : Finset ℤ} {page : ℕ} {key text : Str} {id : ℤ}

theorem get_foldl {entries : List (Listed × ℕ)} {ids : Dict Str ℤ}
    (found : (entries.foldl (fun ids entry => ids.set (unchecked ++ caption screen entry.1 entry.2) entry.1.id) ids).get key = some id) :
    ids.get key = some id ∨ ∃ entry ∈ entries, unchecked ++ caption screen entry.1 entry.2 = key ∧ entry.1.id = id := by
  induction entries generalizing ids with
  | nil => exact .inl found
  | cons first rest ih =>
    rcases ih found with here | ⟨entry,member,same⟩
    · rw [Dict.get_set] at here
      split_ifs at here with same
      · exact .inr ⟨first,List.mem_cons_self,same.symm,Option.some.inj here⟩
      · exact .inl here
    · exact .inr ⟨entry,List.mem_cons_of_mem _ member,same⟩

/-- An option stands for an object of the list. -/
theorem optionIds_get (found : (optionIds screen objects).get key = some id) :
    ∃ object index, (object,index) ∈ objects.zipIdx 1 ∧ key = unchecked ++ caption screen object index ∧ object.id = id := by
  rcases get_foldl found with absent | ⟨entry,member,same,rfl⟩
  · simp at absent
  · exact ⟨entry.1,entry.2,member,same.symm,rfl⟩

theorem accessKeyboard_get {ids : Dict Str ℤ} (button : (text,id) ∈ accessKeyboard ids selected page) :
    ∃ key, ids.get key = some id ∧ text = mark selected id ++ removeprefix unchecked key := by
  obtain ⟨choice,member,same⟩ := List.mem_map.mp button
  obtain ⟨rfl,rfl⟩ := Prod.mk.inj same
  exact ⟨choice.1,Dict.mem_entries.mp (List.mem_of_mem_drop (List.mem_of_mem_take member)),rfl⟩

/-- The entries of a list whose ids are distinct. -/
theorem zipIdx_unique (distinct : (objects.map (·.id)).Nodup) {a b : Listed} {i j : ℕ} (first : (a,i) ∈ objects.zipIdx 1)
    (second : (b,j) ∈ objects.zipIdx 1) (same : a.id = b.id) : a = b ∧ i = j := by
  rw [List.mem_zipIdx_iff_le_and_getElem?_sub] at first second
  have here : (objects.map (·.id))[i - 1]? = some a.id := by rw [List.getElem?_map,first.2]; rfl
  have there : (objects.map (·.id))[j - 1]? = some b.id := by rw [List.getElem?_map,second.2]; rfl
  have inside : i - 1 < (objects.map (·.id)).length := (List.getElem?_eq_some_iff.mp here).1
  have at_ : i - 1 = j - 1 := (List.getElem?_inj inside distinct).mp (by rw [here,there,same])
  have index : i = j := by
    have := first.1
    have := second.1
    omega
  subst index
  exact ⟨Option.some.inj (first.2.symm.trans second.2),rfl⟩

end Options

section Captions

variable {screen : Screen} {object : Listed} {index : ℕ} {selected : Finset ℤ} {id : ℤ}

theorem validateName_ok {typed name : Str} (valid : validateName typed = .ok name) : name = strip typed ∧ name ≠ [] := by
  simp only [validateName,refuse] at valid
  split_ifs at valid with bad
  · cases valid
  · obtain rfl : strip typed = name := by simpa [pure,Except.pure,bind,Except.bind] using valid
    refine ⟨rfl,?_⟩
    rintro empty
    simp [empty] at bad

theorem Listed.name_ne (object : Listed) : object.name ≠ [] := by
  obtain ⟨typed,valid⟩ := object.accepted
  exact (validateName_ok valid).2

theorem Listed.name_last (object : Listed) {c : ℕ} (last : object.name.getLast? = some c) : PyText.isSpace c = false := by
  obtain ⟨typed,valid⟩ := object.accepted
  rw [(validateName_ok valid).1,strip,List.getLast?_reverse] at last
  exact head_dropWhile last

theorem caption_numbered (other : screen ≠ .adminAccess) : caption screen object index = object.name ++ str " · " ++ dumpNat index := by
  cases screen with
  | adminAccess => exact absurd rfl other
  | backupAccess => rfl
  | addBackupAdmins => rfl

theorem caption_last {c : ℕ} (last : (caption screen object index).getLast? = some c) :
    PyText.isSpace c = false ∧ (screen ≠ .adminAccess → 48 ≤ c ∧ c ≤ 57) := by
  by_cases plain : screen = .adminAccess
  · subst plain
    exact ⟨object.name_last last,fun other => absurd rfl other⟩
  · rw [caption_numbered plain,List.getLast?_append_of_ne_nil _ (dumpNat_ne index)] at last
    have digit := dumpNat_digit index c (List.mem_of_getLast? last)
    refine ⟨?_,fun _ => digit⟩
    simp [PyText.isSpace]
    omega

theorem caption_ne : caption screen object index ≠ [] := by
  have nonempty := object.name_ne
  cases screen <;> simp [caption,nonempty]

theorem mark_cases (selected : Finset ℤ) (id : ℤ) :
    id ∈ selected ∧ mark selected id = checked ∨ id ∉ selected ∧ mark selected id = unchecked := by
  by_cases chosen : id ∈ selected <;> simp [mark,chosen]

/-- The text of a button has no white space at its ends. -/
theorem strip_button : strip (mark selected id ++ caption screen object index) = mark selected id ++ caption screen object index := by
  apply strip_eq_self
  · intro c head
    rcases mark_cases selected id with ⟨-,eq⟩ | ⟨-,eq⟩
    · rw [eq] at head
      obtain rfl : 0x2705 = c := Option.some.inj head
      rfl
    · rw [eq] at head
      obtain rfl : 0x2B1C = c := Option.some.inj head
      rfl
  · intro c last
    rw [List.getLast?_append_of_ne_nil _ caption_ne] at last
    exact (caption_last last).1

/-- A button shows a second mark where the name does, or where the name ends in one and the index
follows. -/
theorem second_mark : checked <:+: unchecked ++ caption screen object index ↔
    checked <:+: object.name ∨ (screen ≠ .adminAccess ∧ [0x2705] <:+ object.name) := by
  have front : checked <:+: unchecked ++ caption screen object index ↔ checked <:+: caption screen object index := by
    change [0x2705,32] <:+: 0x2B1C :: 32 :: caption screen object index ↔ [0x2705,32] <:+: caption screen object index
    simp [List.infix_cons_iff,List.cons_prefix_cons]
  rw [front]
  by_cases plain : screen = .adminAccess
  · subst plain
    simp [caption]
  · rw [caption_numbered plain,List.append_assoc]
    change [0x2705,32] <:+: object.name ++ (32 :: 0xB7 :: 32 :: dumpNat index) ↔ [0x2705,32] <:+: object.name ∨ _
    have digits : ¬[0x2705,32] <:+: 32 :: 0xB7 :: 32 :: dumpNat index := by
      intro inside
      have member : 0x2705 ∈ 32 :: 0xB7 :: 32 :: dumpNat index := inside.subset List.mem_cons_self
      have digit : 0x2705 ∈ dumpNat index := by simpa using member
      have := dumpNat_digit index 0x2705 digit
      omega
    rw [pair_infix_append]
    simp [digits,plain,List.cons_prefix_cons]

end Captions

section Actions

variable {screen : Screen} {object : Listed} {index : ℕ} {selected : Finset ℤ} {id : ℤ} {action : Action}

theorem marked_actions : ∀ entry ∈ catalogs, entry.1.head? = some 0x2705 ∨ entry.1.head? = some 0x2B1C →
    (entry.2 = .confirm ∨ entry.2 = .confirmDelete) ∨ entry.2 = .saveAccess ∧ entry.1 ∈ savingNames.map (checked ++ ·) := by decide

theorem saving_action : ∀ name ∈ savingNames, actionForText (checked ++ name) = some .saveAccess := by decide

theorem saving_last : ∀ name ∈ savingNames, name.getLast?.all fun c => !decide (48 ≤ c ∧ c ≤ 57) := by decide

theorem head_button (screen : Screen) (object : Listed) (index : ℕ) (selected : Finset ℤ) (id : ℤ) :
    (mark selected id ++ caption screen object index).head? = some 0x2705 ∧ id ∈ selected ∨
    (mark selected id ++ caption screen object index).head? = some 0x2B1C ∧ id ∉ selected := by
  rcases mark_cases selected id with ⟨chosen,eq⟩ | ⟨chosen,eq⟩
  · exact .inl ⟨by rw [eq]; rfl,chosen⟩
  · exact .inr ⟨by rw [eq]; rfl,chosen⟩

/-- The only action of a button that a screen knows is to save. -/
theorem button_action (found : actionForText (mark selected id ++ caption screen object index) = some action) :
    (action = .confirm ∨ action = .confirmDelete) ∨
      action = .saveAccess ∧ id ∈ selected ∧ caption screen object index ∈ savingNames := by
  obtain ⟨entry,listed,rfl⟩ := Option.map_eq_some_iff.mp found
  have same : entry.1 = mark selected id ++ caption screen object index := by simpa using List.find?_some listed
  have head := head_button screen object index selected id
  rw [← same] at head
  rcases marked_actions entry (List.mem_of_find?_eq_some listed) (head.imp And.left And.left) with other | ⟨save,text⟩
  · exact .inl other
  · obtain ⟨name,saving,eq⟩ := List.mem_map.mp text
    rw [same] at eq
    rcases mark_cases selected id with ⟨chosen,shown⟩ | ⟨-,shown⟩
    · rw [shown] at eq
      exact .inr ⟨save,chosen,List.append_cancel_left eq ▸ saving⟩
    · rw [shown] at eq
      exact absurd (List.cons.inj eq).1 (by decide)

theorem caption_saving : caption screen object index ∈ savingNames ↔ screen = .adminAccess ∧ object.name ∈ savingNames := by
  by_cases plain : screen = .adminAccess
  · subst plain
    simp [caption]
  · refine iff_of_false (fun saving => ?_) (fun both => plain both.1)
    have last := saving_last _ saving
    cases shown : (caption screen object index).getLast? with
    | none => exact caption_ne (List.getLast?_eq_none_iff.mp shown)
    | some c =>
      have digit := (caption_last shown).2 plain
      simp [shown] at last
      omega

theorem button_ne (screen : Screen) (object : Listed) (index : ℕ) (selected : Finset ℤ) (id : ℤ) (literal : Str) (head : literal.head? = some 47) :
    mark selected id ++ caption screen object index ≠ literal := by
  rintro rfl
  rcases head_button screen object index selected id with ⟨eq,-⟩ | ⟨eq,-⟩
  · exact absurd (Option.some.inj (eq.symm.trans head)) (by decide)
  · exact absurd (Option.some.inj (eq.symm.trans head)) (by decide)

/-- What the text of a button does. -/
theorem handleEvent_button (ids : Dict Str ℤ) :
    handleEvent screen ids selected (mark selected id ++ caption screen object index) =
      if screen = .adminAccess ∧ id ∈ selected ∧ object.name ∈ savingNames then .assigned selected
      else toggle ids selected (mark selected id ++ caption screen object index) := by
  have cancel := button_ne screen object index selected id (str "/cancel") rfl
  have start := button_ne screen object index selected id (str "/start") rfl
  rw [handleEvent,strip_button,dispatch]
  by_cases saving : screen = .adminAccess ∧ id ∈ selected ∧ object.name ∈ savingNames
  · rw [if_pos saving]
    obtain ⟨rfl,chosen,name⟩ := saving
    have action : actionForText (mark selected id ++ caption .adminAccess object index) = some .saveAccess := by
      rw [mark,if_pos chosen]
      exact saving_action _ name
    simp [action,cancel,start,flow,handleAccessAction,kept]
  · rw [if_neg saving]
    cases found : actionForText (mark selected id ++ caption screen object index) with
    | none => cases screen <;> simp [cancel,start,flow,handleAccessAction,addBackupAdmins]
    | some action =>
      rcases button_action found with (rfl | rfl) | ⟨rfl,chosen,name⟩
      · cases screen <;> simp [cancel,start,flow,handleAccessAction,addBackupAdmins]
      · cases screen <;> simp [cancel,start,flow,handleAccessAction,addBackupAdmins]
      · obtain ⟨plain,same⟩ := caption_saving.mp name
        exact absurd ⟨plain,chosen,same⟩ saving

end Actions

section Buttons

variable {screen : Screen} {objects : List Listed} {selected : Finset ℤ} {object : Listed} {index : ℕ}

def Shown (screen : Screen) (objects : List Listed) (object : Listed) (index : ℕ) : Prop :=
  (object,index) ∈ objects.zipIdx 1 ∧ (optionIds screen objects).get (unchecked ++ caption screen object index) = some object.id

theorem toggle_key (shown : Shown screen objects object index) {text : Str}
    (key : replaceOnce checked unchecked text = unchecked ++ caption screen object index) :
    toggle (optionIds screen objects) selected text = .toggled (symmDiff selected {object.id}) := by
  rw [toggle,key,shown.2]

/-- The option of another label is for another object. -/
theorem toggle_other (distinct : (objects.map (·.id)).Nodup) (shown : Shown screen objects object index) {text : Str}
    (key : replaceOnce checked unchecked text ≠ unchecked ++ caption screen object index) :
    toggle (optionIds screen objects) selected text ≠ .toggled (symmDiff selected {object.id}) := by
  rw [toggle]
  cases found : (optionIds screen objects).get (replaceOnce checked unchecked text) with
  | none => simp
  | some id =>
    obtain ⟨other,index',listed,label,rfl⟩ := optionIds_get found
    intro same
    have ids : other.id = object.id :=
      Finset.singleton_injective (symmDiff_right_injective selected (Outcome.toggled.inj same))
    obtain ⟨rfl,rfl⟩ := zipIdx_unique distinct listed shown.1 ids
    exact key label

/-- The text of a button is turned into its own key unless it shows a second mark. -/
theorem toggle_button (distinct : (objects.map (·.id)).Nodup) (shown : Shown screen objects object index) :
    toggle (optionIds screen objects) selected (mark selected object.id ++ caption screen object index) =
        .toggled (symmDiff selected {object.id}) ↔
      (object.id ∉ selected → ¬checked <:+: unchecked ++ caption screen object index) := by
  rcases mark_cases selected object.id with ⟨chosen,eq⟩ | ⟨chosen,eq⟩
  · rw [eq]
    refine iff_of_true (toggle_key shown ?_) fun absent => absurd chosen absent
    exact replaceOnce_prefix (by decide) _
  · rw [eq]
    by_cases second : checked <:+: unchecked ++ caption screen object index
    · refine iff_of_false (toggle_other distinct shown ?_) fun only => only chosen second
      exact replaceOnce_ne second (by decide)
    · refine iff_of_true (toggle_key shown ?_) fun _ => second
      exact replaceOnce_absent second

/-- Every button belongs to an object that has the option of its label. -/
theorem shown_of_button (distinct : (objects.map (·.id)).Nodup) (listed : object ∈ objects) {page : ℕ} {text : Str}
    (button : (text,object.id) ∈ accessKeyboard (optionIds screen objects) selected page) :
    ∃ index, Shown screen objects object index ∧ text = mark selected object.id ++ caption screen object index := by
  obtain ⟨key,found,rfl⟩ := accessKeyboard_get button
  obtain ⟨other,index,member,rfl,same⟩ := optionIds_get found
  obtain ⟨place,inside,rfl⟩ := List.getElem_of_mem listed
  have here : (objects[place],place + 1) ∈ objects.zipIdx 1 := by
    rw [List.mem_zipIdx_iff_le_and_getElem?_sub]
    exact ⟨Nat.le_add_left 1 place,List.getElem?_eq_getElem inside⟩
  obtain ⟨rfl,rfl⟩ := zipIdx_unique distinct member here same
  exact ⟨place + 1,⟨member,found⟩,by rw [removeprefix_append]⟩

/-- A button that is sent back toggles the id for which it is rendered, and nothing else happens,
exactly if its object's name is readable on the screen. -/
theorem button_toggles_iff (screen : Screen) (objects : List Listed) (selected : Finset ℤ) (page : ℕ) (object : Listed) (text : Str)
    (distinct : (objects.map (·.id)).Nodup) (listed : object ∈ objects)
    (button : (text,object.id) ∈ accessKeyboard (optionIds screen objects) selected page) :
    handleEvent screen (optionIds screen objects) selected text = .toggled (symmDiff selected {object.id}) ↔
      Readable screen selected object := by
  obtain ⟨index,shown,rfl⟩ := shown_of_button distinct listed button
  rw [handleEvent_button]
  split_ifs with saving
  · obtain ⟨plain,chosen,name⟩ := saving
    simp [Readable,plain,chosen,name]
  · rw [toggle_button distinct shown,second_mark,Readable]
    by_cases chosen : object.id ∈ selected
    · simp only [chosen,not_true_eq_false,false_implies,if_true,true_iff]
      exact fun plain name => saving ⟨plain,chosen,name⟩
    · simp only [chosen,not_false_eq_true,true_implies,if_false]
      tauto

def twoProfiles : List Listed := [⟨1,str "✅ x",str "✅ x",rfl⟩,⟨2,str "⬜ x",str "⬜ x",rfl⟩]

/-- The button of the first profile toggles the second one. -/
theorem button_togglesOther :
    (str "⬜ ✅ x",1) ∈ accessKeyboard (optionIds .adminAccess twoProfiles) ∅ 0 ∧
      handleEvent .adminAccess (optionIds .adminAccess twoProfiles) ∅ (str "⬜ ✅ x") = .toggled {2} := by decide +kernel

/-- A profile that is selected and one that is not, on the second screen. -/
theorem button_toggles_small :
    handleEvent .backupAccess (optionIds .backupAccess twoProfiles) {1} (str "✅ ✅ x · 1") = .toggled (symmDiff {1} {1}) ∧
    handleEvent .backupAccess (optionIds .backupAccess twoProfiles) {1} (str "⬜ ⬜ x · 2") = .toggled (symmDiff {1} {2}) :=
  ⟨(button_toggles_iff .backupAccess twoProfiles {1} 0 ⟨1,str "✅ x",str "✅ x",rfl⟩ _ (by decide)
      List.mem_cons_self (by decide +kernel)).mpr (by decide +kernel),
    (button_toggles_iff .backupAccess twoProfiles {1} 0 ⟨2,str "⬜ x",str "⬜ x",rfl⟩ _ (by decide)
      (List.mem_cons_of_mem _ List.mem_cons_self) (by decide +kernel)).mpr (by decide +kernel)⟩

end Buttons

end BackupTelebot.AccessKeyboard
