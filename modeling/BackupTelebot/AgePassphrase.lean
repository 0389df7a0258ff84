import BackupTelebot.AccessKeyboard
import BackupTelebot.ConversationStores
import BackupTelebot.TerminalInput

/-! The way of a passphrase from a message to the terminal on which age asks for it. -/
namespace BackupTelebot.AgePassphrase

open PyJson PyText AccessKeyboard Config

def utf8Char (c : ℕ) : List ℕ :=
  if c < 0x80 then [c]
  else if c < 0x800 then [0xC0 + c / 64,0x80 + c % 64]
  else if c < 0x10000 then [0xE0 + c / 4096,0x80 + c / 64 % 64,0x80 + c % 64]
  else [0xF0 + c / 262144,0x80 + c / 4096 % 64,0x80 + c / 64 % 64,0x80 + c % 64]

def utf8 (text : Str) : List ℕ := text.flatMap utf8Char

/-- `str.encode`. `None` stands for the `UnicodeEncodeError`. -/
def encode (text : Str) : Option (List ℕ) := if Conversations.encodes text then some (utf8 text) else none

/-- The actions that `_dispatch` and `_flow` take from any step. -/
def leavesStep (text : Str) : Bool :=
  text = str "/cancel" || text = str "/start" ||
    match actionForText text with
    | some .cancel | some .home | some .back | some .previousPage | some .nextPage => true
    | _ => false

/-- What `_flow` stores in the state `ADD_BACKUP_ENCRYPTION_SECRET`. The passphrase of an edited
profile can be kept. -/
def encryptionSecret (canPreserve : Bool) (rawText : Str) : Option Str :=
  let text := strip rawText
  if leavesStep text then none
  else if text = [] then none
  else if text = str "-" ∧ canPreserve then none
  else if Conversations.encodes text then some text
  else none

def encryption (passphrase : Str) : EncryptionConfig := ⟨.agePassphrase,[],some passphrase⟩

/-- The bytes that `run_age_passphrase` writes to the terminal. -/
def runAgePassphrase (passphrase : Str) : Option (List ℕ) :=
  (encode passphrase).map fun bytes => bytes ++ [10] ++ (bytes ++ [10])

/-- `encrypt` gives an empty text for none. -/
def encrypt (c : EncryptionConfig) : Option (List ℕ) := runAgePassphrase (c.passphrase.getD [])

def Plain (passphrase : Str) : Prop := (∀ c ∈ passphrase, Tty.special c = none) ∧ (utf8 passphrase).length ≤ Tty.lineLimit

theorem special_high {b : ℕ} (high : 0x80 ≤ b) : Tty.special b = none := by
  unfold Tty.special
  repeat rw [if_neg (by omega)]

theorem utf8Char_high {c : ℕ} (high : 0x80 ≤ c) : ∀ b ∈ utf8Char c, 0x80 ≤ b := by
  intro b member
  unfold utf8Char at member
  rw [if_neg (by omega)] at member
  split_ifs at member <;> simp at member <;> omega

/-- The bytes of a character are control characters only if it is one. -/
theorem utf8_plain (text : Str) : (∀ b ∈ utf8 text, Tty.special b = none) ↔ ∀ c ∈ text, Tty.special c = none := by
  rw [utf8,List.forall_mem_flatMap]
  refine forall₂_congr fun c _ => ?_
  by_cases ascii : c < 0x80
  · rw [utf8Char,if_pos ascii]
    simp
  · rw [not_lt] at ascii
    exact iff_of_true (fun b member => special_high (utf8Char_high ascii b member)) (special_high ascii)

theorem plain_iff (passphrase : Str) : Plain passphrase ↔ Tty.Fits (utf8 passphrase) := by
  rw [Plain,Tty.Fits,utf8_plain]

instance (passphrase : Str) : Decidable (Plain passphrase) := decidable_of_iff _ (plain_iff passphrase).symm

theorem encryptionSecret_encodes {canPreserve : Bool} {rawText passphrase : Str}
    (entered : encryptionSecret canPreserve rawText = some passphrase) : encode passphrase = some (utf8 passphrase) := by
  simp only [encryptionSecret] at entered
  split_ifs at entered with _ _ _ encodes
  obtain rfl := Option.some.inj entered
  rw [encode,if_pos encodes]

theorem validate_ok {c c' : EncryptionConfig} (valid : c.validate false = .ok c') : c' = c := by
  unfold EncryptionConfig.validate at valid
  cases mode : c.validateMode false with
  | error e => simp [mode,bind,Except.bind] at valid
  | ok u => simpa [mode,bind,Except.bind,pure,Except.pure,eq_comm] using valid

/-- For every passphrase that the wizard and the configuration accept: it is written, and the
terminal delivers it twice exactly if it has no control character and is not too long. -/
theorem passphrase_delivered_iff (canPreserve : Bool) (rawText passphrase : Str) (config : EncryptionConfig) (tty : Bool) (taken : ℕ → ℕ)
    (entered : encryptionSecret canPreserve rawText = some passphrase)
    (valid : (encryption passphrase).validate false = .ok config) :
    ∃ bytes, encrypt config = some bytes ∧
      ((Tty.deliver tty taken bytes).take 2 = [utf8 passphrase,utf8 passphrase] ↔ Plain passphrase) := by
  obtain rfl := validate_ok valid
  refine ⟨utf8 passphrase ++ [10] ++ (utf8 passphrase ++ [10]),?_,?_⟩
  · rw [encrypt,encryption,Option.getD_some,runAgePassphrase,encryptionSecret_encodes entered]
    rfl
  · rw [plain_iff]
    exact Tty.deliver_twice

/-- A message of two equal lines: age is given the first line and then the second one. -/
theorem passphrase_replaced :
    encryptionSecret false (str "ab\nab") = some (str "ab\nab") ∧
      (encryption (str "ab\nab")).validate false = .ok (encryption (str "ab\nab")) ∧
      (encrypt (encryption (str "ab\nab"))).map (fun bytes => (Tty.deliver false (fun _ => 0) bytes).take 2) =
        some [utf8 (str "ab"),utf8 (str "ab")] := by
  refine ⟨by decide +kernel,rfl,by decide +kernel⟩

theorem passphrase_delivered_small :
    ∃ bytes, encrypt (encryption (str "pä ss")) = some bytes ∧
      (Tty.deliver false (fun _ => 0) bytes).take 2 = [utf8 (str "pä ss"),utf8 (str "pä ss")] := by
  obtain ⟨bytes,written,delivered⟩ := passphrase_delivered_iff false (str " pä ss\n") (str "pä ss")
    (encryption (str "pä ss")) false (fun _ => 0) (by decide +kernel) rfl
  exact ⟨bytes,written,delivered.mpr ⟨by decide,by decide +kernel⟩⟩

end BackupTelebot.AgePassphrase
