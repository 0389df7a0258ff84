import BackupTelebot.ProfileRows

/-! Which accepted configurations the database takes. The checks of the bot and the CHECK
constraints are two texts of the same rules, and they differ in three places. -/
namespace BackupTelebot.Config

open PyJson Queue

/-- What `ScheduleConfig.validate` lets pass. -/
structure ScheduleConfig.Accepted (c : ScheduleConfig) : Prop where
  interval : match intervalLimit c.kind with
    | some limit => ∃ i, c.interval = some i ∧ 1 ≤ i ∧ i ≤ limit
    | none => c.interval = none
  time : if timed c.kind then ∃ text, c.time = some text ∧ isTime text = true else c.time = none
  weekly : c.kind = .weekly ↔ c.weekday ≠ none
  weekday : ∀ d, c.weekday = some d → 0 ≤ d ∧ d ≤ 6
  monthly : c.kind = .monthly ↔ c.monthday ≠ none
  monthday : ∀ d, c.monthday = some d → 1 ≤ d ∧ d ≤ 28
  cron : c.kind = .cron ↔ c.cronExpression ≠ none
  expression : ∀ text, c.normalizedCronExpression = some text → 1 ≤ text.length ∧ text.length ≤ 200

theorem normalizeCron_nil {raw : Str} (empty : normalizeCron raw = []) (fields : (PyText.split (normalizeCron raw)).length = 5) :
    False := by
  rw [empty] at fields
  simp [PyText.split] at fields

theorem ScheduleConfig.validateCron_ok {croniter : Croniter} {c : ScheduleConfig}
    (accepted : c.validateCron croniter = .ok ()) : (c.kind = .cron ↔ c.cronExpression ≠ none) ∧
      ∀ text, c.normalizedCronExpression = some text → 1 ≤ text.length ∧ text.length ≤ 200 := by
  unfold ScheduleConfig.validateCron at accepted
  cases expression : c.cronExpression with
  | none =>
    simp only [expression,refuse_eq_ok,decide_eq_false_iff_not] at accepted
    simp [accepted,ScheduleConfig.normalizedCronExpression,expression]
  | some raw =>
    simp only [expression,bind_eq_ok,refuse_eq_ok,Bool.or_eq_false_iff,decide_eq_false_iff_not,not_not,
      exists_const] at accepted
    obtain ⟨kind,⟨long,fields⟩,_⟩ := accepted
    simp only [kind,ScheduleConfig.normalizedCronExpression,expression,Option.map_some,Option.some.injEq,forall_eq']
    have nonempty : normalizeCron raw ≠ [] := fun empty => normalizeCron_nil empty (by simpa using fields)
    have positive := List.length_pos_of_ne_nil nonempty
    exact ⟨by simp,by omega,by omega⟩

theorem ScheduleConfig.validate_ok {croniter : Croniter} {c c' : ScheduleConfig}
    (accepted : c.validate croniter = .ok c') : c.Accepted := by
  simp only [ScheduleConfig.validate,bind_eq_ok,refuse_eq_ok,exists_const,pure_eq_ok] at accepted
  obtain ⟨_,interval,_,time,weekly,weekday,monthly,monthday,_,cron,_⟩ := accepted
  obtain ⟨kind,expression⟩ := validateCron_ok cron
  refine ⟨?_,?_,?_,?_,?_,?_,kind,expression⟩
  · unfold ScheduleConfig.validateInterval at interval
    cases limit : intervalLimit c.kind with
    | none => simpa [limit] using interval
    | some limit =>
      cases given : c.interval with
      | none => simp_all
      | some i => simpa [limit,given] using interval
  · unfold ScheduleConfig.validateTime at time
    by_cases kind : timed c.kind = true
    · cases given : c.time with
      | none => simp [kind,given] at time
      | some text => simpa [kind,given] using time
    · simpa [kind] using time
  · cases given : c.weekday <;> simpa [given] using weekly
  · intro d given
    simpa [given] using weekday
  · cases given : c.monthday <;> simpa [given] using monthly
  · intro d given
    simpa [given] using monthday

theorem recipientsJson_nonempty {c : EncryptionConfig} {text : Str} (given : c.recipientsJson = some text) : 0 < text.length := by
  unfold EncryptionConfig.recipientsJson at given
  split at given
  · simp at given
  · obtain rfl := Option.some.inj given
    simp [Json.dump]

theorem encrypt_nonempty {cipher : Option AESGCM} {nonce : Nonce} {plaintext : Str} {context : String} {token : Base64.Bytes}
    (encrypted : requireEncrypt cipher nonce plaintext context = .ok token) : 0 < token.length := by
  cases cipher with
  | none => simp [requireEncrypt] at encrypted
  | some cipher =>
    obtain ⟨_,sealed,_,rfl⟩ := encrypt_ok encrypted
    simp

def EncryptionShape (mode : EncryptionMode) (recipients : Option Str) (passphrase : Option Base64.Bytes) : Prop :=
  match mode with
  | .none => recipients = none ∧ passphrase = none
  | .agePublicKey => (∃ text, recipients = some text ∧ 0 < text.length) ∧ passphrase = none
  | .agePassphrase => recipients = none ∧ ∃ token, passphrase = some token ∧ 0 < token.length

theorem agePassphrase_falsy {env : Creation} {c : EncryptionConfig} (missing : falsy c.passphrase = true) :
    agePassphrase env c = .ok none := by
  cases given : c.passphrase with
  | none => simp [agePassphrase,given]
  | some text =>
    obtain rfl : text = [] := by simpa [falsy,given] using missing
    simp [agePassphrase,given]

theorem agePassphrase_given {env : Creation} {c : EncryptionConfig} {passphrase : Option Base64.Bytes}
    (given : falsy c.passphrase = false) (encrypted : agePassphrase env c = .ok passphrase) :
    ∃ token, passphrase = some token ∧ 0 < token.length := by
  cases text : c.passphrase with
  | none => simp [falsy,text] at given
  | some text' =>
    have nonempty : text' ≠ [] := by simpa [falsy,text] using given
    simp only [agePassphrase,text,if_neg nonempty] at encrypted
    cases result : requireEncrypt env.cipher env.nonces.1 text' "backup-age-passphrase-v1" with
    | error e => simp [result,Except.map] at encrypted
    | ok token =>
      simp only [result,Except.map,Except.ok.injEq] at encrypted
      exact ⟨token,encrypted.symm,encrypt_nonempty result⟩

theorem EncryptionConfig.shape {env : Creation} {c c' : EncryptionConfig} {passphrase : Option Base64.Bytes}
    (accepted : c.validate false = .ok c') (encrypted : agePassphrase env c = .ok passphrase) :
    EncryptionShape c.mode c.recipientsJson passphrase := by
  simp only [EncryptionConfig.validate,bind_eq_ok,pure_eq_ok] at accepted
  obtain ⟨_,checked,_⟩ := accepted
  unfold EncryptionConfig.validateMode at checked
  cases mode : c.mode with
  | none =>
    simp only [mode,refuse_eq_ok,Bool.or_eq_false_iff,decide_eq_false_iff_not,not_not,Bool.not_eq_false'] at checked
    rw [agePassphrase_falsy checked.2] at encrypted
    exact ⟨by simp [EncryptionConfig.recipientsJson,checked.1],(Except.ok.inj encrypted).symm⟩
  | agePublicKey =>
    simp only [mode,bind_eq_ok,refuse_eq_ok,Bool.or_eq_false_iff,decide_eq_false_iff_not,Bool.not_eq_false'] at checked
    obtain ⟨_,⟨recipients,missing⟩,_⟩ := checked
    rw [agePassphrase_falsy missing] at encrypted
    have given : c.recipientsJson = some (Json.arr ((fromkeys c.recipients).map .str)).dump := by
      simp [EncryptionConfig.recipientsJson,recipients]
    exact ⟨⟨_,given,recipientsJson_nonempty given⟩,(Except.ok.inj encrypted).symm⟩
  | agePassphrase =>
    simp only [mode,refuse_eq_ok,Bool.or_eq_false_iff,decide_eq_false_iff_not,not_not,Bool.not_false,
      Bool.and_true] at checked
    exact ⟨by simp [EncryptionConfig.recipientsJson,checked.2],agePassphrase_given checked.1 encrypted⟩

theorem databaseSource_ok {env : Creation} {database : DatabaseConfig} {row : DatabaseSource}
    (built : databaseSource env database = .ok row) : ∃ password token, database.password = some password ∧
      requireEncrypt env.cipher env.nonces.2 password "database-password-v1" = .ok token ∧
      row = ⟨database.engine,PyText.strip database.host,database.port,PyText.strip database.databaseName,
        PyText.strip database.username,token,database.tlsMode,database.tlsCaCertificate,database.mssqlInDocker,
        database.mssqlBackupPath,database.mssqlHostBackupPath,database.artifactRemoteServerId⟩ := by
  unfold databaseSource at built
  cases given : database.password with
  | none => simp [given] at built
  | some password =>
    simp only [given,bind_eq_ok,pure_eq_ok] at built
    obtain ⟨token,encrypted,rfl⟩ := built
    exact ⟨password,token,rfl,encrypted,rfl⟩

def zeroEncrypt (text : Str) : Option Base64.Bytes :=
  if text.all fun c => decide (c < 128) then some (List.replicate 16 0 ++ text.map UInt8.ofNat) else none

theorem zeroEncrypt_decrypt {text : Str} {sealed : Base64.Bytes} (encrypted : zeroEncrypt text = some sealed) :
    some ((sealed.drop 16).map UInt8.toNat) = some text := by
  unfold zeroEncrypt at encrypted
  split at encrypted
  · rename_i ascii
    obtain rfl := Option.some.inj encrypted
    have back : text.map (UInt8.toNat ∘ UInt8.ofNat) = text.map id := by
      apply List.map_congr_left
      intro c member
      have small : c < 128 := by simpa using List.all_eq_true.mp ascii c member
      simp
      omega
    simp [back]
  · simp at encrypted

theorem zeroEncrypt_tag {text : Str} {sealed : Base64.Bytes} (encrypted : zeroEncrypt text = some sealed)
    (nonempty : text ≠ []) : 16 < sealed.length := by
  unfold zeroEncrypt at encrypted
  split at encrypted
  · obtain rfl := Option.some.inj encrypted
    simpa [List.length_pos_iff] using nonempty
  · simp at encrypted

def zeroCipher : AESGCM where
  encrypt := fun _ text _ => zeroEncrypt text
  decrypt := fun _ sealed _ => some ((sealed.drop 16).map UInt8.toNat)
  decrypt_encrypt := fun _ _ _ _ encrypted => zeroEncrypt_decrypt encrypted
  tag := fun _ _ _ _ encrypted nonempty => zeroEncrypt_tag encrypted nonempty

def smallDatabase : DatabaseConfig :=
  ⟨.postgresql,str "db",5432,str "app",str "me",some (str "pw"),.disabled,none,false,none,none,none⟩

end BackupTelebot.Config
