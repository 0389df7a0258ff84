import BackupTelebot.Errors
import BackupTelebot.ProfileRows

/-! Remote paths between the two checks: the bot normalizes a copy and stores what was
typed, the worker compares what is stored with its normal form. -/
namespace BackupTelebot.Config

open PyJson

def validateRemotePath (value : Str) : Except Failure Str := do
  refuse (value = [] || value.contains 0 || value.any fun c => decide (c < 32)) (.pipeline "UNSAFE_SOURCE")
  let path := PurePosix.parse value
  let trailingSlash := value.getLast? = some PurePosix.slash && value ≠ [PurePosix.slash]
  let expected := path.text ++ if trailingSlash then [PurePosix.slash] else []
  refuse (!path.isAbsolute || path.climbs || value ≠ expected) (.pipeline "UNSAFE_SOURCE")
  return value

/-- The path is the root of the file system, with whatever number of slashes. -/
def denotesRoot (value : Str) : Bool := (PurePosix.parse value).isAbsolute && (PurePosix.parse value).names = []

/-- One or two slashes, then names of which none is a dot or two, with one slash between
them and perhaps one at the end. -/
def Written (value : Str) : Prop :=
  ∃ (root : PurePosix.Root) (names : List Str) (trailing : Bool), root ≠ .relative ∧ names ≠ [] ∧
    (∀ name ∈ names, PurePosix.IsName name ∧ name ≠ [PurePosix.dot,PurePosix.dot]) ∧
    value = root.text ++ (PurePosix.join names ++ if trailing then [PurePosix.slash] else [])

/-- No control character, and the slash alone or names written in the plainest way. -/
def PlainPath (value : Str) : Prop := (∀ c ∈ value, 32 ≤ c) ∧ (value = [PurePosix.slash] ∨ Written value)

theorem Written.parse {value : Str} (written : Written value) : (PurePosix.parse value).isAbsolute = true ∧
    (PurePosix.parse value).names ≠ [] ∧ (PurePosix.parse value).climbs = false ∧
    value = (PurePosix.parse value).text ++
      if value.getLast? = some PurePosix.slash && value ≠ [PurePosix.slash] then [PurePosix.slash] else [] := by
  obtain ⟨root,names,trailing,absolute,nonempty,all,rfl⟩ := written
  have isNames : ∀ name ∈ names, PurePosix.IsName name := fun name member => (all name member).1
  rw [PurePosix.parse_rooted isNames nonempty absolute trailing]
  obtain ⟨first,rest,rfl⟩ := List.exists_cons_of_ne_nil nonempty
  obtain ⟨c,tail,eq⟩ := List.exists_cons_of_ne_nil (PurePosix.join_ne_nil isNames nonempty)
  have last := PurePosix.last_join isNames
  refine ⟨by simpa [PurePosix.Path.isAbsolute] using absolute,by simp,?_,?_⟩
  · have absent : [PurePosix.dot,PurePosix.dot] ∉ first :: rest := fun member => (all _ member).2 rfl
    simpa [PurePosix.Path.climbs] using absent
  · have text : (⟨root,first :: rest⟩ : PurePosix.Path).text = root.text ++ PurePosix.join (first :: rest) := by
      simp [PurePosix.Path.text]
    rw [text,List.append_assoc]
    rw [eq] at last ⊢
    cases trailing with
    | true =>
      have longer : root.text ++ (c :: tail ++ [PurePosix.slash]) ≠ [PurePosix.slash] := by
        cases root <;> simp [PurePosix.Root.text]
      have ends : (root.text ++ (c :: tail ++ [PurePosix.slash])).getLast? = some PurePosix.slash := by
        rw [← List.append_assoc,List.getLast?_concat]
      rw [if_pos rfl,if_pos (Bool.and_eq_true_iff.mpr ⟨decide_eq_true ends,decide_eq_true longer⟩)]
    | false =>
      have ends : (root.text ++ (c :: tail ++ [])).getLast? ≠ some PurePosix.slash := by
        rwa [List.append_nil,List.getLast?_append_of_ne_nil _ (List.cons_ne_nil _ _)]
      rw [if_neg Bool.false_ne_true,if_neg (by simp only [Bool.and_eq_true,decide_eq_true_eq,ends,false_and,not_false_eq_true])]

/-- A text that is its own normal form, up to a slash at its end, is written plainly. -/
theorem written_of_same {value : Str} (absolute : (PurePosix.parse value).isAbsolute = true)
    (inside : (PurePosix.parse value).climbs = false)
    (same : value = (PurePosix.parse value).text ++
      if value.getLast? = some PurePosix.slash && value ≠ [PurePosix.slash] then [PurePosix.slash] else []) :
    value = [PurePosix.slash] ∨ Written value := by
  have normal := PurePosix.parse_normal value
  have rooted : (PurePosix.parse value).root ≠ .relative := by simpa [PurePosix.Path.isAbsolute] using absolute
  by_cases bare : (PurePosix.parse value).names = []
  · -- a root alone: two slashes would have to end in a third one
    left
    have text : (PurePosix.parse value).text = (PurePosix.parse value).root.text := by
      simp [PurePosix.Path.text,rooted,bare]
    rw [text] at same
    cases root : (PurePosix.parse value).root with
    | relative => exact absurd root rooted
    | single =>
      rw [root] at same
      split at same
      · rw [same] at root
        exact absurd root (by decide)
      · simpa [PurePosix.Root.text] using same
    | double =>
      rw [root] at same
      split at same
      · rw [same] at root
        exact absurd root (by decide)
      · rename_i short
        rw [same] at short
        exact absurd (by decide) short
  · right
    refine ⟨(PurePosix.parse value).root,(PurePosix.parse value).names,
      value.getLast? = some PurePosix.slash && value ≠ [PurePosix.slash],rooted,bare,?_,?_⟩
    · intro name member
      constructor
      · exact normal name member
      · intro dots
        subst dots
        simp [PurePosix.Path.climbs,member] at inside
    · rw [← List.append_assoc]
      simpa [PurePosix.Path.text,rooted] using same

/-- What the worker takes, and what it returns. -/
theorem validateRemotePath_ok {value result : Str} : validateRemotePath value = .ok result ↔
    (PlainPath value ∧ result = value) := by
  simp only [validateRemotePath,bind_eq_ok,refuse_eq_ok,exists_const,pure_eq_ok,Bool.or_eq_false_iff,
    decide_eq_false_iff_not,not_not,Bool.not_eq_false']
  constructor
  · rintro ⟨⟨_,control⟩,⟨⟨absolute,inside⟩,same⟩,rfl⟩
    exact ⟨⟨by simpa using control,written_of_same absolute inside same⟩,rfl⟩
  · rintro ⟨⟨visible,written⟩,rfl⟩
    have control : (result.any fun c => decide (c < 32)) = false := by simpa using visible
    have zero : result.contains 0 = false := by
      simp only [List.contains_eq_mem,decide_eq_false_iff_not]
      intro member
      have := visible 0 member
      omega
    rcases written with rfl | written
    · decide
    · have parsed := written.parse
      have nonempty : result ≠ [] := by
        intro empty
        have absolute := parsed.1
        rw [empty] at absolute
        exact absurd absolute (by decide)
      exact ⟨⟨⟨nonempty,zero⟩,control⟩,⟨⟨parsed.1,parsed.2.2.1⟩,parsed.2.2.2⟩,rfl⟩

/-- Which stored paths of accepted remote sources the worker takes: those that were typed in
the plainest way. -/
theorem storedPaths_usable_iff (env : Creation) :
    (∀ (files : FilesConfig) (row : FilesSource), files.location = .remoteServer → files.validate = .ok files →
      filesSource env files = .ok row →
      ((∀ item ∈ row.paths, validateRemotePath item.path = .ok item.path) ↔ ∀ path ∈ files.paths, PlainPath path)) ∧
    ∀ gitlab : GitLabConfig, gitlab.location = .remoteServer → gitlab.validate = .ok gitlab →
      ((∃ root, (gitlabSource gitlab).backupPath = some root ∧ validateRemotePath root = .ok root ∧
          denotesRoot root = false) ↔
        ∃ path, gitlab.backupPath = some path ∧ PlainPath (PyText.strip path)) := by
  constructor
  · intro files row remote _ built
    simp only [filesSource,persistedFilePaths,remote,bind_eq_ok,pure_eq_ok,Except.ok.injEq,exists_eq_left'] at built
    subst row
    simp only [List.forall_mem_map,backupPath,validateRemotePath_ok,and_true,fromkeys,List.mem_eraseDups]
  · intro gitlab remote accepted
    simp only [GitLabConfig.validate,GitLabConfig.validateLocation,remote,bind_eq_ok,pure_eq_ok] at accepted
    obtain ⟨_,_,_,⟨_,_,rooted⟩,_⟩ := accepted
    cases given : gitlab.backupPath with
    | none => simp [validateGitlabRoot,given] at rooted
    | some path =>
      simp only [validateGitlabRoot,given,bind_eq_ok,refuse_eq_ok,validateAbsolutePath_ok,decide_eq_false_iff_not] at rooted
      obtain ⟨_,⟨_,rfl⟩,notRoot⟩ := rooted
      simp only [gitlabSource,given,Option.map_some,Option.some.injEq,exists_eq_left',validateRemotePath_ok,and_true]
      constructor
      · exact fun usable => usable.1
      · intro plain
        refine ⟨plain,?_⟩
        rcases plain.2 with slash | written
        · rw [slash] at notRoot
          exact absurd (by decide) notRoot
        · have names := written.parse.2.1
          simp [denotesRoot,names]

/-- A doubled slash inside a path is accepted, stored and refused at every run, and two
slashes alone are accepted as the root of GitLab's backups. -/
theorem storedPaths_refused :
    (∃ (files : FilesConfig) (row : FilesSource), files.location = .remoteServer ∧ files.validate = .ok files ∧
      filesSource smallCreation files = .ok row ∧
      ∃ item ∈ row.paths, validateRemotePath item.path = .error (.pipeline "UNSAFE_SOURCE")) ∧
    ∃ gitlab : GitLabConfig, gitlab.location = .remoteServer ∧ gitlab.validate = .ok gitlab ∧
      ∃ root, (gitlabSource gitlab).backupPath = some root ∧ denotesRoot root = true :=
  ⟨⟨⟨.remoteServer,[str "/srv//data"],some 1⟩,⟨.remoteServer,some 1,[⟨str "/srv//data",false⟩]⟩,by decide +kernel⟩,
    ⟨.remoteServer,str "gitlab",some (str "//"),some 1⟩,by decide +kernel,by decide +kernel,_,rfl,by decide +kernel⟩

theorem srv_plain : PlainPath (str "/srv") := by
  refine ⟨by decide,.inr ⟨.single,[str "srv"],false,by decide,by decide,?_,rfl⟩⟩
  intro name member
  obtain rfl := List.mem_singleton.mp member
  exact ⟨⟨by decide,by decide,by decide⟩,by decide⟩

theorem storedPaths_usable_iff_small :
    ∀ item ∈ [backupPath (str "/srv")], validateRemotePath item.path = .ok item.path :=
  ((storedPaths_usable_iff smallCreation).1 ⟨.remoteServer,[str "/srv"],some 1⟩
    ⟨.remoteServer,some 1,[backupPath (str "/srv")]⟩ rfl (by decide +kernel) (by decide +kernel)).mpr
      fun _ member => List.mem_singleton.mp member ▸ srv_plain

end BackupTelebot.Config
