import Mathlib.Data.List.Basic
import Mathlib.Tactic.NormNum

/-! The end of a tool's output. A pipe is read until it ends, in whatever chunks it comes,
and only a bounded tail is kept for the diagnostics. -/
namespace BackupTelebot.Process

abbrev Bytes := List UInt8

/-- `del data[:stop]`. A negative stop counts from the end. -/
def deletePrefix (data : Bytes) (stop : ℤ) : Bytes :=
  data.drop (if stop < 0 then data.length + stop else stop).toNat

def trim (limit : ℤ) (tail : Bytes) : Bytes :=
  if limit < tail.length then deletePrefix tail (-limit) else tail

/-- The loop of `_drain_tail` over what the reads return; nothing read means the end. Every
content of the buffer comes along, with the chunk it was last extended by. -/
def drain (limit : ℤ) : Bytes → List Bytes → Bytes × List (Bytes × Bytes)
  | tail,[] => (tail,[])
  | tail,chunk :: more =>
      if chunk = [] then (tail,[])
      else
        let (last,held) := drain limit (trim limit (tail ++ chunk)) more
        (last,(chunk,tail ++ chunk) :: (chunk,trim limit (tail ++ chunk)) :: held)

/-- `_drain_tail`. A process without the pipe has no reader. -/
def drainTail (reader : Option (List Bytes)) (limit : ℤ) : Bytes × List (Bytes × Bytes) :=
  match reader with
  | none => ([],[])
  | some reads => drain limit [] reads

def lastBytes (limit : ℕ) (stream : Bytes) : Bytes := stream.drop (stream.length - limit)

@[simp] theorem length_lastBytes (limit : ℕ) (stream : Bytes) : (lastBytes limit stream).length = min stream.length limit := by
  simp only [lastBytes,List.length_drop]
  omega

theorem lastBytes_of_le {limit : ℕ} {stream : Bytes} (short : stream.length ≤ limit) : lastBytes limit stream = stream := by
  simp [lastBytes,Nat.sub_eq_zero_of_le short]

/-- What was dropped earlier would be dropped again. -/
theorem lastBytes_append (limit : ℕ) (stream chunk : Bytes) :
    lastBytes limit (lastBytes limit stream ++ chunk) = lastBytes limit (stream ++ chunk) := by
  rcases Nat.le_total stream.length limit with short | long
  · rw [lastBytes_of_le short]
  · have front : stream.length - limit ≤ stream.length := Nat.sub_le _ _
    simp only [lastBytes]
    rw [← List.drop_append_of_le_length front,List.drop_drop,List.length_drop,List.length_append]
    congr 1
    omega

/-- For a limit of at least one, trimming keeps the last bytes. With a limit of zero the
slice would be empty and nothing would be deleted. -/
theorem trim_eq {limit : ℕ} (positive : 1 ≤ limit) (tail : Bytes) : trim limit tail = lastBytes limit tail := by
  by_cases long : limit < tail.length
  · have negative : -(limit : ℤ) < 0 := by omega
    have cut : ((tail.length : ℤ) + -(limit : ℤ)).toNat = tail.length - limit := by omega
    rw [trim,if_pos (by exact_mod_cast long),deletePrefix,if_pos negative,cut,lastBytes]
  · rw [trim,if_neg (by exact_mod_cast long),lastBytes_of_le (Nat.le_of_not_lt long)]

/-- The buffer holds the last bytes of what was read so far. -/
theorem drain_last {limit : ℕ} (positive : 1 ≤ limit) {chunks : List Bytes} (nonempty : ∀ chunk ∈ chunks, chunk ≠ [])
    (before : Bytes) (later : List Bytes) :
    (drain limit (lastBytes limit before) (chunks ++ [] :: later)).1 = lastBytes limit (before ++ chunks.flatten) := by
  induction chunks generalizing before with
  | nil => simp [drain]
  | cons chunk more ih =>
    have here : chunk ≠ [] := nonempty chunk List.mem_cons_self
    have rest := ih (fun other member => nonempty other (List.mem_cons_of_mem _ member)) (before ++ chunk)
    rw [List.cons_append,drain,if_neg here,trim_eq positive,lastBytes_append]
    rw [List.flatten_cons,← List.append_assoc]
    exact rest

theorem drain_held {limit : ℕ} (positive : 1 ≤ limit) (chunks : List Bytes) (later : List Bytes) (tail : Bytes)
    (short : tail.length ≤ limit) : ∀ held ∈ (drain limit tail (chunks ++ [] :: later)).2,
    held.1 ∈ chunks ∧ held.2.length ≤ limit + held.1.length := by
  induction chunks generalizing tail with
  | nil => simp [drain]
  | cons chunk more ih =>
    intro held member
    rw [List.cons_append,drain] at member
    split_ifs at member with ended
    · cases member
    · have trimmed : (trim limit (tail ++ chunk)).length ≤ limit := by
        rw [trim_eq positive,length_lastBytes]
        exact Nat.min_le_right _ _
      rcases List.mem_cons.mp member with rfl | member
      · have grown : (tail ++ chunk).length = tail.length + chunk.length := List.length_append
        exact ⟨List.mem_cons_self,by simp only [grown]; omega⟩
      rcases List.mem_cons.mp member with rfl | member
      · exact ⟨List.mem_cons_self,le_trans trimmed (Nat.le_add_right _ _)⟩
      · obtain ⟨read,bound⟩ := ih _ trimmed held member
        exact ⟨List.mem_cons_of_mem _ read,bound⟩

/-- However a stream is cut into chunks, its last bytes come back, and no more than the limit
and one chunk was held for it. -/
theorem drainTail_last (limit : ℕ) (positive : 1 ≤ limit) (stream : Bytes) (chunks : List Bytes)
    (cut : chunks.flatten = stream) (nonempty : ∀ chunk ∈ chunks, chunk ≠ []) (later : List Bytes) :
    let run := drainTail (some (chunks ++ [] :: later)) limit
    run.1 = stream.drop (stream.length - limit) ∧ run.1.length = min stream.length limit ∧
    ∀ held ∈ run.2, held.1 ∈ chunks ∧ held.2.length ≤ limit + held.1.length := by
  have result : (drainTail (some (chunks ++ [] :: later)) limit).1 = lastBytes limit stream := by
    have ends := drain_last positive nonempty [] later
    rwa [cut,List.nil_append,lastBytes_of_le (Nat.zero_le _)] at ends
  refine ⟨result,?_,?_⟩
  · rw [result,length_lastBytes]
  · exact drain_held positive chunks later [] (Nat.zero_le _)

theorem drainTail_last_three :
    let run := drainTail (some ([[1,2],[3],[4,5,6]] ++ [] :: [])) ((3 : ℕ) : ℤ)
    run.1 = List.drop (6 - 3) [1,2,3,4,5,6] ∧ run.1.length = min 6 3 ∧
    ∀ held ∈ run.2, held.1 ∈ [[1,2],[3],[4,5,6]] ∧ held.2.length ≤ 3 + held.1.length :=
  drainTail_last 3 (by omega) [1,2,3,4,5,6] [[1,2],[3],[4,5,6]] rfl (by simp) []

end BackupTelebot.Process
