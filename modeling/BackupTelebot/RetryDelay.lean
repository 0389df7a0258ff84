import Mathlib.Algebra.Order.Field.Rat
import Mathlib.Algebra.Order.Ring.Rat
import Mathlib.Data.Rat.Cast.Order
import Mathlib.Tactic.Linarith
import Mathlib.Tactic.NormNum

/-! How long a delivery waits before it is tried again. A float is its exact value, and a sum of
two floats is rounded in some way that keeps the order and the integers. -/
namespace BackupTelebot.RetryDelay

structure Rounding where
  round : ℚ → ℚ
  mono : Monotone round
  exact : ∀ n : ℤ, n.natAbs ≤ 2 ^ 53 → round n = n

/-- The settings that `validate_related_settings` and the bounds of their fields accept. -/
structure Settings where
  retryBaseSeconds : ℤ
  retryMaxSeconds : ℤ
  retryJitterSeconds : ℤ
  base : 1 ≤ retryBaseSeconds
  max : retryMaxSeconds ≤ 604800
  jitter : 0 ≤ retryJitterSeconds
  related : retryBaseSeconds ≤ retryMaxSeconds

section Delay

variable (s : Settings) (r : Rounding)

def doubled (attempts : ℤ) : ℚ := min (s.retryMaxSeconds : ℚ) (s.retryBaseSeconds * 2 ^ min (attempts - 1) 30)

def withJitter (jitter : ℚ → ℚ → ℚ) (delay : ℚ) : ℚ :=
  let limit := min (s.retryJitterSeconds : ℚ) (max 0 (s.retryMaxSeconds - delay))
  if limit ≠ 0 then r.round (delay + jitter 0 limit)
  else if delay = s.retryMaxSeconds ∧ s.retryJitterSeconds ≠ 0 then
    let limit := min (s.retryJitterSeconds : ℚ) (delay - s.retryBaseSeconds)
    r.round (delay + jitter (-limit) 0)
  else delay

def retryDelay (jitter : ℚ → ℚ → ℚ) (attempts : ℤ) (floodWait : Option ℤ) : ℚ :=
  let delay := withJitter s r jitter (doubled s attempts)
  match floodWait with
  | none => delay
  | some wait => max delay wait

end Delay

section Bounds

variable {s : Settings} {r : Rounding} {jitter : ℚ → ℚ → ℚ} {attempts : ℤ}

/-- A sample is drawn from the range that is asked for. -/
def Sampled (jitter : ℚ → ℚ → ℚ) : Prop := ∀ low high, low ≤ high → low ≤ jitter low high ∧ jitter low high ≤ high

theorem Settings.exact_max (s : Settings) (r : Rounding) : r.round s.retryMaxSeconds = s.retryMaxSeconds := by
  apply r.exact
  have := s.max
  have := s.related
  have := s.base
  omega

theorem Settings.exact_base (s : Settings) (r : Rounding) : r.round s.retryBaseSeconds = s.retryBaseSeconds := by
  apply r.exact
  have := s.max
  have := s.related
  have := s.base
  omega

/-- What lies between the base and the cap stays there when it is rounded. -/
theorem rounded_between {value : ℚ} (low : s.retryBaseSeconds ≤ value) (high : value ≤ s.retryMaxSeconds) :
    s.retryBaseSeconds ≤ r.round value ∧ r.round value ≤ s.retryMaxSeconds := by
  constructor
  · rw [← s.exact_base r]
    exact r.mono low
  · rw [← s.exact_max r]
    exact r.mono high

theorem one_le_power (positive : 1 ≤ attempts) : (1 : ℚ) ≤ 2 ^ min (attempts - 1) 30 :=
  one_le_zpow₀ (by norm_num) (by omega)

theorem doubled_between (positive : 1 ≤ attempts) :
    s.retryBaseSeconds ≤ doubled s attempts ∧ doubled s attempts ≤ s.retryMaxSeconds := by
  have related : (s.retryBaseSeconds : ℚ) ≤ s.retryMaxSeconds := by exact_mod_cast s.related
  have base : (0 : ℚ) ≤ s.retryBaseSeconds := by exact_mod_cast zero_le_one.trans s.base
  constructor
  · exact le_min related (le_mul_of_one_le_right base (one_le_power positive))
  · exact min_le_left _ _

theorem doubled_mono {later : ℤ} (after : attempts ≤ later) : doubled s attempts ≤ doubled s later := by
  have base : (0 : ℚ) ≤ s.retryBaseSeconds := by exact_mod_cast zero_le_one.trans s.base
  have power : (2 : ℚ) ^ min (attempts - 1) 30 ≤ 2 ^ min (later - 1) 30 :=
    zpow_le_zpow_right₀ (by norm_num) (by omega)
  exact min_le_min le_rfl (mul_le_mul_of_nonneg_left power base)

/-- Jitter adds at most the room below the cap, and at the cap takes at most the room above the base. -/
theorem withJitter_between (sampled : Sampled jitter) {delay : ℚ} (low : s.retryBaseSeconds ≤ delay)
    (high : delay ≤ s.retryMaxSeconds) :
    s.retryBaseSeconds ≤ withJitter s r jitter delay ∧ withJitter s r jitter delay ≤ s.retryMaxSeconds := by
  have amount : (0 : ℚ) ≤ s.retryJitterSeconds := by exact_mod_cast s.jitter
  unfold withJitter
  simp only
  split_ifs with room cap
  · have limit : 0 ≤ min (s.retryJitterSeconds : ℚ) (max 0 (s.retryMaxSeconds - delay)) := le_min amount (le_max_left _ _)
    have inside : min (s.retryJitterSeconds : ℚ) (max 0 (s.retryMaxSeconds - delay)) ≤ s.retryMaxSeconds - delay :=
      (min_le_right _ _).trans (max_le (by linarith) le_rfl)
    have sample := sampled 0 _ limit
    exact rounded_between (by linarith [sample.1]) (by linarith [sample.2])
  · have limit : 0 ≤ min (s.retryJitterSeconds : ℚ) (delay - s.retryBaseSeconds) := le_min amount (by linarith)
    have inside : min (s.retryJitterSeconds : ℚ) (delay - s.retryBaseSeconds) ≤ delay - s.retryBaseSeconds := min_le_right _ _
    have sample := sampled (-min (s.retryJitterSeconds : ℚ) (delay - s.retryBaseSeconds)) 0 (by linarith)
    exact rounded_between (by linarith [sample.1]) (by linarith [sample.2])
  · exact ⟨low,high⟩

theorem withJitter_none (none_ : s.retryJitterSeconds = 0) (delay : ℚ) : withJitter s r jitter delay = delay := by
  have room : min ((0 : ℤ) : ℚ) (max 0 (s.retryMaxSeconds - delay)) = 0 := by
    rw [Int.cast_zero]
    exact min_eq_left (le_max_left _ _)
  simp only [withJitter,none_,room,ne_eq,not_true_eq_false,if_false,and_false]

/-- A delay lies between the base and the cap, is never shorter than a flood wait, and grows with
the attempts when there is no jitter. -/
theorem retryDelay_bounds (s : Settings) (r : Rounding) (jitter : ℚ → ℚ → ℚ) (sampled : Sampled jitter)
    (attempts : ℤ) (positive : 1 ≤ attempts) :
    (s.retryBaseSeconds ≤ retryDelay s r jitter attempts none ∧ retryDelay s r jitter attempts none ≤ s.retryMaxSeconds) ∧
      (∀ wait : ℤ, wait ≤ retryDelay s r jitter attempts (some wait)) ∧
      (s.retryJitterSeconds = 0 → ∀ later floodWait, attempts ≤ later →
        retryDelay s r jitter attempts floodWait ≤ retryDelay s r jitter later floodWait) := by
  have between := doubled_between (s := s) positive
  refine ⟨withJitter_between sampled between.1 between.2,fun wait => le_max_right _ _,?_⟩
  intro none_ later floodWait after
  have grows : withJitter s r jitter (doubled s attempts) ≤ withJitter s r jitter (doubled s later) := by
    rw [withJitter_none none_,withJitter_none none_]
    exact doubled_mono after
  cases floodWait with
  | none => exact grows
  | some wait => exact max_le_max grows le_rfl

end Bounds

def defaultSettings : Settings := ⟨30,3600,15,by decide,by decide,by decide,by decide⟩

def exactly : Rounding := ⟨id,monotone_id,fun _ _ => rfl⟩

/-- The first retry, with the largest jitter. -/
theorem retryDelay_first : retryDelay defaultSettings exactly (fun _ high => high) 1 none = 45 ∧
    (30 : ℚ) ≤ retryDelay defaultSettings exactly (fun _ high => high) 1 none := by
  have bounds := retryDelay_bounds defaultSettings exactly (fun _ high => high) (fun _ _ order => ⟨order,le_rfl⟩) 1 le_rfl
  refine ⟨?_,by exact_mod_cast bounds.1.1⟩
  norm_num [retryDelay,withJitter,doubled,defaultSettings,exactly]

end BackupTelebot.RetryDelay
