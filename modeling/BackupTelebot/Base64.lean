import Mathlib.Tactic.IntervalCases
import Mathlib.Tactic.SplitIfs

/-! Base64 with the standard alphabet: three bytes in four characters, padded at the end.
Decoding is strict, as with `validate=True`. -/
namespace Base64

abbrev Bytes := List UInt8

def digit (n : Nat) : Nat :=
  if n < 26 then 65 + n else if n < 52 then 71 + n else if n < 62 then n - 4 else if n = 62 then 43 else 47

def value (c : Nat) : Option Nat :=
  if 65 ≤ c ∧ c ≤ 90 then some (c - 65)
  else if 97 ≤ c ∧ c ≤ 122 then some (c - 71)
  else if 48 ≤ c ∧ c ≤ 57 then some (c + 4)
  else if c = 43 then some 62
  else if c = 47 then some 63
  else none

def pad : Nat := 61

def encode : Bytes → List Nat
  | [] => []
  | [a] => [digit (a.toNat / 4),digit (a.toNat % 4 * 16),pad,pad]
  | [a,b] => [digit (a.toNat / 4),digit (a.toNat % 4 * 16 + b.toNat / 16),digit (b.toNat % 16 * 4),pad]
  | a :: b :: c :: rest =>
      digit (a.toNat / 4) :: digit (a.toNat % 4 * 16 + b.toNat / 16) :: digit (b.toNat % 16 * 4 + c.toNat / 64) ::
        digit (c.toNat % 64) :: encode rest

def byte (n : Nat) : UInt8 := UInt8.ofNat n

/-- The bits that padding leaves over are not looked at. -/
def decodeLast (w x : Nat) (y z : Option Nat) (padded : Bool) : Option Bytes :=
  match y, z, padded with
  | some y,some z,_ => some [byte (w * 4 + x / 16),byte (x % 16 * 16 + y / 4),byte (y % 4 * 64 + z)]
  | some y,none,true => some [byte (w * 4 + x / 16),byte (x % 16 * 16 + y / 4)]
  | _,_,_ => none

def decode : List Nat → Option Bytes
  | [] => some []
  | [p,q,r,s] =>
      match value p, value q with
      | some w,some x =>
          if r = pad ∧ s = pad then some [byte (w * 4 + x / 16)] else decodeLast w x (value r) (value s) (s = pad)
      | _,_ => none
  | p :: q :: r :: s :: rest =>
      match value p, value q, value r, value s, decode rest with
      | some w,some x,some y,some z,some bytes =>
          some (byte (w * 4 + x / 16) :: byte (x % 16 * 16 + y / 4) :: byte (y % 4 * 64 + z) :: bytes)
      | _,_,_,_,_ => none
  | _ => none

theorem value_digit {n : Nat} (small : n < 64) : value (digit n) = some n := by
  interval_cases n <;> rfl

theorem digit_ne_pad {n : Nat} : digit n ≠ pad := by
  unfold digit pad
  split_ifs <;> omega

theorem digit_ascii {n : Nat} : digit n ≤ 0x7F := by
  unfold digit
  split_ifs <;> omega

theorem byte_toNat {n : Nat} {a : UInt8} (same : n = a.toNat) : byte n = a := by
  rw [byte,same,UInt8.ofNat_toNat]

/-- What was encoded is read back. -/
theorem decode_encode (bytes : Bytes) : decode (encode bytes) = some bytes := by
  induction bytes using encode.induct with
  | case1 => rfl
  | case2 a =>
    have bound := a.toNat_lt
    have first : value (digit (a.toNat / 4)) = some (a.toNat / 4) := value_digit (by omega)
    have second : value (digit (a.toNat % 4 * 16)) = some (a.toNat % 4 * 16) := value_digit (by omega)
    simp only [encode,decode,first,second,and_self,if_true]
    rw [byte_toNat (a := a) (by omega)]
  | case3 a b =>
    have bound := a.toNat_lt
    have bound' := b.toNat_lt
    have first : value (digit (a.toNat / 4)) = some (a.toNat / 4) := value_digit (by omega)
    have second : value (digit (a.toNat % 4 * 16 + b.toNat / 16)) = some (a.toNat % 4 * 16 + b.toNat / 16) :=
      value_digit (by omega)
    have third : value (digit (b.toNat % 16 * 4)) = some (b.toNat % 16 * 4) := value_digit (by omega)
    have last : value pad = none := rfl
    simp only [encode,decode,first,second,third,digit_ne_pad,false_and,if_false,decodeLast,last,decide_true]
    rw [byte_toNat (a := a) (by omega),byte_toNat (a := b) (by omega)]
  | case4 a b c rest ih =>
    have bound := a.toNat_lt
    have bound' := b.toNat_lt
    have bound'' := c.toNat_lt
    have first : value (digit (a.toNat / 4)) = some (a.toNat / 4) := value_digit (by omega)
    have second : value (digit (a.toNat % 4 * 16 + b.toNat / 16)) = some (a.toNat % 4 * 16 + b.toNat / 16) :=
      value_digit (by omega)
    have third : value (digit (b.toNat % 16 * 4 + c.toNat / 64)) = some (b.toNat % 16 * 4 + c.toNat / 64) :=
      value_digit (by omega)
    have fourth : value (digit (c.toNat % 64)) = some (c.toNat % 64) := value_digit (by omega)
    cases more : encode rest with
    | nil =>
      rw [more] at ih
      obtain rfl : [] = rest := by simpa [decode] using ih
      simp only [encode,decode,first,second,third,fourth,digit_ne_pad,false_and,if_false,decodeLast]
      rw [byte_toNat (a := a) (by omega),byte_toNat (a := b) (by omega),byte_toNat (a := c) (by omega)]
    | cons next others =>
      rw [more] at ih
      simp only [encode,more,decode,first,second,third,fourth,ih]
      rw [byte_toNat (a := a) (by omega),byte_toNat (a := b) (by omega),byte_toNat (a := c) (by omega)]

theorem encode_ascii (bytes : Bytes) : ∀ c ∈ encode bytes, c ≤ 0x7F := by
  induction bytes using encode.induct with
  | case1 => simp [encode]
  | case2 a => simp [encode,digit_ascii,pad]
  | case3 a b => simp [encode,digit_ascii,pad]
  | case4 a b c rest ih => simpa [encode,digit_ascii] using ih

end Base64
