import BackupTelebot.PythonText
import Mathlib.Data.List.Infix

/-! Substrings of Python texts: a prefix that is taken away and an occurrence that is replaced. -/
namespace PyText

def removeprefix (front text : Text) : Text := if front <+: text then text.drop front.length else text

/-- `str.replace` with count 1. -/
def replaceOnce (old new : Text) : Text → Text
  | [] => if old = [] then new else []
  | c :: rest => if old <+: c :: rest then new ++ (c :: rest).drop old.length else c :: replaceOnce old new rest

def replaceChar (old : Nat) (new text : Text) : Text := text.flatMap fun c => if c = old then new else [c]

def removesuffix (back text : Text) : Text := if back <:+ text then text.take (text.length - back.length) else text

@[simp] theorem removesuffix_append (front back : Text) : removesuffix back (front ++ back) = front := by
  simp [removesuffix]

@[simp] theorem replaceChar_nil (old : Nat) (new : Text) : replaceChar old new [] = [] := rfl

@[simp] theorem replaceChar_append (old : Nat) (new front back : Text) :
    replaceChar old new (front ++ back) = replaceChar old new front ++ replaceChar old new back := List.flatMap_append

theorem replaceChar_cons (old : Nat) (new : Text) (c : Nat) (rest : Text) :
    replaceChar old new (c :: rest) = (if c = old then new else [c]) ++ replaceChar old new rest := rfl

@[simp] theorem removeprefix_append (front text : Text) : removeprefix front (front ++ text) = text := by
  simp [ removeprefix]

section Replace

variable {old new text : Text}

theorem replaceOnce_prefix (nonempty : old ≠ []) (rest : Text) : replaceOnce old new (old ++ rest) = new ++ rest := by
  obtain ⟨c,tail,rfl⟩ := List.exists_cons_of_ne_nil nonempty
  have found : c :: tail <+: c :: (tail ++ rest) := ⟨rest,rfl⟩
  rw [List.cons_append,replaceOnce,if_pos found]
  simp

theorem replaceOnce_absent (absent : ¬old <:+: text) : replaceOnce old new text = text := by
  induction text with
  | nil =>
    rw [replaceOnce,if_neg]
    rintro rfl
    exact absent (List.infix_refl _)
  | cons c rest ih =>
    rw [List.infix_cons_iff,not_or] at absent
    rw [replaceOnce,if_neg absent.1,ih absent.2]

/-- What is replaced by something else does not stay as it was. -/
theorem replaceOnce_ne (present : old <:+: text) (apart : new ≠ old) : replaceOnce old new text ≠ text := by
  induction text with
  | nil =>
    obtain rfl := List.infix_nil.mp present
    rwa [replaceOnce,if_pos rfl]
  | cons c rest ih =>
    rw [replaceOnce]
    split_ifs with here
    · obtain ⟨tail,eq⟩ := here
      rw [← eq,List.drop_left]
      exact fun same => apart (List.append_cancel_right same)
    · have later := (List.infix_cons_iff.mp present).resolve_left here
      exact fun same => ih later (List.cons.inj same).2

end Replace

/-- Two characters in a text that is put together. -/
theorem pair_infix_append {a b : Nat} {front back : Text} :
    [a,b] <:+: front ++ back ↔ [a,b] <:+: front ∨ [a,b] <:+: back ∨ ([a] <:+ front ∧ [b] <+: back) := by
  induction front with
  | nil => simp
  | cons c rest ih =>
    rw [List.cons_append,List.infix_cons_iff,ih,List.infix_cons_iff,List.suffix_cons_iff]
    cases rest with
    | nil =>
      simp only [List.nil_append,List.cons_prefix_cons,List.infix_nil,List.suffix_nil,List.cons.injEq,and_true,List.prefix_nil,
        reduceCtorEq,and_false,or_false,false_or,false_and]
      tauto
    | cons d rest =>
      have last : [a] ≠ c :: d :: rest := by simp
      simp only [last,false_or,List.cons_append,List.cons_prefix_cons,List.nil_prefix]
      tauto

end PyText
