/-! What an awaited operation of the worker can raise, as far as its handlers tell the
cases apart. -/
namespace BackupTelebot

inductive DeliveryErrorKind where
  | transient
  | permanent
  | floodWait
  deriving DecidableEq, Repr

/-- An exception other than cancellation. `code` is its attribute of that name, which a
`PipelineError` always has; `kind` and `seconds` are what `classify_delivery_error` makes
of it, and `name` is the name of its class. -/
structure Failure where
  code : Option String
  name : String
  kind : DeliveryErrorKind
  seconds : Option Nat
  deriving DecidableEq, Repr

def Failure.pipeline (code : String) : Failure := ⟨some code,"PipelineError",.permanent,none⟩

/-- An exception of the interpreter or its library, without a code. -/
def Failure.builtin (name : String) (kind : DeliveryErrorKind := .permanent) : Failure :=
  ⟨none,name,kind,none⟩

inductive Exc where
  | cancelled
  | failure (e : Failure)
  deriving DecidableEq, Repr

def Exc.pipeline (code : String) : Exc := .failure (.pipeline code)

/-- `raise RuntimeError("run lease ownership lost")`. -/
def Exc.leaseLost : Exc := .failure (.builtin "RuntimeError")

end BackupTelebot
