import SchemaStructs.Text.Basic

/-!
# Log records

What the program reports while it works.  A computation that reports gives its value together with
the records in the order in which they were made (`Logged`).
-/

namespace SchemaStructs

/-- How much a record matters. -/
inductive LogLevel where
  /-- Of interest when looking for a mistake. -/
  | debug
  /-- Progress. -/
  | info
  /-- Something that may be wrong. -/
  | warning
  /-- A failure. -/
  | error
  /-- A failure that ends the program. -/
  | critical
  deriving DecidableEq, Repr

namespace LogLevel

/-- The number that levels are compared by. -/
def toNat : LogLevel → Nat
  | debug => 10
  | info => 20
  | warning => 30
  | error => 40
  | critical => 50

/-- The name of the level. -/
def name : LogLevel → Text
  | debug => "DEBUG"
  | info => "INFO"
  | warning => "WARNING"
  | error => "ERROR"
  | critical => "CRITICAL"

end LogLevel

/-- A report of the program. -/
structure LogRecord where
  /-- How much it matters. -/
  level : LogLevel
  /-- The part of the program that makes the report. -/
  logger : Text
  /-- The report. -/
  message : Text
  deriving DecidableEq

/-- A value and the records made on the way to it. -/
structure Logged (α : Type) where
  /-- The records, in order. -/
  records : List LogRecord
  /-- The value. -/
  value : α

namespace Logged

instance : Monad Logged where
  pure a := { records := [], value := a }
  bind x f :=
    let y := f x.value
    { records := x.records ++ y.records, value := y.value }

/-- Makes one record. -/
def report (level : LogLevel) (logger message : Text) : Logged Unit :=
  { records := [{ level, logger, message }], value := () }

@[simp] theorem value_pure {α : Type} (a : α) : (pure a : Logged α).value = a := rfl

@[simp] theorem records_pure {α : Type} (a : α) : (pure a : Logged α).records = [] := rfl

@[simp] theorem value_bind {α β : Type} (x : Logged α) (f : α → Logged β) :
    (x >>= f).value = (f x.value).value := rfl

/-- The records of the first step come before those of the second. -/
@[simp] theorem records_bind {α β : Type} (x : Logged α) (f : α → Logged β) :
    (x >>= f).records = x.records ++ (f x.value).records := rfl

instance : LawfulMonad Logged := LawfulMonad.mk' Logged
  (fun x => by simp only [Functor.map, Function.comp_id, List.append_nil])
  (fun _ _ => rfl)
  (fun x f g => by simp only [Bind.bind, List.append_assoc])

end Logged

end SchemaStructs
