/-!
# Log records

Every operation reports what it does as a list of records, in order.  A record has a level, the
part of the program that reports it, and a message.

## Main definitions

* `Level` — how much a record matters, `Verbosity` — which levels are wanted
* `Record` — one log record
* `Logged` — a computation that reports records and ends with a value or an error
* `Logged.note` — reporting one record

## Main results

* `Logged.result_pure`, `Logged.result_bind` — records never influence the outcome
-/

namespace DiskLayout

/-- How much a record matters, the most urgent first. -/
inductive Level where
  | error
  | warn
  | info
  | debug
  | trace
deriving DecidableEq, Repr

namespace Level

/-- All levels, the most urgent first. -/
def all : List Level := [error, warn, info, debug, trace]

/-- The rank of a level, from 1 for the most urgent. -/
def rank : Level → Nat
  | error => 1
  | warn => 2
  | info => 3
  | debug => 4
  | trace => 5

/-- The name of a level in capitals. -/
def name : Level → String
  | error => "ERROR"
  | warn => "WARN"
  | info => "INFO"
  | debug => "DEBUG"
  | trace => "TRACE"

/-- The level with a name in any letter case. -/
def ofName? (text : String) : Option Level := all.find? fun level => level.name == text.toUpper

end Level

/-- Which records are wanted: none, or those of a level and of the more urgent ones. -/
inductive Verbosity where
  | off
  | upTo (level : Level)
deriving DecidableEq, Repr

namespace Verbosity

/-- The rank of the least urgent level wanted, 0 when none is. -/
def rank : Verbosity → Nat
  | off => 0
  | upTo level => level.rank

/-- Whether records of a level are wanted. -/
def admits (verbosity : Verbosity) (level : Level) : Bool := level.rank ≤ verbosity.rank

/-- The name of a verbosity in capitals. -/
def name : Verbosity → String
  | off => "OFF"
  | upTo level => level.name

/-- The verbosity with a name in any letter case. -/
def ofName? (text : String) : Option Verbosity :=
  if text.toUpper = "OFF" then some .off else (Level.ofName? text).map .upTo

/-- The greater of two verbosities. -/
def max (first second : Verbosity) : Verbosity := if first.rank ≤ second.rank then second else first

end Verbosity

/-- One log record. -/
structure Record where
  level : Level
  target : String
  message : String
deriving DecidableEq, Repr

/-- A computation that reports records and ends with a value or an error. -/
structure Logged (ε α : Type) where
  log : List Record
  result : Except ε α

namespace Logged

variable {ε α β : Type}

/-- A computation that reports nothing. -/
def ofExcept (result : Except ε α) : Logged ε α := ⟨[], result⟩

/-- A computation that reports records and succeeds. -/
def notes (records : List Record) : Logged ε Unit := ⟨records, .ok ()⟩

/-- A computation that reports one record and succeeds. -/
def note (level : Level) (target message : String) : Logged ε Unit :=
  notes [⟨level, target, message⟩]

/-- A computation followed by one that depends on its value. -/
def andThen (first : Logged ε α) (next : α → Logged ε β) : Logged ε β :=
  match first.result with
  | .ok value => ⟨first.log ++ (next value).log, (next value).result⟩
  | .error error => ⟨first.log, .error error⟩

/-- A computation with its error changed. -/
def mapError {ε' : Type} (change : ε → ε') (computation : Logged ε α) : Logged ε' α :=
  ⟨computation.log, computation.result.mapError change⟩

instance : Monad (Logged ε) where
  pure value := ofExcept (.ok value)
  bind := andThen

instance : MonadExceptOf ε (Logged ε) where
  throw error := ofExcept (.error error)
  tryCatch computation handle :=
    match computation.result with
    | .ok _ => computation
    | .error error => ⟨computation.log ++ (handle error).log, (handle error).result⟩

instance : MonadLift (Except ε) (Logged ε) where
  monadLift := ofExcept

@[simp] theorem result_pure (value : α) : (pure value : Logged ε α).result = .ok value := rfl

@[simp] theorem result_notes (records : List Record) :
    (notes records : Logged ε Unit).result = .ok () := rfl

@[simp] theorem result_note (level : Level) (target message : String) :
    (note level target message : Logged ε Unit).result = .ok () := rfl

@[simp] theorem result_ofExcept (result : Except ε α) : (ofExcept result).result = result := rfl

@[simp] theorem result_throw (error : ε) : (throw error : Logged ε α).result = .error error := rfl

@[simp] theorem result_mapError {ε' : Type} (change : ε → ε') (computation : Logged ε α) :
    (computation.mapError change).result = computation.result.mapError change := rfl

@[simp] theorem result_bind (first : Logged ε α) (next : α → Logged ε β) :
    (first >>= next).result = first.result >>= fun value => (next value).result := by
  change (andThen first next).result = _
  unfold andThen
  cases first.result <;> rfl

end Logged

end DiskLayout
