import SwiftAudit.Failure

namespace SwiftAudit

inductive LogLevel where
  | debug
  | info
  | warning
  | error
  deriving DecidableEq, Repr

def LogLevel.rank : LogLevel → Nat
  | debug => 0
  | info => 1
  | warning => 2
  | error => 3

def LogLevel.word : LogLevel → String
  | debug => "debug"
  | info => "info"
  | warning => "warning"
  | error => "error"

structure LogEntry where
  level : LogLevel
  message : CodeText
  deriving DecidableEq, Repr

def LogEntry.isAtLeast (entry : LogEntry) (least : LogLevel) : Bool :=
  least.rank ≤ entry.level.rank

-- What a computation logged, up to its result or to what halted it.
structure Transcript (α : Type) where
  log : List LogEntry
  result : Except Halt α

namespace Transcript

variable {α β : Type}

def pure (a : α) : Transcript α := ⟨[], .ok a⟩

def bind (first : Transcript α) (next : α → Transcript β) : Transcript β :=
  match first.result with
  | .ok a => ⟨first.log ++ (next a).log, (next a).result⟩
  | .error halt => ⟨first.log, .error halt⟩

instance : Monad Transcript where
  pure := pure
  bind := bind

def note (level : LogLevel) (message : CodeText) : Transcript PUnit :=
  ⟨[⟨level, message⟩], .ok ⟨⟩⟩

def report (error : AuditError) : Transcript α := ⟨[], .error (.reported error)⟩

def breakDown (breakdown : Breakdown) : Transcript α := ⟨[], .error (.broken breakdown)⟩

def ofExcept : Except Breakdown α → Transcript α
  | .ok a => pure a
  | .error breakdown => breakDown breakdown

@[simp] theorem result_pure (a : α) : (Pure.pure a : Transcript α).result = .ok a := rfl

@[simp] theorem result_bind (first : Transcript α) (next : α → Transcript β) :
    (first >>= next).result = first.result >>= fun a => (next a).result := by
  change (first.bind next).result = _
  cases h : first.result <;> simp [Transcript.bind, h, Bind.bind, Except.bind]

@[simp] theorem result_note (level : LogLevel) (message : CodeText) :
    (note level message).result = .ok ⟨⟩ := rfl

@[simp] theorem result_ofExcept_ok (a : α) : (ofExcept (.ok a)).result = .ok a := rfl

@[simp] theorem result_ofExcept_error (breakdown : Breakdown) :
    (ofExcept (.error breakdown) : Transcript α).result = .error (.broken breakdown) := rfl

def entriesFrom (transcript : Transcript α) (least : LogLevel) : List LogEntry :=
  transcript.log.filter (·.isAtLeast least)

end Transcript

end SwiftAudit
