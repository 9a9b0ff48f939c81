/-!
# What a refused call says

A call that moves bytes out of a program can be refused by the operating system
or by whatever stands at the other end. An interruption is the one kind of
refusal after which the same write may simply be tried again.
-/

namespace ArgReport

/-- The errors of the operating system that a write or a flush can meet. -/
inductive SystemError
  /-- A signal arrived during the call. -/
  | interruptedCall
  /-- The device failed. -/
  | inputOutput
  /-- Nothing is open under the descriptor. -/
  | badDescriptor
  /-- The call would have to wait. -/
  | unavailable
  /-- The file may not grow further. -/
  | fileTooLarge
  /-- The device is full. -/
  | noSpace
  /-- Nobody reads the other end. -/
  | brokenPipe
  /-- The other end closed the connection. -/
  | connectionReset
  deriving DecidableEq, Repr

namespace SystemError

/-- Every system error, by increasing number. -/
def all : List SystemError :=
  [ .interruptedCall, .inputOutput, .badDescriptor, .unavailable,
    .fileTooLarge, .noSpace, .brokenPipe, .connectionReset ]

/-- The number that the operating system gives the error. -/
def code : SystemError -> Nat
  | .interruptedCall => 4
  | .inputOutput => 5
  | .badDescriptor => 9
  | .unavailable => 11
  | .fileTooLarge => 27
  | .noSpace => 28
  | .brokenPipe => 32
  | .connectionReset => 104

/-- The words that the operating system has for the error. -/
def description : SystemError -> String
  | .interruptedCall => "Interrupted system call"
  | .inputOutput => "Input/output error"
  | .badDescriptor => "Bad file descriptor"
  | .unavailable => "Resource temporarily unavailable"
  | .fileTooLarge => "File too large"
  | .noSpace => "No space left on device"
  | .brokenPipe => "Broken pipe"
  | .connectionReset => "Connection reset by peer"

/-- Description and number of the error. -/
def message (error : SystemError) : String :=
  error.description ++ " (os error " ++ toString error.code ++ ")"

/-- The error of a given number. -/
def ofCode? (code : Nat) : Option SystemError :=
  all.find? fun error => error.code = code

theorem ofCode?_code (error : SystemError) :
    ofCode? error.code = some error := by
  cases error <;> rfl

end SystemError

/-- Why a call was refused. -/
inductive Refusal
  /-- A reason of the receiver's own, in its own words. -/
  | custom (text : String)
  /-- The call was interrupted before it did anything. -/
  | interrupted
  /-- The operating system refused. -/
  | system (error : SystemError)
  deriving DecidableEq, Repr

namespace Refusal

/-- The call was interrupted, by whichever name, and may be tried again. -/
def IsInterruption : Refusal -> Prop
  | .custom _ => False
  | .interrupted => True
  | .system error => error = .interruptedCall

instance (refusal : Refusal) : Decidable refusal.IsInterruption :=
  match refusal with
  | .custom _ => isFalse id
  | .interrupted => isTrue trivial
  | .system error => inferInstanceAs (Decidable (error = .interruptedCall))

/-- The text of the refusal. -/
def message : Refusal -> String
  | .custom text => text
  | .interrupted => "operation interrupted"
  | .system error => error.message

end Refusal
end ArgReport
