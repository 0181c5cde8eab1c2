import CloudProvider.Json.Basic

/-!
What is reported while a call runs, and the log that is kept of it. A log holds one line for each event
of information level or above, with the time, the level, the message and the fields in their order.
-/

namespace CloudProvider

inductive Level where
  | trace
  | debug
  | info
  | warn
  | error
  deriving DecidableEq, Repr

namespace Level

def name : Level → String
  | .trace => "TRACE"
  | .debug => "DEBUG"
  | .info => "INFO"
  | .warn => "WARN"
  | .error => "ERROR"

/-- Events below information level are for developers and are not kept. -/
def isKept : Level → Bool
  | .trace | .debug => false
  | .info | .warn | .error => true

end Level

structure Event where
  level : Level
  message : String
  fields : List (String × String)
  deriving DecidableEq, Repr

namespace Event

def info (message : String) (fields : List (String × String)) : Event := ⟨.info, message, fields⟩

def warn (message : String) (fields : List (String × String)) : Event := ⟨.warn, message, fields⟩

def error (message : String) (fields : List (String × String)) : Event := ⟨.error, message, fields⟩

/-- What a line says after the time. -/
def text (e : Event) : String :=
  e.level.name ++ " " ++ e.message ++ String.join (e.fields.map fun f => " " ++ f.1 ++ "=" ++ f.2)

def line (time : String) (e : Event) : String := time ++ " " ++ e.text ++ "\n"

end Event

/-- The log of a call. -/
structure CallLog where
  text : String
  deriving DecidableEq

namespace CallLog

def empty : CallLog := ⟨""⟩

def record (log : CallLog) (time : String) (e : Event) : CallLog :=
  if e.level.isKept then ⟨log.text ++ e.line time⟩ else log

/-- What has been logged, and the log without it. -/
def take (log : CallLog) : String × CallLog := (log.text, empty)

end CallLog
end CloudProvider
