import CloudProvider.Text.Similarity

/-!
The command line. There is one option, which must be given, and it takes a path. What is wrong is told
with the right usage; an unknown option that is much like a known one is told together with that one.
-/

namespace CloudProvider.CommandLine

def program : String := "cpi"

def version : String := "0.2.0"

def optionName : String := "configPath"

def helpName : String := "help"

def versionName : String := "version"

/-- The option with its value. -/
def option : String := s!"--{optionName} <PATH>"

/-- Why the command line gives no path. -/
inductive Fault where
  | optionMissing
  | valueMissing
  | repeated
  /-- An argument that is not known, and the name of an option that is much like it. -/
  | unexpected (argument : String) (similar : Option String)
  /-- An option without a value is given one. -/
  | surplusValue (name value : String)
  | helpAsked
  | versionAsked
  deriving DecidableEq, Repr

namespace Fault

def helpText : String :=
  s!"BOSH cloud provider interface for Photon Controller\n\nUsage: {program} {option}\n\nOptions:\n" ++
    s!"      {option}  Path to the JSON config file\n" ++
    s!"  -h, --{helpName}               Print help\n" ++
    s!"  -V, --{versionName}            Print version\n"

/-- The usage, with an option that it is about. -/
def usage (about : Option String) : String :=
  let more := match about with
    | some name => if name = optionName then "" else s!" --{name}"
    | none => ""
  s!"\n\nUsage: {program} {option}{more}"

def advice : String := s!"\n\nFor more information, try '--{helpName}'.\n"

def message : Fault → String
  | .optionMissing =>
    s!"error: the following required arguments were not provided:\n  {option}" ++ usage none ++ advice
  | .valueMissing => s!"error: a value is required for '{option}' but none was supplied" ++ advice
  | .repeated => s!"error: the argument '{option}' cannot be used multiple times" ++ usage none ++ advice
  | .unexpected argument similar =>
    let tip := match similar with
      | some name => s!"\n\n  tip: a similar argument exists: '--{name}'"
      | none => ""
    s!"error: unexpected argument '{argument}' found" ++ tip ++ usage similar ++ advice
  | .surplusValue name value =>
    s!"error: unexpected value '{value}' for '--{name}' found; no more were expected" ++
      usage (some name) ++ advice
  | .helpAsked => helpText
  | .versionAsked => s!"{program} {version}\n"

end Fault

/-- The option may also be written with one dash. -/
def normalize (argument : String) : String :=
  if argument = s!"-{optionName}" ∨ s!"-{optionName}=".isPrefixOf argument then "-" ++ argument
  else argument

/-- How alike a name must be to be suggested. -/
def similarEnough : Text.Share := ⟨7, 10⟩

/-- Of the options the one that is most like a name, if it is like enough. -/
def similarOption (name : String) : Option String :=
  let better (best : Option (String × Text.Share)) (candidate : String) :=
    let share := Text.similarity name candidate
    if share.isAbove similarEnough ∧ best.all fun b => !b.2.isAbove share then some (candidate, share)
    else best
  ([optionName, helpName, versionName].foldl better none).map (·.1)

/-- The option has been seen, perhaps with a value that has not been looked at. -/
inductive Pending where
  | nothing
  | option
  | value (v : String)
  deriving DecidableEq

structure State where
  path : Option String
  pending : Pending

namespace State

def take (s : State) (value : String) : Except Fault State :=
  if s.path.isSome then .error .repeated
  else if value = "" then .error .valueMissing
  else .ok ⟨some value, .nothing⟩

/-- Looks at what is pending. -/
def settle (s : State) : Except Fault State :=
  match s.pending with
  | .nothing => .ok s
  | .option => .error .valueMissing
  | .value v => s.take v

/-- What a long option does, given its name and the value written with it. -/
def long (s : State) (name : String) (value : Option String) : Except Fault State :=
  if name = optionName then do
    let s ← s.settle
    match value with
    | some v => s.take v
    | none => .ok { s with pending := .option }
  else if name = helpName ∨ name = versionName then
    match value with
    | some v => .error (.surplusValue name v)
    | none => do
      let _ ← s.settle
      .error (if name = helpName then .helpAsked else .versionAsked)
  else .error (.unexpected s!"--{name}" (similarOption name))

/-- What a short option does. -/
def short (s : State) (c : Char) : Except Fault State :=
  if c = 'h' ∨ c = 'V' then do
    let _ ← s.settle
    .error (if c = 'h' then .helpAsked else .versionAsked)
  else .error (.unexpected s!"-{c}" none)

/-- An argument that is no option: a value, if one is missing. -/
def plain (s : State) (argument : String) : Except Fault State :=
  match s.pending with
  | .option => .ok { s with pending := .value argument }
  | _ => .error (.unexpected argument none)

def argument (s : State) (a : String) : Except Fault State :=
  match a.toList with
  | '-' :: '-' :: cs =>
    let value := cs.dropWhile (· ≠ '=')
    s.long (.ofList (cs.takeWhile (· ≠ '=')))
      (if value = [] then none else some (.ofList (value.drop 1)))
  | '-' :: c :: _ => s.short c
  | _ => s.plain a

/-- The path, at the end of the arguments. -/
def finish (s : State) : Except Fault String := do
  match (← s.settle).path with
  | some path => .ok path
  | none => .error .optionMissing

/-- Goes through the arguments. Behind `--` there must be none. -/
def run (s : State) : List String → Except Fault String
  | [] => s.finish
  | ["--"] => s.finish
  | "--" :: a :: _ => .error (.unexpected a none)
  | a :: rest => do (← s.argument a).run rest

end State

/-- Reads the arguments, of which the first is not the program's name. -/
def parse (arguments : List String) : Except Fault String := State.run ⟨none, .nothing⟩ arguments

end CloudProvider.CommandLine
