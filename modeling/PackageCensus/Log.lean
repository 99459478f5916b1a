/-! # Log

Diagnostics are events of five levels, told by the parts of the program.  Which of them are shown
is the matter of filters. -/

namespace PackageCensus.Log

/-- How grave an event is, the least grave first. -/
inductive Level where
  | trace
  | debug
  | info
  | warn
  | error
deriving DecidableEq, Repr

namespace Level

/-- The rank of a level. -/
def rank : Level → Nat
  | trace => 0
  | debug => 1
  | info => 2
  | warn => 3
  | error => 4

/-- The name of a level. -/
def name : Level → String
  | trace => "trace"
  | debug => "debug"
  | info => "info"
  | warn => "warn"
  | error => "error"

/-- Every level. -/
def all : List Level := [trace, debug, info, warn, error]

/-- The level of a name. -/
def ofName? (name : String) : Option Level := all.find? (·.name = name)

/-- The mark of a level at the start of a line. -/
def mark (l : Level) : String := l.name.toUpper

end Level

/-- The parts of the program that tell events. -/
inductive Origin where
  | closure
  | symbolTable
  | symbolTool
  | settings
  | graphCommand
  | weightCommand
deriving DecidableEq, Repr

/-- The name of a part of the program, by which filters refer to it. -/
def Origin.name : Origin → String
  | closure => "depweight_core::graph::compute"
  | symbolTable => "depweight_core::symbols::batch"
  | symbolTool => "depweight_core::services::nm"
  | settings => "depweight::commands::util"
  | graphCommand => "depweight::commands::graph"
  | weightCommand => "depweight::commands::weight"

/-- Something worth telling, with what it is about. -/
structure Event where
  level : Level
  origin : Origin
  text : String
  details : List (String × String) := []
deriving DecidableEq, Repr

namespace Event

/-- The line of an event. -/
def line (e : Event) : String :=
  " ".intercalate
    (e.level.mark :: e.text :: e.details.map fun (name, value) => name ++ "=" ++ value)

/-- The names of what an event tells: its text goes by the name of message. -/
def fields (e : Event) : List String := "message" :: e.details.map Prod.fst

end Event
end PackageCensus.Log
