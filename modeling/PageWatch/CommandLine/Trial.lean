import PageWatch.CommandLine.Program

/-!
# Trials

A trial runs the program on files in memory and with replies from a table.
-/

set_option autoImplicit false

namespace PageWatch

structure Trial where
  files : FileSystem := .empty
  environment : List (String × String) := []
  reply? : Request → Option Reply := fun _ => none
  pauses : Nat := 0
  printed : List String := []
  shown : List LogEvent := []
  requests : List Request := []

namespace Trial

abbrev Run := StateM Trial

def network : Network Run := fun request => do
  match (← get).reply? request with
  | some reply =>
    modify fun t => { t with requests := request :: t.requests }
    return .ok reply
  | none => return .error (.unanswered request.url)

def pause (_ : Nat) : Run Bool := do
  match (← get).pauses with
  | 0 => return false
  | n + 1 => modify fun t => { t with pauses := n }; return true

def host : Host Run where
  disk := FileSystem.disk (·.files) fun files t => { t with files }
  network
  variableOf name := do return ((← get).environment.find? (·.1 == name)).map (·.2)
  print line := modify fun t => { t with printed := line :: t.printed }
  display e := modify fun t => { t with shown := e :: t.shown }
  pause

def run (t : Trial) (arguments : List String) : CommandLine.Exit × Trial :=
  CommandLine.run host arguments |>.run t

end Trial

end PageWatch
