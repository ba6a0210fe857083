/-!
# Options on a command line

Arguments are read from left to right. A long name follows two hyphens, and short
names of one letter may share one hyphen. A value follows its option, in the same
argument or in the next one. The first thing that is wrong, or that asks for help,
ends the reading; a value is checked when the next option comes.
-/

set_option autoImplicit false

namespace PageWatch.CommandLine

inductive Kind where
  | switch
  | valued (mayBeEmpty : Bool)
  | help
  | version
  deriving Repr, DecidableEq

structure OptionName where
  long : String
  short : Option Char
  kind : Kind
  deriving Repr, DecidableEq

inductive Misuse where
  | unexpected (argument : String)
  | missingValue (option : String)
  | needlessValue (option : String)
  | repeated (option : String)
  | unknownCommand (name : String)
  | noCommand
  deriving Repr, DecidableEq

inductive Stop where
  | help
  | version
  | misuse (e : Misuse)
  deriving Repr, DecidableEq

structure Given where
  values : List (String × String) := []
  pending : Option (OptionName × Option String) := none
  deriving Repr, DecidableEq

namespace Given

def value? (g : Given) (long : String) : Option String :=
  (g.values.find? (·.1 == long)).map (·.2)

def has (g : Given) (long : String) : Bool := (g.value? long).isSome

def add (g : Given) (o : OptionName) (value : String) : Except Stop Given :=
  if g.has o.long then .error (.misuse (.repeated o.long))
  else if value.isEmpty && o.kind == .valued false then .error (.misuse (.missingValue o.long))
  else .ok { g with values := g.values ++ [(o.long, value)] }

/-- Checks the pending value. -/
def settle (g : Given) : Except Stop Given :=
  match g.pending with
  | none => .ok g
  | some (o, none) => .error (.misuse (.missingValue o.long))
  | some (o, some value) => { g with pending := none }.add o value

def isWaiting (g : Given) : Bool := g.pending.any (·.2.isNone)

def supply (g : Given) (value : String) : Given :=
  { g with pending := g.pending.map fun (o, _) => (o, some value) }

def take (g : Given) (o : OptionName) : Except Stop Given := do
  let g ← g.settle
  match o.kind with
  | .help => throw .help
  | .version => throw .version
  | .switch => g.add o ""
  | .valued _ => return { g with pending := some (o, none) }

def takeWith (g : Given) (o : OptionName) (value : String) : Except Stop Given :=
  match o.kind with
  | .valued _ => do (← g.settle).add o value
  | _ => .error (.misuse (.needlessValue o.long))

end Given

def unexpected {α : Type} (argument : String) : Except Stop α :=
  .error (.misuse (.unexpected argument))

def readLong (options : List OptionName) (g : Given) (body : List Char) : Except Stop Given :=
  let name := String.ofList (body.takeWhile (· ≠ '='))
  match options.find? (·.long == name) with
  | none => unexpected ("--" ++ String.ofList body)
  | some o =>
    match body.dropWhile (· ≠ '=') with
    | [] => g.take o
    | _ :: value => g.takeWith o (String.ofList value)

def readShort (options : List OptionName) (g : Given) : List Char → Except Stop Given
  | [] => .ok g
  | c :: rest =>
    match options.find? (·.short == some c) with
    | none => unexpected ("-" ++ String.ofList [c])
    | some o =>
      match o.kind, rest with
      | .valued _, '=' :: value => g.takeWith o (String.ofList value)
      | .valued _, d :: value => g.takeWith o (String.ofList (d :: value))
      | _, _ => do readShort options (← g.take o) rest

abbrev Rest := Option (String × List String)

/-- Two hyphens end the options, and after them nothing is expected. -/
def readEnd (g : Given) : List String → Except Stop (Given × Rest)
  | [] => .ok (g, none)
  | argument :: _ => unexpected argument

def read (options : List OptionName) (commands : List String) (g : Given) :
    List String → Except Stop (Given × Rest)
  | [] => .ok (g, none)
  | argument :: rest =>
    if !g.isWaiting && commands.contains argument then .ok (g, some (argument, rest))
    else
      match argument.toList with
      | ['-', '-'] => readEnd g rest
      | '-' :: '-' :: body => do read options commands (← readLong options g body) rest
      | '-' :: c :: body => do read options commands (← readShort options g (c :: body)) rest
      | _ =>
        if g.isWaiting then read options commands (g.supply argument) rest
        else if commands.isEmpty then unexpected argument
        else .error (.misuse (.unknownCommand argument))

end PageWatch.CommandLine
