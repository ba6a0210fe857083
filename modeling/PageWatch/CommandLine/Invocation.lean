import PageWatch.CommandLine.Options

/-!
# What the program is asked to do
-/

set_option autoImplicit false

namespace PageWatch.CommandLine

inductive Command where
  | run
  | once
  | check (site : Option String)
  | validate
  deriving Repr, DecidableEq

def defaultConfig : String := "config/newswatch.toml"

structure Invocation where
  config : String := defaultConfig
  verbose : Bool := false
  command : Command
  deriving Repr, DecidableEq

inductive Topic where
  | program
  | command (name : String)
  deriving Repr, DecidableEq

inductive Wish where
  | invoke (i : Invocation)
  | help (t : Topic)
  | version
  | misuse (e : Misuse)
  deriving Repr, DecidableEq

def configOption : OptionName := ⟨"config", some 'c', .valued false⟩

def verboseOption : OptionName := ⟨"verbose", some 'v', .switch⟩

def siteOption : OptionName := ⟨"site", none, .valued true⟩

def helpOption : OptionName := ⟨"help", some 'h', .help⟩

def versionOption : OptionName := ⟨"version", some 'V', .version⟩

def programOptions : List OptionName := [configOption, verboseOption, helpOption, versionOption]

def commandOptions (name : String) : List OptionName :=
  if name == "check" then [siteOption, helpOption] else [helpOption]

def commands : List (String × String) :=
  [("run", "Watch all sites on the configured interval until Ctrl-C"),
   ("once", "Run a single tick over all sites and exit"),
   ("check", "Fetch and extract without notifying or storing anything"),
   ("validate", "Validate the configuration file"),
   ("help", "Print this message or the help of the given subcommand(s)")]

def commandNames : List String := commands.map (·.1)

def Command.ofName (name : String) (g : Given) : Command :=
  if name == "run" then .run
  else if name == "once" then .once
  else if name == "check" then .check (g.value? siteOption.long)
  else .validate

namespace Wish

def ofStop (t : Topic) : Stop → Wish
  | .help => .help t
  | .version => .version
  | .misuse e => .misuse e

def ofHelp : List String → Wish
  | [] => .help .program
  | [name] => if commandNames.contains name then .help (.command name)
    else .misuse (.unknownCommand name)
  | name :: other :: _ =>
    .misuse (.unknownCommand (if commandNames.contains name then other else name))

def ofCommand (g : Given) (name : String) (arguments : List String) : Wish :=
  match read (commandOptions name) [] {} arguments with
  | .error stop => ofStop (.command name) stop
  | .ok (own, _) =>
    match own.settle, g.settle with
    | .error stop, _ => ofStop (.command name) stop
    | _, .error stop => ofStop .program stop
    | .ok own, .ok g =>
      .invoke {
        config := (g.value? configOption.long).getD defaultConfig
        verbose := g.has verboseOption.long
        command := .ofName name own }

def ofArguments (arguments : List String) : Wish :=
  match read programOptions commandNames {} arguments with
  | .error stop => ofStop .program stop
  | .ok (g, none) =>
    match g.settle with
    | .error stop => ofStop .program stop
    | .ok _ => .misuse .noCommand
  | .ok (g, some (name, rest)) =>
    if name == "help" then ofHelp rest else ofCommand g name rest

end Wish

def programName : String := "newswatch"

def versionText : String := programName ++ " 0.1.0"

def padTo (width : Nat) (s : String) : String :=
  s ++ String.ofList (List.replicate (width - s.length) ' ')

def programHelp : List String :=
  ["Watch news pages and notify on new items",
   "",
   "Usage: " ++ programName ++ " [OPTIONS] <COMMAND>",
   "",
   "Commands:"] ++
  commands.map (fun (name, purpose) => "  " ++ padTo 10 name ++ purpose) ++
  ["",
   "Options:",
   "  -c, --config <CONFIG>  Path to the TOML configuration file [default: " ++ defaultConfig ++
     "]",
   "  -v, --verbose          Enable verbose logging",
   "  -h, --help             Print help",
   "  -V, --version          Print version"]

def commandHelp (name : String) : List String :=
  let purpose := ((commands.find? (·.1 == name)).map (·.2)).getD ""
  let usage := "Usage: " ++ programName ++ " " ++ name
  if name == "help" then [purpose, "", usage ++ " [COMMAND]"]
  else if name == "check" then
    [purpose, "", usage ++ " [OPTIONS]", "", "Options:",
     "      --site <SITE>  Only check the site with this name",
     "  -h, --help         Print help"]
  else [purpose, "", usage, "", "Options:", "  -h, --help  Print help"]

def Topic.text : Topic → List String
  | program => programHelp
  | command name => commandHelp name

def Misuse.text : Misuse → String
  | unexpected argument => "error: unexpected argument '" ++ argument ++ "' found"
  | missingValue option =>
    "error: a value is required for '--" ++ option ++ "' but none was supplied"
  | needlessValue option =>
    "error: unexpected value for '--" ++ option ++ "' found; no more were expected"
  | repeated option => "error: the argument '--" ++ option ++ "' cannot be used multiple times"
  | unknownCommand name => "error: unrecognized subcommand '" ++ name ++ "'"
  | noCommand => "error: a subcommand is required"

end PageWatch.CommandLine
