/-!
Command lines: what a list of arguments asks for.
-/

namespace RefStability

inductive Invocation where
  | version
  | check (program config format : String)
  | paths (program method config : String)
deriving DecidableEq, Repr

/-- The configuration file that is read unless another one is named. -/
def defaultConfigFile : String := "refcheck.toml"

/-- The arguments of a subcommand as far as they have been read: also the option whose value comes
next, and whether only words are left. -/
structure Arguments where
  program : Option String
  options : List (String × String)
  isVerbose : Bool
  pending : Option String
  onlyWords : Bool
deriving DecidableEq, Repr

namespace Arguments

def empty : Arguments := ⟨none, [], false, none, false⟩

/-- A subcommand takes one program; its name is not empty. -/
def addProgram (arguments : Arguments) (name : String) : Option Arguments :=
  if arguments.program.isNone && !name.isEmpty then some { arguments with program := some name }
  else none

/-- An option is given at most once. -/
def addOption (arguments : Arguments) (name value : String) : Option Arguments :=
  if (arguments.options.lookup name).isNone then
    some { arguments with options := arguments.options ++ [(name, value)], pending := none }
  else none

def beVerbose (arguments : Arguments) : Option Arguments :=
  if arguments.isVerbose then none else some { arguments with isVerbose := true }

/-- One-letter flags written together. -/
def addFlags (arguments : Arguments) (flags : List Char) : Option Arguments :=
  flags.foldlM (fun arguments flag => if flag == 'v' then arguments.beVerbose else none) arguments

def option? (arguments : Arguments) (name : String) : Option String := arguments.options.lookup name

def config? (arguments : Arguments) : Option String :=
  ((arguments.option? "config").or (some defaultConfigFile)).filter fun name => !name.isEmpty

end Arguments

/-- How an argument is written. A long one starts with two hyphens and may carry a value after an
equals sign; a single hyphen is an ordinary word. -/
inductive ArgumentForm where
  | long (name : String) (value : Option String)
  | short (flags : List Char)
  | word
deriving DecidableEq, Repr

def ArgumentForm.ofText (text : String) : ArgumentForm :=
  match text.toList with
  | '-' :: '-' :: body =>
    let name := String.ofList (body.takeWhile (· != '='))
    match body.dropWhile (· != '=') with
    | [] => .long name none
    | _ :: value => .long name (some (String.ofList value))
  | '-' :: flag :: flags => .short (flag :: flags)
  | _ => .word

namespace Arguments

def step (names : List String) (arguments : Arguments) (text : String) : Option Arguments :=
  if arguments.onlyWords then arguments.addProgram text
  else
    match arguments.pending, ArgumentForm.ofText text with
    | some name, .word => arguments.addOption name text
    | some _, _ => none
    | none, .word => arguments.addProgram text
    | none, .short flags => arguments.addFlags flags
    | none, .long "" none => some { arguments with onlyWords := true }
    | none, .long "verbose" none => arguments.beVerbose
    | none, .long name value =>
      if names.contains name then
        match value with
        | some value => arguments.addOption name value
        | none => some { arguments with pending := some name }
      else none

/-- Reads the arguments of a subcommand with the given options. After `--` all are words. -/
def read (names : List String) (texts : List String) : Option Arguments :=
  (texts.foldlM (step names) empty).filter fun arguments => arguments.pending.isNone

end Arguments

namespace Invocation

def checkOf? (arguments : List String) : Option Invocation := do
  let arguments ← Arguments.read ["config", "format"] arguments
  return .check (← arguments.program) (← arguments.config?)
    ((arguments.option? "format").getD "text")

def pathsOf? (arguments : List String) : Option Invocation := do
  let arguments ← Arguments.read ["config", "method"] arguments
  return .paths (← arguments.program) (← arguments.option? "method") (← arguments.config?)

/-- One-letter flags before the subcommand; `none` for a request for the version. -/
def leadingFlags? (isVerbose : Bool) : List Char → Option (Option Bool)
  | [] => some (some isVerbose)
  | flag :: rest =>
    if flag == 'V' then some none
    else if flag == 'v' && !isVerbose then leadingFlags? true rest
    else none

/-- Reads the arguments before the subcommand, and the subcommand with its own. -/
def ofArgumentsFrom? (isVerbose : Bool) : List String → Option Invocation
  | [] => none
  | text :: rest =>
    match ArgumentForm.ofText text with
    | .word =>
      if text = "check" then checkOf? rest
      else if text = "paths" then pathsOf? rest
      else none
    | .long "version" none => some .version
    | .long "verbose" none => if isVerbose then none else ofArgumentsFrom? true rest
    | .long _ _ => none
    | .short flags =>
      match leadingFlags? isVerbose flags with
      | none => none
      | some none => some .version
      | some (some isVerbose) => ofArgumentsFrom? isVerbose rest

def ofArguments? (arguments : List String) : Option Invocation := ofArgumentsFrom? false arguments

end Invocation

end RefStability
