import PolicyRollout.Settings
import PolicyRollout.Text.Basic
/-!
The arguments of the command line: a command and its options.  Arguments are
read from left to right and the first one that is wrong, or that asks for help,
ends the reading.  An option may be given once, but for those that collect
several values.
-/
namespace PolicyRollout.Cli

inductive ReportFormat where
  | text
  | json
deriving DecidableEq, Repr

/-- What a deployment is asked to do. -/
structure DeployArguments where
  topology : Option String
  dryRun : Bool
  concurrency : Option Nat
  verifyTemplates : Bool
  format : ReportFormat
deriving DecidableEq, Repr

structure TemplatesArguments where
  category : Option String
  tags : List String
  id : Option String
deriving DecidableEq, Repr

inductive Command where
  | deploy (arguments : DeployArguments)
  | templates (arguments : TemplatesArguments)
  | plan (topology : Option String)
deriving DecidableEq, Repr

/-- What help is about. -/
inductive Topic where
  | program
  | deploy
  | templates
  | plan
  | help
deriving DecidableEq, Repr

def Topic.ofName? : String → Option Topic
  | "deploy" => some .deploy
  | "templates" => some .templates
  | "plan" => some .plan
  | "help" => some .help
  | _ => none

/-- Why arguments make no sense. -/
inductive UsageError where
  | noCommand
  | unknownCommand (name : String)
  | unexpected (argument : String)
  | missingValue (option : String)
  | unwantedValue (option : String)
  | repeated (option : String)
  | invalidValue (option value : String)
deriving DecidableEq, Repr

def UsageError.message : UsageError → String
  | .noCommand => "a command is required"
  | .unknownCommand name => "unrecognized command '" ++ name ++ "'"
  | .unexpected argument => "unexpected argument '" ++ argument ++ "'"
  | .missingValue option => "a value is required for '" ++ option ++ "'"
  | .unwantedValue option => "'" ++ option ++ "' takes no value"
  | .repeated option => "'" ++ option ++ "' cannot be used multiple times"
  | .invalidValue option value => "invalid value '" ++ value ++ "' for '" ++ option ++ "'"

/-- What the arguments come to. -/
inductive Invocation where
  | run (command : Command)
  | help (topic : Topic)
  | version
  | misuse (error : UsageError)
deriving DecidableEq, Repr

/-- What ends the reading of arguments before their end. -/
inductive Stop where
  | help
  | misuse (error : UsageError)
deriving DecidableEq, Repr

inductive Shape where
  /-- A word that is no option. -/
  | word (text : String)
  /-- An option by its long name, and what follows an equals sign. -/
  | long (name : String) (value : Option String)
  /-- An option by its short name, and what follows it at once. -/
  | short (name : Char) (rest : Option String)
  /-- Two hyphens: no option follows. -/
  | endOfOptions
deriving DecidableEq, Repr

/-- The part of a text before the first equals sign, and the part after it. -/
def splitEquals : List Char → List Char × Option (List Char)
  | [] => ([], none)
  | c :: rest =>
    if c = '=' then ([], some rest)
    else let (before, after) := splitEquals rest; (c :: before, after)

/-- The shape of an argument; a single hyphen is a word. -/
def Shape.of (argument : String) : Shape :=
  match argument.toList with
  | ['-', '-'] => .endOfOptions
  | '-' :: '-' :: body =>
    let (name, value) := splitEquals body
    .long (String.ofList name) (value.map String.ofList)
  | ['-', name] => .short name none
  | '-' :: name :: '=' :: rest => .short name (some (String.ofList rest))
  | '-' :: name :: rest => .short name (some (String.ofList rest))
  | _ => .word argument

/-- Whether an argument can be the value of the option before it. -/
def isValue (argument : String) : Bool :=
  match Shape.of argument with
  | .word _ => true
  | _ => false

/-- An option that a command knows.  What it does to the arguments read so far
is given by `apply`, which refuses values that make no sense. -/
structure OptionSpec (α : Type) where
  long : String
  short : Option Char
  takesValue : Bool
  repeatable : Bool
  apply : (value : String) → α → Option α

namespace OptionSpec

/-- An option without a value. -/
def flag {α : Type} (long : String) (set : α → α) : OptionSpec α :=
  ⟨long, none, false, false, fun _ a => some (set a)⟩

def valued {α : Type} (long : String) (short : Option Char) (set : String → α → Option α) :
    OptionSpec α :=
  ⟨long, short, true, false, set⟩

/-- An option that collects values. -/
def collecting {α : Type} (long : String) (add : String → α → α) : OptionSpec α :=
  ⟨long, none, true, true, fun value a => some (add value a)⟩

/-- The long name as it is written. -/
def name {α : Type} (o : OptionSpec α) : String := "--" ++ o.long

end OptionSpec

/-- What an argument is to a command that knows some options. -/
inductive Part (α : Type) where
  | given (option : OptionSpec α) (value : String)
  /-- An option of which the value is the next argument. -/
  | awaiting (option : OptionSpec α)
  | endOfOptions

def OptionSpec.attach {α : Type} (o : OptionSpec α) : (attached : Option String) →
    Except Stop (Part α)
  | none => .ok (if o.takesValue then .awaiting o else .given o "")
  | some value =>
    if o.takesValue then .ok (.given o value) else .error (.misuse (.unwantedValue o.name))

/-- How options are read: those that are known, those that have been given, and
what has been read. -/
structure Reading (α : Type) where
  options : List (OptionSpec α)
  given : List String
  value : α

namespace Reading

def findLong? {α : Type} (r : Reading α) (name : String) : Option (OptionSpec α) :=
  r.options.find? (·.long = name)

def findShort? {α : Type} (r : Reading α) (name : Char) : Option (OptionSpec α) :=
  r.options.find? (·.short = some name)

/-- An option has been given. -/
def give {α : Type} (o : OptionSpec α) (value : String) (r : Reading α) :
    Except Stop (Reading α) :=
  if r.given.contains o.long && !o.repeatable then .error (.misuse (.repeated o.name))
  else match o.apply value r.value with
    | some a => .ok { r with given := o.long :: r.given, value := a }
    | none => .error (.misuse (.invalidValue o.name value))

/-- What one argument is to a command. -/
def recognise {α : Type} (r : Reading α) (argument : String) : Except Stop (Part α) :=
  match Shape.of argument with
  | .word text => .error (.misuse (.unexpected text))
  | .endOfOptions => .ok .endOfOptions
  | .long name value => match r.findLong? name with
    | some o => o.attach value
    | none =>
      if name ≠ "help" then .error (.misuse (.unexpected argument))
      else .error (if value.isSome then .misuse (.unwantedValue argument) else .help)
  | .short name value => match r.findShort? name with
    | some o => o.attach value
    | none => .error (if name = 'h' then .help else .misuse (.unexpected argument))

/-- The arguments of a command, read to their end. -/
def readAll {α : Type} (r : Reading α) : List String → Except Stop α
  | [] => .ok r.value
  | argument :: rest =>
    match r.recognise argument with
    | .error stop => .error stop
    | .ok .endOfOptions => match rest with
      | [] => .ok r.value
      | next :: _ => .error (.misuse (.unexpected next))
    | .ok (.given o value) => match r.give o value with
      | .error stop => .error stop
      | .ok r => readAll r rest
    | .ok (.awaiting o) => match rest with
      | [] => .error (.misuse (.missingValue o.name))
      | value :: rest =>
        if isValue value then
          match r.give o value with
          | .error stop => .error stop
          | .ok r => readAll r rest
        else .error (.misuse (.missingValue o.name))

end Reading

def ReportFormat.ofName? : String → Option ReportFormat
  | "text" => some .text
  | "json" => some .json
  | _ => none

/-- The path of a file; it is not empty. -/
def path? (text : String) : Option String :=
  if text.isEmpty then none else some text

def deployOptions : List (OptionSpec DeployArguments) :=
  [.valued "topology" (some 't') fun value a =>
      (path? value).map fun path => { a with topology := some path },
    .flag "dry-run" fun a => { a with dryRun := true },
    .valued "concurrency" none fun value a =>
      (Settings.natural64? value.toList).map fun n => { a with concurrency := some n },
    .flag "verify-templates" fun a => { a with verifyTemplates := true },
    .valued "format" (some 'f') fun value a =>
      (ReportFormat.ofName? value).map fun format => { a with format }]

def templatesOptions : List (OptionSpec TemplatesArguments) :=
  [.valued "category" none fun value a => some { a with category := some value },
    .collecting "tag" fun value a => { a with tags := a.tags ++ [value] },
    .valued "id" none fun value a => some { a with id := some value }]

def planOptions : List (OptionSpec (Option String)) :=
  [.valued "topology" (some 't') fun value _ => (path? value).map some]

namespace Invocation

/-- The topology to use: the one that is given, or else the one that is set. -/
def topologyOr (lookup : String → Option String) : (given : Option String) →
    Except Stop (Option String)
  | some path => .ok (some path)
  | none => match lookup SettingKey.topologyPath.name with
    | none => .ok none
    | some text => match path? text with
      | some path => .ok (some path)
      | none => .error (.misuse (.invalidValue "--topology" text))

/-- What a command that has been read comes to. -/
def ofCommand (topic : Topic) : Except Stop Command → Invocation
  | .ok command => .run command
  | .error .help => .help topic
  | .error (.misuse error) => .misuse error

def deploy (lookup : String → Option String) (arguments : List String) : Except Stop Command := do
  let a ← Reading.readAll ⟨deployOptions, [], ⟨none, false, none, false, .text⟩⟩ arguments
  let topology ← topologyOr lookup a.topology
  return .deploy { a with topology }

def templates (arguments : List String) : Except Stop Command := do
  let a ← Reading.readAll ⟨templatesOptions, [], ⟨none, [], none⟩⟩ arguments
  return .templates a

def plan (lookup : String → Option String) (arguments : List String) : Except Stop Command := do
  let given ← Reading.readAll ⟨planOptions, [], none⟩ arguments
  let topology ← topologyOr lookup given
  return .plan topology

def helpOn : List String → Invocation
  | [] => .help .program
  | [name] => match Topic.ofName? name with
    | some topic => .help topic
    | none => .misuse (.unknownCommand name)
  | name :: next :: _ =>
    .misuse (if (Topic.ofName? name).isSome then .unexpected next else .unknownCommand name)

/-- What an argument asks for that stands in the place of a command. -/
def ofShape (argument : String) : Invocation :=
  match Shape.of argument with
  | .word text => .misuse (.unknownCommand text)
  | .long "help" none | .short 'h' _ => .help .program
  | .long "version" none | .short 'V' _ => .version
  | _ => .misuse (.unexpected argument)

/-- What the arguments of the program come to; `lookup` finds what is set in
the environment. -/
def ofArguments (lookup : String → Option String) : (arguments : List String) → Invocation
  | [] => .misuse .noCommand
  | "deploy" :: rest => ofCommand .deploy (deploy lookup rest)
  | "templates" :: rest => ofCommand .templates (templates rest)
  | "plan" :: rest => ofCommand .plan (plan lookup rest)
  | "help" :: rest => helpOn rest
  | argument :: _ => ofShape argument

end Invocation

end PolicyRollout.Cli
