import PackageAtlas.Diagram.Basic
import PackageAtlas.Path

/-!
# Command lines

What the arguments of the program ask for. Options stand behind the name of an action; each of
them is given at most once, with its value behind it or attached to it. The flag that asks for more
messages may stand anywhere and any number of times.
-/
namespace PackageAtlas.Command

/-! ### Words -/

inductive Word where
  /-- Two dashes: no options follow. -/
  | terminator
  | long (name : String) (value : Option String)
  | short (letters : List Char)
  | plain (text : String)

/-- A name with the value behind the first equals sign. -/
def splitValue (text : List Char) : String × Option String :=
  let name := String.ofList (text.takeWhile (· ≠ '='))
  match text.dropWhile (· ≠ '=') with
  | [] => (name, none)
  | _ :: value => (name, some (String.ofList value))

def Word.ofArgument (argument : String) : Word :=
  match argument.toList with
  | ['-', '-'] => .terminator
  | '-' :: '-' :: text =>
    let (name, value) := splitValue text
    .long name value
  -- A single dash is no option.
  | '-' :: letter :: letters => .short (letter :: letters)
  | _ => .plain argument

/-! ### Requests -/

inductive Action where
  | render
  /-- Draw the views that differ from those of the checkout at `base`. -/
  | diff (base : Path)
  | validate
deriving DecidableEq, Repr

inductive Request where
  | run (action : Action) (config : Path) (format : Option OutputFormat)
  | version
  | help
  | misuse
deriving DecidableEq, Repr

/-- The file that the configuration is read from where none is named. -/
def standardConfig : Path := ⟨"archlens.toml"⟩

/-- An action without the options it needs. -/
inductive Verb where
  | render
  | diff
  | validate
deriving DecidableEq, Repr

def Verb.ofName? : String → Option Verb
  | "render" => some .render
  | "diff" => some .diff
  | "validate" => some .validate
  | _ => none

/-! ### Options -/

/-- An option with a value. -/
inductive Setting where
  | config
  | format
  | base
deriving DecidableEq, Repr

structure Settings where
  config : Option Path
  format : Option OutputFormat
  base : Option Path

def Settings.blank : Settings := ⟨none, none, none⟩

def path? (value : String) : Option Path :=
  if value.isEmpty then none else some ⟨value⟩

def format? : String → Option OutputFormat
  | "plantuml" => some .plantUml
  | "json" => some .json
  | _ => none

/-- Takes the value of a setting, unless it has one or the value is none for it. -/
def Settings.set (settings : Settings) (setting : Setting) (value : String) : Option Settings :=
  match setting with
  | .config =>
    if settings.config.isSome then none
    else (path? value).map fun path => { settings with config := some path }
  | .format =>
    if settings.format.isSome then none
    else (format? value).map fun format => { settings with format := some format }
  | .base =>
    if settings.base.isSome then none
    else (path? value).map fun path => { settings with base := some path }

/-- The setting of an action that a long name stands for. -/
def settingNamed? (verb : Verb) : String → Option Setting
  | "config" => some .config
  | "format" => some .format
  | "base" => if verb = .diff then some .base else none
  | _ => none

/-- What a word behind the name of an action, or in front of it, means. -/
inductive Meaning where
  | flag
  | version
  | help
  | setting (setting : Setting) (value : Option String)
  | unknown

/-- The meaning of letters behind one dash; `inside` tells whether they follow an action. -/
def Meaning.ofLetters (inside : Bool) : List Char → Meaning
  | [] => .flag
  | 'v' :: rest => ofLetters inside rest
  | 'h' :: _ => .help
  | 'V' :: _ => if inside then .unknown else .version
  | 'c' :: rest =>
    if !inside then .unknown
    -- What follows the letter of a setting is its value.
    else match rest with
      | [] => .setting .config none
      | '=' :: value => .setting .config (some (String.ofList value))
      | value => .setting .config (some (String.ofList value))
  | _ => .unknown

/-- The meaning of an option; `verb` is the action it follows, if any. -/
def Meaning.ofOption (verb : Option Verb) : Word → Meaning
  | .long "verbose" none => .flag
  | .long "help" none => .help
  | .long "version" none => if verb.isNone then .version else .unknown
  | .long name value =>
    match verb.bind (settingNamed? · name) with
    | some named => .setting named value
    | none => .unknown
  | .short letters => ofLetters verb.isSome letters
  | .terminator | .plain _ => .unknown

/-! ### Reading -/

def Settings.request (settings : Settings) (verb : Verb) : Request :=
  let run (action : Action) : Request :=
    .run action (settings.config.getD standardConfig) settings.format
  match verb with
  | .render => run .render
  | .validate => run .validate
  | .diff =>
    match settings.base with
    | some base => run (.diff base)
    | none => .misuse

def readOptions (verb : Verb) : Settings → List String → Request
  | settings, [] => settings.request verb
  | settings, argument :: rest =>
    match Word.ofArgument argument with
    | .terminator => if rest.isEmpty then settings.request verb else .misuse
    | .plain _ => .misuse
    | word =>
      match Meaning.ofOption (some verb) word with
      | .flag => readOptions verb settings rest
      | .help => .help
      | .version | .unknown => .misuse
      | .setting setting (some value) =>
        match settings.set setting value with
        | some settings => readOptions verb settings rest
        | none => .misuse
      -- The value is the next argument, which must not look like an option.
      | .setting setting none =>
        match rest with
        | [] => .misuse
        | next :: rest =>
          match Word.ofArgument next with
          | .plain value =>
            match settings.set setting value with
            | some settings => readOptions verb settings rest
            | none => .misuse
          | _ => .misuse

def readHelp : List String → Request
  | [] => .help
  | [name] => if name = "help" || (Verb.ofName? name).isSome then .help else .misuse
  | _ => .misuse

def Request.ofArguments : List String → Request
  | [] => .misuse
  | argument :: rest =>
    match Word.ofArgument argument with
    | .terminator => .misuse
    | .plain name =>
      if name = "help" then readHelp rest
      else match Verb.ofName? name with
        | some verb => readOptions verb .blank rest
        | none => .misuse
    | word =>
      match Meaning.ofOption none word with
      | .flag => ofArguments rest
      | .version => .version
      | .help => .help
      | _ => .misuse

end PackageAtlas.Command
