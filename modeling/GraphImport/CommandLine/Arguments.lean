import GraphImport.Delivery.Settings
import GraphImport.Entries

/-!
# Command-line arguments

What the words on the command line ask for. Options may stand anywhere behind the command, each at
most once; `--` ends them.

* `OptionSpec`, `Words` — options of a command, and words sorted into options and operands.
* `Format`, `ScriptOptions`, `LoadTarget`, `Command` — what a command is to do.
* `Command.ofWords?`, `Invocation.ofWords?` — the command that words stand for.
* `unsigned?` — natural numbers of 64 bits.
-/

namespace GraphImport.CommandLine

/-! ## Words -/

/-- An option of a command. -/
structure OptionSpec where
  /-- The name behind two dashes. -/
  name : String
  /-- The letter behind one dash. -/
  letter : Option Char
  /-- The option has a value. -/
  takesValue : Bool

/-- Words, sorted. -/
structure Words where
  /-- The options, in order, with their values. -/
  options : Entries String
  /-- The other words, in order. -/
  operands : List String

namespace Words

/-- The option was given. -/
def has (w : Words) (name : String) : Bool := (w.options.find? name).isSome

/-- Adds an option; none may be given twice. -/
def addOption (w : Words) (spec : OptionSpec) (value : String) : Option Words :=
  if w.has spec.name then none
  else some { w with options := w.options.insert spec.name value }

/-- Adds an operand. -/
def addOperand (w : Words) (operand : String) : Words :=
  { w with operands := w.operands ++ [operand] }

end Words

/-- How a word is to be taken. -/
inductive Word where
  /-- All further words are operands. -/
  | separator
  /-- An option, with the value that is part of the word. -/
  | option (spec : OptionSpec) (value : Option String)
  /-- An operand. -/
  | operand (text : String)

/-- An option of two dashes; a value may follow an equals sign. -/
def longOption? (specs : List OptionSpec) (text : List Char) : Option Word := do
  let name := text.takeWhile (· != '=')
  let value := text.drop name.length
  let spec ← specs.find? fun spec => spec.name = String.ofList name
  return .option spec (if value.isEmpty then none else some (String.ofList (value.drop 1)))

/-- An option of one dash; a value may follow the letter, with or without an equals sign. -/
def shortOption? (specs : List OptionSpec) (letter : Char) (text : List Char) : Option Word := do
  let spec ← specs.find? fun spec => spec.letter = some letter
  let value :=
    match text with
    | '=' :: value => value
    | value => value
  return .option spec (if text.isEmpty then none else some (String.ofList value))

/-- How a word is to be taken, if it is not an unknown option. -/
def Word.ofText? (specs : List OptionSpec) (text : String) : Option Word :=
  match text.toList with
  | ['-', '-'] => some .separator
  | '-' :: '-' :: rest => longOption? specs rest
  | '-' :: letter :: rest => shortOption? specs letter rest
  | _ => some (.operand text)

/-- The word cannot be the value of an option. -/
def looksLikeOption (text : String) : Bool :=
  match text.toList with
  | '-' :: _ :: _ => true
  | _ => false

/-- Sorts words, if all options are known, complete and given once. -/
def sortWords (specs : List OptionSpec) : Words → List String → Option Words
  | sorted, [] => some sorted
  | sorted, word :: rest =>
    match Word.ofText? specs word with
    | none => none
    | some .separator => some { sorted with operands := sorted.operands ++ rest }
    | some (.operand text) => sortWords specs (sorted.addOperand text) rest
    | some (.option spec value) =>
      match spec.takesValue, value with
      | false, some _ => none
      | false, none =>
        match sorted.addOption spec "" with
        | none => none
        | some sorted => sortWords specs sorted rest
      | true, some value =>
        match sorted.addOption spec value with
        | none => none
        | some sorted => sortWords specs sorted rest
      | true, none =>
        match rest with
        | [] => none
        | value :: rest =>
          if looksLikeOption value then none
          else
            match sorted.addOption spec value with
            | none => none
            | some sorted => sortWords specs sorted rest

/-! ## Values -/

/-- A natural number of 64 bits; there may be a plus sign in front of its digits. -/
def unsigned? (text : String) : Option Nat :=
  let digits :=
    match text.toList with
    | '+' :: digits => digits
    | digits => digits
  if digits.isEmpty || !digits.all Char.isDigit then none
  else
    let n := Nat.ofDigitChars 10 digits 0
    if n < 2 ^ 64 then some n else none

/-- How statements are written. -/
inductive Format where
  /-- One statement per line. -/
  | lines
  /-- All statements as one. -/
  | combined
  /-- The body of the request that delivers them. -/
  | request
deriving DecidableEq

/-- The formats by name. -/
def Format.byName : Entries Format := [("lines", lines), ("combined", combined), ("json", request)]

/-! ## Commands -/

/-- How a script is written. -/
structure ScriptOptions where
  /-- The file to write to; without one, the standard output. -/
  output : Option String
  /-- How statements are written. -/
  format : Format
  /-- Strings are escaped. -/
  escapeStrings : Bool
deriving DecidableEq

/-- Line by line to the standard output, with strings as they are. -/
def ScriptOptions.default : ScriptOptions := ⟨none, .lines, false⟩

/-- How a script is delivered. -/
structure LoadTarget where
  /-- Where to and how. -/
  delivery : Delivery.Settings
  /-- Strings are escaped. -/
  escapeStrings : Bool
deriving DecidableEq

/-- To the server on this machine, with strings as they are. -/
def LoadTarget.default : LoadTarget := ⟨.default, false⟩

/-- What is to be done with the document in a file. -/
inductive Command where
  /-- Write its script. -/
  | compile (file : String) (options : ScriptOptions)
  /-- Deliver its script. -/
  | load (file : String) (options : LoadTarget)
deriving DecidableEq

namespace Command

/-- The file that a command reads. -/
def file : Command → String
  | compile file _ => file
  | load file _ => file

/-- The options of `compile`. -/
def compileSpecs : List OptionSpec := [
  ⟨"output", some 'o', true⟩, ⟨"format", some 'f', true⟩, ⟨"escape-strings", none, false⟩]

/-- The options of `load`. -/
def loadSpecs : List OptionSpec := [
  ⟨"timeout", some 't', true⟩, ⟨"fail-on-server-errors", none, false⟩,
  ⟨"escape-strings", none, false⟩]

/-- The `compile` command of sorted words. -/
def compileOf? (w : Words) : Option Command := do
  let format ← (w.options.find? "format").elim (some .lines) Format.byName.find?
  match w.operands with
  | [file] => return .compile file ⟨w.options.find? "output", format, w.has "escape-strings"⟩
  | _ => none

/-- The `load` command of sorted words. -/
def loadOf? (w : Words) : Option Command := do
  let timeout ← (w.options.find? "timeout").elim (some Delivery.defaultTimeout) unsigned?
  let options := fun uri : String =>
    LoadTarget.mk ⟨uri, timeout, w.has "fail-on-server-errors"⟩ (w.has "escape-strings")
  match w.operands with
  | [file] => return .load file (options Delivery.defaultUri)
  | [file, uri] => return .load file (options uri)
  | _ => none

/-- The command that words stand for, if they stand for one. -/
def ofWords? : List String → Option Command
  | [] => none
  | name :: words =>
    if name = "compile" then (sortWords compileSpecs ⟨[], []⟩ words).bind compileOf?
    else if name = "load" then (sortWords loadSpecs ⟨[], []⟩ words).bind loadOf?
    else none

end Command

/-- What the program is asked for. -/
inductive Invocation where
  /-- Its version. -/
  | version
  /-- A command. -/
  | command (c : Command)
deriving DecidableEq

/-- What words ask the program for, if they ask for something. -/
def Invocation.ofWords? (words : List String) : Option Invocation :=
  match words with
  | [] => none
  | first :: _ =>
    if first = "--version" || first.startsWith "-V" then some .version
    else (Command.ofWords? words).map .command

end GraphImport.CommandLine
