import Sketchbook.CommandLine.Grammar
/-!
Reading of a command line. Its words lead from group to group down to a command; options may stand at
every place on the way, and an option that stands at several counts where it is innermost. A value
follows its option after `=` or as the next word, and after `--` every word is an argument.
-/
namespace Sketchbook.CommandLine

/-- Why a command line stands for no command. -/
inductive Refusal where
  /-- Help is asked for. -/
  | help
  /-- The version is asked for. -/
  | version
  /-- A group stands alone, so that help is shown. -/
  | bareGroup
  | missingCommand
  | missingArgument
  | unknownCommand
  | unknownArgument
  /-- An option has no value, or one that is not good. -/
  | badValue
  | repeatedOption
  /-- A value is given to an option that takes none. -/
  | unwantedValue
  deriving DecidableEq, Repr

/-- Whether a refusal answers what was asked for. -/
def Refusal.isAnswer (r : Refusal) : Bool := r = .help || r = .version

/-- What a word looks like. -/
inductive Word where
  /-- Two dashes alone. -/
  | escape
  | long (name : String) (value : Option String)
  | short (letter : Char)
  | plain

/-- Splits the text of a long option at its first `=`. -/
def splitValue (cs : List Char) : String × Option String :=
  (String.ofList (cs.takeWhile (· ≠ '=')),
    ((cs.dropWhile (· ≠ '=')).tail?).map String.ofList)

/-- What a word looks like. -/
def Word.ofText (text : String) : Word :=
  match text.toList with
  | ['-', '-'] => .escape
  | '-' :: '-' :: rest => .long (splitValue rest).1 (splitValue rest).2
  | '-' :: letter :: _ => .short letter
  | _ => .plain

/-- What has been read at a place. -/
structure Level where
  options : List (OptionName × String) := []
  /-- The option that was begun last, with its value if that has come. -/
  begun : Option (OptionName × Option String) := none
  arguments : List String := []
  /-- Whether all words that follow are arguments. -/
  escaped : Bool := false

namespace Level

/-- Takes an option with its value. -/
def takeOption (l : Level) (o : OptionName) (value : String) : Except Refusal Level :=
  if (l.options.lookup o).isSome then .error .repeatedOption
  else if o.accepts value then .ok { l with options := l.options ++ [(o, value)] }
  else .error .badValue

/-- Takes the option that was begun last. -/
def settle (l : Level) : Except Refusal Level :=
  match l.begun with
  | none => .ok l
  | some (_, none) => .error .badValue
  | some (o, some value) => { l with begun := none }.takeOption o value

/-- The option whose value the next word is. -/
def awaiting (l : Level) : Option OptionName :=
  match l.begun with
  | some (o, none) => some o
  | _ => none

/-- Answers a question for help or for the version. -/
def answer (l : Level) (r : Refusal) : Except Refusal Level :=
  match l.settle with
  | .ok _ => .error r
  | .error e => .error e

/-- Takes an option with two dashes. -/
def takeLong (l : Level) (place : Place) (name : String) (value : Option String) :
    Except Refusal Level :=
  if name = helpWord then if value.isSome then .error .unwantedValue else l.answer .help
  else if name = "version" ∧ place = .group .top then
    if value.isSome then .error .unwantedValue else l.answer .version
  else
    match place.options.find? fun o => o.word = name with
    | none => .error .unknownArgument
    | some o => do
      let l ← l.settle
      match value with
      | some value => l.takeOption o value
      | none => .ok { l with begun := some (o, none) }

/-- Takes an option with one dash. -/
def takeShort (l : Level) (place : Place) (letter : Char) : Except Refusal Level :=
  if letter = 'h' then l.answer .help
  else if letter = 'V' ∧ place = .group .top then l.answer .version
  else .error .unknownArgument

/-- Takes an argument. A group has none; a word that would be good there without the escape is told
apart from others. -/
def takeArgument (l : Level) (place : Place) (text : String) : Except Refusal Level :=
  match place with
  | .verb v =>
    if l.arguments.length < v.capacity then do
      let l ← l.settle
      .ok { l with arguments := l.arguments ++ [text] }
    else .error .unknownArgument
  | place =>
    .error (if l.escaped ∧ (place.entry? text).isSome then .unknownArgument else .unknownCommand)

end Level

/-- What a command line asks for: a command, and options for the place where it works. -/
structure Invocation where
  command : Command
  options : List (OptionName × String)

namespace Invocation

/-- The value of an option, if it is given. -/
def value? (i : Invocation) (o : OptionName) : Option String := i.options.lookup o

/-- The configuration file that is asked for. -/
def config (i : Invocation) : Option Path := (i.value? .config).map .mk

/-- The directory of data that is asked for. -/
def dataDir (i : Invocation) : Option Path := (i.value? .dataDir).map .mk

end Invocation

/-- What is read at a place when no word follows. -/
def close (l : Level) (place : Place) : Except Refusal Invocation := do
  let l ← l.settle
  match place with
  | .group _ => if l.options.isEmpty then .error .bareGroup else .error .missingCommand
  | .verb v =>
    match v.command? (fun o => l.options.lookup o) l.arguments with
    | some command => .ok ⟨command, l.options⟩
    | none => .error .missingArgument
  | .help => .error .help

/-- Where the words after `help` lead. -/
def helpOn : Place → List String → Refusal
  | _, [] => .help
  | place, word :: rest =>
    match place.entry? word with
    | some inner => helpOn inner rest
    | none => .unknownCommand

/-- Reads the words that follow at a place. -/
def readAt (place : Place) (l : Level) : List String → Except Refusal Invocation
  | [] => close l place
  | text :: rest =>
    if l.escaped then do readAt place (← l.takeArgument place text) rest
    else
      match if l.awaiting.isNone then place.entry? text else none with
      | some .help => .error (helpOn place rest)
      | some inner => do
        let read ← readAt inner {} rest
        let l ← l.settle
        .ok { read with options := read.options ++ l.options }
      | none =>
        match Word.ofText text with
        | .escape => readAt place { l with escaped := true } rest
        | .long name value => do readAt place (← l.takeLong place name value) rest
        | .short letter => do readAt place (← l.takeShort place letter) rest
        | .plain =>
          match l.awaiting with
          | some o => readAt place { l with begun := some (o, some text) } rest
          | none => do readAt place (← l.takeArgument place text) rest

/-- Reads a command line, without the name of the program. -/
def read (words : List String) : Except Refusal Invocation := readAt (.group .top) {} words

end Sketchbook.CommandLine
