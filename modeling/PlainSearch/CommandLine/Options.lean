/-
  CommandLine/Options.lean --- the options in front of a command.

  WHAT THIS FILE IS FOR.  A call of the program is a list of arguments: options,
  a command, and what the command takes.  This file reads the options.

  RULES.
    * An argument of at least two characters that begins with a hyphen is an
      option; the first other argument ends the options, and so does `--`, which is
      dropped.
    * A long option stands alone; its value follows `=`, or is the next argument,
      whatever that is.
    * Short options may share one hyphen.  One that takes a value takes the rest of
      its argument, or else the next argument.
    * A switch takes no value.  Of two values the later counts.
-/
import PlainSearch.Text.Basic

set_option autoImplicit false

namespace PlainSearch.CommandLine

/-! ## What can be given -/

/-- An option that takes a value. -/
inductive Setting where
  | suffix
  | sampleSize
  deriving DecidableEq, Repr

/-- An option that takes none. -/
inductive Switch where
  /-- results for a screen in place of documents -/
  | pretty
  /-- statements as the engine gets them -/
  | echo
  /-- all log entries -/
  | verbose
  deriving DecidableEq, Repr

/-- An option. -/
inductive OptionKind where
  | setting (s : Setting)
  | switch (s : Switch)
  deriving DecidableEq, Repr

/-- The options by their long names. -/
def longNames : List (Text × OptionKind) :=
  [ ("--suffix".toList, .setting .suffix), ("--sample-size".toList, .setting .sampleSize),
    ("--pretty".toList, .switch .pretty), ("--echo".toList, .switch .echo),
    ("--verbose".toList, .switch .verbose) ]

/-- The options by their letters. -/
def letters : List (Char × OptionKind) :=
  [ ('s', .setting .suffix), ('p', .switch .pretty), ('e', .switch .echo),
    ('v', .switch .verbose) ]

/-- The option of a long name. -/
def longOption? (name : Text) : Option OptionKind :=
  (longNames.find? fun o => o.1 = name).map (·.2)

/-- The option of a letter. -/
def letterOption? (c : Char) : Option OptionKind := (letters.find? fun o => o.1 = c).map (·.2)

/-! ## What is given -/

/-- The options of a call, with the values of settings as they were given. -/
structure Options where
  suffix : Option Text := none
  sampleSize : Option Text := none
  pretty : Bool := false
  echo : Bool := false
  verbose : Bool := false
  deriving DecidableEq, Repr

namespace Options

/-- The options with a setting given. -/
def give (o : Options) (value : Text) : Setting → Options
  | .suffix => { o with suffix := some value }
  | .sampleSize => { o with sampleSize := some value }

/-- The options with a switch turned on. -/
def turnOn (o : Options) : Switch → Options
  | .pretty => { o with pretty := true }
  | .echo => { o with echo := true }
  | .verbose => { o with verbose := true }

/-- What reading an argument comes to. -/
inductive Progress where
  | next (o : Options)
  /-- the value of a setting is still to come -/
  | awaiting (o : Options) (s : Setting)
  deriving DecidableEq, Repr

/-- Reads the long option `name`, with the value behind its equals sign if it has one. -/
def readLong? (o : Options) (value : Option Text) : OptionKind → Option Progress
  | .setting s =>
    match value with
    | some v => some (.next (o.give v s))
    | none => some (.awaiting o s)
  | .switch s =>
    match value with
    | some _ => none
    | none => some (.next (o.turnOn s))

/-- Reads letters that share a hyphen. -/
def readLetters? (o : Options) : Text → Option Progress
  | [] => some (.next o)
  | c :: t =>
    match letterOption? c with
    | none => none
    | some (.switch s) => readLetters? (o.turnOn s) t
    | some (.setting s) => if t = [] then some (.awaiting o s) else some (.next (o.give t s))

/-- Reads an argument that is an option. -/
def readOne? (o : Options) (arg : Text) : Option Progress :=
  let name := arg.takeWhile (· ≠ '=')
  let value := if '=' ∈ arg then some ((arg.dropWhile (· ≠ '=')).drop 1) else none
  match longOption? name with
  | some k => o.readLong? value k
  | none =>
    match arg with
    | '-' :: '-' :: _ => none
    | _ :: t => o.readLetters? t
    | [] => none

/-- An argument is an option. -/
def isOption : Text → Bool
  | '-' :: _ :: _ => true
  | _ => false

/-- Reads the options at the front of a list of arguments: the options and the arguments behind
them; nothing if one is unknown, lacks its value or has one too many. -/
def read? (o : Options) : List Text → Option (Options × List Text)
  | [] => some (o, [])
  | arg :: args =>
    if arg = ['-', '-'] then some (o, args)
    else if isOption arg then
      match o.readOne? arg with
      | none => none
      | some (.next o) => read? o args
      | some (.awaiting o s) =>
        match args with
        | [] => none
        | v :: args => read? (o.give v s) args
    else some (o, arg :: args)

end Options
end PlainSearch.CommandLine
