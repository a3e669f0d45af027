/-
  CommandLine/Call.lean --- a call of the program from its arguments to its outcome.

  WHAT THIS FILE IS FOR.  A call is read in steps, and the first that fails decides
  its outcome: the options, the sample size, the name of the command, the settings,
  the arguments of the command, the request, and the database.  Then the command
  runs, and its result or its failure is told.

  OUTCOMES.
    * A call that does not have the form of one ends with code 2.
    * Settings that are out of range, a missing request, and a database that is not
      named or not there end with code 1 and one line on the error stream.
    * A failure of a command ends with code 1 and is told.
    * Everything else ends with code 0, also a request that is not understood.

  Log entries go to the error stream before anything else does; unless all are
  asked for, only warnings do.
-/
import PlainSearch.CommandLine.Command
import PlainSearch.CommandLine.Context
import PlainSearch.CommandLine.Result
import PlainSearch.Settings

set_option autoImplicit false

namespace PlainSearch

/-- The version of the program. -/
def version : Text := "0.1.0".toList

namespace CommandLine

/-- How a call ends. -/
structure Outcome where
  exitCode : Nat
  stdout : Text := []
  stderr : Text := []
  /-- a failure that it does not tell -/
  escaped : Option Fault := none
  deriving Repr

namespace Outcome

/-- A call that does not have the form of one. -/
def misused : Outcome := { exitCode := 2 }

/-- A call that is not carried out, for the reason given. -/
def refused (reason : Text) : Outcome :=
  { exitCode := 1, stderr := "Error: ".toList ++ reason ++ ['\n'] }

/-- A call that ends by a failure which is not told. -/
def broken (f : Fault) : Outcome := { exitCode := 1, escaped := some f }

end Outcome

/-! ## Settings -/

/-- Why there are no settings for a call. -/
inductive SettingFault where
  | unreadable
  | invalid (reason : Text)
  deriving DecidableEq, Repr

/-- The sample size of a call: what the options say, or else the environment. -/
def sampleSize (s : Surroundings) (o : Options) : Except SettingFault (Option Int) :=
  match o.sampleSize.or (Location.given? (s.environment Settings.sampleSizeVariable)) with
  | none => .ok none
  | some t =>
    match s.integer? t with
    | some n => .ok (some n)
    | none => .error .unreadable

/-- The settings of a call: what the options say, or else the environment. -/
def settings (s : Surroundings) (o : Options) : Except SettingFault Settings := do
  let suffix := o.suffix.or (Location.given? (s.environment Settings.suffixVariable))
  let size ← sampleSize s o
  let fields : Fields := Settings.given "mirror_suffix".toList suffix
    ++ size.toList.map fun n => ("sample_size".toList, .int n)
  match Settings.check (.record fields) with
  | .ok s => .ok s
  | .error ps => .error (.invalid ((ps.head?.map fun p => p.defect.message).getD []))

/-! ## Commands -/

/-- The log entries that a call shows. -/
def shownEntries (verbose : Bool) (journal : List Entry) : List Entry :=
  if verbose then journal else journal.filter fun e => e.level = .warning

/-- The outcome of a command that ran. -/
def conclude (o : Options) (t : Traced Result) : Outcome :=
  let log := Layout.text ((shownEntries o.verbose t.journal).map Entry.line)
  match t.outcome with
  | .ok r => { exitCode := 0, stdout := r.told o.pretty, stderr := log }
  | .error f =>
    if o.pretty then { exitCode := 1, stderr := log ++ failurePanel f }
    else { exitCode := 1, stdout := failureDocument f, stderr := log }

/-- Runs a command in the store it names, which is closed afterwards. -/
def inStore (s : Surroundings) (o : Options) (database : Option Text)
    (command : Store → Traced Result) (c : Context) : Outcome × Context :=
  match c.openStore s database with
  | (.error (.refused r), c) => (.refused r.message, c)
  | (.error (.failed f), c) => (.broken f, c)
  | (.ok store, c) =>
    (conclude o (command store), (c.use fun d => (Connection.engine s.library.make d).2).close)

/-- Runs a command on a request, in the store it names. -/
def onRequest (s : Surroundings) (o : Options) (database query : Option Text)
    (command : Text → Store → Traced Result) (c : Context) : Outcome × Context :=
  let (database, query) := Command.places s.environment database query
  match Command.spoken? query with
  | none => (.refused Refusal.missingQuery.message, c)
  | some q => inStore s o database (command q) c

/-- The statement of a request over the catalog of a store, as a result. -/
def translated (settings : Settings) (query : Text) (store : Store) : Traced Result := do
  let catalog ← Discovery.catalog settings store
  match ← Request.statement? settings catalog query with
  | none => return .notUnderstood
  | some sql => return .statement query sql

/-- The report of a request over the catalog of a store, as a result. -/
def asked (settings : Settings) (answer : Store.Answer) (query : Text) (store : Store) :
    Traced Result := do
  let catalog ← Discovery.catalog settings store
  match ← Request.statement? settings catalog query with
  | none => return .notUnderstood
  | some sql =>
    let report ← Search.execute store answer query sql
    return .report report

/-- The catalog of a store, as a result. -/
def listed (settings : Settings) (store : Store) : Traced Result := do
  let catalog ← Discovery.catalog settings store
  return .catalog catalog settings.suffix

/-- Runs a command.  The engine gives `answer` for searches. -/
def Command.run (s : Surroundings) (answer : Store.Answer) (o : Options) (settings : Settings)
    (command : Command) (c : Context) : Outcome × Context :=
  match command with
  | .version => ({ exitCode := 0, stdout := "nlfts v".toList ++ PlainSearch.version ++ ['\n'] }, c)
  | .schema database => inStore s o database (listed settings) c
  | .ask database query => onRequest s o database query (asked settings answer) c
  | .translate database query => onRequest s o database query (translated settings) c

/-- What a command is given as its database. -/
def Command.database (env : Location.Environment) : Command → Option Text
  | .version => none
  | .schema database => database
  | .ask database query => (places env database query).1
  | .translate database query => (places env database query).1

/-- The outcome of a call with the given arguments. -/
def call (s : Surroundings) (answer : Store.Answer) (args : List Text) : Outcome :=
  match Options.read? {} args with
  | none => .misused
  | some (_, []) => .misused
  | some (o, name :: rest) =>
    match settings s o, CommandName.ofText? name with
    | .error .unreadable, _ => .misused
    | _, none => .misused
    | .error (.invalid reason), some _ => .refused ("invalid option: ".toList ++ reason)
    | .ok settings, some name =>
      match Command.read? name rest with
      | none => .misused
      | some command => (command.run s answer o settings {}).1

end CommandLine
end PlainSearch
