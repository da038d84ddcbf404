import Roman.CommandLine.Options
import Roman.Session

/-!
# The command line

There are two commands. Evaluating an expression needs nothing from outside and is a function from
the arguments to what is printed. A chat reads its configuration and then holds a conversation on the
console.

Results go to the output and everything else to the channel for messages. A command succeeds if it
gives a result that is not a wrong answer.
-/

namespace Roman

/-- A console with files, a channel for messages and a source of random words. -/
class Terminal (m : Type → Type) extends Console m where
  readFile : String → m (Except Fault Bytes)
  report : String → m Unit
  /-- Random words, the same ones whenever the seed is given and is the same. -/
  words : Option UInt64 → m WordSource

/-- Why a chat ends without a verdict. -/
inductive ChatError
  | options (cause : OptionError)
  | config (cause : ConfigError)
  | session (cause : SessionError)
  deriving DecidableEq

namespace ChatError

def message : ChatError → String
  | .options cause => cause.message
  | .config cause => cause.message
  | .session cause => cause.message

end ChatError

namespace CommandLine

/-- What a command prints, and whether it succeeds. -/
structure Result where
  output : String
  messages : String
  success : Bool
  deriving DecidableEq

def help : String :=
  "\n".intercalate
    ["Numerus - symbolic Roman numeral arithmetic",
      "",
      "USAGE:",
      "    numerus eval [--lenient] <EXPR>...",
      "    numerus chat [--config <PATH>] [--seed <N>]",
      "",
      "COMMANDS:",
      "    eval                Evaluate a +/- chain of numerals, e.g. \"X - V - I\"",
      "    chat                Ask the user for their name and one numeral question",
      "",
      "OPTIONS:",
      "    --lenient           Ignore characters that are not numerals or operators",
      "    --config <PATH>     Load runner configuration from JSON file",
      "    --seed <N>          Seed the challenge picker for a repeatable session",
      "    --help              Print this help message",
      "",
      "ENVIRONMENT VARIABLES:",
      "    RUST_LOG            Log level filter (default: warn)",
      "",
      "EXAMPLES:",
      "    numerus eval MCMLXXXVIII - MLXVI",
      "    numerus eval --lenient \"the answer is IV - III\"",
      "    numerus chat --config numerus.json",
      "",
      ""]

def errorLine (text : String) : String := "Error: " ++ text ++ "\n"

def hint : String := "Hint: --lenient ignores everything but numerals and operators\n"

/-! ### Evaluating -/

def isLenientFlag (arg : String) : Bool := arg == "--lenient" || arg == "-l"

/-- The mode in which the arguments are read; the flag may stand anywhere. -/
def modeOf (args : List String) : Expression.Mode :=
  if args.any isLenientFlag then .lenient else .strict

/-- The arguments that are no flags, with a space between them. -/
def expressionOf (args : List String) : String :=
  " ".intercalate (args.filter fun arg => !isLenientFlag arg)

def eval (args : List String) : Result :=
  match Expression.evaluate (modeOf args) (expressionOf args) with
  | .ok w => ⟨w.text ++ "\n", "", true⟩
  | .error e => ⟨"", errorLine e.message ++ if e.isInputError then hint else "", false⟩

/-! ### Chatting -/

variable {m : Type → Type} [Monad m] [Terminal m]

/-- The configuration of a file, or the standard one. -/
def loadConfig : Option String → m (Except ConfigError Config)
  | none => return .ok Config.standard
  | some path => return Config.ofFile path (← Terminal.readFile path)

/-- Prepares the conversation in full before the host says a word. -/
def converse (args : List String) : ExceptT ChatError m SessionOutcome := do
  let options ← ExceptT.mk (pure ((ChatOptions.parse args).mapError .options))
  let c ← ExceptT.adapt .config (ExceptT.mk (loadConfig options.configPath))
  let g ← ExceptT.mk (pure (c.generator.mapError .config))
  let names ← ExceptT.adapt .config (ExceptT.mk (c.loadNames Terminal.readFile))
  let source ← ExceptT.lift (Terminal.words options.seed)
  ExceptT.adapt .session ((Host.ofConfig c names).runGenerated g source)

def chat (args : List String) : m Bool := do
  match ← converse args with
  | .ok outcome => return outcome.verdict.isPass
  | .error e =>
    Terminal.report (errorLine e.message)
    return false

/-! ### Commands -/

/-- Prints a result. -/
def print (r : Result) : m Bool := do
  if r.output ≠ "" then
    let _ ← (Console.put r.output : ExceptT Fault m Unit).run
  if r.messages ≠ "" then Terminal.report r.messages
  return r.success

/-- Runs the command that the arguments name, and tells whether it succeeds. -/
def run : List String → m Bool
  | "eval" :: args => print (eval args)
  | "chat" :: args => chat args
  | [] | "--help" :: _ | "-h" :: _ => print ⟨"", help, true⟩
  | other :: _ => print ⟨"", "Unknown command: " ++ other ++ "\n" ++ help, false⟩

def exitCode (success : Bool) : UInt32 := if success then 0 else 1

/-- The whole process: runs the command and gives its exit code. -/
def process (args : List String) : m UInt32 := do
  return exitCode (← run args)

end CommandLine

end Roman
