import Roman.Config.Format
import Roman.Console.Basic

/-!
# The conversation

A host greets, asks for a name, says whether the name is known, asks one question and judges the
answer. Two lines are read and nothing is asked twice: whatever fails ends the conversation.
-/

namespace Roman

inductive SessionError
  | io (fault : Fault)
  | endOfInput
  | challenge (cause : ChallengeError)
  deriving DecidableEq

namespace SessionError

def message : SessionError → String
  | .io fault => "IO error: " ++ fault.reason
  | .endOfInput => "Input ended before the session finished"
  | .challenge cause => "Challenge error: " ++ cause.message

end SessionError

/-- What is known at the end of a conversation. -/
structure SessionOutcome where
  /-- The first answer in normal form. -/
  name : String
  /-- The first known name in it. -/
  knownName : Option String
  verdict : Verdict
  deriving DecidableEq

structure Host where
  botName : String
  typingDelay : UInt64
  names : NameList

namespace Host

def ofConfig (c : Config) (names : NameList) : Host := ⟨c.botName, c.typingDelay, names⟩

/-! ### What is said -/

def greeting (h : Host) : String := "Hello! I'm " ++ h.botName ++ ". What's your name?"

def welcome : Option String → String
  | some name => "Nice to meet you, " ++ Name.titleCase name ++ "!"
  | none => "Nice to meet you, stranger."

def question (c : Challenge) : String := "Quick question: what is " ++ c.prompt ++ "?"

def farewell (c : Challenge) : Verdict → String
  | .pass => "Correct! " ++ c.prompt ++ " is " ++ c.expected.text ++ "."
  | .fail expected _ =>
    "Sorry, that's not right. " ++ c.prompt ++ " is " ++ expected.text ++ ". Goodbye."

def apology (e : ChallengeError) : String := "Something went wrong: " ++ e.message ++ ". Goodbye."

/-- The line in which the host says something. -/
def line (h : Host) (said : String) : String := h.botName ++ ": " ++ said

/-! ### The exchange -/

variable {m : Type → Type} [Monad m] [Console m]

def say (h : Host) (said : String) : ExceptT SessionError m Unit :=
  ExceptT.adapt .io (Console.typeLine h.typingDelay (h.line said))

/-- A line without the line ends at its end. -/
def withoutLineEnd (text : String) : String :=
  String.ofList (text.toList.reverse.dropWhile fun c => c == '\r' || c == '\n').reverse

/-- What is heard when a line has been read. -/
def heard : Except Fault Bytes → Except SessionError String
  | .error fault => .error (.io fault)
  | .ok [] => .error .endOfInput
  | .ok (b :: rest) =>
    match decode (b :: rest) with
    | .ok text => .ok (withoutLineEnd text)
    | .error fault => .error (.io fault)

def hear : ExceptT SessionError m String := ExceptT.mk (heard <$> Console.readLine)

/-- Holds the conversation about one challenge. -/
def run (h : Host) (c : Challenge) : ExceptT SessionError m SessionOutcome := do
  h.say h.greeting
  let reply ← hear
  let knownName := (h.names.matchedNames reply).head?
  h.say (welcome knownName)
  h.say (question c)
  let answer ← hear
  let verdict := c.judge answer
  h.say (farewell c verdict)
  return ⟨Name.normalize reply, knownName, verdict⟩

/-- Draws a challenge and holds the conversation about it; if there is none, the host says so. -/
def runGenerated (h : Host) (g : Generator) (source : WordSource) :
    ExceptT SessionError m SessionOutcome :=
  match (g.generate source).1 with
  | .ok c => h.run c
  | .error e => do
    h.say (apology e)
    throw (.challenge e)

end Host

end Roman
