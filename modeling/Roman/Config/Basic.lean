import Roman.Challenge.Pool
import Roman.Json.Reader
import Roman.NameList

/-!
# Configuration

What a conversation can be adjusted in: the name of the host, the pause between two characters, the
known names and the pool of challenges. The known names are those of the configuration itself and
those of the file that it names.
-/

namespace Roman

@[ext]
structure Config where
  botName : String
  /-- The pause between two characters, in milliseconds. Without one, lines are written as a whole. -/
  typingDelay : UInt64
  /-- A file with a known name on each line. -/
  namesPath : Option String
  knownNames : List String
  challenge : Pool
  deriving DecidableEq

inductive ConfigError
  | io (path : String) (fault : Fault)
  | parse (cause : Json.ReadError)
  | invalid (cause : ChallengeError)
  | names (cause : NameListError)
  deriving DecidableEq

namespace ConfigError

def message : ConfigError → String
  | .io path fault => "Failed to read config file '" ++ path ++ "': " ++ fault.reason
  | .parse cause => "Failed to parse config: " ++ cause.message
  | .invalid cause => "Invalid config: " ++ cause.message
  | .names cause => cause.message

end ConfigError

namespace Config

def defaultBotName : String := "Numerus"

def defaultTypingDelay : UInt64 := 30

/-- The configuration that is used where none is given. -/
def standard : Config where
  botName := defaultBotName
  typingDelay := defaultTypingDelay
  namesPath := none
  knownNames := []
  challenge := Pool.standard

/-- The generator of the challenges that are asked. -/
def generator (c : Config) : Except ConfigError Generator :=
  (Generator.ofPool c.challenge).mapError .invalid

/-- Whether challenges can be drawn from the pool. -/
def validate (c : Config) : Except ConfigError Unit := c.generator.map fun _ => ()

/-- The known names of the configuration and of the file it names. -/
def loadNames [Monad m] (readFile : String → m (Except Fault Bytes)) (c : Config) :
    m (Except ConfigError NameList) := do
  let known := NameList.ofList c.knownNames
  match c.namesPath with
  | none => return .ok known
  | some path =>
    match NameList.ofFile path (← readFile path) with
    | .ok l => return .ok (known.merge l)
    | .error e => return .error (.names e)

end Config

end Roman
