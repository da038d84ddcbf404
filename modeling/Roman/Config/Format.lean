import Roman.Config.Basic
import Roman.Json.Values

/-!
# The form of a configuration

A configuration is written as a JSON record. Every field may be left out, and there is a value for each
that it has then; in a pool, the same holds for its two lists.
-/

namespace Roman

/-- A configuration of which some fields have been read. -/
structure PartialConfig where
  botName : Option String
  typingDelay : Option UInt64
  namesPath : Option (Option String)
  knownNames : Option (List String)
  challenge : Option Pool

namespace PartialConfig

def empty : PartialConfig := ⟨none, none, none, none, none⟩

/-- Gives every field that has not been read the value for a field that is left out. -/
def complete (p : PartialConfig) : Config where
  botName := p.botName.getD Config.defaultBotName
  typingDelay := p.typingDelay.getD Config.defaultTypingDelay
  namesPath := p.namesPath.getD none
  knownNames := p.knownNames.getD []
  challenge := p.challenge.getD Pool.standard

end PartialConfig

namespace Json.Reader

def word64 : Reader UInt64 := do return (← natural UInt64.size).toUInt64

def configFields : List (Field PartialConfig) :=
  [.once "bot_name" PartialConfig.botName (fun p s => { p with botName := some s }) string,
    .once "typing_delay_ms" PartialConfig.typingDelay (fun p n => { p with typingDelay := some n })
      word64,
    .once "names_path" PartialConfig.namesPath (fun p path => { p with namesPath := some path })
      (optional string),
    .once "known_names" PartialConfig.knownNames (fun p names => { p with knownNames := some names })
      (list string),
    .once "challenge" PartialConfig.challenge (fun p c => { p with challenge := some c }) pool]

def config : Reader Config := do return (← record configFields PartialConfig.empty).complete

end Json.Reader

namespace Json.Writer

def configMembers (c : Config) : List (String × List Char) :=
  [("bot_name", string c.botName), ("typing_delay_ms", natural c.typingDelay.toNat),
    ("names_path", (c.namesPath.map string).getD null),
    ("known_names", list (c.knownNames.map string)), ("challenge", pool c.challenge)]

def config (c : Config) : List Char := object (configMembers c)

end Json.Writer

namespace Config

def ofJson (text : String) : Except ConfigError Config :=
  (Json.Reader.config.run text).mapError .parse

/-- Reads a configuration from what the file `path` gave. -/
def ofFile (path : String) (content : Except Fault Bytes) : Except ConfigError Config :=
  match content >>= decode with
  | .ok text => ofJson text
  | .error fault => .error (.io path fault)

/-- The whole configuration as a JSON text. -/
def toJson (c : Config) : String := String.ofList (Json.Writer.config c)

end Config

end Roman
