/-!
# Options of the chat command

Options are read from the left and the first fault ends the reading. A later option of the same name
takes the place of an earlier one.
-/

namespace Roman

/-- Why a text is no seed. -/
inductive SeedError
  | empty
  | invalidDigit
  | tooLarge
  deriving DecidableEq

namespace SeedError

def message : SeedError → String
  | .empty => "cannot parse integer from empty string"
  | .invalidDigit => "invalid digit found in string"
  | .tooLarge => "number too large to fit in target type"

end SeedError

namespace Seed

/-- Reads digits behind those that have given `n`; the first fault from the left is reported. -/
def digits (n : Nat) : List Char → Except SeedError Nat
  | [] => .ok n
  | c :: rest =>
    if c.isDigit then
      let n := 10 * n + (c.toNat - '0'.toNat)
      if n < UInt64.size then digits n rest else .error .tooLarge
    else .error .invalidDigit

/-- Reads a number of 64 bits, with or without a plus sign. -/
def parse (text : String) : Except SeedError UInt64 :=
  match text.toList with
  | [] => .error .empty
  | ['+'] => .error .invalidDigit
  | '+' :: rest => (digits 0 rest).map Nat.toUInt64
  | cs => (digits 0 cs).map Nat.toUInt64

end Seed

inductive OptionError
  | missingPath
  | missingSeed
  | badSeed (cause : SeedError)
  | unknown (argument : String)
  deriving DecidableEq

namespace OptionError

def message : OptionError → String
  | .missingPath => "--config requires a path argument"
  | .missingSeed => "--seed requires a number"
  | .badSeed cause => cause.message
  | .unknown argument => "Unknown argument: " ++ argument

end OptionError

structure ChatOptions where
  configPath : Option String
  seed : Option UInt64

namespace ChatOptions

/-- Reads options behind those that have been read. -/
def read (o : ChatOptions) : List String → Except OptionError ChatOptions
  | [] => .ok o
  | "--config" :: path :: rest | "-c" :: path :: rest => read { o with configPath := some path } rest
  | ["--config"] | ["-c"] => .error .missingPath
  | "--seed" :: number :: rest =>
    match Seed.parse number with
    | .ok seed => read { o with seed := some seed } rest
    | .error e => .error (.badSeed e)
  | ["--seed"] => .error .missingSeed
  | argument :: _ => .error (.unknown argument)

def parse (args : List String) : Except OptionError ChatOptions := read ⟨none, none⟩ args

end ChatOptions

end Roman
