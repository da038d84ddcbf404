import Roman.CommandLine.Basic

/-!
# The program

The command line on the standard streams of a process.
-/

namespace Roman.StandardStreams

def faultOf : IO.Error → Fault
  | .noFileOrDirectory .. => .noSuchFile
  | .inappropriateType _ 20 _ => .notDirectory
  | .inappropriateType .. => .isDirectory
  | .permissionDenied .. => .permissionDenied
  | e => ⟨toString e⟩

/-- The value of an action, or the fault that it ended in. -/
def attempt (action : IO α) : IO (Except Fault α) := do
  try
    return .ok (← action)
  catch e =>
    return .error (faultOf e)

/-- Reads the standard input byte by byte up to a line feed. -/
partial def readLineFrom (stream : IO.FS.Stream) (read : List UInt8) : IO Bytes := do
  match (← stream.read 1).toList with
  | b :: _ =>
    if b = lineFeed then return (b :: read).reverse else readLineFrom stream (b :: read)
  | [] => return read.reverse

/-- The first words of the generator with a seed. -/
def wordsOfSeed (seed : Nat) : List UInt32 :=
  let draw (state : List UInt32 × StdGen) (_ : Nat) : List UInt32 × StdGen :=
    let (w, gen) := randNat state.2 0 (UInt32.size - 1)
    (w.toUInt32 :: state.1, gen)
  ((List.range 64).foldl draw ([], mkStdGen seed)).1.reverse

/-- A number that differs from run to run. -/
def entropy : IO Nat := do
  return (← IO.getRandomBytes 8).toList.foldl (fun n b => 256 * n + b.toNat) 0

/-- Sleeps for a number of milliseconds, one sleep behind the other if it is too long for one. -/
def sleepFor (delay : UInt64) : IO Unit := do
  let longest := UInt32.size - 1
  for _ in [0 : delay.toNat / longest] do
    IO.sleep longest.toUInt32
  IO.sleep (delay.toNat % longest).toUInt32

instance : Terminal IO where
  readLine := do attempt (readLineFrom (← IO.getStdin) [])
  write text := do attempt ((← IO.getStdout).putStr text)
  flush := do attempt (← IO.getStdout).flush
  pause := sleepFor
  readFile path :=
    if path.contains '\x00' then return .error .zeroInPath
    else attempt do return (← IO.FS.readBinFile path).toList
  report text := IO.eprint text
  words
    | some seed => return ⟨wordsOfSeed seed.toNat, 0⟩
    | none => return ⟨wordsOfSeed (← entropy), 0⟩

end Roman.StandardStreams

def main (args : List String) : IO UInt32 := Roman.CommandLine.process args
