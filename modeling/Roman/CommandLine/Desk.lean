import Roman.CommandLine.Basic

/-!
# A console and a terminal on tape

On a tape the input is given in advance, and the output is kept: what every flush has passed on, and what
has been written since. Writing always succeeds; the number of flushes that succeed may be limited.
Pauses take no time.

A desk is a terminal with a tape. Files are a function, the words are given in advance whatever the seed
is, and the messages are kept.
-/

namespace Roman

structure Tape where
  input : Bytes
  /-- What each successful flush has passed on, the latest first. -/
  flushed : List String
  /-- What has been written since the last successful flush. -/
  pending : String
  /-- How many flushes succeed, if not all of them. -/
  flushLimit : Option Nat

namespace Tape

def ofInput (input : Bytes) (flushLimit : Option Nat) : Tape := ⟨input, [], "", flushLimit⟩

/-- Everything that has been passed on. -/
def output (t : Tape) : String := String.join t.flushed.reverse

def writerFull : Fault := ⟨"writer full"⟩

def readLine (t : Tape) : Except Fault Bytes × Tape :=
  (.ok (Lines.cut t.input).1, { t with input := (Lines.cut t.input).2 })

def write (text : String) (t : Tape) : Except Fault Unit × Tape :=
  (.ok (), { t with pending := t.pending ++ text })

/-- Whether the next flush succeeds. -/
def canFlush (t : Tape) : Bool :=
  match t.flushLimit with
  | none => true
  | some limit => t.flushed.length < limit

def flush (t : Tape) : Except Fault Unit × Tape :=
  if t.canFlush then (.ok (), { t with flushed := t.pending :: t.flushed, pending := "" })
  else (.error writerFull, t)

instance : Console (StateM Tape) where
  readLine := Tape.readLine
  write := Tape.write
  flush := Tape.flush
  pause _ := pure ()

end Tape

structure Desk where
  tape : Tape
  messages : String
  files : String → Except Fault Bytes
  source : WordSource

namespace Desk

/-- Does something on the tape of the desk. -/
def onTape (f : Tape → α × Tape) (d : Desk) : α × Desk :=
  ((f d.tape).1, { d with tape := (f d.tape).2 })

instance : Terminal (StateM Desk) where
  readLine := onTape Tape.readLine
  write text := onTape (Tape.write text)
  flush := onTape Tape.flush
  pause _ := pure ()
  readFile path := fun d => (d.files path, d)
  report text := fun d => ((), { d with messages := d.messages ++ text })
  words _ := fun d => (d.source, d)

end Desk

end Roman
