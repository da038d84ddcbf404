import Roman.Console.Basic

/-!
# A console on a sheet

The input is given in advance, and the output goes onto a sheet that has room for a number of bytes. A
sheet takes bytes in portions of any size but none, and a text is written portion by portion; when the
room is used up, be it within a character, the sheet takes nothing more and what is left of the text
cannot be written. Flushes always succeed, and pauses take no time.
-/

namespace Roman

structure Sheet where
  input : Bytes
  written : Bytes
  /-- How many more bytes can be written. -/
  room : Nat
  /-- By how much a portion may exceed one byte, told by the room that is left. -/
  portion : Nat → Nat
  /-- What is said of a sheet without room. -/
  fault : Fault

namespace Sheet

def ofInput (input : Bytes) (room : Nat) (portion : Nat → Nat) (fault : Fault) : Sheet :=
  ⟨input, [], room, portion, fault⟩

/-- The sheet with as many of the bytes as there is room for. -/
def fill (s : Sheet) (bytes : Bytes) : Sheet :=
  { s with written := s.written ++ bytes.take s.room, room := s.room - bytes.length }

/-- How many of some bytes are taken at once. -/
def taken (s : Sheet) (bytes : Bytes) : Nat :=
  min bytes.length (min s.room (s.portion s.room + 1))

/-- Writes all of the bytes, portion by portion, unless the room is used up before. -/
def writeAll (bytes : Bytes) (s : Sheet) : Except Fault Unit × Sheet :=
  if bytes = [] then (.ok (), s)
  else if s.room = 0 then (.error s.fault, s)
  else writeAll (bytes.drop (s.taken bytes)) (s.fill (bytes.take (s.taken bytes)))
termination_by bytes.length
decreasing_by
  have hlength := List.length_pos_iff.mpr ‹¬bytes = []›
  rw [List.length_drop, taken]
  omega

def readLine (s : Sheet) : Except Fault Bytes × Sheet :=
  (.ok (Lines.cut s.input).1, { s with input := (Lines.cut s.input).2 })

instance : Console (StateM Sheet) where
  readLine := readLine
  write text := writeAll (encode text)
  flush := pure (.ok ())
  pause _ := pure ()

end Sheet

end Roman
