import Roman.Text.Lines

/-!
# The console

A conversation reads lines, writes, flushes and pauses, and knows nothing else of where it takes
place. Everything but a pause may fail, and a failure is a value, so what happens behind it is decided
by the conversation.

Typing out a line passes on each character by itself, with a pause behind it; without a pause between
characters, the line is passed on as a whole.
-/

namespace Roman

class Console (m : Type → Type) where
  /-- The next line with its line feed; no bytes at the end of the input. -/
  readLine : m (Except Fault Bytes)
  write : String → m (Except Fault Unit)
  /-- Passes on what has been written. -/
  flush : m (Except Fault Unit)
  /-- Waits for a number of milliseconds. -/
  pause : UInt64 → m Unit

namespace Console

variable {m : Type → Type} [Monad m] [Console m]

/-- Writes a text and passes it on. -/
def put (text : String) : ExceptT Fault m Unit := do
  ExceptT.mk (write text)
  ExceptT.mk flush

/-- Types out a line, with `delay` milliseconds behind each character. -/
def typeLine (delay : UInt64) (text : String) : ExceptT Fault m Unit :=
  if delay = 0 then put (text ++ "\n")
  else do
    text.toList.forM fun c => do
      put c.toString
      ExceptT.lift (pause delay)
    put "\n"

end Console

end Roman
