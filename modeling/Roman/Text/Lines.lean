import Roman.Text.Pieces

/-!
# Lines of bytes

Input comes as bytes. A line ends with a line feed, or with the input, and is decoded on its own, so a
line is read without looking at the ones behind it.

Bytes that are no text are a fault of the surroundings, as a file that cannot be read and a line that
cannot be written are. A fault carries its reason as a text, which messages quote as it is.
-/

namespace Roman

/-! ### Faults of the surroundings -/

structure Fault where
  reason : String
  deriving DecidableEq

namespace Fault

/-- Bytes that are no text. -/
def invalidUtf8 : Fault := ⟨"stream did not contain valid UTF-8"⟩

def noSuchFile : Fault := ⟨"No such file or directory (os error 2)"⟩

def isDirectory : Fault := ⟨"Is a directory (os error 21)"⟩

/-- A path that goes on behind a file. -/
def notDirectory : Fault := ⟨"Not a directory (os error 20)"⟩

def nameTooLong : Fault := ⟨"File name too long (os error 36)"⟩

/-- A path that no system can take, since a zero byte ends it early. -/
def zeroInPath : Fault := ⟨"file name contained an unexpected NUL byte"⟩

def permissionDenied : Fault := ⟨"Permission denied (os error 13)"⟩

end Fault

/-! ### Texts as bytes -/

abbrev Bytes := List UInt8

def lineFeed : UInt8 := 10

/-- The text that the bytes encode. -/
def decode (bytes : Bytes) : Except Fault String :=
  match String.fromUTF8? ⟨bytes.toArray⟩ with
  | some text => .ok text
  | none => .error .invalidUtf8

/-- The bytes that encode the text. -/
def encode (text : String) : Bytes := text.toUTF8.data.toList

theorem encode_append (a b : String) : encode (a ++ b) = encode a ++ encode b := by
  simp [encode]

theorem decode_encode (text : String) : decode (encode text) = .ok text := by
  simp [decode, encode, String.fromUTF8?, text.isValidUTF8, String.fromUTF8]

theorem encode_of_decode {bytes : Bytes} {text : String} (h : decode bytes = .ok text) :
    encode text = bytes := by
  unfold decode String.fromUTF8? at h
  split at h
  next heq =>
    split at heq
    · cases heq
      cases h
      simp [encode, String.fromUTF8]
    · cases heq
  next => cases h

/-! ### Lines -/

namespace Lines

/-- The bytes up to the first line feed, that one included, and the bytes behind it. -/
def cut : Bytes → Bytes × Bytes
  | [] => ([], [])
  | b :: rest =>
    if b = lineFeed then ([b], rest) else (b :: (cut rest).1, (cut rest).2)

/-- The lines without their line feeds; behind a last line feed stands one more, empty line. -/
def all (bytes : Bytes) : List Bytes := pieces (· == lineFeed) bytes

end Lines

end Roman
