import Gateway.Text.Utf8

/-! # Frames

The unit that a connection carries in either direction: a text or a byte string.
-/

namespace Gateway

/-- What is sent at once. -/
inductive Frame where
  | text (content : String)
  | binary (bytes : Bytes)
deriving DecidableEq, Inhabited

namespace Frame

/-- The bytes of a frame, those of its text in UTF-8. -/
def bytes : Frame → Bytes
  | .text content => utf8 content
  | .binary bytes => bytes

def isText : Frame → Bool
  | .text _ => true
  | .binary _ => false

def length (frame : Frame) : Nat := frame.bytes.length

def isEmpty (frame : Frame) : Bool := frame.bytes.isEmpty

end Frame

end Gateway
