import Propositional.Table.Rendering
/-!
# Propositional.Table.Export

Writing a truth table to a buffer of bytes.

A buffer has room for a fixed number of bytes. Writing fills it from the front and never undoes
anything: when the room runs out, what fitted stays written and the write fails.
-/

namespace Propositional

/-- Bytes, and room for more. -/
structure ByteBuffer where
  /-- How many bytes still fit. -/
  room : Nat
  /-- The bytes written so far, in order. -/
  written : List UInt8 := []
  deriving DecidableEq, Repr

/-- Why a write fails. -/
inductive WriteError where
  /-- Nothing more can be written. -/
  | writeZero
  deriving DecidableEq, Repr

/-- The sentence that reports a failed write. -/
def WriteError.message : WriteError → String
  | .writeZero => "failed to write whole buffer"

/-- Writes as many of the bytes as fit, and fails unless all of them do. -/
def ByteBuffer.writeAll (buffer : ByteBuffer) (bytes : List UInt8) :
    Except WriteError Unit × ByteBuffer :=
  let result := if bytes.length ≤ buffer.room then .ok () else .error .writeZero
  (result, ⟨buffer.room - bytes.length, buffer.written ++ bytes.take buffer.room⟩)

/-- The bytes of a text in UTF-8. -/
def Text.utf8 (text : Text) : List UInt8 := text.flatMap String.utf8EncodeChar

/-- Writes a rendering of a table. -/
def Table.writeTo (format : Format) (buffer : ByteBuffer) (t : Table) :
    Except WriteError Unit × ByteBuffer :=
  buffer.writeAll (t.render format).utf8

end Propositional
