/-
Places to write bytes to.

A writer takes bytes until something fails.  `Writer.write` hands over a byte string and
`Writer.flush` asks the writer to let go of what it holds back; both answer with the writer as
it is afterwards and the error, if there was one.
-/
import PacketLog.Bytes
import PacketLog.IoError

namespace PacketLog

/-- A place to write bytes to. -/
class Writer (W : Type) where
  /-- Writes all of the bytes, or those before the first failure. -/
  write : W → Bytes → W × Option IoError
  /-- Passes on all that is held back. -/
  flush : W → W × Option IoError

namespace Writer

variable {W : Type} [Writer W]

/-- Writes byte strings one after the other, up to the first failure. -/
def writeEach (w : W) : List Bytes → W × Option IoError
  | [] => (w, none)
  | piece :: pieces =>
    match write w piece with
    | (w, none) => writeEach w pieces
    | (w, some e) => (w, some e)

end Writer

end PacketLog
