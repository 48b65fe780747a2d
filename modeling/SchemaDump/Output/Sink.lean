/-
  SchemaDump/Output/Sink.lean
  ===========================
  **Sinks: where a document goes.**

  A sink holds what it has accepted.  It may have room for a number of bytes
  only, counted in UTF-8: a piece that does not fit is refused as a whole.  It
  may also refuse to be flushed.
-/

namespace SchemaDump

/-- Text accepted so far, the room in bytes if it is limited, and whether flushing fails. -/
structure Sink where
  limit : Option Nat := none
  refusesFlush : Bool := false
  held : String := ""
deriving DecidableEq, Repr

/-- Why a sink does not take what it is given. -/
inductive SinkError where
  /-- A piece of the document does not fit. -/
  | writeFull
  /-- The line feed at the end does not fit. -/
  | flushFull
  | flushRefused
deriving DecidableEq, Repr

def SinkError.message : SinkError → String
  | .writeFull => "Failed to write dump: I/O error: sink full"
  | .flushFull => "Failed to flush dump: sink full"
  | .flushRefused => "Failed to flush dump: flush refused"

namespace Sink

def fits (sink : Sink) (piece : String) : Bool :=
  sink.limit.all fun limit => sink.held.utf8ByteSize + piece.utf8ByteSize ≤ limit

def push (sink : Sink) (piece : String) : Sink := { sink with held := sink.held ++ piece }

/-- Takes pieces up to the first that does not fit; says whether it took all of them. -/
def takeAll (sink : Sink) : List String → Sink × Bool
  | [] => (sink, true)
  | piece :: rest => if sink.fits piece then (sink.push piece).takeAll rest else (sink, false)

end Sink
end SchemaDump
