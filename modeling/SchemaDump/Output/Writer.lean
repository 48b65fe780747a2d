/-
  SchemaDump/Output/Writer.lean
  =============================
  **Writing events into a sink.**

  A writer lays out events and hands them to its sink piece by piece.  When the
  sink refuses a piece, writing ends; what the sink has accepted before stays in
  it, and that may be a part of an event.
-/
import SchemaDump.Output.Cutting
import SchemaDump.Output.Sink
import SchemaDump.Document.Writing

namespace SchemaDump

open Markup (Event Layout)

/-- A sink and the layout of what goes into it next. -/
structure Writer where
  sink : Sink := {}
  layout : Layout := {}
deriving DecidableEq, Repr

namespace Writer

/-- Writes events up to the first piece that the sink refuses. -/
def putAll (writer : Writer) (events : List Event) (cutting : optParam Cutting .marked) :
    Writer × Option SinkError :=
  match events with
  | [] => (writer, none)
  | event :: rest =>
    match writer.sink.takeAll (cutting.pieces writer.layout event) with
    | (taken, true) => putAll ⟨taken, writer.layout.after event⟩ rest cutting
    | (stopped, false) => ({ writer with sink := stopped }, some .writeFull)

/-- Ends the document with a line feed and flushes the sink. -/
def flush (writer : Writer) : Writer × Option SinkError :=
  if writer.sink.fits "\n" then
    ({ writer with sink := writer.sink.push "\n" },
      if writer.sink.refusesFlush then some .flushRefused else none)
  else (writer, some .flushFull)

/-- Closes the database and the root element and ends the document. -/
def finish (writer : Writer) (cutting : optParam Cutting .marked) : Writer × Option SinkError :=
  match writer.putAll Document.endEvents cutting with
  | (closed, none) => closed.flush
  | (stopped, some error) => (stopped, some error)

end Writer
end SchemaDump
