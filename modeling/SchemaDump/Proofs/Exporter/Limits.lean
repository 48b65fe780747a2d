/-
  SchemaDump/Proofs/Exporter/Limits.lean
  ======================================
  **Exporting into a sink that runs full.**

  An export that has a dump writes the document of that dump, and how much of it
  is taken depends on the sink alone: all of it if it fits, all but the line feed
  at the end if nothing more fits, and otherwise a beginning.  Only the line feed
  is written while the document is flushed, so one byte decides which of the two
  failures is reported.
-/
import SchemaDump.Proofs.Exporter.Requests
import SchemaDump.Proofs.Exporter.Streaming
import SchemaDump.Proofs.Text.Words
import SchemaDump.Source.Memory

namespace SchemaDump

open Markup (Layout)

/-! ### The document without its end -/

namespace Document

/-- The text of the events of a dump: its document but for the line feed at the end. -/
def body (dump : Dump) : String := String.join (({} : Layout).writeAll (events dump))

theorem write_eq_body (dump : Dump) : write dump = body dump ++ "\n" := rfl

theorem utf8ByteSize_write (dump : Dump) :
    (write dump).utf8ByteSize = (body dump).utf8ByteSize + 1 := by
  rw [write_eq_body, String.utf8ByteSize_append]
  rfl

end Document

namespace Exporter

open Document (body write_eq_body)

variable {exporter : Exporter} {dump : Dump}

/-! ### One run of a writer -/

/-- The events of an export that has a dump are told to their end. -/
theorem exists_streamed_of_dump (h : exporter.dump = .ok dump) :
    ∃ source items, exporter.check = .ok source ∧ exporter.streamedEvents source = Run.ofList items
      ∧ items ++ Document.endEvents = Document.events dump := by
  cases hcheck : exporter.check with
  | error cause =>
    rw [Exporter.dump, hcheck] at h
    cases h
  | ok source =>
    rw [dump_of_check hcheck] at h
    obtain ⟨entries, hentries, rfl⟩ := Checked.map_eq_ok_iff.1 h
    have hstreamed := all_streamedEvents exporter source
    rw [hentries] at hstreamed
    exact ⟨source, _, rfl, all_eq_ok_iff.1 hstreamed, rfl⟩

/-- **An export that has a dump is one run of a writer** over the events of that dump. -/
theorem writeTo_eq_putAll (h : exporter.dump = .ok dump) (sink : Sink) (cutting : Cutting) :
    exporter.writeTo sink cutting
      = match ({ sink := sink } : Writer).putAll (Document.events dump) cutting with
        | (closed, none) => (closed.flush.1.sink, closed.flush.2.map .sink)
        | (stopped, some error) => (stopped.sink, some (.sink error)) := by
  obtain ⟨source, items, hcheck, hstreamed, hevents⟩ := exists_streamed_of_dump h
  rw [writeTo, hcheck]
  dsimp only
  rw [hstreamed, ← hevents, Writer.putAll_append]
  simp only [Run.ofList]
  rcases ({ sink := sink } : Writer).putAll items cutting with ⟨opened, _ | error⟩
  · simp only [Writer.finish]
    rcases opened.putAll Document.endEvents cutting with ⟨closed, _ | error⟩ <;> rfl
  · rfl

/-! ### What the sink takes -/

/-- A document that fits is taken, and then only flushing can fail. -/
theorem writeTo_of_fits (h : exporter.dump = .ok dump) {sink : Sink}
    (hfits : sink.fits (Document.write dump) = true) (cutting : Cutting) :
    exporter.writeTo sink cutting
      = (sink.push (Document.write dump),
          if sink.refusesFlush then some (.sink .flushRefused) else none) := by
  rw [write_eq_body] at hfits ⊢
  have hput := Writer.putAll_of_fits (Sink.fits_of_fits_append hfits) cutting
  have hend : (sink.push (body dump)).fits "\n" = true := by rw [Sink.fits_push, hfits]
  rw [body] at hend hfits ⊢
  rw [writeTo_eq_putAll h, hput, ← Sink.push_push]
  simp only [Writer.flush, hend, if_true]
  cases hrefuses : sink.refusesFlush <;>
    simp only [Sink.push, hrefuses, Bool.false_eq_true, if_false, if_true] <;> rfl

/-- A document of which only the line feed at the end does not fit is taken up to it. -/
theorem writeTo_of_body_fits (h : exporter.dump = .ok dump) {sink : Sink}
    (hbody : sink.fits (body dump) = true) (hfull : sink.fits (Document.write dump) = false)
    (cutting : Cutting) :
    exporter.writeTo sink cutting = (sink.push (body dump), some (.sink .flushFull)) := by
  have hput := Writer.putAll_of_fits hbody cutting
  have hend : (sink.push (body dump)).fits "\n" = false := by
    rw [Sink.fits_push, ← write_eq_body, hfull]
  rw [body] at hend ⊢
  rw [writeTo_eq_putAll h, hput]
  simp only [Writer.flush, hend, Bool.false_eq_true, if_false]
  rfl

/-- Of any other document a beginning is taken. -/
theorem writeTo_of_not_fits (h : exporter.dump = .ok dump) {sink : Sink}
    (hroom : sink.fits "" = true) (hfull : sink.fits (body dump) = false) (cutting : Cutting) :
    ∃ taken refused, Document.write dump = taken ++ refused
      ∧ exporter.writeTo sink cutting = (sink.push taken, some (.sink .writeFull)) := by
  obtain ⟨taken, refused, stopped, hbody, hput⟩ :=
    Writer.putAll_of_not_fits hroom hfull cutting
  refine ⟨taken, refused ++ "\n", ?_, ?_⟩
  · rw [write_eq_body, body, hbody, String.append_assoc]
  · rw [writeTo_eq_putAll h, hput]

/-! ### Which failure is reported -/

/-- A failure of the sink, reported as what could not be done with the dump. -/
def FailsTo (verb : String) (failure : Option ExportError) : Prop :=
  ∃ cause reason, failure = some (.sink cause)
    ∧ ExportError.message (.sink cause) = "IO error: Failed to " ++ verb ++ " dump: " ++ reason

theorem failsTo_write_iff {failure : Option ExportError} :
    FailsTo "write" failure ↔ failure = some (.sink .writeFull) := by
  constructor
  · rintro ⟨cause, reason, rfl, hmessage⟩
    cases cause with
    | writeFull => rfl
    | flushFull => exact absurd hmessage (Text.ne_append_of_take_ne 21 (by decide) (by decide))
    | flushRefused => exact absurd hmessage (Text.ne_append_of_take_ne 21 (by decide) (by decide))
  · rintro rfl
    exact ⟨_, "I/O error: sink full", rfl, by decide⟩

theorem failsTo_flush_iff {failure : Option ExportError} :
    FailsTo "flush" failure
      ↔ failure = some (.sink .flushFull) ∨ failure = some (.sink .flushRefused) := by
  constructor
  · rintro ⟨cause, reason, rfl, hmessage⟩
    cases cause with
    | writeFull => exact absurd hmessage (Text.ne_append_of_take_ne 21 (by decide) (by decide))
    | flushFull => exact .inl rfl
    | flushRefused => exact .inr rfl
  · rintro (rfl | rfl)
    · exact ⟨_, "sink full", rfl, by decide⟩
    · exact ⟨_, "flush refused", rfl, by decide⟩

/-! ### The boundary -/

/-- An empty sink with a limit has room for as many bytes as that. -/
theorem fits_limited (limit : Nat) (refusesFlush : Bool) (text : String) :
    Sink.fits { limit := some limit, refusesFlush } text = decide (text.utf8ByteSize ≤ limit) := by
  simp [Sink.fits]

theorem held_push_limited (limit : Nat) (refusesFlush : Bool) (text : String) :
    (Sink.push { limit := some limit, refusesFlush } text).held = text :=
  String.empty_append

/-- **One byte decides.**  A sink with room for a number of bytes holds the document of the dump,
    and no failure is reported, if and only if the document has no more bytes than that and the
    sink lets itself be flushed.  Flushing fails if it does not, or if the document has one byte
    more; writing fails if the document is longer still.  What the sink has accepted is always a
    beginning of the document, however the events are cut into pieces. -/
theorem writeTo_limited (exporter : Exporter) (dump : Dump) (cutting : Cutting) (limit : Nat)
    (refusesFlush : Bool) (h : exporter.dump = .ok dump) :
    ∃ taken failure,
      exporter.writeTo { limit := some limit, refusesFlush } cutting = (taken, failure)
        ∧ (failure = none ∧ taken.held = Document.write dump
            ↔ (Document.write dump).utf8ByteSize ≤ limit ∧ refusesFlush = false)
        ∧ (failure = none → taken.held = Document.write dump)
        ∧ (FailsTo "flush" failure
            ↔ (Document.write dump).utf8ByteSize = limit + 1
              ∨ ((Document.write dump).utf8ByteSize ≤ limit ∧ refusesFlush = true))
        ∧ (FailsTo "write" failure ↔ limit + 1 < (Document.write dump).utf8ByteSize)
        ∧ ∃ rest, Document.write dump = taken.held ++ rest := by
  have hsize := Document.utf8ByteSize_write dump
  have hfits {text : String} (h : text.utf8ByteSize ≤ limit) :
      Sink.fits { limit := some limit, refusesFlush } text = true := by
    rw [fits_limited, decide_eq_true h]
  have hfull {text : String} (h : ¬text.utf8ByteSize ≤ limit) :
      Sink.fits { limit := some limit, refusesFlush } text = false := by
    rw [fits_limited, decide_eq_false h]
  simp only [failsTo_write_iff, failsTo_flush_iff]
  by_cases hwhole : (Document.write dump).utf8ByteSize ≤ limit
  · -- the line feed fits too, and only flushing can still fail
    have hnext : (Document.write dump).utf8ByteSize ≠ limit + 1 := by omega
    have hlong : ¬limit + 1 < (Document.write dump).utf8ByteSize := by omega
    refine ⟨_, _, writeTo_of_fits h (hfits hwhole) cutting, ?_⟩
    rw [held_push_limited]
    refine ⟨?_, fun _ => rfl, ?_, ?_, "", String.append_empty.symm⟩ <;>
      cases refusesFlush <;> simp [hwhole, hnext, hlong]
  · by_cases hbody : (body dump).utf8ByteSize ≤ limit
    · -- the text of the events fits, and the line feed is the one byte too much
      have hnext : (Document.write dump).utf8ByteSize = limit + 1 := by omega
      have hover : ¬limit + 1 ≤ limit := Nat.not_succ_le_self limit
      refine ⟨_, _, writeTo_of_body_fits h (hfits hbody) (hfull hwhole) cutting, ?_⟩
      rw [held_push_limited]
      refine ⟨?_, ?_, ?_, ?_, "\n", write_eq_body dump⟩ <;> simp [hnext, hover]
    · have hnext : (Document.write dump).utf8ByteSize ≠ limit + 1 := by omega
      have hlong : limit + 1 < (Document.write dump).utf8ByteSize := by omega
      obtain ⟨taken, refused, hwrite, hrun⟩ :=
        writeTo_of_not_fits h (hfits (Nat.zero_le limit)) (hfull hbody) cutting
      refine ⟨_, _, hrun, ?_⟩
      rw [held_push_limited]
      refine ⟨?_, ?_, ?_, ?_, refused, hwrite⟩ <;> simp [hwhole, hnext, hlong]

/-- A table whose name and whose one value have letters of two bytes. -/
def accentedExporter : Exporter :=
  { tables := ["é"], withStructure := false, withData := true,
    source := some (Memory.source { tables := [{ name := "é", rows := [⟨[⟨"n", some "ü"⟩]⟩] }] }) }

/-- Its document has 223 characters and 225 bytes: with room for 224 the line feed is missing. -/
theorem writeTo_limited_accentedExporter :
    accentedExporter.dump = .ok ⟨"", [.ofData ⟨"é", [⟨[⟨"n", some "ü"⟩]⟩]⟩]⟩
      ∧ FailsTo "flush" (accentedExporter.writeTo { limit := some 224 }).2 := by
  have hdump : accentedExporter.dump = .ok ⟨"", [.ofData ⟨"é", [⟨[⟨"n", some "ü"⟩]⟩]⟩]⟩ := by rfl
  have hsize : (Document.write ⟨"", [.ofData ⟨"é", [⟨[⟨"n", some "ü"⟩]⟩]⟩]⟩).utf8ByteSize = 225 := by
    decide +kernel
  obtain ⟨taken, failure, hrun, -, -, hflush, -⟩ :=
    writeTo_limited accentedExporter _ .marked 224 false hdump
  refine ⟨hdump, ?_⟩
  rw [hrun]
  exact hflush.2 (.inl hsize)

end Exporter
end SchemaDump
