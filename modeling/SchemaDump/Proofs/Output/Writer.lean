/-
  SchemaDump/Proofs/Output/Writer.lean
  ====================================
  **What a sink takes of a document.**

  A sink takes everything that fits, however it is cut into pieces; it keeps the
  beginning of what does not fit, up to the first piece that goes beyond its
  limit.  A sink without a limit takes everything.
-/
import SchemaDump.Output.Writer

namespace SchemaDump

open Markup (Event Layout)

namespace Sink

theorem fits_of_unlimited {sink : Sink} (h : sink.limit = none) (piece : String) :
    sink.fits piece = true := by
  rw [fits, h, Option.all_none]

theorem fits_push (sink : Sink) (first second : String) :
    (sink.push first).fits second = sink.fits (first ++ second) := by
  rw [fits, fits, push, String.utf8ByteSize_append, String.utf8ByteSize_append, Nat.add_assoc]

theorem push_push (sink : Sink) (first second : String) :
    (sink.push first).push second = sink.push (first ++ second) := by
  rw [push, push, push, String.append_assoc]

theorem push_empty (sink : Sink) : sink.push "" = sink := by
  rw [push, String.append_empty]

/-- What fits leaves room for its beginning. -/
theorem fits_of_fits_append {sink : Sink} {first second : String}
    (h : sink.fits (first ++ second) = true) : sink.fits first = true := by
  rw [fits, Option.all_eq_true] at h ⊢
  intro limit hlimit
  have hsize := h limit hlimit
  rw [decide_eq_true_eq, String.utf8ByteSize_append] at hsize
  rw [decide_eq_true_eq]
  omega

/-! ### Pieces -/

/-- **What fits is taken**, wherever it is cut. -/
theorem takeAll_of_fits {sink : Sink} {pieces : List String}
    (h : sink.fits (String.join pieces) = true) :
    sink.takeAll pieces = (sink.push (String.join pieces), true) := by
  induction pieces generalizing sink with
  | nil => rw [takeAll, String.join_nil, push_empty]
  | cons piece rest ih =>
    rw [String.join_cons] at h ⊢
    have hrest : (sink.push piece).fits (String.join rest) = true := by rw [fits_push, h]
    rw [takeAll, if_pos (fits_of_fits_append h), ih hrest, push_push]

/-- **Of what does not fit a beginning is taken.** -/
theorem takeAll_of_not_fits {sink : Sink} {pieces : List String} (hroom : sink.fits "" = true)
    (h : sink.fits (String.join pieces) = false) :
    ∃ taken refused, String.join pieces = taken ++ refused
      ∧ sink.takeAll pieces = (sink.push taken, false) := by
  induction pieces generalizing sink with
  | nil =>
    rw [String.join_nil, hroom] at h
    cases h
  | cons piece rest ih =>
    rw [String.join_cons] at h ⊢
    rw [takeAll]
    by_cases hpiece : sink.fits piece = true
    · have hnext : (sink.push piece).fits "" = true := by
        rw [fits_push, String.append_empty, hpiece]
      have hrest : (sink.push piece).fits (String.join rest) = false := by rw [fits_push, h]
      obtain ⟨taken, refused, hjoin, htaken⟩ := ih hnext hrest
      refine ⟨piece ++ taken, refused, ?_, ?_⟩
      · rw [hjoin, String.append_assoc]
      · rw [if_pos hpiece, htaken, push_push]
    · refine ⟨"", piece ++ String.join rest, String.empty_append.symm, ?_⟩
      rw [if_neg hpiece, push_empty]

end Sink

/-! ### Events -/

namespace Writer

section
variable {sink : Sink} {layout : Layout}

theorem putAll_cons (event : Event) (rest : List Event) (cutting : Cutting) :
    putAll ⟨sink, layout⟩ (event :: rest) cutting
      = match sink.takeAll (cutting.pieces layout event) with
        | (taken, true) => putAll ⟨taken, layout.after event⟩ rest cutting
        | (stopped, false) => (⟨stopped, layout⟩, some .writeFull) := rfl

/-- The text of events, one after another. -/
theorem join_writeAll_cons (event : Event) (rest : List Event) :
    String.join (layout.writeAll (event :: rest))
      = layout.write event ++ String.join ((layout.after event).writeAll rest) := by
  rw [Layout.writeAll, String.join_cons]

/-- **Events that fit are written.** -/
theorem putAll_of_fits {events : List Event}
    (h : sink.fits (String.join (layout.writeAll events)) = true) (cutting : Cutting) :
    putAll ⟨sink, layout⟩ events cutting
      = (⟨sink.push (String.join (layout.writeAll events)), layout.afterAll events⟩, none) := by
  induction events generalizing sink layout with
  | nil =>
    rw [Layout.writeAll, String.join_nil, Sink.push_empty]
    rfl
  | cons event rest ih =>
    rw [join_writeAll_cons] at h ⊢
    have hevent : sink.fits (String.join (cutting.pieces layout event)) = true := by
      rw [cutting.join_pieces]
      exact Sink.fits_of_fits_append h
    have hrest : (sink.push (layout.write event)).fits
        (String.join ((layout.after event).writeAll rest)) = true := by
      rw [Sink.fits_push, h]
    have hput := ih hrest
    rw [Sink.push_push] at hput
    rw [putAll_cons, Sink.takeAll_of_fits hevent, cutting.join_pieces]
    exact hput

/-- **Events that do not fit are written up to some piece**, and writing fails. -/
theorem putAll_of_not_fits {events : List Event} (hroom : sink.fits "" = true)
    (h : sink.fits (String.join (layout.writeAll events)) = false) (cutting : Cutting) :
    ∃ taken refused stopped, String.join (layout.writeAll events) = taken ++ refused
      ∧ putAll ⟨sink, layout⟩ events cutting = (⟨sink.push taken, stopped⟩, some .writeFull) := by
  induction events generalizing sink layout with
  | nil =>
    rw [Layout.writeAll, String.join_nil, hroom] at h
    cases h
  | cons event rest ih =>
    rw [join_writeAll_cons] at h ⊢
    rw [putAll_cons]
    cases hfits : sink.fits (layout.write event) with
    | true =>
      -- the event is taken, and the sink runs full with the rest
      have hnext : (sink.push (layout.write event)).fits "" = true := by
        rw [Sink.fits_push, String.append_empty, hfits]
      have hrest : (sink.push (layout.write event)).fits
          (String.join ((layout.after event).writeAll rest)) = false := by
        rw [Sink.fits_push, h]
      obtain ⟨taken, refused, stopped, hjoin, hput⟩ := ih hnext hrest
      rw [← cutting.join_pieces] at hfits
      rw [Sink.push_push] at hput
      refine ⟨layout.write event ++ taken, refused, stopped, ?_, ?_⟩
      · rw [hjoin, String.append_assoc]
      · rw [Sink.takeAll_of_fits hfits, cutting.join_pieces]
        exact hput
    | false =>
      rw [← cutting.join_pieces] at hfits
      obtain ⟨taken, refused, hjoin, htake⟩ := Sink.takeAll_of_not_fits hroom hfits
      rw [cutting.join_pieces] at hjoin
      refine ⟨taken, refused ++ String.join ((layout.after event).writeAll rest), layout, ?_, ?_⟩
      · rw [hjoin, String.append_assoc]
      · rw [htake]

end

theorem putAll_append (writer : Writer) (first second : List Event) (cutting : Cutting) :
    writer.putAll (first ++ second) cutting
      = match writer.putAll first cutting with
        | (opened, none) => opened.putAll second cutting
        | (stopped, some error) => (stopped, some error) := by
  induction first generalizing writer with
  | nil => rfl
  | cons event rest ih =>
    rw [List.cons_append, putAll, putAll]
    cases writer.sink.takeAll (cutting.pieces writer.layout event) with
    | mk taken whole =>
      cases whole with
      | true => exact ih _
      | false => rfl

/-! ### Without a limit -/

theorem putAll_of_unlimited {writer : Writer} (h : writer.sink.limit = none)
    (events : List Event) {cutting : Cutting} :
    writer.putAll events cutting
      = (⟨writer.sink.push (String.join (writer.layout.writeAll events)),
          writer.layout.afterAll events⟩, none) :=
  putAll_of_fits (Sink.fits_of_unlimited h _) cutting

theorem finish_of_unlimited {writer : Writer} (h : writer.sink.limit = none)
    (hflush : writer.sink.refusesFlush = false) {cutting : Cutting} :
    writer.finish cutting
      = (⟨writer.sink.push (String.join (writer.layout.writeAll Document.endEvents) ++ "\n"),
          writer.layout.afterAll Document.endEvents⟩, none) := by
  rw [finish, putAll_of_unlimited h]
  simp [flush, Sink.fits, Sink.push, h, hflush, String.append_assoc]

end Writer
end SchemaDump
