/-
  SchemaDump/Proofs/Document/Canonical.lean
  =========================================
  **Every accepted document has a canonical form.**

  Documents of one dump differ in blanks, comments, references, options, the
  order of attributes and more.  Writing the dump that a document stands for
  gives a document of the same dump, the same one for all of them.  What makes
  this hold for documents from anywhere is that reading never gives a key part
  without a position.
-/
import SchemaDump.Proofs.Document.Acceptance
import SchemaDump.Proofs.Document.Distinct

namespace SchemaDump.Document

open Checked (exists_of_mem_right)
open Markup (Content)

/-- **The dump of a document has positions in all its keys.** -/
theorem IsDocument.isNumbered {content : Content} {dump : Dump} (h : IsDocument content dump) :
    dump.IsNumbered := by
  intro table htable part hpart
  obtain ⟨root, -, hroot⟩ := h.root
  obtain ⟨database, -, hdatabase⟩ := hroot.database
  obtain ⟨child, -, hchild⟩ :=
    exists_of_mem_right hdatabase.entries (Dump.mem_structures_iff.1 htable)
  obtain ⟨item, -, hitem⟩ := exists_of_mem_right (IsTableStructure.keys hchild) hpart
  exact UInt32.le_iff_toNat_le.2 (UInt32.lt_iff_toNat_lt.1 hitem.counted)

theorem read_write_of_read {text : String} {dump : Dump} (h : read text = .ok dump) :
    read (write dump) = .ok dump := by
  obtain ⟨-, content, -, hdocument⟩ := (read_eq_ok_iff text dump).1 h
  exact read_write_of_isNumbered hdocument.isNumbered

/-- The canonical form of a document: that of the dump that it stands for. -/
def canonical (text : String) : Except Malformed String := (read text).map write

/-- **Writing what has been read gives a canonical form**: it stands for the same dump, it is its
    own canonical form, and it is the canonical form of exactly the documents of that dump. -/
theorem canonical_of_read (text : String) (dump : Dump) (h : read text = .ok dump) :
    (∃ opened closed : Writer,
        ({} : Writer).putAll (startEvents dump.database ++ dump.entries.flatMap entryEvents)
            = (opened, none)
          ∧ opened.finish = (closed, none) ∧ closed.sink.held = write dump)
      ∧ read (write dump) = .ok dump
      ∧ canonical text = .ok (write dump) ∧ canonical (write dump) = .ok (write dump)
      ∧ ∀ other, canonical other = canonical text ↔ read other = .ok dump := by
  have hread := read_write_of_read h
  have hcanonical : canonical text = .ok (write dump) := by
    rw [canonical, h]
    rfl
  refine ⟨?_, hread, hcanonical, ?_, ?_⟩
  · refine ⟨_, _, Writer.putAll_of_unlimited rfl _, Writer.finish_of_unlimited rfl rfl, ?_⟩
    simp [write, events, Sink.push, Markup.Layout.writeAll_append, Markup.Layout.afterAll_append,
      String.append_assoc]
  · rw [canonical, hread]
    rfl
  · intro other
    rw [hcanonical, canonical]
    cases read other with
    | error cause => simp [Except.map]
    | ok held => simp [Except.map, write_injective.eq_iff]

/-- A document from elsewhere: another root, a comment, a reference where none is needed,
    attributes in the other quotes, and literal characters. -/
def foreignText : String :=
  "<dump><!--host--><database name='&#97;'>
<table_data name='t'><row><field name='c'><![CDATA[<]]></field></row></table_data>
</database></dump>"

def foreignDump : Dump := ⟨"a", [.ofData ⟨"t", [⟨[⟨"c", some "<"⟩]⟩]⟩]⟩

theorem read_foreignText : read foreignText = .ok foreignDump := by decide +kernel

theorem canonical_foreignText :
    read foreignText = .ok foreignDump
      ∧ canonical foreignText = .ok (write foreignDump)
      ∧ read (write foreignDump) = .ok foreignDump
      ∧ canonical (write foreignDump) = .ok (write foreignDump) :=
  have h := canonical_of_read foreignText foreignDump read_foreignText
  ⟨read_foreignText, h.2.2.1, h.2.1, h.2.2.2.1⟩

end SchemaDump.Document
