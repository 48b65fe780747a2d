/-
  SchemaDump/Proofs/Markup/Written.lean
  =====================================
  **What is read of written events.**

  Writing puts line breaks and spaces before tags, and reading gives them back
  as texts; writing an empty text leaves nothing to read.  `heardAll` says which
  events a reader hears when events are written with a layout, and
  `readFrom_written` that it hears exactly those and then goes on with what
  follows.  The only condition on the events besides plain names and matching
  closing tags is that each text is followed by a tag: two texts in a row would
  be heard as one.
-/
import SchemaDump.Markup.Layout
import SchemaDump.Proofs.Markup.Nesting
import SchemaDump.Proofs.Markup.Tag

namespace SchemaDump.Markup

/-! ### One lexeme at a time -/

namespace Lexeme

theorem readAll_of_next? {c : Char} {rest after : List Char} {lexeme : Lexeme}
    (h : next? c rest = some (lexeme, after)) :
    readAll (c :: rest) = (readAll after).cons lexeme := by
  rw [readAll]
  split
  · simp_all
  · rename_i h'
    obtain ⟨rfl, rfl⟩ := Prod.mk.inj (Option.some.inj (h.symm.trans h'))
    rfl

/-- A name starts neither a closing tag nor an aside. -/
theorem afterAngle?_of_isPlainChar {c : Char} (hc : isPlainChar c = true) (cs : List Char) :
    afterAngle? (c :: cs)
      = (cutTag? none (c :: cs)).map fun (inside, after) => (ofTag inside, after) := by
  have hslash : c ≠ '/' := by rintro rfl; revert hc; decide
  have hquestion : c ≠ '?' := by rintro rfl; revert hc; decide
  have hbang : c ≠ '!' := by rintro rfl; revert hc; decide
  rw [afterAngle?.eq_def]
  split <;> simp_all

theorem next?_angle (rest : List Char) : next? '<' rest = afterAngle? rest := rfl

theorem next?_opening {tag : Tag} (h : tag.IsWritable) (rest : List Char) :
    next? '<' (tag.write.toList ++ '>' :: rest) = some (.opening tag.write.toList, rest) := by
  obtain ⟨c, inside, hcons, hc⟩ := exists_write_eq_cons h
  have hcut := cutTag?_write h ('>' :: rest)
  rw [hcons, List.cons_append] at hcut
  have hopening : ofTag tag.write.toList = .opening tag.write.toList := by
    simp [ofTag, getLast?_write_ne h]
  rw [next?_angle, hcons, List.cons_append, afterAngle?_of_isPlainChar hc, hcut, ← hcons]
  simp [cutTag?, hopening]

theorem next?_single {tag : Tag} (h : tag.IsWritable) (rest : List Char) :
    next? '<' (tag.write.toList ++ '/' :: '>' :: rest) = some (.single tag.write.toList, rest) := by
  obtain ⟨c, inside, hcons, hc⟩ := exists_write_eq_cons h
  have hcut := cutTag?_write h ('/' :: '>' :: rest)
  rw [hcons, List.cons_append] at hcut
  rw [next?_angle, hcons, List.cons_append, afterAngle?_of_isPlainChar hc, hcut, ← hcons]
  simp [cutTag?, ofTag]

/-- The name of a closing tag is found although spaces at its end would be dropped. -/
theorem closingName_of_isPlain {name : String} (h : isPlain name = true) :
    closingName name.toList = name.toList := by
  obtain ⟨c, rest, hcons, hc⟩ := exists_of_isPlain h
  have hall : name.toList.all isSpace = false := by
    simp [hcons, isSpace_of_isPlainChar hc]
  have hdrop : name.toList.reverse.dropWhile isSpace = name.toList.reverse := by
    cases hrev : name.toList.reverse with
    | nil => rfl
    | cons d ds =>
      have hd : d ∈ name.toList := by
        rw [← List.mem_reverse, hrev]
        exact List.mem_cons_self
      simp [isSpace_of_isPlainChar (isPlainChar_of_mem h hd)]
  rw [closingName, hall, hdrop]
  simp

theorem next?_closing {name : String} (h : isPlain name = true) (rest : List Char) :
    next? '<' ('/' :: name.toList ++ '>' :: rest) = some (.closing name.toList, rest) := by
  have hname : ∀ c ∈ name.toList, isSafe c = true := fun c hc =>
    isSafe_of_isPlainChar (isPlainChar_of_mem h hc)
  rw [next?_angle, List.cons_append, afterAngle?, cutTag?_append hname]
  simp [cutTag?]

theorem next?_declaration (rest : List Char) :
    next? '<' ("?xml version=\"1.0\"?>".toList ++ rest) = some (.aside, rest) := by
  rfl

/-- A text runs up to the next tag. -/
theorem next?_text {c : Char} {raw : List Char} (h : ∀ d ∈ c :: raw, d ≠ '<')
    (rest : List Char) :
    next? c (raw ++ '<' :: rest) = some (.text (c :: raw), '<' :: rest) := by
  have hc : (c == '<') = false := by simpa using h c (by simp)
  have hraw : ∀ d ∈ raw, (d != '<') = true := by
    intro d hd
    simpa using h d (by simp [hd])
  rw [next?, hc, List.takeWhile_append_of_pos hraw, List.dropWhile_append_of_pos hraw]
  simp

end Lexeme

/-! ### What a reader hears -/

namespace Layout

/-- The text that a reader finds before a tag. -/
def gap (layout : Layout) : List Event := if layout.breaks then [.text layout.indent] else []

/-- What a reader hears when an event is written. -/
def heard (layout : Layout) : Event → List Event
  | .declaration => layout.gap
  | .opening tag => layout.gap ++ [.opening tag]
  | .single tag => layout.gap ++ [.single tag]
  | .closing name => gap ⟨layout.depth - 1, layout.breaks⟩ ++ [.closing name]
  | .text content => if content.toList.isEmpty then [] else [.text content]

/-- What a reader hears when events are written one after another. -/
def heardAll (layout : Layout) : List Event → List Event
  | [] => []
  | event :: rest => layout.heard event ++ (layout.after event).heardAll rest

theorem afterAll_append (layout : Layout) (first second : List Event) :
    layout.afterAll (first ++ second) = (layout.afterAll first).afterAll second :=
  List.foldl_append

theorem heardAll_append (layout : Layout) (first second : List Event) :
    layout.heardAll (first ++ second)
      = layout.heardAll first ++ (layout.afterAll first).heardAll second := by
  induction first generalizing layout with
  | nil => rfl
  | cons event rest ih => simp [heardAll, afterAll, ih]

end Layout

namespace Event

/-- An event that can be written: the names in it are plain. -/
def IsWritable : Event → Prop
  | .opening tag | .single tag => tag.IsWritable
  | .closing name => isPlain name = true
  | .declaration | .text _ => True

def isText : Event → Bool
  | .text _ => true
  | _ => false

/-- Whether each text is followed by a tag. -/
def textsApart : List Event → Bool
  | [] => true
  | event :: rest => (!event.isText || rest.head?.any (!·.isText)) && textsApart rest

theorem textsApart_append {first second : List Event} (hf : textsApart first = true)
    (hs : textsApart second = true) : textsApart (first ++ second) = true := by
  induction first with
  | nil => exact hs
  | cons event rest ih =>
    simp only [textsApart, Bool.and_eq_true, List.cons_append] at hf ⊢
    refine ⟨?_, ih hf.2⟩
    cases rest with
    | nil => simp_all
    | cons next rest => exact hf.1

theorem exists_write_eq_angle (layout : Layout) {event : Event} (hb : layout.breaks = false)
    (ht : event.isText = false) :
    ∃ rest, (layout.write event).toList = '<' :: rest := by
  cases event with
  | declaration => exact ⟨"?xml version=\"1.0\"?>".toList, by simp [Layout.write, Layout.indent, hb]⟩
  | opening tag => exact ⟨(tag.write ++ ">").toList, by simp [Layout.write, Layout.indent, hb]⟩
  | single tag => exact ⟨(tag.write ++ "/>").toList, by simp [Layout.write, Layout.indent, hb]⟩
  | closing name => exact ⟨("/" ++ name ++ ">").toList, by simp [Layout.write, Layout.indent, hb]⟩
  | text content => simp [Event.isText] at ht

/-- Reads on while the named elements are open. -/
def readFrom (opened : List String) (cs : List Char) : Run Fault Event :=
  ofLexemes opened (Lexeme.readAll cs).failure (Lexeme.readAll cs).items

/-- A text is heard up to the next tag; an empty one leaves nothing to hear. -/
theorem readFrom_text (opened : List String) {raw cs : List Char} (h : ∀ d ∈ raw, d ≠ '<')
    (hu : unescape? raw = some cs) (rest : List Char) :
    readFrom opened (raw ++ '<' :: rest)
      = (Run.ofList (if raw.isEmpty then [] else [.text (String.ofList cs)])).append
          (readFrom opened ('<' :: rest)) := by
  cases raw with
  | nil => rfl
  | cons c raw =>
    rw [readFrom, List.cons_append, Lexeme.readAll_of_next? (Lexeme.next?_text h rest)]
    simp only [Run.cons, ofLexemes, hu]
    rfl

theorem readFrom_writtenText (opened : List String) (layout : Layout) (content : String)
    (rest : List Char) :
    readFrom opened ((layout.write (.text content)).toList ++ '<' :: rest)
      = (Run.ofList (layout.heard (.text content))).append (readFrom opened ('<' :: rest)) := by
  have hsafe : ∀ d ∈ escape content.toList, d ≠ '<' := by
    intro d hd
    have := isSafe_of_mem_escape hd
    simp_all [isSafe]
  have hempty : (escape content.toList).isEmpty = content.toList.isEmpty := by
    cases hc : content.toList with
    | nil => rfl
    | cons c cs => simpa using escape_ne_nil (List.cons_ne_nil c cs)
  have hwrite : (layout.write (.text content)).toList = escape content.toList := by
    simp [Layout.write]
  rw [hwrite, readFrom_text opened hsafe (unescape?_escape content.toList), hempty,
    String.ofList_toList]
  rfl

theorem readFrom_indent (opened : List String) (layout : Layout) (rest : List Char) :
    readFrom opened (layout.indent.toList ++ '<' :: rest)
      = (Run.ofList layout.gap).append (readFrom opened ('<' :: rest)) := by
  cases hb : layout.breaks with
  | false => simp [Layout.indent, Layout.gap, hb]
  | true =>
    have hindent : layout.indent.toList = '\n' :: List.replicate layout.depth ' ' := by
      simp [Layout.indent, hb]
    have hspaces : ∀ d ∈ layout.indent.toList, d ≠ '<' := by
      intro d hd
      rw [hindent, List.mem_cons, List.mem_replicate] at hd
      rcases hd with rfl | ⟨-, rfl⟩ <;> decide
    have hplain : ∀ n, unescapeFrom? none (List.replicate n ' ') = some (List.replicate n ' ') := by
      intro n
      induction n with
      | zero => rfl
      | succ n ih => simp [List.replicate_succ, unescapeFrom?, ih]
    have hu : unescape? layout.indent.toList = some layout.indent.toList := by
      rw [hindent, unescape?, unescapeFrom?]
      simp [hplain]
    rw [readFrom_text opened hspaces hu]
    simp [hindent, Layout.gap, hb, ← String.toList_inj]

/-- A tag is heard after the line break before it. -/
theorem readFrom_tag {event : Event} {opened next : List String} (hw : event.IsWritable)
    (ht : event.isText = false) (ho : openAfter? opened event = some next) (layout : Layout)
    (rest : List Char) :
    readFrom opened ((layout.write event).toList ++ rest)
      = (Run.ofList (layout.heard event)).append (readFrom next rest) := by
  cases event with
  | text content => simp [isText] at ht
  | declaration =>
    obtain rfl : opened = next := Option.some.inj ho
    have hshape : (layout.write .declaration).toList ++ rest
        = layout.indent.toList ++ '<' :: ("?xml version=\"1.0\"?>".toList ++ rest) := by
      simp [Layout.write]
    have htag : readFrom opened ('<' :: ("?xml version=\"1.0\"?>".toList ++ rest))
        = readFrom opened rest := by
      rw [readFrom, Lexeme.readAll_of_next? (Lexeme.next?_declaration rest)]
      rfl
    rw [hshape, readFrom_indent, htag]
    rfl
  | opening tag =>
    obtain rfl : tag.name :: opened = next := Option.some.inj ho
    have hshape : (layout.write (.opening tag)).toList ++ rest
        = layout.indent.toList ++ '<' :: (tag.write.toList ++ '>' :: rest) := by
      simp [Layout.write]
    have htag : readFrom opened ('<' :: (tag.write.toList ++ '>' :: rest))
        = (readFrom (tag.name :: opened) rest).cons (.opening tag) := by
      rw [readFrom, Lexeme.readAll_of_next? (Lexeme.next?_opening hw rest)]
      simp only [Run.cons, ofLexemes, Tag.read_write hw]
      rfl
    rw [hshape, readFrom_indent, htag]
    simp [Layout.heard, Run.cons]
  | single tag =>
    obtain rfl : opened = next := Option.some.inj ho
    have hshape : (layout.write (.single tag)).toList ++ rest
        = layout.indent.toList ++ '<' :: (tag.write.toList ++ '/' :: '>' :: rest) := by
      simp [Layout.write]
    have htag : readFrom opened ('<' :: (tag.write.toList ++ '/' :: '>' :: rest))
        = (readFrom opened rest).cons (.single tag) := by
      rw [readFrom, Lexeme.readAll_of_next? (Lexeme.next?_single hw rest)]
      simp only [Run.cons, ofLexemes, Tag.read_write hw]
      rfl
    rw [hshape, readFrom_indent, htag]
    simp [Layout.heard, Run.cons]
  | closing name =>
    cases opened with
    | nil => simp [openAfter?] at ho
    | cons innermost others =>
      obtain ⟨hname, rfl⟩ : (name == innermost) = true ∧ others = next := by
        simpa [openAfter?] using ho
      have hshape : (layout.write (.closing name)).toList ++ rest
          = (Layout.indent ⟨layout.depth - 1, layout.breaks⟩).toList
            ++ '<' :: ('/' :: name.toList ++ '>' :: rest) := by
        simp [Layout.write]
      have htag : readFrom (innermost :: others) ('<' :: ('/' :: name.toList ++ '>' :: rest))
          = (readFrom others rest).cons (.closing name) := by
        rw [readFrom, Lexeme.readAll_of_next? (Lexeme.next?_closing hw rest)]
        simp only [Run.cons, ofLexemes, Lexeme.closingName_of_isPlain hw, String.ofList_toList,
          hname, if_true]
        rfl
      rw [hshape, readFrom_indent, htag]
      simp [Layout.heard, Run.cons]

/-- **Written events are heard in full**, whatever their texts and attribute values hold, and
    reading goes on with what follows them. -/
theorem readFrom_written {events : List Event} {opened last : List String}
    (hw : ∀ event ∈ events, event.IsWritable) (ht : textsApart events = true)
    (ho : openAfterAll? opened events = some last) (layout : Layout) (rest : List Char) :
    readFrom opened ((String.join (layout.writeAll events)).toList ++ rest)
      = (Run.ofList (layout.heardAll events)).append (readFrom last rest) := by
  induction events generalizing opened layout with
  | nil =>
    obtain rfl : opened = last := Option.some.inj ho
    rfl
  | cons event events ih =>
    obtain ⟨next, hnext, hlast⟩ := Option.bind_eq_some_iff.1 ho
    simp only [textsApart, Bool.and_eq_true, Bool.or_eq_true, Bool.not_eq_true'] at ht
    have ihrest := ih (fun other h => hw other (by simp [h])) ht.2 hlast (layout.after event)
    have hjoin : (String.join (layout.writeAll (event :: events))).toList ++ rest
        = (layout.write event).toList
          ++ ((String.join ((layout.after event).writeAll events)).toList ++ rest) := by
      simp [Layout.writeAll]
    have hheard : (Run.ofList (layout.heardAll (event :: events)) : Run Fault Event)
        = (Run.ofList (layout.heard event)).append
            (Run.ofList ((layout.after event).heardAll events)) := rfl
    rw [hjoin, hheard, Run.append_assoc, ← ihrest]
    cases htag : event.isText with
    | false => exact readFrom_tag (hw event (by simp)) htag hnext layout _
    | true =>
      -- the text ends where the tag after it starts, since no line break stands between them
      cases event with
      | text content =>
        obtain rfl : opened = next := Option.some.inj hnext
        cases events with
        | nil => simp [isText] at ht
        | cons following events =>
          have hfollowing : following.isText = false := by simpa [isText] using ht.1
          obtain ⟨more, hmore⟩ :=
            exists_write_eq_angle (layout.after (.text content)) rfl hfollowing
          have hshape : (String.join ((layout.after (.text content)).writeAll
              (following :: events))).toList ++ rest
              = '<' :: (more ++ ((String.join (((layout.after (.text content)).after
                  following).writeAll events)).toList ++ rest)) := by
            simp [Layout.writeAll, hmore]
          rw [hshape]
          exact readFrom_writtenText opened layout content _
      | _ => simp [isText] at htag

end Event
end SchemaDump.Markup
