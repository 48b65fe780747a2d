/-
  SchemaDump/Proofs/Markup/Truncated.lean
  =======================================
  **What is read of written events that break off.**

  A tag that has been found stays the same however the text goes on, so no
  beginning of a written tag is itself a tag (`afterAngle?_eq_none_of_cut`).  If
  written events break off within a tag, reading therefore fails there; if they
  break off elsewhere, the reader hears the events before the break and at most
  a part of a text more (`readFrom_truncated`).
-/
import SchemaDump.Proofs.Markup.Written

namespace SchemaDump.Markup

/-! ### Tags that break off -/

/-- The end of a tag does not depend on what follows it. -/
theorem cutTag?_extended {quote : Option Char} {cs before after : List Char}
    (h : cutTag? quote cs = some (before, after)) (more : List Char) :
    cutTag? quote (cs ++ more) = some (before, after ++ more) := by
  induction cs generalizing quote before with
  | nil => simp [cutTag?] at h
  | cons c cs ih =>
    cases quote with
    | none =>
      rw [List.cons_append, cutTag?]
      rw [cutTag?] at h
      split_ifs at h ⊢ with hend hquote
      · simp_all
      all_goals
        obtain ⟨⟨found, left⟩, hcut, heq⟩ := Option.map_eq_some_iff.1 h
        obtain ⟨rfl, rfl⟩ := Prod.mk.inj heq
        rw [ih hcut]
        rfl
    | some mark =>
      rw [List.cons_append, cutTag?]
      rw [cutTag?] at h
      obtain ⟨⟨found, left⟩, hcut, heq⟩ := Option.map_eq_some_iff.1 h
      obtain ⟨rfl, rfl⟩ := Prod.mk.inj heq
      rw [ih hcut]
      rfl

/-- A tag that ends with the text is not found in any beginning of the text. -/
theorem cutTag?_eq_none_of_cut {quote : Option Char} {part rest inside : List Char}
    (h : cutTag? quote (part ++ rest) = some (inside, [])) (hrest : rest ≠ []) :
    cutTag? quote part = none := by
  cases hpart : cutTag? quote part with
  | none => rfl
  | some found =>
    obtain ⟨before, after⟩ := found
    have hextended := (cutTag?_extended hpart rest).symm.trans h
    have hnil : after ++ rest = [] := (Prod.mk.inj (Option.some.inj hextended)).2
    exact absurd (List.append_eq_nil_iff.1 hnil).2 hrest

namespace Lexeme

/-- A written tag that breaks off before its end is no tag. -/
theorem afterAngle?_tag_cut {tag : Tag} (hw : tag.IsWritable) {ending part rest found : List Char}
    (hending : cutTag? none ending = some (found, []))
    (h : tag.write.toList ++ ending = part ++ rest) (hrest : rest ≠ []) :
    afterAngle? part = none := by
  obtain ⟨c, cs, hcons, hc⟩ := exists_write_eq_cons hw
  cases part with
  | nil => rfl
  | cons d part =>
    have hcut := cutTag?_write hw ending
    rw [h, hending, Option.map_some] at hcut
    rw [hcons, List.cons_append, List.cons_append] at h
    obtain ⟨rfl, -⟩ := List.cons.inj h
    rw [afterAngle?_of_isPlainChar hc, cutTag?_eq_none_of_cut hcut hrest]
    rfl

theorem afterAngle?_declaration_cut {part rest : List Char}
    (h : "?xml version=\"1.0\"?>".toList = part ++ rest) (hrest : rest ≠ []) :
    afterAngle? part = none := by
  have hall : ∀ n < 20, afterAngle? ("?xml version=\"1.0\"?>".toList.take n) = none := by
    decide
  have htake : part = "?xml version=\"1.0\"?>".toList.take part.length := by
    rw [h, List.take_left]
  have hlength : part.length < 20 := by
    have hsum := congrArg List.length h
    have hpos := List.length_pos_iff.2 hrest
    rw [List.length_append] at hsum
    change 20 = _ at hsum
    omega
  rw [htake]
  exact hall _ hlength

end Lexeme

namespace Event

/-- What is written of a tag after the angle bracket that starts it. -/
def inside : Event → List Char
  | .declaration => "?xml version=\"1.0\"?>".toList
  | .opening tag => tag.write.toList ++ ['>']
  | .single tag => tag.write.toList ++ ['/', '>']
  | .closing name => '/' :: name.toList ++ ['>']
  | .text _ => []

/-- **No beginning of a written tag is a tag.** -/
theorem afterAngle?_eq_none_of_cut {event : Event} (hw : event.IsWritable)
    (ht : event.isText = false) {part rest : List Char} (h : event.inside = part ++ rest)
    (hrest : rest ≠ []) : Lexeme.afterAngle? part = none := by
  cases event with
  | declaration => exact Lexeme.afterAngle?_declaration_cut h hrest
  | opening tag => exact Lexeme.afterAngle?_tag_cut hw (by rfl) h hrest
  | single tag => exact Lexeme.afterAngle?_tag_cut hw (by rfl) h hrest
  | closing name =>
    have hsafe : ∀ c ∈ name.toList, isSafe c = true := fun c hc =>
      isSafe_of_isPlainChar (isPlainChar_of_mem hw hc)
    have hcut : cutTag? none (name.toList ++ ['>']) = some (name.toList, []) := by
      rw [cutTag?_append hsafe]
      simp [cutTag?]
    cases part with
    | nil => rfl
    | cons d part =>
      obtain ⟨rfl, hname⟩ : '/' = d ∧ name.toList ++ ['>'] = part ++ rest := List.cons.inj h
      rw [hname] at hcut
      rw [Lexeme.afterAngle?, cutTag?_eq_none_of_cut hcut hrest]
      rfl
  | text content => cases ht

/-! ### Events that break off -/

/-- A tag is written as line break, angle bracket and inside. -/
theorem exists_write_eq_inside (layout : Layout) {event : Event} (ht : event.isText = false) :
    ∃ margin : Layout,
      (layout.write event).toList = margin.indent.toList ++ '<' :: event.inside := by
  cases event with
  | declaration =>
    have hinside : inside .declaration = "?xml version=\"1.0\"?>".toList := rfl
    exact ⟨layout, by simp [Layout.write, hinside]⟩
  | opening tag =>
    have hinside : inside (.opening tag) = tag.write.toList ++ ['>'] := rfl
    exact ⟨layout, by simp [Layout.write, hinside]⟩
  | single tag =>
    have hinside : inside (.single tag) = tag.write.toList ++ ['/', '>'] := rfl
    exact ⟨layout, by simp [Layout.write, hinside]⟩
  | closing name =>
    have hinside : inside (.closing name) = '/' :: name.toList ++ ['>'] := rfl
    exact ⟨⟨layout.depth - 1, layout.breaks⟩, by simp [Layout.write, hinside]⟩
  | text content => cases ht

/-- Without an angle bracket all is text, if it is sound. -/
theorem readFrom_plain (opened : List String) {cs : List Char} (h : ∀ d ∈ cs, d ≠ '<') :
    (readFrom opened cs).failure ≠ none
      ∨ ∀ event ∈ (readFrom opened cs).items, event.isText = true := by
  cases cs with
  | nil =>
    right
    intro event hevent
    rw [readFrom, Lexeme.readAll] at hevent
    cases hevent
  | cons c cs =>
    have hnext : Lexeme.next? c cs = some (.text (c :: cs), []) := by
      have hc : (c == '<') = false := by simpa using h c (by simp)
      have hcs : ∀ d ∈ cs, (d != '<') = true := by
        intro d hd
        simpa using h d (by simp [hd])
      have htake : cs.takeWhile (· != '<') = cs := by
        simpa using @List.takeWhile_append_of_pos _ _ cs [] hcs
      have hdrop : cs.dropWhile (· != '<') = [] := by
        simpa using @List.dropWhile_append_of_pos _ _ cs [] hcs
      rw [Lexeme.next?, hc, htake, hdrop]
      rfl
    rw [readFrom, Lexeme.readAll_of_next? hnext, Lexeme.readAll]
    simp only [Run.cons, Run.ofList, ofLexemes]
    cases unescape? (c :: cs) with
    | none => exact .inl (by simp [Run.broken])
    | some text =>
      right
      intro event hevent
      obtain rfl := List.mem_singleton.1 hevent
      rfl

theorem readFrom_brokenTag (opened : List String) {cs : List Char}
    (h : Lexeme.afterAngle? cs = none) : (readFrom opened ('<' :: cs)).failure ≠ none := by
  have hnext : Lexeme.next? '<' cs = none := h
  have hread : Lexeme.readAll ('<' :: cs) = Run.broken .malformed := by
    rw [Lexeme.readAll]
    split
    · rfl
    · simp_all
  rw [readFrom, hread]
  simp [Run.broken, ofLexemes]

theorem forall_mem_indent (layout : Layout) : ∀ d ∈ layout.indent.toList, d ≠ '<' := by
  intro d hd
  unfold Layout.indent at hd
  split_ifs at hd
  · rw [String.toList_ofList, List.mem_cons, List.mem_replicate] at hd
    rcases hd with rfl | ⟨-, rfl⟩ <;> decide
  · cases hd

/-- A text that is written holds no angle bracket. -/
theorem forall_mem_writtenText (layout : Layout) (content : String) :
    ∀ d ∈ (layout.write (.text content)).toList, d ≠ '<' := by
  intro d hd
  have hescape : (layout.write (.text content)).toList = escape content.toList := by
    simp [Layout.write]
  have hsafe := isSafe_of_mem_escape (hescape ▸ hd)
  simp_all [isSafe]

/-- What is read of events that break off: a fault, or some of the events in full, at least one of
    them not, and after them nothing but text. -/
def BreaksOff (layout : Layout) (events : List Event) (run : Run Fault Event) : Prop :=
  run.failure ≠ none
    ∨ ∃ first more texts, events = first ++ more ∧ more ≠ []
        ∧ (∀ event ∈ texts, isText event = true) ∧ run.items = layout.heardAll first ++ texts

theorem BreaksOff.of_plain {layout : Layout} {event : Event} {events : List Event}
    {run : Run Fault Event} (h : run.failure ≠ none ∨ ∀ heard ∈ run.items, heard.isText = true) :
    BreaksOff layout (event :: events) run := by
  rcases h with hfailure | htexts
  · exact .inl hfailure
  · exact .inr ⟨[], event :: events, run.items, rfl, List.cons_ne_nil _ _, htexts, rfl⟩

theorem BreaksOff.cons {layout : Layout} {event : Event} {events : List Event}
    {run : Run Fault Event} (h : BreaksOff (layout.after event) events run) :
    BreaksOff layout (event :: events) ((Run.ofList (layout.heard event)).append run) := by
  rcases h with hfailure | ⟨first, more, texts, rfl, hmore, htexts, hitems⟩
  · exact .inl hfailure
  · refine .inr ⟨event :: first, more, texts, rfl, hmore, htexts, ?_⟩
    simp [hitems, Layout.heardAll]

theorem readFrom_cutEvent (opened : List String) (layout : Layout) {event : Event}
    (hw : event.IsWritable) {part rest : List Char}
    (h : (layout.write event).toList = part ++ rest) (hrest : rest ≠ []) :
    (readFrom opened part).failure ≠ none
      ∨ ∀ heard ∈ (readFrom opened part).items, heard.isText = true := by
  cases ht : event.isText with
  | true =>
    cases event with
    | text content =>
      refine readFrom_plain opened fun d hd => forall_mem_writtenText layout content d ?_
      rw [h]
      exact List.mem_append_left rest hd
    | _ => cases ht
  | false =>
    obtain ⟨margin, hwrite⟩ := exists_write_eq_inside layout ht
    rw [hwrite] at h
    rcases List.append_eq_append_iff.1 h with ⟨more, rfl, htag⟩ | ⟨more, hmargin, rfl⟩
    · cases more with
      | nil =>
        rw [List.append_nil]
        exact readFrom_plain opened (forall_mem_indent margin)
      | cons d more =>
        -- the break is within the tag
        obtain ⟨rfl, hinside⟩ := List.cons.inj htag
        left
        rw [readFrom_indent]
        exact readFrom_brokenTag opened (afterAngle?_eq_none_of_cut hw ht hinside hrest)
    · refine readFrom_plain opened fun d hd => forall_mem_indent margin d ?_
      rw [hmargin]
      exact List.mem_append_left more hd

/-- **Written events that break off are heard up to the break.** -/
theorem readFrom_truncated {events : List Event} {opened last : List String}
    (hw : ∀ event ∈ events, event.IsWritable) (ht : textsApart events = true)
    (ho : openAfterAll? opened events = some last) (layout : Layout) {part rest : List Char}
    (h : (String.join (layout.writeAll events)).toList = part ++ rest) (hrest : rest ≠ []) :
    BreaksOff layout events (readFrom opened part) := by
  induction events generalizing opened layout part with
  | nil =>
    have hnil : part ++ rest = [] := h.symm
    exact absurd (List.append_eq_nil_iff.1 hnil).2 hrest
  | cons event events ih =>
    obtain ⟨next, hnext, hlast⟩ := Option.bind_eq_some_iff.1 ho
    simp only [textsApart, Bool.and_eq_true, Bool.or_eq_true, Bool.not_eq_true'] at ht
    have hevent : event.IsWritable := hw event (by simp)
    have hjoin : (String.join (layout.writeAll (event :: events))).toList
        = (layout.write event).toList
          ++ (String.join ((layout.after event).writeAll events)).toList := by
      simp [Layout.writeAll]
    rw [hjoin] at h
    have hsplit : (∃ more, more ≠ [] ∧ (layout.write event).toList = part ++ more)
        ∨ ∃ more, part = (layout.write event).toList ++ more
            ∧ (String.join ((layout.after event).writeAll events)).toList = more ++ rest := by
      rcases List.append_eq_append_iff.1 h with ⟨more, hpart, hmore⟩ | ⟨more, hwrite, hmore⟩
      · exact .inr ⟨more, hpart, hmore⟩
      · cases more with
        | nil => exact .inr ⟨[], by simpa using hwrite.symm, hmore.symm⟩
        | cons d more => exact .inl ⟨d :: more, List.cons_ne_nil d more, hwrite⟩
    rcases hsplit with ⟨more, hmore, hwrite⟩ | ⟨more, rfl, hmore⟩
    · exact .of_plain (readFrom_cutEvent opened layout hevent hwrite hmore)
    · have ihmore := ih (fun other hother => hw other (by simp [hother])) ht.2 hlast
        (layout.after event) hmore
      cases htag : event.isText with
      | false =>
        rw [readFrom_tag hevent htag hnext]
        exact ihmore.cons
      | true =>
        cases event with
        | text content =>
          obtain rfl : opened = next := Option.some.inj hnext
          cases more with
          | nil =>
            rw [List.append_nil]
            exact .of_plain (readFrom_plain opened (forall_mem_writtenText layout content))
          | cons d more =>
            -- the text has been left, so what follows it is the tag that ends it
            obtain rfl : d = '<' := by
              cases events with
              | nil => simp [isText] at ht
              | cons following events =>
                have hfollowing : following.isText = false := by simpa [isText] using ht.1
                obtain ⟨tail, htail⟩ :=
                  exists_write_eq_angle (layout.after (.text content)) rfl hfollowing
                simp only [Layout.writeAll, String.join_cons, String.toList_append, htail,
                  List.cons_append] at hmore
                exact (List.cons.inj hmore).1.symm
            rw [readFrom_writtenText]
            exact ihmore.cons
        | _ => cases htag

end Event
end SchemaDump.Markup
