import Strobengine.Protocols.Sse.Parser

/-!
# Written streams of server-sent events

A stream is written as blocks of lines, each closed by an empty line. A block describes an
event, or it holds nothing but comments and `retry` fields.
-/

namespace Strobengine.Protocols.Sse

open Foundations Rust

def Plain (character : Char) : Prop :=
  character ≠ '\r' ∧ character ≠ '\n'

structure LineText where
  text : List Char
  unbroken : ∀ character ∈ text, Plain character

inductive LineEnd where
  | lf
  | crlf
  deriving DecidableEq, Repr

def LineEnd.text : LineEnd → List Char
  | .lf => ['\n']
  | .crlf => ['\r', '\n']

/-- A field value behind its colon: the space in front may be left out if the value does
not begin with one. -/
structure FieldValue where
  value : LineText
  spaced : Bool
  separated : spaced = false → value.text.head? ≠ some ' '

def FieldValue.render (field : FieldValue) : List Char :=
  if field.spaced then ' ' :: field.value.text else field.value.text

inductive Line where
  | comment (text : LineText)
  | retry (text : LineText)
  | event (field : FieldValue)
  | id (field : FieldValue)
  | data (field : FieldValue)

namespace Line

def render : Line → List Char
  | .comment text => ":".toList ++ text.text
  | .retry text => "retry:".toList ++ text.text
  | .event field => "event:".toList ++ field.render
  | .id field => "id:".toList ++ field.render
  | .data field => "data:".toList ++ field.render

def event? : Line → Option LineText
  | .event field => some field.value
  | _ => none

def id? : Line → Option LineText
  | .id field => some field.value
  | _ => none

def data? : Line → Option LineText
  | .data field => some field.value
  | _ => none

end Line

open Line (event? id? data?)

/-- Lines up to an empty line, which ends like the line before it. -/
structure Block where
  lines : List (Line × LineEnd)
  last : Line
  lineEnd : LineEnd

namespace Block

def body (block : Block) : List Char :=
  block.lines.flatMap (fun line => line.1.render ++ line.2.text) ++ block.last.render

def render (block : Block) : List Char :=
  block.body ++ (block.lineEnd.text ++ block.lineEnd.text)

def allLines (block : Block) : List Line :=
  block.lines.map Prod.fst ++ [block.last]

end Block

structure Event where
  eventType : LineText
  id : Option LineText
  data : List LineText
  nonempty : data ≠ []

def Event.parsed (event : Event) : SseEvent :=
  { eventType := String.ofList event.eventType.text
    data := "\n".intercalate (event.data.map (fun line => String.ofList line.text))
    id := event.id.map (fun id => String.ofList id.text) }

/-- The block describes the event; an empty type need not be written. -/
structure Block.Describes (block : Block) (event : Event) : Prop where
  eventType :
    block.allLines.filterMap event? = [event.eventType] ∨
      block.allLines.filterMap event? = [] ∧ event.eventType.text = []
  id : block.allLines.filterMap id? = event.id.toList
  data : block.allLines.filterMap data? = event.data

/-- The block holds nothing but comments and `retry` fields. -/
structure Block.Silent (block : Block) : Prop where
  eventType : block.allLines.filterMap event? = []
  id : block.allLines.filterMap id? = []
  data : block.allLines.filterMap data? = []

/-- The blocks write the events, one block for each and silent blocks in between. -/
inductive Writes : List Block → List Event → Prop where
  | nil : Writes [] []
  | event {block : Block} {event : Event} {blocks : List Block} {events : List Event}
      (describes : block.Describes event) (later : Writes blocks events) :
      Writes (block :: blocks) (event :: events)
  | silent {block : Block} {blocks : List Block} {events : List Event} (silent : block.Silent)
      (later : Writes blocks events) :
      Writes (block :: blocks) events

theorem FieldValue.plain_render (field : FieldValue) :
    ∀ character ∈ field.render, Plain character := by
  unfold FieldValue.render
  split
  · intro character member
    rcases List.mem_cons.mp member with rfl | inside
    · exact ⟨by decide, by decide⟩
    · exact field.value.unbroken character inside
  · exact field.value.unbroken

theorem plain_append {name rest : List Char} (before : ∀ character ∈ name, Plain character)
    (after : ∀ character ∈ rest, Plain character) :
    ∀ character ∈ name ++ rest, Plain character := by
  intro character member
  rcases List.mem_append.mp member with first | second
  · exact before character first
  · exact after character second

theorem Line.plain_render (line : Line) : ∀ character ∈ line.render, Plain character := by
  cases line with
  | comment text => exact plain_append (by simp [Plain]) text.unbroken
  | retry text => exact plain_append (by simp [Plain]) text.unbroken
  | event field => exact plain_append (by simp [Plain]) field.plain_render
  | id field => exact plain_append (by simp [Plain]) field.plain_render
  | data field => exact plain_append (by simp [Plain]) field.plain_render

theorem Line.render_ne_nil (line : Line) : line.render ≠ [] := by
  cases line <;> exact List.cons_ne_nil _ _

theorem stripSpace_render (field : FieldValue) : stripSpace field.render = field.value.text := by
  unfold FieldValue.render
  split
  · rfl
  · rename_i tight
    have first := field.separated (Bool.eq_false_iff.mpr tight)
    cases text : field.value.text with
    | nil => rfl
    | cons character =>
      rw [text] at first
      have other : ¬ ' ' = character := fun same => first (congrArg some same.symm)
      unfold stripSpace
      simp [List.isPrefixOf?, other]

theorem readLine_render (fields : FrameFields) (line : Line) :
    fields.readLine line.render =
      { eventType := (line.event?.map LineText.text).getD fields.eventType
        dataLines := fields.dataLines ++ (line.data?.map LineText.text).toList
        id := (line.id?.map LineText.text).or fields.id } := by
  cases line with
  | comment | retry =>
    simp only [event?, data?, id?, Option.map_none, Option.getD_none,
      Option.toList_none, List.append_nil, Option.none_or]
    rfl
  | event field =>
    have read :
        fields.readLine (Line.event field).render =
          { fields with eventType := stripSpace field.render } := rfl
    rw [read, stripSpace_render]
    simp [event?, data?, id?]
  | id field =>
    have read :
        fields.readLine (Line.id field).render =
          { fields with id := some (stripSpace field.render) } := rfl
    rw [read, stripSpace_render]
    simp [event?, data?, id?]
  | data field =>
    have read :
        fields.readLine (Line.data field).render =
          { fields with dataLines := fields.dataLines ++ [stripSpace field.render] } := rfl
    rw [read, stripSpace_render]
    simp [event?, data?, id?]

theorem foldl_readLine (fields : FrameFields) (lines : List Line) :
    (lines.map Line.render).foldl FrameFields.readLine fields =
      { eventType :=
          ((lines.filterMap event?).getLast?.map LineText.text).getD fields.eventType
        dataLines := fields.dataLines ++ (lines.filterMap data?).map LineText.text
        id := ((lines.filterMap id?).getLast?.map LineText.text).or fields.id } := by
  induction lines using List.reverseRecOn with
  | nil => simp
  | append_singleton lines line ih =>
    rw [List.map_append, List.map_singleton, List.foldl_concat, ih, readLine_render]
    cases line with
    | comment | retry | event | id | data => simp [event?, data?, id?]

/-! ## Lines of a block -/

theorem stripCarriageReturn_plain {line : List Char} (plain : ∀ character ∈ line, Plain character) :
    stripCarriageReturn line = line := by
  unfold stripCarriageReturn
  split
  · rename_i ends
    exact absurd rfl (plain '\r' (List.mem_of_getLast? ends)).1
  · rfl

theorem lines_append_lineEnd
    {line : List Char} (plain : ∀ character ∈ line, Plain character) (lineEnd : LineEnd)
    (rest : List Char) :
    lines (line ++ lineEnd.text ++ rest) = line :: lines rest := by
  cases lineEnd with
  | lf =>
    have unbroken : '\n' ∉ line := fun inside => (plain '\n' inside).2 rfl
    rw [List.append_assoc]
    change lines (line ++ '\n' :: rest) = _
    rw [lines_append_newline unbroken, stripCarriageReturn_plain plain]
  | crlf =>
    have unbroken : '\n' ∉ line ++ ['\r'] := by
      intro inside
      rcases List.mem_append.mp inside with before | last
      · exact (plain '\n' before).2 rfl
      · exact absurd (List.mem_singleton.mp last) (by decide)
    have split : line ++ LineEnd.crlf.text ++ rest = (line ++ ['\r']) ++ '\n' :: rest := by
      simp [LineEnd.text]
    rw [split, lines_append_newline unbroken]
    simp [stripCarriageReturn]

theorem lines_body (block : Block) : lines block.body = block.allLines.map Line.render := by
  unfold Block.body Block.allLines
  induction block.lines with
  | nil =>
    have plain := block.last.plain_render
    exact lines_of_unbroken (fun inside => (plain '\n' inside).2 rfl) block.last.render_ne_nil
  | cons line rest ih =>
    rw [List.flatMap_cons, List.append_assoc, lines_append_lineEnd line.1.plain_render line.2, ih]
    rfl

theorem parseFrame_body (block : Block) :
    parseFrame block.body =
      if (block.allLines.filterMap data?).isEmpty then
        none
      else
        some
          { eventType :=
              String.ofList
                (((block.allLines.filterMap event?).getLast?.map LineText.text).getD [])
            data :=
              "\n".intercalate
                ((block.allLines.filterMap data?).map
                  (fun line => String.ofList line.text))
            id :=
              ((block.allLines.filterMap id?).getLast?.map
                (fun id => String.ofList id.text)) } := by
  unfold parseFrame
  rw [lines_body, foldl_readLine]
  simp only [List.nil_append, Option.or_none, List.isEmpty_map, List.map_map, Option.map_map]
  rfl

theorem parseFrame_of_describes
    {block : Block} {event : Event} (describes : block.Describes event) :
    parseFrame block.body = some event.parsed := by
  rw [parseFrame_body, describes.data, describes.id]
  rw [if_neg (by simpa using event.nonempty)]
  have eventType :
      ((block.allLines.filterMap event?).getLast?.map LineText.text).getD [] =
        event.eventType.text := by
    rcases describes.eventType with written | ⟨missing, empty⟩
    · rw [written]
      rfl
    · rw [missing, empty]
      rfl
  rw [eventType]
  cases written : event.id with
  | none | some => simp [Event.parsed, written]

theorem parseFrame_of_silent {block : Block} (silent : block.Silent) :
    parseFrame block.body = none := by
  rw [parseFrame_body, silent.data]
  rfl

theorem filterMap_parseFrame_of_writes
    {blocks : List Block} {events : List Event} (writes : Writes blocks events) :
    (blocks.map Block.body).filterMap parseFrame = events.map Event.parsed := by
  induction writes with
  | nil => rfl
  | event describes later ih =>
    rw [List.map_cons, List.filterMap_cons_some (parseFrame_of_describes describes), ih]
    rfl
  | silent silent later ih =>
    rw [List.map_cons, List.filterMap_cons_none (parseFrame_of_silent silent), ih]

section Front

variable {character : Char} {rest : List Char}

theorem front_of_plain (plain : Plain character) :
    frameDelimiters.front (character :: rest) = none := by
  have notCr : ¬ '\r' = character := fun same => plain.1 same.symm
  have notLf : ¬ '\n' = character := fun same => plain.2 same.symm
  rw [front_frameDelimiters]
  simp [crlfDelimiter, lfDelimiter, List.isPrefixOf, notCr, notLf]

theorem front_of_lf (plain : Plain character) :
    frameDelimiters.front ('\n' :: character :: rest) = none := by
  have notLf : ¬ '\n' = character := fun same => plain.2 same.symm
  rw [front_frameDelimiters]
  simp [crlfDelimiter, lfDelimiter, List.isPrefixOf, notLf]

theorem front_of_crlf (plain : Plain character) :
    frameDelimiters.front ('\r' :: '\n' :: character :: rest) = none := by
  have notCr : ¬ '\r' = character := fun same => plain.1 same.symm
  rw [front_frameDelimiters]
  simp [crlfDelimiter, lfDelimiter, List.isPrefixOf, notCr]

end Front

theorem cut_render_append (line : Line) (text : List Char) :
    frameDelimiters.cut (line.render ++ text) =
      (frameDelimiters.cut text).map
        (fun later => { later with before := line.render ++ later.before }) := by
  apply Delimiters.cut_past
  intro before character after split
  apply front_of_plain
  apply line.plain_render
  rw [split]
  simp

theorem cut_lineEnd_append (lineEnd : LineEnd) (line : Line) (text : List Char) :
    frameDelimiters.cut (lineEnd.text ++ (line.render ++ text)) =
      (frameDelimiters.cut (line.render ++ text)).map
        (fun later => { later with before := lineEnd.text ++ later.before }) := by
  obtain ⟨character, rest, first⟩ := List.exists_cons_of_ne_nil line.render_ne_nil
  have plain : Plain character := line.plain_render character (by rw [first]; simp)
  rw [first, List.cons_append]
  cases lineEnd with
  | lf =>
    change frameDelimiters.cut ('\n' :: character :: (rest ++ text)) = _
    rw [Delimiters.cut_of_no_front (front_of_lf plain)]
    rfl
  | crlf =>
    change frameDelimiters.cut ('\r' :: '\n' :: character :: (rest ++ text)) = _
    rw [Delimiters.cut_of_no_front (front_of_crlf plain),
      Delimiters.cut_of_no_front (front_of_lf plain), Option.map_map]
    rfl

theorem cut_delimiter (lineEnd : LineEnd) (text : List Char) :
    frameDelimiters.cut (lineEnd.text ++ lineEnd.text ++ text) =
      some { before := [], delimiter := lineEnd.text ++ lineEnd.text, rest := text } := by
  cases lineEnd with
  | lf =>
    have front : frameDelimiters.front ('\n' :: '\n' :: text) = some lfDelimiter := by
      rw [front_frameDelimiters]
      rfl
    exact Delimiters.cut_of_front front
  | crlf =>
    have front :
        frameDelimiters.front ('\r' :: '\n' :: '\r' :: '\n' :: text) = some crlfDelimiter := by
      rw [front_frameDelimiters]
      rfl
    exact Delimiters.cut_of_front front

theorem cut_block (block : Block) (text : List Char) :
    frameDelimiters.cut (block.render ++ text) =
      some
        { before := block.body
          delimiter := block.lineEnd.text ++ block.lineEnd.text
          rest := text } := by
  unfold Block.render Block.body
  -- the line after the current one decides whether the end of the current one is passed
  have next :
      ∀ lines : List (Line × LineEnd), ∃ line : Line, ∃ later,
        lines.flatMap (fun line => line.1.render ++ line.2.text) ++ block.last.render ++
            (block.lineEnd.text ++ block.lineEnd.text) ++ text =
          line.render ++ later := by
    intro lines
    cases lines with
    | nil =>
      refine ⟨block.last, block.lineEnd.text ++ block.lineEnd.text ++ text, ?_⟩
      rw [List.flatMap_nil, List.nil_append, List.append_assoc]
    | cons line rest =>
      refine
        ⟨line.1,
          line.2.text ++
            (rest.flatMap (fun line => line.1.render ++ line.2.text) ++ block.last.render ++
              (block.lineEnd.text ++ block.lineEnd.text) ++ text), ?_⟩
      simp [List.flatMap_cons]
  induction block.lines with
  | nil =>
    rw [List.flatMap_nil, List.nil_append, List.append_assoc, cut_render_append, cut_delimiter]
    simp
  | cons line rest ih =>
    obtain ⟨following, later, whole⟩ := next rest
    have split :
        (line :: rest).flatMap (fun line => line.1.render ++ line.2.text) ++
              block.last.render ++ (block.lineEnd.text ++ block.lineEnd.text) ++ text =
          line.1.render ++ (line.2.text ++ (following.render ++ later)) := by
      rw [← whole]
      simp [List.flatMap_cons]
    rw [split, cut_render_append, cut_lineEnd_append, ← whole, ih]
    simp [List.flatMap_cons]

theorem drain_blocks (blocks : List Block) :
    frameDelimiters.puller.drain (blocks.flatMap Block.render) =
      { items := blocks.map Block.body, error := none, rest := [] } := by
  induction blocks with
  | nil => exact Puller.drain_of_more (Delimiters.pull_of_no_cut rfl)
  | cons block blocks ih =>
    have cut := cut_block block (blocks.flatMap Block.render)
    rw [List.flatMap_cons, Puller.drain_of_item (Delimiters.pull_of_cut cut), ih]
    rfl

/-- However a written stream is cut into chunks, parsing it yields exactly the events that
were written, in order, and leaves nothing in the buffer. -/
theorem parse_written_events
    {blocks : List Block} {events : List Event} (writes : Writes blocks events)
    {chunks : List String}
    (arrived : String.join chunks = String.ofList (blocks.flatMap Block.render)) :
    parseSseChunks "" chunks = (events.map Event.parsed, "") := by
  have drained := drainFrames_eq (blocks.flatMap Block.render)
  rw [drain_blocks] at drained
  have text :
      "".toList ++ (String.ofList (blocks.flatMap Block.render)).toList =
        blocks.flatMap Block.render := by
    simp
  rw [(parse_independent_of_chunks chunks).1, arrived, parseSseChunk, text, drained]
  dsimp only [Sse.events]
  rw [filterMap_parseFrame_of_writes writes]

/-- A comment, two lines of data, and an id in front of data that begins with a space. -/
def sampleBlocks : List Block :=
  [{ lines := [], last := .comment ⟨[' ', 'c'], by simp [Plain]⟩, lineEnd := .lf },
    { lines := [(.data ⟨⟨['a'], by simp [Plain]⟩, true, by decide⟩, .lf)]
      last := .data ⟨⟨[], by simp [Plain]⟩, false, by decide⟩
      lineEnd := .lf },
    { lines := [(.id ⟨⟨['7'], by simp [Plain]⟩, false, by decide⟩, .crlf)]
      last := .data ⟨⟨[' ', 'b'], by simp [Plain]⟩, true, by decide⟩
      lineEnd := .crlf }]

def sampleEvents : List Event :=
  [{ eventType := ⟨[], by simp [Plain]⟩
     id := none
     data := [⟨['a'], by simp [Plain]⟩, ⟨[], by simp [Plain]⟩]
     nonempty := by decide },
    { eventType := ⟨[], by simp [Plain]⟩
      id := some ⟨['7'], by simp [Plain]⟩
      data := [⟨[' ', 'b'], by simp [Plain]⟩]
      nonempty := by decide }]

theorem parse_written_events_sample :
    parseSseChunks "" [": c\n\ndata: a\nda", "ta:\n\nid:7\r\ndata:  b\r\n\r\n"] =
      ([{ eventType := "", data := "a\n", id := none },
          { eventType := "", data := " b", id := some "7" }],
        "") := by
  have writes : Writes sampleBlocks sampleEvents :=
    .silent ⟨rfl, rfl, rfl⟩
      (.event ⟨.inr ⟨rfl, rfl⟩, rfl, rfl⟩ (.event ⟨.inr ⟨rfl, rfl⟩, rfl, rfl⟩ .nil))
  exact parse_written_events writes (by decide +kernel)

end Strobengine.Protocols.Sse
