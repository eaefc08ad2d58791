import Strobengine.Foundations.Delimited
import Strobengine.Rust.Text

/-!
# Parsing server-sent events

Frames end with an empty line, `\n\n` or `\r\n\r\n`; the earlier of the two wins. What is parsed
from a stream does not depend on where its chunks were cut.
-/

namespace Strobengine.Protocols.Sse

open Foundations Rust

structure SseEvent where
  eventType : String
  data : String
  id : Option String
  deriving DecidableEq, Repr

structure FrameFields where
  eventType : List Char := []
  dataLines : List (List Char) := []
  id : Option (List Char) := none

def stripSpace (value : List Char) : List Char :=
  (" ".toList.isPrefixOf? value).getD value

def FrameFields.readLine (fields : FrameFields) (line : List Char) : FrameFields :=
  if ":".toList.isPrefixOf line then
    fields
  else
    match "data:".toList.isPrefixOf? line with
    | some value => { fields with dataLines := fields.dataLines ++ [stripSpace value] }
    | none =>
      match "event:".toList.isPrefixOf? line with
      | some value => { fields with eventType := stripSpace value }
      | none =>
        match "id:".toList.isPrefixOf? line with
        | some value => { fields with id := some (stripSpace value) }
        | none => fields

def parseFrame (frame : List Char) : Option SseEvent :=
  let fields := (lines frame).foldl FrameFields.readLine {}
  if fields.dataLines.isEmpty then
    none
  else
    some
      { eventType := String.ofList fields.eventType
        data := "\n".intercalate (fields.dataLines.map String.ofList)
        id := fields.id.map String.ofList }

/-! ## Frames in a buffer -/

def crlfDelimiter : List Char :=
  ['\r', '\n', '\r', '\n']

def lfDelimiter : List Char :=
  ['\n', '\n']

def findFrameEnd (buffer : List Char) : Option Nat :=
  match find crlfDelimiter buffer, find lfDelimiter buffer with
  | some crlf, some lf => some (min crlf lf)
  | some crlf, none => some crlf
  | none, some lf => some lf
  | none, none => none

def delimLen (buffer : List Char) (frameEnd : Nat) : Nat :=
  if crlfDelimiter.isPrefixOf (buffer.drop frameEnd) then 4 else 2

def frameDelimiters : Delimiters Char where
  all := [crlfDelimiter, lfDelimiter]
  nonempty := by decide
  unnested := by decide

theorem front_frameDelimiters (text : List Char) :
    frameDelimiters.front text = if crlfDelimiter.isPrefixOf text then some crlfDelimiter
      else if lfDelimiter.isPrefixOf text then some lfDelimiter
      else none := by
  simp only [Delimiters.front, frameDelimiters, List.find?_cons, List.find?_nil]
  cases crlfDelimiter.isPrefixOf text <;> cases lfDelimiter.isPrefixOf text <;> rfl

section FindFrameEnd

variable {character : Char} {rest : List Char}

theorem find_at_start {pattern : List Char}
    (stands : pattern.isPrefixOf (character :: rest) = true) :
    find pattern (character :: rest) = some 0 := by
  rw [find, if_pos stands]

theorem find_past_start {pattern : List Char}
    (missing : ¬ pattern.isPrefixOf (character :: rest) = true) :
    find pattern (character :: rest) = (find pattern rest).map (fun position => position + 1) := by
  rw [find, if_neg missing]

theorem findFrameEnd_of_delimiter
    (stands :
      crlfDelimiter.isPrefixOf (character :: rest) = true ∨
        lfDelimiter.isPrefixOf (character :: rest) = true) :
    findFrameEnd (character :: rest) = some 0 := by
  unfold findFrameEnd
  rcases stands with crlf | lf
  · rw [find_at_start crlf]
    cases find lfDelimiter (character :: rest) <;> simp
  · rw [find_at_start lf]
    cases find crlfDelimiter (character :: rest) <;> simp

theorem findFrameEnd_of_no_delimiter (crlf : ¬ crlfDelimiter.isPrefixOf (character :: rest) = true)
    (lf : ¬ lfDelimiter.isPrefixOf (character :: rest) = true) :
    findFrameEnd (character :: rest) = (findFrameEnd rest).map (fun position => position + 1) := by
  unfold findFrameEnd
  rw [find_past_start crlf, find_past_start lf]
  cases find crlfDelimiter rest <;> cases find lfDelimiter rest <;> simp

end FindFrameEnd

theorem findFrameEnd_eq_cut (buffer : List Char) :
    findFrameEnd buffer = (frameDelimiters.cut buffer).map (fun piece => piece.before.length) := by
  induction buffer with
  | nil => rfl
  | cons character rest ih =>
    have front := front_frameDelimiters (character :: rest)
    by_cases crlf : crlfDelimiter.isPrefixOf (character :: rest) = true
    · rw [if_pos crlf] at front
      rw [findFrameEnd_of_delimiter (Or.inl crlf), Delimiters.cut_of_front front]
      rfl
    · rw [if_neg crlf] at front
      by_cases lf : lfDelimiter.isPrefixOf (character :: rest) = true
      · rw [if_pos lf] at front
        rw [findFrameEnd_of_delimiter (Or.inr lf), Delimiters.cut_of_front front]
        rfl
      · rw [if_neg lf] at front
        rw [findFrameEnd_of_no_delimiter crlf lf, Delimiters.cut_of_no_front front,
          ih, Option.map_map, Option.map_map]
        rfl

theorem delimLen_of_cut {buffer : List Char} {piece : Cut Char}
    (found : frameDelimiters.cut buffer = some piece) :
    delimLen buffer piece.before.length = piece.delimiter.length := by
  have stands := (Delimiters.cut_spec found).2
  rw [front_frameDelimiters] at stands
  unfold delimLen
  split at stands
  · rename_i crlf
    rw [if_pos crlf, ← Option.some.inj stands]
    rfl
  · rename_i crlf
    split at stands
    · rw [if_neg crlf, ← Option.some.inj stands]
      rfl
    · cases stands

theorem pull_of_findFrameEnd {buffer : List Char} {frameEnd : Nat}
    (found : findFrameEnd buffer = some frameEnd) :
    frameDelimiters.puller.pull buffer =
      .item (buffer.take frameEnd) (buffer.drop (frameEnd + delimLen buffer frameEnd)) := by
  rw [findFrameEnd_eq_cut] at found
  obtain ⟨piece, cut, rfl⟩ := Option.map_eq_some_iff.mp found
  rw [Delimiters.pull_of_cut cut, delimLen_of_cut cut]
  have whole := (Delimiters.cut_spec cut).1
  have front : buffer.take piece.before.length = piece.before := by
    rw [whole]
    exact List.take_left
  have behind : buffer.drop (piece.before.length + piece.delimiter.length) = piece.rest := by
    rw [whole, ← List.append_assoc, ← List.length_append]
    exact List.drop_left
  rw [front, behind]

theorem pull_of_no_frameEnd {buffer : List Char} (missing : findFrameEnd buffer = none) :
    frameDelimiters.puller.pull buffer = .more buffer := by
  rw [findFrameEnd_eq_cut, Option.map_eq_none_iff] at missing
  exact Delimiters.pull_of_no_cut missing

/-- The loop of `parse_sse_chunk`: the events of all complete frames, and what is left. -/
def drainFrames (buffer : List Char) : List SseEvent × List Char :=
  match found : findFrameEnd buffer with
  | none => ([], buffer)
  | some frameEnd =>
    have := frameDelimiters.puller.shrinks (pull_of_findFrameEnd found)
    let later := drainFrames (buffer.drop (frameEnd + delimLen buffer frameEnd))
    ((parseFrame (buffer.take frameEnd)).toList ++ later.1, later.2)
termination_by buffer.length
decreasing_by exact this

/-- Parse SSE events from a chunk appended to a buffer; the buffer keeps what is
incomplete. -/
def parseSseChunk (buffer chunk : String) : List SseEvent × String :=
  let drained := drainFrames (buffer.toList ++ chunk.toList)
  (drained.1, String.ofList drained.2)

def parseSseChunks (buffer : String) : List String → List SseEvent × String
  | [] => ([], buffer)
  | chunk :: chunks =>
    let first := parseSseChunk buffer chunk
    let later := parseSseChunks first.2 chunks
    (first.1 ++ later.1, later.2)

def events (pulled : Yield Char (List Char) Empty) : List SseEvent × List Char :=
  (pulled.items.filterMap parseFrame, pulled.rest)

theorem drainFrames_eq (buffer : List Char) :
    drainFrames buffer = events (frameDelimiters.puller.drain buffer) := by
  induction size : buffer.length using Nat.strongRecOn generalizing buffer with
  | ind size ih =>
    rw [drainFrames]
    split
    · rename_i missing
      rw [Puller.drain_of_more (pull_of_no_frameEnd missing)]
      rfl
    · rename_i frameEnd found
      have pulled := pull_of_findFrameEnd found
      have shorter := frameDelimiters.puller.shrinks pulled
      rw [size] at shorter
      rw [Puller.drain_of_item pulled, ih _ shorter _ rfl]
      dsimp only [events]
      rw [List.filterMap_cons]
      cases parseFrame (buffer.take frameEnd) with
      | none | some => rfl

theorem parseSseChunks_eq_feed (buffer : String) (chunks : List String) :
    (parseSseChunks buffer chunks).1 =
        (events (frameDelimiters.puller.feed buffer.toList (chunks.map String.toList))).1 ∧
      (parseSseChunks buffer chunks).2.toList =
        (frameDelimiters.puller.feed buffer.toList (chunks.map String.toList)).rest := by
  induction chunks generalizing buffer with
  | nil => exact ⟨rfl, rfl⟩
  | cons chunk chunks ih =>
    have drained := drainFrames_eq (buffer.toList ++ chunk.toList)
    have left :
        (parseSseChunk buffer chunk).2.toList =
          (frameDelimiters.puller.drain (buffer.toList ++ chunk.toList)).rest := by
      rw [parseSseChunk, String.toList_ofList, drained]
      rfl
    obtain ⟨events, rest⟩ := ih (parseSseChunk buffer chunk).2
    rw [left] at events rest
    constructor
    · rw [parseSseChunks, events, List.map_cons, Puller.feed]
      dsimp only [Sse.events, Yield.followedBy]
      rw [List.filterMap_append, parseSseChunk, drained]
      rfl
    · rw [parseSseChunks, rest]
      rfl

theorem parseSseChunks_cons (buffer chunk : String) (chunks : List String) :
    parseSseChunks buffer (chunk :: chunks) =
      parseSseChunk buffer (String.join (chunk :: chunks)) := by
  obtain ⟨parsed, rest⟩ := parseSseChunks_eq_feed buffer (chunk :: chunks)
  have steady : frameDelimiters.puller.Steady := Delimiters.steady_puller
  have fed := steady.feed_eq_drain buffer.toList chunk.toList (chunks.map String.toList)
  have whole :
      (chunk.toList :: chunks.map String.toList).flatten =
        (String.join (chunk :: chunks)).toList := by
    rw [String.toList_join, List.flatMap_cons, List.flatten_cons, List.flatMap_def]
  rw [List.map_cons, fed, whole] at parsed rest
  have drained := drainFrames_eq (buffer.toList ++ (String.join (chunk :: chunks)).toList)
  apply Prod.ext
  · rw [parsed, parseSseChunk, drained]
  · apply String.toList_injective
    rw [rest, parseSseChunk, String.toList_ofList, drained]
    rfl

/-- What is parsed from a text and what is left of it do not depend on its chunks: neither
from an empty buffer nor, for at least one chunk, from any other. -/
theorem parse_independent_of_chunks (chunks : List String) :
    parseSseChunks "" chunks = parseSseChunk "" (String.join chunks) ∧
      ∀ buffer chunk,
        parseSseChunks buffer (chunk :: chunks) =
          parseSseChunk buffer (String.join (chunk :: chunks)) := by
  refine ⟨?_, fun buffer chunk => parseSseChunks_cons buffer chunk chunks⟩
  cases chunks with
  | nil =>
    -- nothing was fed, and nothing is complete in an empty buffer
    rw [parseSseChunks, parseSseChunk, drainFrames]
    rfl
  | cons chunk chunks => exact parseSseChunks_cons "" chunk chunks

end Strobengine.Protocols.Sse
