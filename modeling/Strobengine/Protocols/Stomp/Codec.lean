import Strobengine.Rust.Bytes

/-!
# The STOMP frame codec

A frame is a command line, header lines, a blank line, a body and a NULL octet. Offsets into the
buffer of the decoder are unbounded naturals; a cursor carries the proof that it lies within the
buffer.
-/

namespace Strobengine.Protocols.Stomp

open Rust

def nullOctet : UInt8 := 0

def lineFeed : UInt8 := 10

def carriageReturn : UInt8 := 13

def colon : UInt8 := 58

def backslash : UInt8 := 92

inductive CodecError where
  | utf8
  | missingHeaderValue
  | trailingEscape
  | invalidEscape
  | missingNull
  deriving DecidableEq, Repr

structure Frame where
  command : String
  headers : List (String × String)
  body : List UInt8
  deriving DecidableEq, Repr

def escapeByte (byte : UInt8) : List UInt8 :=
  if byte = lineFeed then [backslash, 110]
  else if byte = carriageReturn then [backslash, 114]
  else if byte = colon then [backslash, 99]
  else if byte = backslash then [backslash, backslash]
  else [byte]

def encodeHeader (value : String) : List UInt8 :=
  (utf8 value).flatMap escapeByte

def unescape : List Char → Except CodecError (List Char)
  | [] => .ok []
  | '\\' :: 'n' :: rest => (unescape rest).map (List.cons '\n')
  | '\\' :: 'r' :: rest => (unescape rest).map (List.cons '\r')
  | '\\' :: 'c' :: rest => (unescape rest).map (List.cons ':')
  | '\\' :: '\\' :: rest => (unescape rest).map (List.cons '\\')
  | '\\' :: _ :: _ => .error .invalidEscape
  | '\\' :: [] => .error .trailingEscape
  | character :: rest => (unescape rest).map (List.cons character)

def decodeHeader (bytes : List UInt8) : Except CodecError String :=
  match fromUtf8 bytes with
  | none => .error .utf8
  | some text => (unescape text.toList).map String.ofList

def findHeader (headers : List (String × String)) (name : String) : Option String :=
  (headers.find? (fun header => eqIgnoreAsciiCase header.1 name)).map Prod.snd

def contentLengthOf (headers : List (String × String)) : Option Nat :=
  (findHeader headers "content-length").bind (fun value => parseUsize (trim value))

def setHeaderIn (name value : String) : List (String × String) → List (String × String)
  | [] => [(name, value)]
  | header :: rest =>
    if eqIgnoreAsciiCase header.1 name then (header.1, value) :: rest
    else header :: setHeaderIn name value rest

namespace Frame

def new (command : String) : Frame :=
  { command, headers := [], body := [] }

def setHeader (frame : Frame) (name value : String) : Frame :=
  { frame with headers := setHeaderIn name value frame.headers }

def withBody (frame : Frame) (body : List UInt8) : Frame :=
  { frame with body }

def header (frame : Frame) (name : String) : Option String :=
  findHeader frame.headers name

def contentLength (frame : Frame) : Option Nat :=
  contentLengthOf frame.headers

def encodeHeaderLine (header : String × String) : List UInt8 :=
  encodeHeader header.1 ++ colon :: (encodeHeader header.2 ++ [lineFeed])

def encode (frame : Frame) : List UInt8 :=
  utf8 frame.command ++ lineFeed ::
    (frame.headers.flatMap encodeHeaderLine ++ lineFeed :: (frame.body ++ [nullOctet]))

end Frame

def stripCr (line : List UInt8) : List UInt8 :=
  if line.getLast? = some carriageReturn then line.dropLast else line

def find (haystack : List UInt8) (needle : UInt8) : Option Nat :=
  position haystack needle

def isEol (byte : UInt8) : Bool :=
  byte == lineFeed || byte == carriageReturn

abbrev Cursor (buf : List UInt8) :=
  { offset : Nat // offset ≤ buf.length }

inductive Scan (buf : List UInt8) (Value : Type) where
  | incomplete
  | failed (error : CodecError)
  | complete (value : Value) (next : Cursor buf)

def decodeHeaderLine (line : List UInt8) : Except CodecError (String × String) :=
  match find line colon with
  | none => .error .missingHeaderValue
  | some separator =>
    match decodeHeader (line.take separator) with
    | .error error => .error error
    | .ok name =>
      match decodeHeader (line.drop (separator + 1)) with
      | .error error => .error error
      | .ok value => .ok (name, value)

def Cursor.behind {buf : List UInt8} (cursor : Cursor buf) {needle : UInt8} {offset : Nat}
    (found : find (buf.drop cursor.val) needle = some offset) : Cursor buf :=
  ⟨cursor.val + offset + 1, by
    have bound := position_lt found
    rw [List.length_drop] at bound
    omega⟩

def scanHeaders (buf : List UInt8) (cursor : Cursor buf) (headers : List (String × String)) :
    Scan buf (List (String × String)) :=
  match found : find (buf.drop cursor.val) lineFeed with
  | none => .incomplete
  | some newline =>
    let line := stripCr ((buf.drop cursor.val).take newline)
    if line.isEmpty then
      .complete headers (cursor.behind found)
    else
      match decodeHeaderLine line with
      | .error error => .failed error
      | .ok header => scanHeaders buf (cursor.behind found) (headers ++ [header])
termination_by buf.length - cursor.val
decreasing_by
  have bound := position_lt found
  rw [List.length_drop] at bound
  simp only [Cursor.behind]
  omega

/-- Where a body that ends at a NULL octet ends: a single trailing EOL is a delimiter. -/
def trimmedEnd (buf : List UInt8) (start stop : Nat) : Nat :=
  if start < stop ∧ buf.getD (stop - 1) 0 = lineFeed then
    if start < stop - 1 ∧ buf.getD (stop - 2) 0 = carriageReturn then stop - 2 else stop - 1
  else
    stop

def slice (buf : List UInt8) (start stop : Nat) : List UInt8 :=
  (buf.drop start).take (stop - start)

def scanBody (buf : List UInt8) (cursor : Cursor buf) : Option Nat → Scan buf (List UInt8)
  | some length =>
    if short : buf.length ≤ cursor.val + length then
      .incomplete
    else if buf.getD (cursor.val + length) 0 ≠ nullOctet then
      .failed .missingNull
    else
      .complete (slice buf cursor.val (cursor.val + length))
        ⟨cursor.val + length + 1, Nat.lt_of_not_le short⟩
  | none =>
    match found : find (buf.drop cursor.val) nullOctet with
    | none => .incomplete
    | some offset =>
      .complete (slice buf cursor.val (trimmedEnd buf cursor.val (cursor.val + offset)))
        (cursor.behind found)

/-- Incremental frame decoder: the bytes before `pos` have been consumed. -/
structure Decoder where
  buf : List UInt8
  pos : Nat
  within : pos ≤ buf.length

namespace Decoder

def new : Decoder :=
  { buf := [], pos := 0, within := Nat.le_refl 0 }

def push (decoder : Decoder) (data : List UInt8) : Decoder :=
  { buf := decoder.buf ++ data
    pos := decoder.pos
    within := by
      rw [List.length_append]
      exact Nat.le_add_right_of_le decoder.within }

def pending (decoder : Decoder) : Nat :=
  decoder.buf.length - decoder.pos

def unread (decoder : Decoder) : List UInt8 :=
  decoder.buf.drop decoder.pos

def compact (decoder : Decoder) : Decoder :=
  if 0 < decoder.pos ∧ (decoder.pos = decoder.buf.length ∨ 4096 ≤ decoder.pos) then
    { buf := decoder.buf.drop decoder.pos, pos := 0, within := Nat.zero_le _ }
  else
    decoder

def skipEols (buf : List UInt8) (cursor : Cursor buf) : Cursor buf :=
  if inside : cursor.val < buf.length then
    if isEol (buf.get ⟨cursor.val, inside⟩) then
      skipEols buf ⟨cursor.val + 1, inside⟩
    else
      cursor
  else
    cursor
termination_by buf.length - cursor.val

def skipHeartbeats (decoder : Decoder) : Decoder :=
  let cursor := skipEols decoder.buf ⟨decoder.pos, decoder.within⟩
  compact { buf := decoder.buf, pos := cursor.val, within := cursor.property }

def moveTo (decoder : Decoder) (cursor : Cursor decoder.buf) : Decoder :=
  { buf := decoder.buf, pos := cursor.val, within := cursor.property }

@[simp]
theorem unread_push (decoder : Decoder) (data : List UInt8) :
    (decoder.push data).unread = decoder.unread ++ data := by
  rw [unread, push, List.drop_append_of_le_length decoder.within]
  rfl

@[simp]
theorem unread_compact (decoder : Decoder) : decoder.compact.unread = decoder.unread := by
  unfold compact
  split
  · exact List.drop_zero
  · rfl

theorem length_unread (decoder : Decoder) : decoder.unread.length = decoder.pending :=
  List.length_drop

theorem drop_skipEols (buf : List UInt8) (cursor : Cursor buf) :
    buf.drop (skipEols buf cursor).val = (buf.drop cursor.val).dropWhile isEol := by
  induction remaining : buf.length - cursor.val using Nat.strongRecOn
      generalizing cursor with
  | ind remaining ih =>
    rw [skipEols]
    split
    · rename_i inside
      rw [List.drop_eq_getElem_cons inside, List.dropWhile_cons]
      split
      · rename_i eol
        have eol : isEol buf[cursor.val] = true := eol
        rw [ih (buf.length - (cursor.val + 1)) (by omega) _ rfl, if_pos eol]
      · rename_i other
        have other : ¬ isEol buf[cursor.val] = true := other
        rw [List.drop_eq_getElem_cons inside, if_neg other]
    · rename_i outside
      rw [List.drop_of_length_le (Nat.le_of_not_lt outside)]
      rfl

@[simp]
theorem unread_skipHeartbeats (decoder : Decoder) :
    decoder.skipHeartbeats.unread = decoder.unread.dropWhile isEol := by
  rw [skipHeartbeats, unread_compact]
  exact drop_skipEols decoder.buf ⟨decoder.pos, decoder.within⟩

theorem unread_moveTo_behind (decoder : Decoder) {needle : UInt8} {offset : Nat}
    (found : find (decoder.buf.drop decoder.pos) needle = some offset) :
    (decoder.moveTo
        (Cursor.behind (⟨decoder.pos, decoder.within⟩ : Cursor decoder.buf) found)).unread =
      decoder.unread.drop (offset + 1) := by
  simp only [unread, moveTo, Cursor.behind, List.drop_drop, Nat.add_assoc]

def nextFrame (decoder : Decoder) : Except CodecError (Option Frame) × Decoder :=
  let skipped := decoder.skipHeartbeats
  match found : find (skipped.buf.drop skipped.pos) lineFeed with
  | none => (.ok none, skipped)
  | some newline =>
    let line := stripCr ((skipped.buf.drop skipped.pos).take newline)
    let cursor := Cursor.behind (⟨skipped.pos, skipped.within⟩ : Cursor skipped.buf) found
    if line.isEmpty then
      -- defensive: leading EOLs are normally consumed by `skipHeartbeats`
      nextFrame (skipped.moveTo cursor)
    else
      match fromUtf8 line with
      | none => (.error .utf8, skipped)
      | some text =>
        match scanHeaders skipped.buf cursor [] with
        | .incomplete => (.ok none, skipped)
        | .failed error => (.error error, skipped)
        | .complete headers cursor =>
          match scanBody skipped.buf cursor (contentLengthOf headers) with
          | .incomplete => (.ok none, skipped)
          | .failed error => (.error error, skipped)
          | .complete body stop =>
            (.ok (some { command := trim text, headers, body }),
              (skipped.moveTo stop).compact)
termination_by decoder.unread.length
decreasing_by
  have bound := position_lt found
  have shorter := (List.dropWhile_sublist isEol (l := decoder.unread)).length_le
  rw [unread_moveTo_behind, List.length_drop, unread_skipHeartbeats]
  rw [show skipped.buf.drop skipped.pos = decoder.skipHeartbeats.unread from rfl,
    unread_skipHeartbeats] at bound
  omega

end Decoder

end Strobengine.Protocols.Stomp
