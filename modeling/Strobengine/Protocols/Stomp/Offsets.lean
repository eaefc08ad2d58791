import Strobengine.Foundations.Execution
import Strobengine.Protocols.Stomp.Codec
import Strobengine.Rust.Machine

/-!
# Wrapping offsets in the STOMP decoder

Sums of offsets wrap around at 64 bits, and every index and slice is checked. Loops run on fuel, so
that a loop that does not end is told apart from one that panics.
-/

namespace Strobengine.Protocols.Stomp

open Foundations Rust

inductive Fault where
  | panicked (reason : Panic)
  | outOfFuel
  deriving DecidableEq, Repr

def wrappingAdd (first second : Nat) : Nat :=
  (first + second) % 2 ^ 64

def indexIn (buf : List UInt8) (offset : Nat) : Except Fault UInt8 :=
  match buf[offset]? with
  | some byte => .ok byte
  | none => .error (.panicked .outOfRange)

def sliceFromIn (buf : List UInt8) (start : Nat) : Except Fault (List UInt8) :=
  if buf.length < start then .error (.panicked .outOfRange) else .ok (buf.drop start)

def sliceIn (buf : List UInt8) (start stop : Nat) : Except Fault (List UInt8) :=
  if stop < start then
    .error (.panicked .invertedRange)
  else if buf.length < stop then
    .error (.panicked .outOfRange)
  else
    .ok (slice buf start stop)

inductive Scanned (Value : Type) where
  | incomplete
  | failed (error : CodecError)
  | complete (value : Value) (next : Nat)
  deriving DecidableEq

def decodeHeaderLineIn (line : List UInt8) : Except Fault (Except CodecError (String × String)) :=
  match find line colon with
  | none => .ok (.error .missingHeaderValue)
  | some separator => do
      let nameBytes ← sliceIn line 0 separator
      match decodeHeader nameBytes with
      | .error error => .ok (.error error)
      | .ok name => do
          let valueBytes ← sliceFromIn line (wrappingAdd separator 1)
          match decodeHeader valueBytes with
          | .error error => .ok (.error error)
          | .ok value => .ok (.ok (name, value))

def scanHeadersIn (buf : List UInt8) :
    Nat → Nat → List (String × String) → Except Fault (Scanned (List (String × String)))
  | 0, _, _ => .error .outOfFuel
  | fuel + 1, cursor, headers => do
      let rest ← sliceFromIn buf cursor
      match find rest lineFeed with
      | none => .ok .incomplete
      | some newline => do
          let line ← sliceIn buf cursor (wrappingAdd cursor newline)
          let next := wrappingAdd cursor (wrappingAdd newline 1)
          if (stripCr line).isEmpty then
            .ok (.complete headers next)
          else do
            match ← decodeHeaderLineIn (stripCr line) with
            | .error error => .ok (.failed error)
            | .ok header => scanHeadersIn buf fuel next (headers ++ [header])

def trimmedEndIn (buf : List UInt8) (start stop : Nat) : Except Fault Nat :=
  if start < stop then do
    let last ← indexIn buf (stop - 1)
    if last = lineFeed then
      if start < stop - 1 then do
        let before ← indexIn buf (stop - 1 - 1)
        .ok (if before = carriageReturn then stop - 1 - 1 else stop - 1)
      else
        .ok (stop - 1)
    else
      .ok stop
  else
    .ok stop

def scanBodyIn (buf : List UInt8) (cursor : Nat) : Option Nat → Except Fault (Scanned (List UInt8))
  | some length =>
    if buf.length ≤ wrappingAdd cursor length then
      .ok .incomplete
    else do
      let last ← indexIn buf (wrappingAdd cursor length)
      if last ≠ nullOctet then
        .ok (.failed .missingNull)
      else do
        let body ← sliceIn buf cursor (wrappingAdd cursor length)
        .ok (.complete body (wrappingAdd (wrappingAdd cursor length) 1))
  | none => do
      let rest ← sliceFromIn buf cursor
      match find rest nullOctet with
      | none => .ok .incomplete
      | some offset => do
          let trimmed ← trimmedEndIn buf cursor (wrappingAdd cursor offset)
          let body ← sliceIn buf cursor trimmed
          .ok (.complete body (wrappingAdd (wrappingAdd cursor offset) 1))

/-- The decoder of the source, whose position is any number. -/
structure RawDecoder where
  buf : List UInt8
  pos : Nat
  deriving DecidableEq

namespace RawDecoder

def new : RawDecoder :=
  { buf := [], pos := 0 }

def compact (raw : RawDecoder) : Except Fault RawDecoder :=
  if 0 < raw.pos ∧ (raw.pos = raw.buf.length ∨ 4096 ≤ raw.pos) then
    if raw.buf.length < raw.pos then
      .error (.panicked .outOfRange)
    else
      .ok { buf := raw.buf.drop raw.pos, pos := 0 }
  else
    .ok raw

def skipEols (buf : List UInt8) : Nat → Nat → Except Fault Nat
  | 0, _ => .error .outOfFuel
  | fuel + 1, pos =>
    if pos < buf.length then do
      let byte ← indexIn buf pos
      if isEol byte then skipEols buf fuel (wrappingAdd pos 1) else .ok pos
    else
      .ok pos

def skipHeartbeats (raw : RawDecoder) : Except Fault RawDecoder := do
  let pos ← skipEols raw.buf (raw.buf.length + 1) raw.pos
  compact { raw with pos }

def finish (raw : RawDecoder) (command : String) (headers : List (String × String)) :
    Scanned (List UInt8) → Except Fault (Except CodecError (Option Frame) × RawDecoder)
  | .incomplete => .ok (.ok none, raw)
  | .failed error => .ok (.error error, raw)
  | .complete body stop => do
      let after ← compact { raw with pos := stop }
      .ok (.ok (some { command, headers, body }), after)

def nextFrameIn : Nat → RawDecoder → Except Fault (Except CodecError (Option Frame) × RawDecoder)
  | 0, _ => .error .outOfFuel
  | fuel + 1, raw => do
      let skipped ← raw.skipHeartbeats
      let rest ← sliceFromIn skipped.buf skipped.pos
      match find rest lineFeed with
      | none => .ok (.ok none, skipped)
      | some newline => do
          let line ← sliceIn skipped.buf skipped.pos (wrappingAdd skipped.pos newline)
          if (stripCr line).isEmpty then
            nextFrameIn fuel
              { skipped with pos := wrappingAdd skipped.pos (wrappingAdd newline 1) }
          else
            match fromUtf8 (stripCr line) with
            | none => .ok (.error .utf8, skipped)
            | some text => do
                let cursor := wrappingAdd (wrappingAdd skipped.pos newline) 1
                match ← scanHeadersIn skipped.buf (skipped.buf.length + 1) cursor [] with
                | .incomplete => .ok (.ok none, skipped)
                | .failed error => .ok (.error error, skipped)
                | .complete headers cursor => do
                    let body ← scanBodyIn skipped.buf cursor (contentLengthOf headers)
                    skipped.finish (trim text) headers body

def nextFrame (raw : RawDecoder) : Except Fault (Except CodecError (Option Frame) × RawDecoder) :=
  raw.nextFrameIn (raw.buf.length + 1)

end RawDecoder

end Strobengine.Protocols.Stomp
