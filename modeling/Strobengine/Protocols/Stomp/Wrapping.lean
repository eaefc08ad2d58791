import Strobengine.Protocols.Stomp.Grammar
import Strobengine.Protocols.Stomp.Offsets

/-!
# Frames that make the STOMP decoder panic

A buffer is shorter than `2 ^ 64`, so an offset that was found in it never wraps around and
the checked decoder follows the exact one up to the body.
-/

namespace Strobengine.Protocols.Stomp

open Foundations Rust

section Access

variable {buf : List UInt8} {first second start stop offset : Nat}

theorem wrappingAdd_of_lt (small : first + second < 2 ^ 64) :
    wrappingAdd first second = first + second :=
  Nat.mod_eq_of_lt small

theorem indexIn_of_lt (inside : offset < buf.length) :
    indexIn buf offset = .ok (buf.getD offset 0) := by
  rw [indexIn, List.getD_eq_getElem?_getD, List.getElem?_eq_getElem inside]
  rfl

theorem sliceFromIn_of_le (inside : start ≤ buf.length) :
    sliceFromIn buf start = .ok (buf.drop start) :=
  if_neg (Nat.not_lt.mpr inside)

theorem sliceIn_of_le (ordered : start ≤ stop) (inside : stop ≤ buf.length) :
    sliceIn buf start stop = .ok (slice buf start stop) := by
  rw [sliceIn, if_neg (Nat.not_lt.mpr ordered), if_neg (Nat.not_lt.mpr inside)]

theorem lt_length_of_find {needle : UInt8} (found : find (buf.drop start) needle = some offset) :
    start + offset < buf.length := by
  have bound := position_lt found
  rw [List.length_drop] at bound
  omega

end Access

def Scan.raw {buf : List UInt8} {Value : Type} : Scan buf Value → Scanned Value
  | .incomplete => .incomplete
  | .failed error => .failed error
  | .complete value next => .complete value next.val

section Headers

variable {buf : List UInt8} (fits : buf.length < 2 ^ 64)

theorem decodeHeaderLineIn_eq {line : List UInt8} (fits : line.length < 2 ^ 64) :
    decodeHeaderLineIn line = .ok (decodeHeaderLine line) := by
  unfold decodeHeaderLineIn decodeHeaderLine
  cases found : find line colon with
  | none => rfl
  | some separator =>
    have inside : separator < line.length := position_lt found
    have name : slice line 0 separator = line.take separator := rfl
    simp only [sliceIn_of_le (Nat.zero_le separator) (Nat.le_of_lt inside), name, ok_bind]
    cases decodeHeader (line.take separator) with
    | error => rfl
    | ok =>
      have next : separator + 1 < 2 ^ 64 := by omega
      simp only [wrappingAdd_of_lt next, sliceFromIn_of_le inside, ok_bind]
      cases decodeHeader (line.drop (separator + 1)) with
      | error | ok => rfl

theorem length_stripCr_le (line : List UInt8) : (stripCr line).length ≤ line.length := by
  unfold stripCr
  split
  · rw [List.length_dropLast]
    omega
  · exact Nat.le_refl _

include fits in
theorem scanHeadersIn_eq
    {fuel : Nat} (cursor : Cursor buf) (enough : buf.length - cursor.val < fuel)
    (headers : List (String × String)) :
    scanHeadersIn buf fuel cursor.val headers = .ok (scanHeaders buf cursor headers).raw := by
  induction fuel generalizing cursor headers with
  | zero => exact absurd enough (Nat.not_lt_zero _)
  | succ fuel ih =>
    rw [scanHeadersIn, sliceFromIn_of_le cursor.property, ok_bind, scanHeaders]
    symm
    split
    · rename_i missing
      rw [missing]
      rfl
    · rename_i newline found
      have inside := lt_length_of_find found
      have bounds :
          newline + 1 < 2 ^ 64 ∧ cursor.val + newline < 2 ^ 64 ∧
            cursor.val + (newline + 1) < 2 ^ 64 := by
        omega
      have line :
          slice buf cursor.val (cursor.val + newline) = (buf.drop cursor.val).take newline := by
        rw [slice, Nat.add_sub_cancel_left]
      have short : (stripCr ((buf.drop cursor.val).take newline)).length < 2 ^ 64 := by
        have stripped := length_stripCr_le ((buf.drop cursor.val).take newline)
        rw [List.length_take] at stripped
        omega
      simp only [found, wrappingAdd_of_lt bounds.1, wrappingAdd_of_lt bounds.2.1,
        wrappingAdd_of_lt bounds.2.2,
        sliceIn_of_le (Nat.le_add_right _ _) (Nat.le_of_lt inside), ok_bind, line,
        decodeHeaderLineIn_eq short]
      by_cases blank : (stripCr ((buf.drop cursor.val).take newline)).isEmpty = true
      · rw [if_pos blank, if_pos blank]
        rfl
      · rw [if_neg blank, if_neg blank]
        cases decodeHeaderLine (stripCr ((buf.drop cursor.val).take newline)) with
        | error => rfl
        | ok =>
          refine (ih (cursor.behind found) ?_ _).symm
          simp only [Cursor.behind]
          omega

end Headers

section Body

variable {buf : List UInt8} (fits : buf.length < 2 ^ 64)

theorem trimmedEndIn_eq {start stop : Nat} (inside : stop ≤ buf.length) :
    trimmedEndIn buf start stop = .ok (trimmedEnd buf start stop) := by
  unfold trimmedEndIn trimmedEnd
  by_cases nonempty : start < stop
  · have last : stop - 1 < buf.length := by omega
    simp only [nonempty, true_and, if_true, indexIn_of_lt last, ok_bind]
    by_cases newline : buf.getD (stop - 1) 0 = lineFeed
    · simp only [newline, if_true]
      by_cases longer : start < stop - 1
      · have before : stop - 1 - 1 < buf.length := by omega
        simp only [longer, true_and, if_true, indexIn_of_lt before, ok_bind]
        rfl
      · simp only [longer, false_and, if_false]
    · simp only [newline, if_false]
  · simp only [nonempty, false_and, if_false]

theorem trimmedEnd_bounds (buf : List UInt8) {start stop : Nat} (ordered : start ≤ stop) :
    start ≤ trimmedEnd buf start stop ∧ trimmedEnd buf start stop ≤ stop := by
  unfold trimmedEnd
  split
  · split
    · omega
    · omega
  · omega

include fits in
theorem scanBodyIn_none (cursor : Cursor buf) :
    scanBodyIn buf cursor.val none = .ok (scanBody buf cursor none).raw := by
  rw [scanBodyIn, sliceFromIn_of_le cursor.property, ok_bind, scanBody]
  symm
  split
  · rename_i missing
    rw [missing]
    rfl
  · rename_i offset found
    have inside := lt_length_of_find found
    have stop : cursor.val + offset < 2 ^ 64 := by omega
    have next : cursor.val + offset + 1 < 2 ^ 64 := by omega
    have bounds := trimmedEnd_bounds buf (Nat.le_add_right cursor.val offset)
    simp only [found, wrappingAdd_of_lt stop, wrappingAdd_of_lt next,
      trimmedEndIn_eq (Nat.le_of_lt inside),
      sliceIn_of_le bounds.1 (Nat.le_trans bounds.2 (Nat.le_of_lt inside)), ok_bind]
    rfl

include fits in
theorem scanBodyIn_some (cursor : Cursor buf) {length : Nat}
    (small : cursor.val + length < 2 ^ 64) :
    scanBodyIn buf cursor.val (some length) = .ok (scanBody buf cursor (some length)).raw := by
  rw [scanBodyIn, scanBody, wrappingAdd_of_lt small]
  by_cases short : buf.length ≤ cursor.val + length
  · rw [if_pos short, dif_pos short]
    rfl
  · have inside : cursor.val + length < buf.length := Nat.lt_of_not_le short
    rw [if_neg short, dif_neg short, indexIn_of_lt inside, ok_bind]
    by_cases unfinished : buf.getD (cursor.val + length) 0 ≠ nullOctet
    · rw [if_pos unfinished, if_pos unfinished]
      rfl
    · have next : cursor.val + length + 1 < 2 ^ 64 := by omega
      rw [if_neg unfinished, if_neg unfinished,
        sliceIn_of_le (Nat.le_add_right _ _) (Nat.le_of_lt inside), ok_bind,
        wrappingAdd_of_lt next]
      rfl

include fits in
theorem scanBodyIn_wrapped (cursor : Cursor buf) {length : Nat} (declared : length < 2 ^ 64)
    (large : 2 ^ 64 ≤ cursor.val + length) :
    scanBodyIn buf cursor.val (some length) =
      if buf.getD (cursor.val + length - 2 ^ 64) 0 = nullOctet then
        .error (.panicked .invertedRange)
      else
        .ok (.failed .missingNull) := by
  have within := cursor.property
  have wrapped : wrappingAdd cursor.val length = cursor.val + length - 2 ^ 64 := by
    rw [wrappingAdd, Nat.mod_eq_sub_mod large, Nat.mod_eq_of_lt (by omega)]
  have before : cursor.val + length - 2 ^ 64 < cursor.val := by omega
  have inside : cursor.val + length - 2 ^ 64 < buf.length := by omega
  rw [scanBodyIn, wrapped, if_neg (Nat.not_le.mpr inside), indexIn_of_lt inside, ok_bind]
  by_cases ends : buf.getD (cursor.val + length - 2 ^ 64) 0 = nullOctet
  · rw [if_neg (not_not_intro ends), if_pos ends, sliceIn, if_pos before]
    rfl
  · rw [if_pos ends, if_neg ends]

end Body

namespace Decoder

def raw (decoder : Decoder) : RawDecoder :=
  { buf := decoder.buf, pos := decoder.pos }

theorem compact_raw (decoder : Decoder) : decoder.raw.compact = .ok decoder.compact.raw := by
  unfold RawDecoder.compact compact
  by_cases reclaim : 0 < decoder.pos ∧ (decoder.pos = decoder.buf.length ∨ 4096 ≤ decoder.pos)
  · have within : ¬decoder.raw.buf.length < decoder.raw.pos := Nat.not_lt.mpr decoder.within
    have reclaim' :
        0 < decoder.raw.pos ∧
          (decoder.raw.pos = decoder.raw.buf.length ∨ 4096 ≤ decoder.raw.pos) := reclaim
    rw [if_pos reclaim', if_neg within, if_pos reclaim]
    rfl
  · have reclaim' :
        ¬(0 < decoder.raw.pos ∧
          (decoder.raw.pos = decoder.raw.buf.length ∨ 4096 ≤ decoder.raw.pos)) := reclaim
    rw [if_neg reclaim', if_neg reclaim]

theorem skipEols_raw
    {buf : List UInt8} (fits : buf.length < 2 ^ 64) {fuel : Nat} (cursor : Cursor buf)
    (enough : buf.length - cursor.val < fuel) :
    RawDecoder.skipEols buf fuel cursor.val = .ok (skipEols buf cursor).val := by
  induction fuel generalizing cursor with
  | zero => exact absurd enough (Nat.not_lt_zero _)
  | succ fuel ih =>
    rw [RawDecoder.skipEols, skipEols]
    by_cases inside : cursor.val < buf.length
    · have byte : buf.getD cursor.val 0 = buf.get ⟨cursor.val, inside⟩ := by
        rw [List.getD_eq_getElem?_getD, List.getElem?_eq_getElem inside]
        rfl
      have next : cursor.val + 1 < 2 ^ 64 := by omega
      rw [if_pos inside, dif_pos inside, indexIn_of_lt inside, ok_bind, byte,
        wrappingAdd_of_lt next]
      by_cases eol : isEol (buf.get ⟨cursor.val, inside⟩) = true
      · rw [if_pos eol, if_pos eol]
        exact ih ⟨cursor.val + 1, inside⟩ (by dsimp only; omega)
      · rw [if_neg eol, if_neg eol]
    · rw [if_neg inside, dif_neg inside]

theorem skipHeartbeats_raw (decoder : Decoder) (fits : decoder.buf.length < 2 ^ 64) :
    decoder.raw.skipHeartbeats = .ok decoder.skipHeartbeats.raw := by
  have skipped :=
    skipEols_raw fits ⟨decoder.pos, decoder.within⟩
      (Nat.lt_succ_of_le (Nat.sub_le decoder.buf.length decoder.pos))
  rw [RawDecoder.skipHeartbeats]
  change (RawDecoder.skipEols decoder.buf (decoder.buf.length + 1) decoder.pos >>= _) = _
  rw [skipped, ok_bind]
  exact compact_raw (decoder.moveTo (skipEols decoder.buf ⟨decoder.pos, decoder.within⟩))

theorem length_skipHeartbeats_le (decoder : Decoder) :
    decoder.skipHeartbeats.buf.length ≤ decoder.buf.length := by
  simp only [skipHeartbeats, compact]
  split
  · rw [List.length_drop]
    exact Nat.sub_le _ _
  · exact Nat.le_refl _

inductive Front (buf : List UInt8) where
  | stopped (outcome : Except CodecError (Option Frame))
  | body (command : String) (headers : List (String × String)) (cursor : Cursor buf)

def cursor (decoder : Decoder) : Cursor decoder.buf :=
  ⟨decoder.pos, decoder.within⟩

def front (decoder : Decoder) : Front decoder.skipHeartbeats.buf :=
  match found : find (decoder.skipHeartbeats.buf.drop decoder.skipHeartbeats.pos) lineFeed with
  | none => .stopped (.ok none)
  | some newline =>
    match
      fromUtf8
        (stripCr
          ((decoder.skipHeartbeats.buf.drop decoder.skipHeartbeats.pos).take newline)) with
    | none => .stopped (.error .utf8)
    | some text =>
      match
        scanHeaders decoder.skipHeartbeats.buf
          (Cursor.behind decoder.skipHeartbeats.cursor found) [] with
      | .incomplete => .stopped (.ok none)
      | .failed error => .stopped (.error error)
      | .complete headers cursor => .body (trim text) headers cursor

def finish (decoder : Decoder) (command : String) (headers : List (String × String)) :
    Scan decoder.buf (List UInt8) → Except CodecError (Option Frame) × Decoder
  | .incomplete => (.ok none, decoder)
  | .failed error => (.error error, decoder)
  | .complete body stop =>
    (.ok (some { command, headers, body }),
      (decoder.moveTo stop).compact)

theorem finish_raw (decoder : Decoder) (command : String) (headers : List (String × String))
    (read : Scan decoder.buf (List UInt8)) :
    decoder.raw.finish command headers read.raw =
      .ok ((decoder.finish command headers read).1,
        (decoder.finish command headers read).2.raw) := by
  cases read with
  | incomplete | failed => rfl
  | complete body stop =>
    have compacted := compact_raw (decoder.moveTo stop)
    change (RawDecoder.compact (decoder.moveTo stop).raw >>= _) = _
    rw [compacted]
    rfl

section CommandLine

variable {decoder : Decoder}

theorem front_of_missing
    (missing : find (decoder.skipHeartbeats.buf.drop decoder.skipHeartbeats.pos) lineFeed = none) :
    decoder.front = .stopped (.ok none) := by
  rw [front]
  split
  · rfl
  · rename_i newline found
    rw [missing] at found
    cases found

variable {newline : Nat}
variable
  (found :
    find (decoder.skipHeartbeats.buf.drop decoder.skipHeartbeats.pos) lineFeed = some newline)

theorem front_of_found :
    decoder.front =
      match
        fromUtf8
          (stripCr
            ((decoder.skipHeartbeats.buf.drop decoder.skipHeartbeats.pos).take newline)) with
      | none => .stopped (.error .utf8)
      | some text =>
        match
          scanHeaders decoder.skipHeartbeats.buf
            (Cursor.behind
              ⟨decoder.skipHeartbeats.pos, decoder.skipHeartbeats.within⟩ found) [] with
        | .incomplete => .stopped (.ok none)
        | .failed error => .stopped (.error error)
        | .complete headers cursor => .body (trim text) headers cursor := by
  rw [front]
  split
  · rename_i missing
    rw [missing] at found
    cases found
  · rename_i other found'
    cases found.symm.trans found'
    rfl

end CommandLine

theorem nextFrame_eq_front (decoder : Decoder) :
    decoder.nextFrame = match decoder.front with
      | .stopped outcome => (outcome, decoder.skipHeartbeats)
      | .body command headers cursor =>
        decoder.skipHeartbeats.finish command headers
          (scanBody decoder.skipHeartbeats.buf cursor (contentLengthOf headers)) := by
  rw [nextFrame]
  dsimp only
  split
  · rename_i missing
    rw [front_of_missing missing]
  · rename_i newline found
    rw [if_neg (command_line_not_blank found), front_of_found found]
    cases fromUtf8
        (stripCr
          ((decoder.skipHeartbeats.buf.drop decoder.skipHeartbeats.pos).take newline)) with
    | none => rfl
    | some text =>
      dsimp only
      cases scanHeaders decoder.skipHeartbeats.buf
          (Cursor.behind
            ⟨decoder.skipHeartbeats.pos, decoder.skipHeartbeats.within⟩ found) [] with
      | incomplete => rfl
      | failed error => rfl
      | complete headers cursor =>
        dsimp only
        cases scanBody decoder.skipHeartbeats.buf cursor (contentLengthOf headers) with
        | incomplete | failed | complete => rfl

theorem command_line_raw (decoder : Decoder) (fits : decoder.buf.length < 2 ^ 64) {newline : Nat}
    (found : find (decoder.buf.drop decoder.pos) lineFeed = some newline) :
    sliceIn decoder.raw.buf decoder.raw.pos (wrappingAdd decoder.raw.pos newline) =
        .ok ((decoder.buf.drop decoder.pos).take newline) ∧
      wrappingAdd (wrappingAdd decoder.raw.pos newline) 1 =
        (Cursor.behind ⟨decoder.pos, decoder.within⟩ found : Cursor decoder.buf).val := by
  have inside := lt_length_of_find found
  have endFits : decoder.pos + newline < 2 ^ 64 := by omega
  have nextFits : decoder.pos + newline + 1 < 2 ^ 64 := by omega
  change
    sliceIn decoder.buf decoder.pos (wrappingAdd decoder.pos newline) = _ ∧
      wrappingAdd (wrappingAdd decoder.pos newline) 1 = _
  constructor
  · rw [wrappingAdd_of_lt endFits,
      sliceIn_of_le (Nat.le_add_right _ _) (Nat.le_of_lt inside), slice,
      Nat.add_sub_cancel_left]
  · rw [wrappingAdd_of_lt endFits, wrappingAdd_of_lt nextFits]
    rfl

theorem nextFrameIn_raw (decoder : Decoder) (fits : decoder.buf.length < 2 ^ 64) (fuel : Nat) :
    decoder.raw.nextFrameIn (fuel + 1) = match decoder.front with
      | .stopped outcome => .ok (outcome, decoder.skipHeartbeats.raw)
      | .body command headers cursor =>
        scanBodyIn decoder.skipHeartbeats.buf cursor.val (contentLengthOf headers) >>=
          decoder.skipHeartbeats.raw.finish command headers := by
  have within := decoder.skipHeartbeats.within
  have fits' := Nat.lt_of_le_of_lt decoder.length_skipHeartbeats_le fits
  have rest :
      sliceFromIn decoder.skipHeartbeats.raw.buf decoder.skipHeartbeats.raw.pos =
        .ok (decoder.skipHeartbeats.buf.drop decoder.skipHeartbeats.pos) :=
    sliceFromIn_of_le within
  rw [RawDecoder.nextFrameIn, decoder.skipHeartbeats_raw fits, ok_bind, rest, ok_bind]
  cases found : find (decoder.skipHeartbeats.buf.drop decoder.skipHeartbeats.pos) lineFeed with
  | none => rw [front_of_missing found]
  | some newline =>
    obtain ⟨line, cursor⟩ := decoder.skipHeartbeats.command_line_raw fits' found
    have headers :=
      scanHeadersIn_eq fits'
        (Cursor.behind
          ⟨decoder.skipHeartbeats.pos, decoder.skipHeartbeats.within⟩ found)
        (Nat.lt_succ_of_le (Nat.sub_le _ _)) []
    dsimp only
    rw [line, ok_bind, if_neg (command_line_not_blank found), front_of_found found]
    cases fromUtf8
        (stripCr
          ((decoder.skipHeartbeats.buf.drop decoder.skipHeartbeats.pos).take newline)) with
    | none => rfl
    | some text =>
      dsimp only
      rw [cursor]
      change (scanHeadersIn decoder.skipHeartbeats.buf
        (decoder.skipHeartbeats.buf.length + 1) _ [] >>= _) = _
      rw [headers, ok_bind]
      cases scanHeaders decoder.skipHeartbeats.buf
          (Cursor.behind
            ⟨decoder.skipHeartbeats.pos, decoder.skipHeartbeats.within⟩ found) [] with
      | incomplete => rfl
      | failed error => rfl
      | complete headers cursor => rfl

/-- The frame at the front of the buffer declares a body that ends past the largest
offset. -/
structure Overruns (decoder : Decoder) (stop : Nat) : Prop where
  large : 2 ^ 64 ≤ stop
  declared :
    ∃ command headers cursor length,
      decoder.front = .body command headers cursor ∧
        contentLengthOf headers = some length ∧ cursor.val + length = stop

/-- The wrapped end of the body holds the octet that ends a frame. -/
def WrapsOntoNull (decoder : Decoder) : Prop :=
  ∃ stop, decoder.Overruns stop ∧ decoder.skipHeartbeats.buf.getD (stop - 2 ^ 64) 0 = nullOctet

theorem contentLengthOf_lt {headers : List (String × String)} {length : Nat}
    (declared : contentLengthOf headers = some length) : length < 2 ^ 64 := by
  obtain ⟨value, _, parsed⟩ := Option.bind_eq_some_iff.mp declared
  exact parseUsize_lt parsed

section Calls

variable {decoder : Decoder} (fits : decoder.buf.length < 2 ^ 64)

include fits in
theorem nextFrame_raw_of_small (small : ∀ stop, ¬decoder.Overruns stop) :
    decoder.raw.nextFrame = .ok (decoder.nextFrame.1, decoder.nextFrame.2.raw) := by
  have fits' := Nat.lt_of_le_of_lt decoder.length_skipHeartbeats_le fits
  rw [RawDecoder.nextFrame, nextFrameIn_raw decoder fits, nextFrame_eq_front]
  cases seen : decoder.front with
  | stopped => rfl
  | body command headers cursor =>
    dsimp only
    have body :
        scanBodyIn decoder.skipHeartbeats.buf cursor.val (contentLengthOf headers) =
          .ok (scanBody decoder.skipHeartbeats.buf cursor (contentLengthOf headers)).raw := by
      cases declared : contentLengthOf headers with
      | none => exact scanBodyIn_none fits' cursor
      | some length =>
        apply scanBodyIn_some fits' cursor
        apply Nat.lt_of_not_le
        intro large
        exact small _ ⟨large, command, headers, cursor, length, seen, declared, rfl⟩
    rw [body, ok_bind, finish_raw]

include fits in
theorem nextFrame_raw_of_overruns {stop : Nat} (overruns : decoder.Overruns stop) :
    decoder.raw.nextFrame =
      if decoder.skipHeartbeats.buf.getD (stop - 2 ^ 64) 0 = nullOctet then
        .error (.panicked .invertedRange)
      else
        .ok (.error .missingNull, decoder.skipHeartbeats.raw) := by
  have fits' := Nat.lt_of_le_of_lt decoder.length_skipHeartbeats_le fits
  obtain ⟨large, command, headers, cursor, length, seen, declared, rfl⟩ := overruns
  rw [RawDecoder.nextFrame, nextFrameIn_raw decoder fits, seen]
  dsimp only
  rw [declared, scanBodyIn_wrapped fits' cursor (contentLengthOf_lt declared) large]
  split
  · rfl
  · rfl

include fits in
theorem nextFrame_raw_of_wrapsOntoNull (wraps : decoder.WrapsOntoNull) :
    decoder.raw.nextFrame = .error (.panicked .invertedRange) := by
  obtain ⟨stop, overruns, ends⟩ := wraps
  rw [nextFrame_raw_of_overruns fits overruns, if_pos ends]

theorem length_compact_le (decoder : Decoder) :
    decoder.compact.buf.length ≤ decoder.buf.length := by
  unfold compact
  split
  · rw [List.length_drop]
    exact Nat.sub_le _ _
  · exact Nat.le_refl _

theorem length_nextFrame_le (decoder : Decoder) :
    decoder.nextFrame.2.buf.length ≤ decoder.buf.length := by
  have skipped := decoder.length_skipHeartbeats_le
  rw [nextFrame_eq_front]
  cases decoder.front with
  | stopped => exact skipped
  | body command headers cursor =>
    dsimp only
    cases scanBody decoder.skipHeartbeats.buf cursor (contentLengthOf headers) with
    | incomplete | failed => exact skipped
    | complete body stop =>
      exact (length_compact_le (decoder.skipHeartbeats.moveTo stop)).trans skipped

include fits in
theorem exists_nextFrame_raw (safe : ¬decoder.WrapsOntoNull) :
    ∃ outcome, ∃ next : Decoder,
      decoder.raw.nextFrame = .ok (outcome, next.raw) ∧ next.buf.length ≤ decoder.buf.length := by
  by_cases overrun : ∃ stop, decoder.Overruns stop
  · obtain ⟨stop, overruns⟩ := overrun
    have other : ¬decoder.skipHeartbeats.buf.getD (stop - 2 ^ 64) 0 = nullOctet :=
      fun ends => safe ⟨stop, overruns, ends⟩
    have returned := nextFrame_raw_of_overruns fits overruns
    rw [if_neg other] at returned
    exact ⟨_, decoder.skipHeartbeats, returned, decoder.length_skipHeartbeats_le⟩
  · have small : ∀ stop, ¬decoder.Overruns stop := fun stop here => overrun ⟨stop, here⟩
    exact ⟨_, decoder.nextFrame.2, nextFrame_raw_of_small fits small, decoder.length_nextFrame_le⟩

end Calls

end Decoder

inductive DecoderCall where
  | push (data : List UInt8)
  | pull

namespace RawDecoder

def step (raw : RawDecoder) : DecoderCall → Option RawDecoder
  | .push data =>
    if raw.buf.length + data.length < 2 ^ 63 then
      some { raw with buf := raw.buf ++ data }
    else
      none
  | .pull =>
    match raw.nextFrame with
    | .ok (_, next) => some next
    | .error _ => none

def Sound (raw : RawDecoder) : Prop :=
  ∃ decoder : Decoder, decoder.raw = raw ∧ decoder.buf.length < 2 ^ 63

theorem Sound.step {raw next : RawDecoder} (sound : raw.Sound) {call : DecoderCall}
    (taken : raw.step call = some next) : next.Sound := by
  obtain ⟨decoder, rfl, bounded⟩ := sound
  have fits : decoder.buf.length < 2 ^ 64 := by omega
  cases call with
  | push data =>
    simp only [RawDecoder.step] at taken
    split at taken
    · rename_i room
      cases taken
      refine ⟨decoder.push data, rfl, ?_⟩
      simpa [Decoder.push, Decoder.raw] using room
    · cases taken
  | pull =>
    simp only [RawDecoder.step] at taken
    by_cases wraps : decoder.WrapsOntoNull
    · rw [Decoder.nextFrame_raw_of_wrapsOntoNull fits wraps] at taken
      cases taken
    · obtain ⟨outcome, after, returned, shorter⟩ := Decoder.exists_nextFrame_raw fits wraps
      rw [returned] at taken
      cases taken
      exact ⟨after, rfl, Nat.lt_of_le_of_lt shorter bounded⟩

/-- However the bytes of a broker are cut and whenever frames are pulled, a call returns a
frame, asks for more or reports an error if and only if no declared end wraps around onto a
NULL octet. Otherwise it panics. -/
theorem nextFrame_returns_iff {raw : RawDecoder} (reached : Reaches step unguarded new raw) :
    ∃ decoder : Decoder,
      decoder.raw = raw ∧ ((∃ outcome, raw.nextFrame = .ok outcome) ↔ ¬decoder.WrapsOntoNull) ∧
        (decoder.WrapsOntoNull → raw.nextFrame = .error (.panicked .invertedRange)) := by
  have initially : Sound new := ⟨Decoder.new, rfl, by decide⟩
  obtain ⟨decoder, rfl, bounded⟩ :=
    reached.invariant Sound (fun _ _ _ sound _ taken => sound.step taken) initially
  have fits : decoder.buf.length < 2 ^ 64 := by omega
  refine ⟨decoder, rfl, ⟨?_, ?_⟩, Decoder.nextFrame_raw_of_wrapsOntoNull fits⟩
  · rintro ⟨outcome, returned⟩ wraps
    rw [Decoder.nextFrame_raw_of_wrapsOntoNull fits wraps] at returned
    cases returned
  · intro safe
    obtain ⟨outcome, next, returned, _⟩ := Decoder.exists_nextFrame_raw fits safe
    exact ⟨_, returned⟩

theorem nextFrame_returns_iff_sample :
    ∃ raw,
      Reaches step unguarded new raw ∧
        ∃ decoder : Decoder, decoder.raw = raw ∧ ¬decoder.WrapsOntoNull := by
  refine
    Reaches.exists_imp_of_executeChecked
      (fun raw => raw.nextFrame = .ok (.ok (some ⟨"A", [], [120]⟩), new))
      [DecoderCall.push (utf8 "A\n\nx\x00")]
      (by decide +kernel) ?_
  intro raw reached returned
  obtain ⟨decoder, same, returns, _⟩ := nextFrame_returns_iff reached
  exact ⟨decoder, same, returns.mp ⟨_, returned⟩⟩

/-- A frame whose declared length is three less than `2 ^ 64`, behind a header with a NULL
octet as its value. -/
def wrappingFrame : List UInt8 :=
  utf8 "A\ncontent-length:18446744073709551613\nx:\x00\n\n"

theorem wrapping_frame_panics :
    ∃ raw, Reaches step unguarded new raw ∧ raw.nextFrame = .error (.panicked .invertedRange) :=
  Reaches.exists_of_executeChecked [DecoderCall.push wrappingFrame] (by decide +kernel)

end RawDecoder

end Strobengine.Protocols.Stomp
