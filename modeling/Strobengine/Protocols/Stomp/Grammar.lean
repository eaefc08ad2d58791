import Strobengine.Foundations.Incremental
import Strobengine.Protocols.Stomp.Codec

/-!
# The grammar behind the decoder

A frame is parsed off the front of a byte string, and the decoder is shown to do the same with its
unread bytes.
-/

namespace Strobengine.Protocols.Stomp

open Foundations Rust

abbrev ByteParser (Value : Type) :=
  Parser UInt8 CodecError Value

namespace Grammar

def line : ByteParser (List UInt8) :=
  fun bytes =>
    match cut lineFeed bytes with
    | none => .incomplete
    | some (content, rest) => .parsed (stripCr content) rest

def headers (bytes : List UInt8) : Parsed UInt8 CodecError (List (String × String)) :=
  match found : cut lineFeed bytes with
  | none => .incomplete
  | some (content, rest) =>
    if (stripCr content).isEmpty then
      .parsed [] rest
    else
      match decodeHeaderLine (stripCr content) with
      | .error error => .failed error
      | .ok header =>
        have := length_lt_of_cut found
        (headers rest).map (List.cons header)
termination_by bytes.length

def stripEol (body : List UInt8) : List UInt8 :=
  if body.getLast? = some lineFeed then stripCr body.dropLast else body

def body : Option Nat → ByteParser (List UInt8)
  | some length =>
    fun bytes =>
      if bytes.length ≤ length then .incomplete
      else if bytes.getD length 0 ≠ nullOctet then .failed .missingNull
      else .parsed (bytes.take length) (bytes.drop (length + 1))
  | none =>
    fun bytes =>
      match cut nullOctet bytes with
      | none => .incomplete
      | some (content, rest) => .parsed (stripEol content) rest

theorem body_some (length : Nat) (bytes : List UInt8) :
    body (some length) bytes = if bytes.length ≤ length then .incomplete
      else if bytes.getD length 0 ≠ nullOctet then .failed .missingNull
      else .parsed (bytes.take length) (bytes.drop (length + 1)) :=
  rfl

variable {bytes content rest : List UInt8}

theorem body_none_of_cut (found : cut nullOctet bytes = some (content, rest)) :
    body none bytes = .parsed (stripEol content) rest := by
  unfold body
  dsimp only
  rw [found]

theorem body_none_of_cut_none (missing : cut nullOctet bytes = none) :
    body none bytes = .incomplete := by
  unfold body
  dsimp only
  rw [missing]

def command (content : List UInt8) : Except CodecError String :=
  match fromUtf8 content with
  | none => .error .utf8
  | some text => .ok (trim text)

def frame : ByteParser Frame :=
  line.bind fun content =>
    (Parser.lift (command content)).bind fun command =>
      Parser.bind headers fun headers =>
        (body (contentLengthOf headers)).bind fun body =>
          Parser.lift (.ok { command, headers, body })

theorem frame_of_cut (found : cut lineFeed bytes = some (content, rest)) :
    frame bytes = match fromUtf8 (stripCr content) with
      | none => .failed .utf8
      | some text =>
        match headers rest with
        | .incomplete => .incomplete
        | .failed error => .failed error
        | .parsed headers rest =>
          (body (contentLengthOf headers) rest).map fun body =>
            { command := trim text, headers, body } := by
  have read : line bytes = .parsed (stripCr content) rest := by
    rw [line, found]
  rw [frame, Parser.bind_of_parsed read, Parser.bind, Parser.lift.eq_def, command]
  cases fromUtf8 (stripCr content) with
  | none => rfl
  | some =>
    dsimp only [Parser.bind]
    cases headers rest with
    | incomplete | failed => rfl
    | parsed headers rest =>
      dsimp only
      cases body (contentLengthOf headers) rest <;> rfl

theorem frame_of_cut_none (missing : cut lineFeed bytes = none) : frame bytes = .incomplete := by
  rw [frame, Parser.bind, line, missing]

theorem stable_line : line.Stable where
  decided := by
    intro bytes more decided
    cases found : cut lineFeed bytes with
    | none =>
      rw [line, found] at decided
      exact absurd rfl decided
    | some =>
      rw [line, line, cut_append found more, found]
      rfl

theorem headers_of_cut (found : cut lineFeed bytes = some (content, rest)) :
    headers bytes =
      if (stripCr content).isEmpty then
        .parsed [] rest
      else
        match decodeHeaderLine (stripCr content) with
        | .error error => .failed error
        | .ok header => (headers rest).map (List.cons header) := by
  rw [headers]
  split <;> simp_all

theorem headers_of_cut_none (missing : cut lineFeed bytes = none) :
    headers bytes = .incomplete := by
  rw [headers]
  split <;> simp_all

theorem stable_headers : Parser.Stable headers where
  decided := by
    intro bytes more decided
    induction size : bytes.length using Nat.strongRecOn generalizing bytes with
    | ind size ih =>
      cases found : cut lineFeed bytes with
      | none => exact absurd (headers_of_cut_none found) decided
      | some parts =>
        obtain ⟨content, rest⟩ := parts
        rw [headers_of_cut found] at decided ⊢
        rw [headers_of_cut (cut_append found more)]
        by_cases blank : (stripCr content).isEmpty = true
        · rw [if_pos blank, if_pos blank]
          rfl
        · rw [if_neg blank] at decided ⊢
          rw [if_neg blank]
          cases decoded : decodeHeaderLine (stripCr content) with
          | error => rfl
          | ok =>
            rw [decoded] at decided
            have shorter := length_lt_of_cut found
            rw [size] at shorter
            have later :=
              ih rest.length shorter rest
                (mt Parsed.map_eq_incomplete_iff.mpr decided) rfl
            dsimp only
            rw [later, Parsed.extend_map]

private theorem getD_append_left {index : Nat} (inside : index < bytes.length) (more : List UInt8) :
    (bytes ++ more).getD index 0 = bytes.getD index 0 := by
  rw [List.getD_eq_getElem?_getD, List.getD_eq_getElem?_getD, List.getElem?_append_left inside]

theorem stable_body (length : Option Nat) : (body length).Stable where
  decided := by
    intro bytes more decided
    cases length with
    | none =>
      cases found : cut nullOctet bytes with
      | none => exact absurd (body_none_of_cut_none found) decided
      | some =>
        rw [body_none_of_cut found, body_none_of_cut (cut_append found more)]
        rfl
    | some length =>
      rw [body_some] at decided ⊢
      rw [body_some]
      by_cases short : bytes.length ≤ length
      · rw [if_pos short] at decided
        exact absurd rfl decided
      · have still : ¬ (bytes ++ more).length ≤ length := by
          rw [List.length_append]
          omega
        rw [if_neg short, if_neg still, getD_append_left (Nat.lt_of_not_le short)]
        split
        · rfl
        · rw [List.take_append_of_le_length (by omega), List.drop_append_of_le_length (by omega)]
          rfl

theorem stable_frame : frame.Stable :=
  stable_line.bind fun content =>
    (Parser.stable_lift (command content)).bind fun _ =>
      stable_headers.bind fun headers =>
        (stable_body (contentLengthOf headers)).bind fun _ => Parser.stable_lift _

theorem length_lt_of_line
    (read : line bytes = .parsed content rest) : rest.length < bytes.length := by
  unfold line at read
  split at read
  · cases read
  · rename_i before after found
    cases read
    exact length_lt_of_cut found

private theorem length_le_of_headers {found : List (String × String)}
    (read : headers bytes = .parsed found rest) : rest.length ≤ bytes.length := by
  induction size : bytes.length using Nat.strongRecOn generalizing bytes found with
  | ind size ih =>
    cases cutting : cut lineFeed bytes with
    | none =>
      rw [headers_of_cut_none cutting] at read
      cases read
    | some parts =>
      obtain ⟨content, after⟩ := parts
      have shorter := length_lt_of_cut cutting
      rw [size] at shorter
      rw [headers_of_cut cutting] at read
      split at read
      · cases read
        exact shorter.le
      · split at read
        · cases read
        · obtain ⟨others, later, _⟩ := Parsed.map_eq_parsed read
          exact (ih after.length shorter later rfl).trans shorter.le

private theorem length_le_of_body {length : Option Nat}
    (read : body length bytes = .parsed content rest) : rest.length ≤ bytes.length := by
  cases length with
  | none =>
    cases found : cut nullOctet bytes with
    | none =>
      rw [body_none_of_cut_none found] at read
      cases read
    | some =>
      rw [body_none_of_cut found] at read
      cases read
      exact (length_lt_of_cut found).le
  | some =>
    rw [body_some] at read
    split at read
    · cases read
    · split at read
      · cases read
      · cases read
        rw [List.length_drop]
        exact Nat.sub_le _ _

theorem length_lt_of_frame {item : Frame}
    (read : frame bytes = .parsed item rest) : rest.length < bytes.length := by
  obtain ⟨content, middle, first, later⟩ := Parser.bind_eq_parsed read
  have consumes :
      ((Parser.lift (command content)).bind fun command =>
        Parser.bind headers fun headers =>
          (body (contentLengthOf headers)).bind fun body =>
            (Parser.lift (.ok { command, headers, body }) :
              ByteParser Frame)).Consumes :=
    (Parser.consumes_lift (command content)).bind fun _ =>
      Parser.Consumes.bind ⟨length_le_of_headers⟩ fun _ =>
        Parser.Consumes.bind ⟨length_le_of_body⟩ fun _ => Parser.consumes_lift _
  exact (consumes.length_le later).trans_lt (length_lt_of_line first)

def decoder : Puller UInt8 Frame CodecError :=
  frame.puller isEol length_lt_of_frame

theorem steady_decoder : decoder.Steady :=
  Parser.steady_puller stable_frame rfl

end Grammar

def Scan.view {buf : List UInt8} {Value : Type} : Scan buf Value → Parsed UInt8 CodecError Value
  | .incomplete => .incomplete
  | .failed error => .failed error
  | .complete value next => .parsed value (buf.drop next.val)

theorem drop_behind {buf : List UInt8} (cursor : Cursor buf) {needle : UInt8} {offset : Nat}
    (found : find (buf.drop cursor.val) needle = some offset) :
    buf.drop (cursor.behind found).val = (buf.drop cursor.val).drop (offset + 1) := by
  simp only [Cursor.behind, List.drop_drop, Nat.add_assoc]

theorem view_scanHeaders
    (buf : List UInt8) (cursor : Cursor buf) (headers : List (String × String)) :
    (scanHeaders buf cursor headers).view =
      (Grammar.headers (buf.drop cursor.val)).map (headers ++ ·) := by
  induction size : buf.length - cursor.val using Nat.strongRecOn
      generalizing cursor headers with
  | ind remaining ih =>
    rw [scanHeaders]
    split
    · rename_i missing
      rw [Grammar.headers_of_cut_none (cut_eq_none_iff.mpr missing)]
      rfl
    · rename_i newline found
      have bound := position_lt found
      rw [List.length_drop] at bound
      rw [Grammar.headers_of_cut (cut_of_position found)]
      dsimp only
      split
      · rename_i blank
        rw [Scan.view, drop_behind]
        simp [Parsed.map]
      · cases decodeHeaderLine (stripCr ((buf.drop cursor.val).take newline)) with
        | error => rfl
        | ok header =>
          have shorter : buf.length - (cursor.behind found).val < remaining := by
            simp only [Cursor.behind]
            omega
          dsimp only
          rw [ih _ shorter (cursor.behind found) (headers ++ [header]) rfl,
            drop_behind, Parsed.map_map]
          congr 1
          funext others
          simp

theorem view_scanHeaders_nil (buf : List UInt8) (cursor : Cursor buf) :
    (scanHeaders buf cursor []).view = Grammar.headers (buf.drop cursor.val) := by
  rw [view_scanHeaders]
  cases Grammar.headers (buf.drop cursor.val) <;> rfl

variable {bytes : List UInt8}

private theorem getLast?_take_succ {count : Nat} (bound : count < bytes.length) :
    (bytes.take (count + 1)).getLast? = some (bytes.getD count 0) := by
  rw [List.take_succ_eq_append_getElem bound, List.getLast?_concat,
    List.getD_eq_getElem?_getD, List.getElem?_eq_getElem bound]
  rfl

private theorem dropLast_take_succ {count : Nat} (bound : count < bytes.length) :
    (bytes.take (count + 1)).dropLast = bytes.take count := by
  rw [List.take_succ_eq_append_getElem bound, List.dropLast_concat]

theorem slice_trimmedEnd
    {buf : List UInt8} {start offset : Nat} (bound : offset ≤ (buf.drop start).length) :
    slice buf start (trimmedEnd buf start (start + offset)) =
      Grammar.stripEol ((buf.drop start).take offset) := by
  have inside (count : Nat) : buf.getD (start + count) 0 = (buf.drop start).getD count 0 := by
    rw [List.getD_eq_getElem?_getD, List.getD_eq_getElem?_getD, List.getElem?_drop]
  unfold slice
  generalize buf.drop start = bytes at bound inside ⊢
  cases offset with
  | zero => simp [trimmedEnd, Grammar.stripEol]
  | succ offset =>
    have ends := getLast?_take_succ (Nat.lt_of_succ_le bound)
    have shorter := dropLast_take_succ (Nat.lt_of_succ_le bound)
    rw [Grammar.stripEol, ends, shorter, trimmedEnd,
      show start + (offset + 1) - 1 = start + offset by omega, inside]
    simp only [Option.some.injEq, show start < start + (offset + 1) by omega, true_and]
    split
    · cases offset with
      | zero => simp [stripCr]
      | succ offset =>
        rw [stripCr, getLast?_take_succ (by omega), dropLast_take_succ (by omega),
          show start + (offset + 1 + 1) - 2 = start + offset by omega, inside]
        simp only [Option.some.injEq, show start < start + (offset + 1) by omega, true_and]
        split
        · rw [Nat.add_sub_cancel_left]
        · rw [Nat.add_sub_cancel_left]
    · rw [Nat.add_sub_cancel_left]

theorem view_scanBody (buf : List UInt8) (cursor : Cursor buf) (length : Option Nat) :
    (scanBody buf cursor length).view = Grammar.body length (buf.drop cursor.val) := by
  have inBuffer := cursor.property
  cases length with
  | none =>
    rw [scanBody]
    split
    · rename_i missing
      rw [Grammar.body_none_of_cut_none (cut_eq_none_iff.mpr missing)]
      rfl
    · rename_i offset found
      rw [Grammar.body_none_of_cut (cut_of_position found), Scan.view, drop_behind,
        slice_trimmedEnd (Nat.le_of_lt (position_lt found))]
  | some length =>
    have terminator : (buf.drop cursor.val).getD length 0 = buf.getD (cursor.val + length) 0 := by
      rw [List.getD_eq_getElem?_getD, List.getD_eq_getElem?_getD, List.getElem?_drop]
    rw [scanBody, Grammar.body_some]
    have sameLength :
        (buf.drop cursor.val).length ≤ length ↔ buf.length ≤ cursor.val + length := by
      rw [List.length_drop]
      omega
    rw [terminator]
    by_cases short : buf.length ≤ cursor.val + length
    · rw [dif_pos short, if_pos (sameLength.mpr short)]
      rfl
    · rw [dif_neg short, if_neg (mt sameLength.mp short)]
      split
      · rfl
      · simp only [Scan.view, slice, Nat.add_sub_cancel_left, List.drop_drop, Nat.add_assoc]

theorem stripCr_take_ne_nil {newline : Nat} (found : find bytes lineFeed = some newline)
    (begins : ∀ byte ∈ bytes.head?, isEol byte = false) :
    stripCr (bytes.take newline) ≠ [] := by
  cases bytes with
  | nil => cases found
  | cons byte bytes =>
    have notEol := begins byte rfl
    rw [isEol, Bool.or_eq_false_iff, beq_eq_false_iff_ne, beq_eq_false_iff_ne] at notEol
    cases newline with
    | zero =>
      rw [find, position, List.findIdx?_cons, if_neg (by simpa using notEol.1)] at found
      simp at found
    | succ newline =>
      rw [List.take_succ_cons, stripCr]
      split
      · rename_i ends
        cases content : bytes.take newline with
        | nil =>
          rw [content] at ends
          exact absurd (Option.some.inj ends) notEol.2
        | cons => exact fun empty => nomatch empty
      · exact fun empty => nomatch empty

namespace Decoder

def view : Except CodecError (Option Frame) × Decoder → Pull UInt8 Frame CodecError
  | (.ok none, decoder) => .more decoder.unread
  | (.ok (some frame), decoder) => .item frame decoder.unread
  | (.error error, decoder) => .fail error decoder.unread

theorem command_line_not_blank {decoder : Decoder} {newline : Nat}
    (found :
      find (decoder.skipHeartbeats.buf.drop decoder.skipHeartbeats.pos) lineFeed = some newline) :
    ¬(stripCr ((decoder.skipHeartbeats.buf.drop decoder.skipHeartbeats.pos).take
        newline)).isEmpty = true := by
  rw [List.isEmpty_iff]
  refine stripCr_take_ne_nil found ?_
  intro byte first
  change byte ∈ decoder.skipHeartbeats.unread.head? at first
  rw [unread_skipHeartbeats] at first
  have begins := List.head?_dropWhile_not isEol decoder.unread
  rw [first] at begins
  simpa using begins

theorem view_nextFrame (decoder : Decoder) :
    view decoder.nextFrame = Grammar.decoder.pull decoder.unread := by
  have waiting := (unread_skipHeartbeats decoder).symm
  change _ = Grammar.frame.pull isEol decoder.unread
  have nonblank := @command_line_not_blank decoder
  rw [nextFrame]
  dsimp only
  generalize decoder.skipHeartbeats = skipped at waiting nonblank ⊢
  split
  · rename_i missing
    rw [Parser.pull_of_incomplete waiting (Grammar.frame_of_cut_none (cut_eq_none_iff.mpr missing))]
    rfl
  · rename_i newline found
    have parses := Grammar.frame_of_cut (cut_of_position found)
    rw [← drop_behind ⟨skipped.pos, skipped.within⟩ found, ← view_scanHeaders_nil] at parses
    rw [if_neg (nonblank found)]
    cases decoded : fromUtf8 (stripCr ((skipped.buf.drop skipped.pos).take newline)) with
    | none =>
      rw [decoded] at parses
      exact (Parser.pull_of_failed waiting parses).symm
    | some =>
      rw [decoded] at parses
      dsimp only at parses ⊢
      cases headersSeen : scanHeaders skipped.buf
          (Cursor.behind ⟨skipped.pos, skipped.within⟩ found) [] with
      | incomplete =>
        rw [headersSeen] at parses
        exact (Parser.pull_of_incomplete waiting parses).symm
      | failed error =>
        rw [headersSeen] at parses
        exact (Parser.pull_of_failed waiting parses).symm
      | complete headers cursor =>
        rw [headersSeen] at parses
        dsimp only [Scan.view] at parses ⊢
        rw [← view_scanBody] at parses
        cases bodySeen : scanBody skipped.buf cursor (contentLengthOf headers) with
        | incomplete =>
          rw [bodySeen] at parses
          exact (Parser.pull_of_incomplete waiting parses).symm
        | failed =>
          rw [bodySeen] at parses
          exact (Parser.pull_of_failed waiting parses).symm
        | complete =>
          rw [bodySeen] at parses
          rw [Parser.pull_of_parsed waiting parses]
          dsimp only [view]
          rw [unread_compact]
          rfl

end Decoder

end Strobengine.Protocols.Stomp
