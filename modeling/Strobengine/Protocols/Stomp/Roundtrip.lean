import Strobengine.Protocols.Stomp.Streaming

/-!
# Encoded frames are decoded

The grammar reads a frame back from its encoding, whatever its header names and values are:
the escaping keeps line ends and colons out of a header line.
-/

namespace Strobengine.Protocols.Stomp

open Foundations Rust

def escapeChar (character : Char) : List Char :=
  if character = '\n' then ['\\', 'n']
  else if character = '\r' then ['\\', 'r']
  else if character = ':' then ['\\', 'c']
  else if character = '\\' then ['\\', '\\']
  else [character]

private theorem escapeChar_eq_singleton
    {character : Char} (plain : character ∉ ['\n', '\r', ':', '\\']) :
    escapeChar character = [character] := by
  simp only [List.mem_cons, List.not_mem_nil, or_false, not_or] at plain
  rw [escapeChar, if_neg plain.1, if_neg plain.2.1, if_neg plain.2.2.1, if_neg plain.2.2.2]

private theorem escapeByte_eq_singleton
    {byte : UInt8} (plain : byte ∉ [lineFeed, carriageReturn, colon, backslash]) :
    escapeByte byte = [byte] := by
  simp only [List.mem_cons, List.not_mem_nil, or_false, not_or] at plain
  rw [escapeByte, if_neg plain.1, if_neg plain.2.1, if_neg plain.2.2.1, if_neg plain.2.2.2]

private theorem plain_of_mem_utf8EncodeChar
    {character : Char} (plain : character ∉ ['\n', '\r', ':', '\\'])
    {byte : UInt8} (member : byte ∈ String.utf8EncodeChar character) :
    byte ∉ [lineFeed, carriageReturn, colon, backslash] := by
  intro special
  apply plain
  have ascii : byte.toNat < 128 := by
    simp only [List.mem_cons, List.not_mem_nil, or_false] at special
    rcases special with rfl | rfl | rfl | rfl <;> decide
  rw [← Char.ofNat_toNat character, toNat_of_mem_utf8EncodeChar member ascii]
  simp only [List.mem_cons, List.not_mem_nil, or_false] at special
  rcases special with rfl | rfl | rfl | rfl <;> decide

theorem escape_utf8EncodeChar (character : Char) :
    (String.utf8EncodeChar character).flatMap escapeByte =
      (escapeChar character).flatMap String.utf8EncodeChar := by
  by_cases special : character ∈ ['\n', '\r', ':', '\\']
  · simp only [List.mem_cons, List.not_mem_nil, or_false] at special
    rcases special with rfl | rfl | rfl | rfl <;> rfl
  · have unchanged :
        (String.utf8EncodeChar character).flatMap escapeByte =
          (String.utf8EncodeChar character).flatMap List.singleton :=
      List.flatMap_congr fun byte member =>
        escapeByte_eq_singleton (plain_of_mem_utf8EncodeChar special member)
    rw [unchanged, escapeChar_eq_singleton special, List.flatMap_singleton]
    exact List.flatMap_singleton' _

theorem encodeHeader_eq_utf8 (value : String) :
    encodeHeader value = utf8 (String.ofList (value.toList.flatMap escapeChar)) := by
  rw [utf8_ofList, encodeHeader, utf8, List.flatMap_assoc, List.flatMap_assoc]
  congr 1
  funext character
  exact escape_utf8EncodeChar character

private theorem unescape_cons {character : Char} (plain : character ≠ '\\') (rest : List Char) :
    unescape (character :: rest) = (unescape rest).map (List.cons character) := by
  rw [unescape]
  all_goals
    intros
    contradiction

theorem unescape_escapeChar (character : Char) (rest : List Char) :
    unescape (escapeChar character ++ rest) = (unescape rest).map (List.cons character) := by
  by_cases special : character ∈ ['\n', '\r', ':', '\\']
  · simp only [List.mem_cons, List.not_mem_nil, or_false] at special
    rcases special with rfl | rfl | rfl | rfl <;> rfl
  · rw [escapeChar_eq_singleton special, List.singleton_append]
    refine unescape_cons ?_ rest
    rintro rfl
    exact special (by decide)

theorem unescape_escape (characters : List Char) :
    unescape (characters.flatMap escapeChar) = .ok characters := by
  induction characters with
  | nil => rfl
  | cons character characters ih =>
    rw [List.flatMap_cons, unescape_escapeChar, ih]
    rfl

theorem decodeHeader_encodeHeader (value : String) :
    decodeHeader (encodeHeader value) = .ok value := by
  rw [decodeHeader, encodeHeader_eq_utf8, fromUtf8_utf8]
  dsimp only
  rw [String.toList_ofList, unescape_escape]
  exact congrArg Except.ok String.ofList_toList

theorem not_mem_encodeHeader
    (value : String) {byte : UInt8} (structural : byte ∈ [lineFeed, carriageReturn, colon]) :
    byte ∉ encodeHeader value := by
  intro member
  obtain ⟨source, _, escaped⟩ := List.mem_flatMap.mp member
  by_cases special : source ∈ [lineFeed, carriageReturn, colon, backslash]
  · simp only [List.mem_cons, List.not_mem_nil, or_false] at special structural
    rcases special with rfl | rfl | rfl | rfl <;>
      rcases structural with rfl | rfl | rfl <;> exact absurd escaped (by decide)
  · rw [escapeByte_eq_singleton special, List.mem_singleton] at escaped
    subst escaped
    apply special
    simp only [List.mem_cons, List.not_mem_nil, or_false] at structural ⊢
    rcases structural with same | same | same <;> simp [same]

theorem stripCr_eq_self {content : List UInt8} (ends : content.getLast? ≠ some carriageReturn) :
    stripCr content = content := by
  rw [stripCr, if_neg ends]

theorem decodeHeaderLine_encode (name value : String) :
    decodeHeaderLine (encodeHeader name ++ colon :: encodeHeader value) = .ok (name, value) := by
  have separator :
      find (encodeHeader name ++ colon :: encodeHeader value) colon =
        some (encodeHeader name).length :=
    position_append_cons (not_mem_encodeHeader name (by decide)) _
  have behind :
      (encodeHeader name ++ colon :: encodeHeader value).drop ((encodeHeader name).length + 1) =
        encodeHeader value := by
    simp
  rw [decodeHeaderLine, separator]
  dsimp only
  rw [List.take_left, decodeHeader_encodeHeader, behind, decodeHeader_encodeHeader]

theorem Grammar.headers_encode (sent : List (String × String)) (rest : List UInt8) :
    headers (sent.flatMap Frame.encodeHeaderLine ++ lineFeed :: rest) = .parsed sent rest := by
  induction sent with
  | nil =>
    have blank : cut lineFeed (lineFeed :: rest) = some ([], rest) :=
      cut_append_cons List.not_mem_nil rest
    rw [List.flatMap_nil, List.nil_append, headers_of_cut blank]
    rfl
  | cons header sent ih =>
    obtain ⟨name, value⟩ := header
    have absent {byte : UInt8} (structural : byte ∈ [lineFeed, carriageReturn, colon])
        (other : byte ≠ colon) : byte ∉ encodeHeader name ++ colon :: encodeHeader value := by
      rw [List.mem_append, List.mem_cons]
      rintro (inName | isColon | inValue)
      · exact not_mem_encodeHeader name structural inName
      · exact other isColon
      · exact not_mem_encodeHeader value structural inValue
    have whole :
        (((name, value) :: sent).flatMap Frame.encodeHeaderLine ++ lineFeed :: rest) =
          (encodeHeader name ++ colon :: encodeHeader value) ++
            lineFeed :: (sent.flatMap Frame.encodeHeaderLine ++ lineFeed :: rest) := by
      simp [Frame.encodeHeaderLine]
    have unchanged :
        stripCr (encodeHeader name ++ colon :: encodeHeader value) =
          encodeHeader name ++ colon :: encodeHeader value :=
      stripCr_eq_self fun ends =>
        absent (by decide) (by decide) (List.mem_of_getLast? ends)
    rw [whole, headers_of_cut (cut_append_cons (absent (by decide) (by decide)) _), unchanged,
      decodeHeaderLine_encode, if_neg (by simp), ih]
    rfl

/-- A frame that is read back from its encoding. Header names and values are arbitrary. -/
structure Frame.WellFormed (frame : Frame) : Prop where
  commandNonempty : frame.command ≠ ""
  commandOneLine : '\n' ∉ frame.command.toList
  commandTrimmed : trim frame.command = frame.command
  bodyDelimited :
    frame.contentLength = some frame.body.length ∨
      (frame.contentLength = none ∧ nullOctet ∉ frame.body ∧ frame.body.getLast? ≠ some lineFeed)

theorem Frame.encode_ne_nil (frame : Frame) : frame.encode ≠ [] := by
  simp [Frame.encode]

namespace Frame.WellFormed

variable {frame : Frame}

theorem lineFeed_not_mem (wellFormed : frame.WellFormed) : lineFeed ∉ utf8 frame.command :=
  fun member => wellFormed.commandOneLine (mem_toList_of_mem_utf8 member (by decide))

theorem stripCr_command (wellFormed : frame.WellFormed) :
    stripCr (utf8 frame.command) = utf8 frame.command := by
  refine stripCr_eq_self fun ends => ?_
  have final := getLast_of_getLast_utf8 ends (by decide)
  have visible := isWhitespace_of_getLast wellFormed.commandTrimmed final
  exact absurd visible (by decide)

theorem head_encode (wellFormed : frame.WellFormed) :
    ∀ byte ∈ frame.encode.head?, isEol byte = false := by
  intro byte first
  cases bytes : utf8 frame.command with
  | nil => exact absurd (utf8_eq_nil bytes) wellFormed.commandNonempty
  | cons =>
    rw [Frame.encode, bytes] at first
    cases first
    have begins : (utf8 frame.command).head? = some byte := congrArg List.head? bytes
    rw [isEol, Bool.or_eq_false_iff, beq_eq_false_iff_ne, beq_eq_false_iff_ne]
    refine ⟨?_, ?_⟩
    all_goals
      rintro rfl
      have blank :=
        isWhitespace_of_head wellFormed.commandTrimmed (head_of_head_utf8 begins (by decide))
      exact absurd blank (by decide)

theorem dropWhile_encode (wellFormed : frame.WellFormed) (rest : List UInt8) :
    (frame.encode ++ rest).dropWhile isEol = frame.encode ++ rest := by
  apply dropWhile_eq_self_of_head
  rw [List.head?_append_of_ne_nil _ frame.encode_ne_nil]
  exact wellFormed.head_encode

theorem body_encode (wellFormed : frame.WellFormed) (rest : List UInt8) :
    Grammar.body frame.contentLength (frame.body ++ nullOctet :: rest) =
      .parsed frame.body rest := by
  rcases wellFormed.bodyDelimited with exact | ⟨unknown, noNull, noEol⟩
  · have terminator : (frame.body ++ nullOctet :: rest).getD frame.body.length 0 = nullOctet := by
      simp
    rw [exact, Grammar.body_some, if_neg (by simp), terminator, if_neg (by simp), List.take_left]
    simp
  · rw [unknown, Grammar.body_none_of_cut (cut_append_cons noNull rest), Grammar.stripEol,
      if_neg noEol]

theorem frame_encode (wellFormed : frame.WellFormed) (rest : List UInt8) :
    Grammar.frame (frame.encode ++ rest) = .parsed frame rest := by
  have whole :
      frame.encode ++ rest =
        utf8 frame.command ++ lineFeed ::
          (frame.headers.flatMap Frame.encodeHeaderLine ++
            lineFeed :: (frame.body ++ nullOctet :: rest)) := by
    simp [Frame.encode]
  rw [whole, Grammar.frame_of_cut (cut_append_cons wellFormed.lineFeed_not_mem _),
    wellFormed.stripCr_command, fromUtf8_utf8, Grammar.headers_encode]
  dsimp only
  rw [wellFormed.commandTrimmed]
  change (Grammar.body frame.contentLength _).map _ = _
  rw [wellFormed.body_encode]
  rfl

theorem pull_of_prefix (wellFormed : frame.WellFormed) {front : List UInt8}
    (begins : front <+: frame.encode) (proper : front ≠ frame.encode) :
    Grammar.decoder.pull front = .more front := by
  obtain ⟨more, whole⟩ := begins
  have missing : more ≠ [] := by
    rintro rfl
    exact proper (by rw [← whole, List.append_nil])
  have read : Grammar.frame (front ++ more) = .parsed frame [] := by
    rw [whole, ← List.append_nil frame.encode]
    exact wellFormed.frame_encode []
  have unskipped : front.dropWhile isEol = front := by
    apply dropWhile_eq_self_of_head
    intro byte first
    apply wellFormed.head_encode
    rw [← whole, List.head?_append, first]
    rfl
  exact Parser.pull_of_incomplete unskipped (Grammar.stable_frame.incomplete_of_append read missing)

end Frame.WellFormed

theorem Grammar.drain_separated (parts : List (List UInt8 × Frame)) (last : List UInt8)
    (heartbeats : ∀ part ∈ parts, ∀ byte ∈ part.1, isEol byte = true)
    (trailing : ∀ byte ∈ last, isEol byte = true) (wellFormed : ∀ part ∈ parts, part.2.WellFormed) :
    decoder.drain (separated Frame.encode parts last) =
      { items := parts.map Prod.snd, error := none, rest := [] } :=
  Parser.drain_separated rfl Frame.encode parts last heartbeats trailing
    (fun part member rest => (wellFormed part member).dropWhile_encode rest)
    (fun part member rest => (wellFormed part member).frame_encode rest)

theorem Grammar.drain_frames
    (frames : List Frame) (wellFormed : ∀ frame ∈ frames, frame.WellFormed) :
    decoder.drain (frames.flatMap Frame.encode) =
      { items := frames, error := none, rest := [] } := by
  have drained :=
    drain_separated (frames.map (fun frame => ([], frame))) [] (by simp) (by simp)
      (by simpa using wellFormed)
  rw [separated, List.append_nil, List.flatMap_map, List.map_map] at drained
  exact drained.trans (congrArg (Yield.mk · none []) (List.map_id frames))

theorem Decoder.view_feed_of_flatten {chunks : List (List UInt8)} {bytes : List UInt8}
    (cutting : chunks.flatten = bytes) :
    (new.feed chunks).view = Grammar.decoder.drain bytes := by
  rw [view_feed_new, view_drain, unread_push, cutting]
  rfl

theorem Decoder.view_feed_frames_append
    (frames : List Frame) (tail : List UInt8) (chunks : List (List UInt8))
    (wellFormed : ∀ frame ∈ frames, frame.WellFormed)
    (waits : Grammar.decoder.pull tail = .more tail)
    (cutting : chunks.flatten = frames.flatMap Frame.encode ++ tail) :
    (new.feed chunks).view = { items := frames, error := none, rest := tail } := by
  rw [view_feed_of_flatten cutting, Grammar.steady_decoder.drain_append,
    Grammar.drain_frames frames wellFormed]
  change Yield.followedBy _ (Grammar.decoder.drain tail) = _
  rw [Puller.drain_of_more waits]
  ext1
  · exact List.append_nil frames
  · rfl
  · rfl

end Strobengine.Protocols.Stomp
