import Strobengine.Rust.Text

/-!
# Byte strings

Texts as UTF-8 byte strings, the text of bytes that need not be UTF-8, and byte strings cut
at the first occurrence of a byte.
-/

namespace Strobengine.Rust

def utf8 (text : String) : List UInt8 :=
  text.toList.flatMap String.utf8EncodeChar

def fromUtf8 (bytes : List UInt8) : Option String :=
  String.fromUTF8? bytes.toByteArray

theorem utf8_ofList (characters : List Char) :
    utf8 (String.ofList characters) = characters.flatMap String.utf8EncodeChar := by
  rw [utf8, String.toList_ofList]

theorem toByteArray_utf8 (text : String) : (utf8 text).toByteArray = text.toByteArray := by
  have whole := congrArg String.toByteArray (String.ofList_toList (s := text))
  rw [String.toByteArray_ofList] at whole
  exact whole

theorem fromUtf8_utf8 (text : String) : fromUtf8 (utf8 text) = some text := by
  have valid : text.toByteArray.IsValidUTF8 := text.isValidUTF8
  rw [fromUtf8, toByteArray_utf8, String.fromUTF8?, dif_pos valid]
  rfl

variable {text : String}

theorem utf8_eq_nil (empty : utf8 text = []) : text = "" := by
  have read := fromUtf8_utf8 text
  rw [empty] at read
  exact Option.some.inj (read.symm.trans (fromUtf8_utf8 ""))

variable {byte : UInt8}

theorem toNat_of_mem_utf8EncodeChar {character : Char}
    (member : byte ∈ String.utf8EncodeChar character) (ascii : byte.toNat < 128) :
    character.toNat = byte.toNat := by
  simp only [String.utf8EncodeChar] at member
  change character.val.toNat = byte.toNat
  -- every byte of a longer encoding has its high bit set
  split at member
  · rename_i small
    rw [List.mem_singleton.mp member, UInt8.toNat_ofNat']
    omega
  · split at member
    · simp only [List.mem_cons, List.not_mem_nil, or_false] at member
      rcases member with rfl | rfl
      all_goals
        rw [UInt8.toNat_ofNat'] at ascii
        omega
    · split at member
      all_goals
        simp only [List.mem_cons, List.not_mem_nil, or_false] at member
        rcases member with rfl | rfl | rfl | rfl
      all_goals
        rw [UInt8.toNat_ofNat'] at ascii
        omega

theorem mem_toList_of_mem_utf8 (member : byte ∈ utf8 text) (ascii : byte.toNat < 128) :
    Char.ofNat byte.toNat ∈ text.toList := by
  obtain ⟨character, present, encoded⟩ := List.mem_flatMap.mp member
  rw [← toNat_of_mem_utf8EncodeChar encoded ascii, Char.ofNat_toNat]
  exact present

theorem getLast_of_getLast_utf8
    (ends : (utf8 text).getLast? = some byte) (ascii : byte.toNat < 128) :
    text.toList.getLast? = some (Char.ofNat byte.toNat) := by
  rw [utf8] at ends
  rcases List.eq_nil_or_concat text.toList with empty | ⟨front, final, whole⟩
  · rw [empty] at ends
    cases ends
  · rw [List.concat_eq_append] at whole
    rw [whole, List.flatMap_append, List.flatMap_singleton,
      List.getLast?_append_of_ne_nil _ String.utf8EncodeChar_ne_nil] at ends
    rw [whole, List.getLast?_concat,
      ← toNat_of_mem_utf8EncodeChar (List.mem_of_getLast? ends) ascii, Char.ofNat_toNat]

theorem head_of_head_utf8 (begins : (utf8 text).head? = some byte) (ascii : byte.toNat < 128) :
    text.toList.head? = some (Char.ofNat byte.toNat) := by
  rw [utf8] at begins
  cases characters : text.toList with
  | nil =>
    rw [characters] at begins
    cases begins
  | cons =>
    rw [characters, List.flatMap_cons,
      List.head?_append_of_ne_nil _ String.utf8EncodeChar_ne_nil] at begins
    rw [List.head?_cons,
      ← toNat_of_mem_utf8EncodeChar (List.mem_of_head? begins) ascii, Char.ofNat_toNat]

def isContinuation (byte : UInt8) : Bool :=
  0x80 ≤ byte && byte ≤ 0xBF

/-- The second bytes that a character of three or four bytes may have. -/
def secondFits (first second : UInt8) : Bool :=
  if first = 0xE0 then 0xA0 ≤ second && second ≤ 0xBF
  else if first = 0xED then 0x80 ≤ second && second ≤ 0x9F
  else if first = 0xF0 then 0x90 ≤ second && second ≤ 0xBF
  else if first = 0xF4 then 0x80 ≤ second && second ≤ 0x8F
  else isContinuation second

/-- The character with the given leading bits and further bytes. -/
def decodedChar (leading : Nat) (further : List UInt8) : Char :=
  Char.ofNat (further.foldl (fun value byte => value * 64 + byte.toNat % 64) leading)

/-- What a byte and the bytes behind it begin with: a character, with the number of further
bytes that it takes. Bytes that cannot go on as a character become one replacement
character. -/
def lossyCharacter (first : UInt8) (rest : List UInt8) : Char × Nat :=
  if first < 0x80 then
    (Char.ofNat first.toNat, 0)
  else if 0xC2 ≤ first && first ≤ 0xDF then
    match rest with
    | [] => ('\uFFFD', 0)
    | second :: _ =>
      if isContinuation second then (decodedChar (first.toNat % 32) [second], 1)
      else ('\uFFFD', 0)
  else if 0xE0 ≤ first && first ≤ 0xF4 then
    match rest with
    | [] => ('\uFFFD', 0)
    | second :: afterSecond =>
      if !secondFits first second then
        ('\uFFFD', 0)
      else
        match afterSecond with
        | [] => ('\uFFFD', 1)
        | third :: afterThird =>
          if !isContinuation third then
            ('\uFFFD', 1)
          else if first ≤ 0xEF then
            (decodedChar (first.toNat % 16) [second, third], 2)
          else
            match afterThird with
            | [] => ('\uFFFD', 2)
            | fourth :: _ =>
              if isContinuation fourth then
                (decodedChar (first.toNat % 8) [second, third, fourth], 3)
              else
                ('\uFFFD', 2)
  else
    ('\uFFFD', 0)

def lossyCharacters : Nat → List UInt8 → List Char
  | _, [] => []
  | taken + 1, _ :: rest => lossyCharacters taken rest
  | 0, first :: rest =>
    (lossyCharacter first rest).1 :: lossyCharacters (lossyCharacter first rest).2 rest

def fromUtf8Lossy (bytes : List UInt8) : String :=
  String.ofList (lossyCharacters 0 bytes)

/-! ## Numbers in network order -/

def toBeBytes (value : Nat) : Nat → List UInt8
  | 0 => []
  | width + 1 => UInt8.ofNat (value / 256 ^ width) :: toBeBytes value width

def fromBeBytes (bytes : List UInt8) : Nat :=
  bytes.foldl (fun value byte => value * 256 + byte.toNat) 0

theorem foldl_toBeBytes (value width start : Nat) :
    (toBeBytes value width).foldl (fun value byte => value * 256 + byte.toNat) start =
      start * 256 ^ width + value % 256 ^ width := by
  induction width generalizing start with
  | zero => simp [toBeBytes, Nat.mod_one]
  | succ width ih =>
    have digits : value % 256 ^ (width + 1) =
        value % 256 ^ width + value / 256 ^ width % 2 ^ 8 * 256 ^ width := by
      rw [Nat.pow_succ, Nat.mod_mul, Nat.mul_comm (256 ^ width)]
      rfl
    rw [toBeBytes, List.foldl_cons, ih, UInt8.toNat_ofNat', digits, Nat.add_mul,
      Nat.mul_assoc, Nat.mul_comm 256, Nat.pow_succ (m := width)]
    omega

theorem fromBeBytes_toBeBytes {value width : Nat} (small : value < 256 ^ width) :
    fromBeBytes (toBeBytes value width) = value := by
  rw [fromBeBytes, foldl_toBeBytes, Nat.zero_mul, Nat.zero_add, Nat.mod_eq_of_lt small]

/-! ## Cutting at a byte -/

/-- The position of the first occurrence of a byte, `iter().position(|&b| b == needle)`. -/
def position (haystack : List UInt8) (needle : UInt8) : Option Nat :=
  haystack.findIdx? (fun byte => byte == needle)

/-- What stands before and after the first occurrence of a byte. -/
def cut (needle : UInt8) (bytes : List UInt8) : Option (List UInt8 × List UInt8) :=
  (position bytes needle).map (fun offset => (bytes.take offset, bytes.drop (offset + 1)))

variable {needle : UInt8} {offset : Nat}

theorem position_lt {haystack : List UInt8}
    (found : position haystack needle = some offset) : offset < haystack.length :=
  (List.findIdx?_eq_some_iff_findIdx_eq.mp found).1

theorem position_append {haystack : List UInt8}
    (found : position haystack needle = some offset) (more : List UInt8) :
    position (haystack ++ more) needle = some offset := by
  unfold position at found ⊢
  rw [List.findIdx?_append, found]
  rfl

variable {bytes : List UInt8}

theorem cut_of_position (found : position bytes needle = some offset) :
    cut needle bytes = some (bytes.take offset, bytes.drop (offset + 1)) := by
  rw [cut, found]
  rfl

theorem cut_eq_none_iff : cut needle bytes = none ↔ position bytes needle = none := by
  rw [cut, Option.map_eq_none_iff]

variable {before : List UInt8}

theorem cut_append {after : List UInt8}
    (found : cut needle bytes = some (before, after)) (more : List UInt8) :
    cut needle (bytes ++ more) = some (before, after ++ more) := by
  obtain ⟨offset, position, pair⟩ := Option.map_eq_some_iff.mp found
  cases pair
  have bound := position_lt position
  rw [cut_of_position (position_append position more),
    List.take_append_of_le_length (Nat.le_of_lt bound), List.drop_append_of_le_length bound]

theorem length_lt_of_cut {after : List UInt8}
    (found : cut needle bytes = some (before, after)) : after.length < bytes.length := by
  obtain ⟨offset, position, pair⟩ := Option.map_eq_some_iff.mp found
  cases pair
  have bound := position_lt position
  rw [List.length_drop]
  omega

theorem position_append_cons (absent : needle ∉ before) (after : List UInt8) :
    position (before ++ needle :: after) needle = some before.length := by
  have missing : position before needle = none := by
    apply List.findIdx?_eq_none_iff.mpr
    intro byte member
    rw [beq_eq_false_iff_ne]
    rintro rfl
    exact absent member
  unfold position at missing ⊢
  rw [List.findIdx?_append, missing, List.findIdx?_cons]
  simp

theorem cut_append_cons (absent : needle ∉ before) (after : List UInt8) :
    cut needle (before ++ needle :: after) = some (before, after) := by
  rw [cut_of_position (position_append_cons absent after), List.take_left]
  simp

end Strobengine.Rust
