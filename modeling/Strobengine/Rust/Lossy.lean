import Strobengine.Rust.Bytes

/-!
# Lossy decoding and cut texts

`String::from_utf8_lossy` reads a text back from its bytes. It never makes bytes shorter: a
replacement character takes three bytes and stands for three at most.
-/

namespace Strobengine.Rust

theorem toNat_ofNat {code : Nat} (valid : code.isValidChar) : (Char.ofNat code).toNat = code := by
  rw [Char.ofNat, dif_pos valid]
  rfl

theorem length_utf8EncodeChar_ofNat {code : Nat} (valid : code.isValidChar) :
    (String.utf8EncodeChar (Char.ofNat code)).length =
      if code ≤ 127 then 1 else if code ≤ 2047 then 2 else if code ≤ 65535 then 3 else 4 := by
  have value : (Char.ofNat code).val.toNat = code := toNat_ofNat valid
  simp only [String.utf8EncodeChar, value]
  repeat' split
  all_goals rfl

theorem isContinuation_iff (byte : UInt8) :
    isContinuation byte ↔ 128 ≤ byte.toNat ∧ byte.toNat ≤ 191 := by
  simp [isContinuation, UInt8.le_iff_toNat_le]

/-- The second byte goes on with the character, and no character is encoded in too many bytes
or outside the range of characters. -/
theorem secondFits_iff (first second : UInt8) :
    secondFits first second ↔
      128 ≤ second.toNat ∧ second.toNat ≤ 191 ∧
        (first.toNat = 224 → 160 ≤ second.toNat) ∧ (first.toNat = 237 → second.toNat ≤ 159) ∧
        (first.toNat = 240 → 144 ≤ second.toNat) ∧ (first.toNat = 244 → second.toNat ≤ 143) := by
  unfold secondFits
  simp only [← UInt8.toNat_inj]
  repeat' split
  all_goals
    simp_all [isContinuation_iff, UInt8.le_iff_toNat_le]
    try omega

theorem lossyCharacter_length (first : UInt8) (rest : List UInt8) :
    (lossyCharacter first rest).2 <
      (String.utf8EncodeChar (lossyCharacter first rest).1).length := by
  have replaced (taken : Nat) (few : taken < 3) : taken < (String.utf8EncodeChar '\uFFFD').length :=
    Nat.lt_of_lt_of_eq few (by decide)
  fun_cases lossyCharacter first rest
  case case1 => exact List.length_pos_of_ne_nil String.utf8EncodeChar_ne_nil
  -- in the cases of a character the bytes bound its code from below
  case case3 | case9 | case11 =>
    simp only [Bool.and_eq_true, decide_eq_true_eq, UInt8.le_iff_toNat_le, UInt8.reduceToNat,
      Bool.not_eq_true', Bool.not_eq_false, isContinuation_iff, secondFits_iff] at *
    simp only [decodedChar, List.foldl_cons, List.foldl_nil]
    rw [length_utf8EncodeChar_ofNat (by unfold Nat.isValidChar; omega)]
    split_ifs <;> omega
  all_goals exact replaced _ (by decide)

theorem length_le_flatMap_lossyCharacters (taken : Nat) (bytes : List UInt8) :
    bytes.length ≤
      taken + ((lossyCharacters taken bytes).flatMap String.utf8EncodeChar).length := by
  fun_induction lossyCharacters taken bytes with
  | case1 => exact Nat.zero_le _
  | case2 taken _ rest ih =>
    rw [List.length_cons]
    omega
  | case3 first rest ih =>
    have size := lossyCharacter_length first rest
    rw [List.length_cons, List.flatMap_cons, List.length_append]
    omega

theorem length_le_utf8_fromUtf8Lossy (bytes : List UInt8) :
    bytes.length ≤ (utf8 (fromUtf8Lossy bytes)).length := by
  have bound := length_le_flatMap_lossyCharacters 0 bytes
  rw [Nat.zero_add] at bound
  rwa [fromUtf8Lossy, utf8_ofList]

theorem lossyCharacter_one {first : UInt8} (ascii : first.toNat < 128) (rest : List UInt8) :
    lossyCharacter first rest = (Char.ofNat first.toNat, 0) := by
  unfold lossyCharacter
  rw [if_pos (UInt8.lt_iff_toNat_lt.mpr ascii)]

theorem lossyCharacter_two {first second : UInt8} (lead : 194 ≤ first.toNat ∧ first.toNat ≤ 223)
    (continues : isContinuation second) (rest : List UInt8) :
    lossyCharacter first (second :: rest) = (decodedChar (first.toNat % 32) [second], 1) := by
  simp only [lossyCharacter, UInt8.lt_iff_toNat_lt, UInt8.le_iff_toNat_le, UInt8.reduceToNat]
  rw [if_neg (by omega), if_pos (by simpa using lead), if_pos continues]

theorem lossyCharacter_three {first second third : UInt8}
    (lead : 224 ≤ first.toNat ∧ first.toNat ≤ 239) (fits : secondFits first second)
    (continues : isContinuation third) (rest : List UInt8) :
    lossyCharacter first (second :: third :: rest) =
      (decodedChar (first.toNat % 16) [second, third], 2) := by
  simp only [lossyCharacter, UInt8.lt_iff_toNat_lt, UInt8.le_iff_toNat_le, UInt8.reduceToNat]
  rw [if_neg (by omega), if_neg (by simp; omega), if_pos (by simp; omega), if_neg (by simp [fits]),
    if_neg (by simp [continues]), if_pos lead.2]

theorem lossyCharacter_four {first second third fourth : UInt8}
    (lead : 240 ≤ first.toNat ∧ first.toNat ≤ 244) (fits : secondFits first second)
    (continues : isContinuation third) (ends : isContinuation fourth) (rest : List UInt8) :
    lossyCharacter first (second :: third :: fourth :: rest) =
      (decodedChar (first.toNat % 8) [second, third, fourth], 3) := by
  simp only [lossyCharacter, UInt8.lt_iff_toNat_lt, UInt8.le_iff_toNat_le, UInt8.reduceToNat]
  rw [if_neg (by omega), if_neg (by simp; omega), if_pos (by simp; omega), if_neg (by simp [fits]),
    if_neg (by simp [continues]), if_neg (by omega), if_pos ends]

theorem lossyCharacters_encode (character : Char) (rest : List UInt8) :
    lossyCharacters 0 (String.utf8EncodeChar character ++ rest) =
      character :: lossyCharacters 0 rest := by
  have valid : character.val.toNat.isValidChar := character.valid
  have restored {code : Nat} (same : code = character.val.toNat) : Char.ofNat code = character :=
    same ▸ Char.ofNat_toNat character
  unfold Nat.isValidChar at valid
  simp only [String.utf8EncodeChar]
  split_ifs
  all_goals
    rw [List.cons_append, lossyCharacters]
    simp only [List.cons_append, List.nil_append]
  -- the lead byte and the number of continuation bytes say which character is read
  all_goals
    first
    | rw [lossyCharacter_four]
    | rw [lossyCharacter_three]
    | rw [lossyCharacter_two]
    | rw [lossyCharacter_one]
  all_goals
    simp only [lossyCharacters, decodedChar, List.foldl_cons, List.foldl_nil, secondFits_iff,
      isContinuation_iff, UInt8.toNat_ofNat']
    first
    | omega
    | rw [restored (by omega)]

theorem fromUtf8Lossy_utf8 (text : String) : fromUtf8Lossy (utf8 text) = text := by
  have read (characters : List Char) :
      lossyCharacters 0 (characters.flatMap String.utf8EncodeChar) = characters := by
    induction characters with
    | nil => rfl
    | cons character rest ih => rw [List.flatMap_cons, lossyCharacters_encode, ih]
  rw [fromUtf8Lossy, utf8, read, String.ofList_toList]

theorem utf8_append (front back : String) : utf8 (front ++ back) = utf8 front ++ utf8 back := by
  rw [utf8, String.toList_append, List.flatMap_append]
  rfl

theorem utf8_join (pieces : List String) : utf8 (String.join pieces) = pieces.flatMap utf8 := by
  induction pieces with
  | nil => rfl
  | cons piece rest ih => rw [String.join_cons, utf8_append, ih, List.flatMap_cons]

section Growing

variable {Item : Type} {grown : List Item → List Item}
  (longer : ∀ items, items.length ≤ (grown items).length)
include longer

theorem length_flatten_le_flatMap (pieces : List (List Item)) :
    pieces.flatten.length ≤ (pieces.flatMap grown).length := by
  induction pieces with
  | nil => exact Nat.le_refl 0
  | cons piece =>
    have here := longer piece
    rw [List.flatten_cons, List.flatMap_cons, List.length_append, List.length_append]
    omega

/-- Pieces that do not get shorter and are the same together are the same one by one. -/
theorem eq_of_flatMap_eq {pieces : List (List Item)}
    (same : pieces.flatMap grown = pieces.flatten) : ∀ piece ∈ pieces, grown piece = piece := by
  induction pieces with
  | nil => exact fun piece member => nomatch member
  | cons piece rest ih =>
    rw [List.flatMap_cons, List.flatten_cons] at same
    have lengths := congrArg List.length same
    have here := longer piece
    have later := length_flatten_le_flatMap longer rest
    rw [List.length_append, List.length_append] at lengths
    obtain ⟨first, others⟩ := List.append_inj same (by omega)
    exact List.forall_mem_cons.mpr ⟨first, ih others⟩

end Growing

/-- Pieces that are decoded one by one make up the same bytes if each is a text. -/
theorem utf8_join_fromUtf8Lossy_iff (pieces : List (List UInt8)) :
    utf8 (String.join (pieces.map fromUtf8Lossy)) = pieces.flatten ↔
      ∀ piece ∈ pieces, ∃ text, piece = utf8 text := by
  rw [utf8_join, List.flatMap_map]
  constructor
  · intro same piece member
    exact
      ⟨fromUtf8Lossy piece, (eq_of_flatMap_eq length_le_utf8_fromUtf8Lossy same piece member).symm⟩
  · intro texts
    rw [List.flatMap_def]
    refine
      congrArg List.flatten ((List.map_congr_left fun piece member => ?_).trans (List.map_id _))
    obtain ⟨text, rfl⟩ := texts piece member
    rw [fromUtf8Lossy_utf8]
    rfl

end Strobengine.Rust
