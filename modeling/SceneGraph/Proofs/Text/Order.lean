import Mathlib.Data.List.Lex
import Mathlib.Data.String.Basic

/-!
The order of texts is that of their UTF-8 bytes: of two characters the smaller one has the smaller
encoding already at the first byte where the encodings differ.
-/
namespace SceneGraph.Text

/-- The bytes of a text in UTF-8. -/
def bytes (text : String) : List UInt8 := text.toByteArray.data.toList

theorem bytes_eq (text : String) : bytes text = text.toList.flatMap String.utf8EncodeChar := by
  have encoded : text.toByteArray = (text.toList.flatMap String.utf8EncodeChar).toByteArray := by
    rw [← List.utf8Encode, ← String.toByteArray_ofList, String.ofList_toList]
  rw [bytes, encoded, List.toList_data_toByteArray]

/-- The six-bit digits of a number, the last three of them. -/
theorem digits_lt {low high : Nat} (smaller : low < high) :
    low / 262144 < high / 262144 ∨ low / 262144 = high / 262144 ∧
      (low / 4096 % 64 < high / 4096 % 64 ∨ low / 4096 % 64 = high / 4096 % 64 ∧
        (low / 64 % 64 < high / 64 % 64 ∨ low / 64 % 64 = high / 64 % 64 ∧
          low % 64 < high % 64)) := by
  omega

/-- What follows the characters does not matter. -/
theorem encode_lt {first second : Char} (smaller : first < second) (rest others : List UInt8) :
    String.utf8EncodeChar first ++ rest < String.utf8EncodeChar second ++ others := by
  have value : first.val.toNat < second.val.toNat := smaller
  have bounded : second.val.toNat < 0x110000 := by
    have valid := second.valid
    unfold UInt32.isValidChar Nat.isValidChar at valid
    omega
  unfold String.utf8EncodeChar
  generalize first.val.toNat = low at value
  generalize second.val.toNat = high at value bounded
  have digits := digits_lt value
  have two (number : Nat) : (number % 32 + 192) % 2 ^ 8 = number % 32 + 192 := by omega
  have three (number : Nat) : (number % 16 + 224) % 2 ^ 8 = number % 16 + 224 := by omega
  have lowFour : (low / 262144 % 8 + 240) % 2 ^ 8 = low / 262144 + 240 := by omega
  have highFour : (high / 262144 % 8 + 240) % 2 ^ 8 = high / 262144 + 240 := by omega
  have later (number : Nat) : (number % 64 + 128) % 2 ^ 8 = number % 64 + 128 := by omega
  dsimp only
  -- The first bytes tell different lengths apart; with one length, the digits are compared.
  split_ifs <;>
    simp only [List.cons_append, List.nil_append, List.cons_lt_cons_iff, UInt8.lt_iff_toNat_lt,
      ← UInt8.toNat_inj, UInt8.toNat_ofNat', two, three, lowFour, highFour, later] <;> omega

theorem encode_ne_nil (character : Char) : String.utf8EncodeChar character ≠ [] := by
  unfold String.utf8EncodeChar
  dsimp only
  split_ifs <;> exact List.cons_ne_nil _ _

theorem encodeAll_lt {first second : List Char} (smaller : first < second) :
    first.flatMap String.utf8EncodeChar < second.flatMap String.utf8EncodeChar := by
  induction smaller with
  | nil =>
    rename_i character rest
    rw [List.flatMap_nil, List.flatMap_cons]
    cases encoded : String.utf8EncodeChar character with
    | nil => exact absurd encoded (encode_ne_nil character)
    | cons byte others => exact .nil
  | rel smaller =>
    rw [List.flatMap_cons, List.flatMap_cons]
    exact encode_lt smaller _ _
  | cons _ ih =>
    rw [List.flatMap_cons, List.flatMap_cons]
    exact List.append_left_lt ih

theorem lt_iff_bytes {first second : String} : first < second ↔ bytes first < bytes second := by
  have forward : ∀ {first second : String}, first < second → bytes first < bytes second := by
    intro first second smaller
    rw [bytes_eq, bytes_eq]
    exact encodeAll_lt (String.lt_iff.mp smaller)
  refine ⟨forward, fun smaller => ?_⟩
  rcases lt_trichotomy first second with before | rfl | after
  · exact before
  · exact absurd smaller (List.lt_irrefl _)
  · exact absurd (forward after) (List.lt_asymm smaller)

end SceneGraph.Text
