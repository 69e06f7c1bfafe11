import SceneGraph.Component.TypeId
import SceneGraph.Proofs.Text.Order

/-!
When two names have one identifier. Mixing in a byte is a bijection of hashes, and different bytes
take a hash to different hashes. So a common end of two names decides nothing, and names of which
only one byte differs never collide.
-/
namespace SceneGraph

namespace Text

/-- Texts of one length in bytes that differ in exactly one of them. -/
structure DifferOnce (text other : String) : Prop where
  length_eq : (bytes text).length = (bytes other).length
  once : ∃! position : Nat, (bytes text)[position]? ≠ (bytes other)[position]?

theorem bytes_append (first second : String) :
    bytes (first ++ second) = bytes first ++ bytes second := by
  rw [bytes, String.toByteArray_append, ByteArray.toList_data_append]
  rfl

/-- The parts before and behind the byte that differs are the same. -/
theorem DifferOnce.exists_split {text other : String} (differ : DifferOnce text other) :
    ∃ before byte otherByte after, byte ≠ otherByte ∧
      bytes text = before ++ byte :: after ∧ bytes other = before ++ otherByte :: after := by
  obtain ⟨length_eq, position, apart, only⟩ := differ
  generalize bytes text = first, bytes other = second at length_eq apart only
  have inside : position < first.length := by
    by_contra outside
    rw [List.getElem?_eq_none (by omega), List.getElem?_eq_none (by omega)] at apart
    exact apart rfl
  have otherInside : position < second.length := length_eq ▸ inside
  have replaced : second = first.set position second[position] := by
    apply List.ext_getElem?
    intro place
    rw [List.getElem?_set]
    split
    · rename_i here
      subst here
      exact List.getElem?_eq_getElem _
    · rename_i elsewhere
      by_contra different
      exact elsewhere (only place (Ne.symm different)).symm
  have split (byte : UInt8) : first.set position byte =
      first.take position ++ byte :: first.drop (position + 1) := by
    rw [List.set_eq_take_append_cons_drop, if_pos inside]
  rw [List.getElem?_eq_getElem inside, List.getElem?_eq_getElem otherInside, ne_eq,
    Option.some_inj] at apart
  refine ⟨_, first[position], second[position], _, apart, ?_, replaced.trans (split _)⟩
  rw [← split, List.set_getElem_self]

end Text

namespace TypeId

/-- What undoes a multiplication by the prime, modulo the size of a word. -/
def primeInverse : UInt64 := 0xce965057aff6957b

theorem prime_mul_inverse : prime * primeInverse = 1 := by decide

theorem mul_prime_inj {first second : UInt64} : first * prime = second * prime ↔ first = second := by
  constructor
  · intro same
    have undone := congrArg (· * primeInverse) same
    simpa only [UInt64.mul_assoc, prime_mul_inverse, UInt64.mul_one] using undone
  · exact congrArg (· * prime)

theorem mix_left_inj {first second : UInt64} (byte : UInt8) :
    mix first byte = mix second byte ↔ first = second := by
  rw [mix, mix, mul_prime_inj, UInt64.xor_left_inj]

theorem mix_right_inj (hash : UInt64) {byte other : UInt8} :
    mix hash byte = mix hash other ↔ byte = other := by
  rw [mix, mix, mul_prime_inj, UInt64.xor_right_inj, UInt8.toUInt64_inj]

theorem foldl_mix_inj {first second : UInt64} (bytes : List UInt8) :
    bytes.foldl mix first = bytes.foldl mix second ↔ first = second := by
  induction bytes generalizing first second with
  | nil => rfl
  | cons byte bytes ih => rw [List.foldl_cons, List.foldl_cons, ih, mix_left_inj]

theorem ofBytes_append_inj (first second suffix : List UInt8) :
    ofBytes (first ++ suffix) = ofBytes (second ++ suffix) ↔ ofBytes first = ofBytes second := by
  rw [ofBytes_append, ofBytes_append, mk.injEq, foldl_mix_inj]
  exact ⟨congrArg mk, congrArg hash⟩

theorem ofBytes_inj_of_append_singleton (before : List UInt8) {byte other : UInt8} :
    ofBytes (before ++ [byte]) = ofBytes (before ++ [other]) ↔ byte = other := by
  rw [ofBytes_append, ofBytes_append, mk.injEq]
  exact mix_right_inj _

theorem ofName_eq (name : String) : ofName name = ofBytes (Text.bytes name) := rfl

theorem ofName_append_inj (name other suffix : String) :
    ofName (name ++ suffix) = ofName (other ++ suffix) ↔ ofName name = ofName other := by
  simp only [ofName_eq, Text.bytes_append, ofBytes_append_inj]

theorem ofName_ne_of_differOnce {name other : String} (differ : Text.DifferOnce name other) :
    ofName name ≠ ofName other := by
  obtain ⟨before, byte, otherByte, after, apart, named, otherNamed⟩ := differ.exists_split
  rw [ofName_eq, ofName_eq, named, otherNamed, List.append_cons before byte,
    List.append_cons before otherByte, ne_eq, ofBytes_append_inj, ofBytes_inj_of_append_singleton]
  exact apart

/-- Names of one length collide only if they differ in more than one byte, and a common end neither
makes a collision nor prevents one. -/
theorem one_byte_never_collides :
    (∀ name other : String, Text.DifferOnce name other → ofName name ≠ ofName other) ∧
      ∀ name other suffix : String,
        ofName (name ++ suffix) = ofName (other ++ suffix) ↔ ofName name = ofName other :=
  ⟨fun _ _ => ofName_ne_of_differOnce, ofName_append_inj⟩

theorem differOnce_parent : Text.DifferOnce "Parent" "Patent" where
  length_eq := by decide
  once := by
    refine ⟨2, by decide, fun position apart => ?_⟩
    match position with
    | 0 | 1 | 3 | 4 | 5 => exact absurd (by decide) apart
    | 2 => rfl
    | _ + 6 => exact absurd rfl apart

theorem parent_patent_apart :
    Text.DifferOnce "Parent" "Patent" ∧ ofName "Parent" ≠ ofName "Patent" :=
  ⟨differOnce_parent, one_byte_never_collides.1 _ _ differOnce_parent⟩

end TypeId
end SceneGraph
