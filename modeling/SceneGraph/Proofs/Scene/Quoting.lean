import SceneGraph.Proofs.Binary.Narrowing
import SceneGraph.Proofs.Json.Doubles
import SceneGraph.Proofs.Scene.Reading

/-!
Numbers and strings that write them. A string is read as the single nearest to the number that it
writes. A number of a document is held by a double first, and is read as the single nearest to that.
So quoting a number changes it just where a midpoint of singles separates it from its double, which
is only possible close to a midpoint.
-/
namespace SceneGraph
open Binary Json

namespace Tree

/-- The tree is read as the single nearest to a number, with a sign. -/
def ReadsNearest (tree : Tree) (negative : Bool) (number : ℚ) : Prop :=
  ∃ value bits, tree.float32? = some value ∧ IsSingle value negative bits ∧
    single.Nearest number bits

/-- No midpoint of singles has one of two numbers on each side. A midpoint itself is on the side of
its even neighbour, and the last one lies between the largest single and infinity. -/
def Unseparated (number other : ℚ) : Prop :=
  ∀ between < single.infinityBits, (single.Under between number ↔ single.Under between other)

theorem ReadsNearest.eq_iff {tree other : Tree} {negative : Bool} {number otherNumber : ℚ}
    (reads : tree.ReadsNearest negative number)
    (otherReads : other.ReadsNearest negative otherNumber) :
    tree.float32? = other.float32? ↔ Unseparated number otherNumber := by
  obtain ⟨value, bits, read, is, nearest⟩ := reads
  obtain ⟨otherValue, otherBits, otherRead, otherIs, otherNearest⟩ := otherReads
  rw [read, otherRead, Option.some_inj, is.eq_iff otherIs, nearest.eq_iff otherNearest]
  rfl

/-- How far the double of a number can be from it: six units of the last place of a number that has
all its bits, or the least double. -/
def tolerance (number : ℚ) : ℚ := 6 / 2 ^ 53 * number + 2 ^ (-1074 : Int)

/-- Data in which a number is replaced by a string in some places. -/
inductive Quotes (text : String) (number : Double) : Tree → Tree → Prop
  | quoted : Quotes text number (.scalar (.number number)) (.scalar (.string text))
  | null : Quotes text number .null .null
  | scalar (value : Scalar) : Quotes text number (.scalar value) (.scalar value)
  | sequence {items others : List Tree} (same : List.Forall₂ (Quotes text number) items others) :
      Quotes text number (.sequence items) (.sequence others)
  | map {fields others : OrderedMap Tree}
      (same : ∀ key, Option.Rel (Quotes text number) (fields.get? key) (others.get? key)) :
      Quotes text number (.map fields) (.map others)

theorem Quotes.readAlike {text : String} {number : Double}
    (same : (Tree.scalar (.string text)).float32? = (Tree.scalar (.number number)).float32?) :
    ReadAlike (Quotes text number) where
  shape quotes := by cases quotes <;> constructor
  number quotes := by
    cases quotes with
    | quoted => exact same.symm
    | null | scalar _ | sequence _ | map _ => rfl
  items quotes := by
    cases quotes with
    | sequence same => exact same
  fields quotes := by
    cases quotes with
    | map same => exact same

/-- What becomes of a number that is given as a document, and as a string. The document writes the
number `written`, and the double that it becomes has the given magnitude bits. -/
structure Quoted (text : String) (number : Double) (written : NumberText) (bits : Nat) : Prop where
  writes : Writes written text.toList
  datum : number.datum = .finite written.negative (double.magnitude bits)
  stringReads : (scalar (.string text)).ReadsNearest written.negative written.numeral.value
  numberReads : (scalar (.number number)).ReadsNearest written.negative (double.value bits)
  same : (scalar (.string text)).float32? = (scalar (.number number)).float32? ↔
    Unseparated written.numeral.value (double.value bits)
  nearest : written.Short → double.Nearest written.numeral.value bits
  /-- Only a double that is a midpoint is separated from a short number, which is no double. -/
  separated : written.Short → ¬ Unseparated written.numeral.value (double.value bits) →
    (∃ between < single.infinityBits, double.value bits = single.midpoint between) ∧
      ∀ other ≤ double.infinityBits, written.numeral.value ≠ double.value other
  close : written.exponentValue.natAbs ≤ exponentLimit →
    |double.value bits - written.numeral.value| ≤ tolerance written.numeral.value
  /-- A number that no midpoint is so close to is not separated from its double. -/
  apart : written.exponentValue.natAbs ≤ exponentLimit →
    (∀ between < single.infinityBits,
      tolerance written.numeral.value < |single.midpoint between - written.numeral.value|) →
    Unseparated written.numeral.value (double.value bits)
  components : Unseparated written.numeral.value (double.value bits) →
    ∀ data other, Quotes text number data other →
      ∀ standard : Standard, standard.read data = standard.read other

theorem exists_writes_of_ofText {text : String} {number : Double}
    (accepted : ofText text = .ok (.scalar (.number number))) :
    ∃ written rest value, Writes written text.toList ∧
      NumberText.value written rest = .ok value ∧ number = .ofFloat value.toFloat := by
  obtain ⟨json, parsed, made⟩ := map_ok accepted
  cases json with
  | number value =>
    rw [ofJson] at made
    cases made
    obtain ⟨written, rest, writes, valued⟩ := exists_writes parsed
    exact ⟨written, rest, value, writes, valued, rfl⟩
  | null | bool _ | string _ | array _ | object _ =>
    rw [ofJson] at made
    cases made

/-- Only a double that is a midpoint is separated from the number that it is nearest to. -/
theorem exists_midpoint_of_separated {number : ℚ} {bits : Nat}
    (nearest : double.Nearest number bits)
    (separated : ¬ Unseparated number (double.value bits)) :
    ∃ between < single.infinityBits, double.value bits = single.midpoint between := by
  by_contra none
  push Not at none
  exact separated fun between inside => under_double_iff nearest inside (none between inside)

theorem ne_value_of_separated {number : ℚ} {bits other : Nat}
    (nearest : double.Nearest number bits)
    (separated : ¬ Unseparated number (double.value bits)) (inside : other ≤ double.infinityBits) :
    number ≠ double.value other := by
  intro exact
  refine separated fun between _ => ?_
  rw [nearest.eq_of_eq inside exact, exact]

theorem close_of_held {written : NumberText} {value : Float} {bits : Nat}
    (held : written.Held value bits) (fits : written.exponentValue.natAbs ≤ exponentLimit) :
    |double.value bits - written.numeral.value| ≤ tolerance written.numeral.value := by
  have near := held.near fits
  rw [Near, two_mul_underflow, roundoff, mul_one_div] at near
  exact near

/-- A midpoint that is further from a number than another one has both on the same side. -/
theorem unseparated_of_close {number other bound : ℚ} (close : |other - number| ≤ bound)
    (apart : ∀ between < single.infinityBits, bound < |single.midpoint between - number|) :
    Unseparated number other := by
  intro between inside
  have far := close.trans_lt (apart between inside)
  have near := abs_le.mp (le_refl |other - number|)
  rcases lt_or_ge number (single.midpoint between) with below | above
  · rw [abs_of_pos (sub_pos.mpr below)] at far
    exact iff_of_true (.inl below) (.inl (by linarith))
  · rw [abs_of_nonpos (sub_nonpos.mpr above)] at far
    have beyond : single.midpoint between < other := by linarith
    have strict : single.midpoint between < number := by
      refine lt_of_le_of_ne above fun same => ?_
      rw [same, sub_self, neg_zero] at far
      exact absurd far (abs_nonneg _).not_gt
    refine iff_of_false ?_ ?_
    · rintro (less | ⟨equal, _⟩)
      · exact lt_asymm less strict
      · exact strict.ne' equal
    · rintro (less | ⟨equal, _⟩)
      · exact lt_asymm less beyond
      · exact beyond.ne' equal

theorem readsNearest_string {text : String} {written : NumberText}
    (writes : Writes written text.toList) :
    (scalar (.string text)).ReadsNearest written.negative written.numeral.value :=
  float32OfText?_writes writes

theorem readsNearest_number {written : NumberText} {value : Float} {bits : Nat}
    (held : written.Held value bits) :
    (scalar (.number (.ofFloat value))).ReadsNearest written.negative (double.value bits) := by
  obtain ⟨rounded, is, nearest⟩ :=
    exists_isSingle_toFloat32 written.negative (double.magnitude bits)
  refine ⟨_, rounded, ?_, is, nearest⟩
  rw [float32?, held.is.datum held.finite]

theorem quoted_of_held {text : String} {written : NumberText} {value : Float} {bits : Nat}
    (writes : Writes written text.toList) (held : written.Held value bits) :
    Quoted text (.ofFloat value) written bits where
  writes := writes
  datum := held.is.datum held.finite
  stringReads := readsNearest_string writes
  numberReads := readsNearest_number held
  same := (readsNearest_string writes).eq_iff (readsNearest_number held)
  nearest := held.nearest
  separated short apart :=
    ⟨exists_midpoint_of_separated (held.nearest short) apart,
      fun _ inside => ne_value_of_separated (held.nearest short) apart inside⟩
  close := close_of_held held
  apart fits far := unseparated_of_close (close_of_held held fits) far
  components unseparated _ _ quotes standard :=
    (Quotes.readAlike (((readsNearest_string writes).eq_iff (readsNearest_number held)).mpr
      unseparated)).read_eq quotes standard

/-- A number and the string that writes it are read alike just if no midpoint of singles separates
the number from its double. -/
theorem exists_quoted {text : String} {number : Double}
    (accepted : ofText text = .ok (.scalar (.number number))) :
    ∃ written bits, Quoted text number written bits := by
  obtain ⟨written, rest, value, writes, valued, rfl⟩ := exists_writes_of_ofText accepted
  obtain ⟨bits, held⟩ := NumberText.exists_held (isDigit_writes writes) valued
  exact ⟨written, bits, quoted_of_held writes held⟩

theorem scalar?_eq_some {tree : Tree} {value : Scalar} :
    tree.scalar? = some value ↔ tree = .scalar value := by
  cases tree <;> simp [scalar?]

theorem ofText_of_scalar? {text : String} {value : Scalar}
    (found : (ofText text).toOption.bind scalar? = some value) :
    ofText text = .ok (.scalar value) := by
  obtain ⟨tree, read, same⟩ := Option.bind_eq_some_iff.mp found
  cases result : ofText text with
  | error error =>
    rw [result] at read
    cases read
  | ok other =>
    rw [result] at read
    cases read
    rw [scalar?_eq_some.mp same]

theorem exists_quoted_largeInteger :
    ofText "16777217" = .ok (.scalar (.number ⟨0x4170000010000000⟩)) ∧
      ∃ written bits, Quoted "16777217" ⟨0x4170000010000000⟩ written bits :=
  have accepted := ofText_of_scalar? (by decide +kernel)
  ⟨accepted, exists_quoted accepted⟩

/-- A document whose double is a midpoint of singles while its number is not. -/
theorem quoting_changes_number :
    ¬ ∀ (text : String) (number : Double), ofText text = .ok (.scalar (.number number)) →
      (scalar (.string text)).float32? = (scalar (.number number)).float32? := by
  intro same
  have accepted : ofText "18014399583223809" =
      .ok (.scalar (.number ⟨0x4350000010000000⟩)) := ofText_of_scalar? (by decide +kernel)
  exact absurd (same _ _ accepted) (by decide +kernel)

end Tree
end SceneGraph
