import Mathlib.Data.List.TakeWhile
import SceneGraph.Json.Parse
import SceneGraph.Proofs.Decimal.Numeral

/-!
The spelling of JSON numbers. What the scanner accepts as a number is spelled by the grammar: a
sign, whole digits, a fraction and an exponent. The same characters without a sign are a numeral for
the other reader of numbers, with the same parts.
-/
namespace SceneGraph.Json
open SceneGraph.Decimal

namespace NumberText

/-- The power of ten that the exponent of a number writes. -/
def exponentValue (written : NumberText) : Int :=
  match written.exponent with
  | none => 0
  | some (negative, digits) =>
      if negative then -(numeralValue digits : Int) else numeralValue digits

/-- A number without its sign. -/
def numeral (written : NumberText) : Numeral :=
  ⟨written.whole, written.fraction, written.exponentValue⟩

end NumberText

/-- The sign of an exponent. -/
inductive SpellsSign : Bool → List Char → Prop
  | minus : SpellsSign true ['-']
  | plus : SpellsSign false ['+']
  | absent : SpellsSign false []

inductive SpellsFraction : List Char → List Char → Prop
  | absent : SpellsFraction [] []
  | present {digits : List Char} (nonempty : digits ≠ [])
      (allDigits : ∀ digit ∈ digits, digit.isDigit) : SpellsFraction digits ('.' :: digits)

inductive SpellsExponent : Option (Bool × List Char) → List Char → Prop
  | absent : SpellsExponent none []
  | present {mark : Char} {negative : Bool} {sign digits : List Char}
      (marked : mark = 'e' ∨ mark = 'E') (signed : SpellsSign negative sign)
      (nonempty : digits ≠ []) (allDigits : ∀ digit ∈ digits, digit.isDigit) :
      SpellsExponent (some (negative, digits)) (mark :: (sign ++ digits))

/-- The characters after the sign of a number. -/
inductive SpellsUnsigned (number : NumberText) : List Char → Prop
  | intro {fraction exponent : List Char} (nonempty : number.whole ≠ [])
      (allDigits : ∀ digit ∈ number.whole, digit.isDigit)
      (leading : number.whole.head? = some '0' → number.whole = ['0'])
      (spellsFraction : SpellsFraction number.fraction fraction)
      (spellsExponent : SpellsExponent number.exponent exponent) :
      SpellsUnsigned number (number.whole ++ (fraction ++ exponent))

/-- The characters of a number. -/
inductive Spells (number : NumberText) : List Char → Prop
  | positive {characters : List Char} (sign : number.negative = false)
      (unsigned : SpellsUnsigned number characters) : Spells number characters
  | negative {characters : List Char} (sign : number.negative = true)
      (unsigned : SpellsUnsigned number characters) : Spells number ('-' :: characters)

/-- A number with blank space around it. -/
inductive Writes (number : NumberText) : List Char → Prop
  | intro {before characters after : List Char} (spaceBefore : ∀ space ∈ before, isSpace space)
      (spells : Spells number characters) (spaceAfter : ∀ space ∈ after, isSpace space) :
      Writes number (before ++ (characters ++ after))

section Scanning
variable {input : List Char}

theorem forall_isDigit_takeWhile (input : List Char) :
    ∀ digit ∈ input.takeWhile Char.isDigit, digit.isDigit :=
  fun _ member => List.mem_takeWhile_imp member

theorem wholePart_spells {whole : List Char} {rest : Rest input}
    (scanned : wholePart input = .ok (whole, rest)) :
    whole ≠ [] ∧ (∀ digit ∈ whole, digit.isDigit) ∧ (whole.head? = some '0' → whole = ['0']) ∧
      input = whole ++ rest.val := by
  cases input with
  | nil => cases scanned
  | cons first after =>
    simp only [wholePart] at scanned
    split at scanned
    · rename_i zero
      subst zero
      split at scanned
      · cases scanned
      · cases scanned
        exact ⟨List.cons_ne_nil _ _, List.forall_mem_singleton.mpr rfl, fun _ => rfl, rfl⟩
    · rename_i nonzero
      split at scanned
      · rename_i digit
        cases scanned
        refine ⟨List.cons_ne_nil _ _,
          List.forall_mem_cons.mpr ⟨digit, forall_isDigit_takeWhile after⟩,
          fun zero => absurd (Option.some.inj zero) nonzero, ?_⟩
        rw [List.cons_append, List.takeWhile_append_dropWhile]
      · cases scanned

theorem fractionPart_spells {fraction : List Char}
    {rest : { rest : List Char // rest.length ≤ input.length }}
    (scanned : fractionPart input = .ok (fraction, rest)) :
    ∃ characters, SpellsFraction fraction characters ∧ input = characters ++ rest.val := by
  cases input with
  | nil =>
    cases scanned
    exact ⟨[], .absent, rfl⟩
  | cons mark after =>
    simp only [fractionPart] at scanned
    split at scanned
    · cases scanned
      exact ⟨[], .absent, rfl⟩
    · rename_i point
      split at scanned
      · split at scanned <;> cases scanned
      · rename_i nonempty
        cases scanned
        refine ⟨_, .present (by simpa using nonempty) (forall_isDigit_takeWhile after), ?_⟩
        rw [List.cons_append, List.takeWhile_append_dropWhile, not_not.mp point]

theorem splitSign_spells (input : List Char) :
    ∃ sign, SpellsSign (splitSign input).1 sign ∧ input = sign ++ (splitSign input).2 := by
  unfold splitSign
  split
  · exact ⟨_, .minus, rfl⟩
  · exact ⟨_, .plus, rfl⟩
  · exact ⟨_, .absent, rfl⟩

theorem exponentPart_spells {exponent : Option (Bool × List Char)}
    {rest : { rest : List Char // rest.length ≤ input.length }}
    (scanned : exponentPart input = .ok (exponent, rest)) :
    ∃ characters, SpellsExponent exponent characters ∧ input = characters ++ rest.val := by
  cases input with
  | nil =>
    cases scanned
    exact ⟨[], .absent, rfl⟩
  | cons mark after =>
    simp only [exponentPart] at scanned
    split at scanned
    · rename_i marked
      split at scanned
      · cases scanned
      · split at scanned
        · cases scanned
        · rename_i nonempty
          cases scanned
          obtain ⟨sign, signed, split⟩ := splitSign_spells after
          refine ⟨_, .present (by simpa using marked) signed (by simpa using nonempty)
            (forall_isDigit_takeWhile _), ?_⟩
          rw [List.cons_append, List.append_assoc, List.takeWhile_append_dropWhile, ← split]
    · cases scanned
      exact ⟨[], .absent, rfl⟩

/-- What is scanned as a number is spelled like one. -/
theorem numberText_spells {number : NumberText} {rest : Rest input}
    (scanned : numberText input = .ok (number, rest)) :
    ∃ characters, Spells number characters ∧ input = characters ++ rest.val := by
  simp only [numberText] at scanned
  split at scanned
  · cases scanned
  · rename_i whole afterWhole readWhole
    split at scanned
    · cases scanned
    · rename_i fraction afterFraction readFraction
      split at scanned
      · cases scanned
      · rename_i exponent final readExponent
        cases scanned
        obtain ⟨nonempty, allDigits, leading, wholeSplit⟩ := wholePart_spells readWhole
        obtain ⟨fractionText, spellsFraction, fractionSplit⟩ := fractionPart_spells readFraction
        obtain ⟨exponentText, spellsExponent, exponentSplit⟩ := exponentPart_spells readExponent
        rw [fractionSplit, exponentSplit] at wholeSplit
        by_cases minus : input.head? = some '-'
        · have unsigned := (if_pos minus).symm.trans wholeSplit
          refine ⟨_, .negative (decide_eq_true minus)
            (.intro nonempty allDigits leading spellsFraction spellsExponent), ?_⟩
          refine (List.eq_cons_of_mem_head? minus).trans ((congrArg _ unsigned).trans ?_)
          rw [List.cons_append, List.append_assoc, List.append_assoc]
        · have unsigned := (if_neg minus).symm.trans wholeSplit
          refine ⟨_, .positive (decide_eq_false minus)
            (.intro nonempty allDigits leading spellsFraction spellsExponent), ?_⟩
          refine unsigned.trans ?_
          rw [List.append_assoc, List.append_assoc]

end Scanning

/-! The same characters as a numeral -/

section Numerals
variable {written : NumberText} {characters tail : List Char}

/-- Digits end where something else begins. -/
theorem span_digits {digits : List Char} (allDigits : ∀ digit ∈ digits, digit.isDigit)
    (ends : ∀ next ∈ tail.head?, ¬ next.isDigit) :
    (digits ++ tail).takeWhile Char.isDigit = digits ∧
      (digits ++ tail).dropWhile Char.isDigit = tail := by
  rw [List.takeWhile_append_of_pos allDigits, List.dropWhile_append_of_pos allDigits]
  cases tail with
  | nil => simp
  | cons next after =>
    have notDigit : ¬ next.isDigit := ends next rfl
    simp [notDigit]

theorem splitSign_digits {digits : List Char} (nonempty : digits ≠ [])
    (allDigits : ∀ digit ∈ digits, digit.isDigit) (tail : List Char) :
    splitSign (digits ++ tail) = (false, digits ++ tail) := by
  obtain ⟨first, rest, rfl⟩ := List.exists_cons_of_ne_nil nonempty
  have isDigit := allDigits first (.head _)
  unfold splitSign
  split
  · rename_i minus
    cases minus
    exact absurd isDigit (by decide)
  · rename_i plus
    cases plus
    exact absurd isDigit (by decide)
  · rfl

theorem exponentPart?_spelled (spells : SpellsExponent written.exponent characters) :
    exponentPart? characters = some written.exponentValue := by
  unfold NumberText.exponentValue
  generalize written.exponent = exponent at spells
  cases spells with
  | absent => rfl
  | @present mark negative sign digits marked signed nonempty allDigits =>
    have letter : mark.toLower = 'e' := by rcases marked with rfl | rfl <;> rfl
    have split : splitSign (sign ++ digits) = (negative, digits) := by
      cases signed with
      | minus => rfl
      | plus => rfl
      | absent => simpa using splitSign_digits nonempty allDigits []
    have some : digits.isEmpty = false := by simpa using nonempty
    have all : digits.all Char.isDigit = true := List.all_eq_true.mpr allDigits
    simp only [exponentPart?, split, letter, some, all]
    rfl

theorem exponent_ends (spells : SpellsExponent written.exponent characters) :
    ∀ next ∈ characters.head?, ¬ next.isDigit ∧ next ≠ '.' := by
  intro next member
  generalize written.exponent = exponent at spells
  cases spells with
  | absent => cases member
  | present marked signed nonempty allDigits =>
    cases member
    rcases marked with rfl | rfl <;> decide

/-- The characters after the sign are a numeral with the same parts. -/
theorem ofChars?_spelled (spells : SpellsUnsigned written characters) :
    Numeral.ofChars? characters = some written.numeral := by
  obtain @⟨fraction, exponent, nonempty, allDigits, _, spellsFraction, spellsExponent⟩ := spells
  have ends := exponent_ends spellsExponent
  have power := exponentPart?_spelled spellsExponent
  have someDigits : written.whole.isEmpty = false := by simpa using nonempty
  unfold NumberText.numeral Numeral.ofChars?
  generalize written.fraction = fractionDigits at spellsFraction
  cases spellsFraction with
  | absent =>
    obtain ⟨taken, left⟩ := span_digits allDigits fun next member => (ends next member).1
    rw [List.nil_append]
    simp only [taken, left]
    split
    · exact absurd rfl (ends '.' rfl).2
    · simp [someDigits, power]
  | present _ fractionAll =>
    have point : ∀ next ∈ ('.' :: (fractionDigits ++ exponent)).head?, ¬ next.isDigit := by
      rintro _ ⟨⟩
      decide
    obtain ⟨taken, left⟩ := span_digits allDigits point
    obtain ⟨fractionTaken, fractionLeft⟩ :=
      span_digits fractionAll fun next member => (ends next member).1
    rw [List.cons_append]
    simp only [taken, left, fractionTaken, fractionLeft, someDigits, power]
    rfl

end Numerals

/-! Blank space around a number -/

section Trimming
variable {written : NumberText} {characters text : List Char}

theorem isBlank_of_isSpace {space : Char} (isSpace : isSpace space) : Text.isBlank space := by
  simp only [Json.isSpace, Bool.or_eq_true, beq_iff_eq] at isSpace
  rcases isSpace with ((rfl | rfl) | rfl) | rfl <;> decide

theorem not_isBlank_of_isDigit {digit : Char} (isDigit : digit.isDigit) :
    ¬ Text.isBlank digit := by
  have bounds := isDigit_iff.mp isDigit
  simp only [Text.isBlank, Text.inRanges, Text.blankRanges, List.any_cons, List.any_nil,
    Bool.or_false, Bool.or_eq_true, Bool.and_eq_true, decide_eq_true_iff]
  omega

theorem dropWhile_of_head? {test : Char → Bool} (ends : ∀ first ∈ characters.head?, ¬ test first) :
    characters.dropWhile test = characters := by
  cases characters with
  | nil => rfl
  | cons first rest => exact List.dropWhile_cons_of_neg (ends first rfl)

/-- Blank characters around text that has none at its ends are trimmed. -/
theorem trimBlank_eq {before after : List Char} (blankBefore : ∀ blank ∈ before, Text.isBlank blank)
    (blankAfter : ∀ blank ∈ after, Text.isBlank blank) (nonempty : characters ≠ [])
    (head : ∀ first ∈ characters.head?, ¬ Text.isBlank first)
    (last : ∀ last ∈ characters.getLast?, ¬ Text.isBlank last) :
    Text.trimBlank (before ++ (characters ++ after)) = characters := by
  have front : ∀ first ∈ (characters ++ after).head?, ¬ Text.isBlank first := by
    rwa [List.head?_append_of_ne_nil _ nonempty]
  have back : ∀ first ∈ characters.reverse.head?, ¬ Text.isBlank first := by
    rwa [List.head?_reverse]
  have blankBack : ∀ blank ∈ after.reverse, Text.isBlank blank :=
    fun blank member => blankAfter blank (List.mem_reverse.mp member)
  rw [Text.trimBlank, List.dropWhile_append_of_pos blankBefore, dropWhile_of_head? front,
    List.reverse_append, List.dropWhile_append_of_pos blankBack, dropWhile_of_head? back,
    List.reverse_reverse]

theorem getLast?_digits {digits : List Char} (nonempty : digits ≠ [])
    (allDigits : ∀ digit ∈ digits, digit.isDigit) (front : List Char) :
    ∀ last ∈ (front ++ digits).getLast?, last.isDigit := by
  intro last member
  rw [List.getLast?_append_of_ne_nil _ nonempty] at member
  exact allDigits last (List.mem_of_getLast? member)

theorem getLast?_unsigned (spells : SpellsUnsigned written characters) (front : List Char) :
    ∀ last ∈ (front ++ characters).getLast?, last.isDigit := by
  obtain @⟨fraction, exponent, nonempty, allDigits, _, spellsFraction, spellsExponent⟩ := spells
  generalize written.fraction = fractionDigits at spellsFraction
  generalize written.exponent = exponentPart at spellsExponent
  cases spellsExponent with
  | absent =>
    cases spellsFraction with
    | absent => simpa using getLast?_digits nonempty allDigits front
    | present fractionNonempty fractionAll =>
      simpa using getLast?_digits fractionNonempty fractionAll (front ++ written.whole ++ ['.'])
  | @present mark negative sign digits marked signed exponentNonempty exponentAll =>
    simpa using getLast?_digits exponentNonempty exponentAll
      (front ++ written.whole ++ fraction ++ mark :: sign)

theorem Spells.ends (spells : Spells written characters) :
    characters ≠ [] ∧ (∀ first ∈ characters.head?, ¬ Text.isBlank first) ∧
      ∀ last ∈ characters.getLast?, ¬ Text.isBlank last := by
  cases spells with
  | positive sign unsigned =>
    have last := getLast?_unsigned unsigned []
    obtain ⟨nonempty, allDigits⟩ := unsigned
    refine ⟨by simp [nonempty], fun first member => ?_, fun final member => ?_⟩
    · rw [List.head?_append_of_ne_nil _ nonempty] at member
      exact not_isBlank_of_isDigit (allDigits first (List.mem_of_mem_head? member))
    · exact not_isBlank_of_isDigit (last final member)
  | negative sign unsigned =>
    refine ⟨List.cons_ne_nil _ _, ?_, fun final member => ?_⟩
    · rintro _ ⟨⟩
      decide
    · exact not_isBlank_of_isDigit (getLast?_unsigned unsigned ['-'] final member)

theorem trimBlank_writes (writes : Writes written text) :
    Spells written (Text.trimBlank text) := by
  obtain ⟨spaceBefore, spells, spaceAfter⟩ := writes
  obtain ⟨nonempty, head, last⟩ := spells.ends
  rwa [trimBlank_eq (fun space member => isBlank_of_isSpace (spaceBefore space member))
    (fun space member => isBlank_of_isSpace (spaceAfter space member)) nonempty head last]

theorem splitSign_spelled (spells : Spells written characters) :
    ∃ unsigned, splitSign characters = (written.negative, unsigned) ∧
      SpellsUnsigned written unsigned := by
  cases spells with
  | positive sign unsigned =>
    refine ⟨characters, ?_, unsigned⟩
    obtain ⟨nonempty, allDigits⟩ := unsigned
    rw [splitSign_digits nonempty allDigits, sign]
  | negative sign unsigned =>
    refine ⟨_, ?_, unsigned⟩
    rw [splitSign, sign]

end Trimming

theorem isDigit_numeral {written : NumberText} {characters : List Char}
    (spells : SpellsUnsigned written characters) :
    ∀ digit ∈ written.numeral.whole ++ written.numeral.fraction, digit.isDigit := by
  obtain @⟨_, _, _, allDigits, _, spellsFraction, _⟩ := spells
  intro digit member
  rcases List.mem_append.mp member with whole | fraction
  · exact allDigits digit whole
  · change digit ∈ written.fraction at fraction
    generalize written.fraction = digits at spellsFraction fraction
    cases spellsFraction with
    | absent => cases fraction
    | present _ fractionAll => exact fractionAll digit fraction

theorem isDigit_writes {written : NumberText} {text : List Char} (writes : Writes written text) :
    ∀ digit ∈ written.whole ++ written.fraction, digit.isDigit := by
  obtain ⟨_, _, spells⟩ := splitSign_spelled (trimBlank_writes writes)
  exact isDigit_numeral spells

/-- A text that writes a number is read as the nearest single. -/
theorem float32OfText?_writes {written : NumberText} {text : String}
    (writes : Writes written text.toList) :
    ∃ value bits, float32OfText? text = some value ∧
      Binary.IsSingle value written.negative bits ∧
        Binary.single.Nearest written.numeral.value bits := by
  obtain ⟨unsigned, split, spells⟩ := splitSign_spelled (trimBlank_writes writes)
  obtain ⟨bits, is, nearest⟩ :=
    Numeral.exists_isSingle written.negative (isDigit_numeral spells)
  refine ⟨_, bits, ?_, is, nearest⟩
  simp only [float32OfText?, split, ofChars?_spelled spells]

end SceneGraph.Json
