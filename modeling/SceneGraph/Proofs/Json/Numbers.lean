import SceneGraph.Proofs.Execution
import SceneGraph.Proofs.Json.Spelling

/-!
Documents that are numbers. What a document is read as decides how it begins, so one that is read as
a number is the spelling of that number, with blank space around it and nothing else.
-/
namespace SceneGraph.Json
open SceneGraph.Decimal

section Reading
variable {input : List Char}

/-- A value that is read as a number begins like one. -/
theorem readNumber_of_valueFrom {nested : Option (Reader Json)} {number : Number}
    {rest : Rest input} (read : valueFrom strict nested input = .ok (.number number, rest)) :
    readNumber input = .ok (number, rest) := by
  cases input with
  | nil => cases read
  | cons first after =>
    simp only [valueFrom] at read
    split at read
    · obtain ⟨_, _, other⟩ := map_ok read
      cases other
    · obtain ⟨_, _, other⟩ := map_ok read
      cases other
    · obtain ⟨_, _, other⟩ := map_ok read
      cases other
    · obtain ⟨_, _, other⟩ := map_ok read
      cases other
    · split at read
      · cases read
      · obtain ⟨_, _, other⟩ := map_ok read
        cases other
    · split at read
      · cases read
      · obtain ⟨_, _, other⟩ := map_ok read
        cases other
    · split at read
      · obtain ⟨_, scanned, same⟩ := map_ok read
        cases same
        exact scanned
      · cases read

theorem exists_valueFrom {levels : Nat} {read : Json} {rest : Rest input}
    (reads : value strict levels input = .ok (read, rest)) :
    ∃ nested rest', valueFrom strict nested (skipSpace input) = .ok (read, rest') ∧
      rest'.val = rest.val := by
  cases levels with
  | zero | succ levels =>
    obtain ⟨_, found, same⟩ := map_ok reads
    cases same
    exact ⟨_, _, found, rfl⟩

end Reading

theorem forall_isSpace_of_finish {rest : List Char} (finished : finish rest = .ok ()) :
    ∀ space ∈ rest, isSpace space := by
  unfold finish at finished
  split at finished
  · rename_i empty
    exact List.dropWhile_eq_nil_iff.mp empty
  · cases finished

/-- A document that is read as a number writes it, and nothing else. -/
theorem exists_writes {text : String} {number : Number}
    (parsed : parse text = .ok (.number number)) :
    ∃ written rest, Writes written text.toList ∧ written.value rest = .ok number := by
  simp only [parse, readAll] at parsed
  split at parsed
  · cases parsed
  · rename_i read rest reads
    split at parsed
    · cases parsed
    · rename_i finished
      cases parsed
      obtain ⟨nested, final, found, same⟩ := exists_valueFrom reads
      have scanned := readNumber_of_valueFrom found
      unfold readNumber at scanned
      split at scanned
      · cases scanned
      · rename_i written after spelled
        obtain ⟨characters, spells, whole⟩ := numberText_spells spelled
        obtain ⟨_, valued, held⟩ := map_ok scanned
        cases held
        have document := List.takeWhile_append_dropWhile (p := isSpace) (l := text.toList)
        rw [← skipSpace, whole, same] at document
        refine ⟨written, _, ?_, valued⟩
        rw [← document]
        exact .intro (fun _ member => List.mem_takeWhile_imp member) spells
          (forall_isSpace_of_finish finished)

end SceneGraph.Json
