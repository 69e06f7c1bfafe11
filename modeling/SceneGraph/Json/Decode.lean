import SceneGraph.Json.Parse

/-!
Readers of values of an expected shape. They work on the text itself, so of several faults the
first one in the text counts: a value of another shape is refused where it stands, whatever follows
it. Objects and lists of field values are two forms of a record; unknown members of the object form
are skipped.
-/
namespace SceneGraph.Json

/-- The refusal of a value of another shape. A scalar is read first, and its own faults count. -/
def mismatch (input : List Char) : Failure :=
  let start := skipSpace input
  match start.head? with
  | some '[' | some '{' => .before .mismatched start
  | _ =>
    match valueFrom strict none start with
    | .error failure => failure
    | .ok (_, rest) => .before .mismatched rest.val

/-- What a reader read, if a further condition makes something of it. -/
def Reader.filterMap {α β : Type} (reader : Reader α) (convert : α → Option β) : Reader β :=
  fun input =>
    match reader input with
    | .error failure => .error failure
    | .ok (value, rest) =>
      match convert value with
      | some converted => .ok (converted, rest)
      | none => .error (.before .mismatched rest.val)

def Reader.map {α β : Type} (reader : Reader α) (convert : α → β) : Reader β := fun input =>
  Except.map (fun (value, rest) => (convert value, rest)) (reader input)

/-- A value that begins with a character that the test accepts; `tail` reads it from there. -/
def beginning {α : Type} (test : Char → Bool) (tail : Reader α) : Reader α := fun input =>
  if (skipSpace input).head?.any test then
    (tail (skipSpace input)).map fun (value, rest) =>
      (value, rest.widen (length_skipSpace_le input))
  else .error (mismatch input)

def behindFirst {α : Type} (reader : Reader α) : Reader α
  | [] => .error (.before .endInValue [])
  | _ :: rest => (reader rest).map fun (value, final) => (value, final.behind _)

def numberReader : Reader Number :=
  beginning (fun first => first == '-' || first.isDigit) readNumber

def stringReader : Reader String := beginning (· == '"') (behindFirst readString)

/-- A natural number of at most 64 bits, written without point and exponent. -/
def naturalReader : Reader Nat :=
  numberReader.filterMap fun
    | .integer value => if 0 ≤ value then some value.toNat else none
    | _ => none

def Number.toFloat32 : Number → Float32
  | .integer value => Binary.float32OfInt value
  | .double value => Binary.narrow value
  | .single value => value

def singleReader : Reader Float32 := numberReader.map Number.toFloat32

def listReader {α : Type} (item : Reader α) : Reader (List α) :=
  beginning (· == '[') (behindFirst (listTail item true))

/-- The closing bracket of a list all of whose items were read. -/
def listEnd : Reader Unit := fun input =>
  match found : skipSpace input with
  | [] => .error (.before .endInList [])
  | first :: rest =>
      if first = ']' then .ok ((), ⟨rest, length_lt_of_skipSpace found⟩)
      else .error (.within .trailingCharacters (first :: rest))

/-- The given number of items from a point inside a list, and its closing bracket. -/
def tupleTail {α : Type} (item : Reader α) :
    (count : Nat) → (first : Bool) → Reader (Vector α count)
  | 0, _ => listEnd.map fun _ => #v[]
  | count + 1, first => fun input =>
    match upcoming listBracket first input with
    | .error failure => .error failure
    | .ok (.closed _) => .error (.before .mismatched input)
    | .ok (.item start bound) =>
      match item start with
      | .error failure => .error failure
      | .ok (value, ⟨after, shorter⟩) =>
        match tupleTail item count false after with
        | .error failure => .error failure
        | .ok (values, final) =>
          .ok (values.insertIdx 0 value,
            final.widen (Nat.le_of_lt (Nat.lt_of_lt_of_le shorter bound)))

def tupleReader {α : Type} (item : Reader α) (count : Nat) : Reader (Vector α count) :=
  beginning (· == '[') (behindFirst (tupleTail item count true))

/-- Any value, of which only the form is looked at. -/
def skippedValue : Reader Unit := fun input =>
  (value skimming input.length input).map fun (_, rest) => ((), rest)

/-- The value of a member of a record, put where it belongs; an unknown member changes nothing. -/
def memberValue {α : Type} {count : Nat} (item : Reader α) (found : Vector (Option α) count) :
    Option (Fin count) → Reader (Vector (Option α) count)
  | some field => item.map fun value => found.set field (some value)
  | none => skippedValue.map fun _ => found

/-- The fields of a record from a point inside its object form. A repeated field is refused at its
key, a missing one at the closing brace. -/
def fieldsTail {α : Type} {count : Nat} (names : Vector String count) (item : Reader α)
    (first : Bool) (found : Vector (Option α) count) (input : List Char) :
    Scanned (Vector α count) input :=
  match upcoming objectBracket first input with
  | .error failure => .error failure
  | .ok (.closed rest) =>
    match found.mapM id with
    | some values => .ok (values, rest)
    | none => .error (.before .mismatched rest.val)
  | .ok (.item start bound) =>
    match memberKey readString start with
    | .error failure => .error failure
    | .ok (name, ⟨afterKey, keyShorter⟩) =>
      let field := names.finIdxOf? name
      if field.any fun field => found[field].isSome then .error (.before .mismatched afterKey)
      else
        match colon afterKey with
        | .error failure => .error failure
        | .ok (_, ⟨afterColon, colonShorter⟩) =>
          match memberValue item found field afterColon with
          | .error failure => .error failure
          | .ok (found, ⟨after, shorter⟩) =>
            match fieldsTail names item false found after with
            | .error failure => .error failure
            | .ok (values, final) => .ok (values, final.widen (by omega))
termination_by input.length
decreasing_by all_goals omega

/-- A record with the given fields, as an object or as the list of the fields in order. -/
def recordReader {α : Type} {count : Nat} (names : Vector String count) (item : Reader α) :
    Reader (Vector α count) := fun input =>
  if (skipSpace input).head? = some '[' then tupleReader item count input
  else
    beginning (· == '{')
      (behindFirst (fieldsTail names item true (Vector.replicate count none))) input

end SceneGraph.Json
