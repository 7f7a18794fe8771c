import LS8.Json.Token

/-!
# Values of JSON

A sequence of tokens is read as a value by a machine with an explicit stack, one step for each
token, so that the reading ends with the tokens and values may be nested to any depth.  The stack
holds the arrays and objects that are still open; the stage says what may come next.
-/

namespace LS8

/-- A value.  Numbers and strings carry as much as their tokens do, and an object keeps its
members in order, repeated keys included. -/
inductive Json where
  /-- The value `null`. -/
  | null
  /-- A truth value. -/
  | bool (b : Bool)
  /-- A natural number. -/
  | natural (n : Nat)
  /-- A number in any other form. -/
  | otherNumber
  /-- A string, without text if half of a surrogate pair stands alone in it. -/
  | string (text : Option String)
  /-- An array. -/
  | array (items : List Json)
  /-- An object. -/
  | object (members : List (Option String × Json))

namespace Json

/-- An array or an object that is still open, with what it has so far in reverse order. -/
inductive Open where
  /-- An array. -/
  | array (items : List Json)
  /-- An object that waits for the value of a key. -/
  | object (members : List (Option String × Json)) (key : Option String)

/-- What may come next. -/
inductive Stage where
  /-- A value. -/
  | value
  /-- The first item of an array or its end. -/
  | firstItem
  /-- The first key of an object or its end. -/
  | firstKey
  /-- A key of the innermost object, which has these members so far. -/
  | key (members : List (Option String × Json))
  /-- The colon after a key. -/
  | colon (members : List (Option String × Json)) (key : Option String)
  /-- A comma, the end of what is open, or the end of the text; a value is complete. -/
  | afterValue (v : Json)

/-- How far the reading of a value has come. -/
structure Reading where
  /-- What may come next. -/
  stage : Stage
  /-- What is open, the innermost first. -/
  stack : List Open

/-- The value that a token is on its own. -/
def ofToken? : Token → Option Json
  | .null => some .null
  | .bool b => some (.bool b)
  | .natural n => some (.natural n)
  | .otherNumber => some .otherNumber
  | .string text => some (.string text)
  | _ => none

namespace Reading

/-- The reading before the first token. -/
def start : Reading := ⟨.value, []⟩

/-- A token where a value may begin. -/
def beginValue (stack : List Open) : Token → Option Reading
  | .openBracket => some ⟨.firstItem, stack⟩
  | .openBrace => some ⟨.firstKey, stack⟩
  | token => (ofToken? token).map fun v => ⟨.afterValue v, stack⟩

/-- A token after a complete value. -/
def endValue (v : Json) : List Open → Token → Option Reading
  | .array items :: stack, .comma => some ⟨.value, .array (v :: items) :: stack⟩
  | .array items :: stack, .closeBracket => some ⟨.afterValue (.array (v :: items).reverse), stack⟩
  | .object members key :: stack, .comma => some ⟨.key ((key, v) :: members), stack⟩
  | .object members key :: stack, .closeBrace =>
    some ⟨.afterValue (.object ((key, v) :: members).reverse), stack⟩
  | _, _ => none

/-- One token. -/
def step (r : Reading) (token : Token) : Option Reading :=
  match r.stage, token with
  | .value, token => beginValue r.stack token
  | .firstItem, .closeBracket => some ⟨.afterValue (.array []), r.stack⟩
  | .firstItem, token => beginValue (.array [] :: r.stack) token
  | .firstKey, .closeBrace => some ⟨.afterValue (.object []), r.stack⟩
  | .firstKey, .string key => some ⟨.colon [] key, r.stack⟩
  | .firstKey, _ => none
  | .key members, .string key => some ⟨.colon members key, r.stack⟩
  | .key _, _ => none
  | .colon members key, .colon => some ⟨.value, .object members key :: r.stack⟩
  | .colon _ _, _ => none
  | .afterValue v, token => endValue v r.stack token

/-- The value, if it is complete and nothing is open. -/
def finish? (r : Reading) : Option Json :=
  match r.stage, r.stack with
  | .afterValue v, [] => some v
  | _, _ => none

end Reading

/-- The value that a sequence of tokens is. -/
def ofTokens? (tokens : List Token) : Option Json := do
  let r ← tokens.foldlM Reading.step Reading.start
  r.finish?

/-- The value that a text is. -/
def parse? (text : String) : Option Json := do
  ofTokens? (← scan text)

end Json

end LS8
