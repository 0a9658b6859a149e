import SessionSync.Json.Token

/-!
# Parsing JSON

`Json.parse?` reads a text as one document. The parser keeps the arrays and objects that are open on
a stack (`Frame`), so nesting of any depth is read, and takes one token at a time (`Stage.step`).
-/

namespace SessionSync.Json

/-! ## Open arrays and objects -/

/-- An array or object that is open, with what it holds so far, last first. -/
inductive Frame
  /-- An array. -/
  | array (done : List Json)
  /-- An object, reading the value of `key`. -/
  | object (done : List (Option String × Json)) (key : Option String)

/-- What the parser expects next. -/
inductive Stage
  /-- A value. -/
  | value (stack : List Frame)
  /-- After the bracket that opens an array: a value, or its end. -/
  | firstItem (stack : List Frame)
  /-- After the brace that opens an object: a key, or its end. -/
  | firstKey (stack : List Frame)
  /-- After a comma in an object: a key. -/
  | nextKey (done : List (Option String × Json)) (stack : List Frame)
  /-- After a key: the colon. -/
  | colon (done : List (Option String × Json)) (key : Option String) (stack : List Frame)
  /-- After an item of an array: a comma, or the end of the array. -/
  | nextItem (done : List Json) (stack : List Frame)
  /-- After a member of an object: a comma, or the end of the object. -/
  | nextMember (done : List (Option String × Json)) (stack : List Frame)
  /-- After the document: nothing more. -/
  | complete (document : Json)

/-! ## Steps -/

/-- Puts a value that has been read into the innermost open array or object. -/
def Stage.put (v : Json) : List Frame → Stage
  | [] => .complete v
  | .array done :: stack => .nextItem (v :: done) stack
  | .object done key :: stack => .nextMember ((key, v) :: done) stack

/-- Reads a token where a value is due. -/
def Stage.open (stack : List Frame) : Token → Option Stage
  | .openArray => some (.firstItem stack)
  | .openObject => some (.firstKey stack)
  | .null => some (put .null stack)
  | .bool b => some (put (.bool b) stack)
  | .number n => some (put (.number n) stack)
  | .string text? => some (put (.string text?) stack)
  | .closeArray | .closeObject | .comma | .colon => none

/-- Reads one token. -/
def Stage.step : Stage → Token → Option Stage
  | .value stack, t => Stage.open stack t
  | .firstItem stack, .closeArray => some (put (.array []) stack)
  | .firstItem stack, t => Stage.open (.array [] :: stack) t
  | .firstKey stack, .closeObject => some (put (.object []) stack)
  | .firstKey stack, .string key => some (.colon [] key stack)
  | .firstKey _, _ => none
  | .nextKey done stack, .string key => some (.colon done key stack)
  | .nextKey _ _, _ => none
  | .colon done key stack, .colon => some (.value (.object done key :: stack))
  | .colon _ _ _, _ => none
  | .nextItem done stack, .comma => some (.value (.array done :: stack))
  | .nextItem done stack, .closeArray => some (put (.array done.reverse) stack)
  | .nextItem _ _, _ => none
  | .nextMember done stack, .comma => some (.nextKey done stack)
  | .nextMember done stack, .closeObject => some (put (.object done.reverse) stack)
  | .nextMember _ _, _ => none
  | .complete _, _ => none

/-- Reads tokens one after the other. -/
def Stage.run : Stage → List Token → Option Stage
  | stage, [] => some stage
  | stage, t :: rest =>
    match stage.step t with
    | some stage' => run stage' rest
    | none => none

/-! ## Documents -/

/-- The document that tokens spell. -/
def ofTokens? (ts : List Token) : Option Json :=
  match (Stage.value []).run ts with
  | some (.complete document) => some document
  | _ => none

/-- The document that a text spells. -/
def parse? (s : List Char) : Option Json :=
  (tokens? s).bind ofTokens?

end SessionSync.Json
