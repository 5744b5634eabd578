import StubCompiler.Json.Token

/-!
# Reading JSON

Tokens are read one by one; what stands open is kept on a stack, each container with what it holds so
far.  Nothing is repaired: a comma must be followed by an item or a member, and nothing follows the
value but white space.
-/

namespace StubCompiler

/-- A container that is still open. -/
inductive JsonFrame where
  | array (items : List Json)
  /-- An object whose next value belongs to `key`. -/
  | object (members : List (JsonString × Json)) (key : JsonString)

inductive JsonState where
  /-- A value. -/
  | value (frames : List JsonFrame)
  /-- The first item of an array, or its end. -/
  | firstItem (frames : List JsonFrame)
  /-- The first member of an object, or its end. -/
  | firstMember (frames : List JsonFrame)
  /-- A member of an object. -/
  | member (members : List (JsonString × Json)) (frames : List JsonFrame)
  /-- The colon after a key. -/
  | colon (members : List (JsonString × Json)) (key : JsonString) (frames : List JsonFrame)
  /-- What comes after a value that is complete. -/
  | after (value : Json) (frames : List JsonFrame)

namespace JsonState

def startValue? (frames : List JsonFrame) : JsonToken → Option JsonState
  | .openArray => some (.firstItem frames)
  | .openObject => some (.firstMember frames)
  | .string v => some (.after (.string v) frames)
  | .literal v => some (.after v frames)
  | _ => none

def next? : JsonState → JsonToken → Option JsonState
  | .value frames, token => startValue? frames token
  | .firstItem frames, .closeArray => some (.after (.array []) frames)
  | .firstItem frames, token => startValue? (.array [] :: frames) token
  | .firstMember frames, .closeObject => some (.after (.object []) frames)
  | .firstMember frames, .string key => some (.colon [] key frames)
  | .member members frames, .string key => some (.colon members key frames)
  | .colon members key frames, .colon => some (.value (.object members key :: frames))
  | .after v (.array items :: frames), .comma => some (.value (.array (items ++ [v]) :: frames))
  | .after v (.array items :: frames), .closeArray =>
    some (.after (.array (items ++ [v])) frames)
  | .after v (.object members key :: frames), .comma =>
    some (.member (members ++ [(key, v)]) frames)
  | .after v (.object members key :: frames), .closeObject =>
    some (.after (.object (members ++ [(key, v)])) frames)
  | _, _ => none

def result? : JsonState → Option Json
  | .after v [] => some v
  | _ => none

end JsonState

def Json.read? (t : Text) : Option Json := do
  let tokens ← JsonToken.ofText? t
  let state ← tokens.foldlM JsonState.next? (.value [])
  state.result?

end StubCompiler
