import ArrayLiteral.Json.Token

/-!
# Json — Reader

Reading JSON.  The tokens drive a machine that keeps the arrays and objects that are still open,
innermost first.  Nothing may follow the value, and arrays and objects nest only so deep.

Of an object with a repeated key, the first place and the last value count.
-/

namespace ArrayLiteral.Json

/-- An array or object that waits for one of its values. -/
inductive Frame where
  /-- A list after these elements, the last one first. -/
  | item (done : List Value)
  /-- A map after these entries, at this key. -/
  | field (done : Entries Value) (key : Text)

/-- What the machine waits for.  The frames are those of the open arrays and objects. -/
inductive State where
  /-- A value. -/
  | value (frames : List Frame)
  /-- The first element of a list, or its end. -/
  | firstItem (frames : List Frame)
  /-- A comma, or the end of a list; its elements stand last one first. -/
  | afterItem (frames : List Frame) (done : List Value)
  /-- The first key of a map, or its end. -/
  | firstKey (frames : List Frame)
  /-- A key. -/
  | key (frames : List Frame) (done : Entries Value)
  /-- The colon after a key. -/
  | colon (frames : List Frame) (done : Entries Value) (key : Text)
  /-- A comma, or the end of a map. -/
  | afterField (frames : List Frame) (done : Entries Value)
  /-- The end of the text. -/
  | finished (value : Value)

namespace State

/-- How many arrays and objects may be open. -/
def maxDepth : Nat := 127

/-- A value is complete. -/
def complete (v : Value) : List Frame → State
  | [] => .finished v
  | .item done :: frames => .afterItem frames (v :: done)
  | .field done k :: frames => .afterField frames (done.insert k v)

/-- A token at the place of a value. -/
def beginValue (frames : List Frame) : Token → Option State
  | .scalar v => some (complete v frames)
  | .string s => some (complete (.string s) frames)
  | .listStart => if frames.length < maxDepth then some (.firstItem frames) else none
  | .mapStart => if frames.length < maxDepth then some (.firstKey frames) else none
  | _ => none

/-- Goes past a token. -/
def step : State → Token → Option State
  | .value frames, t => beginValue frames t
  | .firstItem frames, .listEnd => some (complete (.list []) frames)
  | .firstItem frames, t => beginValue (.item [] :: frames) t
  | .afterItem frames done, .comma => some (.value (.item done :: frames))
  | .afterItem frames done, .listEnd => some (complete (.list done.reverse) frames)
  | .firstKey frames, .mapEnd => some (complete (.map []) frames)
  | .firstKey frames, .string s => some (.colon frames [] s)
  | .key frames done, .string s => some (.colon frames done s)
  | .colon frames done k, .colon => some (.value (.field done k :: frames))
  | .afterField frames done, .comma => some (.key frames done)
  | .afterField frames done, .mapEnd => some (complete (.map done) frames)
  | _, _ => none

/-- Goes past all tokens. -/
def run (s : State) (tokens : List Token) : Option State := tokens.foldlM step s

/-- The value, if the text may end here. -/
def result? : State → Option Value
  | .finished v => some v
  | _ => none

theorem run_append (s : State) (xs ys : List Token) :
    s.run (xs ++ ys) = (s.run xs).bind fun s => s.run ys := by
  simp only [run, List.foldlM_append]
  rfl

end State

end ArrayLiteral.Json

namespace ArrayLiteral.Value

/-- The value of a JSON text. -/
def ofJson? (t : Text) : Option Value := do
  let tokens ← Json.Token.ofText? t
  let s ← (Json.State.value []).run tokens
  s.result?

end ArrayLiteral.Value
