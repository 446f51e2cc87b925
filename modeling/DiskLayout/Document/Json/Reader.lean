import DiskLayout.Document.Json.Token

/-!
# Reading JSON

The tokens of a text are taken in one after the other.  The containers that are still open are
kept, the innermost first, with what they hold so far; beside them stands what may come next.

## Main definitions

* `Json.Frame` — a container that is still open
* `Json.Expectation` — what may come next
* `Json.State.step` — the effect of one token
* `Json.read` — the value of a text
-/

namespace DiskLayout.Json

/-- A container that is still open, with what it holds so far, the latest first.  An object knows
the key of the value to come. -/
inductive Frame where
  | array (items : List Value)
  | object (entries : List (String × Value)) (key : String)

/-- What may come next. -/
inductive Expectation where
  | value
  | valueOrEnd
  | key
  | keyOrEnd
  | colon
  | commaOrEnd
  | nothing (value : Value)

/-- A text read in part. -/
structure State where
  frames : List Frame
  expects : Expectation

/-- How deep containers may be nested. -/
def maxDepth : Nat := 127

namespace State

/-- Nothing read so far. -/
def start : State := ⟨[], .value⟩

/-- Takes in a finished value. -/
def finish (value : Value) : List Frame → State
  | [] => ⟨[], .nothing value⟩
  | .array items :: outer => ⟨.array (value :: items) :: outer, .commaOrEnd⟩
  | .object entries key :: outer => ⟨.object ((key, value) :: entries) key :: outer, .commaOrEnd⟩

/-- Opens a container. -/
def enter (frame : Frame) (expects : Expectation) (frames : List Frame) : Option State :=
  if frames.length < maxDepth then some ⟨frame :: frames, expects⟩ else none

/-- Takes in a token where a value is expected. -/
def takeValue (frames : List Frame) : Token → Option State
  | .scalar value => some (finish value frames)
  | .openArray => enter (.array []) .valueOrEnd frames
  | .openObject => enter (.object [] "") .keyOrEnd frames
  | _ => none

/-- Takes in a token where a key is expected, in an object with some entries. -/
def takeKey (entries : List (String × Value)) (outer : List Frame) : Token → Option State
  | .scalar (.text key) => some ⟨.object entries key :: outer, .colon⟩
  | _ => none

/-- The effect of one token. -/
def step (state : State) (token : Token) : Option State :=
  match state.expects, state.frames, token with
  | .value, frames, token => takeValue frames token
  | .valueOrEnd, .array items :: outer, .closeArray =>
    some (finish (.sequence items.reverse) outer)
  | .valueOrEnd, frames, token => takeValue frames token
  | .keyOrEnd, .object entries _ :: outer, .closeObject =>
    some (finish (.mapping entries.reverse) outer)
  | .keyOrEnd, .object entries _ :: outer, token => takeKey entries outer token
  | .key, .object entries _ :: outer, token => takeKey entries outer token
  | .colon, frames, .colon => some ⟨frames, .value⟩
  | .commaOrEnd, .array items :: outer, .comma => some ⟨.array items :: outer, .value⟩
  | .commaOrEnd, .array items :: outer, .closeArray =>
    some (finish (.sequence items.reverse) outer)
  | .commaOrEnd, .object entries key :: outer, .comma =>
    some ⟨.object entries key :: outer, .key⟩
  | .commaOrEnd, .object entries _ :: outer, .closeObject =>
    some (finish (.mapping entries.reverse) outer)
  | _, _, _ => none

end State

/-- The value of a JSON text. -/
def read (text : String) : Option Value := do
  let tokens ← tokens? text.toList
  let state ← tokens.foldlM State.step State.start
  match state.expects with
  | .nothing value => some value
  | _ => none

end DiskLayout.Json
