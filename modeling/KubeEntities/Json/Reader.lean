import KubeEntities.Json.Token

/-! Reading trees from tokens, by a machine with a stack of the containers that are still open. It
takes one token at a time, so any depth of nesting is read in one pass; a limit on the depth is the
caller's, through `Json.depth`. -/

namespace KubeEntities.Json

/-- Members as they are read; a key that spells no text is `none`. -/
abbrev Members := List (Option String × Json)

/-- An open container with what it holds so far, latest first, and the key awaiting its value. -/
inductive Frame
  | array (items : List Json)
  | object (members : Members) (key : Option String)

inductive Stage
  | value
  /-- after `[`: a value or the end -/
  | firstItem
  /-- after an opening brace: a key or the end -/
  | firstKey
  | key (members : Members)
  | colon (members : Members) (key : Option String)
  | afterItem (items : List Json)
  | afterMember (members : Members)
  | done (result : Json)

/-- The object with these members, latest first, if every key spells a text. -/
def objectOf (members : Members) : Json :=
  match members.reverse.mapM fun (key, value) => key.map (·, value) with
  | some members => .obj members
  | none => .noText

def key? : Token → Option (Option String)
  | .scalar (.str key) => some (some key)
  | .scalar .noText => some none
  | _ => none

structure Reader where
  stack : List Frame
  stage : Stage

namespace Reader

def start : Reader := ⟨[], .value⟩

/-- A finished value goes into the innermost open container, or is the result. -/
def deliver (value : Json) : List Frame → Reader
  | [] => ⟨[], .done value⟩
  | .array items :: outer => ⟨outer, .afterItem (value :: items)⟩
  | .object members key :: outer => ⟨outer, .afterMember ((key, value) :: members)⟩

def beginValue (stack : List Frame) : Token → Option Reader
  | .scalar s => some (deliver (.scalar s) stack)
  | .beginArray => some ⟨stack, .firstItem⟩
  | .beginObject => some ⟨stack, .firstKey⟩
  | _ => none

def step (r : Reader) (token : Token) : Option Reader :=
  match r.stage, token with
  | .value, token => beginValue r.stack token
  | .firstItem, .endArray => some (deliver (.arr []) r.stack)
  | .firstItem, token => beginValue (.array [] :: r.stack) token
  | .firstKey, .endObject => some (deliver (.obj []) r.stack)
  | .firstKey, token => (key? token).map fun key => ⟨r.stack, .colon [] key⟩
  | .key members, token => (key? token).map fun key => ⟨r.stack, .colon members key⟩
  | .colon members key, .colon => some ⟨.object members key :: r.stack, .value⟩
  | .afterItem items, .comma => some ⟨.array items :: r.stack, .value⟩
  | .afterItem items, .endArray => some (deliver (.arr items.reverse) r.stack)
  | .afterMember members, .comma => some ⟨r.stack, .key members⟩
  | .afterMember members, .endObject => some (deliver (objectOf members) r.stack)
  | _, _ => none

def result? (r : Reader) : Option Json :=
  match r.stage with
  | .done value => some value
  | _ => none

end Reader

def ofTokens? (tokens : List Token) : Option Json :=
  (tokens.foldlM Reader.step Reader.start).bind Reader.result?

def read? (s : String) : Option Json := (tokens? s.toList).bind ofTokens?

end KubeEntities.Json
