import KubeEntities.Series
import KubeEntities.Text.Blank
import KubeEntities.Text.Integer
import KubeEntities.Text.Quoted

/-! One line of a text exposition. After trimming, a line is blank, a comment, or a sample; a
comment of the form `# TYPE name kind` declares a kind. Histograms use their declared name only with
a suffix, so declaring one leaves that name untyped, as does any unknown kind. -/

namespace KubeEntities.Exposition

inductive LineError
  | noSampleValue
  | noName
  | noValue (name : String)
  | badValue (text : String)
  | badTimestamp (text : String)
  | openLabelSet
  | unquotedLabel (label : String)
  | openLabelValue (label : String)
deriving DecidableEq

def LineError.message : LineError → String
  | .noSampleValue => "missing sample value"
  | .noName => "missing metric name"
  | .noValue name => "missing value for " ++ name
  | .badValue text => "invalid sample value " ++ Text.quoted text
  | .badTimestamp text => "invalid timestamp " ++ Text.quoted text
  | .openLabelSet => "unterminated label set"
  | .unquotedLabel label => "value of label " ++ label ++ " is not quoted"
  | .openLabelValue label => "unterminated value of label " ++ label

structure Sample where
  name : String
  labels : Labels
  number : Number
deriving DecidableEq

inductive Line
  | skipped
  | declaration (name : String) (kind : Kind)
  | sample (s : Sample)
  | malformed (error : LineError)
deriving DecidableEq

/-- Where a label block stands; characters read are latest first. -/
inductive Scan
  | between
  | name (read : List Char)
  | opening (label : String)
  | value (label : String) (read : List Char)
  | escape (label : String) (read : List Char)
deriving DecidableEq

/-- Reads `name="value",…` up to the closing brace and returns what follows it. The first character
of a name is taken as it is, whatever it is; a name ends at `=` and is then trimmed. Within a value
a backslash makes the next character literal, and `n` a line feed. -/
def scanLabels (labels : Labels) : Scan → List Char → Except LineError (Labels × List Char)
  | .between, [] => .error .openLabelSet
  | .between, c :: rest =>
    if Text.isBlank c || c == ',' then scanLabels labels .between rest
    else if c = '\x7d' then .ok (labels, rest)
    else scanLabels labels (.name [c]) rest
  | .name _, [] => .error .openLabelSet
  | .name read, c :: rest =>
    if c = '=' then scanLabels labels (.opening (String.ofList (Text.trim read.reverse))) rest
    else scanLabels labels (.name (c :: read)) rest
  | .opening label, [] => .error (.unquotedLabel label)
  | .opening label, c :: rest =>
    if c = '"' then scanLabels labels (.value label []) rest
    else .error (.unquotedLabel label)
  | .value label _, [] => .error (.openLabelValue label)
  | .value label read, c :: rest =>
    if c = '\\' then scanLabels labels (.escape label read) rest
    else if c = '"' then
      scanLabels (labels.insert label (String.ofList read.reverse)) .between rest
    else scanLabels labels (.value label (c :: read)) rest
  | .escape label _, [] => .error (.openLabelValue label)
  | .escape label read, c :: rest =>
    scanLabels labels (.value label ((if c = 'n' then '\n' else c) :: read)) rest

def labelBlock : List Char → Except LineError (Labels × List Char)
  | '\x7b' :: rest => scanLabels ∅ .between rest
  | rest => .ok (∅, rest)

/-- A value and an optional integer timestamp; what follows them is not read. -/
def sampleNumber (name : String) (fields : List (List Char)) : Except LineError Number :=
  match fields with
  | [] => .error (.noValue name)
  | value :: more =>
    match Number.ofChars? value with
    | none => .error (.badValue (String.ofList value))
    | some x =>
      match more with
      | [] => .ok x
      | timestamp :: _ =>
        match Text.signed64? timestamp with
        | none => .error (.badTimestamp (String.ofList timestamp))
        | some _ => .ok x

def endsName (c : Char) : Bool := c == '\x7b' || Text.isBlank c

/-- A trimmed line that is no comment. -/
def Sample.ofChars (line : List Char) : Except LineError Sample :=
  let name := line.takeWhile fun c => !endsName c
  let rest := line.dropWhile fun c => !endsName c
  if rest.isEmpty then .error .noSampleValue
  else if name.isEmpty then .error .noName
  else do
    let name := String.ofList name
    let (labels, rest) ← labelBlock rest
    let x ← sampleNumber name (Text.fields rest)
    return ⟨name, labels, x⟩

def declaredKind (kind : List Char) : Kind := (Kind.ofName? (String.ofList kind)).getD .untyped

/-- What follows the `#`. -/
def comment (text : List Char) : Line :=
  match Text.fields text with
  | ['T', 'Y', 'P', 'E'] :: name :: kind :: _ => .declaration (String.ofList name) (declaredKind kind)
  | _ => .skipped

def Line.ofChars (raw : List Char) : Line :=
  match Text.trim raw with
  | [] => .skipped
  | '#' :: text => comment text
  | line =>
    match Sample.ofChars line with
    | .ok s => .sample s
    | .error e => .malformed e

end KubeEntities.Exposition
