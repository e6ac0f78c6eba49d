import KubeEntities.Json.Token

/-! The two written forms of a tree: compact, without any space, and indented by two spaces a level,
where empty arrays and objects stay on one line. -/

namespace KubeEntities.Json

mutual

def compact : Json → List Char
  | .scalar s => spellScalar s
  | .arr [] => ['[', ']']
  | .arr (item :: rest) => '[' :: item.compact ++ compactItems rest
  | .obj [] => ['\x7b', '\x7d']
  | .obj ((key, value) :: rest) =>
    '\x7b' :: spellString key ++ ':' :: value.compact ++ compactMembers rest

def compactItems : List Json → List Char
  | [] => [']']
  | item :: rest => ',' :: item.compact ++ compactItems rest

def compactMembers : List (String × Json) → List Char
  | [] => ['\x7d']
  | (key, value) :: rest =>
    ',' :: spellString key ++ ':' :: value.compact ++ compactMembers rest

end

def newLine (level : Nat) : List Char := '\n' :: List.replicate (2 * level) ' '

mutual

def pretty (level : Nat) : Json → List Char
  | .scalar s => spellScalar s
  | .arr [] => ['[', ']']
  | .arr (item :: rest) =>
    '[' :: newLine (level + 1) ++ item.pretty (level + 1) ++ prettyItems level rest
  | .obj [] => ['\x7b', '\x7d']
  | .obj ((key, value) :: rest) =>
    '\x7b' :: newLine (level + 1) ++ spellString key ++ ':' :: ' ' :: value.pretty (level + 1)
      ++ prettyMembers level rest

def prettyItems (level : Nat) : List Json → List Char
  | [] => newLine level ++ [']']
  | item :: rest => ',' :: newLine (level + 1) ++ item.pretty (level + 1) ++ prettyItems level rest

def prettyMembers (level : Nat) : List (String × Json) → List Char
  | [] => newLine level ++ ['\x7d']
  | (key, value) :: rest =>
    ',' :: newLine (level + 1) ++ spellString key ++ ':' :: ' ' :: value.pretty (level + 1)
      ++ prettyMembers level rest

end

def render (indented : Bool) (j : Json) : String :=
  String.ofList (if indented then j.pretty 0 else j.compact)

end KubeEntities.Json
