import KubeEntities.Json.Record

/-! Which namespaces are reported: lists of patterns to include and to exclude. A pattern that ends
in `*` matches by prefix. Exclusion wins, and an empty list of inclusions admits whatever is not
excluded. -/

namespace KubeEntities

structure NamespaceFilter where
  included : List String
  excluded : List String
deriving DecidableEq

namespace NamespaceFilter

def none : NamespaceFilter := ⟨[], []⟩

def isEmpty (f : NamespaceFilter) : Bool := f.included.isEmpty && f.excluded.isEmpty

def matchesPattern (pattern ns : String) : Bool :=
  match pattern.toList.getLast? with
  | some '*' => pattern.toList.dropLast.isPrefixOf ns.toList
  | _ => pattern == ns

def allows (f : NamespaceFilter) (ns : String) : Bool :=
  !(f.excluded.any (matchesPattern · ns))
    && (f.included.isEmpty || f.included.any (matchesPattern · ns))

def toJson (f : NamespaceFilter) : Json :=
  .obj [("include", .ofStrings f.included), ("exclude", .ofStrings f.excluded)]

/-- A list that is missing is empty. -/
def ofJson? (j : Json) : Option NamespaceFilter :=
  match j.fields? ["include", "exclude"] with
  | some [included, excluded] =>
    let list? (field : Option Json) : Option (List String) :=
      match field with
      | Option.none => some []
      | some j => j.strings?
    (list? included).bind fun included => (list? excluded).map fun excluded => ⟨included, excluded⟩
  | _ => Option.none

end NamespaceFilter
end KubeEntities
