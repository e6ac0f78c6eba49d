import KubeEntities.Series

/-! Queries over families. A query picks the family of one metric, keeps the series that its
predicates admit, and may give the result a name of its own. Value predicates compare texts, so
numbers of different kinds are equal when they are written alike. -/

namespace KubeEntities

/-- Whether the series that match are kept or left out. -/
inductive Admission
  | and
  | nor
deriving DecidableEq

def Admission.admits : Admission → Bool → Bool
  | .and, matched => matched
  | .nor, matched => !matched

structure LabelPredicate where
  admission : Admission
  labels : Labels
deriving DecidableEq

structure ValuePredicate where
  admission : Admission
  value : Value
deriving DecidableEq

structure Query where
  metric : String
  labels : Option LabelPredicate
  value : Option ValuePredicate
  customName : Option String
deriving DecidableEq

namespace Query

/-- Every series of a metric. -/
def all (metric : String) : Query := ⟨metric, none, none, none⟩

def keepsLabels (p : LabelPredicate) (s : Series) : Bool :=
  p.admission.admits (s.hasLabels p.labels)

def keepsValue (p : ValuePredicate) (s : Series) : Bool :=
  p.admission.admits (s.value.text == p.value.text)

def keeps (q : Query) (s : Series) : Bool :=
  q.labels.all (keepsLabels · s) && q.value.all (keepsValue · s)

/-- Nothing when the family has another name or no series is kept. -/
def run (q : Query) (f : Family) : Option Family :=
  if f.name = q.metric then
    let kept := f.series.filter q.keeps
    if kept.isEmpty then none else some ⟨q.customName.getD f.name, f.kind, kept⟩
  else none

end Query

/-- The usable results of every query on every family, query by query. No queries at all let every
family through. -/
def select (queries : List Query) (families : List Family) : List Family :=
  if queries.isEmpty then families
  else queries.flatMap fun q => (families.filterMap q.run).filter Family.isValid

end KubeEntities
