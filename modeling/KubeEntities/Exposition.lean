import KubeEntities.Exposition.Line

/-! Text expositions, read line by line. A malformed line is reported and left out; every other
sample joins the family of its name. Families come in the order of their first samples and have the
kind declared by then, while each value takes the kind declared by its own line. -/

namespace KubeEntities

namespace Exposition

structure ParseError where
  line : Nat
  cause : LineError
deriving DecidableEq

def ParseError.message (e : ParseError) : String :=
  "line " ++ toString e.line ++ ": " ++ e.cause.message

end Exposition

structure Exposition where
  families : List Family
  errors : List Exposition.ParseError
deriving DecidableEq

namespace Exposition

/-- Appends a series to the family of this name, which is created at the end if there is none. -/
def addSeries (name : String) (kind : Kind) (s : Series) : List Family → List Family
  | [] => [⟨name, kind, [s]⟩]
  | f :: rest =>
    if f.name = name then { f with series := f.series ++ [s] } :: rest
    else f :: addSeries name kind s rest

/-- What has been read, and the kinds declared so far. -/
structure Progress where
  declared : SortedMap Kind
  families : List Family
  errors : List ParseError

def Progress.start : Progress := ⟨∅, [], []⟩

def Progress.kindOf (p : Progress) (name : String) : Kind := (p.declared.find? name).getD .untyped

/-- Takes in one line with its number. -/
def Progress.add (p : Progress) : Line × Nat → Progress
  | (.skipped, _) => p
  | (.declaration name kind, _) => { p with declared := p.declared.insert name kind }
  | (.sample s, _) =>
    let kind := p.kindOf s.name
    { p with families := addSeries s.name kind ⟨s.labels, .ofKind kind s.number⟩ p.families }
  | (.malformed cause, number) => { p with errors := p.errors ++ [⟨number, cause⟩] }

/-- Lines are numbered from 1. -/
def ofLines (lines : List Line) : Exposition :=
  let read := (lines.zipIdx 1).foldl Progress.add Progress.start
  ⟨read.families, read.errors⟩

def parse (body : String) : Exposition := ofLines ((Text.lines body).map Line.ofChars)

end Exposition
end KubeEntities
