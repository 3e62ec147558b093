/-
# Loading charts from files

A file holds the description of one chart, or a list of named ones. What a file gives is a list of
charts that may break off with a failure (`Source.charts`); what a folder gives is the same for all
its files one after another. A chart that is alone in its file is named after the file unless it has
a name.
-/

import ChartQuery.Library.FileTree
import ChartQuery.Model.Reader
import ChartQuery.Yaml.Document

namespace ChartQuery

/-- Why charts could not be loaded. -/
inductive LoadFailure where
  | noFile (path : Path)
  | noFolder (path : Path)
  | noSources (path : Path)
  | isFolder (path : Path)
  | unreadable (path : Path) (failure : Yaml.Failure)
  | notAnObject (path : Path)
  | notIterable (v : Value)
  | notSearchable (v : Value)
  | unnamed (path : Path)
  | duplicate (name : Option Text)
  | rejected (r : Schema.Rejection)
  deriving Repr

/-- A name as it stands in a message. -/
def shownName (name : Option Text) : Text :=
  name.getD "None"

/-- The words for a value in which no key can be searched. -/
def notSearchableWords (v : Value) : String :=
  match v with
  | .bytes _ => "a bytes-like object is required, not 'str'"
  | _ => "argument of type '" ++ v.fullKindName ++ "' is not iterable"

/-- The words for a failure. -/
def LoadFailure.message : LoadFailure → Text
  | .noFile path => "Visualization file not found: " ++ path.text
  | .noFolder path => "Visualizations directory not found: " ++ path.text
  | .noSources path => "No YAML or JSON files found in " ++ path.text
  | .isFolder path => "[Errno 21] Is a directory: " ++ Text.quoted path.text
  | .unreadable path failure => failure.message path.text
  | .notAnObject path => "Expected a visualization object in " ++ path.text
  | .notIterable v => v.notIterableWords
  | .notSearchable v => notSearchableWords v
  | .unnamed path => "Unnamed visualization in " ++ path.text
  | .duplicate name => "Duplicate visualization: " ++ shownName name
  | .rejected r => r.message

/-- The endings of files that are loaded from folders. -/
def sourceEndings : List Text := [".yaml", ".yml", ".json"]

/-- The key under which a file lists several charts. -/
def listKey : Text := "visualizations"

/-- The key of a chart's name. -/
def nameKey : Text := "name"

/-- A chart from its description. -/
def describedChart (v : Value) : Except LoadFailure Visualization :=
  match (readVisualization v).toExcept "VisualizationObject" with
  | .ok chart => .ok chart
  | .error r => .error (.rejected r)

/-- The fields of a description with the name of its file unless they have a name. -/
def namedAfter (path : Path) (fields : Fields) : Fields :=
  match Value.field? nameKey fields with
  | some _ => fields
  | none => fields ++ [(.text nameKey, .text path.stem)]

/-- A chart from the fields of its description, alone in its file. -/
def singleChart (path : Path) (fields : Fields) : Except LoadFailure Visualization :=
  describedChart (.object (namedAfter path fields))

/-- A chart from a list of named ones. -/
def listedChart (path : Path) (v : Value) : Except LoadFailure Visualization :=
  match v.holds? nameKey with
  | none => .error (.notSearchable v)
  | some false => .error (.unnamed path)
  | some true => describedChart v

namespace Source

/-- The value that a file holds. -/
def document (s : Source) : Except LoadFailure Value :=
  match s.item with
  | .folder => .error (.isFolder s.path)
  | .file bytes =>
    match Yaml.read bytes with
    | .ok v => .ok v
    | .error e => .error (.unreadable s.path e)

/-- The only chart of a file. -/
def chart (s : Source) : Except LoadFailure Visualization :=
  match s.document with
  | .error e => .error e
  | .ok v =>
    match v.unmarked with
    | .object fields => singleChart s.path fields
    | _ => .error (.notAnObject s.path)

/-- The charts that the value of a file describes, one after another; nothing when there is no
value. -/
def chartsOf (path : Path) (v : Value) : List (Except LoadFailure Visualization) :=
  match v.unmarked with
  | .null => []
  | .object fields =>
    match Value.field? listKey fields with
    | none => [singleChart path fields]
    | some listed =>
      match listed.items? with
      | none => [.error (.notIterable listed)]
      | some items => items.map (listedChart path)
  | _ => [.error (.notAnObject path)]

/-- The charts of a file, one after another. -/
def charts (s : Source) : List (Except LoadFailure Visualization) :=
  match s.document with
  | .error e => [.error e]
  | .ok v => chartsOf s.path v

end Source

namespace FileTree

/-- The only chart of the file at a path. -/
def loadChart (tree : FileTree) (path : Path) : Except LoadFailure Visualization :=
  match tree.find path with
  | none => .error (.noFile path)
  | some item => (Source.mk path item).chart

/-- The files of a folder that are loaded, in order. -/
def sourcesIn (tree : FileTree) (path : Path) : Except LoadFailure (List Source) :=
  match tree.find path with
  | none => .error (.noFolder path)
  | some _ =>
    match (tree.below path).filter fun s => sourceEndings.contains s.path.ending with
    | [] => .error (.noSources path)
    | sources => .ok sources

end FileTree

end ChartQuery
