/-
# Tokens

The pieces into which a document falls: marks of its structure, scalars with their text, and the
names and tags that stand before a node. A token knows where it begins and ends.
-/

import ChartQuery.Yaml.Failure

namespace ChartQuery.Yaml

/-- A line that concerns a whole document. -/
inductive Directive where
  | version (major minor : Nat)
  | handle (name lead : String)
  | other (name : String)
  deriving DecidableEq, Repr

/-- What a token is. -/
inductive Token.Kind where
  | streamEnd
  | directive (d : Directive)
  | documentStart
  | documentEnd
  | blockSequenceStart
  | blockMappingStart
  | blockEnd
  | flowSequenceStart
  | flowSequenceEnd
  | flowMappingStart
  | flowMappingEnd
  | flowEntry
  | blockEntry
  | key
  | value
  | aliasName (name : String)
  | anchor (name : String)
  | tag (handle : Option String) (suffix : String)
  | scalar (text : Text) (plain : Bool)
  deriving DecidableEq, Repr

/-- A piece of a document. -/
structure Token where
  kind : Token.Kind
  start : Mark
  stop : Mark
  deriving DecidableEq, Repr

/-- What a token is called in reports. -/
def Token.Kind.name : Token.Kind → String
  | .streamEnd => "<stream end>"
  | .directive _ => "<directive>"
  | .documentStart => "<document start>"
  | .documentEnd => "<document end>"
  | .blockSequenceStart => "<block sequence start>"
  | .blockMappingStart => "<block mapping start>"
  | .blockEnd => "<block end>"
  | .flowSequenceStart => "["
  | .flowSequenceEnd => "]"
  | .flowMappingStart => "\x7b"
  | .flowMappingEnd => "\x7d"
  | .flowEntry => ","
  | .blockEntry => "-"
  | .key => "?"
  | .value => ":"
  | .aliasName _ => "<alias>"
  | .anchor _ => "<anchor>"
  | .tag _ _ => "<tag>"
  | .scalar _ _ => "<scalar>"

end ChartQuery.Yaml
