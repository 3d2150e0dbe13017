import Settle.Yaml.Property

/-!
# Tokens of a document

The indicators and scalars of a document, with its blocks opened and closed where the indentation
does so.
-/

namespace Settle.Yaml

inductive Token where
  | directive (directive : Directive)
  | documentStart
  | documentEnd
  | streamEnd
  | sequenceStart
  | mappingStart
  | blockEnd
  | flowSequenceStart
  | flowSequenceEnd
  | flowMappingStart
  | flowMappingEnd
  | flowEntry
  | blockEntry
  | key
  | value
  | alias (name : Text)
  | anchor (name : Text)
  | tag (tag : Tag)
  | scalar (text : Text) (plain : Bool)
  deriving DecidableEq

/-- What a token is called in messages. -/
def Token.name : Token → Text
  | .directive _       => "<directive>"
  | .documentStart     => "<document start>"
  | .documentEnd       => "<document end>"
  | .streamEnd         => "<stream end>"
  | .sequenceStart     => "<block sequence start>"
  | .mappingStart      => "<block mapping start>"
  | .blockEnd          => "<block end>"
  | .flowSequenceStart => "["
  | .flowSequenceEnd   => "]"
  | .flowMappingStart  => "\x7b"
  | .flowMappingEnd    => "\x7d"
  | .flowEntry         => ","
  | .blockEntry        => "-"
  | .key               => "?"
  | .value             => ":"
  | .alias _           => "<alias>"
  | .anchor _          => "<anchor>"
  | .tag _             => "<tag>"
  | .scalar ..         => "<scalar>"

end Settle.Yaml
