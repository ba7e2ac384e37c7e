set_option autoImplicit false

namespace TapeMachine.Yaml

/-- The handle of a tag, if it has one, and what follows the handle. -/
structure TagName where
  handle? : Option String
  suffix : String
  deriving DecidableEq

/-- A token of a document. -/
inductive Token
  | versionDirective (major : Nat)
  | handleDirective (handle uri : String)
  | otherDirective
  | documentStart
  | documentEnd
  | streamEnd
  | sequenceStart
  | mappingStart
  | blockEnd
  | flowSequenceStart
  | flowSequenceEnd
  | flowMappingStart
  | flowMappingEnd
  | flowEntry
  | entry
  | key
  | value
  | alias (name : String)
  | anchor (name : String)
  | tag (name : TagName)
  | scalar (text : String) (plain : Bool)
  deriving DecidableEq

end TapeMachine.Yaml
