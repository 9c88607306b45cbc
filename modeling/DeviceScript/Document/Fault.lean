import DeviceScript.Failure

/-!
# Why a document cannot be read

A document that breaks the rules of its form is refused as a whole. A document that keeps them
can still hold a scalar that stands for no value, and then reading fails as the reading of that
value does.
-/

namespace DeviceScript.Document

inductive Fault where
  | badCharacter
  | badStart
  | itemPlace
  | keyPlace
  | valuePlace
  | missingColon
  | unclosedQuote
  | markInQuote
  | badEscape
  | badDirective
  | badVersion
  | repeatedDirective
  | badName
  | badTag
  | badHeader
  | missingContent
  | missingBlockEnd
  | missingComma
  | missingStart
  | secondDocument
  | unknownHandle (handle : String)
  | unknownName (name : String)
  | repeatedName (name : String)
  | endlessName (name : String)
  | unknownTag (tag : String)
  | wrongShape (wanted : String)
  | badKey
  | badMerge
  | badBinary
  | tooDeep
  deriving DecidableEq

def Fault.message : Fault → String
  | .badCharacter => "special characters are not allowed"
  | .badStart => "found character that cannot start any token"
  | .itemPlace => "sequence entries are not allowed here"
  | .keyPlace => "mapping keys are not allowed here"
  | .valuePlace => "mapping values are not allowed here"
  | .missingColon => "could not find expected ':'"
  | .unclosedQuote => "found unexpected end of stream"
  | .markInQuote => "found unexpected document separator"
  | .badEscape => "found unknown escape character"
  | .badDirective => "found a directive that cannot be read"
  | .badVersion => "found incompatible YAML document (version 1.* is required)"
  | .repeatedDirective => "found duplicate directive"
  | .badName => "expected alphabetic or numeric character"
  | .badTag => "found a tag that cannot be read"
  | .badHeader => "expected chomping or indentation indicators"
  | .missingContent => "expected the node content"
  | .missingBlockEnd => "expected <block end>"
  | .missingComma => "expected ',' or the closing bracket"
  | .missingStart => "expected '<document start>'"
  | .secondDocument => "expected a single document in the stream"
  | .unknownHandle handle => "found undefined tag handle " ++ Text.quoted handle
  | .unknownName name => "found undefined alias " ++ Text.quoted name
  | .repeatedName name => "found duplicate anchor " ++ Text.quoted name
  | .endlessName name => "found a node that holds itself by the name " ++ Text.quoted name
  | .unknownTag tag => "could not determine a constructor for the tag " ++ Text.quoted tag
  | .wrongShape wanted => "expected a " ++ wanted ++ " node"
  | .badKey => "found unhashable key"
  | .badMerge => "expected a mapping or list of mappings for merging"
  | .badBinary => "failed to decode base64 data"
  | .tooDeep => "nested too deeply"

/-- Why no value is read. -/
inductive Trouble where
  | refused (fault : Fault)
  | failed (e : Failure)
  deriving DecidableEq

abbrev Outcome := Except Trouble

def refuse {α : Type} (fault : Fault) : Outcome α := .error (.refused fault)

def failWith {α : Type} (e : Failure) : Outcome α := .error (.failed e)

def ofValue {α : Type} : Except Failure α → Outcome α
  | .ok v => .ok v
  | .error e => failWith e

end DeviceScript.Document
