import Pageflow.Text.Parts
/-!
Issues: what can be wrong with a document that is checked against a schema, and where.
-/
namespace Pageflow.Schema

/-- One step of the way to a part of a document. -/
inductive Segment where
  | key (name : String)
  | index (i : Nat)
deriving DecidableEq

/-- What is wrong with a part of a document. -/
inductive Cause where
  | missing
  | stringType
  | stringPattern (pattern : String)
  | intType
  | intParsing
  | intParsingSize
  | intFromFloat
  | finiteNumber
  | floatType
  | floatParsing
  | boolType
  | boolParsing
  | listType
  | tooShort (least : Nat)
  | dictType
  | modelType (name : String)
  | objectType
  | extraForbidden
  | choice (options : List String)
  | atLeast (bound : String)
  | above (bound : String)
  | tagMissing (key : String)
  | tagUnknown (key tag : String) (options : List String)
  | jsonInvalid
  | pathType
  | value (text : String)
deriving DecidableEq

/-- The options in quotes, separated by commas and, before the last, by `last`. -/
def listOptions (last : String) (options : List String) : String :=
  let quotedOptions := options.map fun o => "'" ++ o ++ "'"
  match quotedOptions.reverse with
  | [] => ""
  | [only] => only
  | final :: before => ", ".intercalate before.reverse ++ last ++ final

/-- The name of a cause. -/
def Cause.name : Cause → String
  | .missing => "missing"
  | .stringType => "string_type"
  | .stringPattern _ => "string_pattern_mismatch"
  | .intType => "int_type"
  | .intParsing => "int_parsing"
  | .intParsingSize => "int_parsing_size"
  | .intFromFloat => "int_from_float"
  | .finiteNumber => "finite_number"
  | .floatType => "float_type"
  | .floatParsing => "float_parsing"
  | .boolType => "bool_type"
  | .boolParsing => "bool_parsing"
  | .listType => "list_type"
  | .tooShort _ => "too_short"
  | .dictType => "dict_type"
  | .modelType _ => "model_type"
  | .objectType => "model_attributes_type"
  | .extraForbidden => "extra_forbidden"
  | .choice _ => "enum"
  | .atLeast _ => "greater_than_equal"
  | .above _ => "greater_than"
  | .tagMissing _ => "union_tag_not_found"
  | .tagUnknown _ _ _ => "union_tag_invalid"
  | .jsonInvalid => "json_invalid"
  | .pathType => "path_type"
  | .value _ => "value_error"

/-- The sentence that describes a cause. -/
def Cause.message : Cause → String
  | .missing => "Field required"
  | .stringType => "Input should be a valid string"
  | .stringPattern pattern => "String should match pattern '" ++ pattern ++ "'"
  | .intType => "Input should be a valid integer"
  | .intParsing => "Input should be a valid integer, unable to parse string as an integer"
  | .intParsingSize => "Unable to parse input string as an integer, exceeded maximum size"
  | .intFromFloat => "Input should be a valid integer, got a number with a fractional part"
  | .finiteNumber => "Input should be a finite number"
  | .floatType => "Input should be a valid number"
  | .floatParsing => "Input should be a valid number, unable to parse string as a number"
  | .boolType => "Input should be a valid boolean"
  | .boolParsing => "Input should be a valid boolean, unable to interpret input"
  | .listType => "Input should be a valid list"
  | .tooShort least =>
    "List should have at least " ++ toString least ++ " item after validation, not 0"
  | .dictType => "Input should be a valid dictionary"
  | .modelType name => "Input should be a valid dictionary or instance of " ++ name
  | .objectType => "Input should be a valid dictionary or object to extract fields from"
  | .extraForbidden => "Extra inputs are not permitted"
  | .choice options => "Input should be " ++ listOptions " or " options
  | .atLeast bound => "Input should be greater than or equal to " ++ bound
  | .above bound => "Input should be greater than " ++ bound
  | .tagMissing key => "Unable to extract tag using discriminator '" ++ key ++ "'"
  | .tagUnknown key tag options =>
    "Input tag '" ++ tag ++ "' found using '" ++ key ++
      "' does not match any of the expected tags: " ++ listOptions ", " options
  | .jsonInvalid => "JSON decode error"
  | .pathType => "Input is not a valid path"
  | .value text => "Value error, " ++ text

/-- A cause and the way to the part of the document it is about. -/
structure Issue where
  location : List Segment
  cause : Cause
deriving DecidableEq

end Pageflow.Schema
