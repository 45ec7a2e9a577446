/-!
# Issues of a validation

What validation finds wrong with a value, and where. All issues of one value are reported together,
in the order of its fields.

Main definitions:

* `Defect`: what is wrong, with its `code` and `message`;
* `Step`: one step of the way from the value to the part that is wrong;
* `Issue`: a defect at a place.
-/

namespace StorageReply

/-- A step into a value. -/
inductive Step
  /-- To a field of a record or a key of a map. -/
  | field (name : String)
  /-- To a member of a list, or to an integer key. -/
  | index (i : Int)
  deriving DecidableEq, Repr

/-- What validation finds wrong. -/
inductive Defect
  /-- A text was needed. -/
  | notText
  /-- Bytes given for a text are not UTF-8. -/
  | notUtf8
  /-- A truth value was needed. -/
  | notBool
  /-- A text or number is none of the spellings of a truth value. -/
  | unreadableBool
  /-- An integer was needed. -/
  | notInteger
  /-- A text is no integer. -/
  | unreadableInteger
  /-- An integer is too long to be read. -/
  | oversizedInteger
  /-- A number has a fractional part. -/
  | fractional
  /-- A number is infinite or undefined. -/
  | notFinite
  /-- A list was needed. -/
  | notList
  /-- A map was needed. -/
  | notMap
  /-- A record was needed, or a map of its fields. -/
  | notRecord (name : String)
  /-- A value is not among the choices. -/
  | notAmong (choices : List String)
  /-- A rule of the field is broken; its text says which. -/
  | rule (text : String)
  /-- The record cannot be changed. -/
  | frozen
  /-- The record has no such field. -/
  | unknownField (name : String)
  /-- A date with a time was needed. -/
  | notMoment
  /-- A text is neither a date nor a date with a time; the text says why. -/
  | unreadableMoment (why : String)
  /-- A number is no count of seconds that can be represented; the text says why. -/
  | unreachableMoment (why : String)
  deriving DecidableEq, Repr

/-- Quoted choices, the last one after an "or". -/
def choiceText : List String → String
  | [] => ""
  | [a] => "'" ++ a ++ "'"
  | [a, b] => "'" ++ a ++ "' or '" ++ b ++ "'"
  | a :: rest => "'" ++ a ++ "', " ++ choiceText rest

namespace Defect

/-- The short name of the kind of defect. -/
def code : Defect → String
  | .notText => "string_type"
  | .notUtf8 => "string_unicode"
  | .notBool => "bool_type"
  | .unreadableBool => "bool_parsing"
  | .notInteger => "int_type"
  | .unreadableInteger => "int_parsing"
  | .oversizedInteger => "int_parsing_size"
  | .fractional => "int_from_float"
  | .notFinite => "finite_number"
  | .notList => "list_type"
  | .notMap => "dict_type"
  | .notRecord _ => "model_type"
  | .notAmong _ => "enum"
  | .rule _ => "value_error"
  | .frozen => "frozen_instance"
  | .unknownField _ => "no_such_attribute"
  | .notMoment => "datetime_type"
  | .unreadableMoment _ => "datetime_from_date_parsing"
  | .unreachableMoment _ => "datetime_parsing"

/-- The sentence that describes the defect. -/
def message : Defect → String
  | .notText => "Input should be a valid string"
  | .notUtf8 => "Input should be a valid string, unable to parse raw data as a unicode string"
  | .notBool => "Input should be a valid boolean"
  | .unreadableBool => "Input should be a valid boolean, unable to interpret input"
  | .notInteger => "Input should be a valid integer"
  | .unreadableInteger => "Input should be a valid integer, unable to parse string as an integer"
  | .oversizedInteger => "Unable to parse input string as an integer, exceeded maximum size"
  | .fractional => "Input should be a valid integer, got a number with a fractional part"
  | .notFinite => "Input should be a finite number"
  | .notList => "Input should be a valid list"
  | .notMap => "Input should be a valid dictionary"
  | .notRecord name => "Input should be a valid dictionary or instance of " ++ name
  | .notAmong choices => "Input should be " ++ choiceText choices
  | .rule text => "Value error, " ++ text
  | .frozen => "Instance is frozen"
  | .unknownField name => "Object has no attribute '" ++ name ++ "'"
  | .notMoment => "Input should be a valid datetime"
  | .unreadableMoment why => "Input should be a valid datetime or date, " ++ why
  | .unreachableMoment why => "Input should be a valid datetime, " ++ why

end Defect

/-- A defect and the place where it was found. -/
structure Issue where
  /-- The way from the validated value to the part that is wrong. -/
  location : List Step
  /-- What is wrong there. -/
  defect : Defect
  deriving DecidableEq, Repr

/-- The issue one level further out. -/
def Issue.under (step : Step) (issue : Issue) : Issue := ⟨step :: issue.location, issue.defect⟩

end StorageReply
