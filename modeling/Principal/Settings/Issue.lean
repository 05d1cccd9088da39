import Principal.Text.Quoted

/-!
# Issues with settings

Why a value of a setting is refused, each reason with its code and its message, and where the
value stands. Details are shown in the order of their dotted locations.
-/

namespace Principal.Settings

inductive Issue where
  | notText
  | notUnicode
  | notFlag
  | unreadableFlag
  | notInteger
  | unreadableInteger
  | fractional
  | notFinite
  | tooManyDigits
  | belowLeast (least : Int)
  | notMapping
  | notHandler
  | separatorLength (separator : String)
  | equalSeparators (separator : String)
  | unknownLevel (level : String)
deriving DecidableEq, Repr

namespace Issue

def code : Issue → String
  | notText => "string_type"
  | notUnicode => "string_unicode"
  | notFlag => "bool_type"
  | unreadableFlag => "bool_parsing"
  | notInteger => "int_type"
  | unreadableInteger => "int_parsing"
  | fractional => "int_from_float"
  | notFinite => "finite_number"
  | tooManyDigits => "int_parsing_size"
  | belowLeast _ => "greater_than_equal"
  | notMapping => "dict_type"
  | notHandler => "model_type"
  | separatorLength _ => "value_error"
  | equalSeparators _ => "value_error"
  | unknownLevel _ => "value_error"

def message : Issue → String
  | notText => "Input should be a valid string"
  | notUnicode =>
      "Input should be a valid string, unable to parse raw data as a unicode string"
  | notFlag => "Input should be a valid boolean"
  | unreadableFlag => "Input should be a valid boolean, unable to interpret input"
  | notInteger => "Input should be a valid integer"
  | unreadableInteger => "Input should be a valid integer, unable to parse string as an integer"
  | fractional => "Input should be a valid integer, got a number with a fractional part"
  | notFinite => "Input should be a finite number"
  | tooManyDigits => "Unable to parse input string as an integer, exceeded maximum size"
  | belowLeast least => "Input should be greater than or equal to " ++ toString least
  | notMapping => "Input should be a valid dictionary"
  | notHandler => "Input should be a valid dictionary or instance of HandlerConfig"
  | separatorLength separator =>
      "Value error, separator must be a single character, got " ++ quoted separator
  | equalSeparators separator =>
      "Value error, domain_separator and tenant_separator must differ (both are " ++
        quoted separator ++ ")"
  | unknownLevel level => "Value error, Unknown log level: " ++ level

end Issue

structure Detail where
  location : List String
  issue : Issue
deriving DecidableEq, Repr

namespace Detail

def path (d : Detail) : String :=
  ".".intercalate d.location

def precedes (d e : Detail) : Bool :=
  d.path < e.path || (d.path = e.path && d.issue.code ≤ e.issue.code)

def sort (details : List Detail) : List Detail :=
  details.mergeSort precedes

end Detail

/-- Settings are refused as a whole, for a variable that is no JSON or has arrays or objects too
deep in others, or for every value at fault. -/
inductive Rejection where
  | unreadable (field : String)
  | tooDeep (what : String)
  | invalid (details : List Detail)
deriving DecidableEq, Repr

namespace Rejection

def unreadableMessage (field : String) : String :=
  "error parsing value for field \"" ++ field ++ "\" from source \"EnvSettingsSource\""

def tooDeepMessage (what : String) : String :=
  "maximum recursion depth exceeded while decoding a JSON " ++ what ++ " from a unicode string"

end Rejection

end Principal.Settings
