import HttpTemplates.Text.Quoted

/-!
# What can go wrong

Every failure of the library is a value that names its cause; `Error.message` words it. The groups
follow the part of the library that reports them.
-/

namespace HttpTemplates

/-- Why a template cannot be built or expanded. -/
inductive TemplateError where
  /-- There is no template text. -/
  | missingTemplate
  /-- There is no list of chunks. -/
  | missingChunks
  /-- There is no map of variables. -/
  | missingVariables
  /-- A parameter or header has no name. -/
  | missingName
  /-- A parameter or header has no list of values. -/
  | missingValues
  /-- A value does not match the pattern of its expression. -/
  | mismatch (value pattern : Text)
  /-- A problem that an extension reports in its own words. -/
  | reported (message : Text)
  deriving DecidableEq

/-- Why a request cannot be assembled. -/
inductive RequestError where
  /-- The method is blank. -/
  | missingMethod
  /-- The target has no scheme. -/
  | relativeTarget (target : Text)
  /-- A path has a scheme. -/
  | absoluteUri
  /-- A query parameter has no name. -/
  | missingQueryName
  /-- A header has no name. -/
  | missingHeaderName
  /-- There is no map of variables. -/
  | missingVariables
  /-- The template was not resolved before its request was asked for. -/
  | unresolved
  /-- A problem that an extension reports in its own words. -/
  | reported (message : Text)
  deriving DecidableEq

/-- Where a text leaves a character encoding. -/
structure Unencodable where
  /-- The name of the encoding. -/
  label : Text
  /-- The text. -/
  text : Text
  /-- The index of the first character without a code. -/
  start : Nat
  /-- The index behind the run of such characters. -/
  stop : Nat
  /-- What these characters have in common. -/
  reason : Text
  deriving DecidableEq

/-- What kind of failure a registered encoding reports. -/
inductive CodecFault where
  /-- The bytes are no text. -/
  | illFormed
  /-- The encoding is not one of texts. -/
  | notForTexts
  /-- Any other value that it cannot do anything with, such as a text without a code. -/
  | unfit
  /-- Something else. -/
  | broken
  deriving DecidableEq

/-- Why a text cannot be turned into bytes, or bytes into a text. -/
inductive CharsetError where
  /-- No encoding is named. -/
  | missing
  /-- The name of the encoding holds a null character. -/
  | embeddedNull
  /-- No encoding has this name. -/
  | unknown (name : Text)
  /-- A character has no code. -/
  | unencodable (place : Unencodable)
  /-- The bytes are no text. -/
  | undecodable (label : Text)
  /-- A problem that a registered encoding reports in its own words. -/
  | reported (fault : CodecFault) (message : Text)
  deriving DecidableEq

/-- Why a pattern is rejected. -/
inductive PatternError where
  /-- It breaks the rules of regular expressions. -/
  | invalid
  /-- A repetition count is out of range. -/
  | tooManyRepetitions
  /-- It asks for two alphabets at once. -/
  | conflictingFlags
  /-- A look-behind reaches too far back. -/
  | tooFarBehind
  /-- Its parentheses are nested too deep. -/
  | tooDeep
  /-- A repetition count has too many digits. -/
  | tooManyDigits (count : Nat)
  deriving DecidableEq

/-- Why a single value is refused. -/
inductive InputError where
  /-- A literal chunk has no text. -/
  | emptyLiteral
  /-- An expression has no name. -/
  | emptyExpressionName
  /-- No collection format has this name. -/
  | unknownFormat (name : Option Text)
  /-- No character encoding has this name. -/
  | unknownCharset (name : Text)
  /-- There is no timeout. -/
  | missingTimeout
  /-- A timeout is zero or negative. -/
  | timeoutNotPositive
  /-- A setting is no boolean flag. -/
  | notFlag (setting raw : Text)
  /-- A setting is no logging level. -/
  | notLevel (setting raw : Text)
  /-- A setting is no number. -/
  | notNumber (setting raw : Text)
  /-- A setting is no collection format. -/
  | notFormat (setting raw : Text)
  /-- A status code is no integer. -/
  | notStatus (raw : Text)
  /-- A status code has too many digits. -/
  | longStatus (digits : Nat)
  deriving DecidableEq

/-- Why a command line is refused after its words have been taken apart. -/
inductive UsageError where
  /-- A variable binding has no name or no equals sign. -/
  | badBinding (raw : Text)
  /-- A header has no name or no colon. -/
  | badHeader (raw : Text)
  /-- A variable binding is the separator of words. -/
  | separatorBinding
  /-- A header is the separator of words. -/
  | separatorHeader
  /-- A body is the separator of words. -/
  | separatorBody
  /-- No logging level has this name. -/
  | unknownLevel (raw : Text)
  /-- No collection format has this name. -/
  | unknownFormat (raw : Text)
  deriving DecidableEq

/-- A failure of the library. -/
inductive Error where
  /-- In a template. -/
  | template (e : TemplateError)
  /-- In the assembly of a request. -/
  | request (e : RequestError)
  /-- In a character encoding. -/
  | charset (e : CharsetError)
  /-- In a pattern. -/
  | pattern (e : PatternError)
  /-- A pattern matched, but one of its groups ends in front of its beginning. -/
  | crossedGroup
  /-- In a single value. -/
  | input (e : InputError)
  /-- In a command line. -/
  | usage (e : UsageError)
  /-- In the transport of a request to `url`. -/
  | transport (url cause : Text)
  deriving DecidableEq

/-! ## Wording -/

/-- The wording of a template error. -/
def TemplateError.message : TemplateError → Text
  | .missingTemplate => "template is required."
  | .missingChunks => "chunks are required."
  | .missingVariables => "variable map is required."
  | .missingName => "name is required."
  | .missingValues => "values are required"
  | .mismatch value pattern =>
    ("Value " : Text) ++ value ++ " does not match the expression pattern: " ++ pattern
  | .reported message => message

/-- The wording of a request error. -/
def RequestError.message : RequestError → Text
  | .missingMethod => "method is required."
  | .relativeTarget target => ("target must be an absolute url: " : Text) ++ Text.quoted target
  | .absoluteUri => "url values must not be absolute."
  | .missingQueryName => "query name is required."
  | .missingHeaderName => "header name is required."
  | .missingVariables => "variable map is required."
  | .unresolved => "template has not been resolved."
  | .reported message => message

/-- The place of an unencodable run: a single character is shown. -/
def Unencodable.place (u : Unencodable) : Text :=
  if u.stop = u.start + 1 then
    ("character '" : Text) ++ (u.text.drop u.start |>.take 1).flatMap (Text.codeEscape ·.toNat)
      ++ "' in position " ++ Text.ofNat u.start
  else
    ("characters in position " : Text) ++ Text.ofNat u.start ++ "-" ++ Text.ofNat (u.stop - 1)

/-- The wording of a charset error. -/
def CharsetError.message : CharsetError → Text
  | .missing => "encode() argument 'encoding' must be str, not None"
  | .embeddedNull => "embedded null character"
  | .unknown name => ("unknown encoding: " : Text) ++ name
  | .unencodable u =>
    ("'" : Text) ++ u.label ++ "' codec can't encode " ++ u.place ++ ": " ++ u.reason
  | .undecodable label => ("'" : Text) ++ label ++ "' codec can't decode the bytes"
  | .reported _ message => message

/-- What is said of an integer with more digits than are read. -/
def tooManyDigitsMessage (count : Nat) : Text :=
  ("Exceeds the limit (4300 digits) for integer string conversion: value has " : Text)
    ++ Text.ofNat count ++ " digits; use sys.set_int_max_str_digits() to increase the limit"

/-- The wording of a pattern error. -/
def PatternError.message : PatternError → Text
  | .invalid => "invalid pattern"
  | .tooManyRepetitions => "the repetition number is too large"
  | .conflictingFlags => "ASCII and UNICODE flags are incompatible"
  | .tooFarBehind => "invalid SRE code"
  | .tooDeep => "maximum recursion depth exceeded while calling a Python object"
  | .tooManyDigits count => tooManyDigitsMessage count

/-- The wording of an input error. -/
def InputError.message : InputError → Text
  | .emptyLiteral => "a literal value is required."
  | .emptyExpressionName => "an expression name is required."
  | .unknownFormat name =>
    ("unknown collection format: " : Text) ++ (name.map Text.quoted).getD "None"
  | .unknownCharset name => ("unknown charset: " : Text) ++ Text.quoted name
  | .missingTimeout => "a timeout is required"
  | .timeoutNotPositive => "timeout must be positive"
  | .notFlag setting raw => setting ++ " must be a boolean flag, got " ++ Text.quoted raw
  | .notLevel setting raw => setting ++ " must be a logging level name, got " ++ Text.quoted raw
  | .notNumber setting raw => setting ++ " must be a number, got " ++ Text.quoted raw
  | .notFormat setting raw =>
    setting ++ " must be one of exploded, csv, ssv, tsv, pipes; got " ++ Text.quoted raw
  | .notStatus raw =>
    ("invalid literal for int() with base 10: " : Text) ++ (Text.quoted raw).take 200
  | .longStatus digits => tooManyDigitsMessage digits

/-- The wording of a usage error. -/
def UsageError.message : UsageError → Text
  | .badBinding raw =>
    ("invalid variable binding " : Text) ++ Text.quoted raw ++ ", expected NAME=VALUE"
  | .badHeader raw => ("invalid header " : Text) ++ Text.quoted raw ++ ", expected NAME:VALUE"
  | .separatorBinding | .separatorHeader => "'list' object has no attribute 'partition'"
  | .separatorBody => "'list' object has no attribute 'startswith'"
  | .unknownLevel raw => ("unknown log level " : Text) ++ Text.quoted raw
  | .unknownFormat raw => InputError.message (.unknownFormat (some raw))

/-- The wording of a failure. -/
def Error.message : Error → Text
  | .template e => e.message
  | .request e => e.message
  | .charset e => e.message
  | .pattern e => e.message
  | .crossedGroup =>
    "The span of capturing group is wrong, please report a bug for the re module."
  | .input e => e.message
  | .usage e => e.message
  | .transport url cause => ("request to " : Text) ++ url ++ " failed: " ++ cause

end HttpTemplates
