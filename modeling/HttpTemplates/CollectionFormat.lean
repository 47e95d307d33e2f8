import HttpTemplates.Percent
import HttpTemplates.Text.Blank

/-!
# Collection formats

How the values of a query parameter with several values are written: with a separator between
them, or `exploded`, with the name repeated for every value.
-/

namespace HttpTemplates

/-- A way to write several values of one query parameter. -/
inductive CollectionFormat where
  /-- With commas between them. -/
  | csv
  /-- With spaces between them. -/
  | ssv
  /-- With tabs between them. -/
  | tsv
  /-- With vertical bars between them. -/
  | pipes
  /-- As a parameter each. -/
  | exploded
  deriving DecidableEq

namespace CollectionFormat

/-- All formats. -/
def all : List CollectionFormat :=
  [.csv, .ssv, .tsv, .pipes, .exploded]

/-- The name of a format, in upper case. -/
def name : CollectionFormat → Text
  | .csv => "CSV"
  | .ssv => "SSV"
  | .tsv => "TSV"
  | .pipes => "PIPES"
  | .exploded => "EXPLODED"

/-- What stands between the values. -/
def separator? : CollectionFormat → Option Char
  | .csv => some ','
  | .ssv => some ' '
  | .tsv => some '\t'
  | .pipes => some '|'
  | .exploded => none

/-- The format with this name, in any letter case and between any white space. -/
def ofName? (name : Text) : Option CollectionFormat :=
  let key := Text.upper (Text.trim name)
  all.find? (·.name == key)

/-- The format with a name that may be missing. -/
def ofName (name : Option Text) : Except Error CollectionFormat :=
  match ofName? (name.getD []) with
  | some f => .ok f
  | none => .error (.input (.unknownFormat name))

/-- The pairs of an exploded parameter; an entry that is nothing is the bare name. -/
def explode (charset : Charset) (field : Text) : List (Option Text) → Except Error (List Text)
  | [] => .ok []
  | none :: rest => do
    let tail ← explode charset field rest
    .ok (field :: tail)
  | some value :: rest => do
    let head ← Percent.queryParamEncode charset value
    let tail ← explode charset field rest
    .ok ((field ++ '=' :: head) :: tail)

/-- The encoded values of a list. -/
def encodeValues (charset : Charset) : List Text → Except Error (List Text)
  | [] => .ok []
  | value :: rest => do
    let head ← Percent.queryParamEncode charset value
    let tail ← encodeValues charset rest
    .ok (head :: tail)

/-- A name and values as a part of a query string. No values give the empty text; if there are
entries but all are nothing, the bare name is left. -/
def join (f : CollectionFormat) (name : Text) (values : List (Option Text)) (charset : Charset) :
    Except Error Text :=
  if values = [] then .ok []
  else do
    let field ← Percent.queryParamEncode charset name
    match f.separator? with
    | none => do
      let pairs ← explode charset field values
      .ok (['&'].intercalate pairs)
    | some sep => do
      let encoded ← encodeValues charset (values.filterMap id)
      if encoded = [] then .ok field
      else do
        let separator ← Percent.encode charset false [sep]
        .ok (field ++ '=' :: separator.intercalate encoded)

end CollectionFormat

end HttpTemplates
