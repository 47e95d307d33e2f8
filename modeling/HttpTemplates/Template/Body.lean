import HttpTemplates.Template.Basic

/-!
# Body templates

The body of a request. Nothing is encoded, and expressions without a value stay as they are
written. Since braces stand for expressions, the outermost braces of a JSON object are written as
escapes; a body that begins and ends with such an escape is in the *envelope* form, and the
outermost pair of escapes becomes braces after expansion.
-/

namespace HttpTemplates

namespace BodyTemplate

/-- The escape of the opening brace. -/
def openEscape : Text := "%7B"

/-- The escape of the closing brace. -/
def closeEscape : Text := "%7D"

/-- The settings of a body template. -/
def settings (charset : Charset) : Template.Settings :=
  ⟨true, false, false, charset⟩

end BodyTemplate

/-- A template of a body. -/
structure BodyTemplate where
  /-- The template. -/
  base : Template

namespace BodyTemplate

/-- Parses a body template. -/
def create (source : Text) (charset : Charset := .utf8) : Except Error BodyTemplate := do
  let base ← Template.parse source (settings charset)
  .ok ⟨base⟩

/-- Parses a body template that may be missing. -/
def create? (source : Option Text) (charset : Charset) : Except Error BodyTemplate :=
  match source with
  | some source => create source charset
  | none => .error (.template .missingTemplate)

/-- Whether the body is in the envelope form. -/
def isEnvelope (b : BodyTemplate) : Bool :=
  Text.startsWith b.base.source openEscape && Text.endsWith b.base.source closeEscape

/-- The names of the expressions in order. -/
def variableNames (b : BodyTemplate) : List Text :=
  b.base.variableNames

/-- What stands between the first opening escape and the last closing one, in braces. -/
def unwrap (t : Text) : Text :=
  let start := (Text.indexOf? openEscape t).getD 0 + openEscape.length
  let stop := (Text.lastIndexOf? closeEscape t).getD t.length
  Token.openBrace :: (t.take stop).drop start ++ [Token.closeBrace]

/-- Fills in the variables. -/
def expand (b : BodyTemplate) (vars : Variables) : Except Error (Option Text) := do
  let expanded ← b.base.expand vars
  .ok (if b.isEnvelope then expanded.map unwrap else expanded)

end BodyTemplate

end HttpTemplates
