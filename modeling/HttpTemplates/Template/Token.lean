import HttpTemplates.Text.Basic

/-!
# Tokens

A template is cut into texts outside braces and brace spans. Braces inside a span only count its
depth, so the outermost span is one token; a closing brace outside a span is ordinary text, and a
span that is never closed runs to the end.
-/

namespace HttpTemplates.Token

/-- The opening brace of an expression. -/
def openBrace : Char := '\x7b'

/-- The closing brace of an expression. -/
def closeBrace : Char := '\x7d'

/-- Where a reader of tokens stands. -/
inductive Place where
  /-- Outside braces. -/
  | outside
  /-- In a span, below `depth` braces that opened inside it. -/
  | inside (depth : Nat)
  deriving DecidableEq

/-- The token of the characters read so far, which are in reverse, if there are any. -/
def flush (read : Text) : List Text :=
  if read = [] then [] else [read.reverse]

/-- The tokens from a place on, where `read` holds the current token so far in reverse. -/
def scan : Place → Text → Text → List Text
  | _, read, [] => flush read
  | .outside, read, c :: rest =>
    if c = openBrace then flush read ++ scan (.inside 0) [c] rest
    else scan .outside (c :: read) rest
  | .inside depth, read, c :: rest =>
    if c = openBrace then scan (.inside (depth + 1)) (c :: read) rest
    else if c = closeBrace then
      match depth with
      | 0 => (c :: read).reverse :: scan .outside [] rest
      | depth + 1 => scan (.inside depth) (c :: read) rest
    else scan (.inside depth) (c :: read) rest

/-- The tokens of a template. -/
def tokenize (template : Text) : List Text :=
  scan .outside [] template

@[simp] theorem tokenize_nil : tokenize [] = [] := rfl

theorem flatten_flush (read : Text) : (flush read).flatten = read.reverse := by
  by_cases h : read = [] <;> simp [flush, h]

/-- Scanning loses nothing. -/
theorem flatten_scan (p : Place) (read t : Text) : (scan p read t).flatten = read.reverse ++ t := by
  fun_induction scan p read t with
  | case1 => simp [flatten_flush]
  | case2 read rest ih => simp [flatten_flush, ih]
  | case3 read c rest _ ih => simp [ih]
  | case4 depth read rest ih => simp [ih]
  | case5 read rest _ ih => simp [ih]
  | case6 read rest _ depth ih => simp [ih]
  | case7 depth read c rest _ _ ih => simp [ih]

/-- The tokens of a template hold the template. -/
theorem flatten_tokenize (t : Text) : (tokenize t).flatten = t := by
  simp [tokenize, flatten_scan]

end HttpTemplates.Token
