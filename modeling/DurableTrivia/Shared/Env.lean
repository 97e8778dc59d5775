import DurableTrivia.Shared.Text

/-!
# Env — the dotenv reader

`parse_env` and `parse_env_value` of `shared/src/env.rs`, with the two
scans of a quoted value as the source writes them: one that finds the
closing quote and one that reads the text before it.
-/

namespace DurableTrivia.Shared

open DurableTrivia.BadgeScreen (isWhitespace)

/-- The line that does not parse, and why. -/
structure EnvParseError where
  line : Nat
  message : String
  deriving DecidableEq, Repr

/-- `HashMap<String, String>`. -/
abbrev EnvValues := Std.ExtHashMap String String

/-! ## Values -/

/-- The character can open a quoted value. -/
def isQuote (character : Char) : Bool := character == '\'' || character == '"'

/-- The first `#` at the start of the value or behind whitespace. -/
def commentStart (value : List Char) : Option Nat :=
  (List.range value.length).find? fun index =>
    value[index]? == some '#' && (index == 0 || (value.take index).getLast?.any isWhitespace)

/-- The scan for the closing quote: `index` counts from the opening one. -/
def closingQuote (quote : Char) : Bool → Nat → List Char → Option Nat
  | _, _, [] => none
  | escaped, index, character :: rest =>
    if quote = '"' ∧ escaped = true then closingQuote quote false (index + 1) rest
    else if quote = '"' ∧ character = '\\' then closingQuote quote true (index + 1) rest
    else if character = quote then some index
    else closingQuote quote escaped (index + 1) rest

/-- What a character stands for behind a backslash. -/
def escapeMeaning (escaped : Char) : Char :=
  match escaped with
  | 'n' => '\n'
  | 'r' => '\r'
  | 't' => '\t'
  | '\\' => '\\'
  | '"' => '"'
  | other => other

/-- The scan that reads a double-quoted text. -/
def unescape (line : Nat) : List Char → Except EnvParseError (List Char)
  | [] => .ok []
  | [character] =>
    if character = '\\' then .error ⟨line, "trailing escape in quoted value"⟩ else .ok [character]
  | character :: next :: rest =>
    if character = '\\' then (unescape line rest).map (escapeMeaning next :: ·)
    else (unescape line (next :: rest)).map (character :: ·)

/-- The value of an assignment: quoted, or up to a comment. -/
def parseEnvValue (value : List Char) (line : Nat) : Except EnvParseError (List Char) :=
  match value.head?.filter isQuote with
  | none => .ok (trim (value.take ((commentStart value).getD value.length)))
  | some quote =>
    match closingQuote quote false 1 value.tail with
    | none => .error ⟨line, "unterminated quoted value"⟩
    | some closing =>
      let remainder := trim (value.drop (closing + 1))
      if !remainder.isEmpty && remainder.head? != some '#' then
        .error ⟨line, "unexpected text after quoted value"⟩
      else
        let quoted := (value.take closing).drop 1
        if quote = '\'' then .ok quoted else unescape line quoted

/-! ## Lines -/

/-- The character can stand in a key. -/
def isKeyCharacter (character : Char) : Bool := character == '_' || character.isAlphanum

/-- A line that is neither blank nor a comment, with its number. -/
def numbered (line : List Char) (index : Nat) : Option (Nat × List Char) :=
  let line := trim line
  if line.isEmpty || line.head? == some '#' then none
  else some (index + 1, stripStart "export ".toList line)

/-- The pair a line sets. `debug` is the `{:?}` of a string. -/
def parseEnvLine (debug : String → String) (lineNumber : Nat) (line : List Char) :
    Except EnvParseError (String × String) :=
  match splitOnce '=' line with
  | none => .error ⟨lineNumber, "expected KEY=VALUE"⟩
  | some (key, rawValue) =>
    let key := trim key
    if key.isEmpty || !key.all isKeyCharacter then
      .error ⟨lineNumber, "invalid environment key " ++ debug (String.ofList key)⟩
    else
      (parseEnvValue (trim rawValue) lineNumber).map fun value =>
        (String.ofList key, String.ofList value)

/-- Reads a whole file, up to the first line that is wrong. -/
def parseEnv (debug : String → String) (content : String) : Except EnvParseError EnvValues :=
  let pairs := (lines content.toList).zipIdx.filterMap fun (line, index) => numbered line index
  (pairs.mapM fun (lineNumber, line) => parseEnvLine debug lineNumber line).map
    Std.ExtHashMap.ofList

end DurableTrivia.Shared
