import TextMemory.Json.Basic

/-!
# Writing JSON

Values are written without blanks. Between quotes, a quote, a backslash and the controls are
escaped.
-/
namespace TextMemory.Json

def escaped (c : Char) : List Char :=
  if c = Text.doubleQuote || c = Text.backslash then [Text.backslash, c]
  else if c.toNat < 0x20 then Text.backslash :: 'u' :: Text.hex 4 c.toNat
  else [c]

def quotedText (s : String) : String :=
  String.ofList (Text.doubleQuote :: s.toList.flatMap escaped ++ [Text.doubleQuote])

def numberText : Number → String
  | .int n => toString n
  | .float x => naturalText ("Infinity", "NaN") x

mutual

def text : Json → String
  | .null => "null"
  | .bool b => if b then "true" else "false"
  | .number n => numberText n
  | .string s => quotedText s
  | .array items => "[" ++ ",".intercalate (itemTexts items) ++ "]"
  | .object members => "\x7b" ++ ",".intercalate (memberTexts members) ++ "\x7d"

def itemTexts : List Json → List String
  | [] => []
  | v :: vs => text v :: itemTexts vs

def memberTexts : List (String × Json) → List String
  | [] => []
  | (name, v) :: ms => (quotedText name ++ ":" ++ text v) :: memberTexts ms

end

end TextMemory.Json
