import ExpresSync.Foundation.SearchPatterns
import ExpresSync.Model.Types

/-!
# The log scrubber

`log_scrubber.ts`.  A `\b` stands after digits only, so it asks for no more characters of a word.
Deno has no setter of `__proto__`, so each key of a value makes a field of its own.
-/

namespace ExpresSync

/-! ## Patterns -/

/-- A letter of either case. -/
def eitherCase (c : Char) : CharRun := ⟨fun d => d == c || d == c.toUpper, 1, some 1⟩

/-- `[A-Za-z0-9…]` -/
def alphanumericOr (more : List Char) (c : Char) : Bool := c.isAlphanum || more.contains c

/-- `\w` -/
def isWordChar (c : Char) : Bool := alphanumericOr ['_'] c

open CharRun

/-- `EMAIL` -/
def emailPattern : SearchPattern where
  runs := [
    atLeast 1 (alphanumericOr ['.', '_', '%', '+', '-']), lit '@',
    atLeast 1 (alphanumericOr ['.', '-']), lit '.', atLeast 2 Char.isAlpha]
  ends _ := true

/-- `JWT` -/
def jwtPattern : SearchPattern where
  runs := [
    lit 'e', lit 'y', lit 'J', atLeast 1 (alphanumericOr ['_', '-']), lit '.',
    atLeast 1 (alphanumericOr ['_', '-']), lit '.', atLeast 1 (alphanumericOr ['_', '-'])]
  ends _ := true

/-- `BEARER` -/
def bearerPattern : SearchPattern where
  runs := [
    eitherCase 'b', eitherCase 'e', eitherCase 'a', eitherCase 'r', eitherCase 'e', eitherCase 'r',
    atLeast 1 isStrWhiteSpace, atLeast 8 (alphanumericOr ['.', '_', '-'])]
  ends _ := true

/-- `PHONE_E164` -/
def phoneE164Pattern : SearchPattern where
  runs := [lit '+', ⟨Char.isDigit, 7, some 15⟩]
  ends next := !next.any isWordChar

def scrubString (input : List Char) : List Char :=
  if input = [] then input
  else
    phoneE164Pattern.replaceAll "<phone>".toList <|
      emailPattern.replaceAll "<email>".toList <|
        bearerPattern.replaceAll "Bearer <token>".toList <|
          jwtPattern.replaceAll "<jwt>".toList input

example : scrubString "bounce on accounts@vlad.gg".toList = "bounce on <email>".toList := by
  decide +kernel

/-! ## Attributes -/

def redacted : String := "<redacted>"

def sensitiveAttrKeys : List String := ["authorization", "x-auth-token", "cookie", "set-cookie"]

def sensitiveAttrKeyPrefixes : List String := ["card_"]

variable (L : LowerCase)

def isSensitiveAttrKey (key : String) : Bool :=
  let lower := L.apply key.toList
  (sensitiveAttrKeys.map String.toList).contains lower ||
    sensitiveAttrKeyPrefixes.any fun p => p.toList.isPrefixOf lower

mutual

def scrubValue : JsonValue → JsonValue
  | .string s => .string (String.ofList (scrubString s.toList))
  | .array elements => .array (scrubElements elements)
  | .object fields => .object (scrubAttributes fields)
  | .null => .null
  | .bool b => .bool b
  | .number text => .number text

/-- `value.map(scrubValue)` -/
def scrubElements : List JsonValue → List JsonValue
  | [] => []
  | v :: elements => scrubValue v :: scrubElements elements

/-- The loop over the entries, which `scrubValue` has for the fields of objects too. -/
def scrubAttributes : List (String × JsonValue) → List (String × JsonValue)
  | [] => []
  | (k, v) :: fields =>
      (k, if isSensitiveAttrKey L k then .string redacted else scrubValue v) ::
        scrubAttributes fields

end

end ExpresSync
