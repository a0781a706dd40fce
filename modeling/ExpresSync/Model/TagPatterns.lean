import ExpresSync.Foundation.SearchPatterns
import ExpresSync.Model.Types

/-!
# What log lines say of tags

The patterns of `tag-patterns.ts`, and those of `docker-log-subscriber.ts` for a charge box, with
the functions that read a line of StEvE's log by them.
-/

namespace ExpresSync

namespace Pattern

/-- `\s*` -/
def spaces : Piece := .many isStrWhiteSpace 0 false false

/-- `\s+` -/
def someSpaces : Piece := .many isStrWhiteSpace 1 false false

/-- `[=:\s]+` -/
def separator : Piece := .many (fun c => c = '=' || c = ':' || isStrWhiteSpace c) 1 false false

def isQuote (c : Char) : Bool := c = '\'' || c = '"'

/-- `['"]?` -/
def quote : Piece := .optional isQuote

/-- `.*`, or the lazy `.*?` -/
def anything (isLazy : Bool) : Piece :=
  .many (fun c => !([0x0A, 0x0D, 0x2028, 0x2029].contains c.toNat)) 0 isLazy false

/-- `[^\n]*` -/
def restOfLine : Piece := .many (· ≠ '\n') 0 false false

/-- `(\S+)` -/
def nonSpaces : Piece := .many (fun c => !isStrWhiteSpace c) 1 false true

/-- `([^\s"']+)` -/
def unquoted : Piece := .many (fun c => !isStrWhiteSpace c && !isQuote c) 1 false true

/-- `(\d+)` -/
def digits : Piece := .many Char.isDigit 1 false true

/-- `[A-Za-z0-9_\-]` -/
def isIdChar (c : Char) : Bool := c.isAlphanum || c = '_' || c = '-'

end Pattern

open Pattern

/-- `TAG_REJECTION_PATTERNS` -/
def tagRejectionPatterns : List LinePattern := [
  ⟨true, [.words ["The user with idTag "], quote, .many (fun c => !isQuote c) 1 false true, quote,
    .words [" is INVALID"]]⟩,
  ⟨true, [.words ["Authorization rejected for idTag:"], spaces, nonSpaces]⟩,
  ⟨true, [.words ["Unknown idTag:"], spaces, nonSpaces]⟩,
  ⟨true, [.words ["idTag"], someSpaces, nonSpaces, someSpaces, .words ["not found"]]⟩,
  ⟨true, [.words ["Invalid idTag:"], spaces, nonSpaces]⟩,
  ⟨true, [.words ["AuthorizationStatus:"], spaces, .words ["Invalid"], anything false,
    .words ["idTag"], someSpaces, nonSpaces]⟩,
  ⟨true, [.words ["Authorize.req"], anything false, .words ["unknown"], anything false,
    .words ["tag:"], spaces, nonSpaces]⟩,
  ⟨true, [.words ["idTag"], separator, quote, unquoted, quote, anything true,
    .words ["REJECTED", "INVALID", "BLOCKED"]]⟩,
  ⟨true, [.words ["REJECTED", "INVALID", "BLOCKED"], anything true, .words ["idTag"], separator,
    quote, unquoted, quote]⟩]

/-- `START_TRANSACTION_PATTERNS[0]` -/
def txIdThenTagPattern : LinePattern :=
  ⟨true, [.words ["StartTransaction."], .words ["conf", "req"], restOfLine,
    .words ["transactionId"], separator, digits, restOfLine, .words ["idTag"], separator, quote,
    unquoted]⟩

/-- `START_TRANSACTION_PATTERNS[1]` -/
def tagThenTxIdPattern : LinePattern :=
  ⟨true, [.words ["StartTransaction"], restOfLine, .words ["idTag"], separator, quote, unquoted,
    quote, restOfLine, .words ["transactionId"], separator, digits]⟩

/-- `START_TRANSACTION_PATTERNS[2]` -/
def txIdPattern : LinePattern :=
  ⟨true, [.words ["StartTransaction"], restOfLine, .words ["transactionId"], separator, digits]⟩

/-- `CHARGE_BOX_ID_PATTERNS` -/
def chargeBoxIdPatterns : List LinePattern := [
  ⟨true, [.words ["chargeBoxId"], separator, quote, .many isIdChar 1 false true, quote]⟩,
  ⟨true, [.words ["charge_box_id"], separator, quote, .many isIdChar 1 false true, quote]⟩,
  ⟨false, [.words ["["], .many isIdChar 2 false true, .words ["]"], someSpaces,
    .words ["Authorize", "StartTransaction", "StatusNotification"]]⟩]

/-- The first capture of the first pattern that occurs in a line; none is empty. -/
def firstCapture (patterns : List LinePattern) (line : String) : Option (List Char) :=
  patterns.findSome? fun pattern => (pattern.matchLine line.toList).bind List.head?

def extractChargeBoxId (line : String) : Option String :=
  (firstCapture chargeBoxIdPatterns line).map String.ofList

def isTrailingPunctuation (c : Char) : Bool := ['\'', '"', '.', ',', ';', ':', '!', '?'].contains c

/-- The tag that is rejected, without punctuation after it; nothing else may be left of it. -/
def extractRejectedTag (line : String) : Option String :=
  (firstCapture tagRejectionPatterns line).map fun tag =>
    String.ofList (trimChars ((tag.reverse.dropWhile isTrailingPunctuation).reverse))

structure StartTransactionExtract where
  transactionId : ℕ
  idTag : Option String
deriving DecidableEq

/-- `Number.isFinite` of a number with these digits: it does not round to infinity. -/
def isFinite (n : ℕ) : Bool := n < 2 ^ 1024 - 2 ^ 970

def startTransactionExtract (digits : List Char) (idTag : Option (List Char)) :
    Option StartTransactionExtract :=
  let txId := digitsValue digits
  if isFinite txId then some ⟨txId, idTag.map String.ofList⟩ else none

def extractStartTransaction (line : String) : Option StartTransactionExtract :=
  let txIdThenTag := (txIdThenTagPattern.matchLine line.toList).bind fun
    | [digits, idTag] => startTransactionExtract digits (some idTag)
    | _ => none
  let tagThenTxId := (tagThenTxIdPattern.matchLine line.toList).bind fun
    | [idTag, digits] => startTransactionExtract digits (some idTag)
    | _ => none
  let txIdOnly := (txIdPattern.matchLine line.toList).bind fun
    | [digits] => startTransactionExtract digits none
    | _ => none
  (txIdThenTag.or tagThenTxId).or txIdOnly

example : extractChargeBoxId "[CB01] Authorize.req received" = some "CB01" := by decide +kernel
example : extractRejectedTag "Unknown idTag: ABC123." = some "ABC123" := by decide +kernel
example : extractStartTransaction "StartTransaction.conf transactionId: 17 idTag='DEAD'" =
    some ⟨17, some "DEAD"⟩ := by decide +kernel

end ExpresSync
