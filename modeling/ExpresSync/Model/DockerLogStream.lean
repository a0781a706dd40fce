import ExpresSync.Foundation.ItemParser
import ExpresSync.Foundation.Utf8Decoder
import ExpresSync.Model.Types

/-!
# The log of a container, read from the Docker socket

`streamLogs` of `docker-client.ts`, from the bytes that its reads return to the lines that it
yields.  The response head is looked for in what has come in so far; behind it, every payload has a
header of eight bytes.

One decoder decodes the head, as a stream, and the payloads, each as a whole.
-/

namespace ExpresSync

/-! ## The response head -/

/-- `text.indexOf(pattern)` -/
def indexOf (pattern : List Char) : List Char → Option ℕ
  | [] => if pattern.isEmpty then some 0 else none
  | c :: cs =>
      if pattern.isPrefixOf (c :: cs) then some 0 else (indexOf pattern cs).map (· + 1)

/-- `"\r\n\r\n"` -/
def blankLine : List Char := ['\r', '\n', '\r', '\n']

/-- The group of `/^HTTP\/\d\.\d\s+(\d+)/`. -/
def matchStatus : List Char → Option (List Char)
  | 'H' :: 'T' :: 'T' :: 'P' :: '/' :: major :: '.' :: minor :: space :: rest =>
      let digits := leadingDigits (rest.dropWhile isStrWhiteSpace)
      if major.isDigit && minor.isDigit && isStrWhiteSpace space && !digits.isEmpty then
        some digits
      else none
  | _ => none

/-- `new TextEncoder().encode(text).length` -/
def utf8Length (text : List Char) : ℕ := (text.map Char.utf8Size).sum

/-! ## Frames -/

/-- `i` as an index of `slice`. -/
def sliceIndex (length : ℕ) (i : ℤ) : ℕ :=
  if i < 0 then (length + i).toNat else min i.toNat length

/-- `bytes.slice(start, end)` -/
def slice (bytes : List UInt8) (start finish : ℤ) : List UInt8 :=
  (bytes.take (sliceIndex bytes.length finish)).drop (sliceIndex bytes.length start)

/-- The size in a header: what `<<` and `|` make of four bytes is a signed number. -/
def frameSize (a b c d : UInt8) : ℤ :=
  let n := ((a.toNat * 256 + b.toNat) * 256 + c.toNat) * 256 + d.toNat
  if n < 2 ^ 31 then n else (n : ℤ) - 2 ^ 32

/-- The first payload of the buffer, and the buffer behind it. -/
def nextFrame (rawBuffer : List UInt8) : Option (List UInt8 × List UInt8) :=
  match rawBuffer with
  | _ :: _ :: _ :: _ :: a :: b :: c :: d :: _ =>
      let size := frameSize a b c d
      if (rawBuffer.length : ℤ) < 8 + size then none
      else some (slice rawBuffer 8 (8 + size), slice rawBuffer (8 + size) rawBuffer.length)
  | _ => none

/-- The lines of a payload that are not blank. -/
def payloadLines (payload : List Char) : List String :=
  ((payload.splitOn '\n').filter fun line => !(trimChars line).isEmpty).map String.ofList

/-- The lines of all payloads. -/
def yieldLines (decoder : TextDecoder) : List (List UInt8) → List String × TextDecoder
  | [] => ([], decoder)
  | payload :: payloads =>
      let (text, decoder) := decoder.decode payload false
      let (lines, decoder) := yieldLines decoder payloads
      (payloadLines text ++ lines, decoder)

/-! ## Reads -/

/-- The variables of `streamLogs`. -/
structure LogReader where
  decoder : TextDecoder
  rawBuffer : List UInt8
  headersParsed : Bool
deriving DecidableEq

inductive LogReaderState where
  /-- It awaits the next read. -/
  | awaits (reader : LogReader)
  | throws (message : String)
  /-- A size below zero can leave the buffer as it is; then the loop over the frames goes on. -/
  | loops
deriving DecidableEq

namespace LogReader

def initial : LogReader := ⟨.new, [], false⟩

/-- The loop over the frames.  It ends unless a round leaves the buffer as it is. -/
def readFrames (reader : LogReader) : List String × LogReaderState :=
  match drainLoop nextFrame (reader.rawBuffer.length + 1) reader.rawBuffer with
  | none => ([], .loops)
  | some (payloads, rawBuffer) =>
      let (lines, decoder) := yieldLines reader.decoder payloads
      (lines, .awaits { reader with decoder, rawBuffer })

variable (containerName : String)

def httpError (statusCode : List Char) : String :=
  "Docker API returned HTTP " ++ String.ofList statusCode ++ " for " ++ containerName

/-- What follows a read that returns `value`. -/
def read (reader : LogReader) (value : List UInt8) : List String × LogReaderState :=
  let rawBuffer := reader.rawBuffer ++ value
  if reader.headersParsed then readFrames { reader with rawBuffer }
  else
    let (headerStr, decoder) := reader.decoder.decode rawBuffer true
    match indexOf blankLine headerStr with
    | none => ([], .awaits ⟨decoder, rawBuffer, false⟩)
    | some headerEnd =>
        match matchStatus (headerStr.take headerEnd) with
        | none => ([], .throws (httpError containerName "unknown".toList))
        | some statusCode =>
            if 400 ≤ digitsValue statusCode then
              ([], .throws (httpError containerName statusCode))
            else
              let headerBytes := utf8Length (headerStr.take (headerEnd + 4))
              readFrames ⟨decoder, rawBuffer.drop headerBytes, true⟩

/-- The reads up to the end of the stream, or up to where the generator fails. -/
def readAll (reader : LogReader) : List (List UInt8) → List String × LogReaderState
  | [] => ([], .awaits reader)
  | value :: values =>
      match reader.read containerName value with
      | (lines, .awaits reader) =>
          let (more, state) := readAll reader values
          (lines ++ more, state)
      | ended => ended

end LogReader

end ExpresSync
