import DocRoot.Http.Head

/-!
# Bodies of requests and the end of a connection

The fields of a head say how its body is framed and whether the client lets the
connection stay open. A body is not looked at, only passed over.
-/

set_option autoImplicit false

namespace DocRoot.Http

inductive BodyLength
  | bytes (n : Nat)
  | chunked
  deriving DecidableEq, Repr

/-- What the fields of a head say of the message. -/
structure Framing where
  body : BodyLength
  persistent : Bool
  deriving DecidableEq, Repr

namespace Framing

def lower (bs : Bytes) : Bytes := bs.map Header.lowerByte

def trim (bs : Bytes) : Bytes :=
  ((bs.dropWhile HeadReader.isBlank).reverse.dropWhile HeadReader.isBlank).reverse

/-- The items between commas in lower case; of a value that is not plain text, none. -/
def options (value : Bytes) : List Bytes :=
  if value.all Header.isTextByte then (value.splitOn 0x2C).map fun o => lower (trim o) else []

def hasOption (value : Bytes) (option : String) : Bool := (options value).contains (utf8 option)

/-- Decimal digits within 64 bits. -/
def number? (bs : Bytes) : Option Nat :=
  if bs = [] ∨ !bs.all (fun b => 0x30 ≤ b && b ≤ 0x39) then none
  else
    let n := bs.foldl (fun n b => n * 10 + (b.toNat - 0x30)) 0
    if n < 18446744073709551616 then some n else none

def maxLength : Nat := 18446744073709551613

/-- What has been seen of the fields: the length, whether an encoding was named and
whether the last one was chunks, and whether the connection may stay. -/
structure View where
  length : Option Nat
  encoding : Option Bool
  persistent : Bool

def see (version : Version) (v : View) (name value : Bytes) : Except HeadError View :=
  let name := lower name
  if name = utf8 "transfer-encoding" then
    if version ≠ .http11 then .error .unexpectedTransferEncoding
    else .ok { v with encoding := some ((options value).getLast? == some (utf8 "chunked")) }
  else if name = utf8 "content-length" then
    if v.encoding.isSome then .ok v
    else
      match number? value with
      | none => .error .contentLength
      | some n =>
        match v.length with
        | some m => if n = m then .ok v else .error .contentLength
        | none => if maxLength < n then .error .tooLarge else .ok { v with length := some n }
  else if name = utf8 "connection" then
    .ok { v with
      persistent :=
        if v.persistent then !hasOption value "close" else hasOption value "keep-alive" }
  else .ok v

def ofHead (h : Head) : Except HeadError Framing := do
  let v ← h.fields.foldlM (fun v e => see h.version v e.1 e.2) ⟨none, none, h.version == .http11⟩
  match v.encoding with
  | some true => return ⟨.chunked, v.persistent⟩
  | some false => throw .transferEncoding
  | none => return ⟨.bytes (v.length.getD 0), v.persistent⟩

end Framing

namespace Head

/-- The request of a head with its framing. A target that is malformed is found before the
fields are. -/
def request (h : Head) : Except HeadError (Request × Framing) := do
  if Target.maxLength < h.target.length then throw .targetTooLong
  let r ← (Request.make h.method h.target h.version h.fields).mapError fun
    | .badMethod => HeadError.method
    | .badTarget _ => .target
    | _ => .field
  return (r, ← Framing.ofHead h)

end Head

/-- What the next byte of a body belongs to. -/
inductive BodyReader
  | bytes (left : Nat)
  /-- The size of a chunk, of which digits may have been read. -/
  | size (digits : Option Nat)
  | sizeBlank (n : Nat)
  | extension (n : Nat)
  | sizeFeed (n : Nat)
  | data (left : Nat)
  | dataReturn
  | dataFeed
  | trailer
  | trailerLine
  | trailerFeed
  | lastFeed
  deriving DecidableEq, Repr

inductive BodyStep
  | more (r : BodyReader)
  | done
  | bad
  deriving DecidableEq, Repr

namespace BodyReader

def hexDigit? (b : UInt8) : Option Nat :=
  if 0x30 ≤ b ∧ b ≤ 0x39 then some (b.toNat - 0x30)
  else if 0x61 ≤ b ∧ b ≤ 0x66 then some (b.toNat - 0x57)
  else if 0x41 ≤ b ∧ b ≤ 0x46 then some (b.toNat - 0x37)
  else none

/-- The reader of a body, unless it has no bytes. -/
def ofLength : BodyLength → Option BodyReader
  | .bytes 0 => none
  | .bytes n => some (.bytes n)
  | .chunked => some (.size none)

def afterSize (n : Nat) (b : UInt8) : BodyStep :=
  if HeadReader.isBlank b then .more (.sizeBlank n)
  else if b = 0x3B then .more (.extension n)
  else if b = HeadReader.carriageReturn then .more (.sizeFeed n)
  else .bad

def expect (c b : UInt8) (r : BodyReader) : BodyStep := if b = c then .more r else .bad

def feed (r : BodyReader) (b : UInt8) : BodyStep :=
  match r with
  | .bytes left => if left ≤ 1 then .done else .more (.bytes (left - 1))
  | .size digits =>
    match hexDigit? b, digits with
    | some d, n =>
      let n := n.getD 0 * 16 + d
      if n < 18446744073709551616 then .more (.size (some n)) else .bad
    | none, some n => afterSize n b
    | none, none => .bad
  | .sizeBlank n => afterSize n b
  | .extension n =>
    if b = HeadReader.carriageReturn then .more (.sizeFeed n)
    else if b = HeadReader.lineFeed then .bad
    else .more (.extension n)
  | .sizeFeed n => expect HeadReader.lineFeed b (if n = 0 then .trailer else .data n)
  | .data left => .more (if left ≤ 1 then .dataReturn else .data (left - 1))
  | .dataReturn => expect HeadReader.carriageReturn b .dataFeed
  | .dataFeed => expect HeadReader.lineFeed b (.size none)
  | .trailer => .more (if b = HeadReader.carriageReturn then .lastFeed else .trailerLine)
  | .trailerLine => .more (if b = HeadReader.carriageReturn then .trailerFeed else .trailerLine)
  | .trailerFeed => expect HeadReader.lineFeed b .trailer
  | .lastFeed => if b = HeadReader.lineFeed then .done else .bad

end BodyReader

end DocRoot.Http
