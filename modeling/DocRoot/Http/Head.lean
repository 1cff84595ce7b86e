import DocRoot.Http.Request

/-!
# Request heads

A head is read byte by byte, so what has been read does not depend on how the bytes
came in. Empty lines in front are skipped, a line may end in a bare line feed, and the
first byte that fits nothing decides what is wrong.
-/

set_option autoImplicit false

namespace DocRoot.Http

/-- Why a request is not understood. -/
inductive HeadError
  | method
  | target
  | targetTooLong
  | version
  /-- The client opened with the preface of a newer protocol. -/
  | newerProtocol
  | field
  | contentLength
  | transferEncoding
  | unexpectedTransferEncoding
  | tooLarge
  deriving DecidableEq, Repr

namespace HeadError

/-- The status of the answer; the preface of a newer protocol gets none. -/
def status? : HeadError → Option Nat
  | newerProtocol => none
  | tooLarge => some 431
  | targetTooLong => some 414
  | _ => some 400

def detail : HeadError → String
  | method => "hyper::Error(Parse(Method))"
  | target => "hyper::Error(Parse(Uri))"
  | targetTooLong => "hyper::Error(Parse(UriTooLong))"
  | version => "hyper::Error(Parse(Version))"
  | newerProtocol => "hyper::Error(Parse(VersionH2))"
  | field => "hyper::Error(Parse(Header(Token)))"
  | contentLength => "hyper::Error(Parse(Header(ContentLengthInvalid)))"
  | transferEncoding => "hyper::Error(Parse(Header(TransferEncodingInvalid)))"
  | unexpectedTransferEncoding => "hyper::Error(Parse(Header(TransferEncodingUnexpected)))"
  | tooLarge => "hyper::Error(Parse(TooLarge))"

end HeadError

structure Head where
  method : Bytes
  target : Bytes
  version : Version
  fields : List (Bytes × Bytes)
  deriving DecidableEq, Repr

/-- What the next byte of a head belongs to. -/
inductive HeadPart
  | emptyLine
  | emptyLineFeed
  | method
  | target
  /-- The bytes of the version that are still to come. -/
  | version (rest : Bytes)
  | minorVersion
  /-- The bytes of the preface of a newer protocol that are still to come. -/
  | preface (rest : Bytes)
  | lineEnd
  | lineFeed
  | field
  | lastFeed
  | name
  | beforeValue
  | value
  | valueFeed
  deriving DecidableEq, Repr

/-- A head of which a part has been read. The texts are kept with the last byte first. -/
structure HeadReader where
  part : HeadPart
  size : Nat
  method : Bytes
  target : Bytes
  protocol : Version
  name : Bytes
  value : Bytes
  fields : List (Bytes × Bytes)
  deriving DecidableEq, Repr

inductive HeadStep
  | more (r : HeadReader)
  | done (h : Head)
  | bad (e : HeadError)
  deriving DecidableEq, Repr

namespace HeadReader

def start : HeadReader := ⟨.emptyLine, 0, [], [], .http11, [], [], []⟩

def maxSize : Nat := 417792
def maxFields : Nat := 100

def carriageReturn : UInt8 := 0x0D
def lineFeed : UInt8 := 0x0A
def space : UInt8 := 0x20

def isBlank (b : UInt8) : Bool := b == 0x20 || b == 9

/-- The bytes that a target may be made of, before it is read as one. -/
def isTargetByte (b : UInt8) : Bool := 0x21 ≤ b && b != 0x7F

def head (r : HeadReader) : Head :=
  ⟨r.method.reverse, r.target.reverse, r.protocol, r.fields.reverse⟩

/-- The reader after a field has ended, blanks at the end of its value dropped. -/
def endField (r : HeadReader) : HeadReader :=
  { r with
    part := .field, name := [], value := []
    fields := (r.name.reverse, (r.value.dropWhile isBlank).reverse) :: r.fields }

def versionStart : Bytes := utf8 "HTTP/1."
def prefaceEnd : Bytes := utf8 ".0\r\n\r\nSM\r\n\r\n"

/-- Whether the digit of a newer protocol comes after its own method and target. -/
def beginsPreface (r : HeadReader) (rest : Bytes) (b : UInt8) : Bool :=
  rest == utf8 "1." && b == 0x32 && r.method.reverse == utf8 "PRI" && r.target == utf8 "*"

/-- The line feed that has to follow a carriage return. -/
def expectFeed (b : UInt8) (next : HeadStep) : HeadStep :=
  if b = lineFeed then next else .bad .field

/-- What one more byte makes of the part it belongs to. -/
def take (r : HeadReader) (b : UInt8) : HeadStep :=
  let goTo (part : HeadPart) : HeadStep := .more { r with part }
  match r.part with
  | .emptyLine =>
    if b = carriageReturn then goTo .emptyLineFeed
    else if b = lineFeed then goTo .emptyLine
    else if isTokenByte b then .more { r with part := .method, method := [b] }
    else .bad .method
  | .emptyLineFeed => expectFeed b (goTo .emptyLine)
  | .method =>
    if b = space then goTo .target
    else if isTokenByte b then .more { r with method := b :: r.method }
    else .bad .method
  | .target =>
    if b = space then
      if r.target = [] ∨ (Utf8.text? r.target.reverse).isNone then .bad .target
      else goTo (.version versionStart)
    else if isTargetByte b then .more { r with target := b :: r.target }
    else .bad .target
  | .version rest =>
    match rest with
    | c :: rest' =>
      if b = c then goTo (if rest' = [] then .minorVersion else .version rest')
      else if beginsPreface r rest b then goTo (.preface prefaceEnd)
      else .bad .version
    | [] => .bad .version
  | .minorVersion =>
    if b = 0x31 then .more { r with part := .lineEnd, protocol := .http11 }
    else if b = 0x30 then .more { r with part := .lineEnd, protocol := .http10 }
    else .bad .version
  | .preface rest =>
    match rest with
    | c :: rest' =>
      if b ≠ c then .bad .version
      else if rest' = [] then .bad .newerProtocol
      else goTo (.preface rest')
    | [] => .bad .version
  | .lineEnd =>
    if b = carriageReturn then goTo .lineFeed else expectFeed b (goTo .field)
  | .lineFeed => expectFeed b (goTo .field)
  | .field =>
    if b = carriageReturn then goTo .lastFeed
    else if b = lineFeed then .done r.head
    else if isTokenByte b then .more { r with part := .name, name := [b] }
    else .bad .field
  | .lastFeed => expectFeed b (.done r.head)
  | .name =>
    if b = 0x3A then
      if maxFields ≤ r.fields.length then .bad .tooLarge else goTo .beforeValue
    else if isTokenByte b then .more { r with name := b :: r.name }
    else .bad .field
  | .beforeValue =>
    if isBlank b then goTo .beforeValue
    else if b = carriageReturn then goTo .valueFeed
    else if b = lineFeed then .more r.endField
    else if isFieldByte b then .more { r with part := .value, value := [b] }
    else .bad .field
  | .value =>
    if b = carriageReturn then goTo .valueFeed
    else if b = lineFeed then .more r.endField
    else if isFieldByte b then .more { r with value := b :: r.value }
    else .bad .field
  | .valueFeed => expectFeed b (.more r.endField)

/-- Reads one more byte. A head that gets too long is refused. -/
def feed (r : HeadReader) (b : UInt8) : HeadStep :=
  match r.take b with
  | .more r =>
    if maxSize ≤ r.size + 1 then .bad .tooLarge else .more { r with size := r.size + 1 }
  | step => step

/-- Whether nothing but empty lines has been read. -/
def isIdle (r : HeadReader) : Bool := r.part == .emptyLine

end HeadReader

end DocRoot.Http
