import DocRoot.Decimal.Reading
import DocRoot.Settings.Data
import DocRoot.Settings.Format.Yaml.Token

/-!
# Nodes

Tokens are composed into nodes: scalars, sequences and mappings. An alias stands for the
node that its anchor names, and for nothing inside of that node. A mapping has no two
equal keys.
-/

set_option autoImplicit false

namespace DocRoot.Settings.Yaml

inductive Node
  | null
  | bool (b : Bool)
  | int (n : Int)
  | real (text : String)
  | text (s : String)
  | sequence (items : List Node)
  | mapping (entries : List (Node × Node))
  /-- A scalar that does not fit its tag, or an alias to a node that is not complete. -/
  | bad
  deriving Repr

namespace Node

mutual

def same : Node → Node → Bool
  | .null, .null => true
  | .bool a, .bool b => a == b
  | .int a, .int b => a == b
  | .real a, .real b => a == b
  | .text a, .text b => a == b
  | .sequence xs, .sequence ys => sameItems xs ys
  | .mapping xs, .mapping ys => sameEntries xs ys
  | .bad, .bad => true
  | _, _ => false

def sameItems : List Node → List Node → Bool
  | [], [] => true
  | x :: xs, y :: ys => same x y && sameItems xs ys
  | _, _ => false

def sameEntries : List (Node × Node) → List (Node × Node) → Bool
  | [], [] => true
  | (k, x) :: xs, (l, y) :: ys => same k l && same x y && sameEntries xs ys
  | _, _ => false

end

/-! ### Scalars -/

def realWords : List String :=
  [".inf", ".Inf", ".INF", "+.inf", "+.Inf", "+.INF", "-.inf", "-.Inf", "-.INF", ".nan", "NaN",
    ".NAN"]

def isReal (s : String) : Bool := realWords.contains s || (Binary64.ofText? s).isSome

def wordInt? (s : List Char) : Option Int :=
  match Decimal.int? s with
  | some n => if Data.isInt n then some n else none
  | none => none

/-- Digits of a radix with or without a sign, within 64 bits. -/
def radixInt? (radix : Nat) (s : List Char) : Option Int := do
  let (negative, ds) := Decimal.sign s
  if ds = [] then none
  let n ← ds.foldlM (fun n d => do
    let v ← Json.Read.hexValue? d
    if v < radix then some (n * radix + v) else none) 0
  let n : Int := if negative then -n else n
  if Data.isInt n then some n else none

def prefixedInt? : List Char → Option Int
  | '0' :: 'x' :: r => radixInt? 16 r
  | '0' :: 'o' :: r => radixInt? 8 r
  | '+' :: r => wordInt? r
  | _ => none

/-- What a plain scalar without a tag is. -/
def ofPlain (s : String) : Node :=
  match prefixedInt? s.toList with
  | some n => .int n
  | none =>
    if s = "" ∨ s = "~" ∨ s = "null" then .null
    else if s = "true" then .bool true
    else if s = "false" then .bool false
    else
      match wordInt? s.toList with
      | some n => .int n
      | none => if isReal s then .real s else .text s

structure Tag where
  handle : String
  suffix : String

def coreHandle : String := "tag:yaml.org,2002:"

def ofTagged (s suffix : String) : Node :=
  if suffix = "bool" then
    if s = "true" then .bool true else if s = "false" then .bool false else .bad
  else if suffix = "int" then
    match wordInt? s.toList with
    | some n => .int n
    | none => .bad
  else if suffix = "float" then if isReal s then .real s else .bad
  else if suffix = "null" then if s = "~" ∨ s = "null" then .null else .bad
  else .text s

def ofScalar (plain : Bool) (tag : Option Tag) (s : String) : Node :=
  if !plain then .text s
  else
    match tag with
    | some t => if t.handle = coreHandle then ofTagged s t.suffix else .text s
    | none => ofPlain s

/-- The entries that keys and values in turn make. A bad node is no key, and what follows
it takes its place. -/
def entries : List Node → List (Node × Node)
  | [] => []
  | .bad :: r => entries r
  | [_] => []
  | k :: v :: r => (k, v) :: entries r

def hasTwice : List (Node × Node) → Bool
  | [] => false
  | (k, _) :: r => r.any (fun e => same k e.1) || hasTwice r

/-- A mapping, unless a key comes twice. -/
def ofPairs? (nodes : List Node) : Option Node :=
  let es := entries nodes
  if hasTwice es then none else some (.mapping es)

end Node

/-- What is known while nodes are composed: the meaning of handles, and the anchors, later
ones first, each with its node once that is complete. -/
structure Known where
  handles : List (String × String)
  anchors : List (String × Option Node)

namespace Known

def add (k : Known) (name : String) : Known := { k with anchors := (name, none) :: k.anchors }

/-- Completes the anchor that has `below` others before it. -/
def complete (k : Known) (below : Nat) (x : Node) : Known :=
  let i := k.anchors.length - 1 - below
  { k with anchors := k.anchors.modify i fun e => (e.1, some x) }

def resolve? (k : Known) (name : String) : Option Node :=
  (k.anchors.find? (·.1 == name)).map fun e => e.2.getD .bad

def start? (k : Known) (handle : String) : Option String :=
  (k.handles.find? (·.1 == handle)).map (·.2)

def tag? (k : Known) (handle suffix : String) : Option Node.Tag :=
  if handle = "!!" then some ⟨(k.start? "!!").getD Node.coreHandle, suffix⟩
  else if handle = "" ∧ suffix = "!" then some ⟨(k.start? "").getD "", suffix⟩
  else
    match k.start? handle with
    | some start => some ⟨start, suffix⟩
    | none => if Scan.isWhole handle.toList then none else some ⟨handle, suffix⟩

end Known

/-- The anchor and the tag in front of a node, in either order. -/
structure Properties where
  anchor : Option String
  tag : Option Node.Tag

namespace Properties

def withTag (k : Known) (anchor : Option String) : List Token → Option (Properties × List Token)
  | .tag handle suffix :: r => (k.tag? handle suffix).map fun t => (⟨anchor, some t⟩, r)
  | r => some (⟨anchor, none⟩, r)

def read (k : Known) : List Token → Option (Properties × List Token)
  | .anchor name :: r => withTag k (some name) r
  | .tag handle suffix :: r => do
    let t ← k.tag? handle suffix
    match r with
    | .anchor name :: r => return (⟨some name, some t⟩, r)
    | r => return (⟨none, some t⟩, r)
  | r => some (⟨none, none⟩, r)

end Properties

abbrev Composer (α : Type) := Known → List Token → Option (α × Known × List Token)

def endsValue : List Token → Bool
  | .key :: _ => true
  | .value :: _ => true
  | .blockEnd :: _ => true
  | _ => false

def endsEntry : List Token → Bool
  | .blockEntry :: _ => true
  | .blockEnd :: _ => true
  | _ => false

def endsFlowMapping : List Token → Bool
  | .flowEntry :: _ => true
  | .flowMappingEnd :: _ => true
  | _ => false

def endsFlowPair : List Token → Bool
  | .flowEntry :: _ => true
  | .flowSequenceEnd :: _ => true
  | _ => false

mutual

/-- A node. With `inBlock` it may be a block, and with `atKey` a sequence that is not
indented. -/
def node : (fuel : Nat) → (inBlock atKey : Bool) → Composer Node
  | 0, _, _, _, _ => none
  | fuel + 1, inBlock, atKey, k, ts =>
    match ts with
    | .alias name :: r => (k.resolve? name).map (·, k, r)
    | ts => do
      let (p, ts) ← Properties.read k ts
      let below := k.anchors.length
      let k :=
        match p.anchor with
        | some name => k.add name
        | none => k
      let (x, k, ts) ← content fuel inBlock atKey p k ts
      match p.anchor with
      | some _ => return (x, k.complete below x, ts)
      | none => return (x, k, ts)

def content : (fuel : Nat) → (inBlock atKey : Bool) → Properties → Composer Node
  | 0, _, _, _, _, _ => none
  | fuel + 1, inBlock, atKey, p, k, ts =>
    match ts with
    | .scalar plain s :: r => some (.ofScalar plain p.tag s, k, r)
    | .flowSequenceStart :: r => do
      let (xs, k, r) ← flowItems fuel true k r
      return (.sequence xs, k, r)
    | .flowMappingStart :: r => do
      let (xs, k, r) ← flowEntries fuel true k r
      return (← Node.ofPairs? xs, k, r)
    | ts =>
      match atKey, inBlock, ts with
      | true, _, .blockEntry :: _ => do
        let (xs, k, r) ← looseItems fuel k ts
        return (.sequence xs, k, r)
      | _, true, .sequenceStart :: r => do
        let (xs, k, r) ← blockItems fuel k r
        return (.sequence xs, k, r)
      | _, true, .mappingStart :: r => do
        let (xs, k, r) ← blockEntries fuel k r
        return (← Node.ofPairs? xs, k, r)
      | _, _, ts =>
        if p.anchor.isSome ∨ p.tag.isSome then some (.ofScalar true p.tag "", k, ts) else none

/-- The items of a sequence that is not indented. -/
def looseItems : (fuel : Nat) → Composer (List Node)
  | 0, _, _ => none
  | fuel + 1, k, ts =>
    match ts with
    | .blockEntry :: r => do
      let (x, k, r) ←
        if endsEntry r || endsValue r then some (Node.null, k, r) else node fuel true false k r
      let (xs, k, r) ← looseItems fuel k r
      return (x :: xs, k, r)
    | ts => some ([], k, ts)

def blockItems : (fuel : Nat) → Composer (List Node)
  | 0, _, _ => none
  | fuel + 1, k, ts =>
    match ts with
    | .blockEnd :: r => some ([], k, r)
    | .blockEntry :: r => do
      let (x, k, r) ← if endsEntry r then some (Node.null, k, r) else node fuel true false k r
      let (xs, k, r) ← blockItems fuel k r
      return (x :: xs, k, r)
    | _ => none

/-- Keys and values in turn up to the end of a block. -/
def blockEntries : (fuel : Nat) → Composer (List Node)
  | 0, _, _ => none
  | fuel + 1, k, ts =>
    match ts with
    | .blockEnd :: r => some ([], k, r)
    | .key :: r => do
      let (x, k, r) ← if endsValue r then some (Node.null, k, r) else node fuel true true k r
      blockValue fuel x k r
    | .value :: _ => blockValue fuel .null k ts
    | _ => none

/-- The value of a key, and what follows it. -/
def blockValue : (fuel : Nat) → (key : Node) → Composer (List Node)
  | 0, _, _, _ => none
  | fuel + 1, key, k, ts => do
    let (x, k, r) ←
      match ts with
      | .value :: r => if endsValue r then some (Node.null, k, r) else node fuel true true k r
      | ts => some (Node.null, k, ts)
    let (xs, k, r) ← blockEntries fuel k r
    return (key :: x :: xs, k, r)

def flowItems : (fuel : Nat) → (first : Bool) → Composer (List Node)
  | 0, _, _, _ => none
  | fuel + 1, first, k, ts => do
    let ts ←
      match ts with
      | .flowEntry :: r => if first then some ts else some r
      | .flowSequenceEnd :: _ => some ts
      | ts => if first then some ts else none
    match ts with
    | .flowSequenceEnd :: r => return ([], k, r)
    | .key :: r =>
      let (x, k, r) ← flowPair fuel k r
      let (xs, k, r) ← flowItems fuel false k r
      return (x :: xs, k, r)
    | ts =>
      let (x, k, r) ← node fuel false false k ts
      let (xs, k, r) ← flowItems fuel false k r
      return (x :: xs, k, r)

/-- A mapping of one pair inside a flow sequence. -/
def flowPair : (fuel : Nat) → Composer Node
  | 0, _, _ => none
  | fuel + 1, k, ts => do
    let (x, k, r) ←
      match ts with
      | .value :: r => some (Node.null, k, r)
      | .flowEntry :: r => some (Node.null, k, r)
      | .flowSequenceEnd :: r => some (Node.null, k, r)
      | ts => node fuel false false k ts
    let (y, k, r) ←
      match r with
      | .value :: r => if endsFlowPair r then some (Node.null, k, r) else node fuel false false k r
      | r => some (Node.null, k, r)
    return (← Node.ofPairs? [x, y], k, r)

/-- Keys and values in turn up to the end of a flow mapping. -/
def flowEntries : (fuel : Nat) → (first : Bool) → Composer (List Node)
  | 0, _, _, _ => none
  | fuel + 1, first, k, ts => do
    let ts ←
      match ts with
      | .flowMappingEnd :: _ => some ts
      | .flowEntry :: r => if first then some ts else some r
      | ts => if first then some ts else none
    match ts with
    | .flowMappingEnd :: r => return ([], k, r)
    | .key :: r =>
      let (x, k, r) ←
        if endsFlowMapping r || r.head? == some .value then some (Node.null, k, r)
        else node fuel false false k r
      flowValue fuel x k r
    | .value :: _ => flowValue fuel .null k ts
    | ts =>
      let (x, k, r) ← node fuel false false k ts
      let (xs, k, r) ← flowEntries fuel false k r
      return (x :: .null :: xs, k, r)

def flowValue : (fuel : Nat) → (key : Node) → Composer (List Node)
  | 0, _, _, _ => none
  | fuel + 1, key, k, ts => do
    let (x, k, r) ←
      match ts with
      | .value :: r =>
        if endsFlowMapping r then some (Node.null, k, r) else node fuel false false k r
      | ts => some (Node.null, k, ts)
    let (xs, k, r) ← flowEntries fuel false k r
    return (key :: x :: xs, k, r)

end

end DocRoot.Settings.Yaml
