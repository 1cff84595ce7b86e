import DocRoot.Settings.Format.Yaml.Node

/-!
# Settings in indented blocks

The text is one document, or none, which is an empty table. Names of fields may be
texts or whole numbers; any other key makes the program stop.
-/

set_option autoImplicit false

namespace DocRoot.Settings.Yaml

/-- Why a text does not give settings. -/
inductive Failure
  | malformed
  /-- A key that is neither a text nor a whole number. -/
  | foreignKey
  deriving DecidableEq, Repr

mutual

def Node.data : Node → Except Failure Data
  | .null => .ok .nil
  | .bad => .ok .nil
  | .bool b => .ok (.bool b)
  | .int n => .ok (.int n)
  | .text s => .ok (.text s)
  | .real s =>
    match Binary64.ofText? s with
    | some x => .ok (.float x)
    | none => .error .malformed
  | .sequence items => (itemsData items).map .array
  | .mapping entries => (entriesData entries).map fun fs => .table (Data.keepLast fs)

def itemsData : List Node → Except Failure (List Data)
  | [] => .ok []
  | x :: r => do
    let d ← x.data
    return d :: (← itemsData r)

def entriesData : List (Node × Node) → Except Failure (List (String × Data))
  | [] => .ok []
  | (k, x) :: r => do
    let name ← match k with
      | .text s => .ok s
      | .int n => .ok (toString n)
      | _ => .error .foreignKey
    let d ← x.data
    return (name, d) :: (← entriesData r)

end

def skipDocumentEnds (ts : List Token) : List Token := ts.dropWhile (· == .documentEnd)

/-- The directives in front of a document: what they say of handles, of which each may be
said once. -/
def directives : (version : Bool) → (handles : List (String × String)) → List Token →
    Option (List (String × String) × List Token)
  | version, handles, .version :: r => if version then none else directives true handles r
  | version, handles, .tagDirective handle start :: r =>
    if handles.any (·.1 == handle) then none
    else directives version ((handle, start) :: handles) r
  | _, handles, ts => some (handles, ts)

def isDirective : Token → Bool
  | .version => true
  | .tagDirective _ _ => true
  | _ => false

/-- The node of a document that holds nothing. -/
def endsDocument : List Token → Bool
  | [] => true
  | t :: _ => isDirective t || t == .documentStart || t == .documentEnd

/-- The node of the only document, or none if there is no document. -/
def document (ts : List Token) : Option (Option Node) := do
  match skipDocumentEnds ts with
  | [] => return none
  | t :: r =>
    let fuel := 4 * ts.length + 4
    let (x, rest) ←
      if isDirective t || t == .documentStart then do
        let (handles, r) ← directives false [] (t :: r)
        let .documentStart :: r := r | none
        if endsDocument r then some (Node.null, r)
        else do
          let (x, _, r) ← node fuel true false ⟨handles, []⟩ r
          some (x, r)
      else do
        let (x, _, r) ← node fuel true false ⟨[], []⟩ (t :: r)
        some (x, r)
    if skipDocumentEnds rest = [] then return some x else none

def parse (text : String) : Except Failure Data :=
  match (tokens? text).bind document with
  | none => .error .malformed
  | some none => .ok (.table [])
  | some (some x) => x.data

end DocRoot.Settings.Yaml
