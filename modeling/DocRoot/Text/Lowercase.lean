import DocRoot.Text.CaseTable

/-!
# Lowercase

Each character is mapped on its own, but a capital sigma at the end of a word takes
its final form: a letter stands before it and none after it, marks between them left
aside.
-/

set_option autoImplicit false

namespace DocRoot.Text

def inRanges (ranges : List (Nat × Nat)) (c : Char) : Bool :=
  ranges.any fun r => r.1 ≤ c.toNat && c.toNat ≤ r.2

def isCased (c : Char) : Bool := inRanges casedRanges c
def isCaseIgnorable (c : Char) : Bool := inRanges caseIgnorableRanges c

def lowercaseChar (c : Char) : List Char :=
  let n := c.toNat
  if n < 0x80 then [c.toLower]
  else if n = 0x130 then ['i', Char.ofNat 0x307]
  else
    match lowercaseRuns.find? fun r => r.1 ≤ n && n ≤ r.2.1 && (n - r.1) % r.2.2.1 == 0 with
    | some r => [Char.ofNat (Int.ofNat n + r.2.2.2).toNat]
    | none => [c]

/-- Whether the nearest character that counts is a letter with case. -/
def letterNear (cs : List Char) : Bool :=
  match cs.dropWhile isCaseIgnorable with
  | c :: _ => isCased c
  | [] => false

/-- Lowercase of `cs`, which stands after `before`, given last character first. -/
def lowercaseFrom : (before : List Char) → List Char → List Char
  | _, [] => []
  | before, c :: cs =>
    if c = 'Σ' then
      (if letterNear before && !letterNear cs then 'ς' else 'σ') :: lowercaseFrom (c :: before) cs
    else lowercaseChar c ++ lowercaseFrom (c :: before) cs

def lowercase (s : String) : String := String.ofList (lowercaseFrom [] s.toList)

end DocRoot.Text
