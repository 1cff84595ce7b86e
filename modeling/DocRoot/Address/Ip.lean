/-!
# Internet addresses

An address is four octets or eight groups. The text of the eight groups leaves out
the longest run of two or more zero groups, the first of them if several are as long.
-/

set_option autoImplicit false

namespace DocRoot

inductive Ip
  | v4 (octets : Vector UInt8 4)
  | v6 (groups : Vector UInt16 8)
  deriving DecidableEq, Repr

namespace Ip

def isV6 : Ip → Bool
  | v4 _ => false
  | v6 _ => true

/-- The digits of a number, without leading zeros. -/
def hex (n : Nat) : String := String.ofList (Nat.toDigits 16 n)

def octetsText (os : List UInt8) : String := ".".intercalate (os.map fun o => toString o.toNat)

/-- The length of the run of zero groups at the front. -/
def zeros (gs : List UInt16) : Nat := (gs.takeWhile (· == 0)).length

/-- Where the longest run of zero groups begins and how long it is. -/
def longestRun : Nat → List UInt16 → Nat × Nat
  | _, [] => (0, 0)
  | i, g :: gs =>
    let later := longestRun (i + 1) gs
    if zeros (g :: gs) < later.2 then later else (i, zeros (g :: gs))

def groupsText (gs : List UInt16) : String := ":".intercalate (gs.map fun g => hex g.toNat)

def text : Ip → String
  | v4 octets => octetsText octets.toList
  | v6 groups =>
    match groups.toList with
    | [0, 0, 0, 0, 0, 0xFFFF, h, l] =>
      "::ffff:" ++ octetsText
        [(h / 256).toUInt8, (h % 256).toUInt8, (l / 256).toUInt8, (l % 256).toUInt8]
    | gs =>
      let run := longestRun 0 gs
      if 1 < run.2 then
        groupsText (gs.take run.1) ++ "::" ++ groupsText (gs.drop (run.1 + run.2))
      else groupsText gs

end Ip

end DocRoot
