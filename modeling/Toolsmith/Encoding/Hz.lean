/-
HZ: ASCII in which a tilde and a brace open and close a stretch of GB 2312.
-/
import Toolsmith.Encoding.Set.Gb2312

namespace Toolsmith.Hz

/-- The characters of octets, within a stretch of GB 2312 or outside. -/
def read : Bool → List UInt8 → List (Option Char)
  | _, [] => []
  | isWide, [o] =>
    if o.toNat == 0x7e || 0x80 ≤ o.toNat || isWide then [none]
    else [some (Char.ofNat o.toNat)]
  | isWide, o :: next :: rest =>
    let a := o.toNat
    let b := next.toNat
    if a == 0x7e then
      if b == 0x7e && !isWide then some '~' :: read false rest
      else if b == 0x7b && !isWide then read true rest
      else if b == 0x0a && !isWide then read false rest
      else if b == 0x7d && isWide then read false rest
      else none :: read isWide (next :: rest)
    else if 0x80 ≤ a then none :: read isWide (next :: rest)
    else if !isWide then
      some (Char.ofNat a) :: read false (next :: rest)
    else
      match CodeTable.gb2312.char? (a * 256 + b) with
      | some c => some c :: read true rest
      | none => none :: read true (next :: rest)

end Toolsmith.Hz
