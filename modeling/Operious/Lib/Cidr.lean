-- Blocks of addresses: the addresses that share their first bits with a base. Two blocks are nested or
-- apart.
import Mathlib.Tactic.Common

namespace cidr

/-- The addresses of `w` bits whose first `prefixlen` bits are those of `base`. -/
structure Block (w : Nat) where
  base : BitVec w
  prefixlen : Nat
  deriving DecidableEq, Repr

variable {w : Nat}

def Block.contains (b : Block w) (a : BitVec w) : Bool :=
  a >>> (w - b.prefixlen) = b.base >>> (w - b.prefixlen)

theorem Block.contains_iff (b : Block w) (a : BitVec w) :
    b.contains a = true ↔ a >>> (w - b.prefixlen) = b.base >>> (w - b.prefixlen) := decide_eq_true_iff

/-- A block holds all of a longer one or none of it, as its base tells. -/
theorem Block.contains_eq_base {b inner : Block w} (h : b.prefixlen ≤ inner.prefixlen) {a : BitVec w}
    (ha : inner.contains a = true) : b.contains a = b.contains inner.base := by
  rw [Block.contains_iff] at ha
  have hsplit : w - b.prefixlen =
      (w - inner.prefixlen) + ((w - b.prefixlen) - (w - inner.prefixlen)) := by omega
  have hshift : a >>> (w - b.prefixlen) = inner.base >>> (w - b.prefixlen) := by
    rw [hsplit, BitVec.shiftRight_add, ha, ← BitVec.shiftRight_add]
  rw [Block.contains, Block.contains, hshift]

/-- A block that holds the base of a longer one holds all of it. -/
theorem Block.contains_of_inner {b inner : Block w} (h : b.prefixlen ≤ inner.prefixlen)
    (hbase : b.contains inner.base = true) {a : BitVec w} (ha : inner.contains a = true) :
    b.contains a = true := (Block.contains_eq_base h ha).trans hbase

/-- Blocks whose bases are in neither have no address in common. -/
theorem Block.disjoint {b c : Block w} (hb : b.contains c.base = false) (hc : c.contains b.base = false)
    {a : BitVec w} (ha : c.contains a = true) : b.contains a = false := by
  rcases Nat.le_total b.prefixlen c.prefixlen with h | h
  · exact (Block.contains_eq_base h ha).trans hb
  · cases hba : b.contains a with
    | false => rfl
    | true =>
      rw [Block.contains_eq_base h hba, hc] at ha
      cases ha

end cidr
