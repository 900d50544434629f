import Mathlib.Data.BitVec
import AlzheimerVPN.Text

/-! Internet addresses, address ranges and their dotted texts. `rangeOfText` is
how the packet filter reads a table entry: an IPv4 address with an optional
prefix length. -/
namespace AlzheimerVPN

inductive Address
  | v4 (a : BitVec 32) | v6 (a : BitVec 128)
  deriving DecidableEq, Repr

def Address.isV6 : Address → Bool
  | .v4 _ => false
  | .v6 _ => true

structure AddressRange (w : ℕ) where
  base : BitVec w
  prefixLength : ℕ
  deriving DecidableEq, Repr

/-- Two addresses are in one range when their leading bits agree. -/
def AddressRange.contains {w : ℕ} (r : AddressRange w) (a : BitVec w) : Bool :=
  r.base >>> (w - r.prefixLength) == a >>> (w - r.prefixLength)

namespace Address

open Text

def ofOctets (a b c d : ℕ) : BitVec 32 := BitVec.ofNat 32 (((a*256+b)*256+c)*256+d)

/-- The dotted decimal text of an IPv4 address. -/
def dottedChars (a : BitVec 32) : List Char :=
  Nat.toDigits 10 (a.toNat / 16777216 % 256) ++ '.' ::
    (Nat.toDigits 10 (a.toNat / 65536 % 256) ++ '.' ::
      (Nat.toDigits 10 (a.toNat / 256 % 256) ++ '.'::Nat.toDigits 10 (a.toNat % 256)))

def dotted (a : BitVec 32) : String := String.ofList (dottedChars a)

/-- An integer text between zero and `top`. -/
def boundedOfText (top : ℕ) (t : String) : Option ℕ :=
  (toInt t).bind fun i => if 0 ≤ i ∧ i ≤ top then some i.toNat else none

def addressOfText (t : String) : Option (BitVec 32) :=
  match (split t '.').map (boundedOfText 255) with
  | [some a,some b,some c,some d] => some (ofOctets a b c d)
  | _ => none

def rangeOfText (t : String) : Option (AddressRange 32) :=
  match split t '/' with
  | [ip] => (addressOfText ip).map fun a => ⟨a,32⟩
  | [ip,len] => (addressOfText ip).bind fun a => (boundedOfText 32 len).map fun n => ⟨a,n⟩
  | _ => none

/-- Membership of an address in the range that a text describes. -/
def inText (t : String) : Address → Bool
  | .v4 a => (rangeOfText t).any fun r => r.contains a
  | .v6 _ => false

/-- Membership in a table of texts. -/
def inTable (items : List String) (a : Address) : Bool := items.any fun t => inText t a

lemma inTable_v4 {items : List String} {a : Address} (h : inTable items a) : a.isV6 = false := by
  obtain ⟨t,-,ht⟩ := List.any_eq_true.mp h
  cases a with
  | v4 a => rfl
  | v6 a => simp [inText] at ht

lemma inTable_iff (items : List String) (a : Address) :
    inTable items a ↔ ∃ t ∈ items, inText t a := by
  simp [inTable]

lemma inTable_mono {items items' : List String} {a : Address}
    (hsub : ∀ t ∈ items, t ∈ items') (h : inTable items a) : inTable items' a := by
  obtain ⟨t,ht,ha⟩ := (inTable_iff items a).mp h
  exact (inTable_iff items' a).mpr ⟨t,hsub t ht,ha⟩

end Address
end AlzheimerVPN
