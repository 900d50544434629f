import AlzheimerVPN.Address
import AlzheimerVPN.Blocks

/-! The Android client's address ranges: the bounds of a network, joining and
cutting ranges, and the networks that make up a range. An address of either
family is a bit vector for the source's byte array; the text of an address that
`subnets` prints is read back as that address. -/
namespace AlzheimerVPN
namespace Address

open Blocks

def maxMask : Address → ℕ
  | .v4 _ => 32
  | .v6 _ => 128

/-- The order of `compareTo`: the shorter address first, then the bytes. -/
def number : Address → ℕ
  | .v4 a => a.toNat
  | .v6 a => 2^32+a.toNat

/-- A change of the bytes that keeps the family. -/
def mapBits (f : (w : ℕ) → BitVec w → BitVec w) : Address → Address
  | .v4 a => .v4 (f 32 a)
  | .v6 a => .v6 (f 128 a)

def inc : Address → Address := mapBits fun _ a => a+1

def dec : Address → Address := mapBits fun _ a => a-1

def isMinIp : Address → Bool
  | .v4 a => a == 0
  | .v6 a => a == 0

def isMaxIp : Address → Bool
  | .v4 a => a == BitVec.allOnes 32
  | .v6 a => a == BitVec.allOnes 128

def getPossibleMaxMask : Address → ℕ
  | .v4 a => 32-trailingZeros 32 a.toNat
  | .v6 a => 128-trailingZeros 128 a.toNat

/-- The address with all bits after the mask set. -/
def getLastIpForMask (a : Address) (mask : ℕ) : Address :=
  a.mapBits fun w b => b ||| lowBits w mask

variable {a b : Address}

@[simp] lemma isV6_mapBits (f : (w : ℕ) → BitVec w → BitVec w) (a : Address) :
    (a.mapBits f).isV6 = a.isV6 := by
  cases a <;> rfl

/-- The IPv4 addresses come before the IPv6 addresses. -/
lemma isV6_iff (a : Address) : a.isV6 ↔ 2^32 ≤ a.number := by
  cases a with
  | v4 a => simp [isV6,number,a.isLt]
  | v6 a => simp [isV6,number]

lemma number_injective : Function.Injective number := by
  rintro (a | a) (b | b) h
  · exact congrArg v4 (BitVec.eq_of_toNat_eq h)
  · exact absurd a.isLt (by simp only [number] at h; omega)
  · exact absurd b.isLt (by simp only [number] at h; omega)
  · exact congrArg v6 (BitVec.eq_of_toNat_eq (Nat.add_left_cancel h))

lemma number_inc (h : a.isMaxIp = false) : a.inc.number = a.number+1 := by
  cases a with
  | v4 a => exact toNat_add_one (by simpa [isMaxIp] using h)
  | v6 a =>
    have hsucc : (a+1).toNat = a.toNat+1 := toNat_add_one (by simpa [isMaxIp] using h)
    simp only [inc,mapBits,number,hsucc]
    omega

lemma number_dec (h : a.isMinIp = false) : a.dec.number+1 = a.number := by
  cases a with
  | v4 a => exact toNat_sub_one (by simpa [isMinIp] using h)
  | v6 a =>
    have hpred : (a-1).toNat+1 = a.toNat := toNat_sub_one (by simpa [isMinIp] using h)
    simp only [dec,mapBits,number]
    omega

/-- Only the last address of a family has none after it in the family. -/
lemma isMaxIp_of_lt (hab : a.number < b.number) (hfamily : a.isV6 = b.isV6) :
    a.isMaxIp = false := by
  have hlast {w : ℕ} {a b : BitVec w} (h : a.toNat < b.toNat) : (a == BitVec.allOnes w) = false := by
    refine beq_eq_false_iff_ne.mpr ?_
    rintro rfl
    rw [BitVec.toNat_allOnes] at h
    have := b.isLt
    omega
  cases a with
  | v4 a => cases b with
    | v4 b => exact hlast hab
    | v6 b => cases hfamily
  | v6 a => cases b with
    | v4 b => cases hfamily
    | v6 b => exact hlast (Nat.lt_of_add_lt_add_left hab)

lemma isMinIp_of_lt (hab : b.number < a.number) (hfamily : b.isV6 = a.isV6) :
    a.isMinIp = false := by
  cases a with
  | v4 a =>
    refine beq_eq_false_iff_ne.mpr ?_
    rintro rfl
    simp [number] at hab
  | v6 a =>
    cases b with
    | v4 b => simp [isV6] at hfamily
    | v6 b =>
      refine beq_eq_false_iff_ne.mpr ?_
      rintro rfl
      have hzero : (0 : BitVec 128).toNat = 0 := rfl
      simp only [number,hzero] at hab
      omega

end Address

namespace Android

open Blocks

structure InetNetwork where
  address : Address
  mask : ℕ
  deriving DecidableEq, Repr

namespace InetNetwork

/-- The network of one address. -/
def ofAddress (a : Address) : InetNetwork := ⟨a,a.maxMask⟩

/-- The addresses of a network: those of its family with its leading bits. -/
def contains (n : InetNetwork) (a : Address) : Bool :=
  match n.address,a with
  | .v4 b,.v4 x => AddressRange.contains ⟨b,n.mask⟩ x
  | .v6 b,.v6 x => AddressRange.contains ⟨b,n.mask⟩ x
  | _,_ => false

end InetNetwork

/-- The checks of the constructor are the fields' statements. -/
structure IpRange where
  start : Address
  last : Address
  sameFamily : start.isV6 = last.isV6
  ordered : start.number ≤ last.number
  deriving DecidableEq

namespace IpRange

def Covers (r : IpRange) (a : Address) : Prop :=
  r.start.number ≤ a.number ∧ a.number ≤ r.last.number

instance (r : IpRange) (a : Address) : Decidable (r.Covers a) := inferInstanceAs (Decidable (_ ∧ _))

/-- `from`: the network's address with the bits after the mask cleared and set. -/
def ofNetwork (n : InetNetwork) : IpRange where
  start := n.address.mapBits fun w b => b &&& ~~~lowBits w n.mask
  last := n.address.getLastIpForMask n.mask
  sameFamily := by simp [Address.getLastIpForMask]
  ordered := by
    cases n.address <;> simp only [Address.mapBits,Address.getLastIpForMask,Address.number,
      toNat_or_lowBits,toNat_and_not_lowBits] <;> omega

def isIntersect (r other : IpRange) : Prop :=
  r.start.number ≤ other.last.number ∧ other.start.number ≤ r.last.number

instance (r other : IpRange) : Decidable (r.isIntersect other) := by
  unfold isIntersect
  infer_instance

/-- Two ranges that meet are of one family. -/
lemma family_of_isIntersect {r other : IpRange} (h : r.isIntersect other) :
    r.start.isV6 = other.start.isV6 := by
  have hr := r.sameFamily
  have ho := other.sameFamily
  rw [Bool.eq_iff_iff,Address.isV6_iff,Address.isV6_iff] at *
  have hr' := r.ordered
  have ho' := other.ordered
  obtain ⟨h1,h2⟩ := h
  omega

def minOf (a b : Address) : Address := if a.number ≤ b.number then a else b

def maxOf (a b : Address) : Address := if a.number ≤ b.number then b else a

lemma number_minOf (a b : Address) : (minOf a b).number = min a.number b.number := by
  unfold minOf
  split <;> omega

lemma number_maxOf (a b : Address) : (maxOf a b).number = max a.number b.number := by
  unfold maxOf
  split <;> omega

/-- The join of two ranges that meet or are next to each other. -/
def plus (r other : IpRange) : Option IpRange :=
  if h : other.last.number < r.start.number ∧ r.start.isMinIp = false ∧
      r.start.dec = other.last then
    some ⟨other.start,r.last,by
      rw [other.sameFamily,← h.2.2,Address.dec,Address.isV6_mapBits,r.sameFamily],by
      have := r.ordered
      have := other.ordered
      omega⟩
  else if h : r.last.number < other.start.number ∧ r.last.isMaxIp = false ∧
      r.last.inc = other.start then
    some ⟨r.start,other.last,by
      rw [← other.sameFamily,← h.2.2,Address.inc,Address.isV6_mapBits,r.sameFamily],by
      have := r.ordered
      have := other.ordered
      omega⟩
  else if h : r.isIntersect other then
    some ⟨minOf r.start other.start,maxOf r.last other.last,by
      have hfamily := family_of_isIntersect h
      have hr := r.sameFamily
      have ho := other.sameFamily
      unfold minOf maxOf
      split <;> split <;> simp_all,by
      have := r.ordered
      rw [number_minOf,number_maxOf]
      omega⟩
  else none

/-- What is left of a range without another; `none` when they do not meet. -/
def minus (r other : IpRange) : Option (List IpRange) :=
  if other.start.number ≤ r.start.number ∧ r.last.number ≤ other.last.number then some []
  else if h : r.isIntersect other then
    some ((if hs : r.start.number < other.start.number then
        [⟨r.start,other.start.dec,by
          rw [Address.dec,Address.isV6_mapBits,family_of_isIntersect h],by
          have := Address.number_dec (Address.isMinIp_of_lt hs (family_of_isIntersect h))
          omega⟩]
      else []) ++
      if he : other.last.number < r.last.number then
        [⟨other.last.inc,r.last,by
          rw [Address.inc,Address.isV6_mapBits,← other.sameFamily,← family_of_isIntersect h,
            r.sameFamily],by
          have := Address.number_inc (Address.isMaxIp_of_lt he (by
            rw [← other.sameFamily,← family_of_isIntersect h,r.sameFamily]))
          omega⟩]
      else [])
  else none

/-- The inner loop of `subnets`, on the bits after the mask: the mask grows until
its last address is in the range. -/
def fitMask (currentIp last : Address) : ℕ → ℕ
  | 0 => currentIp.maxMask
  | k+1 =>
    if last.number < (currentIp.getLastIpForMask (currentIp.maxMask-(k+1))).number then
      fitMask currentIp last k
    else currentIp.maxMask-(k+1)

/-- The outer loop of `subnets`. The source's loop needs no bound; a round moves
`currentIp` on, so the number of addresses left bounds the rounds. -/
def subnetsFrom : ℕ → Address → Address → List InetNetwork
  | 0,_,_ => []
  | fuel+1,currentIp,last =>
    if currentIp.number ≤ last.number then
      let mask := fitMask currentIp last (currentIp.maxMask-currentIp.getPossibleMaxMask)
      let lastIp := currentIp.getLastIpForMask mask
      ⟨currentIp,mask⟩::if lastIp.isMaxIp then [] else subnetsFrom fuel lastIp.inc last
    else []

def subnets (r : IpRange) : List InetNetwork :=
  subnetsFrom (r.last.number-r.start.number+1) r.start r.last

section

variable {r other joined : IpRange} {a : Address}

/-- Two ranges that are joined meet or are next to each other. -/
lemma plus_eq_some (h : r.plus other = some joined) :
    joined.start.number = min r.start.number other.start.number ∧
      joined.last.number = max r.last.number other.last.number ∧
      r.start.number ≤ other.last.number+1 ∧ other.start.number ≤ r.last.number+1 := by
  have hr := r.ordered
  have ho := other.ordered
  unfold plus at h
  split at h
  case isTrue hadj =>
    have hdec := Address.number_dec hadj.2.1
    rw [hadj.2.2] at hdec
    cases h
    dsimp only
    omega
  case isFalse =>
    split at h
    case isTrue hadj =>
      have hinc := Address.number_inc hadj.2.1
      rw [hadj.2.2] at hinc
      cases h
      dsimp only
      omega
    case isFalse =>
      split at h
      case isTrue hmeet =>
        cases h
        obtain ⟨h1,h2⟩ := hmeet
        exact ⟨number_minOf _ _,number_maxOf _ _,by omega,by omega⟩
      case isFalse => cases h

lemma covers_plus (h : r.plus other = some joined) :
    joined.Covers a ↔ r.Covers a ∨ other.Covers a := by
  obtain ⟨hstart,hlast,h1,h2⟩ := plus_eq_some h
  have hr := r.ordered
  have ho := other.ordered
  simp only [Covers,hstart,hlast]
  omega

/-- The first range ends before the other one, and is not next to it. -/
def Separate (r q : IpRange) : Prop :=
  r.last.number < q.start.number ∧ (r.last.isV6 = q.start.isV6 → r.last.number+1 ≠ q.start.number)

def Apart (r q : IpRange) : Prop := r.Separate q ∨ q.Separate r

lemma separate_iff : r.Separate other ↔ r.last.number+1 < other.start.number ∨
    r.last.number < 2^32 ∧ 2^32 ≤ other.start.number := by
  rw [Separate,Bool.eq_iff_iff,Address.isV6_iff,Address.isV6_iff]
  omega

/-- Two ranges that are not joined are apart. -/
lemma apart_of_plus_eq_none (h : r.plus other = none) : r.Apart other := by
  unfold plus at h
  split_ifs at h with hbefore hafter hmeet
  rw [isIntersect,not_and_or,not_le,not_le] at hmeet
  rcases hmeet with hlt | hlt
  · refine .inr ⟨hlt,fun hfamily hnext => ?_⟩
    have hmin := Address.isMinIp_of_lt hlt hfamily
    have hdec := Address.number_dec hmin
    exact hbefore ⟨hlt,hmin,Address.number_injective (by omega)⟩
  · refine .inl ⟨hlt,fun hfamily hnext => ?_⟩
    have hmax := Address.isMaxIp_of_lt hlt hfamily
    have hinc := Address.number_inc hmax
    exact hafter ⟨hlt,hmax,Address.number_injective (by omega)⟩

/-- What is apart from two ranges is apart from their join. -/
lemma Apart.plus {q : IpRange} (hr : q.Apart r) (ho : q.Apart other)
    (h : r.plus other = some joined) : q.Apart joined := by
  obtain ⟨hstart,hlast,h1,h2⟩ := plus_eq_some h
  have hq := q.ordered
  simp only [Apart,separate_iff] at *
  omega

/-- What is apart from a range is apart from a part of it. -/
lemma Apart.part {q : IpRange} (h : q.Apart r)
    (hpart : r.start.number ≤ other.start.number ∧ other.last.number ≤ r.last.number) :
    q.Apart other := by
  simp only [Apart,separate_iff] at *
  omega

/-- The pieces of a range lie before and behind what is taken out. -/
lemma minus_eq_some {pieces : List IpRange} (h : r.minus other = some pieces) :
    pieces.Pairwise Separate ∧ ∀ a, (∃ q ∈ pieces, q.Covers a) ↔ r.Covers a ∧ ¬other.Covers a := by
  unfold minus at h
  split at h
  case isTrue hin =>
    cases h
    have hcovers (a : Address) : r.Covers a → other.Covers a := by
      simp only [Covers]
      omega
    exact ⟨.nil,fun a => by simpa using hcovers a⟩
  case isFalse hin =>
    split at h
    case isFalse => cases h
    case isTrue hmeet =>
      have hfamily := family_of_isIntersect hmeet
      have hfamily' : other.last.isV6 = r.last.isV6 := by
        rw [← other.sameFamily,← hfamily,r.sameFamily]
      have ho := other.ordered
      obtain ⟨h1,h2⟩ := hmeet
      cases h
      split
      case isTrue hs =>
        have hdec := Address.number_dec (Address.isMinIp_of_lt hs hfamily)
        split
        case isTrue he =>
          have hinc := Address.number_inc (Address.isMaxIp_of_lt he hfamily')
          simp only [List.cons_append,List.nil_append,List.pairwise_pair,Separate,List.mem_cons,
            List.not_mem_nil,or_false,exists_eq_or_imp,exists_eq_left,Covers]
          exact ⟨by omega,fun a => by omega⟩
        case isFalse =>
          refine ⟨by simp,fun a => ?_⟩
          simp only [List.append_nil,List.mem_singleton,exists_eq_left,Covers]
          omega
      case isFalse =>
        split
        case isTrue he =>
          have hinc := Address.number_inc (Address.isMaxIp_of_lt he hfamily')
          refine ⟨by simp,fun a => ?_⟩
          simp only [List.nil_append,List.mem_singleton,exists_eq_left,Covers]
          omega
        case isFalse => omega

lemma part_of_minus {pieces : List IpRange} (h : r.minus other = some pieces) :
    ∀ p ∈ pieces, r.start.number ≤ p.start.number ∧ p.last.number ≤ r.last.number := by
  have hcovers := (minus_eq_some h).2
  exact fun p hp => ⟨((hcovers _).mp ⟨p,hp,le_rfl,p.ordered⟩).1.1,
    ((hcovers _).mp ⟨p,hp,p.ordered,le_rfl⟩).1.2⟩

/-- `minus` asks for an address before the first one or behind the last one of a family. -/
def Overflows (r other : IpRange) : Prop :=
  r.isIntersect other ∧ (r.start.number < other.start.number ∧ other.start.isMinIp ∨
    other.last.number < r.last.number ∧ other.last.isMaxIp)

lemma not_overflows (r other : IpRange) : ¬r.Overflows other := by
  rintro ⟨hmeet,⟨hs,hmin⟩ | ⟨he,hmax⟩⟩
  · rw [Address.isMinIp_of_lt hs (family_of_isIntersect hmeet)] at hmin
    cases hmin
  · have hfamily : other.last.isV6 = r.last.isV6 := by
      rw [← other.sameFamily,← family_of_isIntersect hmeet,r.sameFamily]
    rw [Address.isMaxIp_of_lt he hfamily] at hmax
    cases hmax

lemma not_covers_of_minus_eq_none (h : r.minus other = none) (hr : r.Covers a) :
    ¬other.Covers a := by
  unfold minus at h
  split at h
  case isTrue => cases h
  case isFalse =>
    split at h
    case isTrue => cases h
    case isFalse hmeet =>
      simp only [isIntersect,Covers] at *
      omega

end

section

/-- The bits of an address as a number. -/
def value : Address → ℕ
  | .v4 a => a.toNat
  | .v6 a => a.toNat

variable {a currentIp last : Address} {k : ℕ}

lemma contains_iff (n : InetNetwork) (a : Address) : n.contains a ↔ (ofNetwork n).Covers a := by
  obtain ⟨base,mask⟩ := n
  cases base with
  | v4 b =>
    cases a with
    | v4 x =>
      simp only [InetNetwork.contains,AddressRange.contains,beq_iff_eq]
      exact ushiftRight_eq_iff b mask x
    | v6 x =>
      have hlt := (b ||| lowBits 32 mask).isLt
      simp only [InetNetwork.contains,Covers,ofNetwork,Address.getLastIpForMask,Address.mapBits,
        Address.number,Bool.false_eq_true,false_iff]
      omega
  | v6 b =>
    cases a with
    | v4 x =>
      have hlt := x.isLt
      simp only [InetNetwork.contains,Covers,ofNetwork,Address.getLastIpForMask,Address.mapBits,
        Address.number,Bool.false_eq_true,false_iff]
      omega
    | v6 x =>
      simp only [InetNetwork.contains,AddressRange.contains,beq_iff_eq,Covers,ofNetwork,
        Address.getLastIpForMask,Address.mapBits,Address.number]
      rw [ushiftRight_eq_iff b mask x]
      omega

/-- An address whose last bits are clear begins its network. -/
lemma number_of_aligned (hk : k ≤ currentIp.maxMask) (hdvd : 2^k ∣ value currentIp) :
    (ofNetwork ⟨currentIp,currentIp.maxMask-k⟩).start.number = currentIp.number ∧
      (currentIp.getLastIpForMask (currentIp.maxMask-k)).number = currentIp.number+(2^k-1) := by
  cases currentIp with
  | v4 b =>
    have hbits : 32-(32-k) = k := Nat.sub_sub_self hk
    obtain ⟨hstart,hlast⟩ := @toNat_of_aligned 32 b (32-k) (by rw [hbits]; exact hdvd)
    rw [hbits] at hlast
    exact ⟨hstart,hlast⟩
  | v6 b =>
    have hbits : 128-(128-k) = k := Nat.sub_sub_self hk
    obtain ⟨hstart,hlast⟩ := @toNat_of_aligned 128 b (128-k) (by rw [hbits]; exact hdvd)
    rw [hbits] at hlast
    refine ⟨congrArg (2^32+·) hstart,?_⟩
    simp only [Address.getLastIpForMask,Address.mapBits,Address.number,Address.maxMask,hlast]
    omega

lemma aligned_getPossibleMaxMask (currentIp : Address) :
    currentIp.maxMask-currentIp.getPossibleMaxMask ≤ currentIp.maxMask ∧
      2^(currentIp.maxMask-currentIp.getPossibleMaxMask) ∣ value currentIp := by
  cases currentIp with
  | v4 b =>
    have hbits : 32-(32-trailingZeros 32 b.toNat) = trailingZeros 32 b.toNat :=
      Nat.sub_sub_self (trailingZeros_le 32 b.toNat)
    simp only [Address.maxMask,Address.getPossibleMaxMask,hbits,value]
    exact ⟨trailingZeros_le 32 b.toNat,two_pow_trailingZeros_dvd 32 b.toNat⟩
  | v6 b =>
    have hbits : 128-(128-trailingZeros 128 b.toNat) = trailingZeros 128 b.toNat :=
      Nat.sub_sub_self (trailingZeros_le 128 b.toNat)
    simp only [Address.maxMask,Address.getPossibleMaxMask,hbits,value]
    exact ⟨trailingZeros_le 128 b.toNat,two_pow_trailingZeros_dvd 128 b.toNat⟩

/-- The mask that fits is that of a block from the address on, inside the range. -/
lemma fitMask_spec (hk : k ≤ currentIp.maxMask) (hdvd : 2^k ∣ value currentIp)
    (hle : currentIp.number ≤ last.number) :
    ∃ j, j ≤ currentIp.maxMask ∧ 2^j ∣ value currentIp ∧
      fitMask currentIp last k = currentIp.maxMask-j ∧ currentIp.number+(2^j-1) ≤ last.number := by
  induction k with
  | zero => exact ⟨0,hk,hdvd,rfl,by simpa using hle⟩
  | succ k ih =>
    have hlast := (number_of_aligned hk hdvd).2
    unfold fitMask
    split
    case isTrue =>
      exact ih (by omega) (dvd_trans (Nat.pow_dvd_pow 2 (Nat.le_succ k)) hdvd)
    case isFalse hfits => exact ⟨k+1,hk,hdvd,rfl,by omega⟩

/-- The networks are exactly the range, for enough rounds. -/
lemma contains_subnetsFrom (fuel : ℕ) (hfamily : currentIp.isV6 = last.isV6)
    (hfuel : last.number < currentIp.number+fuel) :
    (∃ n ∈ subnetsFrom fuel currentIp last, n.contains a) ↔
      currentIp.number ≤ a.number ∧ a.number ≤ last.number := by
  induction fuel generalizing currentIp with
  | zero =>
    simp only [subnetsFrom,List.not_mem_nil,false_and,exists_false,false_iff]
    omega
  | succ fuel ih =>
    unfold subnetsFrom
    split
    case isFalse hgt =>
      simp only [List.not_mem_nil,false_and,exists_false,false_iff]
      omega
    case isTrue hle =>
      obtain ⟨hk,hdvd⟩ := aligned_getPossibleMaxMask currentIp
      obtain ⟨j,hj,hjdvd,hmask,hin⟩ := fitMask_spec hk hdvd hle
      obtain ⟨hstart,hlast⟩ := number_of_aligned hj hjdvd
      have hpos : 0 < 2^j := Nat.two_pow_pos j
      have hfirst : InetNetwork.contains ⟨currentIp,currentIp.maxMask-j⟩ a ↔
          currentIp.number ≤ a.number ∧ a.number ≤ currentIp.number+(2^j-1) := by
        rw [contains_iff,Covers,hstart,← hlast]
        rfl
      simp only [hmask,List.mem_cons,exists_eq_or_imp,hfirst]
      have hsame : (currentIp.getLastIpForMask (currentIp.maxMask-j)).isV6 = last.isV6 := by
        rw [Address.getLastIpForMask,Address.isV6_mapBits,hfamily]
      split
      case isTrue hmax =>
        -- the last address of the family ends the range
        have hend : currentIp.number+(2^j-1) = last.number := by
          by_contra hne
          have hlt : (currentIp.getLastIpForMask (currentIp.maxMask-j)).number < last.number := by
            omega
          rw [Address.isMaxIp_of_lt hlt hsame] at hmax
          exact absurd hmax (by simp)
        simp only [List.not_mem_nil,false_and,exists_false,or_false]
        omega
      case isFalse hmax =>
        have hinc := Address.number_inc (by simpa using hmax)
        rw [ih (by rw [Address.inc,Address.isV6_mapBits,hsame]) (by omega)]
        omega

lemma contains_subnets (r : IpRange) (a : Address) :
    (∃ n ∈ r.subnets, n.contains a) ↔ r.Covers a := by
  have hle := r.ordered
  exact contains_subnetsFrom _ r.sameFamily (by omega)

end

end IpRange
end Android
end AlzheimerVPN
