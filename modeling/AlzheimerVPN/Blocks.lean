import Mathlib.Data.BitVec
import Mathlib.Data.Nat.Bitwise

/-! Blocks of bit vectors: the vectors that agree with a given one in their
leading bits lie between the vector with its low bits cleared and the vector with
its low bits set. -/
namespace AlzheimerVPN.Blocks

/-- The bits after the leading `mask` ones. -/
def lowBits (w mask : ℕ) : BitVec w := BitVec.ofNat w (2^(w-mask)-1)

lemma toNat_lowBits (w mask : ℕ) : (lowBits w mask).toNat = 2^(w-mask)-1 := by
  have hle : 2^(w-mask) ≤ 2^w := Nat.pow_le_pow_right (by omega) (Nat.sub_le w mask)
  have hpos : 0 < 2^(w-mask) := Nat.two_pow_pos _
  rw [lowBits,BitVec.toNat_ofNat,Nat.mod_eq_of_lt (by omega)]

lemma or_two_pow_sub_one_eq (n k : ℕ) : n ||| (2^k-1) = n/2^k*2^k+(2^k-1) := by
  have hlt : 2^k-1 < 2^k := Nat.sub_lt (Nat.two_pow_pos k) Nat.one_pos
  rw [Nat.mul_comm,Nat.two_pow_add_eq_or_of_lt hlt]
  refine Nat.eq_of_testBit_eq fun i => ?_
  simp only [Nat.testBit_or,Nat.testBit_two_pow_sub_one,Nat.testBit_two_pow_mul,
    Nat.testBit_div_two_pow]
  by_cases h : i < k
  · simp [h]
  · have hle : k ≤ i := by omega
    simp [h,hle]

section

variable {w : ℕ} (a : BitVec w) (mask : ℕ)

lemma toNat_or_lowBits :
    (a ||| lowBits w mask).toNat = a.toNat/2^(w-mask)*2^(w-mask)+(2^(w-mask)-1) := by
  rw [BitVec.toNat_or,toNat_lowBits,or_two_pow_sub_one_eq]

lemma toNat_and_not_lowBits :
    (a &&& ~~~lowBits w mask).toNat = a.toNat/2^(w-mask)*2^(w-mask) := by
  have hshift : a &&& ~~~lowBits w mask = (a >>> (w-mask)) <<< (w-mask) := by
    ext i hi
    have hlow : (lowBits w mask).getLsbD i = decide (i < w-mask) := by
      rw [← BitVec.testBit_toNat,toNat_lowBits,Nat.testBit_two_pow_sub_one]
    rw [← BitVec.getLsbD_eq_getElem hi,← BitVec.getLsbD_eq_getElem hi]
    simp only [BitVec.getLsbD_and,BitVec.getLsbD_not,hlow,BitVec.getLsbD_shiftLeft,
      BitVec.getLsbD_ushiftRight,hi]
    by_cases h : i < w-mask
    · simp [h]
    · have hback : w-mask+(i-(w-mask)) = i := by omega
      simp [h,hback]
  have hle : a.toNat/2^(w-mask)*2^(w-mask) ≤ a.toNat := Nat.div_mul_le_self _ _
  rw [hshift,BitVec.toNat_shiftLeft,BitVec.toNat_ushiftRight,Nat.shiftRight_eq_div_pow,
    Nat.shiftLeft_eq,Nat.mod_eq_of_lt (lt_of_le_of_lt hle a.isLt)]

/-- The vectors with the same leading bits are those of the block. -/
lemma ushiftRight_eq_iff (x : BitVec w) : a >>> (w-mask) = x >>> (w-mask) ↔
      (a &&& ~~~lowBits w mask).toNat ≤ x.toNat ∧ x.toNat ≤ (a ||| lowBits w mask).toNat := by
  have hpos : 0 < 2^(w-mask) := Nat.two_pow_pos _
  rw [toNat_or_lowBits,toNat_and_not_lowBits,← BitVec.toNat_inj,BitVec.toNat_ushiftRight,
    BitVec.toNat_ushiftRight,Nat.shiftRight_eq_div_pow,Nat.shiftRight_eq_div_pow]
  rw [eq_comm,Nat.div_eq_iff hpos]
  have hsucc : (a.toNat/2^(w-mask)+1)*2^(w-mask) = a.toNat/2^(w-mask)*2^(w-mask)+2^(w-mask) :=
    Nat.succ_mul _ _
  omega

variable {a mask}

/-- A vector whose low bits are clear begins its block. -/
lemma toNat_of_aligned (h : 2^(w-mask) ∣ a.toNat) : (a &&& ~~~lowBits w mask).toNat = a.toNat ∧
      (a ||| lowBits w mask).toNat = a.toNat+(2^(w-mask)-1) := by
  rw [toNat_or_lowBits,toNat_and_not_lowBits,Nat.div_mul_cancel h]
  exact ⟨rfl,rfl⟩

end

lemma toNat_add_one {w : ℕ} {a : BitVec w} (h : a ≠ BitVec.allOnes w) :
    (a+1).toNat = a.toNat+1 := by
  have hne : a.toNat ≠ 2^w-1 := by
    intro heq
    exact h (BitVec.eq_of_toNat_eq (by rw [heq,BitVec.toNat_allOnes]))
  have hlt := a.isLt
  cases w with
  | zero =>
    simp only [Nat.pow_zero] at hne hlt
    omega
  | succ w =>
    have hone : (1 : BitVec (w+1)).toNat = 1 := BitVec.toNat_one (Nat.succ_pos w)
    rw [BitVec.toNat_add,hone,Nat.mod_eq_of_lt (by omega)]

lemma toNat_sub_one {w : ℕ} {a : BitVec w} (h : a ≠ 0) : (a-1).toNat+1 = a.toNat := by
  have hne : a.toNat ≠ 0 := by
    intro heq
    exact h (BitVec.eq_of_toNat_eq (by simpa using heq))
  have hlt := a.isLt
  cases w with
  | zero =>
    simp only [Nat.pow_zero] at hlt
    omega
  | succ w =>
    have hone : (1 : BitVec (w+1)).toNat = 1 := BitVec.toNat_one (Nat.succ_pos w)
    rw [BitVec.toNat_sub_of_le (by rw [BitVec.le_def,hone]; omega),hone]
    omega

/-- The clear bits at the end of a `w`-bit number. -/
def trailingZeros : ℕ → ℕ → ℕ
  | 0,_ => 0
  | w+1,n => if n % 2 = 0 then trailingZeros w (n/2)+1 else 0

lemma trailingZeros_le (w n : ℕ) : trailingZeros w n ≤ w := by
  induction w generalizing n with
  | zero => exact Nat.le_refl 0
  | succ w ih =>
    unfold trailingZeros
    split
    · exact Nat.succ_le_succ (ih _)
    · omega

lemma two_pow_trailingZeros_dvd (w n : ℕ) : 2^trailingZeros w n ∣ n := by
  induction w generalizing n with
  | zero => simp [trailingZeros]
  | succ w ih =>
    unfold trailingZeros
    split
    case isTrue heven =>
      have hn : n = 2*(n/2) := by omega
      rw [Nat.pow_succ,Nat.mul_comm]
      conv => right; rw [hn]
      exact Nat.mul_dvd_mul_left 2 (ih _)
    case isFalse => simp

end AlzheimerVPN.Blocks
