import Mathlib.Algebra.Group.Nat.Defs
import Mathlib.Data.List.Basic
import Mathlib.Data.Int.Notation

/-! Bytes on the wire: the base64 encoding with the URL alphabet and without padding, and the
big-endian fields of a data stream. A reader that runs out of bytes yields zero, or an empty
array, and leaves nothing. -/
namespace AlzheimerVPN.Wire

open List

/-- The sign for a six-bit value. -/
def base64Char (d : ℕ) : Char :=
  if d < 26 then Char.ofNat (65+d)
  else if d < 52 then Char.ofNat (71+d)
  else if d < 62 then Char.ofNat (d-4)
  else if d = 62 then '-' else '_'

/-- The value of a sign; other characters have none and are skipped. -/
def base64Value (c : Char) : Option ℕ :=
  let n := c.toNat
  if 65 ≤ n ∧ n ≤ 90 then some (n-65)
  else if 97 ≤ n ∧ n ≤ 122 then some (n-71)
  else if 48 ≤ n ∧ n ≤ 57 then some (n+4)
  else if n = 45 then some 62
  else if n = 95 then some 63
  else none

def toBase64 : List UInt8 → List Char
  | [] => []
  | [a] => [base64Char (a.toNat/4),base64Char (a.toNat%4*16)]
  | [a,b] => [base64Char (a.toNat/4),base64Char (a.toNat%4*16+b.toNat/16),
      base64Char (b.toNat%16*4)]
  | a::b::c::rest => base64Char (a.toNat/4)::base64Char (a.toNat%4*16+b.toNat/16)::
      base64Char (b.toNat%16*4+c.toNat/64)::base64Char (c.toNat%64)::toBase64 rest

/-- `bits` bits that make no whole byte yet are kept in `buffer`. -/
def fromBase64Bits (buffer bits : ℕ) : List Char → List UInt8
  | [] => []
  | c::cs =>
    match base64Value c with
    | none => fromBase64Bits buffer bits cs
    | some d =>
      if bits+6 < 8 then fromBase64Bits (buffer*64+d) (bits+6) cs
      else UInt8.ofNat ((buffer*64+d)/2^(bits-2))::
        fromBase64Bits ((buffer*64+d)%2^(bits-2)) (bits-2) cs

def fromBase64 (cs : List Char) : List UInt8 := fromBase64Bits 0 0 cs

lemma base64Value_base64Char {d : ℕ} (h : d < 64) : base64Value (base64Char d) = some d := by
  have hall : ((List.range 64).all fun d => base64Value (base64Char d) == some d) := by
    decide
  simpa using all_eq_true.mp hall d (mem_range.mpr h)

lemma fromBase64Bits_cons {d : ℕ} (h : d < 64) (buffer bits : ℕ) (cs : List Char) :
    fromBase64Bits buffer bits (base64Char d::cs) =
      if bits+6 < 8 then fromBase64Bits (buffer*64+d) (bits+6) cs
      else UInt8.ofNat ((buffer*64+d)/2^(bits-2))::
        fromBase64Bits ((buffer*64+d)%2^(bits-2)) (bits-2) cs := by
  simp only [fromBase64Bits,base64Value_base64Char h]

lemma ofNat_eq_of_toNat {n : ℕ} {a : UInt8} (h : n = a.toNat) : UInt8.ofNat n = a := by
  rw [h,UInt8.ofNat_toNat]

lemma fromBase64_toBase64 (bytes : List UInt8) : fromBase64 (toBase64 bytes) = bytes := by
  unfold fromBase64
  induction bytes using toBase64.induct with
  | case1 => rfl
  | case2 a =>
    have ha := a.toNat_lt
    rw [toBase64,fromBase64Bits_cons (by omega),if_pos (by omega),fromBase64Bits_cons (by omega),
      if_neg (by omega)]
    exact cons_eq_cons.mpr ⟨ofNat_eq_of_toNat (by omega),rfl⟩
  | case3 a b =>
    have ha := a.toNat_lt
    have hb := b.toNat_lt
    rw [toBase64,fromBase64Bits_cons (by omega),if_pos (by omega),fromBase64Bits_cons (by omega),
      if_neg (by omega),fromBase64Bits_cons (by omega),if_neg (by omega)]
    exact cons_eq_cons.mpr ⟨ofNat_eq_of_toNat (by omega),
      cons_eq_cons.mpr ⟨ofNat_eq_of_toNat (by omega),rfl⟩⟩
  | case4 a b c rest ih =>
    have ha := a.toNat_lt
    have hb := b.toNat_lt
    have hc := c.toNat_lt
    rw [toBase64,fromBase64Bits_cons (by omega),if_pos (by omega),fromBase64Bits_cons (by omega),
      if_neg (by omega),fromBase64Bits_cons (by omega),if_neg (by omega),
      fromBase64Bits_cons (by omega),if_neg (by omega)]
    have hrest : ∀ n : ℕ, fromBase64Bits (n%2^(0+6-2-2-2)) (0+6-2-2-2) (toBase64 rest) = rest := by
      intro n
      simpa [Nat.mod_one] using ih
    exact cons_eq_cons.mpr ⟨ofNat_eq_of_toNat (by omega),
      cons_eq_cons.mpr ⟨ofNat_eq_of_toNat (by omega),
        cons_eq_cons.mpr ⟨ofNat_eq_of_toNat (by omega),hrest _⟩⟩⟩

section

def writeUInt8 (n : ℕ) : List UInt8 := [UInt8.ofNat n]

def writeInt16 (n : ℕ) : List UInt8 := [UInt8.ofNat (n/256),UInt8.ofNat n]

def writeUInt32 (n : ℕ) : List UInt8 :=
  [UInt8.ofNat (n/16777216),UInt8.ofNat (n/65536),UInt8.ofNat (n/256),UInt8.ofNat n]

/-- An array that is not null: its length, then its bytes. -/
def writeBytes (bytes : List UInt8) : List UInt8 := writeUInt32 bytes.length++bytes

def readUInt8 : List UInt8 → ℕ × List UInt8
  | a::rest => (a.toNat,rest)
  | [] => (0,[])

def readInt16 : List UInt8 → ℤ × List UInt8
  | a::b::rest =>
    let n := a.toNat*256+b.toNat
    (if n < 32768 then (n : ℤ) else (n : ℤ)-65536,rest)
  | _ => (0,[])

def readUInt32 : List UInt8 → ℕ × List UInt8
  | a::b::c::d::rest => (a.toNat*16777216+b.toNat*65536+c.toNat*256+d.toNat,rest)
  | _ => (0,[])

/-- The length `2^32-1` stands for a null array. -/
def readBytes (s : List UInt8) : List UInt8 × List UInt8 :=
  let (length,rest) := readUInt32 s
  if length = 4294967295 then ([],rest)
  else if rest.length < length then ([],[])
  else (rest.take length,rest.drop length)

variable {n : ℕ}

@[simp] lemma toNat_ofNat_of_lt (h : n < 256) : (UInt8.ofNat n).toNat = n := by
  rw [UInt8.toNat_ofNat']
  omega

lemma readUInt8_write (h : n < 256) (rest : List UInt8) :
    readUInt8 (writeUInt8 n++rest) = (n,rest) := by
  simp only [writeUInt8,cons_append,nil_append,readUInt8,toNat_ofNat_of_lt h]

lemma readInt16_write (h : n < 32768) (rest : List UInt8) :
    readInt16 (writeInt16 n++rest) = ((n : ℤ),rest) := by
  have hn : n/256%2^8*256+n%2^8 = n := by omega
  simp only [writeInt16,cons_append,nil_append,readInt16,UInt8.toNat_ofNat',hn,h,if_true]

lemma readUInt32_write (h : n < 4294967296) (rest : List UInt8) :
    readUInt32 (writeUInt32 n++rest) = (n,rest) := by
  have hn : n/16777216%2^8*16777216+n/65536%2^8*65536+n/256%2^8*256+n%2^8 = n := by omega
  simp only [writeUInt32,cons_append,nil_append,readUInt32,UInt8.toNat_ofNat',hn]

lemma readBytes_write {bytes : List UInt8} (h : bytes.length < 4294967295) :
    readBytes (writeBytes bytes) = (bytes,[]) := by
  have hne : bytes.length ≠ 4294967295 := by omega
  simp [readBytes,writeBytes,readUInt32_write (by omega : bytes.length < 4294967296),hne]

end

end AlzheimerVPN.Wire
