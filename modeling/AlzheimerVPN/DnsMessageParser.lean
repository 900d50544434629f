import AlzheimerVPN.IpText

/-! `DnsMessageParser`: the name that a query asks for and the IPv4 addresses that a
response carries. A message is its bytes; names may be compressed by pointers. -/
namespace AlzheimerVPN

open List

abbrev Bytes := List UInt8

structure DnsIpv4Answer where
  address : String
  ttlSeconds : ℤ
  deriving DecidableEq, Repr

namespace DnsMessageParser

/-- A byte past the end is only asked for under a check of the size. -/
def readUint8 (message : Bytes) (offset : ℕ) : ℕ := (message.getD offset 0).toNat

def readUint16 (message : Bytes) (offset : ℕ) : UInt16 :=
  UInt16.ofNat (readUint8 message offset*256+readUint8 message (offset+1))

def readUint32 (message : Bytes) (offset : ℕ) : ℕ :=
  (readUint16 message offset).toNat*65536+(readUint16 message (offset+2)).toNat

def fromLatin1 (bytes : Bytes) : String := String.ofList (bytes.map fun b => Char.ofNat b.toNat)

section

variable (message : Bytes)

/-- The labels from an offset on, and the offset behind them. A pointer ends the labels
and hands over to `jump`; two bits of the length that are not both set are an error. -/
def readLabels (jump : ℕ → List String → Option (List String)) :
    ℕ → ℕ → List String → Option (List String × ℕ)
  | 0, _, _ => none
  | fuel+1, currentOffset, labels =>
    if message.length ≤ currentOffset then none
    else
      let length := readUint8 message currentOffset
      if length = 0 then some (labels,currentOffset+1)
      else if 192 ≤ length then
        if message.length ≤ currentOffset+1 then none
        else
          (jump ((length-192)*256+readUint8 message (currentOffset+1)) labels).map fun labels =>
            (labels,currentOffset+2)
      else if 64 ≤ length ∨ message.length < currentOffset+1+length then none
      else
        readLabels jump fuel (currentOffset+1+length)
          (labels++[fromLatin1 ((message.drop (currentOffset+1)).take length)])

/-- At most so many pointers are followed. -/
def followPointer : ℕ → ℕ → List String → Option (List String)
  | 0, _, _ => none
  | jumps+1, pointer, labels =>
    (readLabels message (followPointer jumps) message.length pointer labels).map Prod.fst

/-- A name and the offset behind it; the empty name is an error. -/
def readName (offset : ℕ) : Option (String × ℕ) :=
  match readLabels message (followPointer message 8) message.length offset [] with
  | none => none
  | some (labels,offset) =>
    let name := ".".intercalate labels
    if name.isEmpty then none else some (name,offset)

/-- The labels end or run out of the message before the steps run out. -/
lemma readLabels_of_le (jump : ℕ → List String → Option (List String)) {fuel : ℕ}
    {currentOffset : ℕ} (labels : List String) (h : message.length ≤ currentOffset+fuel) :
    readLabels message jump fuel currentOffset labels =
      readLabels message jump (fuel+1) currentOffset labels := by
  induction fuel generalizing currentOffset labels with
  | zero =>
    have hend : message.length ≤ currentOffset := by omega
    simp [readLabels,hend]
  | succ fuel ih =>
    rw [readLabels,readLabels]
    dsimp only
    split_ifs
    · rfl
    · rfl
    · rfl
    · rfl
    · rfl
    · exact ih _ (by omega)

end

section

/-- The labels of a name laid out from an offset on with so many pointers, and the offset behind
the first pointer or, without one, behind the zero byte. -/
inductive Laid (message : Bytes) : ℕ → ℕ → List Bytes → ℕ → Prop
  | zero {offset : ℕ} (h : [0] <+: message.drop offset) : Laid message 0 offset [] (offset+1)
  | label {jumps offset next : ℕ} {label : Bytes} {labels : List Bytes}
      (hpos : 0 < label.length) (hlt : label.length < 64)
      (h : UInt8.ofNat label.length::label <+: message.drop offset)
      (hrest : Laid message jumps (offset+1+label.length) labels next) :
      Laid message jumps offset (label::labels) next
  | pointer {jumps offset target next : ℕ} {labels : List Bytes} (hlt : target < 16384)
      (h : [UInt8.ofNat (192+target/256),UInt8.ofNat (target%256)] <+: message.drop offset)
      (hrest : Laid message jumps target labels next) :
      Laid message (jumps+1) offset labels (offset+2)

variable {message : Bytes} {jumps offset next : ℕ} {labels : List Bytes}

lemma readUint8_of_prefix {n : ℕ} {bytes : Bytes} (hn : n < 256)
    (h : UInt8.ofNat n::bytes <+: message.drop offset) :
    readUint8 message offset = n ∧ bytes <+: message.drop (offset+1) ∧
      offset+1+bytes.length ≤ message.length := by
  obtain ⟨rest,h⟩ := h
  have hlen := congrArg List.length h
  have htail := congrArg List.tail h
  have hhead := congrArg List.head? h
  simp only [length_append,length_cons,length_drop] at hlen
  simp only [cons_append,tail_cons,tail_drop] at htail
  simp only [cons_append,List.head?_cons,List.head?_drop] at hhead
  refine ⟨?_,⟨rest,htail⟩,by omega⟩
  rw [readUint8,getD_eq_getElem?_getD,← hhead]
  simpa using hn

lemma readLabels_laid (h : Laid message jumps offset labels next) {k fuel : ℕ}
    (hk : jumps ≤ k) (hf : message.length ≤ offset+fuel) (before : List String) :
    readLabels message (followPointer message k) fuel offset before =
      some (before++labels.map fromLatin1,next) := by
  induction h generalizing k fuel before with
  | zero h =>
    obtain ⟨hread,-,hlen⟩ := readUint8_of_prefix (n := 0) (by decide) h
    simp only [length_nil] at hlen
    obtain ⟨fuel,rfl⟩ : ∃ f, fuel = f+1 := ⟨fuel-1,by omega⟩
    simp [readLabels,hread,Nat.not_le.mpr hlen]
  | @label jumps offset next label labels hpos hlt h hrest ih =>
    obtain ⟨hread,hlabel,hlen⟩ := readUint8_of_prefix (by omega) h
    obtain ⟨fuel,rfl⟩ : ∃ f, fuel = f+1 := ⟨fuel-1,by omega⟩
    simp only [readLabels,hread,← prefix_iff_eq_take.mp hlabel]
    rw [if_neg (by omega),if_neg (by omega),if_neg (by omega),if_neg (by omega),ih hk (by omega)]
    simp
  | @pointer jumps offset target next labels hlt h hrest ih =>
    obtain ⟨hhigh,h,hlen⟩ := readUint8_of_prefix (by omega) h
    obtain ⟨hlow,-,-⟩ := readUint8_of_prefix (by omega) h
    obtain ⟨fuel,rfl⟩ : ∃ f, fuel = f+1 := ⟨fuel-1,by omega⟩
    obtain ⟨k,rfl⟩ : ∃ j, k = j+1 := ⟨k-1,by omega⟩
    have htarget : (192+target/256-192)*256+target%256 = target := by omega
    simp only [length_singleton] at hlen
    simp only [readLabels,hhigh,hlow,htarget,followPointer]
    rw [ih (by omega) (by omega)]
    rw [if_neg (by omega),if_neg (by omega),if_pos (by omega),if_neg (by omega)]
    rfl

lemma Laid.head_pos {label : Bytes}
    (h : Laid message jumps offset (label::labels) next) : 0 < label.length := by
  generalize hall : label::labels = all at h
  induction h with
  | zero => cases hall
  | label hpos => cases hall; exact hpos
  | pointer _ _ _ ih => exact ih hall

/-- A name is read through its pointers, and the reading goes on behind the first one. -/
theorem readName_laid (h : Laid message jumps offset labels next) (hjumps : jumps ≤ 8)
    (hne : labels ≠ []) :
    readName message offset = some (".".intercalate (labels.map fromLatin1),next) := by
  obtain ⟨label,labels,rfl⟩ := exists_cons_of_ne_nil hne
  have hpos := h.head_pos
  simp only [readName,readLabels_laid h hjumps (Nat.le_add_left _ _),nil_append]
  have hlabel : fromLatin1 label ≠ "" := by simpa [fromLatin1] using ne_nil_of_length_pos hpos
  rw [if_neg]
  cases labels with
  | nil => simpa using hlabel
  | cons => simp [String.intercalate_cons_cons]

theorem readName_follows_pointer : readName [1,97,0,1,98,192,0] 3 =
    some (".".intercalate ([[98],[97]].map fromLatin1),7) :=
  readName_laid (.label (by decide) (by decide) (by decide)
    (.pointer (by decide : 0 < 16384) (by decide) (.label (by decide) (by decide) (by decide)
      (.zero (by decide))))) (by decide) (by decide)

end

section

variable [Qt] (message : Bytes)

/-- The host of the first question, or the empty text. -/
def queryHost : String :=
  if message.length < 12 ∨ readUint16 message 4 = 0 then ""
  else
    match readName message 12 with
    | none => ""
    | some (host,_) => Qt.toLower host

end

section

variable (message : Bytes)

/-- The offset behind the questions. -/
def skipQuestions : ℕ → ℕ → Option ℕ
  | 0, offset => some offset
  | count+1, offset =>
    match readName message offset with
    | none => none
    | some (_,offset) =>
      if message.length < offset+4 then none else skipQuestions count (offset+4)

def dottedText (offset : ℕ) : String :=
  ".".intercalate ((List.range 4).map fun i => toString (readUint8 message (offset+i)))

/-- What the records add to the answers; a record that does not fit ends the reading. -/
def readRecords : ℕ → ℕ → List DnsIpv4Answer → List DnsIpv4Answer
  | 0, _, result => result
  | count+1, offset, result =>
    match readName message offset with
    | none => result
    | some (_,offset) =>
      if message.length < offset+10 then result
      else
        let dataLength := (readUint16 message (offset+8)).toNat
        if message.length < offset+10+dataLength then result
        else
          let address := dottedText message (offset+10)
          readRecords count (offset+10+dataLength)
            (if readUint16 message offset = 1 ∧ readUint16 message (offset+2) = 1 ∧ dataLength = 4 ∧
                ¬result.any (·.address == address) then
              result++[⟨address,min (readUint32 message (offset+4)) 2147483647⟩]
            else result)

/-- The three counts of records are added up in 16 bits. -/
def responseIpv4Answers : List DnsIpv4Answer :=
  if message.length < 12 then []
  else
    match skipQuestions message (readUint16 message 4).toNat 12 with
    | none => []
    | some offset =>
      readRecords message (readUint16 message 6+readUint16 message 8+readUint16 message 10).toNat
        offset []

end

end DnsMessageParser
end AlzheimerVPN
