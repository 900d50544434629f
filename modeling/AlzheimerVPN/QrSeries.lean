import Mathlib.Data.Finset.Card
import AlzheimerVPN.Wire

/-! A configuration as a series of QR codes: `generateQrCodeImageSeries` cuts it into chunks with
a header of three fields, `ImportController` puts scanned chunks together again. The picture of
a code is left out, so a chunk is the text that the code shows. -/
namespace AlzheimerVPN

open Wire List

namespace QrCodeUtils

def qrMagicCode : ℕ := 1984

def chunkSize : ℕ := 850

/-- The chunk of the bytes from `i` on, in a series of `chunksCount` chunks. -/
def chunkText (data : List UInt8) (chunksCount i : ℕ) : String :=
  let chunk := writeInt16 qrMagicCode++(writeUInt8 chunksCount++(writeUInt8 (i/chunkSize)++
    writeBytes ((data.drop i).take chunkSize)))
  String.ofList (toBase64 chunk)

/-- How often the loop over the bytes is entered, which is also `std::ceil(data.size() / k)`. -/
def rounds (data : List UInt8) : ℕ := (data.length+chunkSize-1)/chunkSize

/-- The count of chunks is written in one byte. -/
def generateQrCodeImageSeries (data : List UInt8) : List String :=
  (List.range (rounds data)).map fun round => chunkText data (rounds data) (round*chunkSize)

end QrCodeUtils

namespace ImportController

/-- The part of the controller that reads QR codes. -/
structure QrState where
  qrCodeChunks : Std.ExtTreeMap ℕ (List UInt8)
  isQrCodeProcessed : Bool
  totalQrCodeChunksCount : ℕ
  receivedQrCodeChunksCount : ℕ

structure QrParseResult (R : Type) where
  success : Bool
  importResult : Option R
  chunksReceived : ℕ
  chunksTotal : ℕ

def startDecodingQr : QrState := ⟨∅,true,0,0⟩

variable {R E : Type} (extractConfigFromQr : List UInt8 → Except E R)

/-- Returns the result, the texts that `extractConfigFromQr` has been called with, and the state
that is left. -/
def parseQrCodeChunk (s : QrState) (code : String) :
    QrParseResult R × List (List UInt8) × QrState :=
  let unchanged : QrParseResult R :=
    ⟨false,none,s.receivedQrCodeChunksCount,s.totalQrCodeChunksCount⟩
  if !s.isQrCodeProcessed then (unchanged,[],s)
  else
    let ba := fromBase64 code.toList
    let (magic,rest) := readInt16 ba
    if magic = QrCodeUtils.qrMagicCode then
      let (chunksCount,rest) := readUInt8 rest
      let (chunkId,rest) := readUInt8 rest
      let kept := if s.totalQrCodeChunksCount ≠ chunksCount then ∅ else s.qrCodeChunks
      let chunks := kept.insert chunkId (readBytes rest).1
      if chunks.size = chunksCount then
        let data := (List.range chunksCount).flatMap fun i => chunks.getD i []
        match extractConfigFromQr data with
        | .ok result =>
          (⟨true,some result,chunks.size,chunksCount⟩,[data],⟨chunks,false,chunksCount,chunks.size⟩)
        | .error _ => (⟨false,none,chunks.size,chunksCount⟩,[data],⟨∅,true,0,0⟩)
      else (⟨false,none,chunks.size,chunksCount⟩,[],⟨chunks,true,chunksCount,chunks.size⟩)
    else
      let utf8 := code.toUTF8.toList
      match extractConfigFromQr utf8 with
      | .ok result => ({ unchanged with success := true, importResult := some result },[utf8],
          { s with isQrCodeProcessed := false })
      | .error _ =>
        match extractConfigFromQr ba with
        | .ok result => ({ unchanged with success := true, importResult := some result },[utf8,ba],
            { s with isQrCodeProcessed := false })
        | .error _ => (unchanged,[utf8,ba],s)

/-- A sequence of scans with everything that `extractConfigFromQr` is called with on the way. -/
def scan (s : QrState) : List String → List (List UInt8) × QrState
  | [] => ([],s)
  | code::codes =>
    let (_,calls,t) := parseQrCodeChunk extractConfigFromQr s code
    let (later,u) := scan t codes
    (calls++later,u)

section

open QrCodeUtils

variable {data : List UInt8} {count : ℕ}

/-- The bytes of the `i`-th chunk. -/
def slice (data : List UInt8) (i : ℕ) : List UInt8 := (data.drop (i*chunkSize)).take chunkSize

/-- The slices in their order are the bytes that were cut up. -/
lemma flatMap_slice (data : List UInt8) (n : ℕ) :
    (List.range n).flatMap (slice data) = data.take (n*chunkSize) := by
  induction n with
  | zero => simp
  | succ n ih =>
    rw [range_succ,flatMap_append,ih,Nat.succ_mul,take_add]
    simp [slice]

lemma flatMap_slice_rounds (data : List UInt8) :
    (List.range (rounds data)).flatMap (slice data) = data := by
  rw [flatMap_slice]
  apply take_of_length_le
  simp only [rounds,chunkSize]
  omega

lemma fromBase64_chunkText (data : List UInt8) (count i : ℕ) :
    fromBase64 (chunkText data count (i*chunkSize)).toList =
      writeInt16 qrMagicCode++(writeUInt8 count++(writeUInt8 i++writeBytes (slice data i))) := by
  have hi : i*chunkSize/chunkSize = i := by
    simp only [chunkSize]
    omega
  rw [chunkText,String.toList_ofList,fromBase64_toBase64,hi,slice]

lemma parseQrCodeChunk_chunk (s : QrState) (hs : s.isQrCodeProcessed) {i : ℕ}
    (hcount : count < 256) (hi : i < 256) :
    parseQrCodeChunk extractConfigFromQr s (chunkText data count (i*chunkSize)) =
      let kept := if s.totalQrCodeChunksCount ≠ count then ∅ else s.qrCodeChunks
      let chunks := kept.insert i (slice data i)
      if chunks.size = count then
        let data := (List.range count).flatMap fun i => chunks.getD i []
        match extractConfigFromQr data with
        | .ok result =>
          (⟨true,some result,chunks.size,count⟩,[data],⟨chunks,false,count,chunks.size⟩)
        | .error _ => (⟨false,none,chunks.size,count⟩,[data],⟨∅,true,0,0⟩)
      else (⟨false,none,chunks.size,count⟩,[],⟨chunks,true,count,chunks.size⟩) := by
  have hmagic := readInt16_write (n := qrMagicCode) (by decide)
    (writeUInt8 count++(writeUInt8 i++writeBytes (slice data i)))
  have hslice : (slice data i).length < 4294967295 := by
    have hle : (slice data i).length ≤ chunkSize := length_take_le _ _
    simp only [chunkSize] at hle
    omega
  simp only [parseQrCodeChunk,hs,fromBase64_chunkText,hmagic,readUInt8_write hcount,
    readUInt8_write hi,readBytes_write hslice,Bool.not_true,Bool.false_eq_true,if_false,if_true]

/-- The chunks with the numbers `ids` have been scanned. -/
structure Collected (data : List UInt8) (count : ℕ) (ids : List ℕ) (s : QrState) : Prop where
  active : s.isQrCodeProcessed
  total : ids ≠ [] → s.totalQrCodeChunksCount = count
  chunks : ∀ i, s.qrCodeChunks[i]? = if i ∈ ids then some (slice data i) else none

lemma collected_start (data : List UInt8) (count : ℕ) :
    Collected data count [] startDecodingQr where
  active := rfl
  total h := absurd rfl h
  chunks i := by simp [startDecodingQr]

lemma size_eq_card {m : Std.ExtTreeMap ℕ (List UInt8)} {ids : List ℕ}
    (h : ∀ i, m[i]? = if i ∈ ids then some (slice data i) else none) :
    m.size = ids.toFinset.card := by
  have hnodup : m.keys.Nodup := m.nodup_keys
  have hkeys : m.keys.toFinset = ids.toFinset := by
    ext i
    rw [mem_toFinset,mem_toFinset,Std.ExtTreeMap.mem_keys,Std.ExtTreeMap.mem_iff_isSome_getElem?,h]
    split_ifs with hi <;> simp [hi]
  rw [← Std.ExtTreeMap.length_keys,← toFinset_card_of_nodup hnodup,hkeys]

lemma Collected.insert {ids : List ℕ} {s : QrState} (h : Collected data count ids s) (i : ℕ) :
    ∀ j, ((if s.totalQrCodeChunksCount ≠ count then ∅ else s.qrCodeChunks).insert i
      (slice data i))[j]? = if j ∈ i::ids then some (slice data j) else none := by
  intro j
  have hkept : ∀ j, (if s.totalQrCodeChunksCount ≠ count then ∅ else s.qrCodeChunks)[j]? =
      if j ∈ ids then some (slice data j) else none := by
    intro j
    split
    case isTrue htotal =>
      have hids : ids = [] := by
        by_contra hne
        exact htotal (h.total hne)
      simp [hids]
    case isFalse => exact h.chunks j
  rw [Std.ExtTreeMap.getElem?_insert,hkept]
  by_cases hj : i = j
  · simp [hj]
  · have hne : j ≠ i := fun he => hj he.symm
    simp [hj,hne]

lemma card_eq_iff {ids : List ℕ} (hids : ∀ i ∈ ids, i < count) :
    ids.toFinset.card = count ↔ ∀ i < count, i ∈ ids := by
  have hsubset : ids.toFinset ⊆ Finset.range count := by
    intro i hi
    exact Finset.mem_range.mpr (hids i (mem_toFinset.mp hi))
  constructor
  · intro hcard i hi
    have heq := Finset.eq_of_subset_of_card_le hsubset (by rw [Finset.card_range,hcard])
    rw [← mem_toFinset,heq]
    exact Finset.mem_range.mpr hi
  · intro hall
    have heq : ids.toFinset = Finset.range count := by
      refine hsubset.antisymm ?_
      intro i hi
      exact mem_toFinset.mpr (hall i (Finset.mem_range.mp hi))
    rw [heq,Finset.card_range]

/-- A chunk that does not complete the series is kept. -/
lemma Collected.parse_incomplete {ids : List ℕ} {s : QrState} (h : Collected data count ids s)
    (hcount : count < 256) {i : ℕ} (hids : ∀ j ∈ i::ids, j < count)
    (hmissing : ∃ j < count, j ∉ i::ids) :
    (parseQrCodeChunk extractConfigFromQr s (chunkText data count (i*chunkSize))).2.1 = [] ∧
      Collected data count (i::ids)
        (parseQrCodeChunk extractConfigFromQr s (chunkText data count (i*chunkSize))).2.2 := by
  have hi := hids i mem_cons_self
  have hsize := size_eq_card (h.insert i)
  have hne : (i::ids).toFinset.card ≠ count := by
    rw [Ne,card_eq_iff hids]
    obtain ⟨j,hj,hout⟩ := hmissing
    exact fun hall => hout (hall j hj)
  rw [← hsize] at hne
  rw [parseQrCodeChunk_chunk _ s h.active hcount (by omega)]
  simp only [hne,if_false]
  exact ⟨trivial,⟨rfl,fun _ => rfl,h.insert i⟩⟩

/-- The chunk that completes the series has all of it handed on. -/
lemma Collected.parse_complete {ids : List ℕ} {s : QrState}
    (h : Collected data (rounds data) ids s) (hcount : rounds data < 256) {i : ℕ}
    (hids : ∀ j ∈ i::ids, j < rounds data) (hall : ∀ j < rounds data, j ∈ i::ids) :
    (parseQrCodeChunk extractConfigFromQr s
      (chunkText data (rounds data) (i*chunkSize))).2.1 = [data] := by
  have hi := hids i mem_cons_self
  have hsize := size_eq_card (h.insert i)
  rw [(card_eq_iff hids).mpr hall] at hsize
  have hdata : ((List.range (rounds data)).flatMap fun j =>
      ((if s.totalQrCodeChunksCount ≠ rounds data then ∅ else s.qrCodeChunks).insert i
        (slice data i)).getD j []) = data := by
    refine Eq.trans ?_ (flatMap_slice_rounds data)
    apply flatMap_congr
    intro j hj
    rw [Std.ExtTreeMap.getD_eq_getD_getElem?,h.insert i,if_pos (hall j (mem_range.mp hj))]
    rfl
  rw [parseQrCodeChunk_chunk _ s h.active hcount (by omega)]
  simp only [hsize,if_true]
  rw [hdata]
  cases extractConfigFromQr data <;> rfl

lemma scan_append (s : QrState) (codes codes' : List String) :
    scan extractConfigFromQr s (codes++codes') = ((scan extractConfigFromQr s codes).1++
        (scan extractConfigFromQr (scan extractConfigFromQr s codes).2 codes').1,
       (scan extractConfigFromQr (scan extractConfigFromQr s codes).2 codes').2) := by
  induction codes generalizing s with
  | nil => rfl
  | cons code codes ih => simp only [cons_append,scan,ih,append_assoc]

/-- As long as a chunk is missing, nothing is handed on. -/
lemma Collected.scan_incomplete (hcount : count < 256) {done : List ℕ} {s : QrState}
    (h : Collected data count done s) (ids : List ℕ) (hids : ∀ j ∈ ids.reverse++done, j < count)
    (hmissing : ∃ j < count, j ∉ ids.reverse++done) :
    (scan extractConfigFromQr s
      (ids.map fun i => chunkText data count (i*chunkSize))).1 = [] ∧
      Collected data count (ids.reverse++done) (scan extractConfigFromQr s
        (ids.map fun i => chunkText data count (i*chunkSize))).2 := by
  induction ids generalizing done s with
  | nil => exact ⟨rfl,h⟩
  | cons i ids ih =>
    rw [reverse_cons,append_assoc,singleton_append] at hids hmissing ⊢
    obtain ⟨j,hj,hout⟩ := hmissing
    have hfirst : ∀ k ∈ i::done, k < count := fun k hk => hids k (mem_append_right _ hk)
    have hleft : j ∉ i::done := fun hk => hout (mem_append_right _ hk)
    obtain ⟨hcalls,hnext⟩ := h.parse_incomplete extractConfigFromQr hcount hfirst ⟨j,hj,hleft⟩
    obtain ⟨hlater,hend⟩ := ih hnext hids ⟨j,hj,hout⟩
    simp only [map_cons,scan]
    rw [hcalls,hlater]
    exact ⟨rfl,hend⟩

lemma chunkText_inj (hcount : count < 256) {i j : ℕ} (hi : i < count) (hj : j < count)
    (h : chunkText data count (i*chunkSize) = chunkText data count (j*chunkSize)) : i = j := by
  have hbytes := congrArg (fun text => (readUInt8 (readUInt8 (readInt16
    (fromBase64 text.toList)).2).2).1) h
  simpa only [fromBase64_chunkText,readInt16_write (n := qrMagicCode) (by decide),
    readUInt8_write hcount,readUInt8_write (hi.trans hcount),
    readUInt8_write (hj.trans hcount)] using hbytes

lemma exists_ids {codes : List String} (h : ∀ code ∈ codes, code ∈ generateQrCodeImageSeries data) :
    ∃ ids : List ℕ, (∀ i ∈ ids, i < rounds data) ∧
      codes = ids.map fun i => chunkText data (rounds data) (i*chunkSize) := by
  induction codes with
  | nil => exact ⟨[],by simp,rfl⟩
  | cons code codes ih =>
    obtain ⟨ids,hids,hcodes⟩ := ih fun other hother => h other (mem_cons_of_mem _ hother)
    obtain ⟨i,hi,hcode⟩ := mem_map.mp (h code mem_cons_self)
    refine ⟨i::ids,?_,?_⟩
    · intro j hj
      rcases mem_cons.mp hj with rfl | hj
      · exact mem_range.mp hi
      · exact hids j hj
    · rw [map_cons,hcode,hcodes]

lemma mem_codes_iff (hcount : rounds data < 256) {ids : List ℕ}
    (hids : ∀ i ∈ ids, i < rounds data) {i : ℕ} (hi : i < rounds data) :
    chunkText data (rounds data) (i*chunkSize) ∈
      (ids.map fun i => chunkText data (rounds data) (i*chunkSize)) ↔ i ∈ ids := by
  constructor
  · intro h
    obtain ⟨j,hj,he⟩ := mem_map.mp h
    rw [← chunkText_inj hcount (hids j hj) hi he]
    exact hj
  · intro h
    exact mem_map.mpr ⟨i,h,rfl⟩

end

open QrCodeUtils in
/-- Chunks of one series may be scanned in any order and again and again: nothing is handed on
before each has been seen, and the scan that completes them hands on the bytes of the series. -/
theorem qr_series_reassembles (data : List UInt8)
    (hcount : 1 ≤ (generateQrCodeImageSeries data).length ∧
      (generateQrCodeImageSeries data).length ≤ 255)
    (codes : List String) (hcodes : ∀ code ∈ codes, code ∈ generateQrCodeImageSeries data) :
    ((∃ chunk ∈ generateQrCodeImageSeries data, chunk ∉ codes) →
      (scan extractConfigFromQr startDecodingQr codes).1 = []) ∧
    (∀ before last, codes = before++[last] →
      (∃ chunk ∈ generateQrCodeImageSeries data, chunk ∉ before) →
      (∀ chunk ∈ generateQrCodeImageSeries data, chunk ∈ codes) →
      (scan extractConfigFromQr startDecodingQr codes).1 = [data]) := by
  have hrounds : rounds data < 256 := by
    have hle := hcount.2
    simp only [generateQrCodeImageSeries,length_map,length_range] at hle
    omega
  have hincomplete : ∀ codes : List String,
      (∀ code ∈ codes, code ∈ generateQrCodeImageSeries data) →
      (∃ chunk ∈ generateQrCodeImageSeries data, chunk ∉ codes) →
      (scan extractConfigFromQr startDecodingQr codes).1 = [] ∧ ∃ ids : List ℕ,
        (∀ i ∈ ids, i < rounds data) ∧
        (codes = ids.reverse.map fun i => chunkText data (rounds data) (i*chunkSize)) ∧
        Collected data (rounds data) ids (scan extractConfigFromQr startDecodingQr codes).2 := by
    rintro codes hcodes ⟨chunk,hchunk,hout⟩
    obtain ⟨ids,hids,rfl⟩ := exists_ids hcodes
    obtain ⟨i,hi,rfl⟩ := mem_map.mp hchunk
    have hi' := mem_range.mp hi
    have hmissing : ∃ j < rounds data, j ∉ ids.reverse++[] := by
      refine ⟨i,hi',?_⟩
      intro hin
      rw [append_nil,mem_reverse] at hin
      exact hout ((mem_codes_iff hrounds hids hi').mpr hin)
    obtain ⟨hcalls,hend⟩ := (collected_start data (rounds data)).scan_incomplete
      extractConfigFromQr hrounds ids (by simpa using hids) hmissing
    rw [append_nil] at hend
    exact ⟨hcalls,ids.reverse,by simpa using hids,by rw [reverse_reverse],hend⟩
  refine ⟨fun hmissing => (hincomplete codes hcodes hmissing).1,?_⟩
  rintro before last rfl hmissing hall
  have hbefore : ∀ code ∈ before, code ∈ generateQrCodeImageSeries data :=
    fun code hcode => hcodes code (mem_append_left _ hcode)
  obtain ⟨hcalls,ids,hids,hmap,hend⟩ := hincomplete before hbefore hmissing
  obtain ⟨i,hi,hlast⟩ := mem_map.mp (hcodes last (by simp))
  have hi' := mem_range.mp hi
  have hcover : ∀ j < rounds data, j ∈ i::ids := by
    intro j hj
    have hin := hall _ (mem_map.mpr ⟨j,mem_range.mpr hj,rfl⟩)
    rcases mem_append.mp hin with hin | hin
    · rw [hmap,mem_codes_iff hrounds (by simpa using hids) hj,mem_reverse] at hin
      exact mem_cons_of_mem _ hin
    · rw [mem_singleton,← hlast] at hin
      rw [chunkText_inj hrounds hj hi' hin]
      exact mem_cons_self
  have hbound : ∀ j ∈ i::ids, j < rounds data := by
    intro j hj
    rcases mem_cons.mp hj with rfl | hj
    · exact hi'
    · exact hids j hj
  have hfinal := hend.parse_complete extractConfigFromQr hrounds hbound hcover
  rw [scan_append,hcalls,nil_append,← hlast]
  simp only [scan]
  rw [hfinal]
  rfl

/-- Enough bytes for two chunks. -/
def twoChunks : List UInt8 := List.replicate 900 7

open QrCodeUtils in
theorem second_chunk_first : (scan (fun _ => (.error () : Except Unit Unit)) startDecodingQr
      [chunkText twoChunks 2 850,chunkText twoChunks 2 850,chunkText twoChunks 2 0]).1 =
      [twoChunks] := by
  have hrounds : rounds twoChunks = 2 := by rw [rounds,twoChunks,length_replicate,chunkSize]
  have hseries : generateQrCodeImageSeries twoChunks =
      [chunkText twoChunks 2 0,chunkText twoChunks 2 850] := by
    rw [generateQrCodeImageSeries,hrounds]
    rfl
  have hne : chunkText twoChunks 2 0 ≠ chunkText twoChunks 2 850 := by
    intro he
    exact absurd (@chunkText_inj twoChunks 2 (by decide) 0 1 (by decide) (by decide) he) (by decide)
  refine (qr_series_reassembles _ twoChunks (by rw [hseries]; decide) _ ?_).2
    [chunkText twoChunks 2 850,chunkText twoChunks 2 850] _ rfl ?_ ?_
  · rw [hseries]
    simp
  · rw [hseries]
    refine ⟨_,mem_cons_self,?_⟩
    intro hin
    rcases mem_cons.mp hin with he | hin
    · exact hne he
    · exact hne (mem_singleton.mp hin)
  · rw [hseries]
    simp

end ImportController
end AlzheimerVPN
