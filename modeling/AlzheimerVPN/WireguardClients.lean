import AlzheimerVPN.AddressText
import AlzheimerVPN.Runs
import AlzheimerVPN.Scan

/-! The clients of a WireGuard server. `prepareWireguardConfig` appends a peer section to the
file of the server, `revokeWireGuard` takes one out; both know the file as a text. What the server
answers to the calls of an operation comes with the operation: which of them fail, and in which
pieces the output of a command is read. The other fields of the connection data and the reload of
the interface after a change are left out. -/
namespace AlzheimerVPN

open List

/-- `QHostAddress::toIPv4Address`, which also knows mapped addresses. -/
def HostAddress.toIPv4Address : HostAddress → BitVec 32
  | .null => 0
  | .ipv4 a => a
  | .ipv6 a => if a >>> 32 = 0xffff then a.setWidth 32 else 0

namespace WireguardConfigurator

open Text Address Scan IpText

def isBase64 (c : Char) : Bool := c.isAlphanum || c == '+' || c == '/' || c == '='

/-- Thirty-two bytes in Base64. -/
structure Key where
  chars : List Char
  length_chars : chars.length = 44
  base64 : ∀ c ∈ chars, isBase64 c
  deriving DecidableEq

/-- `\d+\.\d+\.…\d+` at the start of a text, with so many dots. -/
def digitGroups : ℕ → List Char → Option (List Char)
  | 0, cs => if cs.takeWhile Char.isDigit = [] then none else some (cs.takeWhile Char.isDigit)
  | dots+1, cs =>
    if cs.takeWhile Char.isDigit = [] then none
    else
      match cs.dropWhile Char.isDigit with
      | '.'::rest => (digitGroups dots rest).map (cs.takeWhile Char.isDigit++ '.'::·)
      | _ => none

def allowedIPs : List Char := "AllowedIPs = ".toList

/-- `AllowedIPs = (\d+\.\d+\.\d+\.\d+)` at the start of a text. -/
def allowedIp (cs : List Char) : Option (List Char × ℕ) :=
  if allowedIPs.isPrefixOf cs then
    (digitGroups 3 (cs.drop allowedIPs.length)).map fun ip => (ip,allowedIPs.length+ip.length)
  else none

/-- The `cat … | grep AllowedIPs` that runs on the server. -/
def grepAllowedIps (file : List Char) : List Char :=
  ((file.splitOn '\n').filter (containsChars "AllowedIPs".toList)).flatMap (· ++ ['\n'])

def bufferSize : ℕ := 2048

/-- A read takes at most a buffer, of which `size` says how much is there. -/
def readPieces : List ℕ → List Char → List (List Char)
  | [], _ => []
  | _::_, [] => []
  | size::sizes, c::cs =>
    (c::cs).take (min (size+1) bufferSize) ::
      readPieces sizes ((c::cs).drop (min (size+1) bufferSize))

/-- The pieces in which `executeCommand` reads an output; after the reads of `sizes` every buffer
is filled. -/
def readOutput (sizes : List ℕ) (output : List Char) : List (List Char) :=
  readPieces (sizes++List.replicate output.length bufferSize) output

section

variable [Qt]

def getIpsFromConf (input : List Char) : List HostAddress :=
  ((globalMatch allowedIp input).map fun ip => Qt.hostAddress (String.ofList ip)).filter (· ≠ .null)

def defaultSubnetAddress : String := "10.8.1.0"

/-- The subnet of the WireGuard or else of the AmneziaWG settings, when they have one. -/
def subnetAddress (serverConfig awgServerConfig : Option String) : String :=
  ((serverConfig.filter (· ≠ "")).or (awgServerConfig.filter (· ≠ ""))).getD defaultSubnetAddress

def following (lastIp : BitVec 32) : BitVec 32 :=
  if lastIp.toNat % 256 = 254 then lastIp+3
  else if lastIp.toNat % 256 = 255 then lastIp+2
  else lastIp+1

def nextIp (subnet : String) (ips : List HostAddress) : BitVec 32 :=
  following (ips.getLast?.getD (Qt.hostAddress subnet)).toIPv4Address

def configPart (clientPubKey pskKey : Key) (clientIP : BitVec 32) : List Char :=
  "[Peer]\nPublicKey = ".toList++(clientPubKey.chars++("\nPresharedKey = ".toList++(pskKey.chars++
    ("\nAllowedIPs = ".toList++(dottedChars clientIP++"/32\n\n".toList)))))

/-- The file of the server, the key all its peers share and the subnets of its settings. -/
structure Server where
  config : List Char
  pskKey : Key
  serverConfig : Option String
  awgServerConfig : Option String

def Server.subnet (s : Server) : String := subnetAddress s.serverConfig s.awgServerConfig

/-- How the server answers while a client is created: the pieces of the listing, unless it
fails, and whether both keys can be read and the new section is appended. -/
structure CreateReplies where
  listing : Option (List ℕ)
  serverPubKeyRead : Bool
  pskKeyRead : Bool
  appended : Bool

/-- The new file, and the address of the client when everything went well. -/
def prepareWireguardConfig (s : Server) (clientPubKey : Key) (replies : CreateReplies) :
    Server × Option (BitVec 32) :=
  match replies.listing with
  | none => (s,none)
  | some sizes =>
    let stdOut := received (readOutput sizes (grepAllowedIps s.config))
    let clientIP := nextIp s.subnet (getIpsFromConf stdOut)
    if replies.serverPubKeyRead && replies.pskKeyRead && replies.appended then
      ({ s with config := s.config++configPart clientPubKey s.pskKey clientIP },some clientIP)
    else (s,none)

end

/-- The loop over the sections takes the first one with the identifier out. -/
def removeSection (config clientId : List Char) : List Char :=
  let configSections := (config.splitOn '[').filter fun part => !part.isEmpty
  let kept :=
    match configSections.find? (containsChars clientId) with
    | some found => configSections.erase found
    | none => configSections
  '['::['['].intercalate kept

structure RevokeReplies where
  configRead : Bool
  uploaded : Bool

/-- `UsersController::revokeWireGuard`: the new file, and the identifier that was taken out. -/
def revokeWireGuard (s : Server) (row : ℤ) (clientsTable : List Key) (replies : RevokeReplies) :
    Server × Option Key :=
  if row < 0 then (s,none)
  else
    match clientsTable[row.toNat]? with
    | none => (s,none)
    | some clientId =>
      if replies.configRead && replies.uploaded then
        ({ s with config := removeSection s.config clientId.chars },some clientId)
      else (s,none)

lemma flatten_readPieces {sizes : List ℕ} {output : List Char} (h : output.length ≤ sizes.length) :
    (readPieces sizes output).flatten = output := by
  induction sizes generalizing output with
  | nil =>
    obtain rfl : output = [] := length_eq_zero_iff.mp (by simpa using h)
    rfl
  | cons size sizes ih =>
    cases output with
    | nil => rfl
    | cons c cs =>
      have hpos : 0 < min (size+1) bufferSize := by
        simp only [bufferSize]
        omega
      simp only [length_cons] at h
      rw [readPieces,flatten_cons,ih (by rw [length_drop,length_cons]; omega),take_append_drop]

lemma flatten_readOutput (sizes : List ℕ) (output : List Char) :
    (readOutput sizes output).flatten = output :=
  flatten_readPieces (by simp)

lemma mem_digitGroups {dots : ℕ} {cs ip : List Char} (h : digitGroups dots cs = some ip) :
    ∀ c ∈ ip, c.isDigit ∨ c = '.' := by
  induction dots generalizing cs ip with
  | zero =>
    rw [digitGroups] at h
    split_ifs at h
    obtain rfl := Option.some.inj h
    exact fun c hc => Or.inl (mem_takeWhile_imp hc)
  | succ dots ih =>
    rw [digitGroups] at h
    split_ifs at h
    split at h
    · obtain ⟨later,hlater,rfl⟩ := Option.map_eq_some_iff.mp h
      intro c hc
      rcases mem_append.mp hc with hc | hc
      · exact Or.inl (mem_takeWhile_imp hc)
      · rcases mem_cons.mp hc with hc | hc
        · exact Or.inr hc
        · exact ih hlater c hc
    · cases h

/-- The groups that are read stand at the start of the text. -/
lemma digitGroups_prefix {dots : ℕ} {cs ip : List Char} (h : digitGroups dots cs = some ip) :
    ip <+: cs := by
  induction dots generalizing cs ip with
  | zero =>
    rw [digitGroups] at h
    split_ifs at h
    obtain rfl := Option.some.inj h
    exact List.takeWhile_prefix _
  | succ dots ih =>
    rw [digitGroups] at h
    split_ifs at h
    split at h
    · rename_i rest hrest
      obtain ⟨later,hlater,rfl⟩ := Option.map_eq_some_iff.mp h
      conv_rhs => rw [← takeWhile_append_dropWhile (p := Char.isDigit) (l := cs),hrest]
      rw [prefix_append_right_inj,prefix_cons_inj]
      exact ih hlater
    · cases h

/-- A match of the pattern is the keyword and a dotted text. -/
lemma allowedIp_eq_some {cs ip : List Char} {taken : ℕ} (h : allowedIp cs = some (ip,taken)) :
    ∃ rest, cs = allowedIPs++(ip++rest) ∧ digitGroups 3 (ip++rest) = some ip ∧
      taken = (allowedIPs++ip).length := by
  rw [allowedIp] at h
  split_ifs at h with hpre
  obtain ⟨found,hfound,hpair⟩ := Option.map_eq_some_iff.mp h
  obtain ⟨rfl,rfl⟩ := Prod.mk.inj hpair
  obtain ⟨after,rfl⟩ := List.isPrefixOf_iff_prefix.mp hpre
  rw [drop_left] at hfound
  obtain ⟨rest,rfl⟩ := digitGroups_prefix hfound
  exact ⟨rest,rfl,hfound,by simp⟩

lemma mem_allowedIPs_tail : 'A' ∉ allowedIPs.tail := by decide

lemma letter_not_mem_digits {ip : List Char} (h : ∀ c ∈ ip, c.isDigit ∨ c = '.') : 'A' ∉ ip := by
  intro hin
  rcases h 'A' hin with h | h
  · exact absurd h (by decide)
  · exact absurd h (by decide)

/-- No match goes on over the start of another. -/
lemma allowedIp_taken {s cs ip : List Char} {taken : ℕ} (hs : s ≠ [])
    (h : allowedIp (s++ 'A'::cs) = some (ip,taken)) : taken ≤ s.length := by
  obtain ⟨rest,heq,hgroups,rfl⟩ := allowedIp_eq_some h
  by_contra hlt
  rw [← append_assoc] at heq
  rcases append_eq_append_iff.mp heq with ⟨t,ht,hrest⟩ | ⟨t,ht,-⟩
  · cases t with
    | nil =>
      have hlength := congrArg List.length ht
      rw [append_nil] at hlength
      omega
    | cons c t =>
      obtain rfl := (List.cons.inj hrest).1
      have htail := congrArg List.tail ht
      rw [tail_append_of_ne_nil hs,tail_append_of_ne_nil (by decide)] at htail
      have hin : 'A' ∈ allowedIPs.tail++ip := by
        rw [htail]
        simp
      rcases mem_append.mp hin with hin | hin
      · exact mem_allowedIPs_tail hin
      · exact letter_not_mem_digits (mem_digitGroups hgroups) hin
  · have hlength := congrArg List.length ht
    rw [length_append] at hlength
    omega

lemma digitGroups_zero (n : ℕ) {rest : List Char}
    (h : ∀ c, rest.head? = some c → c.isDigit = false) :
    digitGroups 0 (Nat.toDigits 10 n++rest) = some (Nat.toDigits 10 n) := by
  rw [digitGroups,(takeWhile_toDigits n h).1,if_neg Nat.toDigits_ne_nil]

lemma digitGroups_succ (dots n : ℕ) (rest : List Char) :
    digitGroups (dots+1) (Nat.toDigits 10 n++ '.'::rest) =
      (digitGroups dots rest).map (Nat.toDigits 10 n++ '.'::·) := by
  have hdot : ∀ c, ('.'::rest).head? = some c → c.isDigit = false := by simp
  obtain ⟨htake,hdrop⟩ := takeWhile_toDigits n hdot
  rw [digitGroups,htake,hdrop,if_neg Nat.toDigits_ne_nil]
  rfl

/-- A printed address is read whole when no digit follows. -/
lemma allowedIp_entry (a : BitVec 32) {rest : List Char}
    (h : ∀ c, rest.head? = some c → c.isDigit = false) :
    ∃ taken, allowedIp (allowedIPs++(dottedChars a++rest)) = some (dottedChars a,taken) := by
  have hgroups : digitGroups 3 (dottedChars a++rest) = some (dottedChars a) := by
    simp only [dottedChars_eq,append_assoc,cons_append,digitGroups_succ,
      digitGroups_zero _ h,Option.map_some]
  have hpre : allowedIPs.isPrefixOf (allowedIPs++(dottedChars a++rest)) :=
    List.isPrefixOf_iff_prefix.mpr (prefix_append _ _)
  rw [allowedIp,if_pos hpre,drop_left,hgroups]
  exact ⟨_,rfl⟩

lemma allowedIp_eq_none {cs : List Char} (h : cs.head? ≠ some 'A') : allowedIp cs = none := by
  by_contra hfound
  obtain ⟨⟨ip,taken⟩,hsome⟩ := Option.ne_none_iff_exists'.mp hfound
  obtain ⟨rest,rfl,-,-⟩ := allowedIp_eq_some hsome
  have hcons : allowedIPs = 'A'::allowedIPs.tail := by decide
  rw [hcons] at h
  exact h rfl

/-- The last address of an input is the one of its last unbroken entry. -/
lemma getLast?_getIpsFromConf [Qt] [LawfulQt] (x : List Char) (a : BitVec 32) {y : List Char}
    (hhead : ∀ c, y.head? = some c → c.isDigit = false)
    (hlater : ∀ s, s <:+ y → allowedIp s = none) :
    (getIpsFromConf (x++(allowedIPs++(dottedChars a++y)))).getLast? = some (.ipv4 a) := by
  have hcons : allowedIPs = 'A'::allowedIPs.tail := by decide
  obtain ⟨taken,hentry⟩ := allowedIp_entry a hhead
  have hnone : ∀ s, s <:+ allowedIPs.tail++(dottedChars a++y) → allowedIp s = none := by
    have hinside : 'A' ∉ allowedIPs.tail++dottedChars a := by
      rw [mem_append,not_or]
      exact ⟨mem_allowedIPs_tail,letter_not_mem_digits fun c hc => mem_dottedChars hc⟩
    intro s hs
    rw [← append_assoc] at hs
    rcases suffix_or_suffix_of_suffix hs (suffix_append _ y) with hy | ⟨t,rfl⟩
    · exact hlater s hy
    · have ht : t <:+ allowedIPs.tail++dottedChars a := by
        obtain ⟨u,hu⟩ := hs
        rw [← append_assoc] at hu
        exact ⟨u,append_cancel_right hu⟩
      cases t with
      | nil => exact hlater y (suffix_refl y)
      | cons c t =>
        apply allowedIp_eq_none
        rintro hc
        obtain rfl : c = 'A' := by simpa using hc
        exact hinside (ht.subset mem_cons_self)
  have hlast : (globalMatch allowedIp (x++(allowedIPs++(dottedChars a++y)))).getLast? =
      some (dottedChars a) := by
    rw [hcons,cons_append] at hentry ⊢
    exact getLast?_globalMatch (fun s _ hs ip n h => allowedIp_taken hs h) hentry hnone
  obtain ⟨before,hbefore⟩ := List.getLast?_eq_some_iff.mp hlast
  have hread : Qt.hostAddress (String.ofList (dottedChars a)) = .ipv4 a :=
    LawfulQt.hostAddress_dotted a
  simp [getIpsFromConf,hbefore,hread]

/-- A peer section without the bracket that begins it, word by word. -/
def peerSection (clientPubKey pskKey : Key) (clientIP : BitVec 32) : List Char :=
  "Peer]".toList++ '\n'::("PublicKey".toList++ ' '::("=".toList++ ' '::(clientPubKey.chars++ '\n'::
    ("PresharedKey".toList++ ' '::("=".toList++ ' '::(pskKey.chars++ '\n'::
      (allowedIPs++(dottedChars clientIP++"/32".toList)++ '\n'::('\n'::[]))))))))

lemma configPart_eq (k psk : Key) (a : BitVec 32) :
    configPart k psk a = '['::peerSection k psk a := by
  have hpublic : "[Peer]\nPublicKey = ".toList =
      '['::("Peer]".toList++ '\n'::("PublicKey".toList++ ' '::("=".toList++ ' '::[]))) := by
    decide
  have hpreshared : "\nPresharedKey = ".toList =
      '\n'::("PresharedKey".toList++ ' '::("=".toList++ ' '::[])) := by decide
  have hallowed : "\nAllowedIPs = ".toList = '\n'::allowedIPs := by decide
  have hend : "/32\n\n".toList = "/32".toList++ '\n'::('\n'::[]) := by decide
  unfold peerSection configPart
  rw [hpublic,hpreshared,hallowed,hend]
  simp only [append_assoc,cons_append,nil_append]

lemma Key.not_mem (k : Key) {c : Char} (h : isBase64 c = false) : c ∉ k.chars := by
  intro hin
  rw [k.base64 c hin] at h
  cases h

lemma bracket_not_mem_peerSection (k psk : Key) (a : BitVec 32) : '[' ∉ peerSection k psk a := by
  have hk := k.not_mem (c := '[') (by decide)
  have hpsk := psk.not_mem (c := '[') (by decide)
  have ha : '[' ∉ dottedChars a := not_mem_dottedChars (by decide) (by decide)
  have hwords : '[' ∉ "Peer]".toList ∧ '[' ∉ "PublicKey".toList ∧ '[' ∉ "=".toList ∧
      '[' ∉ "PresharedKey".toList ∧ '[' ∉ allowedIPs ∧ '[' ∉ "/32".toList := by decide
  have hblank : ('[' : Char) ≠ '\n' ∧ ('[' : Char) ≠ ' ' := by decide
  simp only [peerSection,mem_append,mem_cons,not_or]
  tauto

/-- A key that stands in a peer section is one of its keys. -/
lemma key_of_inside {key k psk : Key} {a : BitVec 32} (h : key.chars <:+: peerSection k psk a) :
    key = k ∨ key = psk := by
  have hline := key.not_mem (c := '\n') (by decide)
  have hblank := key.not_mem (c := ' ') (by decide)
  have short : ∀ {word : List Char}, word.length < 44 → ¬key.chars <:+: word := by
    intro word hlt hin
    have hle := hin.length_le
    rw [key.length_chars] at hle
    omega
  have whole : ∀ {other : Key}, key.chars <:+: other.chars → key = other := by
    intro other hin
    have heq := hin.eq_of_length (by rw [key.length_chars,other.length_chars])
    cases key
    cases other
    simpa using heq
  have hip := length_dottedChars_le a
  rw [peerSection] at h
  rcases infix_of_separated hline h with h | h
  · exact absurd h (short (by decide))
  rcases infix_of_separated hblank h with h | h
  · exact absurd h (short (by decide))
  rcases infix_of_separated hblank h with h | h
  · exact absurd h (short (by decide))
  rcases infix_of_separated hline h with h | h
  · exact Or.inl (whole h)
  rcases infix_of_separated hblank h with h | h
  · exact absurd h (short (by decide))
  rcases infix_of_separated hblank h with h | h
  · exact absurd h (short (by decide))
  rcases infix_of_separated hline h with h | h
  · exact Or.inr (whole h)
  rcases infix_of_separated hline h with h | h
  · have hlength : allowedIPs.length = 13 := by decide
    refine absurd h (short ?_)
    rw [length_append,length_append,hlength,show "/32".toList.length = 3 by decide]
    omega
  · exact absurd h (short (by decide))

lemma contains_peerSection {key k psk : Key} (hpsk : key ≠ psk) (a : BitVec 32) :
    containsChars key.chars (peerSection k psk a) ↔ key = k := by
  rw [containsChars_iff]
  constructor
  · intro h
    exact (key_of_inside h).resolve_right hpsk
  · rintro rfl
    exact ⟨"Peer]".toList++ '\n'::("PublicKey".toList++ ' '::("=".toList++ ' '::[])),_,by
      simp only [peerSection,append_assoc,cons_append,nil_append]
      rfl⟩

lemma grepAllowedIps_append (x y : List Char) :
    grepAllowedIps (x++ '\n'::y) = grepAllowedIps x++grepAllowedIps y := by
  rw [grepAllowedIps,splitOn_append_cons_self,filter_append,flatMap_append]
  rfl

lemma grepAllowedIps_line {line : List Char} (hline : '\n' ∉ line) :
    grepAllowedIps line = if containsChars "AllowedIPs".toList line then line++['\n'] else [] := by
  have hone := splitOn_intercalate '\n' (by simpa using hline : ∀ l ∈ [line], '\n' ∉ l) (by simp)
  rw [intercalate_singleton] at hone
  rw [grepAllowedIps,hone,filter_singleton]
  cases containsChars "AllowedIPs".toList line <;> simp

/-- The line of a peer in the listing. -/
def entryLine (a : BitVec 32) : List Char := (allowedIPs++(dottedChars a++"/32".toList))++['\n']

lemma grepAllowedIps_entry (before : List Char) (a : BitVec 32) :
    grepAllowedIps (before++ '\n'::((allowedIPs++(dottedChars a++"/32".toList))++ '\n'::['\n'])) =
      grepAllowedIps before++entryLine a := by
  have hline : '\n' ∉ allowedIPs++(dottedChars a++"/32".toList) := by
    have ha : '\n' ∉ dottedChars a := not_mem_dottedChars (by decide) (by decide)
    have hwords : '\n' ∉ allowedIPs ∧ '\n' ∉ "/32".toList := by decide
    simp only [mem_append,not_or]
    exact ⟨hwords.1,ha,hwords.2⟩
  have hkeyword : containsChars "AllowedIPs".toList (allowedIPs++(dottedChars a++"/32".toList)) =
      true := by
    rw [containsChars_iff]
    have hpre : "AllowedIPs".toList <+: allowedIPs := by decide
    exact (hpre.trans (prefix_append _ _)).isInfix
  have hblank : grepAllowedIps ['\n'] = [] := by decide
  rw [grepAllowedIps_append,grepAllowedIps_append,grepAllowedIps_line hline,if_pos hkeyword,hblank,
    append_nil,entryLine]

section

variable {sections : List (List Char)}

/-- A file of sections, each of which begins with a bracket. -/
def fileOf (sections : List (List Char)) : List Char := sections.flatMap ('['::·)

lemma splitOn_append_fileOf {part : List Char} (hpart : '[' ∉ part)
    (h : ∀ other ∈ sections, '[' ∉ other) :
    (part++fileOf sections).splitOn '[' = part::sections := by
  induction sections generalizing part with
  | nil =>
    have hone := splitOn_intercalate '[' (by simpa using hpart : ∀ l ∈ [part], '[' ∉ l) (by simp)
    simpa [fileOf] using hone
  | cons next sections ih =>
    rw [fileOf,flatMap_cons,cons_append,splitOn_append_cons_self_of_not_mem hpart,← fileOf]
    exact congrArg (part::·) (ih (h next mem_cons_self)
      fun other hin => h other (mem_cons_of_mem _ hin))

lemma fileOf_of_ne_nil (h : sections ≠ []) : '['::['['].intercalate sections = fileOf sections := by
  induction sections with
  | nil => exact absurd rfl h
  | cons first sections ih =>
    cases sections with
    | nil => simp [fileOf]
    | cons second sections =>
      rw [intercalate_cons_cons,fileOf,flatMap_cons,← fileOf,← ih (by simp)]
      simp

lemma erase_find? (p : List Char → Bool) (sections : List (List Char)) :
    (match sections.find? p with
    | some found => sections.erase found
    | none => sections) = sections.eraseP p := by
  induction sections with
  | nil => rfl
  | cons first sections ih =>
    cases hp : p first with
    | true => simp [hp]
    | false =>
      rw [List.find?_cons,hp,eraseP_cons_of_neg (by simp [hp]),← ih]
      cases hfind : sections.find? p with
      | none => rfl
      | some found =>
        have hfound : p found := List.find?_some hfind
        have hne : first ≠ found := by
          rintro rfl
          rw [hp] at hfound
          cases hfound
        simp [hne]

/-- The first section with the identifier is left out, and so are empty ones. -/
lemma removeSection_fileOf (h : ∀ part ∈ sections, '[' ∉ part) (clientId : List Char) :
    removeSection (fileOf sections) clientId = '['::['['].intercalate
        ((sections.filter fun part => !part.isEmpty).eraseP (containsChars clientId)) := by
  have hsplit : (fileOf sections).splitOn '[' = []::sections :=
    splitOn_append_fileOf (not_mem_nil) h
  simp only [removeSection,hsplit]
  rw [erase_find?]
  rfl

end

end WireguardConfigurator
end AlzheimerVPN
