import Mathlib.Data.List.Chain
import AlzheimerVPN.WireguardClients

/-! The addresses of the clients of a WireGuard server, over all creations and revocations. The
file holds one section for each client in the order of their creation, and an address is chosen
from the last section alone, so the addresses grow along the file. -/
namespace AlzheimerVPN.WireguardConfigurator

open Text Address Scan IpText Runs List

/-- A client and the address that was chosen for it. -/
structure Client where
  key : Key
  ip : BitVec 32
  deriving DecidableEq

/-- The server with the clients that were created on it and not revoked. -/
structure History where
  server : Server
  clients : List Client

inductive Call
  | create (clientPubKey : Key) (replies : CreateReplies)
  | revoke (row : ℤ) (clientsTable : List Key) (replies : RevokeReplies)

def step [Qt] (h : History) : Call → History
  | .create clientPubKey replies =>
    let (server,clientIP) := prepareWireguardConfig h.server clientPubKey replies
    ⟨server,h.clients++(clientIP.map (Client.mk clientPubKey)).toList⟩
  | .revoke row clientsTable replies =>
    let (server,clientId) := revokeWireGuard h.server row clientsTable replies
    ⟨server,h.clients.filter fun client => some client.key ≠ clientId⟩

def Client.peer (psk : Key) (client : Client) : List Char := peerSection client.key psk client.ip

/-- The first section of the file, without its bracket. -/
structure InterfaceSection where
  text : List Char
  text_ne_nil : text ≠ []
  bracket_not_mem : '[' ∉ text

/-- The file begins with the interface section; the peers are the clients, in their order. -/
def Holds (interface : InterfaceSection) (h : History) : Prop :=
  h.server.config = fileOf (interface.text::h.clients.map (Client.peer h.server.pskKey))

section

variable [Qt] (h : History)

/-- The address that a creation chooses when its listing is read in such pieces. -/
def chosenIp (sizes : List ℕ) : BitVec 32 :=
  nextIp h.server.subnet
    (getIpsFromConf (received (readOutput sizes (grepAllowedIps h.server.config))))

def created (client : Client) : History :=
  ⟨{ h.server with config := h.server.config++configPart client.key h.server.pskKey client.ip },
    h.clients++[client]⟩

def revoked (key : Key) : History :=
  ⟨{ h.server with config := removeSection h.server.config key.chars },
    h.clients.filter fun client => client.key ≠ key⟩

lemma step_create (key : Key) (replies : CreateReplies) : step h (.create key replies) = h ∨
      ∃ sizes ∈ replies.listing, step h (.create key replies) = created h ⟨key,chosenIp h sizes⟩ := by
  simp only [step,prepareWireguardConfig]
  cases hlisting : replies.listing with
  | none => simp
  | some sizes =>
    simp only
    split
    case isFalse => simp
    case isTrue => exact Or.inr ⟨sizes,rfl,rfl⟩

lemma step_revoke (row : ℤ) (clientsTable : List Key) (replies : RevokeReplies) :
    step h (.revoke row clientsTable replies) = h ∨ ∃ key, clientsTable[row.toNat]? = some key ∧
        step h (.revoke row clientsTable replies) = revoked h key := by
  have hall : h.clients.filter (fun client => decide (some client.key ≠ none)) = h.clients := by
    rw [filter_eq_self]
    simp
  simp only [step,revokeWireGuard]
  split
  case isTrue => exact Or.inl (congrArg (History.mk h.server) hall)
  case isFalse =>
    cases htable : clientsTable[row.toNat]? with
    | none => exact Or.inl (congrArg (History.mk h.server) hall)
    | some key =>
      simp only
      split
      case isFalse => exact Or.inl (congrArg (History.mk h.server) hall)
      case isTrue => exact Or.inr ⟨key,rfl,by simp [revoked]⟩

end

section

/-- The listing of a file ends with the entry of its last peer. -/
lemma grepAllowedIps_last (before : List Char) (k psk : Key) (a : BitVec 32) :
    ∃ x, grepAllowedIps (before++ '['::peerSection k psk a) =
      x++((allowedIPs++dottedChars a)++"/32\n".toList) := by
  have hwords : before++ '['::peerSection k psk a =
      (before++ '['::("Peer]".toList++ '\n'::("PublicKey".toList++ ' '::("=".toList++ ' '::
        (k.chars++ '\n'::("PresharedKey".toList++ ' '::("=".toList++ ' '::psk.chars)))))))++ '\n'::
          ((allowedIPs++(dottedChars a++"/32".toList))++ '\n'::['\n']) := by
    simp only [peerSection,append_assoc,cons_append]
  have hend : "/32\n".toList = "/32".toList++['\n'] := by decide
  rw [hwords,grepAllowedIps_entry,entryLine,hend]
  simp only [append_assoc]
  exact ⟨_,rfl⟩

variable [Qt] [LawfulQt]

/-- The last address is read when no piece of the listing ends inside its entry. -/
lemma nextIp_of_unbroken {before : List Char} {k psk : Key} {a : BitVec 32} {sizes : List ℕ}
    (subnet : String)
    (hcut : Unbroken (readOutput sizes (grepAllowedIps (before++ '['::peerSection k psk a)))
      (allowedIPs++dottedChars a).length 4) :
    nextIp subnet (getIpsFromConf
      (received (readOutput sizes (grepAllowedIps (before++ '['::peerSection k psk a))))) =
      following a := by
  obtain ⟨x,hx⟩ := grepAllowedIps_last before k psk a
  have hflat := flatten_readOutput sizes (grepAllowedIps (before++ '['::peerSection k psk a))
  rw [hx] at hflat hcut ⊢
  have hne : allowedIPs++dottedChars a ≠ [] := by
    have hpos : allowedIPs ≠ [] := by decide
    simp [hpos]
  have hfour : "/32\n".toList.length = 4 := by decide
  obtain ⟨pre,y,hy,hmem,hhead⟩ := exists_received hne hflat (by rw [hfour]; exact hcut)
  have hletter : 'A' ∉ y := by
    intro hin
    rcases hmem _ hin with h | h
    · exact absurd h (by decide)
    · exact absurd h (by decide)
  have hdigit : ∀ c, y.head? = some c → c.isDigit = false := by
    have hslash : "/32\n".toList.head? = some '/' := by decide
    intro c hc
    rcases hhead with h | h
    · rw [h,hslash] at hc
      rw [← Option.some.inj hc]
      decide
    · rw [h] at hc
      rw [← Option.some.inj hc]
      decide
  have hlater : ∀ s, s <:+ y → allowedIp s = none := by
    intro s hs
    apply allowedIp_eq_none
    intro hhead
    exact hletter (hs.subset (mem_of_mem_head? hhead))
  rw [hy,append_assoc,nextIp,getLast?_getIpsFromConf pre a hdigit hlater]
  rfl

end

section

variable {interface : InterfaceSection} {h : History}

/-- The key of a creation is no other key of the file and no part of one; so is the key of a
revocation, which may be the one of a client. -/
def KeyApart (interface : InterfaceSection) (h : History) : Call → Prop
  | .create key _ => key ∉ h.clients.map Client.key ∧ key ≠ h.server.pskKey ∧
      ¬key.chars <:+: interface.text
  | .revoke row clientsTable _ => ∀ key, clientsTable[row.toNat]? = some key →
      key ≠ h.server.pskKey ∧ ¬key.chars <:+: interface.text

/-- The listing of a creation is not cut inside the entry of the last client, whose address is
not one of the last two of the address space. -/
def ReadWhole (h : History) : Call → Prop
  | .create _ replies => ∀ sizes ∈ replies.listing, ∀ last ∈ h.clients.getLast?,
      Unbroken (readOutput sizes (grepAllowedIps h.server.config))
        (allowedIPs++dottedChars last.ip).length 4 ∧ last.ip.toNat < 2^32-2
  | .revoke _ _ _ => True

lemma lt_following {a : BitVec 32} (h : a.toNat < 2^32-2) : a < following a := by
  have hlt := a.isLt
  have hone : (1 : BitVec 32).toNat = 1 := rfl
  have htwo : (2 : BitVec 32).toNat = 2 := rfl
  have hthree : (3 : BitVec 32).toNat = 3 := rfl
  rw [BitVec.lt_def,following]
  split_ifs <;> rw [BitVec.toNat_add] <;> omega

lemma removeSection_holds {psk key : Key} {clients : List Client} (hpsk : key ≠ psk)
    (hin : ¬key.chars <:+: interface.text) (hkeys : (clients.map Client.key).Nodup) :
    removeSection (fileOf (interface.text::clients.map (Client.peer psk))) key.chars =
      fileOf (interface.text::(clients.filter fun client => client.key ≠ key).map
        (Client.peer psk)) := by
  have hbracket : ∀ part ∈ interface.text::clients.map (Client.peer psk), '[' ∉ part := by
    intro part hpart
    rcases mem_cons.mp hpart with rfl | hpart
    · exact interface.bracket_not_mem
    · obtain ⟨client,-,rfl⟩ := mem_map.mp hpart
      exact bracket_not_mem_peerSection _ _ _
  have hfull : (interface.text::clients.map (Client.peer psk)).filter (fun part => !part.isEmpty) =
      interface.text::clients.map (Client.peer psk) := by
    rw [filter_eq_self]
    intro part hpart
    rcases mem_cons.mp hpart with rfl | hpart
    · simpa using interface.text_ne_nil
    · obtain ⟨client,-,rfl⟩ := mem_map.mp hpart
      simp [Client.peer,peerSection]
  have hfirst : ¬containsChars key.chars interface.text := by
    rw [containsChars_iff]
    exact hin
  have herase : ∀ clients : List Client, (clients.map Client.key).Nodup →
      (clients.map (Client.peer psk)).eraseP (containsChars key.chars) =
        (clients.filter fun client => client.key ≠ key).map (Client.peer psk) := by
    intro clients
    induction clients with
    | nil => exact fun _ => rfl
    | cons client clients ih =>
      intro hnodup
      rw [map_cons,nodup_cons] at hnodup
      by_cases hkey : key = client.key
      · have hhead : containsChars key.chars (client.peer psk) :=
          (contains_peerSection hpsk _).mpr hkey
        have hrest : clients.filter (fun client => client.key ≠ key) = clients := by
          rw [filter_eq_self]
          intro other hother
          have hne : other.key ≠ key := by
            rintro heq
            exact hnodup.1 (hkey ▸ heq ▸ mem_map_of_mem hother)
          simpa using hne
        rw [map_cons,eraseP_cons_of_pos hhead,filter_cons_of_neg (by simp [hkey]),hrest]
      · have hhead : ¬containsChars key.chars (client.peer psk) := by
          rw [Client.peer,contains_peerSection hpsk]
          exact hkey
        rw [map_cons,eraseP_cons_of_neg hhead,
          filter_cons_of_pos (by simpa using Ne.symm hkey),map_cons,ih hnodup.2]
  rw [removeSection_fileOf hbracket,hfull,eraseP_cons_of_neg hfirst,herase clients hkeys,
    fileOf_of_ne_nil (by simp)]

/-- The file, the keys and the order of the addresses. -/
structure Ordered (interface : InterfaceSection) (h : History) : Prop where
  holds : Holds interface h
  keys : (h.clients.map Client.key).Nodup
  ips : (h.clients.map Client.ip).IsChain (· < ·)

lemma holds_created (hholds : Holds interface h) (client : Client) :
    Holds interface (created h client) := by
  rw [Holds] at hholds ⊢
  simp only [created,map_append,map_cons,map_nil]
  rw [configPart_eq,hholds]
  simp [fileOf,Client.peer]

lemma Ordered.created (ho : Ordered interface h) {client : Client}
    (hkey : client.key ∉ h.clients.map Client.key)
    (hip : ∀ last ∈ h.clients.getLast?, last.ip < client.ip) :
    Ordered interface (created h client) := by
  refine ⟨holds_created ho.holds client,?_,?_⟩
  · simp only [WireguardConfigurator.created,map_append,map_cons,map_nil]
    rw [nodup_append]
    refine ⟨ho.keys,by simp,?_⟩
    intro other hother new hnew
    rw [mem_singleton.mp hnew]
    rintro rfl
    exact hkey hother
  · simp only [WireguardConfigurator.created,map_append,map_cons,map_nil]
    rw [isChain_append]
    refine ⟨ho.ips,by simp,?_⟩
    intro x hx y hy
    rw [List.getLast?_map] at hx
    obtain ⟨last,hlast,rfl⟩ := Option.mem_map.mp hx
    obtain rfl : client.ip = y := by simpa using hy
    exact hip last hlast

lemma Ordered.revoked (ho : Ordered interface h) {key : Key} (hpsk : key ≠ h.server.pskKey)
    (hin : ¬key.chars <:+: interface.text) : Ordered interface (revoked h key) := by
  have hsub : (WireguardConfigurator.revoked h key).clients.Sublist h.clients := filter_sublist
  refine ⟨?_,ho.keys.sublist (hsub.map Client.key),ho.ips.sublist (hsub.map Client.ip)⟩
  have hholds := ho.holds
  rw [Holds] at hholds ⊢
  simp only [WireguardConfigurator.revoked,hholds]
  exact removeSection_holds hpsk hin ho.keys

variable [Qt] [LawfulQt]

/-- The chosen address comes after the one of the last client. -/
lemma chosenIp_of_readWhole (hholds : Holds interface h) {last : Client} {sizes : List ℕ}
    (hlast : h.clients.getLast? = some last)
    (hcut : Unbroken (readOutput sizes (grepAllowedIps h.server.config))
      (allowedIPs++dottedChars last.ip).length 4) : chosenIp h sizes = following last.ip := by
  obtain ⟨before,hbefore⟩ := List.getLast?_eq_some_iff.mp hlast
  have hfile : h.server.config = fileOf (interface.text::before.map (Client.peer h.server.pskKey))++
        '['::peerSection last.key h.server.pskKey last.ip := by
    rw [Holds,hbefore] at hholds
    simpa [fileOf,Client.peer] using hholds
  rw [hfile] at hcut
  rw [chosenIp,hfile,nextIp_of_unbroken _ hcut]

lemma Ordered.step (ho : Ordered interface h) (call : Call) (hkey : KeyApart interface h call)
    (hread : ReadWhole h call) : Ordered interface (step h call) := by
  cases call with
  | create key replies =>
    rcases step_create h key replies with hsame | ⟨sizes,hsizes,hstep⟩
    · rw [hsame]
      exact ho
    · rw [hstep]
      refine ho.created hkey.1 ?_
      intro last hlast
      obtain ⟨hcut,hbound⟩ := hread sizes hsizes last hlast
      rw [chosenIp_of_readWhole ho.holds hlast hcut]
      exact lt_following hbound
  | revoke row clientsTable replies =>
    rcases step_revoke h row clientsTable replies with hsame | ⟨key,htable,hstep⟩
    · rw [hsame]
      exact ho
    · rw [hstep]
      obtain ⟨hpsk,hin⟩ := hkey key htable
      exact ho.revoked hpsk hin

/-- Over every run of creations and revocations with keys that are apart, in which each listing
is read whole, the file holds exactly the clients that were created and not revoked, in their order
and as they were written, and no two of them have one address. -/
theorem clients_kept_apart (interface : InterfaceSection) (server : Server)
    (hfile : server.config = '['::interface.text) (calls : List Call)
    (hkeys : Runs.Guarded WireguardConfigurator.step (KeyApart interface) ⟨server,[]⟩ calls)
    (hread : Runs.Guarded WireguardConfigurator.step ReadWhole ⟨server,[]⟩ calls) :
    Runs.Always WireguardConfigurator.step
      (fun h => Holds interface h ∧ (h.clients.map Client.ip).Nodup) ⟨server,[]⟩ calls := by
  rintro pre ⟨rest,rfl⟩
  have hok : Runs.Guarded WireguardConfigurator.step
      (fun h call => KeyApart interface h call ∧ ReadWhole h call) ⟨server,[]⟩ pre := by
    intro first call hpre
    have hlonger := hpre.trans (prefix_append pre rest)
    exact ⟨hkeys first call hlonger,hread first call hlonger⟩
  have hstart : Ordered interface ⟨server,[]⟩ := by
    refine ⟨?_,by simp,by simp⟩
    rw [Holds,hfile]
    simp [fileOf]
  have ho := run_invariant (P := Ordered interface)
    (fun h call hh hc => hh.step call hc.1 hc.2) hstart hok
  refine ⟨ho.holds,?_⟩
  have hpairwise := isChain_iff_pairwise.mp ho.ips
  exact hpairwise.imp fun hlt => by
    rintro rfl
    exact absurd hlt (BitVec.lt_irrefl _)

end

section

lemma grepAllowedIps_of_not_mem {line : List Char} (hline : '\n' ∉ line) (h : 'A' ∉ line) :
    grepAllowedIps line = [] := by
  rw [grepAllowedIps_line hline,if_neg]
  rw [containsChars_iff]
  intro hin
  have hletter : 'A' ∈ "AllowedIPs".toList := by decide
  exact h (hin.subset hletter)

lemma grepAllowedIps_key {name : List Char} (hline : '\n' ∉ name) (hname : 'A' ∉ name) {k : Key}
    (hk : 'A' ∉ k.chars) : grepAllowedIps (name++ ' '::("=".toList++ ' '::k.chars)) = [] := by
  have hkey := k.not_mem (c := '\n') (by decide)
  have hequal : '\n' ∉ "=".toList ∧ 'A' ∉ "=".toList := by decide
  apply grepAllowedIps_of_not_mem
  · simp only [mem_append,mem_cons,not_or]
    exact ⟨hline,by decide,hequal.1,by decide,hkey⟩
  · simp only [mem_append,mem_cons,not_or]
    exact ⟨hname,by decide,hequal.2,by decide,hk⟩

/-- The listing of a file with one more peer has one more line. -/
lemma grepAllowedIps_peer {k psk : Key} (hk : 'A' ∉ k.chars) (hpsk : 'A' ∉ psk.chars)
    (before : List Char) (a : BitVec 32) :
    grepAllowedIps ((before++['\n'])++ '['::peerSection k psk a) =
      grepAllowedIps (before++['\n'])++entryLine a := by
  have hwords : (before++['\n'])++ '['::peerSection k psk a =
      (before++ '\n'::(('['::"Peer]".toList)++ '\n'::(("PublicKey".toList++ ' '::("=".toList++ ' '::
        k.chars))++ '\n'::("PresharedKey".toList++ ' '::("=".toList++ ' '::psk.chars)))))++ '\n'::
          ((allowedIPs++(dottedChars a++"/32".toList))++ '\n'::['\n']) := by
    simp only [peerSection,append_assoc,cons_append,nil_append]
  have hpeer : grepAllowedIps ('['::"Peer]".toList) = [] := by decide
  have hnil : grepAllowedIps [] = [] := by decide
  rw [hwords,grepAllowedIps_entry,grepAllowedIps_append,grepAllowedIps_append,grepAllowedIps_append,
    grepAllowedIps_append,hpeer,grepAllowedIps_key (by decide) (by decide) hk,
    grepAllowedIps_key (by decide) (by decide) hpsk,hnil]
  simp only [append_nil]

lemma peerSection_ended (k psk : Key) (a : BitVec 32) : ∃ u, peerSection k psk a = u++['\n'] := by
  refine ⟨"Peer]".toList++ '\n'::("PublicKey".toList++ ' '::("=".toList++ ' '::(k.chars++ '\n'::
    ("PresharedKey".toList++ ' '::("=".toList++ ' '::(psk.chars++ '\n'::entryLine a)))))),?_⟩
  simp only [peerSection,entryLine,append_assoc,cons_append,nil_append]

/-- A numbered key, of digits only. -/
def keyNo (i : ℕ) : Key where
  chars := Nat.toDigits 10 (10^43+i%10^43)
  length_chars := by
    have hlt := Nat.mod_lt i (show 0 < 10^43 by decide)
    have hle := (Nat.length_toDigits_le_iff (b := 10) (n := 10^43+i%10^43) (k := 44) (by decide)
      (by decide)).mpr (by omega)
    have hgt := mt (Nat.length_toDigits_le_iff (b := 10) (n := 10^43+i%10^43) (k := 43) (by decide)
      (by decide)).mp (by omega)
    omega
  base64 c hc := by
    have hdigit := toDigits_isDigit hc
    simp [isBase64,Char.isAlphanum,hdigit]

lemma keyNo_ne {i j : ℕ} (hi : i < 10^43) (hj : j < 10^43) (hne : i ≠ j) : keyNo i ≠ keyNo j := by
  intro h
  have hchars := congrArg (fun key => Nat.ofDigitChars 10 key.chars 0) h
  simp only [keyNo,Nat.ofDigitChars_ten_toDigits,Nat.mod_eq_of_lt hi,Nat.mod_eq_of_lt hj] at hchars
  omega

lemma letter_not_mem_keyNo (i : ℕ) : 'A' ∉ (keyNo i).chars := by
  intro hin
  have hdigit := toDigits_isDigit hin
  revert hdigit
  decide

def plainInterface : InterfaceSection where
  text := "Interface]\nListenPort = 51820\n".toList
  text_ne_nil := by decide
  bracket_not_mem := by decide

/-- A server with the default subnet. -/
def plainServer : Server := ⟨'['::plainInterface.text,keyNo 999,none,none⟩

/-- Nothing fails, and every read fills its buffer. -/
def fullReads : CreateReplies := ⟨some [],true,true,true⟩

lemma step_fullReads [Qt] (h : History) (key : Key) :
    step h (.create key fullReads) = created h ⟨key,chosenIp h []⟩ := rfl

def clientNo (i : ℕ) : Client := ⟨keyNo i,BitVec.ofNat 32 (0x0a080101+i)⟩

/-- The server after the first creations. -/
def withClients (count : ℕ) : History :=
  ⟨{ plainServer with config := fileOf (plainInterface.text::(List.range count).map fun i =>
      (clientNo i).peer (keyNo 999)) },(List.range count).map clientNo⟩

def entryLines (count : ℕ) : List Char := (List.range count).flatMap fun i => entryLine (clientNo i).ip

lemma config_withClients_succ (count : ℕ) : (withClients (count+1)).server.config =
    (withClients count).server.config++ '['::(clientNo count).peer (keyNo 999) := by
  simp [withClients,fileOf,range_succ]

lemma listing_withClients (count : ℕ) :
    (∃ before, (withClients count).server.config = before++['\n']) ∧
      grepAllowedIps (withClients count).server.config = entryLines count := by
  induction count with
  | zero =>
    refine ⟨⟨(withClients 0).server.config.dropLast,?_⟩,?_⟩
    · decide
    · decide
  | succ count ih =>
    obtain ⟨⟨before,hbefore⟩,hlisting⟩ := ih
    rw [config_withClients_succ,Client.peer]
    constructor
    · obtain ⟨u,hu⟩ := peerSection_ended (clientNo count).key (keyNo 999) (clientNo count).ip
      exact ⟨(withClients count).server.config++ '['::u,by simp [hu]⟩
    · have hkey : 'A' ∉ (clientNo count).key.chars := letter_not_mem_keyNo count
      rw [hbefore] at hlisting ⊢
      rw [grepAllowedIps_peer hkey (letter_not_mem_keyNo _),hlisting,entryLines,entryLines,
        range_succ,flatMap_append,flatMap_singleton]

variable {count : ℕ}

lemma prefix_entryLines {other : ℕ} (h : count ≤ other) :
    entryLines count <+: entryLines other := by
  obtain ⟨more,rfl⟩ := Nat.exists_eq_add_of_le h
  rw [entryLines,entryLines,range_add,flatMap_append]
  exact prefix_append _ _

lemma readOutput_whole {output : List Char} (hne : output ≠ []) (hle : output.length ≤ bufferSize) :
    readOutput [] output = [output] := by
  cases output with
  | nil => exact absurd rfl hne
  | cons c cs =>
    have hmin : min (bufferSize+1) bufferSize = bufferSize := by decide
    rw [readOutput,nil_append,length_cons,replicate_succ,readPieces,hmin,
      take_of_length_le hle,drop_of_length_le hle]
    cases cs <;> rfl

/-- The run of the first creations. -/
def firstCreations (count : ℕ) : List Call := (List.range count).map fun i => .create (keyNo i) fullReads

lemma holds_withClients (count : ℕ) : Holds plainInterface (withClients count) := by
  rw [Holds]
  simp only [withClients,plainServer,map_map]
  rfl

lemma getLast?_withClients (count : ℕ) :
    (withClients (count+1)).clients.getLast? = some (clientNo count) := by
  simp [withClients,range_succ]

/-- A listing that fits into one buffer is read whole. -/
lemma unbroken_of_short {listing : List Char} (a : BitVec 32)
    (h : (listing++entryLine a).length ≤ bufferSize) :
    Unbroken (readOutput [] (listing++entryLine a)) (allowedIPs++dottedChars a).length 4 := by
  have hlength : (entryLine a).length = (allowedIPs++dottedChars a).length+4 := by
    have hend : "/32".toList.length = 3 := by decide
    simp only [entryLine,length_append,hend,length_singleton]
    omega
  have hne : listing++entryLine a ≠ [] := by
    intro hnil
    have hzero := congrArg List.length hnil
    rw [length_append,hlength,length_nil] at hzero
    omega
  rw [readOutput_whole hne h]
  intro rest hrest
  simp only [List.tails,mem_cons,not_mem_nil,or_false] at hrest
  rcases hrest with rfl | rfl
  · right
    have hsum : (listing++entryLine a).length = listing.length+(entryLine a).length := length_append
    rw [flatten_singleton,hsum,hlength]
    omega
  · exact Or.inl (Nat.zero_le _)

/-- Up to the listing of seventy-nine clients one read is enough. -/
lemma unbroken_withClients (hcount : count < 79) :
    Unbroken (readOutput [] (grepAllowedIps (withClients (count+1)).server.config))
      (allowedIPs++dottedChars (clientNo count).ip).length 4 := by
  have hlines : entryLines (count+1) = entryLines count++entryLine (clientNo count).ip := by
    rw [entryLines,range_succ,flatMap_append,flatMap_singleton,← entryLines]
  have hmost : (entryLines 79).length ≤ bufferSize := by decide +kernel
  have hle := (prefix_entryLines (by omega : count+1 ≤ 79)).length_le.trans hmost
  rw [(listing_withClients (count+1)).2]
  rw [hlines] at hle ⊢
  exact unbroken_of_short _ hle

lemma chosenIp_withClients (hcount : count < 80) :
    @chosenIp dottedQt (withClients count) [] = (clientNo count).ip := by
  cases count with
  | zero => decide
  | succ count =>
    have hnext : ∀ i < 79, following (clientNo i).ip = (clientNo (i+1)).ip := by decide
    rw [@chosenIp_of_readWhole plainInterface _ dottedQt _ (holds_withClients _) _ _
      (getLast?_withClients count) (unbroken_withClients (by omega))]
    exact hnext count (by omega)

lemma firstCreations_succ (count : ℕ) : firstCreations (count+1) =
    firstCreations count++[.create (keyNo count) fullReads] := by
  simp [firstCreations,range_succ]

lemma run_firstCreations (hcount : count ≤ 80) :
    run (@step dottedQt) ⟨plainServer,[]⟩ (firstCreations count) = withClients count := by
  induction count with
  | zero => simp [firstCreations,withClients,fileOf,plainServer]
  | succ count ih =>
    rw [firstCreations_succ,run_append,ih (by omega),run_cons,run_nil,
      @step_fullReads dottedQt,chosenIp_withClients (by omega),created,configPart_eq]
    simp [withClients,fileOf,range_succ,clientNo,Client.peer,plainServer]

lemma guarded_firstCreations {ok : History → Call → Prop} (hcount : count ≤ 81)
    (hok : ∀ i < count, ok (withClients i) (.create (keyNo i) fullReads)) :
    Runs.Guarded (@step dottedQt) ok ⟨plainServer,[]⟩ (firstCreations count) := by
  induction count with
  | zero => exact guarded_nil _ _ _
  | succ count ih =>
    rw [firstCreations_succ,guarded_append,run_firstCreations (by omega)]
    refine ⟨ih (by omega) fun i hi => hok i (by omega),?_⟩
    rw [guarded_cons]
    exact ⟨hok count (by omega),guarded_nil _ _ _⟩

lemma keyNo_not_inside (i : ℕ) : ¬(keyNo i).chars <:+: plainInterface.text := by
  intro hin
  have hle := hin.length_le
  have hshort : plainInterface.text.length < 44 := by decide
  rw [(keyNo i).length_chars] at hle
  omega

lemma keyApart_withClients (hcount : count < 999) :
    KeyApart plainInterface (withClients count) (.create (keyNo count) fullReads) := by
  refine ⟨?_,keyNo_ne (by omega) (by omega) (by omega),keyNo_not_inside count⟩
  simp only [withClients,map_map,mem_map,mem_range,not_exists,not_and]
  intro i hi heq
  exact keyNo_ne (by omega) (by omega) (Nat.ne_of_lt hi) heq

lemma readWhole_withClients (hcount : count < 80) :
    ReadWhole (withClients count) (.create (keyNo count) fullReads) := by
  intro sizes hsizes last hlast
  obtain rfl : sizes = [] := by simpa [fullReads] using hsizes.symm
  cases count with
  | zero => cases hlast
  | succ count =>
    rw [getLast?_withClients] at hlast
    obtain rfl : clientNo count = last := by simpa using hlast
    have hbound : ∀ i < 79, (clientNo i).ip.toNat < 2^32-2 := by decide
    exact ⟨unbroken_withClients (by omega),hbound count (by omega)⟩

/-- Eighty clients, one of whom is revoked. -/
theorem eighty_clients_apart : Runs.Always (@step dottedQt)
      (fun h => Holds plainInterface h ∧ (h.clients.map Client.ip).Nodup) ⟨plainServer,[]⟩
      (firstCreations 80++[.revoke 3 [keyNo 0,keyNo 1,keyNo 2,keyNo 3] ⟨true,true⟩]) := by
  apply @clients_kept_apart dottedQt _ plainInterface plainServer rfl
  · rw [guarded_append]
    refine ⟨guarded_firstCreations (by omega) fun i hi => keyApart_withClients (by omega),?_⟩
    rw [run_firstCreations (le_refl 80),guarded_cons]
    refine ⟨?_,guarded_nil _ _ _⟩
    intro key hkey
    obtain rfl : keyNo 3 = key := by simpa using hkey
    exact ⟨keyNo_ne (by omega) (by omega) (by omega),keyNo_not_inside 3⟩
  · rw [guarded_append]
    refine ⟨guarded_firstCreations (by omega) fun i hi => readWhole_withClients hi,?_⟩
    rw [guarded_cons]
    exact ⟨trivial,guarded_nil _ _ _⟩

/-- The entry of the eightieth client is read in two pieces, with a line feed between them. -/
lemma chosenIp_broken : @chosenIp dottedQt (withClients 80) [] = (clientNo 79).ip := by
  have hbroken : received (readOutput [] (entryLines 80)) =
      (received (readOutput [] (entryLines 80))).take 2019++(allowedIPs++
        (dottedChars (clientNo 78).ip++"/32\nAll\nowedIPs = 10.8.1.80/32\n\n".toList)) := by
    decide +kernel
  have hhead : ∀ c, "/32\nAll\nowedIPs = 10.8.1.80/32\n\n".toList.head? = some c →
      c.isDigit = false := by
    have hslash : "/32\nAll\nowedIPs = 10.8.1.80/32\n\n".toList.head? = some '/' := by decide
    intro c hc
    rw [hslash] at hc
    rw [← Option.some.inj hc]
    decide
  have hlater : ∀ s, s <:+ "/32\nAll\nowedIPs = 10.8.1.80/32\n\n".toList → allowedIp s = none := by
    have htails : ∀ s ∈ "/32\nAll\nowedIPs = 10.8.1.80/32\n\n".toList.tails, allowedIp s = none := by
      decide
    intro s hs
    exact htails s ((mem_tails _ _).mpr hs)
  have hlast := @getLast?_getIpsFromConf dottedQt _
    ((received (readOutput [] (entryLines 80))).take 2019) (clientNo 78).ip _ hhead hlater
  unfold chosenIp nextIp
  rw [(listing_withClients 80).2,hbroken,hlast]
  decide

/-- The eighty-first client gets the address of the eightieth. -/
theorem broken_entry_repeats_address :
    Runs.Guarded (@step dottedQt) (KeyApart plainInterface) ⟨plainServer,[]⟩ (firstCreations 81) ∧
      ¬Runs.Always (@step dottedQt)
        (fun h => Holds plainInterface h ∧ (h.clients.map Client.ip).Nodup) ⟨plainServer,[]⟩
        (firstCreations 81) := by
  refine ⟨guarded_firstCreations (le_refl 81) fun i hi => keyApart_withClients (by omega),?_⟩
  intro halways
  have hnodup := (halways _ (prefix_refl _)).2
  rw [firstCreations_succ,run_append,run_firstCreations (le_refl 80),run_cons,
    run_nil,@step_fullReads dottedQt,chosenIp_broken] at hnodup
  revert hnodup
  decide

end

end AlzheimerVPN.WireguardConfigurator
