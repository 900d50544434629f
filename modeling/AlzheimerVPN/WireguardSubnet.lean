import AlzheimerVPN.WireguardAddresses

/-! Which addresses the clients of a WireGuard server get. Whatever the pieces are in which the
listing is read, an address that is found in it is the address of a peer or one with fewer digits at
its end, so a new client stays in the subnet until its address 254 is taken. -/
namespace AlzheimerVPN.WireguardConfigurator

open Text Address Scan IpText Runs List

/-- An address of the subnet, neither the first nor the last one. -/
def InSubnet (base ip : BitVec 32) : Prop :=
  ip.toNat / 256 = base.toNat / 256 ∧ ip.toNat % 256 ≠ 0 ∧ ip.toNat % 256 ≠ 255

instance (base ip : BitVec 32) : Decidable (InSubnet base ip) :=
  inferInstanceAs (Decidable (_ ∧ _))

/-- The leading digits of a number are the digits of a smaller one. -/
lemma prefix_toDigits {n : ℕ} (hn : 0 < n) {p : List Char} (hp : p ≠ [])
    (h : p <+: Nat.toDigits 10 n) : ∃ m, 0 < m ∧ m ≤ n ∧ p = Nat.toDigits 10 m := by
  induction n using Nat.strongRecOn with
  | ind n ih =>
    by_cases hlt : n < 10
    · rw [Nat.toDigits_of_lt_base hlt] at h
      rw [← nil_append [n.digitChar],prefix_concat_iff,prefix_nil] at h
      obtain rfl := h.resolve_right hp
      exact ⟨n,hn,le_refl n,(Nat.toDigits_of_lt_base hlt).symm⟩
    · rw [Nat.toDigits_of_base_le (by decide) (by omega),prefix_concat_iff] at h
      rcases h with rfl | h
      · exact ⟨n,hn,le_refl n,(Nat.toDigits_of_base_le (by decide) (by omega)).symm⟩
      · obtain ⟨m,hm,hle,heq⟩ := ih (n/10) (by omega) (by omega) h
        exact ⟨m,hm,by omega,heq⟩

lemma digitGroups_succ_eq_some {dots : ℕ} {cs ip : List Char} (h : digitGroups (dots+1) cs = some ip) :
    ∃ group later rest, (∀ c ∈ group, c.isDigit) ∧ ip = group++ '.'::later ∧
      digitGroups dots rest = some later := by
  rw [digitGroups] at h
  split_ifs at h
  split at h
  · rename_i rest hrest
    obtain ⟨later,hlater,rfl⟩ := Option.map_eq_some_iff.mp h
    exact ⟨_,later,rest,fun c hc => mem_takeWhile_imp hc,rfl,hlater⟩
  · cases h

lemma digitGroups_zero_eq_some {cs ip : List Char} (h : digitGroups 0 cs = some ip) :
    ip ≠ [] ∧ ∀ c ∈ ip, c.isDigit := by
  rw [digitGroups] at h
  split_ifs at h with hne
  obtain rfl := Option.some.inj h
  exact ⟨hne,fun c hc => mem_takeWhile_imp hc⟩

/-- The groups that a shortened address begins with are those of the address. -/
lemma group_of_prefix {dots n : ℕ} {cs ip text : List Char}
    (h : digitGroups (dots+1) cs = some ip) (hpre : ip <+: Nat.toDigits 10 n++ '.'::text) :
    ∃ later rest, ip = Nat.toDigits 10 n++ '.'::later ∧ later <+: text ∧
      digitGroups dots rest = some later := by
  obtain ⟨group,later,rest,hgroup,rfl,hlater⟩ := digitGroups_succ_eq_some h
  obtain ⟨z,hz⟩ := hpre
  have hdot : ∀ {l : List Char}, (∀ c ∈ l, c.isDigit) → '.' ∉ l := by
    intro l hl hin
    exact absurd (hl '.' hin) (by decide)
  rw [append_assoc,cons_append] at hz
  obtain ⟨rfl,htext⟩ := separated_inj (hdot hgroup) (hdot fun c hc => toDigits_isDigit hc) hz
  exact ⟨later,rest,rfl,⟨z,htext⟩,hlater⟩

/-- What is found of a printed address of the subnet is an address of the subnet. -/
lemma found_inSubnet {base a : BitVec 32} (ha : InSubnet base a) {cs ip : List Char}
    (h : digitGroups 3 cs = some ip) (hpre : ip <+: dottedChars a++"/32".toList) :
    ∃ b, InSubnet base b ∧ ip = dottedChars b := by
  rw [dottedChars_eq] at hpre
  simp only [append_assoc,cons_append] at hpre
  obtain ⟨ip₁,rest₁,rfl,hpre,h⟩ := group_of_prefix h hpre
  obtain ⟨ip₂,rest₂,rfl,hpre,h⟩ := group_of_prefix h hpre
  obtain ⟨ip₃,rest₃,rfl,hpre,h⟩ := group_of_prefix h hpre
  obtain ⟨hne,hdigits⟩ := digitGroups_zero_eq_some h
  have hhost : ip₃ <+: Nat.toDigits 10 (octet a 3) := by
    obtain ⟨z,hz⟩ := hpre
    rcases append_eq_append_iff.mp hz with ⟨t,ht,-⟩ | ⟨t,ht,hz⟩
    · exact ⟨t,ht.symm⟩
    · cases t with
      | nil => simp [ht]
      | cons c t =>
        have hslash : "/32".toList.head? = some '/' := by decide
        rw [hz] at hslash
        obtain rfl : c = '/' := by simpa using hslash
        exact absurd (hdigits '/' (by simp [ht])) (by decide)
  have hlt := octet_lt a 3
  obtain ⟨hnet,hzero,htop⟩ := ha
  have hpos : 0 < octet a 3 := Nat.pos_of_ne_zero hzero
  obtain ⟨m,hm,hle,rfl⟩ := prefix_toDigits hpos hne hhost
  have hbound := a.isLt
  have htop' : octet a 3 ≠ 255 := htop
  obtain ⟨b,hb⟩ : ∃ b : BitVec 32, b.toNat = a.toNat / 256 * 256 + m := by
    refine ⟨BitVec.ofNat 32 (a.toNat / 256 * 256 + m),?_⟩
    rw [BitVec.toNat_ofNat,Nat.mod_eq_of_lt (by omega)]
  have hoctets : octet b 0 = octet a 0 ∧ octet b 1 = octet a 1 ∧ octet b 2 = octet a 2 ∧
      octet b 3 = m := by
    simp only [octet,hb]
    omega
  refine ⟨b,⟨by omega,by omega,by omega⟩,?_⟩
  rw [dottedChars_eq b,hoctets.1,hoctets.2.1,hoctets.2.2.1,hoctets.2.2.2]

section

variable {text : List Char}

/-- In a line of a name and a value the keyword can only end the name. -/
lemma keyword_of_inside {name value : List Char} (hname : ' ' ∉ name) (hvalue : ' ' ∉ value)
    (h : allowedIPs++text <:+: name++ ' '::("=".toList++ ' '::value)) :
    "AllowedIPs".toList <:+ name ∧ text <+: value := by
  obtain ⟨x,z,hxz⟩ := h
  have hkeyword : allowedIPs = "AllowedIPs".toList++ ' '::("=".toList++[' ']) := by decide
  have hblanks := congrArg (List.count ' ') hxz
  have htwo : allowedIPs.count ' ' = 2 := by decide
  have hequal : "=".toList.count ' ' = 0 := by decide
  simp only [count_append,count_cons_self,htwo,hequal,count_eq_zero_of_not_mem hname,
    count_eq_zero_of_not_mem hvalue] at hblanks
  have hx : ' ' ∉ x++"AllowedIPs".toList := by
    have hfront : ' ' ∉ x := count_eq_zero.mp (by omega)
    simp [hfront]
  have hlines : (x++"AllowedIPs".toList)++ ' '::("=".toList++ ' '::(text++z)) =
      name++ ' '::("=".toList++ ' '::value) := by
    rw [← hxz,hkeyword]
    simp only [append_assoc,cons_append,nil_append]
  obtain ⟨hfront,hback⟩ := separated_inj hx hname hlines
  refine ⟨⟨x,hfront⟩,⟨z,?_⟩⟩
  exact (List.cons.inj (append_cancel_left hback)).2

/-- An entry that is found in a peer section is the beginning of the entry of the peer. -/
lemma entry_of_inside {k psk : Key} {a : BitVec 32}
    (htext : ∀ c ∈ text, c.isDigit ∨ c = '.') (h : allowedIPs++text <:+: peerSection k psk a) :
    text <+: dottedChars a++"/32".toList := by
  have hline : '\n' ∉ allowedIPs++text := by
    have hword : '\n' ∉ allowedIPs := by decide
    rw [mem_append,not_or]
    refine ⟨hword,fun hin => ?_⟩
    rcases htext _ hin with h | h
    · exact absurd h (by decide)
    · exact absurd h (by decide)
  have hletter : 'A' ∈ allowedIPs++text := by
    have hword : 'A' ∈ allowedIPs := by decide
    exact mem_append_left _ hword
  have hkey : ∀ {name : List Char} (key : Key), ' ' ∉ name → ¬ "AllowedIPs".toList <:+ name →
      ¬ allowedIPs++text <:+: name++ ' '::("=".toList++ ' '::key.chars) := by
    intro name key hname hend hin
    exact hend (keyword_of_inside hname (key.not_mem (by decide)) hin).1
  have hwords : peerSection k psk a =
      "Peer]".toList++ '\n'::(("PublicKey".toList++ ' '::("=".toList++ ' '::k.chars))++ '\n'::
        (("PresharedKey".toList++ ' '::("=".toList++ ' '::psk.chars))++ '\n'::
          (("AllowedIPs".toList++ ' '::("=".toList++ ' '::(dottedChars a++"/32".toList)))++ '\n'::
            ['\n']))) := by
    have hkeyword : allowedIPs = "AllowedIPs".toList++ ' '::("=".toList++[' ']) := by decide
    rw [peerSection,hkeyword]
    simp only [append_assoc,cons_append,nil_append]
  rw [hwords] at h
  rcases infix_of_separated hline h with h | h
  · exact absurd (h.subset hletter) (by decide)
  rcases infix_of_separated hline h with h | h
  · exact absurd h (hkey k (by decide) (by decide))
  rcases infix_of_separated hline h with h | h
  · exact absurd h (hkey psk (by decide) (by decide))
  rcases infix_of_separated hline h with h | h
  · have hvalue : ' ' ∉ dottedChars a++"/32".toList := by
      have hip : ' ' ∉ dottedChars a := not_mem_dottedChars (by decide) (by decide)
      have hmask : ' ' ∉ "/32".toList := by decide
      rw [mem_append,not_or]
      exact ⟨hip,hmask⟩
    exact (keyword_of_inside (by decide) hvalue h).2
  · exact absurd (h.subset hletter) (by decide)

/-- A section without the keyword, or the section of a peer in the subnet. -/
def Regular (base : BitVec 32) (part : List Char) : Prop :=
  '[' ∉ part ∧ (¬ "AllowedIPs".toList <:+: part ∨
    ∃ k psk ip, part = peerSection k psk ip ∧ InSubnet base ip)

/-- All peers of the file are in the subnet. -/
def Inside (base : BitVec 32) (config : List Char) : Prop :=
  ∃ sections, config = fileOf sections ∧ ∀ part ∈ sections, Regular base part

variable {base : BitVec 32} {config : List Char}

lemma Inside.append (h : Inside base config) (k psk : Key) {ip : BitVec 32}
    (hip : InSubnet base ip) : Inside base (config++configPart k psk ip) := by
  obtain ⟨sections,rfl,hparts⟩ := h
  refine ⟨sections++[peerSection k psk ip],?_,?_⟩
  · rw [configPart_eq]
    simp [fileOf]
  · intro part hpart
    rcases mem_append.mp hpart with hpart | hpart
    · exact hparts part hpart
    · rw [mem_singleton.mp hpart]
      exact ⟨bracket_not_mem_peerSection _ _ _,Or.inr ⟨k,psk,ip,rfl,hip⟩⟩

lemma Inside.removeSection (h : Inside base config) (clientId : List Char) :
    Inside base (removeSection config clientId) := by
  obtain ⟨sections,rfl,hparts⟩ := h
  rw [removeSection_fileOf fun part hpart => (hparts part hpart).1]
  set kept := (sections.filter fun part => !part.isEmpty).eraseP (containsChars clientId) with hkept
  have hsub : ∀ part ∈ kept, part ∈ sections := by
    intro part hpart
    exact (mem_filter.mp (mem_of_mem_eraseP hpart)).1
  by_cases hnil : kept = []
  · -- a file without sections is written as a bracket
    refine ⟨[[]],by rw [hnil]; simp [fileOf],?_⟩
    intro part hpart
    rw [mem_singleton.mp hpart]
    have hkeyword : ¬ "AllowedIPs".toList <:+: [] := by decide
    exact ⟨by simp,Or.inl hkeyword⟩
  · exact ⟨kept,fileOf_of_ne_nil hnil,fun part hpart => hparts part (hsub part hpart)⟩

/-- What is found in a listing of the file stands in the file. -/
lemma infix_of_listing {sizes : List ℕ} (hne : text ≠ []) (hline : '\n' ∉ text)
    (h : text <:+: received (readOutput sizes (grepAllowedIps config))) : text <:+: config := by
  have hout := infix_of_received hne hline h
  rw [flatten_readOutput,grepAllowedIps] at hout
  obtain ⟨line,hin,hinner⟩ := infix_of_ended hne hline hout
  exact hinner.trans (infix_of_mem_splitOn (mem_filter.mp hin).1)

end

section

variable {base : BitVec 32} {h : History}

lemma found_of_mem {config text : List Char} {sizes : List ℕ} (hinside : Inside base config)
    (hfound : text ∈ globalMatch allowedIp (received (readOutput sizes (grepAllowedIps config)))) :
    ∃ b, InSubnet base b ∧ text = dottedChars b ∧ allowedIPs++text <:+: config := by
  obtain ⟨s,taken,hs,hmatch⟩ := exists_of_mem_matchesFrom hfound
  obtain ⟨rest,rfl,hgroups,-⟩ := allowedIp_eq_some hmatch
  have htext := mem_digitGroups hgroups
  have hentry : allowedIPs++text <:+: received (readOutput sizes (grepAllowedIps config)) := by
    rw [← append_assoc] at hs
    exact (prefix_append _ _).isInfix.trans hs.isInfix
  have hword : allowedIPs ≠ [] ∧ '\n' ∉ allowedIPs ∧ '[' ∉ allowedIPs ∧
      "AllowedIPs".toList <+: allowedIPs := by decide
  have hne : allowedIPs++text ≠ [] := by simp [hword.1]
  have hmem : ∀ {c : Char}, c ∉ allowedIPs → c.isDigit = false → c ≠ '.' → c ∉ allowedIPs++text := by
    intro c hc hdigit hdot hin
    rcases mem_append.mp hin with hin | hin
    · exact hc hin
    · rcases htext c hin with h | h
      · rw [hdigit] at h
        cases h
      · exact hdot h
  have hfile := infix_of_listing hne (hmem hword.2.1 (by decide) (by decide)) hentry
  obtain ⟨sections,rfl,hparts⟩ := hinside
  obtain ⟨part,hpart,hin⟩ := infix_of_begun hne (hmem hword.2.2.1 (by decide) (by decide)) hfile
  rcases (hparts part hpart).2 with hnone | ⟨k,psk,ip,rfl,hip⟩
  · exact absurd ((hword.2.2.2.trans (prefix_append _ _)).isInfix.trans hin) hnone
  · obtain ⟨b,hb,rfl⟩ := found_inSubnet hip hgroups (entry_of_inside htext hin)
    exact ⟨b,hb,rfl,hfile⟩

lemma following_inSubnet {a : BitVec 32} (hnet : a.toNat / 256 = base.toNat / 256)
    (hhost : a.toNat % 256 < 254) : InSubnet base (following a) := by
  have hlt := a.isLt
  have hone : (1 : BitVec 32).toNat = 1 := rfl
  have hnext : (following a).toNat = a.toNat+1 := by
    rw [following,if_neg (by omega),if_neg (by omega),BitVec.toNat_add,hone]
    omega
  refine ⟨?_,?_,?_⟩ <;> rw [hnext] <;> omega

/-- No peer of the file has the address 254 of the subnet when a client is created. -/
def EndFree (base : BitVec 32) (h : History) : Call → Prop
  | .create _ _ => ¬allowedIPs++dottedChars (base+254) <:+: h.server.config
  | .revoke _ _ _ => True

variable [Qt]

/-- A creation that succeeds assigns an address of the subnet. -/
def AssignsInside (base : BitVec 32) (h : History) : Call → Prop
  | .create key replies =>
      ∀ ip ∈ (prepareWireguardConfig h.server key replies).2, InSubnet base ip
  | .revoke _ _ _ => True

/-- The subnet address of the settings is the first address of a subnet of 256. -/
def SubnetBase (base : BitVec 32) (h : History) : Prop :=
  Qt.hostAddress h.server.subnet = .ipv4 base ∧ base.toNat % 256 = 0

lemma chosenIp_of_mem {key : Key} {replies : CreateReplies} {ip : BitVec 32}
    (hip : ip ∈ (prepareWireguardConfig h.server key replies).2) :
    ∃ sizes, ip = chosenIp h sizes := by
  rw [prepareWireguardConfig] at hip
  cases hlisting : replies.listing with
  | none =>
    rw [hlisting] at hip
    cases hip
  | some sizes =>
    rw [hlisting] at hip
    simp only at hip
    split at hip
    case isTrue => exact ⟨sizes,(Option.some.inj hip).symm⟩
    case isFalse => cases hip

variable [LawfulQt]

lemma chosenIp_inSubnet (hbase : SubnetBase base h) (hinside : Inside base h.server.config)
    (hfree : ¬allowedIPs++dottedChars (base+254) <:+: h.server.config) (sizes : List ℕ) :
    InSubnet base (chosenIp h sizes) := by
  unfold chosenIp nextIp
  cases hlast : (getIpsFromConf (received (readOutput sizes
      (grepAllowedIps h.server.config)))).getLast? with
  | none =>
    rw [Option.getD_none,hbase.1]
    have hzero := hbase.2
    exact following_inSubnet rfl (by rw [HostAddress.toIPv4Address]; omega)
  | some address =>
    rw [Option.getD_some]
    have hin := mem_of_getLast? hlast
    obtain ⟨text,htext,rfl⟩ := mem_map.mp (mem_filter.mp hin).1
    obtain ⟨b,⟨hnet,hzero,htop⟩,rfl,hfile⟩ := found_of_mem hinside htext
    have hread : Qt.hostAddress (String.ofList (dottedChars b)) = .ipv4 b :=
      LawfulQt.hostAddress_dotted b
    rw [hread]
    apply following_inSubnet hnet
    have hne : b.toNat % 256 ≠ 254 := by
      intro hend
      have hb : b = base+254 := by
        apply BitVec.eq_of_toNat_eq
        have hlt := b.isLt
        have hconst : (254 : BitVec 32).toNat = 254 := rfl
        have hbase := hbase.2
        rw [BitVec.toNat_add,hconst]
        omega
      exact hfree (hb ▸ hfile)
    omega

/-- As long as the address 254 is free at each creation, every client gets an address of the
subnet that is neither its first nor its last one, whatever was created and revoked before. -/
theorem assigned_in_subnet (interface : InterfaceSection)
    (hinterface : ¬ "AllowedIPs".toList <:+: interface.text) (server : Server)
    (hfile : server.config = '['::interface.text) (hbase : SubnetBase base ⟨server,[]⟩)
    (calls : List Call) (hfree : Runs.Guarded step (EndFree base) ⟨server,[]⟩ calls) :
    Runs.Guarded step (AssignsInside base) ⟨server,[]⟩ calls := by
  have hstart : Inside base server.config := by
    refine ⟨[interface.text],by simp [hfile,fileOf],?_⟩
    intro part hpart
    rw [mem_singleton.mp hpart]
    exact ⟨interface.bracket_not_mem,Or.inl hinterface⟩
  have hstep : ∀ h call, SubnetBase base h ∧ Inside base h.server.config → EndFree base h call →
      SubnetBase base (step h call) ∧ Inside base (step h call).server.config := by
    rintro h call ⟨hb,hinside⟩ hcall
    cases call with
    | create key replies =>
      rcases step_create h key replies with hsame | ⟨sizes,-,hstep⟩
      · rw [hsame]
        exact ⟨hb,hinside⟩
      · rw [hstep]
        exact ⟨hb,hinside.append _ _ (chosenIp_inSubnet hb hinside hcall sizes)⟩
    | revoke row clientsTable replies =>
      rcases step_revoke h row clientsTable replies with hsame | ⟨key,-,hstep⟩
      · rw [hsame]
        exact ⟨hb,hinside⟩
      · rw [hstep]
        exact ⟨hb,hinside.removeSection _⟩
  intro pre call hpre
  have hbefore : Runs.Guarded step (EndFree base) ⟨server,[]⟩ pre := by
    intro first other hfirst
    exact hfree first other (hfirst.trans ((prefix_append pre [call]).trans hpre))
  obtain ⟨hb,hinside⟩ := run_invariant hstep ⟨hbase,hstart⟩ hbefore
  have hcall := hfree pre call hpre
  cases call with
  | revoke row clientsTable replies => trivial
  | create key replies =>
    intro ip hip
    obtain ⟨sizes,hchosen⟩ := chosenIp_of_mem hip
    rw [hchosen]
    exact chosenIp_inSubnet hb hinside hcall sizes

end

/-- The subnet address of the default settings. -/
def defaultBase : BitVec 32 := 0x0a080100

lemma subnetBase_plainServer : @SubnetBase dottedQt defaultBase ⟨plainServer,[]⟩ := by
  refine ⟨?_,by decide⟩
  decide

theorem first_clients_in_subnet :
    Runs.Guarded (@step dottedQt) (@AssignsInside dottedQt defaultBase) ⟨plainServer,[]⟩
      (firstCreations 2) := by
  apply @assigned_in_subnet defaultBase dottedQt _ plainInterface (by decide) plainServer rfl
    subnetBase_plainServer
  refine guarded_firstCreations (by decide) ?_
  intro i hi
  have hfree : ∀ i < 2, ¬allowedIPs++dottedChars (defaultBase+254) <:+:
      (withClients i).server.config := by decide +kernel
  exact hfree i hi

/-- The server with one client, the last one of those that were created. -/
def alone (i : ℕ) : History :=
  ⟨{ plainServer with config := fileOf [plainInterface.text,(clientNo i).peer (keyNo 999)] },[clientNo i]⟩

/-- A client takes the place of another. -/
def replacement (i : ℕ) : List Call :=
  [.create (keyNo (i+1)) fullReads,.revoke 0 [keyNo i] ⟨true,true⟩]

lemma listing_alone (i : ℕ) :
    grepAllowedIps (alone i).server.config = entryLine (clientNo i).ip := by
  have hkey : 'A' ∉ (clientNo i).key.chars := letter_not_mem_keyNo i
  obtain ⟨⟨before,hbefore⟩,hlisting⟩ := listing_withClients 0
  have hconfig : (alone i).server.config = (withClients 0).server.config++
      '['::peerSection (clientNo i).key (keyNo 999) (clientNo i).ip := by
    simp [alone,withClients,fileOf,Client.peer]
  rw [hbefore] at hconfig hlisting
  rw [hconfig,grepAllowedIps_peer hkey (letter_not_mem_keyNo _),hlisting]
  rfl

lemma holds_alone (i : ℕ) : Holds plainInterface (alone i) := rfl

lemma chosenIp_alone (i : ℕ) : @chosenIp dottedQt (alone i) [] = following (clientNo i).ip := by
  apply @chosenIp_of_readWhole plainInterface _ dottedQt _ (holds_alone i) (clientNo i) [] rfl
  rw [listing_alone]
  have hshort : ([]++entryLine (clientNo i).ip).length ≤ bufferSize := by
    have hle := length_dottedChars_le (clientNo i).ip
    have hword : allowedIPs.length = 13 ∧ "/32".toList.length = 3 := by decide
    simp only [entryLine,bufferSize,nil_append,length_append,hword,length_singleton]
    omega
  exact unbroken_of_short _ hshort

lemma run_replacement {i : ℕ} (hi : i < 253) :
    @step dottedQt (alone i) (.create (keyNo (i+1)) fullReads) = created (alone i) (clientNo (i+1)) ∧
      run (@step dottedQt) (alone i) (replacement i) = alone (i+1) := by
  have hnext : ∀ i < 253, following (clientNo i).ip = (clientNo (i+1)).ip := by decide +kernel
  have hcreate : @step dottedQt (alone i) (.create (keyNo (i+1)) fullReads) =
      created (alone i) (clientNo (i+1)) := by
    rw [@step_fullReads dottedQt,chosenIp_alone,hnext i hi]
    rfl
  refine ⟨hcreate,?_⟩
  have hrevoke : ∀ h : History, @step dottedQt h (.revoke 0 [keyNo i] ⟨true,true⟩) =
      revoked h (keyNo i) := by
    intro h
    simp [step,revokeWireGuard,revoked]
  have hne : keyNo i ≠ keyNo (i+1) := keyNo_ne (by omega) (by omega) (by omega)
  have hholds := holds_created (holds_alone i) (clientNo (i+1))
  have hpsk : keyNo i ≠ (created (alone i) (clientNo (i+1))).server.pskKey :=
    keyNo_ne (j := 999) (by omega) (by omega) (by omega)
  have hkeys : ((created (alone i) (clientNo (i+1))).clients.map Client.key).Nodup := by
    simpa [created,alone,clientNo] using hne
  have hkept : (created (alone i) (clientNo (i+1))).clients.filter (fun client =>
      client.key ≠ keyNo i) = [clientNo (i+1)] := by
    simp [created,alone,clientNo,hne.symm]
  rw [Holds] at hholds
  rw [replacement,run_cons,hcreate,run_cons,run_nil,hrevoke,revoked,hkept,hholds,
    removeSection_holds hpsk (keyNo_not_inside i) hkeys,hkept]
  rfl

/-- One client after the other: each is revoked when the next one has been created. -/
def replacements (count : ℕ) : List Call := firstCreations 1++(List.range count).flatMap replacement

lemma run_replacements {count : ℕ} (hcount : count ≤ 253) :
    run (@step dottedQt) ⟨plainServer,[]⟩ (replacements count) = alone count ∧
      Runs.Guarded (@step dottedQt) (fun h _ => h.clients.length < 254) ⟨plainServer,[]⟩
        (replacements count) := by
  induction count with
  | zero =>
    have hone : run (@step dottedQt) ⟨plainServer,[]⟩ (firstCreations 1) = withClients 1 :=
      run_firstCreations (by decide)
    refine ⟨?_,?_⟩
    · rw [replacements,range_zero,flatMap_nil,append_nil,hone]
      rfl
    · rw [replacements,range_zero,flatMap_nil,append_nil]
      refine guarded_firstCreations (by decide) ?_
      intro i hi
      obtain rfl : i = 0 := by omega
      decide
  | succ count ih =>
    obtain ⟨hrun,hfew⟩ := ih (by omega)
    obtain ⟨hcreate,hreplaced⟩ := run_replacement (i := count) (by omega)
    have hcons : replacements (count+1) = replacements count++replacement count := by
      simp [replacements,range_succ]
    refine ⟨?_,?_⟩
    · rw [hcons,run_append,hrun,hreplaced]
    · rw [hcons,guarded_append,hrun]
      refine ⟨hfew,?_⟩
      rw [replacement,guarded_cons,hcreate,guarded_cons]
      exact ⟨by simp [alone],by simp [created,alone],guarded_nil _ _ _⟩

/-- After two hundred and fifty-four clients, of whom all but the last were revoked, the next one
gets an address of the next subnet. -/
theorem second_client_leaves_subnet :
    Runs.Guarded (@step dottedQt) (fun h _ => h.clients.length < 254) ⟨plainServer,[]⟩
        (replacements 253++[.create (keyNo 254) fullReads]) ∧
      ¬Runs.Guarded (@step dottedQt) (@AssignsInside dottedQt defaultBase) ⟨plainServer,[]⟩
        (replacements 253++[.create (keyNo 254) fullReads]) := by
  obtain ⟨hrun,hfew⟩ := run_replacements (le_refl 253)
  rw [guarded_append,guarded_append,hrun,guarded_cons,guarded_cons]
  refine ⟨⟨hfew,by simp [alone],guarded_nil _ _ _⟩,?_⟩
  rintro ⟨-,hassigned,-⟩
  have hip : @chosenIp dottedQt (alone 253) [] ∈
      (@prepareWireguardConfig dottedQt (alone 253).server (keyNo 254) fullReads).2 := rfl
  have hinside := hassigned _ hip
  rw [chosenIp_alone] at hinside
  revert hinside
  decide

end AlzheimerVPN.WireguardConfigurator
