import AlzheimerVPN.WireguardFile

/-! Which WireGuard files keep their meaning when they are imported. Each name has one value in
the map of `extractWireGuardConfig`, the last one, and the expression for the name servers wants
two addresses behind `DNS = `. -/
namespace AlzheimerVPN.ImportController

open Text Address Scan IpText Option List

section

variable (configMap : QMap String)

lemma value_insertGiven (object : JsonObject) (name key other : String) (h : other ≠ key) :
    (insertGiven configMap object name key).value other = object.value other := by
  rw [insertGiven]
  split_ifs
  · rfl
  · rw [JsonObject.value_insert,if_neg h]

lemma value_awgKeys (object : JsonObject) {names : List String} {other : String}
    (h : other ∉ names) :
    (names.foldl (fun object key => insertGiven configMap object key key) object).value other =
      object.value other := by
  induction names generalizing object with
  | nil => rfl
  | cons name names ih =>
    rw [mem_cons,not_or] at h
    rw [foldl_cons,ih _ h.2,value_insertGiven _ _ _ _ _ h.1]

lemma value_presharedKey (object : JsonObject) {other : String} (h : other ≠ "psk_key") :
    (presharedKey configMap object).value other = object.value other := by
  rw [presharedKey]
  split_ifs
  · rw [JsonObject.value_insert,if_neg h]
  · exact value_insertGiven _ _ _ _ _ h

/-- The preshared key under either spelling of its name. -/
def pskOf (configMap : QMap String) : String :=
  if valueOf configMap "PresharedKey" ≠ "" then valueOf configMap "PresharedKey"
  else valueOf configMap "PreSharedKey"

lemma psk_presharedKey (object : JsonObject) (h : object.value "psk_key" = .undefined) :
    (presharedKey configMap object).value "psk_key" =
      if pskOf configMap = "" then .undefined else .str (pskOf configMap) := by
  rw [presharedKey,pskOf]
  by_cases hgiven : valueOf configMap "PresharedKey" ≠ ""
  · rw [if_pos hgiven,if_pos hgiven,if_neg hgiven,JsonObject.value_insert,if_pos rfl]
  · rw [if_neg hgiven,if_neg hgiven,insertGiven]
    split_ifs
    · exact h
    · rw [JsonObject.value_insert,if_pos rfl]

variable [Urls] (description defaultMtu : String) (toJson : JsonObject → String)

/-- What the result holds of the map and of the name servers. -/
structure Reads (lines : List (List Char)) (e : Extracted) : Prop where
  privateKey : e.lastConfig.value "client_priv_key" = .str (valueOf (readLines lines) "PrivateKey")
  address : e.lastConfig.value "client_ip" = .str (valueOf (readLines lines) "Address")
  publicKey : e.lastConfig.value "server_pub_key" = .str (valueOf (readLines lines) "PublicKey")
  psk : e.lastConfig.value "psk_key" = if pskOf (readLines lines) = "" then .undefined
    else .str (pskOf (readLines lines))
  host : e.lastConfig.value "hostName" =
    .str (Urls.fromUserInput (valueOf (readLines lines) "Endpoint")).host
  port : e.lastConfig.value "port" =
    .num (((Urls.fromUserInput (valueOf (readLines lines) "Endpoint")).port.map
      fun port => (port.val : ℤ)).getD 51820)
  allowedIps : e.lastConfig.value "allowed_ips" =
    .arr ((splitCommas (valueOf (readLines lines) "AllowedIPs").toList).map
      fun entry => .str (String.ofList entry))
  dns1 : e.config.value "dns1" =
    ((dnsMatch lines).map fun found => Json.str (String.ofList found.1)).getD .undefined
  dns2 : e.config.value "dns2" =
    ((dnsMatch lines).map fun found => Json.str (String.ofList found.2)).getD .undefined

lemma extract_reads {data : List Char}
    (hhost : (Urls.fromUserInput (valueOf (readLines (data.splitOn '\n')) "Endpoint")).host ≠ "")
    (hkeys : ¬ (valueOf (readLines (data.splitOn '\n')) "PrivateKey" = "" ∨
      valueOf (readLines (data.splitOn '\n')) "Address" = "" ∨
      valueOf (readLines (data.splitOn '\n')) "PublicKey" = "")) :
    ∃ e, extractWireGuardConfig description defaultMtu toJson data = some e ∧
      Reads (data.splitOn '\n') e := by
  simp only [extractWireGuardConfig]
  rw [if_neg hhost,if_neg hkeys]
  refine ⟨_,rfl,?_⟩
  have hmtu : ∀ (c : Prop) [Decidable c] (object : JsonObject) (a b : Json) (other : String),
      other ≠ "mtu" → (if c then object.insert "mtu" a else object.insert "mtu" b).value other =
        object.value other := by
    intro c _ object a b other hother
    split_ifs <;> rw [JsonObject.value_insert,if_neg hother]
  -- neither the keys of AmneziaWG nor the size of the packets are among the fields below
  constructor
  case psk =>
    rw [hmtu _ _ _ _ _ (by decide),value_awgKeys _ _ (by decide)]
    simp (disch := decide) only [value_insertGiven,JsonObject.value_insert]
    simp only [String.reduceEq,if_false]
    rw [psk_presharedKey _ _ (by simp)]
  case port =>
    rw [hmtu _ _ _ _ _ (by decide),value_awgKeys _ _ (by decide)]
    simp (disch := decide) only [value_insertGiven,value_presharedKey,JsonObject.value_insert]
    simp only [String.reduceEq,if_false,if_true]
    cases (Urls.fromUserInput (valueOf (readLines (data.splitOn '\n')) "Endpoint")).port with
    | none =>
      have hdefault : toInt defaultPort = some 51820 := by decide
      simp only [hdefault]
      rfl
    | some port =>
      have hport := port.isLt
      have hsmall : (port : ℕ) ≤ 2147483647 := by omega
      simp only [toInt_toDigits,if_pos hsmall]
      rfl
  case privateKey | address | publicKey | host | allowedIps =>
    rw [hmtu _ _ _ _ _ (by decide),value_awgKeys _ _ (by decide)]
    simp (disch := decide) only [value_insertGiven,value_presharedKey,JsonObject.value_insert]
    simp
  case dns1 => cases dnsMatch (data.splitOn '\n') <;> simp
  case dns2 => cases dnsMatch (data.splitOn '\n') <;> simp

end

/-- A file that gives each key and the endpoint once and at least one address, with one or two name
servers or none. `AllowedIPs`, `Address` and `DNS` may be repeated. -/
structure WireGuardFile where
  lines : List Line
  privateKey : List Char
  publicKey : List Char
  presharedKey : Option (List Char)
  endpoint : List Char
  dns : List DnsListing
  privateKey_given : valuesOf lines "PrivateKey" = [privateKey]
  publicKey_given : valuesOf lines "PublicKey" = [publicKey]
  presharedKey_given :
    valuesOf lines "PresharedKey"++valuesOf lines "PreSharedKey" = presharedKey.toList
  keys_ne_nil : ∀ key ∈ privateKey::publicKey::presharedKey.toList, key ≠ []
  endpoint_given : valuesOf lines "Endpoint" = [endpoint]
  address_given : valuesOf lines "Address" ≠ []
  address_ne_nil : ∀ value ∈ valuesOf lines "Address", value ≠ []
  dns_given : valuesOf lines "DNS" = dns.map DnsListing.text
  dns_count : (dns.flatMap DnsListing.addresses).length ≤ 2

namespace WireGuardFile

def text (file : WireGuardFile) : List Char := ['\n'].intercalate (file.lines.map Line.text)

def addresses (file : WireGuardFile) : List (List Char) := valuesOf file.lines "Address"

/-- The entries of all lines for the allowed addresses. -/
def allowedIps (file : WireGuardFile) : List (List Char) :=
  (valuesOf file.lines "AllowedIPs").flatMap splitCommas

def dnsServers (file : WireGuardFile) : List (BitVec 32) := file.dns.flatMap DnsListing.addresses

/-- The result has what the file says. -/
structure KeptIn [Urls] (file : WireGuardFile) (e : Extracted) : Prop where
  privateKey : e.lastConfig.value "client_priv_key" = .str (String.ofList file.privateKey)
  address : e.lastConfig.value "client_ip" =
    .str (String.ofList (", ".toList.intercalate file.addresses))
  publicKey : e.lastConfig.value "server_pub_key" = .str (String.ofList file.publicKey)
  psk : e.lastConfig.value "psk_key" =
    (file.presharedKey.map fun key => Json.str (String.ofList key)).getD .undefined
  host : e.lastConfig.value "hostName" =
    .str (Urls.fromUserInput (String.ofList file.endpoint)).host
  port : e.lastConfig.value "port" =
    .num (((Urls.fromUserInput (String.ofList file.endpoint)).port.map
      fun port => (port.val : ℤ)).getD 51820)
  allowedIps : e.lastConfig.value "allowed_ips" =
    .arr (file.allowedIps.map fun entry => .str (String.ofList entry))
  dns1 : e.config.value "dns1" =
    (file.dnsServers[0]?.map fun a => Json.str (dotted a)).getD .undefined
  dns2 : e.config.value "dns2" =
    (file.dnsServers[1]?.map fun a => Json.str (dotted a)).getD .undefined

/-- One line for the addresses; nothing in the lines for the allowed addresses but the last; the
name servers, if there are any, both in a line of the form `DNS = a, b`. -/
structure Plain (file : WireGuardFile) : Prop where
  address : file.addresses.length = 1
  allowedIps : ∀ value ∈ (valuesOf file.lines "AllowedIPs").dropLast, splitCommas value = []
  dns : ∀ s ∈ settingsOf file.lines "DNS", s.before = [' '] ∧ s.after = [' '] ∧ ',' ∈ s.value

variable (file : WireGuardFile)

lemma splitOn_text : file.text.splitOn '\n' = file.lines.map Line.text := by
  have hne : file.lines.map Line.text ≠ [] := by
    intro hnil
    have hgiven := file.privateKey_given
    rw [map_eq_nil_iff.mp hnil] at hgiven
    cases hgiven
  apply splitOn_intercalate _ _ hne
  intro text htext
  obtain ⟨line,-,rfl⟩ := mem_map.mp htext
  cases line with
  | remark r => exact r.text_line
  | setting s =>
    simp only [Line.text,Setting.text,mem_append,mem_cons,not_or]
    refine ⟨s.name_plain.2,?_,by decide,?_,s.value_line⟩
    · intro hin
      rcases s.blanks '\n' (mem_append_left _ hin) with h | h
      · exact absurd h (by decide)
      · exact absurd h (by decide)
    · intro hin
      rcases s.blanks '\n' (mem_append_right _ hin) with h | h
      · exact absurd h (by decide)
      · exact absurd h (by decide)

lemma valueOf_lines (key : String) (hkey : key.toList.head? ≠ some '#') :
    valueOf (readLines (file.text.splitOn '\n')) key =
      String.ofList ((valuesOf file.lines key).getLast?.getD []) := by
  rw [splitOn_text,valueOf_readLines file.lines hkey]

lemma psk_lines : (if pskOf (readLines (file.text.splitOn '\n')) = "" then Json.undefined
      else .str (pskOf (readLines (file.text.splitOn '\n')))) =
    (file.presharedKey.map fun key => Json.str (String.ofList key)).getD .undefined := by
  have hvalue := file.valueOf_lines "PresharedKey" (by decide)
  have hother := file.valueOf_lines "PreSharedKey" (by decide)
  have hgiven := file.presharedKey_given
  have hne := file.keys_ne_nil
  have hnil : String.ofList [] = "" := rfl
  cases hkey : file.presharedKey with
  | none =>
    rw [hkey,toList_none,append_eq_nil_iff] at hgiven
    rw [hgiven.1,List.getLast?_nil,getD_none,hnil] at hvalue
    rw [hgiven.2,List.getLast?_nil,getD_none,hnil] at hother
    simp [pskOf,hvalue,hother]
  | some key =>
    have hfull : String.ofList key ≠ "" := by
      intro hempty
      apply hne key (by simp [hkey])
      simpa using congrArg String.toList hempty
    rw [hkey,toList_some,append_eq_singleton_iff] at hgiven
    rcases hgiven with ⟨hfirst,hsecond⟩ | ⟨hfirst,hsecond⟩
    · rw [hfirst,List.getLast?_nil,getD_none,hnil] at hvalue
      rw [hsecond,List.getLast?_singleton,getD_some] at hother
      simp [pskOf,hvalue,hother,hfull]
    · rw [hfirst,List.getLast?_singleton,getD_some] at hvalue
      simp [pskOf,hvalue,hfull]

/-- Where no other line is taken for one, the lines of the name servers decide. -/
lemma dnsMatch_lines {lines : List Line}
    (h : ∀ line ∈ lines, line.named "DNS" = none → dnsInLine line.text = none) :
    dnsMatch (lines.map Line.text) =
      (settingsOf lines "DNS").findSome? fun s => dnsInLine s.text := by
  induction lines with
  | nil => rfl
  | cons line lines ih =>
    have hlater := ih fun other hin => h other (mem_cons_of_mem _ hin)
    rw [dnsMatch] at hlater ⊢
    rw [map_cons,List.findSome?_cons,hlater]
    cases hnamed : line.named "DNS" with
    | none =>
      have hsame : settingsOf (line::lines) "DNS" = settingsOf lines "DNS" :=
        filterMap_cons_none hnamed
      rw [h line mem_cons_self hnamed,hsame]
    | some s =>
      have hline : line = .setting s := by
        cases line with
        | remark r => cases hnamed
        | setting other =>
          rw [Line.named] at hnamed
          split_ifs at hnamed
          rw [some.inj hnamed]
      have hmore : settingsOf (line::lines) "DNS" = s::settingsOf lines "DNS" :=
        filterMap_cons_some hnamed
      rw [hmore,List.findSome?_cons,hline]
      rfl

lemma listing_of_mem {s : Setting} (h : s ∈ settingsOf file.lines "DNS") :
    s.name = ['D','N','S'] ∧ ∃ l ∈ file.dns, s.value = l.text := by
  have hname : s.name = "DNS".toList := by
    obtain ⟨line,-,hline⟩ := mem_filterMap.mp h
    cases line with
    | remark r => cases hline
    | setting other =>
      rw [Line.named] at hline
      split_ifs at hline with hname
      rw [← some.inj hline]
      exact hname
  have hvalue : s.value ∈ valuesOf file.lines "DNS" := mem_map_of_mem h
  rw [file.dns_given] at hvalue
  obtain ⟨l,hl,heq⟩ := mem_map.mp hvalue
  have hletters : "DNS".toList = ['D','N','S'] := by decide
  exact ⟨hname.trans hletters,l,hl,heq.symm⟩

/-- A listing of two name servers is the only one. -/
lemma dns_of_second {l : DnsListing} (h : l ∈ file.dns) (hsecond : l.second.isSome) :
    file.dns = [l] := by
  obtain ⟨x,y,hxy⟩ := append_of_mem h
  have hcount := file.dns_count
  have htwo : l.addresses.length = 2 := by
    obtain ⟨p,hp⟩ := isSome_iff_exists.mp hsecond
    simp [DnsListing.addresses,hp]
  have hnil : ∀ ls : List DnsListing, (ls.flatMap DnsListing.addresses).length = 0 → ls = [] := by
    intro ls hzero
    cases ls with
    | nil => rfl
    | cons first ls => simp [DnsListing.addresses] at hzero
  rw [hxy,flatMap_append,flatMap_cons,length_append,length_append,htwo] at hcount
  rw [hxy,hnil x (by omega),hnil y (by omega)]
  rfl

lemma comma_mem_iff (l : DnsListing) : ',' ∈ l.text ↔ l.second.isSome := by
  have hip : ∀ a, ',' ∉ dottedChars a := fun a => not_mem_dottedChars (by decide) (by decide)
  cases hsecond : l.second with
  | none => simp [DnsListing.text,hsecond,hip]
  | some p => simp [DnsListing.text,hsecond]

/-- The name servers of a plain file are found. -/
lemma dns_of_plain (h : ∀ line ∈ file.lines, line.named "DNS" = none → dnsInLine line.text = none)
    (hplain : file.Plain) :
    ((dnsMatch (file.text.splitOn '\n')).map fun found => Json.str (String.ofList found.1)).getD
        .undefined = (file.dnsServers[0]?.map fun a => Json.str (dotted a)).getD .undefined ∧
      ((dnsMatch (file.text.splitOn '\n')).map fun found => Json.str (String.ofList found.2)).getD
        .undefined = (file.dnsServers[1]?.map fun a => Json.str (dotted a)).getD .undefined := by
  rw [splitOn_text,dnsMatch_lines h]
  have hdns := hplain.dns
  have hlength : (settingsOf file.lines "DNS").length = file.dns.length := by
    have hlengths := congrArg List.length file.dns_given
    simpa [valuesOf] using hlengths
  cases hsettings : settingsOf file.lines "DNS" with
  | nil =>
    rw [hsettings] at hlength
    have hnone : file.dns = [] := length_eq_zero_iff.mp hlength.symm
    simp [dnsServers,hnone]
  | cons s settings =>
    obtain ⟨hname,l,hl,hvalue⟩ := file.listing_of_mem (s := s) (by simp [hsettings])
    obtain ⟨hbefore,hafter,hcomma⟩ := hdns s (by simp [hsettings])
    have hsecond : l.second.isSome := (comma_mem_iff l).mp (hvalue ▸ hcomma)
    obtain ⟨p,hp⟩ := isSome_iff_exists.mp hsecond
    have honly := file.dns_of_second hl hsecond
    have hfound : dnsInLine s.text = some (dottedChars l.first,dottedChars p.2.2) := by
      rw [dnsInLine_setting hname hvalue,if_pos ⟨hbefore,hafter⟩,hp]
      rfl
    simp [dnsServers,honly,DnsListing.addresses,hp,hfound,dotted]

/-- Name servers that are found are written plainly. -/
lemma plain_of_dns (h : ∀ line ∈ file.lines, line.named "DNS" = none → dnsInLine line.text = none)
    (hfirst : ((dnsMatch (file.text.splitOn '\n')).map fun found =>
      Json.str (String.ofList found.1)).getD .undefined =
        (file.dnsServers[0]?.map fun a => Json.str (dotted a)).getD .undefined) :
    ∀ s ∈ settingsOf file.lines "DNS", s.before = [' '] ∧ s.after = [' '] ∧ ',' ∈ s.value := by
  rw [splitOn_text,dnsMatch_lines h] at hfirst
  intro s hs
  obtain ⟨-,l,hl,-⟩ := file.listing_of_mem hs
  have hserver : ∃ a, file.dnsServers[0]? = some a := by
    cases hdns : file.dns with
    | nil =>
      rw [hdns] at hl
      cases hl
    | cons first dns => exact ⟨first.first,by simp [dnsServers,hdns,DnsListing.addresses]⟩
  obtain ⟨a,ha⟩ := hserver
  cases hfound : (settingsOf file.lines "DNS").findSome? fun s => dnsInLine s.text with
  | none =>
    rw [hfound,ha] at hfirst
    cases hfirst
  | some found =>
    obtain ⟨other,hother,hline⟩ := exists_of_findSome?_eq_some hfound
    obtain ⟨hname,k,hk,hvalue⟩ := file.listing_of_mem hother
    rw [dnsInLine_setting hname hvalue] at hline
    split_ifs at hline with hblanks
    have hsecond : k.second.isSome := by
      rw [map_eq_some_iff] at hline
      obtain ⟨p,hp,-⟩ := hline
      simp [hp]
    have honly := file.dns_of_second hk hsecond
    have hcount := congrArg List.length file.dns_given
    rw [valuesOf,honly,length_map,length_map,length_singleton] at hcount
    obtain ⟨single,hsingle⟩ := length_eq_one_iff.mp hcount
    rw [hsingle] at hs hother
    rw [mem_singleton.mp hs,← mem_singleton.mp hother]
    refine ⟨hblanks.1,hblanks.2,?_⟩
    rw [hvalue]
    exact (comma_mem_iff k).mpr hsecond

lemma intercalate_length (values : List (List Char)) (last : List Char) :
    last.length+2*values.length ≤ (", ".toList.intercalate (values++[last])).length := by
  have hcomma : ", ".toList.length = 2 := by decide
  induction values with
  | nil => simp
  | cons value values ih =>
    have hne : values++[last] ≠ [] := by simp
    obtain ⟨next,rest,hcons⟩ := exists_cons_of_ne_nil hne
    rw [cons_append,hcons,intercalate_cons_cons,← hcons]
    simp only [length_append,length_cons,hcomma]
    omega

/-- The last address stands for all of them only when it is the only one. -/
lemma address_iff : (valuesOf file.lines "Address").getLast?.getD [] =
      ", ".toList.intercalate file.addresses ↔ file.addresses.length = 1 := by
  obtain ⟨before,last,hlast⟩ : ∃ before last, valuesOf file.lines "Address" = before++[last] :=
    ⟨_,_,(dropLast_concat_getLast file.address_given).symm⟩
  rw [addresses,hlast,List.getLast?_concat,getD_some,length_append,length_singleton]
  have hlength := intercalate_length before last
  constructor
  · intro heq
    rw [← heq] at hlength
    omega
  · intro hone
    obtain rfl : before = [] := length_eq_zero_iff.mp (by omega)
    simp

/-- The last line stands for all lines only when the others list nothing. -/
lemma allowedIps_iff : splitCommas ((valuesOf file.lines "AllowedIPs").getLast?.getD []) =
      file.allowedIps ↔
    ∀ value ∈ (valuesOf file.lines "AllowedIPs").dropLast, splitCommas value = [] := by
  rw [allowedIps]
  by_cases hnil : valuesOf file.lines "AllowedIPs" = []
  · rw [hnil]
    have hnone : splitCommas [] = [] := by decide
    simp [hnone]
  · have hlast := dropLast_concat_getLast hnil
    have hsplit : (valuesOf file.lines "AllowedIPs").flatMap splitCommas =
        (valuesOf file.lines "AllowedIPs").dropLast.flatMap splitCommas++
          splitCommas ((valuesOf file.lines "AllowedIPs").getLast hnil) := by
      conv_lhs => rw [← hlast]
      rw [flatMap_append,flatMap_singleton]
    rw [hsplit,List.getLast?_eq_some_getLast hnil,getD_some,self_eq_append_left,flatMap_eq_nil_iff]

variable [Urls] (description defaultMtu : String) (toJson : JsonObject → String)

end WireGuardFile

/-- Reads `host:port`. -/
@[reducible] def colonUrls : Urls where
  fromUserInput s :=
    match split s ':' with
    | [host,port] => ⟨host,(decimal port.toList).bind fun n => if h : n < 65536 then some ⟨n,h⟩ else none⟩
    | _ => ⟨s,none⟩

def Written (name before after value : List Char) : Prop :=
  name ≠ [] ∧ trimChars name = name ∧ ('=' ∉ name ∧ '\n' ∉ name) ∧ name.head? ≠ some '[' ∧
    (∀ c ∈ before++after, c = ' ' ∨ c = '\t') ∧ trimChars value = value ∧ '\n' ∉ value

instance (name before after value : List Char) : Decidable (Written name before after value) :=
  inferInstanceAs (Decidable (_ ∧ _))

def given (name value : String) (h : Written name.toList [' '] [' '] value.toList) : Line :=
  .setting ⟨name.toList,[' '],[' '],value.toList,h.1,h.2.1,h.2.2.1,h.2.2.2.1,h.2.2.2.2.1,
    h.2.2.2.2.2.1,h.2.2.2.2.2.2⟩

def header (text : String) (hline : '\n' ∉ text.toList)
    (h : (trimChars text.toList).head? = some '[' ∧ (trimChars text.toList).getLast? = some ']') : Line :=
  .remark ⟨text.toList,hline,Or.inr (Or.inr h)⟩

/-- A file with one line for the name servers. -/
def sampleLines (dns : String) (h : Written "DNS".toList [' '] [' '] dns.toList) : List Line :=
  [header "[Interface]" (by decide) (by decide),
   given "PrivateKey" "a" (by decide),given "Address" "10.8.1.2/32" (by decide),
   given "DNS" dns h,header "[Peer]" (by decide) (by decide),
   given "PublicKey" "b" (by decide),given "AllowedIPs" "0.0.0.0/0, ::/0" (by decide),
   given "Endpoint" "203.0.113.7:51820" (by decide)]

def sampleFile (lines : List Line) (l : DnsListing)
    (h : valuesOf lines "PrivateKey" = [['a']] ∧ valuesOf lines "PublicKey" = [['b']] ∧
      valuesOf lines "PresharedKey"++valuesOf lines "PreSharedKey" = [] ∧
      valuesOf lines "Endpoint" = ["203.0.113.7:51820".toList] ∧
      valuesOf lines "Address" = ["10.8.1.2/32".toList] ∧ valuesOf lines "DNS" = [l.text]) :
    WireGuardFile where
  lines := lines
  privateKey := ['a']
  publicKey := ['b']
  presharedKey := none
  endpoint := "203.0.113.7:51820".toList
  dns := [l]
  privateKey_given := h.1
  publicKey_given := h.2.1
  presharedKey_given := h.2.2.1
  keys_ne_nil := by decide
  endpoint_given := h.2.2.2.1
  address_given := by
    rw [h.2.2.2.2.1]
    exact cons_ne_nil _ _
  address_ne_nil value hvalue := by
    have hne : "10.8.1.2/32".toList ≠ [] := by decide
    rw [h.2.2.2.2.1] at hvalue
    rw [mem_singleton.mp hvalue]
    exact hne
  dns_given := h.2.2.2.2.2
  dns_count := by cases hsecond : l.second <;> simp [DnsListing.addresses,hsecond]

def twoServers : WireGuardFile :=
  sampleFile (sampleLines "1.1.1.1, 1.0.0.1" (by decide))
    ⟨0x01010101,some ([],[' '],0x01000001),by decide⟩ (by decide)

def oneServer : WireGuardFile :=
  sampleFile (sampleLines "1.1.1.1" (by decide)) ⟨0x01010101,none,by decide⟩ (by decide)

end AlzheimerVPN.ImportController
