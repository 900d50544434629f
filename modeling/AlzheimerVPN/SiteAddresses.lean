import AlzheimerVPN.KillSwitch
import AlzheimerVPN.SiteImport
import AlzheimerVPN.XrayRouting

/-! The addresses the client reads from the stored sites, and what the service says to them.
The client parses an address with `QHostAddress` and its prefix length as an integer; the
service wants digits in the places where a regular expression expects them. -/
namespace AlzheimerVPN

open Text IpText Address Regex SplitTunnelRule KillSwitch List

/-- Four groups of at most three digits that are read as an address are octets. -/
class LawfulOctets [Qt] : Prop where
  hostAddress_octets {t : String} {p q r u e core : List Char} {a : BitVec 32} :
    CidrShape p q r u [] core → LineEnd e → t.toList = core++e →
      Qt.hostAddress t = .ipv4 a → (addressOfText t).isSome

instance : @LawfulOctets dottedQt := by
  let := dottedQt
  constructor
  intro t p q r u e core a hshape he ht hread
  rw [addressOfText_of_trimmed (trimmed_of_readDotted hread)]
  rfl

namespace SplitTunnelRoutePlanner

variable [Qt]

/-- One round of the loop over the stored sites. -/
def siteIps (entry : String × QVariant) : Option (List String) := do
  let rule ← fromText? entry.1
  if !rule.isValid then return []
  if rule.type = .ipSubnet then return [rule.normalizedText]
  return entry.2.toStringList

def cachedSiteIps (sites : QMap QVariant) : Option (List String) := do
  let ips ← sites.toList.mapM siteIps
  return (ips.flatten.filter checkIpSubnetFormat).eraseDups

/-- Written in digits, in the places where the service expects them. -/
def InDigits (t : String) : Prop := matchesLine ipOrCidr t.toList

instance (t : String) : Decidable (InDigits t) := inferInstanceAs (Decidable (_ = true))

end SplitTunnelRoutePlanner

namespace IpText

lemma bounded_of_addressOfText {s : String} (h : (addressOfText s).isSome) :
    ∀ part ∈ split s '.', (boundedOfText 255 part).isSome := by
  rw [addressOfText] at h
  split at h
  · next a b c d hmap =>
    intro part hpart
    have hmem : boundedOfText 255 part ∈ (split s '.').map (boundedOfText 255) :=
      mem_map_of_mem hpart
    rw [hmap] at hmem
    simp only [mem_cons,not_mem_nil,or_false] at hmem
    rcases hmem with h | h | h | h <;> rw [h] <;> rfl
  · simp at h

lemma checkIPv4Format_hostAddress [Qt] {t : String} (h : checkIPv4Format t) :
    ∃ a, Qt.hostAddress t = .ipv4 a := by
  rw [checkIPv4Format] at h
  split_ifs at h
  cases haddress : Qt.hostAddress t with
  | null => simp [haddress,HostAddress.isIPv4] at h
  | ipv4 a => exact ⟨a,rfl⟩
  | ipv6 a => simp [haddress,HostAddress.isIPv4] at h

/-- Of the texts the client takes the service takes those that are written in digits. -/
lemma isValidIpOrCidr_iff_of_checked [Qt] [LawfulOctets] {t : String}
    (h : checkIpSubnetFormat t) : isValidIpOrCidr t ↔ SplitTunnelRoutePlanner.InDigits t := by
  rw [isValidIpOrCidr_iff]
  constructor
  · exact And.left
  · intro hdigits
    refine ⟨hdigits,?_⟩
    obtain ⟨p,q,r,u,tail,e,core,hshape,he,ht⟩ := (matchesLine_ipOrCidr_iff t.toList).mp hdigits
    rw [checkIpSubnetFormat] at h
    rcases hshape.split_slash he ht with ⟨rfl,hsplit⟩ | ⟨len,rfl,hsplit⟩
    · have hslash : '/' ∉ t.toList := by
        rw [ht,hshape.eq,append_nil]
        simpa [he.not_mem (by decide : '/' ≠ '\n')] using hshape.slash_not_mem_ip
      have hchar : containsChar t '/' = false := by simpa [containsChar] using hslash
      rw [hchar] at h
      obtain ⟨a,ha⟩ := checkIPv4Format_hostAddress h
      rw [hsplit]
      exact ⟨bounded_of_addressOfText (LawfulOctets.hostAddress_octets hshape he ht ha),
        fun hmem => absurd hmem hslash⟩
    · have hchar : containsChar t '/' := by
        rw [containsChar_iff,ht,hshape.eq]
        simp
      simp only [hchar,hsplit,Bool.not_true,Bool.false_eq_true,if_false,length_cons,
        length_nil,getD_cons_succ,getD_cons_zero] at h
      rw [if_neg (by decide)] at h
      rw [hsplit]
      cases hlen : boundedOfText 32 (String.ofList (len++e)) with
      | none =>
        rw [hlen] at h
        cases h
      | some n =>
        rw [hlen] at h
        obtain ⟨a,ha⟩ := checkIPv4Format_hostAddress h
        have hip : CidrShape p q r u [] (p++ '.'::(q++ '.'::(r++ '.'::u))) :=
          ⟨hshape.first,hshape.second,hshape.third,hshape.fourth,Or.inl rfl,by simp⟩
        have hread := LawfulOctets.hostAddress_octets hip (Or.inl rfl)
          (String.toList_ofList.trans (append_nil _).symm) ha
        refine ⟨bounded_of_addressOfText hread,fun _ => ?_⟩
        show (boundedOfText 32 (String.ofList (len++e))).isSome
        rw [hlen]
        rfl

end IpText

namespace SplitTunnelRoutePlanner

section

variable [Qt]

/-- What an entry with a host part adds. -/
def entryIps (entry : String × QVariant) : List String :=
  if (fromText entry.1).isValid then
    if (fromText entry.1).type = .ipSubnet then [(fromText entry.1).normalizedText]
    else entry.2.toStringList
  else []

lemma siteIps_eq_none {entry : String × QVariant} (h : hostParts entry.1 = []) :
    siteIps entry = none := by
  rw [siteIps,IpSplitTunnelingController.fromText?_eq_none h,Option.bind_eq_bind,Option.bind_none]

lemma siteIps_eq {entry : String × QVariant} (h : hostParts entry.1 ≠ []) :
    siteIps entry = some (entryIps entry) := by
  rw [siteIps,IpSplitTunnelingController.fromText?_of_parts h,Option.bind_eq_bind,Option.bind_some,
    entryIps]
  cases (fromText entry.1).isValid with
  | false => rfl
  | true => cases (fromText entry.1).type <;> rfl

lemma mapM_siteIps {entries : List (String × QVariant)} {lists : List (List String)} :
    entries.mapM siteIps = some lists ↔
      (∀ e ∈ entries, hostParts e.1 ≠ []) ∧ lists = entries.map entryIps := by
  induction entries generalizing lists with
  | nil =>
    constructor
    · intro h
      exact ⟨by simp,(Option.some.inj h).symm⟩
    · rintro ⟨-,rfl⟩
      rfl
  | cons e entries ih =>
    rw [mapM_cons,forall_mem_cons]
    by_cases he : hostParts e.1 = []
    · simp [siteIps_eq_none he,he]
    · simp only [siteIps_eq he,Option.bind_eq_bind,Option.bind_some,Option.bind_eq_some_iff,ih]
      constructor
      · rintro ⟨rest,⟨hrest,rfl⟩,heq⟩
        exact ⟨⟨he,hrest⟩,(Option.some.inj heq).symm⟩
      · rintro ⟨⟨-,hrest⟩,rfl⟩
        exact ⟨_,⟨hrest,rfl⟩,rfl⟩

lemma cachedSiteIps_eq_some_iff {sites : QMap QVariant} {ips : List String} :
    cachedSiteIps sites = some ips ↔
      (∀ e ∈ sites.toList, hostParts e.1 ≠ []) ∧
      ips = ((sites.toList.map entryIps).flatten.filter checkIpSubnetFormat).eraseDups := by
  simp only [cachedSiteIps,Option.bind_eq_bind,Option.bind_eq_some_iff,mapM_siteIps]
  constructor
  · rintro ⟨lists,⟨hparts,rfl⟩,heq⟩
    exact ⟨hparts,(Option.some.inj heq).symm⟩
  · rintro ⟨hparts,rfl⟩
    exact ⟨_,⟨hparts,rfl⟩,rfl⟩

/-- The addresses of the host rules that the client takes are written as the service wants. -/
def SavedInDigits (sites : QMap QVariant) : Prop :=
  ∀ e ∈ sites.toList, (fromText e.1).isValid → (fromText e.1).type ≠ .ipSubnet →
    ∀ t ∈ e.2.toStringList, checkIpSubnetFormat t → InDigits t

instance (sites : QMap QVariant) : Decidable (SavedInDigits sites) :=
  inferInstanceAs (Decidable (∀ e ∈ sites.toList, _))

lemma cached_valid_iff [LawfulOctets] (sites : QMap QVariant) :
    (((sites.toList.map entryIps).flatten.filter checkIpSubnetFormat).eraseDups.all
      isValidIpOrCidr) ↔ SavedInDigits sites := by
  have hmem : ∀ t, t ∈ ((sites.toList.map entryIps).flatten.filter checkIpSubnetFormat).eraseDups ↔
      (∃ e ∈ sites.toList, t ∈ entryIps e) ∧ checkIpSubnetFormat t := by
    intro t
    rw [mem_eraseDups,mem_filter,mem_flatten]
    simp
  rw [all_eq_true]
  constructor
  · intro hall e he hvalid htype t ht hcheck
    rw [← isValidIpOrCidr_iff_of_checked hcheck]
    apply hall
    rw [hmem]
    refine ⟨⟨e,he,?_⟩,hcheck⟩
    rw [entryIps,if_pos hvalid,if_neg htype]
    exact ht
  · intro hdigits t ht
    obtain ⟨⟨e,he,hte⟩,hcheck⟩ := (hmem t).mp ht
    rw [entryIps] at hte
    by_cases hvalid : (fromText e.1).isValid
    · rw [if_pos hvalid] at hte
      by_cases htype : (fromText e.1).type = .ipSubnet
      · -- an address rule is printed without its prefix length
        rw [if_pos htype,mem_singleton] at hte
        obtain ⟨a,ha⟩ := ipSubnet_dotted htype
        rw [hte,ha]
        exact isValidIpOrCidr_dotted a
      · rw [if_neg htype] at hte
        rw [isValidIpOrCidr_iff_of_checked hcheck]
        exact hdigits e he hvalid htype t hte hcheck
    · rw [if_neg hvalid] at hte
      cases hte

end

section

lemma setAlwaysBlockedSites_accepts (s : KillSwitch) (ips : List String) :
    (s.setAlwaysBlockedSites ips).2 = ips.all isValidIpOrCidr := by
  rw [setAlwaysBlockedSites]
  cases hall : ips.all isValidIpOrCidr with
  | false => rfl
  | true =>
    simp only [Bool.not_true,Bool.false_eq_true,if_false]
    split_ifs
    · rfl
    · rfl
    · rfl
    · rw [disableKillSwitch]
      split_ifs <;> rfl

variable [Qt]

/-- A configuration whose own addresses are valid, for the sites of a list. -/
structure Configures (config : JsonObject) (ips : List String) : Prop where
  type : splitTunnelType config = 1 ∨ splitTunnelType config = 2
  sites : config.value "splitTunnelSites" = texts ips
  server : isValidIpOrCidr (vpnServer config)
  dns1 : dns1 config = "" ∨ isValidIpOrCidr (dns1 config)
  dns2 : (config.value "dns2").toString = "" ∨ isValidIpOrCidr (config.value "dns2").toString

lemma enableKillSwitch_accepts {config : JsonObject} {ips : List String}
    (h : Configures config ips) (hips : ips.all isValidIpOrCidr) (s : KillSwitch)
    (vpnAdapterIndex : ℤ) : (s.enableKillSwitch config vpnAdapterIndex).2 := by
  have hranges : (siteRanges config).all isValidIpOrCidr := by
    have hitems : (texts ips).toArray.map Json.toString = ips := by
      simp [texts,Function.comp_def]
    rw [siteRanges,h.sites,hitems,all_eq_true]
    intro t ht
    exact all_eq_true.mp hips t (mem_filter.mp ht).1
  have hallow : (allownets config).all isValidIpOrCidr := by
    rw [allownets]
    split_ifs
    · simp [h.server]
    · simp [h.server,hranges]
    · rfl
  have hblock : (blocknets config).all isValidIpOrCidr := by
    rw [blocknets]
    split_ifs
    · exact hranges
    · rfl
  have hdns2 : dns2 config = "" ∨ isValidIpOrCidr (dns2 config) := by
    rw [dns2]
    split_ifs
    · exact Or.inl rfl
    · exact h.dns2
  have hskip : ∀ t, t = "" ∨ isValidIpOrCidr t → (!t.isEmpty && !isValidIpOrCidr t) = false := by
    rintro t (rfl | ht)
    · rfl
    · rw [ht,Bool.not_true,Bool.and_false]
  have haccepts : accepts config := by
    rw [accepts,hskip _ h.dns1,hskip _ hdns2,hallow,hblock]
    rfl
  rw [enableKillSwitch,haccepts]
  rfl

end

section

variable [Qt] [LawfulOctets]

/-- The service takes the list the client builds exactly when every key has a host part and no
saved address has a form that only the client reads. -/
theorem cachedSiteIps_accepted_iff (sites : QMap QVariant) :
    (∃ ips, cachedSiteIps sites = some ips ∧
      (∀ s : KillSwitch, (s.setAlwaysBlockedSites ips).2) ∧
      ∀ (s : KillSwitch) config vpnAdapterIndex, Configures config ips →
        (s.enableKillSwitch config vpnAdapterIndex).2) ↔
    (∀ e ∈ sites.toList, hostParts e.1 ≠ []) ∧ SavedInDigits sites := by
  constructor
  · rintro ⟨ips,hips,hblocked,-⟩
    obtain ⟨hparts,rfl⟩ := cachedSiteIps_eq_some_iff.mp hips
    refine ⟨hparts,?_⟩
    have haccepted := hblocked (.fresh false)
    rwa [setAlwaysBlockedSites_accepts,cached_valid_iff] at haccepted
  · rintro ⟨hparts,hdigits⟩
    have hall := (cached_valid_iff sites).mpr hdigits
    refine ⟨_,cachedSiteIps_eq_some_iff.mpr ⟨hparts,rfl⟩,?_,?_⟩
    · intro s
      rw [setAlwaysBlockedSites_accepts,hall]
    · intro s config vpnAdapterIndex hconfig
      exact enableKillSwitch_accepts hconfig hall s vpnAdapterIndex

end

/-- A host rule with one saved address. -/
def savedAddress (ip : String) : QMap QVariant :=
  (∅ : QMap QVariant).insert "ab.com" (.stringList ["203.0.113.4",ip])

theorem plain_address_accepted :
    ∃ ips, @cachedSiteIps dottedQt (savedAddress "203.0.113.0/24") = some ips ∧
      ips = ["203.0.113.4","203.0.113.0/24"] ∧
      (∀ s : KillSwitch, (s.setAlwaysBlockedSites ips).2 = true) ∧
      ∀ (s : KillSwitch) config vpnAdapterIndex, Configures config ips →
        (@KillSwitch.enableKillSwitch dottedQt s config vpnAdapterIndex).2 = true := by
  have hlist : (savedAddress "203.0.113.0/24").toList =
      [("ab.com",.stringList ["203.0.113.4","203.0.113.0/24"])] := by decide +kernel
  have hips : @cachedSiteIps dottedQt (savedAddress "203.0.113.0/24") =
      some ["203.0.113.4","203.0.113.0/24"] := by decide +kernel
  have hparts : ∀ e ∈ (savedAddress "203.0.113.0/24").toList, @hostParts dottedQt e.1 ≠ [] := by
    rw [hlist,forall_mem_singleton]
    decide +kernel
  have hdigits : @SavedInDigits dottedQt (savedAddress "203.0.113.0/24") := by decide +kernel
  obtain ⟨ips,hsome,hblocked,hconfig⟩ := (@cachedSiteIps_accepted_iff dottedQt inferInstance
    (savedAddress "203.0.113.0/24")).mpr ⟨hparts,hdigits⟩
  rw [hips] at hsome
  obtain rfl := Option.some.inj hsome
  exact ⟨_,hips,rfl,hblocked,hconfig⟩

/-- One saved address with a sign or a blank has the whole list rejected. -/
theorem signed_prefix_rejected : @cachedSiteIps dottedQt (savedAddress "203.0.113.0/+24") =
        some ["203.0.113.4","203.0.113.0/+24"] ∧
      ((fresh false).setAlwaysBlockedSites ["203.0.113.4","203.0.113.0/+24"]).2 = false ∧
      @cachedSiteIps dottedQt (savedAddress " 203.0.113.5") = some ["203.0.113.4"," 203.0.113.5"] ∧
      ((fresh false).setAlwaysBlockedSites ["203.0.113.4"," 203.0.113.5"]).2 = false := by
  decide +kernel

open VpnConnection

section

variable [Qt] [LawfulQt]

/-- The configuration drops empty texts and repetitions of an entry before its addresses are
checked, the list of the blocked sites afterwards. -/
lemma eraseDups_entrySites (entry : String × QVariant) :
    (entrySites (entry.1,entry.2.toStringList)).eraseDups =
      ((entryIps entry).filter checkIpSubnetFormat).eraseDups := by
  rw [entrySites,entryIps]
  cases (fromText entry.1).isValid with
  | false => rfl
  | true =>
    by_cases htype : (fromText entry.1).type = .ipSubnet
    · obtain ⟨a,ha⟩ := ipSubnet_dotted htype
      simp [htype,ha,checkIpSubnetFormat_dotted]
    · have hempty : ∀ ip ∈ entry.2.toStringList, (!ip.isEmpty && checkIpSubnetFormat ip) =
          checkIpSubnetFormat ip := by
        intro ip _
        cases hip : ip.isEmpty with
        | false => rfl
        | true =>
          rw [String.isEmpty_iff.mp hip]
          rfl
      simp only [Bool.not_true,Bool.false_eq_true,if_false,htype,if_true,siteIpList]
      rw [← filter_eraseDups,filter_filter,eraseDups_of_nodup (nodup_eraseDups _)]
      simp only [Bool.and_comm,filter_congr hempty]

lemma eraseDups_siteIps {sites : QMap QVariant} {ips : List String}
    (h : cachedSiteIps sites = some ips) :
    ((sites.toList.map fun e => (e.1,e.2.toStringList)).flatMap entrySites).eraseDups = ips := by
  rw [(cachedSiteIps_eq_some_iff.mp h).2,flatMap_map,← flatMap_def,filter_flatMap]
  exact eraseDups_flatMap_congr fun e _ => eraseDups_entrySites e

/-- One stored map gives the blocked list, the routes of the sites and the sites of the
configuration, up to the DNS servers that the configuration adds at the end. -/
theorem site_lists_agree (settings : AppSettings) (mode : RouteMode) (sites : QMap QVariant)
    (ips : List String)
    (hsites : settings.vpnSites mode = sites.toList.map fun e => (e.1,e.2.toStringList))
    (hips : cachedSiteIps sites = some ips) :
    (∀ gw s, addSitesRoutes settings gw mode s =
      if ips.isEmpty then s else (s.routeAddList gw ips).2) ∧
    (settings.isSitesSplitTunnelingEnabled → settings.routeMode = mode → ∀ dns1 dns2,
      ∃ servers, (siteSplitTunneling settings true dns1 dns2).sites = ips++servers ∧
        (servers = [] ∨ servers = [dns1,dns2] ∧ mode = .vpnOnlyForwardSites ∧
          settings.useAmneziaDns)) := by
  have hlist : ((settings.vpnSites mode).flatMap entrySites).eraseDups = ips :=
    hsites ▸ eraseDups_siteIps hips
  constructor
  · intro gw s
    rw [addSitesRoutes,hlist]
  · rintro henabled rfl dns1 dns2
    simp only [siteSplitTunneling,henabled,hlist,Bool.not_true,Bool.false_eq_true,if_false]
    split_ifs with hempty hforward
    · exact ⟨[],(append_nil _).symm,.inl rfl⟩
    · simp only [Bool.and_eq_true,decide_eq_true_eq] at hforward
      exact ⟨_,rfl,.inr ⟨rfl,hforward⟩⟩
    · exact ⟨[],(append_nil _).symm,.inl rfl⟩

end

def savedSettings : AppSettings :=
  { siteSettings .vpnAllExceptSites with
    vpnSites := fun _ => [("ab.com",["203.0.113.4","203.0.113.0/24"])] }

theorem saved_lists_agree :
    (∀ gw s, @addSitesRoutes dottedQt savedSettings gw .vpnAllExceptSites s =
      (@RouteRequests.routeAddList dottedQt s gw ["203.0.113.4","203.0.113.0/24"]).2) ∧
    ∀ dns1 dns2, (@siteSplitTunneling dottedQt savedSettings true dns1 dns2).sites =
      ["203.0.113.4","203.0.113.0/24"] := by
  have hsites : savedSettings.vpnSites .vpnAllExceptSites =
      (savedAddress "203.0.113.0/24").toList.map fun e => (e.1,e.2.toStringList) := by
    decide +kernel
  have hips : @cachedSiteIps dottedQt (savedAddress "203.0.113.0/24") =
      some ["203.0.113.4","203.0.113.0/24"] := by decide +kernel
  obtain ⟨hroutes,hconfig⟩ := @site_lists_agree dottedQt inferInstance savedSettings
    .vpnAllExceptSites (savedAddress "203.0.113.0/24") _ hsites hips
  refine ⟨hroutes,fun dns1 dns2 => ?_⟩
  obtain ⟨servers,heq,rfl | hservers⟩ := hconfig rfl rfl dns1 dns2
  · exact heq
  · exact absurd hservers.2.1 (by decide)

end SplitTunnelRoutePlanner

end AlzheimerVPN
