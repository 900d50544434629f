import AlzheimerVPN.LinkedSet
import AlzheimerVPN.SiteController

/-! The list of sites that is shown and the map that is stored are changed by different code.
They hold the same addresses for the same hosts after every call and every answer. -/
namespace AlzheimerVPN

open Std.ExtTreeMap SecureAppSettingsRepository List

section

/-- Neither empty texts nor repetitions, as `siteIpList` leaves them. -/
def CleanIps (ips : List String) : Prop := ips.Nodup ∧ "" ∉ ips

lemma cleanIps_siteIpList (value : List String) : CleanIps (siteIpList value) := by
  refine ⟨nodup_eraseDups _,?_⟩
  rw [siteIpList,mem_eraseDups]
  simp

variable {ips : List String}

lemma CleanIps.siteIpList_eq (h : CleanIps ips) : siteIpList ips = ips := by
  have hfilter : (ips.filter fun ip => !ip.isEmpty) = ips := by
    apply filter_eq_self.mpr
    intro ip hip
    have hne : ip ≠ "" := fun he => h.2 (he ▸ hip)
    simpa using hne
  rw [siteIpList,hfilter,eraseDups_of_nodup h.1]

lemma mergeIps_cons (previous : List String) (ip : String) (ips : List String) :
    mergeIps previous (ip::ips) =
      mergeIps (if !ip.isEmpty && !previous.contains ip then previous++[ip] else previous) ips := rfl

lemma CleanIps.mergeIps {previous : List String} (h : CleanIps previous) (ips : List String) :
    CleanIps (mergeIps previous ips) := by
  induction ips generalizing previous with
  | nil => exact h
  | cons ip ips ih =>
    rw [mergeIps_cons]
    split_ifs with hnew
    · apply ih
      simp only [Bool.and_eq_true,Bool.not_eq_true',String.isEmpty_eq_false_iff,
        contains_eq_mem,decide_eq_false_iff_not] at hnew
      constructor
      · rw [nodup_append]
        refine ⟨h.1,by simp,?_⟩
        intro a ha b hb
        rw [mem_singleton] at hb
        rintro rfl
        exact hnew.2 (hb ▸ ha)
      · simp only [mem_append,mem_singleton,not_or]
        exact ⟨h.2,Ne.symm hnew.1⟩
    · exact ih h

lemma mem_mergeIps {previous : List String} {ip : String} :
    ip ∈ mergeIps previous ips ↔ ip ∈ previous ∨ ip ∈ ips ∧ ip ≠ "" := by
  induction ips generalizing previous with
  | nil => simp [mergeIps]
  | cons a ips ih =>
    rw [mergeIps_cons,ih]
    split_ifs with hnew
    · have hne : a ≠ "" := by
        rintro rfl
        simp at hnew
      simp only [mem_append,mem_cons]
      grind
    · have hold : a = "" ∨ a ∈ previous := by
        by_contra hno
        push Not at hno
        exact hnew (by simp [hno.1,hno.2])
      simp only [mem_cons]
      grind

lemma mergeIps_append (previous : List String) (h : CleanIps (previous++ips)) :
    mergeIps previous ips = previous++ips := by
  induction ips generalizing previous with
  | nil => simp [mergeIps]
  | cons ip ips ih =>
    have hnew : (!ip.isEmpty && !previous.contains ip) := by
      have hne : ip ≠ "" := by
        rintro rfl
        exact h.2 (by simp)
      have hmem : ip ∉ previous := by
        intro hip
        exact (nodup_append.mp h.1).2.2 ip hip ip (by simp) rfl
      simp [hne,hmem]
    rw [mergeIps_cons,if_pos hnew,ih (previous++[ip]) (by simpa using h)]
    simp

lemma CleanIps.mergeIps_nil (h : CleanIps ips) : AlzheimerVPN.mergeIps [] ips = ips :=
  mergeIps_append [] h

end

namespace IpSplitTunnelingController

/-- The list holds the hosts of the map with the addresses of the map. -/
structure Shows (sites : List (String × List String)) (stored : QMap QVariant) : Prop where
  nodup : (sites.map Prod.fst).Nodup
  lookup_eq : ∀ host, sites.lookup host = stored[host]?.map QVariant.siteIpList

section

variable {sites : List (String × List String)} {stored : QMap QVariant} {host : String}

lemma map_fst_updateSite (f : List String → List String) :
    (updateSite host f sites).map Prod.fst = sites.map Prod.fst := by
  induction sites with
  | nil => rfl
  | cons e sites ih =>
    rw [updateSite]
    split_ifs
    · rfl
    · rw [map_cons,ih,map_cons]

lemma lookup_updateSite (f : List String → List String) (other : String) :
    (updateSite host f sites).lookup other =
      if other = host then (sites.lookup host).map f else sites.lookup other := by
  induction sites with
  | nil => simp [updateSite]
  | cons e sites ih =>
    rw [updateSite]
    by_cases he : e.1 = host
    · rw [if_pos he,lookup_cons,lookup_cons,lookup_cons]
      by_cases ho : other = host
      · simp [ho,he]
      · have hne : other ≠ e.1 := fun h => ho (h.trans he)
        rw [if_neg ho,beq_eq_false_iff_ne.mpr hne]
    · rw [if_neg he,lookup_cons,lookup_cons,lookup_cons,ih]
      by_cases ho : other = host
      · have hne : host ≠ e.1 := Ne.symm he
        rw [ho,beq_eq_false_iff_ne.mpr hne]
      · simp only [if_neg ho]

lemma addEntry_of_none (h : stored[host]? = none) (changed : Bool) {ips : List String}
    (hips : CleanIps ips) :
    (addEntry (stored,changed) (host,ips)).1 = stored.insert host (.stringList ips) := by
  simp [addEntry,contains_eq_isSome_getElem?,
    getD_eq_getD_getElem?,h,QVariant.siteIpList,QVariant.toStringList,siteIpList,
    hips.mergeIps_nil]

/-- The addresses of a host that is stored are merged, whether or not the entry is written. -/
lemma siteIpList_addEntry {value : QVariant} (h : stored[host]? = some value) (changed : Bool)
    (ips : List String) (other : String) :
    (addEntry (stored,changed) (host,ips)).1[other]?.map QVariant.siteIpList =
      if other = host then some (mergeIps value.siteIpList ips)
      else stored[other]?.map QVariant.siteIpList := by
  have hmerged : CleanIps (mergeIps value.siteIpList ips) := (cleanIps_siteIpList _).mergeIps ips
  simp only [addEntry,contains_eq_isSome_getElem?,
    getD_eq_getD_getElem?,h,Option.getD_some,Option.isSome_some,Bool.not_true,
    Bool.false_or]
  split_ifs with hchanged ho ho
  · rw [ho,getElem?_insert_eq,if_pos rfl,Option.map_some]
    exact congrArg some hmerged.siteIpList_eq
  · rw [getElem?_insert_eq,if_neg ho]
  · have hsame : mergeIps value.siteIpList ips = value.siteIpList := by simpa using hchanged
    rw [ho,h,hsame,Option.map_some]
  · rfl

lemma Shows.append (h : Shows sites stored) (hnone : sites.lookup host = none)
    {ips : List String} (hips : CleanIps ips) :
    Shows (sites++[(host,ips)]) (stored.insert host (.stringList ips)) := by
  constructor
  · rw [map_append,nodup_append]
    refine ⟨h.nodup,by simp,?_⟩
    intro a ha b hb
    rw [map_singleton,mem_singleton] at hb
    rintro rfl
    rw [hb] at ha
    exact lookup_eq_none_iff_not_mem.mp hnone ha
  · intro other
    rw [lookup_append,getElem?_insert_eq]
    by_cases ho : other = host
    · subst ho
      simp [hnone,QVariant.siteIpList,QVariant.toStringList,hips.siteIpList_eq]
    · rw [h.lookup_eq]
      simp [lookup_cons,beq_eq_false_iff_ne.mpr ho,ho]

/-- The loop over the list and the loop over the map do the same for an entry. -/
lemma Shows.addEntry (h : Shows sites stored) (changed : Bool) (host : String)
    {ips : List String} (hclean : stored[host]? = none → CleanIps ips) :
    Shows (showEntry sites (host,ips)) (addEntry (stored,changed) (host,ips)).1 := by
  have hlookup := h.lookup_eq host
  cases hstored : stored[host]? with
  | none =>
    have hnone : sites.lookup host = none := by rw [hlookup,hstored,Option.map_none]
    rw [addEntry_of_none hstored changed (hclean hstored)]
    simp only [showEntry,hnone,Option.isSome_none,Bool.false_eq_true,if_false]
    exact h.append hnone (hclean hstored)
  | some value =>
    have hsome : sites.lookup host = some value.siteIpList := by
      rw [hlookup,hstored,Option.map_some]
    simp only [showEntry,hsome,Option.isSome_some,if_true]
    constructor
    · rw [map_fst_updateSite]
      exact h.nodup
    · intro other
      rw [siteIpList_addEntry hstored,lookup_updateSite,hsome,Option.map_some,h.lookup_eq]

lemma Shows.foldl_addEntry (h : Shows sites stored) (changed : Bool)
    {entries : List (String × List String)} (hclean : ∀ e ∈ entries, CleanIps e.2) :
    Shows (entries.foldl showEntry sites)
      (entries.foldl SecureAppSettingsRepository.addEntry (stored,changed)).1 := by
  induction entries generalizing sites stored changed with
  | nil => exact h
  | cons e entries ih =>
    have hstep := h.addEntry changed e.1 fun _ => hclean e mem_cons_self
    exact ih hstep _ fun e' he' => hclean e' (mem_cons_of_mem e he')

variable {entries : List (String × List String)}

lemma foldl_addEntry_unchanged {allSites : QMap QVariant × Bool}
    (h : (entries.foldl addEntry allSites).2 = false) :
    entries.foldl addEntry allSites = allSites := by
  induction entries generalizing allSites with
  | nil => rfl
  | cons e entries ih =>
    rw [foldl_cons] at h ⊢
    have hstep := ih h
    rw [hstep] at h ⊢
    simp only [addEntry] at h ⊢
    split_ifs at h ⊢
    rfl

/-- New entries are appended in their order. -/
lemma foldl_showEntry_of_nodup (h : ((sites++entries).map Prod.fst).Nodup) :
    entries.foldl showEntry sites = sites++entries := by
  induction entries generalizing sites with
  | nil => simp
  | cons e entries ih =>
    have hnone : sites.lookup e.1 = none := by
      apply lookup_eq_none_iff_not_mem.mpr
      intro hmem
      rw [map_append] at h
      exact (nodup_append.mp h).2.2 e.1 hmem e.1 (by simp) rfl
    have hshow : showEntry sites e = sites++[e] := by
      simp [showEntry,hnone]
    rw [foldl_cons,hshow,ih (by simpa using h)]
    simp

lemma shows_empty : Shows [] ∅ where
  nodup := nodup_nil
  lookup_eq host := by
    rw [getElem?_empty]
    rfl

lemma addEntry_key {changed : Bool} {entry : String × List String}
    (key : String) : (addEntry (stored,changed) entry).1[key]? ≠ none ↔
      stored[key]? ≠ none ∨ key = entry.1 := by
  simp only [addEntry,contains_eq_isSome_getElem?]
  split_ifs with hchanged
  · rw [getElem?_insert_eq]
    by_cases hkey : key = entry.1 <;> simp [hkey]
  · by_cases hkey : key = entry.1
    · subst hkey
      simp only [Bool.or_eq_true,not_or] at hchanged
      simpa [Option.isSome_iff_ne_none] using hchanged.1
    · simp [hkey]

lemma foldl_addEntry_key {allSites : QMap QVariant × Bool} (key : String) :
    (entries.foldl addEntry allSites).1[key]? ≠ none ↔
      allSites.1[key]? ≠ none ∨ ∃ e ∈ entries, key = e.1 := by
  induction entries generalizing allSites with
  | nil => simp
  | cons e entries ih =>
    rw [foldl_cons,ih,addEntry_key]
    simp only [mem_cons,exists_eq_or_imp]
    rw [or_assoc]

end

section

variable (r : SecureAppSettingsRepository) (mode : RouteMode)

@[simp] lemma vpnSites_setVpnSites (sites : QMap QVariant) :
    (r.setVpnSites mode sites).vpnSites mode = sites := Function.update_self ..

lemma vpnSites_addVpnSites (sites : QMap (List String)) :
    (r.addVpnSites mode sites).vpnSites mode =
      (sites.toList.foldl addEntry (r.vpnSites mode,false)).1 := by
  simp only [addVpnSites]
  split_ifs with hchanged
  · exact vpnSites_setVpnSites ..
  · rw [foldl_addEntry_unchanged (by simpa using hchanged)]

lemma vpnSites_addVpnSite (site : String) (ips : List String) :
    (r.addVpnSite mode site ips).vpnSites mode =
      (addEntry (r.vpnSites mode,false) (site,ips)).1 := by
  simp only [addVpnSite,addEntry]
  by_cases hempty : ips = []
  · subst hempty
    cases hcontains : (r.vpnSites mode).contains site <;> simp [mergeIps]
  · by_cases hsame : mergeIps ((r.vpnSites mode).getD site .invalid).siteIpList ips =
        ((r.vpnSites mode).getD site .invalid).siteIpList
    · cases hcontains : (r.vpnSites mode).contains site <;> simp [hempty,hsame]
    · cases hcontains : (r.vpnSites mode).contains site <;> simp [hempty,hsame]

lemma addVpnSite_vpnSites_ne {mode other : RouteMode} (h : other ≠ mode) (site : String)
    (ips : List String) : (r.addVpnSite mode site ips).vpnSites other = r.vpnSites other := by
  simp only [addVpnSite,setVpnSites]
  split_ifs
  · rfl
  · rfl
  · exact Function.update_of_ne h ..

end

variable {s t u : IpSplitTunnelingController}

/-- The lookup is the one the controller waits for. -/
def Current (s : IpSplitTunnelingController) (host : String) (id : ℤ) : Prop :=
  ∃ check, s.siteChecks[host]? = some check ∧ check.state = .resolving ∧ check.lookupId = id

structure Sound (s : IpSplitTunnelingController) : Prop where
  shows : Shows s.sites s.stored
  checked : ∀ host : String, s.siteChecks[host]? ≠ none → s.stored[host]? ≠ none

/-- What every call and every answer keeps: the list shows the map, and no lookup that has
been started before becomes the awaited one again. -/
structure Keeps (s t : IpSplitTunnelingController) : Prop where
  sound : s.Sound → t.Sound
  lookups : s.lookups.length ≤ t.lookups.length
  current : ∀ host id, t.Current host id → s.Current host id ∨ s.lookups.length ≤ id

lemma Keeps.refl (s : IpSplitTunnelingController) : Keeps s s where
  sound := id
  lookups := le_rfl
  current _ _ := Or.inl

lemma Keeps.trans (h : Keeps s t) (h' : Keeps t u) : Keeps s u where
  sound hs := h'.sound (h.sound hs)
  lookups := h.lookups.trans h'.lookups
  current host id hcurrent := by
    rcases h'.current host id hcurrent with hcurrent | hid
    · exact h.current host id hcurrent
    · have hlength := h.lookups
      right
      omega

/-- A change of the list and the map that drops checks, or ends them. -/
lemma keeps_of_checks (hlookups : t.lookups = s.lookups) (hsound : s.Sound → t.Sound)
    (hchecks : ∀ (host : String) check, t.siteChecks[host]? = some check → check.state = .resolving →
      s.siteChecks[host]? = some check) : Keeps s t where
  sound := hsound
  lookups := by rw [hlookups]
  current host id := by
    rintro ⟨check,hcheck,hstate,hid⟩
    exact Or.inl ⟨check,hchecks host check hcheck hstate,hstate,hid⟩

lemma sound_of_no_checks (hchecks : t.siteChecks = ∅) (hshows : Shows t.sites t.stored) :
    t.Sound :=
  ⟨hshows,fun host hhost => by simp [hchecks] at hhost⟩

lemma keeps_of_no_checks (hlookups : t.lookups = s.lookups) (hchecks : t.siteChecks = ∅)
    (hshows : Shows t.sites t.stored) : Keeps s t :=
  keeps_of_checks hlookups (fun _ => sound_of_no_checks hchecks hshows) fun host check hcheck => by
    simp [hchecks] at hcheck

section

variable [Qt] {hostname : String}

lemma checkSite_cases (h : s.checkSite hostname = some t) :
    t = s ∨ ∃ host : String, s.stored[host]? ≠ none ∧ t = { s with
        siteChecks := s.siteChecks.insert host ⟨.resolving,"",s.lookups.length⟩
        lookups := s.lookups++[host] } := by
  simp only [checkSite,Option.bind_eq_bind,Option.bind_eq_some_iff] at h
  obtain ⟨rule,-,h⟩ := h
  split_ifs at h with hrule hstate
  · exact Or.inl (Option.some.inj h).symm
  · exact Or.inl (Option.some.inj h).symm
  · right
    refine ⟨rule.normalizedText,?_,(Option.some.inj h).symm⟩
    have hcontains : s.stored.contains rule.normalizedText := by
      by_contra hno
      exact hrule (by simp [hno])
    intro hnone
    rw [contains_eq_isSome_getElem?,hnone] at hcontains
    simp at hcontains

lemma checkSite_keeps (h : s.checkSite hostname = some t) : Keeps s t := by
  obtain rfl | ⟨host,hstored,rfl⟩ := checkSite_cases h
  · exact Keeps.refl _
  · constructor
    · rintro ⟨hshows,hchecked⟩
      refine ⟨hshows,?_⟩
      intro other hother
      by_cases ho : other = host
      · exact ho ▸ hstored
      · apply hchecked
        rwa [getElem?_insert_eq,if_neg ho] at hother
    · simp
    · rintro other id ⟨check,hcheck,hstate,hid⟩
      rw [getElem?_insert_eq] at hcheck
      split_ifs at hcheck with ho
      · obtain rfl := Option.some.inj hcheck
        exact Or.inr hid.le
      · exact Or.inl ⟨check,hcheck,hstate,hid⟩

lemma foldlM_checkSite_keeps {entries : List (String × List String)}
    (h : entries.foldlM (fun s entry => checkSite s entry.1) s = some t) : Keeps s t :=
  Runs.foldlM_invariant (P := Keeps s) (fun _ _ _ hu hs => hs.trans (checkSite_keeps hu)) h
    (Keeps.refl s)

/-- A check changes neither the list nor the map. -/
lemma checkSite_same (h : s.checkSite hostname = some t) :
    t.sites = s.sites ∧ t.stored = s.stored := by
  obtain rfl | ⟨host,-,rfl⟩ := checkSite_cases h
  · exact ⟨rfl,rfl⟩
  · exact ⟨rfl,rfl⟩

lemma foldlM_checkSite_same {entries : List (String × List String)}
    (h : entries.foldlM (fun s entry => checkSite s entry.1) s = some t) :
    t.sites = s.sites ∧ t.stored = s.stored := by
  refine Runs.foldlM_invariant (P := fun t => t.sites = s.sites ∧ t.stored = s.stored) ?_ h
    ⟨rfl,rfl⟩
  intro u e t hu hs
  obtain ⟨hsites,hstored⟩ := checkSite_same hu
  exact ⟨hsites.trans hs.1,hstored.trans hs.2⟩

end

lemma mergeSites_stored (normalizedSites : QMap (List String)) (replaceExisting : Bool) :
    (s.mergeSites normalizedSites replaceExisting).stored = (normalizedSites.toList.foldl addEntry
        (if replaceExisting then ∅ else s.stored,false)).1 := by
  cases replaceExisting with
  | true =>
    simp only [stored,mergeSites,if_true,clearChecks,vpnSites_addVpnSites,
      removeAllVpnSites,vpnSites_setVpnSites]
  | false => exact vpnSites_addVpnSites _ _ _

lemma mergeSites_keeps {normalizedSites : QMap (List String)} (replaceExisting : Bool)
    (hclean : ∀ e ∈ normalizedSites.toList, CleanIps e.2) :
    Keeps s (s.mergeSites normalizedSites replaceExisting) := by
  have hstored := mergeSites_stored (s := s) normalizedSites replaceExisting
  cases replaceExisting with
  | true =>
    refine keeps_of_no_checks rfl rfl ?_
    rw [hstored]
    exact shows_empty.foldl_addEntry false hclean
  | false =>
    refine keeps_of_checks rfl (fun hs => ⟨?_,fun host hhost => ?_⟩) fun _ _ hcheck _ => hcheck
    · rw [hstored]
      exact hs.shows.foldl_addEntry false hclean
    · rw [hstored]
      exact (foldl_addEntry_key host).mpr (Or.inl (hs.checked host hhost))

/-- A host that is added without addresses. -/
lemma addSiteInternal_keeps (hostname : String) : Keeps s (s.addSiteInternal hostname []).2 := by
  apply keeps_of_checks
  · simp only [addSiteInternal]
    split_ifs
    · rfl
    · cases s.sites.lookup hostname <;> simp [mergeIps]
  · intro hs
    have hlookup := hs.shows.lookup_eq hostname
    simp only [addSiteInternal,isEmpty_nil,Bool.and_true,contains_eq_isSome_getElem?]
    cases hstored : s.stored[hostname]? with
    | some value => simpa using hs
    | none =>
      rw [hstored,Option.map_none] at hlookup
      have hshow : showEntry s.sites (hostname,[]) = s.sites++[(hostname,[])] := by
        simp [showEntry,hlookup]
      have hmap := vpnSites_addVpnSite s.repository s.currentRouteMode hostname []
      simp only [Option.isSome_none,Bool.false_eq_true,if_false,hlookup]
      constructor
      · have hclean : s.stored[hostname]? = none → CleanIps [] := fun _ => ⟨nodup_nil,not_mem_nil⟩
        have hstep := hs.shows.addEntry false hostname hclean
        rw [hshow] at hstep
        simp only [stored,hmap]
        exact hstep
      · intro host hhost
        simp only [stored,hmap]
        exact (addEntry_key host).mpr (Or.inl (hs.checked host hhost))
  · intro host check hcheck hstate
    simp only [addSiteInternal] at hcheck
    split_ifs at hcheck
    · exact hcheck
    · cases hlookup : s.sites.lookup hostname with
      | none => simpa [hlookup] using hcheck
      | some previousIps => simpa [hlookup,mergeIps] using hcheck

lemma removeSite_keeps (hostname : String) : Keeps s (s.removeSite hostname).2 := by
  rw [removeSite]
  split_ifs with hfound
  · refine keeps_of_checks (by rfl) ?_ ?_
    · intro hs
      have hcontains : (s.repository.vpnSites s.currentRouteMode).contains hostname := by
        rw [hs.shows.lookup_eq,Option.isSome_map] at hfound
        rwa [contains_eq_isSome_getElem?]
      have hstored : stored { s with
          siteChecks := s.siteChecks.erase hostname
          sites := s.sites.eraseP (·.1 == hostname)
          repository := s.repository.removeVpnSite s.currentRouteMode hostname } =
            s.stored.erase hostname := by
        simp [stored,removeVpnSite,hcontains]
      constructor
      · rw [hstored]
        constructor
        · exact (eraseP_sublist.map Prod.fst).nodup hs.shows.nodup
        · intro host
          rw [lookup_eraseP hs.shows.nodup,getElem?_erase_eq,hs.shows.lookup_eq]
          split_ifs <;> rfl
      · intro host hhost
        rw [getElem?_erase_eq] at hhost
        rw [hstored,getElem?_erase_eq]
        split_ifs at hhost ⊢ with he
        · exact absurd rfl hhost
        · exact hs.checked host hhost
    · intro host check hcheck hstate
      rw [getElem?_erase_eq] at hcheck
      split_ifs at hcheck
      exact hcheck
  · exact Keeps.refl _

lemma removeSites_keeps : Keeps s s.removeSites := by
  have hstored : s.removeSites.stored = ∅ := vpnSites_setVpnSites ..
  refine keeps_of_no_checks rfl rfl ?_
  rw [hstored]
  exact shows_empty

lemma addSiteInternal_key (hs : Shows s.sites s.stored) (hostname key : String) :
    (s.addSiteInternal hostname []).2.stored[key]? ≠ none ↔
      s.stored[key]? ≠ none ∨ key = hostname := by
  have hlookup := hs.lookup_eq hostname
  simp only [addSiteInternal,isEmpty_nil,Bool.and_true,contains_eq_isSome_getElem?]
  cases hstored : s.stored[hostname]? with
  | some value =>
    have himp : key = hostname → s.stored[key]? ≠ none := by
      rintro rfl
      simp [hstored]
    simp only [Option.isSome_some,if_true]
    exact ⟨Or.inl,fun h => h.elim id himp⟩
  | none =>
    rw [hstored,Option.map_none] at hlookup
    simp only [Option.isSome_none,Bool.false_eq_true,if_false,hlookup]
    have hmap := vpnSites_addVpnSite s.repository s.currentRouteMode hostname []
    simp only [stored,hmap]
    exact addEntry_key key

section

variable [Qt]

lemma normalizeEntry_clean {m m' : QMap (List String)} {entry : String × List String}
    (h : normalizeEntry m entry = some m')
    (hm : ∀ (key : String) ips, m[key]? = some ips → CleanIps ips) :
    ∀ (key : String) ips, m'[key]? = some ips → CleanIps ips := by
  simp only [normalizeEntry,Option.bind_eq_bind,Option.bind_eq_some_iff] at h
  obtain ⟨rule,-,valid,-,h⟩ := h
  split_ifs at h
  · obtain rfl := Option.some.inj h
    exact hm
  · obtain rfl := Option.some.inj h
    intro key ips hips
    rw [getElem?_insert_eq] at hips
    split_ifs at hips with hkey
    · obtain rfl := Option.some.inj hips
      apply CleanIps.mergeIps
      rw [getD_eq_getD_getElem?]
      cases hprevious : m[rule.normalizedText]? with
      | none => exact ⟨nodup_nil,not_mem_nil⟩
      | some previous => exact hm _ _ hprevious
    · exact hm key ips hips

lemma normalizedSites_clean {entries : List (String × List String)} {m : QMap (List String)}
    (h : entries.foldlM normalizeEntry ∅ = some m) : ∀ e ∈ m.toList, CleanIps e.2 := by
  have hclean := Runs.foldlM_invariant
    (P := fun m => ∀ (key : String) ips, m[key]? = some ips → CleanIps ips)
    (fun _ _ _ hu => normalizeEntry_clean hu) h fun key ips hips => by simp at hips
  intro e he
  exact hclean e.1 e.2 (mem_toList_iff_getElem?_eq_some.mp he)

lemma addSites_keeps {sites : QMap (List String)} {replaceExisting : Bool}
    (h : s.addSites sites replaceExisting = some t) : Keeps s t := by
  obtain ⟨normalizedSites,hnormalized,h⟩ := Option.bind_eq_some_iff.mp h
  exact (mergeSites_keeps replaceExisting (normalizedSites_clean hnormalized)).trans
    (foldlM_checkSite_keeps h)

lemma addSite_keeps {hostname : String} {added : Bool} (h : s.addSite hostname = some (added,t)) :
    Keeps s t := by
  simp only [addSite,Option.bind_eq_bind,Option.bind_eq_some_iff] at h
  obtain ⟨rule,-,valid,-,h⟩ := h
  have hinternal : Keeps s (s.addSiteInternal rule.normalizedText []).2 := addSiteInternal_keeps _
  split_ifs at h with hvalid haddress hadded
  · obtain ⟨-,rfl⟩ := Prod.mk.inj (Option.some.inj h)
    exact Keeps.refl _
  · obtain ⟨-,rfl⟩ := Prod.mk.inj (Option.some.inj h)
    exact hinternal
  · simp only [Option.bind_eq_some_iff] at h
    obtain ⟨u,hu,h⟩ := h
    obtain ⟨-,rfl⟩ := Prod.mk.inj (Option.some.inj h)
    exact hinternal.trans (checkSite_keeps hu)
  · obtain ⟨-,rfl⟩ := Prod.mk.inj (Option.some.inj h)
    exact hinternal

/-- What is read from the settings is shown, and what is shown is stored. -/
lemma fillSites_shows (h : s.fillSites = some t) :
    Shows t.sites t.stored ∧ t.siteChecks = s.siteChecks ∧ t.lookups = s.lookups := by
  obtain ⟨normalizedSitesMap,-,h⟩ := Option.bind_eq_some_iff.mp h
  split_ifs at h with hsame
  · obtain rfl := Option.some.inj h
    refine ⟨⟨nodup_keys_toList _ _,?_⟩,rfl,rfl⟩
    intro host
    rw [lookup_toList_map,hsame]
    rfl
  · obtain rfl := Option.some.inj h
    refine ⟨?_,rfl,rfl⟩
    have hlist : (normalizedSitesMap.map fun _ value => value.siteIpList).toList =
        normalizedSitesMap.toList.map fun entry => (entry.1,entry.2.siteIpList) :=
      toList_map
    have hnodup := nodup_keys_toList normalizedSitesMap QVariant.siteIpList
    have hclean : ∀ e ∈ normalizedSitesMap.toList.map fun entry => (entry.1,entry.2.siteIpList),
        CleanIps e.2 := by
      intro e he
      obtain ⟨entry,-,rfl⟩ := mem_map.mp he
      exact cleanIps_siteIpList _
    have hshows := shows_empty.foldl_addEntry false hclean
    rw [foldl_showEntry_of_nodup (by simpa using hnodup),nil_append] at hshows
    simp only [stored,vpnSites_addVpnSites,SecureAppSettingsRepository.removeAllVpnSites,
      vpnSites_setVpnSites,hlist]
    exact hshows

lemma setRouteMode_keeps {routeMode : RouteMode} (h : s.setRouteMode routeMode = some t) :
    Keeps s t := by
  obtain ⟨u,hu,h⟩ := Option.bind_eq_some_iff.mp h
  obtain rfl := Option.some.inj h
  obtain ⟨hshows,hchecks,hlookups⟩ := fillSites_shows hu
  exact keeps_of_no_checks hlookups hchecks hshows

lemma new_sound {repository : SecureAppSettingsRepository} (h : new repository = some s) :
    s.Sound := by
  obtain ⟨hshows,hchecks,-⟩ := fillSites_shows h
  exact sound_of_no_checks hchecks hshows

end

section

variable [Qt]

/-- What an answer does: nothing unless it is awaited, and otherwise it ends the check of its
host and may add addresses to it. -/
lemma onHostResolved_cases (s : IpSplitTunnelingController) (hostname : String)
    (hostInfo : HostInfo) :
    ¬s.Current hostname hostInfo.lookupId ∧ s.onHostResolved hostname hostInfo = s ∨
    s.Current hostname hostInfo.lookupId ∧ ∃ check : SiteCheck, check.state ≠ .resolving ∧
      (s.onHostResolved hostname hostInfo =
          { s with siteChecks := s.siteChecks.insert hostname check } ∨
        ∃ ips, s.onHostResolved hostname hostInfo =
          { s with siteChecks := s.siteChecks.insert hostname check }.processSiteAfterResolve
            hostname ips) := by
  cases hcheck : s.siteChecks[hostname]? with
  | none =>
    left
    constructor
    · rintro ⟨check,hsome,-⟩
      rw [hcheck] at hsome
      cases hsome
    · simp only [onHostResolved,hcheck]
  | some check =>
    by_cases hother : check.state ≠ .resolving ∨ check.lookupId ≠ hostInfo.lookupId
    · left
      constructor
      · rintro ⟨check',hsome,hstate,hid⟩
        rw [hcheck] at hsome
        obtain rfl := Option.some.inj hsome
        exact hother.elim (fun h => h hstate) fun h => h hid
      · simp only [onHostResolved,hcheck,if_pos hother]
    · right
      push Not at hother
      refine ⟨⟨check,hcheck,hother.1,hother.2⟩,?_⟩
      have hno : ¬(check.state ≠ .resolving ∨ check.lookupId ≠ hostInfo.lookupId) := by
        push Not
        exact hother
      simp only [onHostResolved,hcheck,if_neg hno]
      split_ifs with hips
      · exact ⟨_,by decide,Or.inr ⟨_,rfl⟩⟩
      · exact ⟨_,by simp,Or.inl rfl⟩
      · exact ⟨_,by simp,Or.inl rfl⟩

omit [Qt] in
/-- A check that has ended is none that goes on. -/
lemma resolving_of_insert_ended {hostname host : String} {check check' : SiteCheck}
    (h : check.state ≠ .resolving)
    (hcheck : (s.siteChecks.insert hostname check)[host]? = some check')
    (hstate : check'.state = .resolving) : s.siteChecks[host]? = some check' := by
  rw [getElem?_insert_eq] at hcheck
  split_ifs at hcheck
  · obtain rfl := Option.some.inj hcheck
    exact absurd hstate h
  · exact hcheck

omit [Qt] in
lemma Sound.stored_of_insert (h : s.Sound) {hostname host : String} {check : SiteCheck}
    (hold : s.siteChecks[hostname]? ≠ none)
    (hhost : (s.siteChecks.insert hostname check)[host]? ≠ none) : s.stored[host]? ≠ none := by
  rw [getElem?_insert_eq] at hhost
  split_ifs at hhost with ho
  · exact h.checked host (ho ▸ hold)
  · exact h.checked host hhost

lemma onHostResolved_keeps (hostname : String) (hostInfo : HostInfo) :
    Keeps s (s.onHostResolved hostname hostInfo) := by
  rcases onHostResolved_cases s hostname hostInfo with
    ⟨-,he⟩ | ⟨⟨old,hold,-⟩,check,hcheck,he | ⟨ips,he⟩⟩
  · rw [he]
    exact Keeps.refl s
  · have hold : s.siteChecks[hostname]? ≠ none := by simp [hold]
    rw [he]
    refine keeps_of_checks rfl ?_ fun host check' => resolving_of_insert_ended hcheck
    intro hs
    exact ⟨hs.shows,fun host => hs.stored_of_insert hold⟩
  · have hold : s.siteChecks[hostname]? ≠ none := by simp [hold]
    rw [he]
    refine keeps_of_checks rfl ?_ fun host check' => resolving_of_insert_ended hcheck
    intro hs
    have hstored : s.stored[hostname]? ≠ none := hs.checked hostname hold
    have hshow : showEntry s.sites (hostname,ips) =
        updateSite hostname (mergeIps · ips) s.sites := by
      rw [showEntry,if_pos]
      rw [hs.shows.lookup_eq,Option.isSome_map]
      exact Option.isSome_iff_ne_none.mpr hstored
    have hmap := vpnSites_addVpnSite s.repository s.currentRouteMode hostname ips
    constructor
    · have hclean : s.stored[hostname]? = none → CleanIps ips := fun hnone => absurd hnone hstored
      have hstep := hs.shows.addEntry false hostname hclean
      rw [hshow] at hstep
      simp only [processSiteAfterResolve,stored,hmap]
      exact hstep
    · intro host hhost
      simp only [processSiteAfterResolve,stored,hmap]
      exact (addEntry_key host).mpr (.inl (hs.stored_of_insert hold hhost))

end

inductive Action
  | addSite (hostname : String)
  | addSites (sites : QMap (List String)) (replaceExisting : Bool)
  | removeSite (hostname : String)
  | removeSites
  | setRouteMode (routeMode : RouteMode)
  | checkSite (hostname : String)
  | resolved (hostname : String) (hostInfo : HostInfo)

/-- The lookups of the host are over when the call returns. -/
def Action.Ends : Action → String → Prop
  | .removeSite hostname,host => host = hostname
  | .addSites _ replaceExisting,_ => replaceExisting
  | .removeSites,_ => True
  | .setRouteMode _,_ => True
  | _,_ => False

section

variable [Qt]

def act (s : IpSplitTunnelingController) : Action → Option IpSplitTunnelingController
  | .addSite hostname => (s.addSite hostname).map Prod.snd
  | .addSites sites replaceExisting => s.addSites sites replaceExisting
  | .removeSite hostname => some (s.removeSite hostname).2
  | .removeSites => some s.removeSites
  | .setRouteMode routeMode => s.setRouteMode routeMode
  | .checkSite hostname => s.checkSite hostname
  | .resolved hostname hostInfo => some (s.onHostResolved hostname hostInfo)

/-- After the process has ended nothing happens. -/
def step (s : Option IpSplitTunnelingController) (a : Action) : Option IpSplitTunnelingController :=
  s.bind (act · a)

lemma act_keeps {a : Action} (h : s.act a = some t) : Keeps s t := by
  cases a with
  | addSite hostname =>
    simp only [act] at h
    obtain ⟨⟨added,u⟩,hadd,rfl⟩ := Option.map_eq_some_iff.mp h
    exact addSite_keeps hadd
  | addSites sites replaceExisting => exact addSites_keeps h
  | removeSite hostname =>
    obtain rfl := Option.some.inj h
    exact removeSite_keeps hostname
  | removeSites =>
    obtain rfl := Option.some.inj h
    exact removeSites_keeps
  | setRouteMode routeMode => exact setRouteMode_keeps h
  | checkSite hostname => exact checkSite_keeps h
  | resolved hostname hostInfo =>
    obtain rfl := Option.some.inj h
    exact onHostResolved_keeps hostname hostInfo

lemma run_step_none (actions : List Action) : Runs.run step none actions = none := by
  induction actions with
  | nil => rfl
  | cons a actions ih => exact ih

lemma run_keeps {actions : List Action} (h : Runs.run step (some s) actions = some t) :
    Keeps s t := by
  induction actions generalizing s with
  | nil =>
    obtain rfl := Option.some.inj h
    exact Keeps.refl _
  | cons a actions ih =>
    rw [Runs.run_cons] at h
    cases hact : s.act a with
    | none =>
      have hdead : step (some s) a = none := hact
      rw [hdead,run_step_none] at h
      cases h
    | some u =>
      have hstep : step (some s) a = some u := hact
      rw [hstep] at h
      exact (act_keeps hact).trans (ih h)

lemma run_new_sound {repository : SecureAppSettingsRepository} {actions : List Action}
    (h : Runs.run step (new repository) actions = some s) : s.Sound := by
  cases hnew : new repository with
  | none =>
    rw [hnew,run_step_none] at h
    cases h
  | some s₀ =>
    rw [hnew] at h
    exact (run_keeps h).sound (new_sound hnew)

lemma act_ends {a : Action} {host : String} (hs : s.Sound) (h : s.act a = some t)
    (hends : a.Ends host) {id : ℕ} (hid : id < s.lookups.length) : ¬t.Current host id := by
  have hclear : ∀ {u : IpSplitTunnelingController}, u.siteChecks = ∅ → ¬u.Current host id := by
    rintro u hu ⟨check,hcheck,-⟩
    rw [hu,getElem?_empty] at hcheck
    cases hcheck
  cases a with
  | addSite hostname => cases hends
  | checkSite hostname => cases hends
  | resolved hostname hostInfo => cases hends
  | addSites sites replaceExisting =>
    obtain rfl : replaceExisting := hends
    obtain ⟨normalizedSites,-,h⟩ := Option.bind_eq_some_iff.mp h
    intro hcurrent
    rcases (foldlM_checkSite_keeps h).current host id hcurrent with hold | hnew
    · exact hclear rfl hold
    · have hlength : (s.mergeSites normalizedSites true).lookups.length = s.lookups.length := rfl
      omega
  | removeSite hostname =>
    obtain rfl : host = hostname := hends
    obtain rfl := Option.some.inj h
    rintro ⟨check,hcheck,-⟩
    rw [removeSite] at hcheck
    split_ifs at hcheck with hfound
    · rw [getElem?_erase_eq,if_pos rfl] at hcheck
      cases hcheck
    · have hstored := hs.checked host (by simp [hcheck])
      rw [hs.shows.lookup_eq,Option.isSome_map] at hfound
      exact hfound (Option.isSome_iff_ne_none.mpr hstored)
  | removeSites =>
    obtain rfl := Option.some.inj h
    exact hclear rfl
  | setRouteMode routeMode =>
    obtain ⟨u,hu,h⟩ := Option.bind_eq_some_iff.mp h
    obtain rfl := Option.some.inj h
    exact hclear (fillSites_shows hu).2.1

end

section

variable [Qt]

/-- Everything but one host of the mode in use is the same. -/
structure OnlyChanges (host : String) (s t : IpSplitTunnelingController) : Prop where
  mode : t.currentRouteMode = s.currentRouteMode
  lookups : t.lookups = s.lookups
  other_modes : ∀ mode ≠ s.currentRouteMode, t.repository.vpnSites mode = s.repository.vpnSites mode
  other_hosts : ∀ other ≠ host, t.sites.lookup other = s.sites.lookup other ∧
    t.stored[other]? = s.stored[other]? ∧ t.siteChecks[other]? = s.siteChecks[other]?

lemma onHostResolved_onlyChanges (s : IpSplitTunnelingController) (hostname : String)
    (hostInfo : HostInfo) : OnlyChanges hostname s (s.onHostResolved hostname hostInfo) := by
  have hchecks : ∀ (check : SiteCheck) (other : String), other ≠ hostname →
      (s.siteChecks.insert hostname check)[other]? = s.siteChecks[other]? := by
    intro check other ho
    rw [getElem?_insert_eq,if_neg ho]
  rcases onHostResolved_cases s hostname hostInfo with ⟨-,he⟩ | ⟨-,check,-,he | ⟨ips,he⟩⟩
  · rw [he]
    exact ⟨rfl,rfl,fun _ _ => rfl,fun _ _ => ⟨rfl,rfl,rfl⟩⟩
  · rw [he]
    exact ⟨rfl,rfl,fun _ _ => rfl,fun other ho => ⟨rfl,rfl,hchecks check other ho⟩⟩
  · rw [he]
    refine ⟨rfl,rfl,fun mode hmode => addVpnSite_vpnSites_ne _ hmode hostname ips,?_⟩
    intro other ho
    refine ⟨?_,?_,hchecks check other ho⟩
    · simp only [processSiteAfterResolve,lookup_updateSite,if_neg ho]
    · simp only [stored,processSiteAfterResolve,vpnSites_addVpnSite,addEntry]
      split_ifs
      · rw [getElem?_insert_eq,if_neg ho]
      · rfl

/-- In every run the list shows the stored sites of the mode in use. An answer changes nothing
unless its lookup is the one awaited for its host, and then nothing of the other hosts; a
lookup that has been replaced by another or has been ended is never awaited again. -/
theorem shown_sites_are_stored (repository : SecureAppSettingsRepository)
    (before after : List Action) (s t : IpSplitTunnelingController)
    (hs : Runs.run step (new repository) before = some s)
    (ht : Runs.run step (new repository) (before++after) = some t) :
    Shows t.sites t.stored ∧
    (∀ hostname hostInfo, OnlyChanges hostname t (t.onHostResolved hostname hostInfo)) ∧
    (∀ hostname hostInfo, ¬t.Current hostname hostInfo.lookupId →
      t.onHostResolved hostname hostInfo = t) ∧
    (∀ hostname (id : ℕ), id < s.lookups.length → ¬s.Current hostname id → ¬t.Current hostname id) ∧
    ∀ a u, s.act a = some u → ∀ hostname, a.Ends hostname →
      ∀ id : ℕ, id < s.lookups.length → ¬u.Current hostname id := by
  have hkeeps : Keeps s t := by
    rw [Runs.run_append,hs] at ht
    exact run_keeps ht
  have hsound := run_new_sound hs
  refine ⟨(hkeeps.sound hsound).shows,onHostResolved_onlyChanges t,?_,?_,?_⟩
  · intro hostname hostInfo hno
    rcases onHostResolved_cases t hostname hostInfo with ⟨-,he⟩ | ⟨hcurrent,-⟩
    · exact he
    · exact absurd hcurrent hno
  · intro hostname id hid hno hcurrent
    rcases hkeeps.current hostname id hcurrent with hold | hnew
    · exact hno hold
    · omega
  · intro a u hu hostname hends id hid
    exact act_ends hsound hu hends hid

end

/-- A map from an old version, with a key that is not in normal form. -/
def oldRepository : SecureAppSettingsRepository where
  routeMode := .vpnAllSites
  vpnSites _ := (∅ : QMap QVariant).insert "https://Ab.com/x" (.string "203.0.113.4")

def replacedLookup : List Action :=
  [.addSite "cd.com",.removeSite "cd.com",.addSite "cd.com"]

def lateAnswer : HostInfo := ⟨0,true,"",[.ipv4 3405803776#32]⟩

theorem late_answer_changes_nothing :
    ∃ s t, Runs.run (@step dottedQt) (@new dottedQt oldRepository) replacedLookup = some s ∧
      Runs.run (@step dottedQt) (@new dottedQt oldRepository)
        (replacedLookup++[.resolved "cd.com" lateAnswer]) = some t ∧
      s.lookups = ["cd.com","cd.com"] ∧ t.sites = [("ab.com",["203.0.113.4"]),("cd.com",[])] ∧
      Shows t.sites t.stored ∧
      ∀ hostname (id : ℕ), id < s.lookups.length → ¬s.Current hostname id →
        ¬t.Current hostname id := by
  have hs : ((Runs.run (@step dottedQt) (@new dottedQt oldRepository) replacedLookup).map
      fun s => s.lookups) = some ["cd.com","cd.com"] := by decide +kernel
  have ht : ((Runs.run (@step dottedQt) (@new dottedQt oldRepository)
      (replacedLookup++[.resolved "cd.com" lateAnswer])).map fun t => t.sites) =
        some [("ab.com",["203.0.113.4"]),("cd.com",[])] := by decide +kernel
  obtain ⟨s,hs,hlookups⟩ := Option.map_eq_some_iff.mp hs
  obtain ⟨t,ht,hsites⟩ := Option.map_eq_some_iff.mp ht
  obtain ⟨hshows,-,-,hstale,-⟩ := @shown_sites_are_stored dottedQt oldRepository replacedLookup
    [.resolved "cd.com" lateAnswer] s t hs ht
  exact ⟨s,t,hs,ht,hlookups,hsites,hshows,hstale⟩

end IpSplitTunnelingController

end AlzheimerVPN
