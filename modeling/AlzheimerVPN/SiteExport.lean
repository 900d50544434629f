import AlzheimerVPN.SiteImport

/-! Exporting the sites and importing the file elsewhere. An import collects its entries in a
map, so that the hosts come back in the order of their names. -/
namespace AlzheimerVPN.IpSplitTunnelingController

open Text SplitTunnelRule Std.ExtTreeMap List

/-- An entry of the file; its first address is there once more for older versions. -/
def exportEntry (site : String × List String) : Json :=
  .obj [("hostname",.str site.1),("ips",texts site.2),("ip",.str (site.2.headD ""))]

/-- `exportSitesToJson`, before the document is written. -/
def exportSitesToJson (s : IpSplitTunnelingController) : Json := .arr (s.sites.map exportEntry)

/-- A site that the file can carry. -/
structure Portable [Qt] (site : String × List String) : Prop where
  valid : (fromText site.1).isValid
  normal : InNormalForm site.1
  clean : CleanIps site.2
  plain : ∀ ip ∈ site.2, trimmed ip = ip

lemma listedIps_exportEntry {site : String × List String} (h : CleanIps site.2) :
    listedIps (exportEntry site).toObject = site.2 := by
  obtain ⟨host,ips⟩ := site
  cases ips with
  | nil => rfl
  | cons ip ips =>
    have hne : ip ≠ "" := fun he => h.2 (by simp [he])
    have hlisted : listedIps (exportEntry (host,ip::ips)).toObject = siteIpList ((ip::ips)++[ip]) := by
      simp [listedIps,exportEntry,texts,JsonObject.value,Json.toObject,Json.isArray,Json.toArray,
        Json.toString,lookup_cons,Function.comp_def,hne]
    rw [hlisted,siteIpList,filter_append,eraseDups_append,← siteIpList,h.siteIpList_eq]
    simp [hne,removeAll]

section Import

variable [Qt] {site : String × List String} (h : Portable site)

include h

lemma Portable.key :
    trimmed site.1 = site.1 ∧ hostParts site.1 ≠ [] ∧ normalizeHostText site.1 = site.1 := by
  obtain ⟨hparts,hsame⟩ := (inNormalForm_iff _).mp h.normal
  have hspace := not_space_of_valid h.valid
  rw [hsame] at hspace
  exact ⟨by rw [trimmed,trimChars_eq_self hspace,String.ofList_toList],hparts,hsame⟩

lemma importEntry_exportEntry (m : QMap (List String)) :
    importEntry m (exportEntry site) = some (m.insert site.1 site.2) := by
  obtain ⟨htrimmed,hparts,hsame⟩ := h.key
  have hhost : entryHost (exportEntry site) = site.1 := htrimmed
  have hkey : entryKey (exportEntry site) = site.1 := by rw [entryKey,hhost,hsame]
  rw [importEntry_eq ⟨by rwa [hhost],by rwa [hkey]⟩,hkey,listedIps_exportEntry h.clean,
    if_pos h.valid]

lemma normalizeEntry_of_portable {m : QMap (List String)} (hm : m[site.1]? = none) :
    normalizeEntry m site = some (m.insert site.1 site.2) := by
  obtain ⟨-,hparts,hsame⟩ := h.key
  have hplain : site.2.map trimmed = site.2 := (map_congr_left h.plain).trans (List.map_id' _)
  rw [normalizeEntry_eq hparts (by rwa [hsame]),hsame,if_pos h.valid,getD_eq_getD_getElem?,hm,
    Option.getD_none,hplain,h.clean.mergeIps_nil]

end Import

/-- Entries with different keys are all collected by a loop that inserts each new key. -/
lemma foldlM_insert {f : QMap (List String) → String × List String → Option (QMap (List String))}
    {l : List (String × List String)} {m : QMap (List String)}
    (hf : ∀ m, ∀ e ∈ l, m[e.1]? = none → f m e = some (m.insert e.1 e.2))
    (hl : (l.map Prod.fst).Nodup) (hm : ∀ e ∈ l, m[e.1]? = none) :
    ∃ m', l.foldlM f m = some m' ∧
      ∀ key ips, m'[key]? = some ips ↔ m[key]? = some ips ∨ (key,ips) ∈ l := by
  induction l generalizing m with
  | nil => exact ⟨m,rfl,by simp⟩
  | cons e l ih =>
    obtain ⟨he,hrest⟩ := nodup_cons.mp hl
    obtain ⟨hnone,hm⟩ := forall_mem_cons.mp hm
    have hfresh : ∀ k ∈ l, (m.insert e.1 e.2)[k.1]? = none := by
      intro k hk
      have hne : k.1 ≠ e.1 := fun hsame => he (hsame ▸ mem_map_of_mem hk)
      rw [getElem?_insert_eq,if_neg hne,hm k hk]
    obtain ⟨m',hm',hkeys⟩ := ih (fun m k hk => hf m k (mem_cons_of_mem e hk)) hrest hfresh
    refine ⟨m',?_,fun key ips => ?_⟩
    · rw [foldlM_cons,hf m e mem_cons_self hnone]
      exact hm'
    · rw [hkeys,getElem?_insert_eq,mem_cons]
      by_cases hkey : key = e.1
      · simp [hkey,hnone,Prod.ext_iff,eq_comm]
      · simp [hkey,Prod.ext_iff]

/-- The sites a file was exported from come back with their addresses as they were, and in the
order of the hosts. -/
theorem exported_sites_imported [Qt] {repository : SecureAppSettingsRepository}
    {actions : List Action} {s : IpSplitTunnelingController}
    (hrun : Runs.run step (new repository) actions = some s) (h : ∀ site ∈ s.sites, Portable site)
    (other : IpSplitTunnelingController) :
    ∃ t, other.importSitesFromJson (.ok s.exportSitesToJson) true = some (.ok t) ∧
      t.sites.Perm s.sites ∧
      (t.sites = s.sites ↔ s.sites.Pairwise fun a b => compare a.1 b.1 = .lt) := by
  have hnodup := (run_new_sound hrun).shows.nodup
  obtain ⟨m,hm,hkeys⟩ := foldlM_insert (f := fun m e => importEntry m (exportEntry e)) (m := ∅)
    (fun m e he _ => importEntry_exportEntry (h e he) m) hnodup (by simp)
  have hmem (e : String × List String) : e ∈ m.toList ↔ e ∈ s.sites := by
    rw [mem_toList_iff_getElem?_eq_some,hkeys]
    simp
  have hdistinct : (m.toList.map Prod.fst).Nodup := by simpa using nodup_keys_toList m id
  obtain ⟨m',hm',hkeys'⟩ := foldlM_insert (m := ∅)
    (fun m e he => normalizeEntry_of_portable (h e ((hmem e).mp he))) hdistinct (by simp)
  obtain rfl : m' = m := by
    refine ext_getElem? fun key => Option.ext fun ips => ?_
    rw [hkeys',mem_toList_iff_getElem?_eq_some]
    simp
  have hparts : ∀ e ∈ m'.toList.filter fun e => e.2.isEmpty, hostParts e.1 ≠ [] :=
    fun e he => (h e ((hmem e).mp (mem_filter.mp he).1)).key.2.1
  obtain ⟨t,ht⟩ := foldlM_checkSite_isSome (s := other.mergeSites m' true) hparts
  have hsites : t.sites = m'.toList :=
    (foldlM_checkSite_same ht).1.trans (foldl_showEntry_of_nodup hdistinct)
  have hperm : m'.toList.Perm s.sites :=
    (perm_ext_iff_of_nodup (.of_map _ hdistinct) (.of_map _ hnodup)).mpr hmem
  refine ⟨t,?_,hsites ▸ hperm,?_⟩
  · rw [exportSitesToJson,importSitesFromJson_eq_some_iff]
    refine ⟨m',foldlM_map.trans hm,?_⟩
    rw [addSites,hm',Option.bind_eq_bind,Option.bind_some]
    exact ht
  · rw [hsites]
    refine ⟨fun heq => heq ▸ ordered_keys_toList,fun hsorted => ?_⟩
    refine hperm.eq_of_pairwise (fun a b _ _ hab hba => ?_) ordered_keys_toList hsorted
    exact absurd hba (Std.OrientedCmp.not_lt_of_lt hab)

attribute [local instance] dottedQt

/-- A host that is added later than one that comes after it. -/
theorem added_sites_come_back :
    ∃ s t, Runs.run step (new oldRepository) [.addSite "aa.com"] = some s ∧
      fresh.importSitesFromJson (.ok s.exportSitesToJson) true = some (.ok t) ∧
      t.sites.Perm s.sites ∧
      (t.sites = s.sites ↔ s.sites.Pairwise fun a b => compare a.1 b.1 = .lt) := by
  have hs : ((Runs.run step (new oldRepository) [.addSite "aa.com"]).map fun s => s.sites) =
      some [("ab.com",["203.0.113.4"]),("aa.com",[])] := by decide +kernel
  obtain ⟨s,hs,hsites⟩ := Option.map_eq_some_iff.mp hs
  have hportable : ∀ site ∈ s.sites, Portable site := by
    rw [hsites,forall_mem_cons,forall_mem_singleton]
    exact ⟨⟨by decide +kernel,
        (by decide +kernel : (fromText? "ab.com").map (·.normalizedText) = some "ab.com"),
        ⟨by decide,by decide⟩,by decide +kernel⟩,
      ⟨by decide +kernel,
        (by decide +kernel : (fromText? "aa.com").map (·.normalizedText) = some "aa.com"),
        ⟨.nil,not_mem_nil⟩,by simp⟩⟩
  obtain ⟨t,ht⟩ := exported_sites_imported hs hportable fresh
  exact ⟨s,t,hs,ht⟩

end AlzheimerVPN.IpSplitTunnelingController
