import AlzheimerVPN.SiteKeys

/-! Importing a site file. A later entry replaces an earlier one of the same reduced host
before the addresses are merged, and an entry without a host part ends the process. -/
namespace AlzheimerVPN.IpSplitTunnelingController

open Text SplitTunnelRule Std.ExtTreeMap List

section

variable [Qt]

/-- The host text of an entry. -/
def entryHost (entry : Json) : String := trimmed (entry.toObject.value "hostname").toString

/-- The key an entry is collected under; it is reduced once more when it is stored. -/
def entryKey (entry : Json) : String := normalizeHostText (entryHost entry)

/-- Something is left of the host text each time it is reduced. -/
def HasHost (entry : Json) : Prop :=
  hostParts (entryHost entry) ≠ [] ∧ hostParts (entryKey entry) ≠ []

instance (entry : Json) : Decidable (HasHost entry) := inferInstanceAs (Decidable (_ ∧ _))

/-- No later entry of the file is collected under the same key. -/
def Last (entries : List Json) (entry : Json) : Prop :=
  ∃ before after, entries = before++entry::after ∧
    ∀ later ∈ after, ¬(Accepted (entryHost later) ∧ entryKey later = entryKey entry)

variable {text : String}

lemma fromText?_of_parts (h : hostParts text ≠ []) : fromText? text = some (fromText text) := by
  rw [fromText?,if_neg (by simpa using h)]

lemma fromText?_eq_none (h : hostParts text = []) : fromText? text = none := by
  rw [fromText?,if_pos (by simp [h])]

lemma normalizedText_fromText (text : String) :
    (fromText text).normalizedText = normalizeHostText text := by
  rw [normalizedText_eq_value,value_eq_normalizeHostText]

lemma validateHostname_of_parts (h : hostParts text ≠ []) :
    validateHostname text = some (fromText text).isValid := by
  rw [validateHostname,fromText?_of_parts h,Option.map_some]

lemma importEntry_def (m : QMap (List String)) (entry : Json) :
    importEntry m entry = (fromText? (entryHost entry)).bind fun rule =>
      (validateHostname rule.normalizedText).bind fun valid =>
        if !valid then some m
        else some (m.insert rule.normalizedText (listedIps entry.toObject)) := by
  rw [importEntry]
  rfl

lemma importEntry_eq {entry : Json} (h : HasHost entry) (m : QMap (List String)) :
    importEntry m entry = some (if (fromText (entryKey entry)).isValid then
      m.insert (entryKey entry) (listedIps entry.toObject) else m) := by
  rw [importEntry_def,fromText?_of_parts h.1,Option.bind_some,normalizedText_fromText,
    ← entryKey,validateHostname_of_parts h.2,Option.bind_some]
  cases (fromText (entryKey entry)).isValid with
  | true => rfl
  | false => rfl

lemma importEntry_eq_none {entry : Json} (h : ¬HasHost entry) (m : QMap (List String)) :
    importEntry m entry = none := by
  rw [importEntry_def]
  by_cases hhost : hostParts (entryHost entry) = []
  · rw [fromText?_eq_none hhost,Option.bind_none]
  · have hkey : hostParts (entryKey entry) = [] := by
      by_contra hkey
      exact h ⟨hhost,hkey⟩
    rw [fromText?_of_parts hhost,Option.bind_some,normalizedText_fromText,← entryKey,
      validateHostname,fromText?_eq_none hkey,Option.map_none,Option.bind_none]

variable {entries : List Json}

lemma foldlM_importEntry_isSome_iff {m : QMap (List String)} :
    (∃ m', entries.foldlM importEntry m = some m') ↔ ∀ e ∈ entries, HasHost e := by
  induction entries generalizing m with
  | nil => simp
  | cons e entries ih =>
    rw [foldlM_cons,forall_mem_cons]
    by_cases he : HasHost e
    · rw [importEntry_eq he,Option.bind_eq_bind,Option.bind_some,ih]
      simp only [he,true_and]
    · rw [importEntry_eq_none he,Option.bind_eq_bind,Option.bind_none]
      simp [he]

lemma last_cons_iff {e x : Json} : Last (e::entries) x ↔ Last entries x ∨ x = e ∧
      ∀ later ∈ entries, ¬(Accepted (entryHost later) ∧ entryKey later = entryKey e) := by
  constructor
  · rintro ⟨before,after,heq,hafter⟩
    cases before with
    | nil =>
      obtain ⟨rfl,rfl⟩ := List.cons.inj heq
      exact Or.inr ⟨rfl,hafter⟩
    | cons b before =>
      obtain ⟨-,rfl⟩ := List.cons.inj heq
      exact Or.inl ⟨before,after,rfl,hafter⟩
  · rintro (⟨before,after,rfl,hafter⟩ | ⟨rfl,hlater⟩)
    · exact ⟨e::before,after,rfl,hafter⟩
    · exact ⟨[],entries,rfl,hlater⟩

/-- What has been collected under a key is what the last entry for it lists. -/
lemma imported_getElem?_iff {m m' : QMap (List String)}
    (h : entries.foldlM importEntry m = some m') (key : String) (ips : List String) :
    m'[key]? = some ips ↔ (∃ e, Last entries e ∧ Accepted (entryHost e) ∧ entryKey e = key ∧
        listedIps e.toObject = ips) ∨
      m[key]? = some ips ∧ ∀ e ∈ entries, ¬(Accepted (entryHost e) ∧ entryKey e = key) := by
  induction entries generalizing m with
  | nil =>
    obtain rfl := Option.some.inj h
    simp [Last]
  | cons e entries ih =>
    have he : HasHost e := (foldlM_importEntry_isSome_iff.mp ⟨m',h⟩) e mem_cons_self
    rw [foldlM_cons,importEntry_eq he,Option.bind_eq_bind,Option.bind_some] at h
    rw [ih h,forall_mem_cons]
    simp only [last_cons_iff]
    by_cases haccepted : (fromText (entryKey e)).isValid
    · rw [if_pos haccepted,getElem?_insert_eq]
      constructor
      · rintro (⟨x,hlast,hx⟩ | ⟨hsome,hnone⟩)
        · exact Or.inl ⟨x,Or.inl hlast,hx⟩
        · split_ifs at hsome with hkey
          · refine Or.inl ⟨e,Or.inr ⟨rfl,?_⟩,haccepted,hkey.symm,Option.some.inj hsome⟩
            rwa [← hkey]
          · exact Or.inr ⟨hsome,fun hx => hkey hx.2.symm,hnone⟩
      · rintro (⟨x,hlast | ⟨rfl,hlater⟩,hx⟩ | ⟨hsome,hhead,hnone⟩)
        · exact Or.inl ⟨x,hlast,hx⟩
        · obtain ⟨-,hkey,hips⟩ := hx
          refine Or.inr ⟨?_,hkey ▸ hlater⟩
          rw [if_pos hkey.symm,hips]
        · refine Or.inr ⟨?_,hnone⟩
          rw [if_neg]
          · exact hsome
          · intro hkey
            exact hhead ⟨haccepted,hkey.symm⟩
    · rw [if_neg haccepted]
      have hhead : ¬(Accepted (entryHost e) ∧ entryKey e = key) := fun hx => haccepted hx.1
      constructor
      · rintro (⟨x,hlast,hx⟩ | ⟨hsome,hnone⟩)
        · exact Or.inl ⟨x,Or.inl hlast,hx⟩
        · exact Or.inr ⟨hsome,hhead,hnone⟩
      · rintro (⟨x,hlast | ⟨rfl,-⟩,hx⟩ | ⟨hsome,-,hnone⟩)
        · exact Or.inl ⟨x,hlast,hx⟩
        · exact absurd hx.1 haccepted
        · exact Or.inr ⟨hsome,hnone⟩

end

section

variable [Qt] {s t : IpSplitTunnelingController}

lemma normalizeEntry_eq {entry : String × List String} (hparts : hostParts entry.1 ≠ [])
    (hkey : hostParts (normalizeHostText entry.1) ≠ []) (m : QMap (List String)) :
    normalizeEntry m entry = some (if (fromText (normalizeHostText entry.1)).isValid then
      m.insert (normalizeHostText entry.1)
        (mergeIps (m.getD (normalizeHostText entry.1) []) (entry.2.map trimmed)) else m) := by
  simp only [normalizeEntry,fromText?_of_parts hparts,Option.bind_eq_bind,Option.bind_some,
    normalizedText_fromText,validateHostname_of_parts hkey]
  cases (fromText (normalizeHostText entry.1)).isValid with
  | true => rfl
  | false => rfl

lemma checkSite_isSome {hostname : String} (h : hostParts hostname ≠ []) :
    ∃ t, s.checkSite hostname = some t := by
  rw [checkSite,fromText?_of_parts h,Option.bind_eq_bind,Option.bind_some]
  dsimp only
  split_ifs
  · exact ⟨_,rfl⟩
  · exact ⟨_,rfl⟩
  · exact ⟨_,rfl⟩

lemma foldlM_checkSite_isSome {entries : List (String × List String)}
    (h : ∀ e ∈ entries, hostParts e.1 ≠ []) :
    ∃ t, entries.foldlM (fun s entry => checkSite s entry.1) s = some t := by
  induction entries generalizing s with
  | nil => exact ⟨s,rfl⟩
  | cons e entries ih =>
    obtain ⟨he,hrest⟩ := forall_mem_cons.mp h
    obtain ⟨u,hu⟩ := checkSite_isSome (s := s) he
    rw [foldlM_cons,hu,Option.bind_eq_bind,Option.bind_some]
    exact ih hrest

lemma foldlM_normalizeEntry_isSome {entries : List (String × List String)}
    {m : QMap (List String)}
    (h : ∀ e ∈ entries, hostParts e.1 ≠ [] ∧ hostParts (normalizeHostText e.1) ≠ []) :
    ∃ m', entries.foldlM normalizeEntry m = some m' := by
  induction entries generalizing m with
  | nil => exact ⟨m,rfl⟩
  | cons e entries ih =>
    obtain ⟨he,hrest⟩ := forall_mem_cons.mp h
    rw [foldlM_cons,normalizeEntry_eq he.1 he.2,Option.bind_eq_bind,Option.bind_some]
    exact ih hrest

variable [LawfulLower]

lemma hostParts_normalizeHostText {text : String} (hparts : hostParts text ≠ [])
    (hvalid : (fromText text).isValid) : hostParts (normalizeHostText text) ≠ [] := by
  have htrimmed : trimmed (normalizeHostText text) = normalizeHostText text := by
    rw [trimmed,trimChars_eq_self (not_space_of_valid hvalid),String.ofList_toList]
  exact ((inNormalForm_iff _).mp (inNormalForm_of_trimmed hparts htrimmed)).1

lemma addSites_isSome {sites : QMap (List String)} (replaceExisting : Bool)
    (h : ∀ text : String, sites[text]? ≠ none → hostParts text ≠ [] ∧ (fromText text).isValid) :
    ∃ t, s.addSites sites replaceExisting = some t := by
  have hparts : ∀ e ∈ sites.toList,
      hostParts e.1 ≠ [] ∧ hostParts (normalizeHostText e.1) ≠ [] := by
    intro e he
    have hsome : sites[e.1]? ≠ none := by
      rw [mem_toList_iff_getElem?_eq_some.mp he]
      simp
    obtain ⟨hne,hvalid⟩ := h e.1 hsome
    exact ⟨hne,hostParts_normalizeHostText hne hvalid⟩
  obtain ⟨normalizedSites,hnormalized⟩ := foldlM_normalizeEntry_isSome (m := ∅) hparts
  have hchecked : ∀ e ∈ normalizedSites.toList.filter (fun entry => entry.2.isEmpty),
      hostParts e.1 ≠ [] := by
    intro e he
    have hsome : normalizedSites[e.1]? ≠ none := by
      rw [mem_toList_iff_getElem?_eq_some.mp (mem_filter.mp he).1]
      simp
    rcases (normalized_key hnormalized e.1).mp hsome with hempty | ⟨entry,hentry,hkey,-⟩
    · exact absurd getElem?_empty hempty
    · rw [hkey]
      exact (hparts entry hentry).2
  rw [addSites,hnormalized,Option.bind_eq_bind,Option.bind_some]
  exact foldlM_checkSite_isSome hchecked

end

section

/-- The addresses the list shows for a host. -/
def addresses (sites : List (String × List String)) (host : String) : List String :=
  (sites.lookup host).getD []

lemma mem_addresses_showEntry {sites : List (String × List String)}
    {entry : String × List String} (hclean : CleanIps entry.2) {host ip : String} :
    ip ∈ addresses (showEntry sites entry) host ↔
      ip ∈ addresses sites host ∨ host = entry.1 ∧ ip ∈ entry.2 := by
  have hne : ip ∈ entry.2 → ip ≠ "" := by
    rintro hip rfl
    exact hclean.2 hip
  rw [showEntry]
  split_ifs with hfound
  · obtain ⟨previous,hprevious⟩ := Option.isSome_iff_exists.mp hfound
    rw [addresses,addresses,lookup_updateSite]
    by_cases hhost : host = entry.1
    · subst hhost
      simp only [if_true,hprevious,Option.map_some,Option.getD_some,mem_mergeIps,true_and]
      exact or_congr_right ⟨And.left,fun hip => ⟨hip,hne hip⟩⟩
    · simp [hhost]
  · have hnone := Option.not_isSome_iff_eq_none.mp hfound
    rw [addresses,addresses,lookup_append]
    by_cases hhost : host = entry.1
    · subst hhost
      have hself : List.lookup entry.1 [entry] = some entry.2 := by
        rw [lookup_cons,beq_self_eq_true]
      simp [hnone,hself]
    · have hother : List.lookup host [entry] = none := by
        rw [lookup_cons,beq_eq_false_iff_ne.mpr hhost]
        rfl
      simp [hother,hhost]

lemma mem_addresses_foldl {entries sites : List (String × List String)}
    (hclean : ∀ e ∈ entries, CleanIps e.2) {host ip : String} :
    ip ∈ addresses (entries.foldl showEntry sites) host ↔
      ip ∈ addresses sites host ∨ ∃ e ∈ entries, host = e.1 ∧ ip ∈ e.2 := by
  induction entries generalizing sites with
  | nil => simp
  | cons e entries ih =>
    obtain ⟨he,hrest⟩ := forall_mem_cons.mp hclean
    rw [foldl_cons,ih hrest,mem_addresses_showEntry he,or_assoc]
    simp only [mem_cons,exists_eq_or_imp]

variable [Qt] {s t : IpSplitTunnelingController}

lemma mem_normalizeEntry {m m' : QMap (List String)} {entry : String × List String}
    (h : normalizeEntry m entry = some m') {key ip : String} :
    ip ∈ m'.getD key [] ↔ ip ∈ m.getD key [] ∨
      (key = normalizeHostText entry.1 ∧ Accepted entry.1) ∧ ip ∈ entry.2.map trimmed ∧ ip ≠ "" := by
  obtain ⟨-,⟨hrefused,rfl⟩ | ⟨haccepted,rfl⟩⟩ := normalizeEntry_cases h
  · simp only [hrefused,and_false,false_and,or_false]
  · simp only [getD_eq_getD_getElem?,getElem?_insert_eq,haccepted,and_true]
    by_cases hkey : key = normalizeHostText entry.1
    · rw [if_pos hkey,Option.getD_some,mem_mergeIps,hkey]
      simp only [true_and]
    · simp only [hkey,if_false,false_and,or_false]

omit [Qt] in
lemma exists_mem_toList_iff {sites : QMap (List String)} {key ip : String} :
    (∃ e ∈ sites.toList, key = e.1 ∧ ip ∈ e.2) ↔ ip ∈ sites.getD key [] := by
  rw [getD_eq_getD_getElem?]
  constructor
  · rintro ⟨e,he,rfl,hip⟩
    rw [mem_toList_iff_getElem?_eq_some.mp he]
    exact hip
  · intro hip
    cases hips : sites[key]? with
    | none => simp [hips] at hip
    | some ips =>
      rw [hips] at hip
      exact ⟨(key,ips),mem_toList_iff_getElem?_eq_some.mpr hips,rfl,hip⟩

/-- The addresses after sites have been added. -/
lemma mem_addresses_addSites {sites : QMap (List String)} {replaceExisting : Bool}
    (h : s.addSites sites replaceExisting = some t) {key ip : String} :
    ip ∈ addresses t.sites key ↔
      replaceExisting = false ∧ ip ∈ addresses s.sites key ∨
      ∃ (text : String) (ips : List String), sites[text]? = some ips ∧
        key = normalizeHostText text ∧ Accepted text ∧ ip ∈ ips.map trimmed ∧ ip ≠ "" := by
  obtain ⟨normalizedSites,hnormalized,h⟩ := Option.bind_eq_some_iff.mp h
  have hclean := normalizedSites_clean hnormalized
  have hlisted := Runs.foldlM_iff (P := fun m => ip ∈ m.getD key [])
    (fun _ _ _ hu => mem_normalizeEntry hu) hnormalized
  have hold : ip ∈ addresses (if replaceExisting then [] else s.sites) key ↔
      replaceExisting = false ∧ ip ∈ addresses s.sites key := by
    cases replaceExisting <;> simp [addresses]
  have hsites : (s.mergeSites normalizedSites replaceExisting).sites =
      normalizedSites.toList.foldl showEntry (if replaceExisting then [] else s.sites) := by
    cases replaceExisting <;> rfl
  rw [(foldlM_checkSite_same h).1,hsites,mem_addresses_foldl hclean,exists_mem_toList_iff,
    hlisted,hold]
  apply or_congr_right
  rw [getD_eq_getD_getElem?,getElem?_empty]
  simp only [Option.getD_none,not_mem_nil,false_or]
  constructor
  · rintro ⟨e,he,⟨hkey,haccepted⟩,hip,hne⟩
    exact ⟨e.1,e.2,mem_toList_iff_getElem?_eq_some.mp he,hkey,haccepted,hip,hne⟩
  · rintro ⟨text,ips,hips,hkey,haccepted,hip,hne⟩
    exact ⟨(text,ips),mem_toList_iff_getElem?_eq_some.mpr hips,⟨hkey,haccepted⟩,hip,hne⟩

end

section

variable [Qt]

/-- What an import should do: only accepted entries make sites, and every address an entry
lists is there for its host. -/
structure Imported (s : IpSplitTunnelingController) (entries : List Json) (replaceExisting : Bool)
    (t : IpSplitTunnelingController) : Prop where
  skips : ∀ key : String, t.stored[key]? ≠ none →
    replaceExisting = false ∧ s.stored[key]? ≠ none ∨
    ∃ e ∈ entries, Accepted (entryHost e) ∧ key = normalizeHostText (entryKey e)
  lists : ∀ e ∈ entries, Accepted (entryHost e) → ∀ ip ∈ listedIps e.toObject, trimmed ip ≠ "" →
    trimmed ip ∈ addresses t.sites (normalizeHostText (entryKey e))

/-- An address is not lost: the host has it already, or the last entry for one of the
spellings of the host lists it. -/
def Relisted (s : IpSplitTunnelingController) (entries : List Json) (replaceExisting : Bool)
    (e : Json) (ip : String) : Prop :=
  replaceExisting = false ∧ trimmed ip ∈ addresses s.sites (normalizeHostText (entryKey e)) ∨
  ∃ last, Last entries last ∧ Accepted (entryHost last) ∧
    normalizeHostText (entryKey last) = normalizeHostText (entryKey e) ∧
    trimmed ip ∈ (listedIps last.toObject).map trimmed

variable {s t : IpSplitTunnelingController} {entries : List Json} {replaceExisting : Bool}

lemma importSitesFromJson_eq_some_iff :
    s.importSitesFromJson (.ok (.arr entries)) replaceExisting = some (.ok t) ↔
      ∃ sites, entries.foldlM importEntry ∅ = some sites ∧
        s.addSites sites replaceExisting = some t := by
  simp only [importSitesFromJson,Option.bind_eq_bind,Option.bind_eq_some_iff]
  constructor
  · rintro ⟨sites,hsites,u,hu,h⟩
    obtain rfl : u = t := Except.ok.inj (Option.some.inj h)
    exact ⟨sites,hsites,hu⟩
  · rintro ⟨sites,hsites,ht⟩
    exact ⟨sites,hsites,t,ht,rfl⟩

lemma Last.mem {e : Json} (h : Last entries e) : e ∈ entries := by
  obtain ⟨before,after,rfl,-⟩ := h
  simp

lemma collected_iff {sites : QMap (List String)} (h : entries.foldlM importEntry ∅ = some sites)
    (key : String) (ips : List String) :
    sites[key]? = some ips ↔ ∃ e, Last entries e ∧ Accepted (entryHost e) ∧ entryKey e = key ∧
      listedIps e.toObject = ips := by
  rw [imported_getElem?_iff h,getElem?_empty]
  simp

lemma Imported.skips_of_eq_some
    (h : s.importSitesFromJson (.ok (.arr entries)) replaceExisting = some (.ok t)) (key : String)
    (hkey : t.stored[key]? ≠ none) :
    replaceExisting = false ∧ s.stored[key]? ≠ none ∨
    ∃ e ∈ entries, Accepted (entryHost e) ∧ key = normalizeHostText (entryKey e) := by
  obtain ⟨sites,hsites,ht⟩ := importSitesFromJson_eq_some_iff.mp h
  rcases (addSites_key ht key).mp hkey with hold | ⟨text,htext,hnew,-⟩
  · cases replaceExisting with
    | true => exact absurd getElem?_empty hold
    | false => exact Or.inl ⟨rfl,hold⟩
  · obtain ⟨ips,hips⟩ := Option.ne_none_iff_exists'.mp htext
    obtain ⟨e,hlast,haccepted,hentry,-⟩ := (collected_iff hsites text ips).mp hips
    right
    refine ⟨e,hlast.mem,haccepted,?_⟩
    rw [hentry,hnew]

lemma fromText_congr {a b : String} (h : normalizeHostText a = normalizeHostText b) :
    fromText a = fromText b := by
  simp only [fromText,h]

variable [LawfulLower]

lemma accepted_entryKey {e : Json} (hhost : HasHost e) (h : Accepted (entryHost e)) :
    Accepted (entryKey e) := by
  have hvalid : (fromText (entryKey e)).isValid := h
  have htrimmed : trimmed (normalizeHostText (entryKey e)) = normalizeHostText (entryKey e) := by
    rw [trimmed,trimChars_eq_self (not_space_of_valid hvalid),String.ofList_toList]
  have hnormal := ((inNormalForm_iff _).mp (inNormalForm_of_trimmed hhost.2 htrimmed)).2
  rw [Accepted,fromText_congr hnormal]
  exact hvalid

variable (replaceExisting) in
lemma importSitesFromJson_isSome (h : ∀ e ∈ entries, HasHost e) :
    ∃ t, s.importSitesFromJson (.ok (.arr entries)) replaceExisting = some (.ok t) := by
  obtain ⟨sites,hsites⟩ := foldlM_importEntry_isSome_iff (m := ∅) |>.mpr h
  have hkeys : ∀ text : String, sites[text]? ≠ none →
      hostParts text ≠ [] ∧ (fromText text).isValid := by
    intro text htext
    obtain ⟨ips,hips⟩ := Option.ne_none_iff_exists'.mp htext
    obtain ⟨e,hlast,haccepted,hkey,-⟩ := (collected_iff hsites text ips).mp hips
    rw [← hkey]
    exact ⟨(h e hlast.mem).2,haccepted⟩
  obtain ⟨t,ht⟩ := addSites_isSome (s := s) replaceExisting hkeys
  exact ⟨t,importSitesFromJson_eq_some_iff.mpr ⟨sites,hsites,ht⟩⟩

/-- The addresses after an import. -/
lemma mem_addresses_import (hhosts : ∀ e ∈ entries, HasHost e)
    (h : s.importSitesFromJson (.ok (.arr entries)) replaceExisting = some (.ok t))
    {e : Json} {ip : String} (hne : trimmed ip ≠ "") :
    trimmed ip ∈ addresses t.sites (normalizeHostText (entryKey e)) ↔
      Relisted s entries replaceExisting e ip := by
  obtain ⟨sites,hsites,ht⟩ := importSitesFromJson_eq_some_iff.mp h
  rw [mem_addresses_addSites ht,Relisted]
  apply or_congr_right
  constructor
  · rintro ⟨text,ips,hips,hkey,-,hip,-⟩
    obtain ⟨last,hlast,haccepted,hentry,hlisted⟩ := (collected_iff hsites text ips).mp hips
    refine ⟨last,hlast,haccepted,?_,hlisted ▸ hip⟩
    rw [hentry,hkey]
  · rintro ⟨last,hlast,haccepted,hkey,hip⟩
    refine ⟨entryKey last,listedIps last.toObject,?_,hkey.symm,?_,hip,hne⟩
    · exact (collected_iff hsites _ _).mpr ⟨last,hlast,haccepted,rfl,rfl⟩
    · exact accepted_entryKey (hhosts last hlast.mem) haccepted

variable (s entries replaceExisting)

/-- An import keeps every address exactly when each entry has a host part and each address is
listed again where its entry is replaced. -/
theorem importSitesFromJson_imported_iff :
    (∃ t, s.importSitesFromJson (.ok (.arr entries)) replaceExisting = some (.ok t) ∧
      Imported s entries replaceExisting t) ↔
    (∀ e ∈ entries, HasHost e) ∧
    ∀ e ∈ entries, Accepted (entryHost e) → ∀ ip ∈ listedIps e.toObject, trimmed ip ≠ "" →
      Relisted s entries replaceExisting e ip := by
  constructor
  · rintro ⟨t,ht,himported⟩
    obtain ⟨sites,hsites,-⟩ := importSitesFromJson_eq_some_iff.mp ht
    have hhosts := foldlM_importEntry_isSome_iff.mp ⟨sites,hsites⟩
    refine ⟨hhosts,?_⟩
    intro e he haccepted ip hip hne
    exact (mem_addresses_import hhosts ht hne).mp (himported.lists e he haccepted ip hip hne)
  · rintro ⟨hhosts,hlisted⟩
    obtain ⟨t,ht⟩ := importSitesFromJson_isSome (s := s) replaceExisting hhosts
    refine ⟨t,ht,Imported.skips_of_eq_some ht,?_⟩
    intro e he haccepted ip hip hne
    exact (mem_addresses_import hhosts ht hne).mpr (hlisted e he haccepted ip hip hne)

end

def siteEntry (hostname : String) (ips : List String) : Json :=
  .obj [("hostname",.str hostname),("ips",.arr (ips.map .str))]

theorem different_hosts_imported : ∃ t, @importSitesFromJson dottedQt fresh
        (.ok (.arr [siteEntry "ab.com" ["203.0.113.1"],siteEntry "cd.com" ["203.0.113.2"]])) false =
          some (.ok t) ∧
      @Imported dottedQt fresh
        [siteEntry "ab.com" ["203.0.113.1"],siteEntry "cd.com" ["203.0.113.2"]] false t := by
  let := dottedQt
  have hkeys : entryKey (siteEntry "ab.com" ["203.0.113.1"]) = "ab.com" ∧
      entryKey (siteEntry "cd.com" ["203.0.113.2"]) = "cd.com" := by decide +kernel
  have hhosts : ∀ e ∈ [siteEntry "ab.com" ["203.0.113.1"],siteEntry "cd.com" ["203.0.113.2"]],
      HasHost e := by
    rw [forall_mem_cons,forall_mem_singleton]
    exact ⟨by decide +kernel,by decide +kernel⟩
  have hlast : ∀ e ∈ [siteEntry "ab.com" ["203.0.113.1"],siteEntry "cd.com" ["203.0.113.2"]],
      Last [siteEntry "ab.com" ["203.0.113.1"],siteEntry "cd.com" ["203.0.113.2"]] e := by
    rw [forall_mem_cons,forall_mem_singleton]
    refine ⟨⟨[],_,rfl,?_⟩,⟨[_],[],rfl,by simp⟩⟩
    rw [forall_mem_singleton,hkeys.1,hkeys.2]
    rintro ⟨-,hsame⟩
    exact absurd hsame (by decide)
  refine (@importSitesFromJson_imported_iff dottedQt fresh _ false inferInstance).mpr ⟨hhosts,?_⟩
  intro e he haccepted ip hip hne
  exact Or.inr ⟨e,hlast e he,haccepted,rfl,mem_map_of_mem hip⟩

/-- The second spelling of a host replaces the addresses of the first, and an entry without a
host name ends the process. -/
theorem repeated_host_loses_addresses :
    ((@importSitesFromJson dottedQt fresh (.ok (.arr [siteEntry "ab.com" ["203.0.113.1"],
        siteEntry "https://ab.com/" ["203.0.113.2"]])) false).map fun result =>
          result.toOption.map fun t => t.sites) =
        some (some [("ab.com",["203.0.113.2"])]) ∧
      ((@importSitesFromJson dottedQt fresh (.ok (.arr [.obj [("ip",.str "203.0.113.1")]]))
        false).map fun result => result.toOption.map fun t => t.sites) = none := by
  decide +kernel

end AlzheimerVPN.IpSplitTunnelingController
