import AlzheimerVPN.SecureServersRepository

/-! The order of the servers, the map of their configurations and the default server are changed
by different code. After every call the ordered identifiers are the keys of the map, each of
them once, and the default server is one of them whenever there is one. -/
namespace AlzheimerVPN.SecureServersRepository

open Text ServerConfigUtils Std.ExtTreeMap

variable {r : SecureServersRepository}

/-- The entries in memory: identifiers as `normalizedOrGeneratedServerId` makes them, each with
a configuration that carries it. -/
structure WellFormed (r : SecureServersRepository) : Prop where
  nodup : r.orderedServerIds.Nodup
  keys : ∀ id, id ∈ r.serverJsonById ↔ id ∈ r.orderedServerIds
  named : ∀ id ∈ r.orderedServerIds, id ≠ "" ∧ trimmed id = id
  embedded : ∀ id json, r.serverJsonById[id]? = some json →
    ∃ payload, json = embedStorageServerId id payload

def HasDefault (r : SecureServersRepository) : Prop :=
  r.defaultServerId ∈ r.orderedServerIds ∨ r.orderedServerIds = [] ∧ r.defaultServerId = ""

structure Consistent (r : SecureServersRepository) : Prop where
  wellFormed : r.WellFormed
  hasDefault : r.HasDefault

section

lemma mem_insert_iff (m : QMap JsonObject) (key other : String) (json : JsonObject) :
    other ∈ m.insert key json ↔ other = key ∨ other ∈ m := by
  simp only [mem_insert,Std.LawfulEqCmp.compare_eq_iff_eq]
  rw [eq_comm]

lemma mem_erase_iff (m : QMap JsonObject) (key other : String) :
    other ∈ m.erase key ↔ other ≠ key ∧ other ∈ m := by
  simp only [mem_erase,Ne,Std.LawfulEqCmp.compare_eq_iff_eq]
  rw [eq_comm]

lemma named_normalized (r : SecureServersRepository) (uuid : Uuid) (candidateId : String) :
    r.normalizedOrGeneratedServerId uuid candidateId ≠ "" ∧
      trimmed (r.normalizedOrGeneratedServerId uuid candidateId) =
        r.normalizedOrGeneratedServerId uuid candidateId := by
  simp only [normalizedOrGeneratedServerId]
  split_ifs with h
  · simp only [Bool.and_eq_true,Bool.not_eq_true',String.isEmpty_eq_false_iff] at h
    exact ⟨h.1,trimmed_trimmed candidateId⟩
  · exact uuid.2

variable {settings : ServersSettings} {defaultServerId : String} {count : ℕ}

lemma wellFormed_empty : WellFormed ⟨settings,∅,[],defaultServerId,count⟩ where
  nodup := List.nodup_nil
  keys id := by simp
  named id hid := by simp at hid
  embedded id json hjson := by simp at hjson

/-- Only the order and the map matter. -/
lemma WellFormed.of_eq {r' : SecureServersRepository} (h : r.WellFormed)
    (hmap : r'.serverJsonById = r.serverJsonById)
    (hids : r'.orderedServerIds = r.orderedServerIds) : r'.WellFormed where
  nodup := hids ▸ h.nodup
  keys := by
    rw [hmap,hids]
    exact h.keys
  named := hids ▸ h.named
  embedded := hmap ▸ h.embedded

lemma WellFormed.insert {id : String} (h : r.WellFormed) (hid : id ∉ r.serverJsonById)
    (hnamed : id ≠ "" ∧ trimmed id = id) (payload : JsonObject) :
    WellFormed ⟨settings,r.serverJsonById.insert id (embedStorageServerId id payload),
      r.orderedServerIds++[id],defaultServerId,count⟩ where
  nodup := by
    have hnew : id ∉ r.orderedServerIds := fun hm => hid ((h.keys id).mpr hm)
    rw [← List.concat_eq_append]
    exact h.nodup.concat hnew
  keys other := by
    rw [mem_insert_iff,h.keys,List.mem_append,List.mem_singleton,or_comm]
  named other hother := by
    rcases List.mem_append.mp hother with hother | hother
    · exact h.named other hother
    · rw [List.mem_singleton.mp hother]
      exact hnamed
  embedded other json hjson := by
    rw [getElem?_insert_eq] at hjson
    split_ifs at hjson with he
    · cases hjson
      exact ⟨payload,by rw [he]⟩
    · exact h.embedded other json hjson

lemma WellFormed.replace {id : String} (h : r.WellFormed) (hid : id ∈ r.orderedServerIds)
    (payload : JsonObject) :
    WellFormed ⟨settings,(r.serverJsonById.erase id).insert id (embedStorageServerId id payload),
      r.orderedServerIds,defaultServerId,count⟩ where
  nodup := h.nodup
  keys other := by
    rw [mem_insert_iff,mem_erase_iff,h.keys]
    by_cases he : other = id
    · simp [he,hid]
    · simp [he]
  named := h.named
  embedded other json hjson := by
    rw [getElem?_insert_eq,getElem?_erase_eq] at hjson
    split_ifs at hjson with he
    · cases hjson
      exact ⟨payload,by rw [he]⟩
    · exact h.embedded other json hjson

lemma WellFormed.erase (h : r.WellFormed) (id : String) :
    WellFormed ⟨settings,r.serverJsonById.erase id,r.orderedServerIds.erase id,
      defaultServerId,count⟩ where
  nodup := h.nodup.erase id
  keys other := by
    rw [mem_erase_iff,h.keys,h.nodup.mem_erase_iff]
  named other hother := h.named other (List.mem_of_mem_erase hother)
  embedded other json hjson := by
    rw [getElem?_erase_eq] at hjson
    split_ifs at hjson
    exact h.embedded other json hjson

end

lemma headD_mem {ids : List String} (h : ids ≠ []) : ids.headD "" ∈ ids := by
  cases ids with
  | nil => exact absurd rfl h
  | cons id ids => exact List.mem_cons_self

lemma getD_mem {ids : List String} {i : ℕ} (h : i < ids.length) : ids.getD i "" ∈ ids := by
  rw [List.getD_eq_getElem?_getD,List.getElem?_eq_getElem h,Option.getD_some]
  exact List.getElem_mem h

lemma hasDefault_updateDefaultServerFromStorage (h : r.WellFormed) :
    r.updateDefaultServerFromStorage.HasDefault := by
  simp only [updateDefaultServerFromStorage,HasDefault]
  split_ifs with hid hindex
  · rw [Bool.and_eq_true,contains_iff_mem,h.keys] at hid
    exact Or.inl hid.2
  · have hlt : r.settings.defaultServerIndex.toNat < r.orderedServerIds.length := by omega
    exact Or.inl (getD_mem hlt)
  · by_cases hnil : r.orderedServerIds = []
    · exact Or.inr ⟨hnil,by simp [hnil]⟩
    · exact Or.inl (headD_mem hnil)

lemma wellFormed_updateDefaultServerFromStorage (h : r.WellFormed) :
    r.updateDefaultServerFromStorage.WellFormed := by
  simp only [updateDefaultServerFromStorage]
  split_ifs <;> exact h.of_eq rfl rfl

/-- With a default server in place there is nothing to repair before it is written. -/
lemma persistDefaultServerFields_eq (h : r.HasDefault) : r.persistDefaultServerFields =
      { r with settings := { r.settings with defaultServerId := r.defaultServerId } } := by
  rcases h with h | ⟨hnil,he⟩
  · have hne : r.orderedServerIds ≠ [] := List.ne_nil_of_mem h
    simp [persistDefaultServerFields,hne,h]
  · simp [persistDefaultServerFields,hnil,he]

lemma Consistent.persist (h : r.Consistent) : r.persistDefaultServerFields.Consistent := by
  rw [persistDefaultServerFields_eq h.hasDefault]
  exact ⟨h.wellFormed.of_eq rfl rfl,h.hasDefault⟩

lemma Consistent.sync (h : r.Consistent) : r.syncToStorage.Consistent :=
  Consistent.persist ⟨h.wellFormed.of_eq rfl rfl,h.hasDefault⟩

lemma Consistent.contains (h : r.Consistent) (id : String) :
    r.serverJsonById.contains id = r.orderedServerIds.contains id := by
  rw [Bool.eq_iff_iff,contains_iff_mem,h.wellFormed.keys,List.contains_iff_mem]

lemma Consistent.exists_json (h : r.Consistent) {id : String} (hid : id ∈ r.orderedServerIds) :
    ∃ payload, r.serverJsonById[id]? = some (embedStorageServerId id payload) := by
  have hm := (h.wellFormed.keys id).mpr hid
  obtain ⟨json,hjson⟩ := Option.isSome_iff_exists.mp (mem_iff_isSome_getElem?.mp hm)
  obtain ⟨payload,rfl⟩ := h.wellFormed.embedded id json hjson
  exact ⟨payload,hjson⟩

/-- Taking a configuration out and putting it back changes nothing. -/
lemma insert_erase_self (m : QMap JsonObject) {id : String} {json : JsonObject}
    (h : m[id]? = some json) : (m.erase id).insert id json = m := by
  apply ext_getElem?
  intro other
  rw [getElem?_insert_eq,getElem?_erase_eq]
  split_ifs with he
  · rw [he,h]
  · rfl

section

variable [ApiEndpoints]

lemma loadEntry_cases (r : SecureServersRepository) (uuid : Uuid) (entry : Json) :
    let json := entry.toObject
    let id := r.normalizedOrGeneratedServerId uuid (readStorageServerId json)
    (isConfigFormatVersionSupported (withoutStorageServerId json) = false ∧ r.loadEntry uuid entry =
        { r with unsupportedFormatConfigsCount := r.unsupportedFormatConfigsCount+1 }) ∨
    (isConfigFormatVersionSupported (withoutStorageServerId json) ∧
      id ∈ r.serverJsonById ∧ r.loadEntry uuid entry = r) ∨
    (isConfigFormatVersionSupported (withoutStorageServerId json) ∧
      id ∉ r.serverJsonById ∧ r.loadEntry uuid entry =
        { r with
          serverJsonById := r.serverJsonById.insert id (embedStorageServerId id json)
          orderedServerIds := r.orderedServerIds++[id] }) := by
  intro json id
  have hkind := configTypeFromJson_ne_invalid (withoutStorageServerId json)
  cases hs : isConfigFormatVersionSupported (withoutStorageServerId json) with
  | false => exact Or.inl ⟨rfl,by simp [loadEntry,json,hs]⟩
  | true =>
    by_cases hid : id ∈ r.serverJsonById
    · refine Or.inr (Or.inl ⟨rfl,hid,?_⟩)
      simp [loadEntry,json,id,hs,contains_iff_mem.mpr hid]
    · refine Or.inr (Or.inr ⟨rfl,hid,?_⟩)
      have hc : r.serverJsonById.contains id = false := by
        rw [← Bool.not_eq_true,contains_iff_mem]
        exact hid
      simp [loadEntry,json,id,hs,hc,hkind]

lemma WellFormed.loadEntry (h : r.WellFormed) (uuid : Uuid) (entry : Json) :
    (r.loadEntry uuid entry).WellFormed := by
  rcases loadEntry_cases r uuid entry with ⟨-,he⟩ | ⟨-,-,he⟩ | ⟨-,hid,he⟩
  · rw [he]
    exact h.of_eq rfl rfl
  · rw [he]
    exact h
  · rw [he]
    exact h.insert hid (named_normalized r uuid _) _

lemma WellFormed.loadEntries (h : r.WellFormed) (uuids : ℕ → Uuid) (entries : List Json) :
    (r.loadEntries uuids entries).WellFormed := by
  unfold SecureServersRepository.loadEntries
  induction entries.zipIdx generalizing r with
  | nil => exact h
  | cons entry entries ih => exact ih (h.loadEntry _ _)

lemma consistent_loadFromStorage (r : SecureServersRepository) (uuids : ℕ → Uuid) :
    (r.loadFromStorage uuids).Consistent := by
  have h : (({ r.clearServerStateMaps with unsupportedFormatConfigsCount := 0 } :
      SecureServersRepository).loadEntries uuids r.settings.serversList).WellFormed :=
    wellFormed_empty.loadEntries uuids _
  exact ⟨wellFormed_updateDefaultServerFromStorage h,hasDefault_updateDefaultServerFromStorage h⟩

lemma consistent_new (uuids : ℕ → Uuid) (settings : ServersSettings) :
    (new uuids settings).Consistent :=
  (consistent_loadFromStorage _ uuids).persist

end

section

variable [ApiEndpoints]

/-- The changes that write the list, each with what it checks first. -/
def Writes (r : SecureServersRepository) : Change → Prop
  | .addServer uuid serverId serverJson kind =>
    r.normalizedOrGeneratedServerId uuid serverId ∉ r.serverJsonById ∧
      isConfigFormatVersionSupported (withoutStorageServerId serverJson) ∧
      kind ≠ .invalid ∧ configTypeFromJson (withoutStorageServerId serverJson) = kind
  | .editServer serverId serverJson kind => serverId ∈ r.orderedServerIds ∧
      kind ≠ .invalid ∧ configTypeFromJson (withoutStorageServerId serverJson) = kind
  | .removeServer serverId => serverId ∈ r.orderedServerIds
  | .setDefaultServer _ => False
  | .clearServers => True

/-- The default server after `serverId` has been taken out. -/
def defaultWithout (r : SecureServersRepository) (serverId : String) : String :=
  let orderedServerIds := r.orderedServerIds.erase serverId
  if orderedServerIds.isEmpty then ""
  else if r.defaultServerId = serverId then
    orderedServerIds.getD (min (r.orderedServerIds.idxOf serverId) (orderedServerIds.length-1)) ""
  else if !orderedServerIds.contains r.defaultServerId then orderedServerIds.headD ""
  else r.defaultServerId

/-- The servers in memory when a change comes to write them. -/
def changed (r : SecureServersRepository) : Change → SecureServersRepository
  | .addServer uuid serverId serverJson _ =>
    let id := r.normalizedOrGeneratedServerId uuid serverId
    { r with
      serverJsonById := r.serverJsonById.insert id (embedStorageServerId id serverJson)
      orderedServerIds := r.orderedServerIds++[id]
      defaultServerId := if r.defaultServerId.isEmpty then id else r.defaultServerId }
  | .editServer serverId serverJson _ =>
    { r with serverJsonById :=
        (r.serverJsonById.erase serverId).insert serverId (embedStorageServerId serverId serverJson) }
  | .removeServer serverId =>
    { r with
      serverJsonById := r.serverJsonById.erase serverId
      orderedServerIds := r.orderedServerIds.erase serverId
      defaultServerId := r.defaultWithout serverId }
  | .setDefaultServer serverId => { r with defaultServerId := serverId }
  | .clearServers => { r.clearServerStateMaps with defaultServerId := "" }

lemma hasDefault_changed (h : r.Consistent) (c : Change) (hw : r.Writes c) :
    (r.changed c).HasDefault := by
  cases c with
  | addServer uuid serverId serverJson kind =>
    left
    rcases h.hasDefault with hd | ⟨-,he⟩
    · have hne := (h.wellFormed.named _ hd).1
      simp [changed,hne,hd]
    · simp [changed,he]
  | editServer serverId serverJson kind => exact h.hasDefault
  | removeServer serverId =>
    simp only [changed,HasDefault,defaultWithout]
    split_ifs with hnil hdefault hout
    · exact Or.inr ⟨List.isEmpty_iff.mp hnil,rfl⟩
    · rw [List.isEmpty_iff] at hnil
      have hpos := List.length_pos_of_ne_nil hnil
      exact Or.inl (getD_mem (by omega))
    · rw [List.isEmpty_iff] at hnil
      exact Or.inl (headD_mem hnil)
    · simp only [Bool.not_eq_true',Bool.not_eq_false,List.contains_iff_mem] at hout
      exact Or.inl hout
  | setDefaultServer serverId => exact hw.elim
  | clearServers => exact Or.inr ⟨rfl,rfl⟩

lemma Consistent.changed (h : r.Consistent) (c : Change) (hw : r.Writes c) :
    (r.changed c).Consistent := by
  refine ⟨?_,hasDefault_changed h c hw⟩
  cases c with
  | addServer uuid serverId serverJson kind =>
    exact h.wellFormed.insert hw.1 (named_normalized r uuid serverId) _
  | editServer serverId serverJson kind => exact h.wellFormed.replace hw.1 _
  | removeServer serverId => exact h.wellFormed.erase serverId
  | setDefaultServer serverId => exact hw.elim
  | clearServers => exact wellFormed_empty

lemma apply_of_writes (h : r.Consistent) (c : Change) (hw : r.Writes c) :
    r.apply c = (r.changed c).syncToStorage := by
  cases c with
  | addServer uuid serverId serverJson kind =>
    obtain ⟨hid,hversion,hkind,htype⟩ := hw
    simp [apply,addServer,changed,hid,hversion,hkind,htype]
  | editServer serverId serverJson kind =>
    obtain ⟨hid,hkind,htype⟩ := hw
    obtain ⟨payload,hjson⟩ := h.exists_json hid
    simp [apply,editServer,changed,hid,hkind,htype,hjson]
  | removeServer serverId =>
    have hid : serverId ∈ r.orderedServerIds := hw
    have herase := List.erase_eq_eraseIdx_of_idxOf (a := serverId) (l := r.orderedServerIds) rfl
    simp only [apply,removeServer,changed,defaultWithout,h.contains,← herase]
    simp [hid]
  | setDefaultServer serverId => exact hw.elim
  | clearServers => rfl

/-- Without a write only the default server may change, and the store with it. -/
lemma apply_of_not_writes (h : r.Consistent) (c : Change) (hw : ¬r.Writes c) :
    r.apply c = r ∨ ∃ id ∈ r.orderedServerIds, c = .setDefaultServer id ∧ r.apply c =
        { r with
          defaultServerId := id
          settings := { r.settings with defaultServerId := id } } := by
  cases c with
  | addServer uuid serverId serverJson kind =>
    left
    simp only [apply,addServer]
    split
    case isTrue => rfl
    case isFalse hin =>
      split
      case isTrue => rfl
      case isFalse hrejected =>
        refine absurd ?_ hw
        simp only [Bool.or_eq_true,contains_iff_mem,decide_eq_true_eq,not_or] at hin
        simp only [Bool.or_eq_true,Bool.not_eq_true',decide_eq_true_eq,not_or,Bool.not_eq_false,
          Classical.not_not] at hrejected
        exact ⟨hin.1,hrejected.1,hin.2,hrejected.2⟩
  | editServer serverId serverJson kind =>
    left
    by_cases hid : serverId ∈ r.orderedServerIds
    · obtain ⟨payload,hjson⟩ := h.exists_json hid
      by_cases hkind : kind = .invalid
      · simp [apply,editServer,hid,hkind]
      · have htype : configTypeFromJson (withoutStorageServerId serverJson) ≠ kind :=
          fun he => hw ⟨hid,hkind,he⟩
        have hold := configTypeFromJson_ne_invalid (withoutStorageServerId payload)
        simp [apply,editServer,hid,hkind,hjson,htype,hold,insert_erase_self _ hjson]
    · simp [apply,editServer,hid]
  | removeServer serverId =>
    have hid : serverId ∉ r.orderedServerIds := hw
    exact Or.inl (by simp [apply,removeServer,hid])
  | setDefaultServer serverId =>
    by_cases hid : serverId ∈ r.orderedServerIds
    · by_cases hd : r.defaultServerId = serverId
      · exact Or.inl (by simp [apply,setDefaultServer,hd])
      · refine Or.inr ⟨serverId,hid,rfl,?_⟩
        have hne : r.orderedServerIds ≠ [] := List.ne_nil_of_mem hid
        have hp := persistDefaultServerFields_eq (r := { r with defaultServerId := serverId })
          (Or.inl hid)
        simp only [apply,setDefaultServer,h.contains]
        simp [hne,hid,hd,hp]
    · left
      simp only [apply,setDefaultServer,h.contains]
      simp [hid]
  | clearServers => exact absurd trivial hw

lemma Consistent.apply (h : r.Consistent) (c : Change) : (r.apply c).Consistent := by
  by_cases hw : r.Writes c
  · rw [apply_of_writes h c hw]
    exact (h.changed c hw).sync
  · rcases apply_of_not_writes h c hw with he | ⟨id,hid,-,he⟩
    · rw [he]
      exact h
    · rw [he]
      exact ⟨h.wellFormed.of_eq rfl rfl,Or.inl hid⟩

lemma Consistent.call (h : r.Consistent) (c : Call) : (r.call c).Consistent := by
  cases c with
  | load uuids => exact consistent_new uuids r.settings
  | invalidateCache uuids => exact consistent_loadFromStorage r uuids
  | change c => exact h.apply c

end

/-- Whatever is stored and called, the identifiers are distinct, they are the keys of the map,
the kind of every configuration can be read, and the default server is one of the servers, its
identifier being empty exactly when there is none. -/
theorem repository_consistent [ApiEndpoints] (uuids : ℕ → Uuid) (settings : ServersSettings)
    (calls : List Call) :
    let r := Runs.run call (new uuids settings) calls
    r.orderedServerIds.Nodup ∧ (∀ id, id ∈ r.orderedServerIds ↔ id ∈ r.serverJsonById) ∧
      (∀ id ∈ r.serverJsonById, r.serverKind id ≠ .invalid) ∧
      (r.defaultServerId ∈ r.orderedServerIds ∨ r.defaultServerId = "") ∧
      (r.defaultServerId = "" ↔ r.orderedServerIds = []) := by
  intro r
  have h : r.Consistent :=
    Runs.run_invariant_of_step (fun r c h => h.call c) (consistent_new uuids settings) calls
  refine ⟨h.wellFormed.nodup,fun id => (h.wellFormed.keys id).symm,?_,?_,?_⟩
  · intro id hid
    obtain ⟨payload,hjson⟩ := h.exists_json ((h.wellFormed.keys id).mp hid)
    simp only [serverKind,hjson]
    exact configTypeFromJson_ne_invalid _
  · exact h.hasDefault.imp_right And.right
  · constructor
    · intro he
      rcases h.hasDefault with hd | hd
      · exact absurd he (h.wellFormed.named _ hd).1
      · exact hd.1
    · intro hnil
      rcases h.hasDefault with hd | hd
      · rw [hnil] at hd
        exact absurd hd List.not_mem_nil
      · exact hd.2

end AlzheimerVPN.SecureServersRepository
