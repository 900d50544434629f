import Mathlib.Data.List.Induction
import Mathlib.Algebra.Order.BigOperators.Group.List
import Mathlib.Algebra.Order.Group.Nat
import AlzheimerVPN.ServersConsistency

/-! What a new repository reads back from the store. The list is written whole, from the servers
in memory, while the identifiers that loading generates and the choice of the default server are
not: entries that were skipped are lost by the next write, and a default server is lost when the
store does not know its identifier. -/
namespace AlzheimerVPN.SecureServersRepository

open Text ServerConfigUtils List

variable {r : SecureServersRepository}

/-- `count+1` times the same character. -/
def runUuid (count : ℕ) : Uuid where
  val := String.ofList (List.replicate (count+1) 'a')
  property := by
    constructor
    · intro h
      have hlist := congrArg String.toList h
      simp at hlist
    · have hspace : ∀ c ∈ List.replicate (count+1) 'a', isSpace c = false := by
        intro c hc
        rw [eq_of_mem_replicate hc]
        decide
      rw [trimmed,String.toList_ofList,trimChars_eq_self hspace]

/-- A build for which neither endpoint is set. -/
@[reducible] def unsetEndpoints : ApiEndpoints := ⟨"",""⟩

/-- The entry has a format version that `loadFromStorage` accepts. -/
def Readable (entry : Json) : Prop :=
  isConfigFormatVersionSupported (withoutStorageServerId entry.toObject)

instance (entry : Json) : Decidable (Readable entry) := inferInstanceAs (Decidable (_ = true))

@[simp] lemma persistDefaultServerFields_serversList :
    r.persistDefaultServerFields.settings.serversList = r.settings.serversList := rfl

section

variable [ApiEndpoints]

/-- The entries of `stored` that are too new to be read are in the store. -/
def NewerKept (stored : List Json) (r : SecureServersRepository) : Prop :=
  ∀ entry ∈ stored, ¬Readable entry → entry ∈ r.settings.serversList

variable (uuids : ℕ → Uuid)

lemma serversList_loadEntries (entries : List Json) :
    (r.loadEntries uuids entries).settings = r.settings := by
  unfold loadEntries
  induction entries.zipIdx generalizing r with
  | nil => rfl
  | cons entry entries ih =>
    rw [foldl_cons,ih]
    simp only [loadEntry]
    split_ifs <;> rfl

lemma settings_loadFromStorage : (r.loadFromStorage uuids).settings = r.settings := by
  have h := serversList_loadEntries (r := { r.clearServerStateMaps with
    unsupportedFormatConfigsCount := 0 }) uuids r.settings.serversList
  simp only [loadFromStorage,updateDefaultServerFromStorage]
  split_ifs <;> exact h

lemma serversList_new (settings : ServersSettings) :
    (new uuids settings).settings.serversList = settings.serversList := by
  rw [new,persistDefaultServerFields_serversList,settings_loadFromStorage]

lemma serversList_apply (h : r.Consistent) {c : Change} (hw : ¬r.Writes c) :
    (r.apply c).settings.serversList = r.settings.serversList := by
  rcases apply_of_not_writes h c hw with he | ⟨id,-,-,he⟩ <;> rw [he]

/-- As long as nothing is written over entries that are too new to be read, these stay in the
store as they are. -/
theorem newer_servers_kept (uuids : ℕ → Uuid) (settings : ServersSettings) (changes : List Change)
    (hok : Runs.Guarded apply
      (fun r c => r.Writes c → ∀ entry ∈ r.settings.serversList, Readable entry)
      (new uuids settings) changes) :
    Runs.Always apply (NewerKept settings.serversList) (new uuids settings) changes := by
  rintro pre ⟨rest,rfl⟩
  have hpre := ((Runs.guarded_append _ _ _ _ _).mp hok).1
  have hstep : ∀ r c, r.Consistent ∧ NewerKept settings.serversList r →
      (r.Writes c → ∀ entry ∈ r.settings.serversList, Readable entry) →
      (r.apply c).Consistent ∧ NewerKept settings.serversList (r.apply c) := by
    rintro r c ⟨h,hkept⟩ hc
    refine ⟨h.apply c,?_⟩
    intro entry hentry hnewer
    have hin := hkept entry hentry hnewer
    by_cases hw : r.Writes c
    · exact absurd (hc hw entry hin) hnewer
    · rw [serversList_apply h hw]
      exact hin
  have hstart : NewerKept settings.serversList (new uuids settings) := by
    intro entry hentry hnewer
    rw [serversList_new]
    exact hentry
  exact (Runs.run_invariant hstep ⟨consistent_new uuids settings,hstart⟩ hpre).2

end

/-- A server without a version and one of the next version. -/
def mixedVersions : ServersSettings :=
  ⟨[.obj [("hostName",.str "203.0.113.1")],.obj [("format_version",.num 2)]],"",0⟩

theorem rejected_changes_keep_newer :
    Runs.Always (@apply unsetEndpoints) (NewerKept mixedVersions.serversList)
      (@new unsetEndpoints runUuid mixedVersions)
      [.setDefaultServer "a",.addServer (runUuid 7) "work" [("format_version",.num 3)] .selfHostedUser] := by
  apply @newer_servers_kept unsetEndpoints
  rw [Runs.guarded_cons,Runs.guarded_cons]
  refine ⟨fun hw => hw.elim,?_,Runs.guarded_nil _ _ _⟩
  rintro ⟨-,hversion,-⟩
  exact absurd hversion (by decide)

theorem added_server_destroys_newer :
    ¬Runs.Always (@apply unsetEndpoints) (NewerKept mixedVersions.serversList)
      (@new unsetEndpoints runUuid mixedVersions)
      [.addServer (runUuid 7) "work" [("hostName",.str "203.0.113.2")] .selfHostedUser] := by
  intro h
  have hin := h _ (prefix_refl _) (.obj [("format_version",.num 2)]) (by simp [mixedVersions])
    (by decide)
  have hversion := mem_map_of_mem (f := fun entry => configFormatVersion entry.toObject) hin
  revert hversion
  decide

def storedServers (entries : List Json) : List JsonObject :=
  (entries.map Json.toObject).filter fun json =>
    isConfigFormatVersionSupported (withoutStorageServerId json)

/-- The identifiers that the readable entries carry, blank ones included. -/
def storedIds (entries : List Json) : List String := (storedServers entries).map readStorageServerId

/-- `QUuid::createUuid` gives a text that is in no use yet. -/
structure Fresh (uuids : ℕ → Uuid) (settings : ServersSettings) : Prop where
  injective : ∀ i j, (uuids i).1 = (uuids j).1 → i = j
  unstored : ∀ i, (uuids i).1 ∉ storedIds settings.serversList
  notDefault : ∀ i, (uuids i).1 ≠ settings.defaultServerId

/-- The configurations in their order, without the identifiers. -/
def configs (r : SecureServersRepository) : List (Option JsonObject) :=
  r.orderedServerIds.map fun id => r.serverJsonById[id]?.map withoutStorageServerId

/-- The servers that loading `entries` gives. An identifier that an entry carries is taken by
the first entry that carries it; the others are generated. -/
structure LoadedFrom (entries : List Json) (uuids : ℕ → Uuid) (r : SecureServersRepository) :
    Prop where
  configs : r.configs = (storedServers entries).map fun json => some (withoutStorageServerId json)
  first : ∀ id ∈ storedIds entries, id ≠ "" →
    r.orderedServerIds.idxOf id = (storedIds entries).idxOf id
  origin : ∀ id ∈ r.orderedServerIds,
    id ∈ storedIds entries ∨ ∃ i < entries.length, id = (uuids i).1

lemma length_orderedServerIds {entries : List Json} {uuids : ℕ → Uuid}
    (h : LoadedFrom entries uuids r) : r.orderedServerIds.length = (storedIds entries).length := by
  have hlength := congrArg List.length h.configs
  simpa [SecureServersRepository.configs,storedIds] using hlength

lemma LoadedFrom.mem {entries : List Json} {uuids : ℕ → Uuid} (h : LoadedFrom entries uuids r)
    {id : String} (hid : id ∈ storedIds entries) (hne : id ≠ "") : id ∈ r.orderedServerIds := by
  rw [← idxOf_lt_length_iff,h.first id hid hne,length_orderedServerIds h]
  exact idxOf_lt_length_of_mem hid

lemma configs_insert (h : r.WellFormed) {id : String} (hid : id ∉ r.serverJsonById)
    (json : JsonObject) :
    configs { r with
      serverJsonById := r.serverJsonById.insert id (embedStorageServerId id json)
      orderedServerIds := r.orderedServerIds++[id] } =
      r.configs++[some (withoutStorageServerId json)] := by
  have hold : ∀ other ∈ r.orderedServerIds, other ≠ id := by
    intro other hother he
    exact hid ((h.keys id).mpr (he ▸ hother))
  simp only [configs,map_append,map_cons,map_nil,getElem?_insert_eq,if_true,
    Option.map_some,withoutStorageServerId_embed]
  congr 1
  apply map_congr_left
  intro other hother
  rw [if_neg (hold other hother)]

lemma idxOf_append_singleton {ids ids' : List String} {id id' other : String}
    (hlength : ids.length = ids'.length)
    (hold : other ∈ ids' → ids.idxOf other = ids'.idxOf other)
    (hnew : other ∉ ids' → other ∉ ids ∧ (other = id ↔ other = id')) :
    (ids++[id]).idxOf other = (ids'++[id']).idxOf other := by
  by_cases hin : other ∈ ids'
  · have hmem : other ∈ ids := by
      rw [← idxOf_lt_length_iff,hold hin,hlength]
      exact idxOf_lt_length_of_mem hin
    rw [idxOf_append_of_mem hmem,idxOf_append_of_mem hin,hold hin]
  · obtain ⟨hout,he⟩ := hnew hin
    rw [idxOf_append_of_notMem hout,idxOf_append_of_notMem hin,hlength]
    by_cases hid : other = id
    · rw [← hid,← he.mp hid]
    · have hid' : other ≠ id' := fun h => hid (he.mpr h)
      rw [idxOf_cons_ne _ (Ne.symm hid),idxOf_cons_ne _ (Ne.symm hid')]

lemma normalized_cases (r : SecureServersRepository) (uuid : Uuid) (json : JsonObject) :
    let candidateId := readStorageServerId json
    let id := r.normalizedOrGeneratedServerId uuid candidateId
    (candidateId ≠ "" ∧ candidateId ∉ r.serverJsonById ∧ id = candidateId) ∨
      ((candidateId = "" ∨ candidateId ∈ r.serverJsonById) ∧ id = uuid.1) := by
  intro candidateId id
  have htrimmed : trimmed candidateId = candidateId := trimmed_trimmed _
  simp only [id,normalizedOrGeneratedServerId,htrimmed]
  split_ifs with h
  · simp only [Bool.and_eq_true,Bool.not_eq_true',String.isEmpty_eq_false_iff] at h
    refine Or.inl ⟨h.1,?_,rfl⟩
    rw [← Std.ExtTreeMap.contains_iff_mem,h.2]
    simp
  · right
    by_cases he : candidateId = ""
    · exact ⟨Or.inl he,rfl⟩
    · have hne : candidateId.isEmpty = false := String.isEmpty_eq_false_iff.mpr he
      simp only [hne,Bool.not_false,Bool.true_and,Bool.not_eq_true',Bool.not_eq_false,
        Std.ExtTreeMap.contains_iff_mem] at h
      exact ⟨Or.inr h,rfl⟩

lemma storedServers_append (entries : List Json) (entry : Json) :
    storedServers (entries++[entry]) = storedServers entries++
      if isConfigFormatVersionSupported (withoutStorageServerId entry.toObject)
      then [entry.toObject] else [] := by
  simp only [storedServers,map_append,filter_append,map_cons,map_nil,filter_cons,filter_nil]

lemma loadEntries_append [ApiEndpoints] (uuids : ℕ → Uuid) (entries : List Json) (entry : Json) :
    r.loadEntries uuids (entries++[entry]) =
      (r.loadEntries uuids entries).loadEntry (uuids entries.length) entry := by
  simp [loadEntries,zipIdx_append,foldl_append]

section

variable {entries : List Json} {entry : Json} {uuids : ℕ → Uuid}

lemma LoadedFrom.not_mem_uuid (h : LoadedFrom entries uuids r)
    (hinjective : ∀ i j, (uuids i).1 = (uuids j).1 → i = j)
    (hunstored : ∀ i, (uuids i).1 ∉ storedIds entries) :
    (uuids entries.length).1 ∉ r.orderedServerIds := by
  intro hm
  rcases h.origin _ hm with hm | ⟨i,hi,he⟩
  · exact hunstored _ hm
  · exact absurd (hinjective _ _ he) (by omega)

/-- What a readable entry is loaded as. -/
lemma LoadedFrom.insert (h : LoadedFrom entries uuids r) (hw : r.WellFormed)
    (hunstored : ∀ i, (uuids i).1 ∉ storedIds (entries++[entry]))
    (hs : isConfigFormatVersionSupported (withoutStorageServerId entry.toObject))
    {id : String}
    (hid : id = r.normalizedOrGeneratedServerId (uuids entries.length)
      (readStorageServerId entry.toObject)) (hnew : id ∉ r.serverJsonById) :
    LoadedFrom (entries++[entry]) uuids
      { r with
        serverJsonById := r.serverJsonById.insert id (embedStorageServerId id entry.toObject)
        orderedServerIds := r.orderedServerIds++[id] } := by
  have hstored : storedIds (entries++[entry]) =
      storedIds entries++[readStorageServerId entry.toObject] := by
    simp [storedIds,storedServers_append,hs]
  have hcases := normalized_cases r (uuids entries.length) entry.toObject
  simp only [← hid] at hcases
  refine ⟨?_,?_,?_⟩
  · rw [configs_insert hw hnew,h.configs,storedServers_append,if_pos hs,map_append]
    rfl
  · intro other hother hne
    rw [hstored] at hother ⊢
    apply idxOf_append_singleton (length_orderedServerIds h)
    · intro hin
      exact h.first other hin hne
    · intro hout
      have he : other = readStorageServerId entry.toObject := by
        rcases mem_append.mp hother with hin | hin
        · exact absurd hin hout
        · exact mem_singleton.mp hin
      rcases hcases with ⟨-,hfree,hcandidate⟩ | ⟨hused,-⟩
      · rw [hw.keys,← he] at hfree
        exact ⟨hfree,by rw [hcandidate]⟩
      · -- A carried identifier that is in use is that of an earlier entry.
        rw [← he] at hused
        have hin := (hw.keys other).mp (hused.resolve_left hne)
        rcases h.origin other hin with hin | ⟨i,-,hi⟩
        · exact absurd hin hout
        · refine absurd ?_ (hunstored i)
          rw [← hi,hstored,he]
          simp
  · intro other hother
    rw [hstored,length_append]
    rcases mem_append.mp hother with hin | hin
    · rcases h.origin other hin with hin | ⟨i,hi,he⟩
      · exact Or.inl (mem_append_left _ hin)
      · exact Or.inr ⟨i,by simp; omega,he⟩
    · rw [mem_singleton.mp hin]
      rcases hcases with ⟨-,-,he⟩ | ⟨-,he⟩
      · exact Or.inl (by rw [he]; simp)
      · exact Or.inr ⟨entries.length,by simp,he⟩

lemma LoadedFrom.loadEntry [ApiEndpoints] (h : LoadedFrom entries uuids r) (hw : r.WellFormed)
    (hinjective : ∀ i j, (uuids i).1 = (uuids j).1 → i = j)
    (hunstored : ∀ i, (uuids i).1 ∉ storedIds (entries++[entry])) :
    LoadedFrom (entries++[entry]) uuids (r.loadEntry (uuids entries.length) entry) := by
  have hbefore : ∀ i, (uuids i).1 ∉ storedIds entries := by
    intro i hi
    apply hunstored i
    simp only [storedIds,storedServers_append,map_append]
    exact mem_append_left _ hi
  rcases loadEntry_cases r (uuids entries.length) entry with ⟨hs,he⟩ | ⟨-,hin,-⟩ | ⟨hs,hnew,he⟩
  · have hstored : storedServers (entries++[entry]) = storedServers entries := by
      simp [storedServers_append,hs]
    rw [he]
    refine ⟨?_,?_,?_⟩
    · rw [hstored]
      exact h.configs
    · rw [storedIds,hstored]
      exact h.first
    · intro id hid
      rw [storedIds,hstored]
      refine (h.origin id hid).imp_right ?_
      rintro ⟨i,hi,hid⟩
      exact ⟨i,by simp; omega,hid⟩
  · -- The identifier is either a free one that the entry carries or a new one.
    exfalso
    rcases normalized_cases r (uuids entries.length) entry.toObject with
      ⟨-,hfree,he⟩ | ⟨-,he⟩
    · exact hfree (he ▸ hin)
    · rw [he,hw.keys] at hin
      exact h.not_mem_uuid hinjective hbefore hin
  · rw [he]
    exact h.insert hw hunstored hs rfl hnew

end

lemma loadedFrom_loadEntries [ApiEndpoints] {uuids : ℕ → Uuid} (entries : List Json)
    (hinjective : ∀ i j, (uuids i).1 = (uuids j).1 → i = j)
    (hunstored : ∀ i, (uuids i).1 ∉ storedIds entries) (settings : ServersSettings)
    (defaultServerId : String) (count : ℕ) :
    LoadedFrom entries uuids (loadEntries ⟨settings,∅,[],defaultServerId,count⟩ uuids entries) := by
  induction entries using List.reverseRecOn with
  | nil => exact ⟨rfl,fun id hid => absurd hid not_mem_nil,fun id hid => absurd hid not_mem_nil⟩
  | append_singleton entries entry ih =>
    have hbefore : ∀ i, (uuids i).1 ∉ storedIds entries := by
      intro i hi
      apply hunstored i
      simp only [storedIds,storedServers_append,map_append]
      exact mem_append_left _ hi
    rw [loadEntries_append]
    exact (ih hbefore).loadEntry (wellFormed_empty.loadEntries uuids entries) hinjective hunstored

/-- The place of the default server when the stored identifier is unknown. -/
def fallbackIndex (settings : ServersSettings) (count : ℕ) : ℕ :=
  if 0 ≤ settings.defaultServerIndex ∧ settings.defaultServerIndex < count then
    settings.defaultServerIndex.toNat
  else 0

lemma Consistent.defaultServerIndex_eq (h : r.Consistent) :
    r.defaultServerIndex = r.orderedServerIds.idxOf r.defaultServerId := by
  rcases h.hasDefault with hd | ⟨hnil,-⟩
  · simp [defaultServerIndex,ne_nil_of_mem hd,hd]
  · simp [defaultServerIndex,hnil]

lemma idxOf_getD {ids : List String} (h : ids.Nodup) {i : ℕ} (hi : i < ids.length) :
    ids.idxOf (ids.getD i "") = i := by
  rw [getD_eq_getElem?_getD,List.getElem?_eq_getElem hi,Option.getD_some]
  exact h.idxOf_getElem i hi

lemma idxOf_headD (ids : List String) : ids.idxOf (ids.headD "") = 0 := by
  cases ids <;> simp

lemma idxOf_updateDefaultServerFromStorage (h : r.WellFormed) :
    r.orderedServerIds.idxOf r.updateDefaultServerFromStorage.defaultServerId =
      if r.settings.defaultServerId ∈ r.orderedServerIds then
        r.orderedServerIds.idxOf r.settings.defaultServerId
      else fallbackIndex r.settings r.orderedServerIds.length := by
  have hcontains : (!r.settings.defaultServerId.isEmpty &&
      r.serverJsonById.contains r.settings.defaultServerId) ↔
      r.settings.defaultServerId ∈ r.orderedServerIds := by
    rw [Bool.and_eq_true,Std.ExtTreeMap.contains_iff_mem,h.keys]
    refine and_iff_right_of_imp ?_
    intro hid
    simpa using (h.named _ hid).1
  simp only [updateDefaultServerFromStorage,hcontains,fallbackIndex]
  by_cases hid : r.settings.defaultServerId ∈ r.orderedServerIds
  · simp only [hid,if_true]
  · by_cases hindex : 0 ≤ r.settings.defaultServerIndex ∧
        r.settings.defaultServerIndex < r.orderedServerIds.length
    · simp only [hid,hindex,if_true,if_false,and_self]
      exact idxOf_getD h.nodup (by omega)
    · simp only [hid,hindex,if_false]
      exact idxOf_headD _

section

/-- The same configurations in the same order, and the default server at the same place. -/
def SameServers (r r' : SecureServersRepository) : Prop :=
  r.configs = r'.configs ∧ r.defaultServerIndex = r'.defaultServerIndex

/-- Every configuration in memory has a version that loading accepts. -/
def Supported (r : SecureServersRepository) : Prop :=
  ∀ (id : String) json, r.serverJsonById[id]? = some json →
    isConfigFormatVersionSupported (withoutStorageServerId json)

/-- The store finds the server again: one of its entries carries the identifier, or the server
stands where an unknown identifier leads. -/
def Known (r : SecureServersRepository) (id : String) : Prop :=
  id ∈ storedIds r.settings.serversList ∨
    r.orderedServerIds.idxOf id = fallbackIndex r.settings r.orderedServerIds.length

/-- The servers in memory are those that the store holds. -/
structure Stored (r : SecureServersRepository) : Prop where
  configs : r.configs = (storedServers r.settings.serversList).map fun json =>
    some (withoutStorageServerId json)
  first : ∀ id ∈ storedIds r.settings.serversList, id ≠ "" →
    r.orderedServerIds.idxOf id = (storedIds r.settings.serversList).idxOf id

/-- What holds of memory and store together whatever is called: the default server is always
written, the servers are as long as loading them would keep them all. -/
structure InStep (r : SecureServersRepository) : Prop where
  consistent : r.Consistent
  persisted : r.settings.defaultServerId = r.defaultServerId
  stored : r.Supported → r.Stored

lemma Stored.length (h : r.Stored) :
    r.orderedServerIds.length = (storedIds r.settings.serversList).length := by
  have hlength := congrArg List.length h.configs
  simpa [SecureServersRepository.configs,storedIds] using hlength

lemma supported_of_configs (h : r.Consistent) {entries : List Json}
    (hconfigs : r.configs = (storedServers entries).map fun json =>
      some (withoutStorageServerId json)) : r.Supported := by
  intro id json hjson
  have hid : id ∈ r.orderedServerIds := by
    rw [← h.wellFormed.keys,Std.ExtTreeMap.mem_iff_isSome_getElem?,hjson]
    rfl
  have hmem : some (withoutStorageServerId json) ∈ r.configs :=
    mem_map.mpr ⟨id,hid,by rw [hjson]; rfl⟩
  rw [hconfigs,mem_map] at hmem
  obtain ⟨stored,hstored,he⟩ := hmem
  rw [← Option.some.inj he]
  exact (mem_filter.mp hstored).2

lemma runUuid_ne {text : String} {count : ℕ} (h : text.length ≤ count) :
    (runUuid count).1 ≠ text := by
  intro he
  have hlength := congrArg String.length he
  simp only [runUuid,String.length_ofList,length_replicate] at hlength
  omega

/-- Texts longer than all that are stored are in no use yet. -/
lemma exists_fresh (settings : ServersSettings) : ∃ uuids, Fresh uuids settings := by
  set texts := settings.defaultServerId::storedIds settings.serversList with htexts
  set bound := (texts.map String.length).sum with hbound
  have hle : ∀ text ∈ texts, ∀ i, text.length ≤ bound+i := by
    intro text htext i
    have hsum := le_sum_of_mem (mem_map_of_mem htext : text.length ∈ texts.map String.length)
    omega
  refine ⟨fun i => runUuid (bound+i),?_,?_,?_⟩
  · intro i j he
    have hlength := congrArg String.length he
    simp only [runUuid,String.length_ofList,length_replicate] at hlength
    omega
  · intro i hi
    exact runUuid_ne (hle _ (mem_cons_of_mem _ hi) i) rfl
  · intro i
    exact runUuid_ne (hle _ mem_cons_self i)

variable [ApiEndpoints]

/-- A new repository that is loaded from the store has the servers of this one. -/
def Reloads (r : SecureServersRepository) : Prop :=
  ∀ uuids, Fresh uuids r.settings → SameServers r (new uuids r.settings)

/-- The servers and the place of the default one in a new repository. -/
lemma new_loaded {uuids : ℕ → Uuid} {settings : ServersSettings} (h : Fresh uuids settings) :
    LoadedFrom settings.serversList uuids (new uuids settings) ∧
      (new uuids settings).orderedServerIds.idxOf (new uuids settings).defaultServerId =
        if settings.defaultServerId ∈ storedIds settings.serversList ∧
          settings.defaultServerId ≠ "" then
          (storedIds settings.serversList).idxOf settings.defaultServerId
        else fallbackIndex settings (storedIds settings.serversList).length := by
  set loaded := loadEntries ⟨settings,∅,[],"",0⟩ uuids settings.serversList with hloaded
  have hfrom : LoadedFrom settings.serversList uuids loaded :=
    loadedFrom_loadEntries _ h.injective h.unstored _ _ _
  have hformed : loaded.WellFormed := wellFormed_empty.loadEntries uuids _
  have hsettings : loaded.settings = settings := serversList_loadEntries uuids _
  have hnew : new uuids settings =
      (loaded.updateDefaultServerFromStorage).persistDefaultServerFields := rfl
  rw [persistDefaultServerFields_eq (hasDefault_updateDefaultServerFromStorage hformed)] at hnew
  have hids : (new uuids settings).orderedServerIds = loaded.orderedServerIds := by
    rw [hnew]
    simp only [updateDefaultServerFromStorage]
    split_ifs <;> rfl
  have hmap : (new uuids settings).serverJsonById = loaded.serverJsonById := by
    rw [hnew]
    simp only [updateDefaultServerFromStorage]
    split_ifs <;> rfl
  have hmem : settings.defaultServerId ∈ loaded.orderedServerIds ↔
      settings.defaultServerId ∈ storedIds settings.serversList ∧ settings.defaultServerId ≠ "" := by
    constructor
    · intro hid
      refine ⟨?_,(hformed.named _ hid).1⟩
      rcases hfrom.origin _ hid with hid | ⟨i,-,hi⟩
      · exact hid
      · exact absurd hi.symm (h.notDefault i)
    · rintro ⟨hid,hne⟩
      exact hfrom.mem hid hne
  constructor
  · exact ⟨by rw [configs,hids,hmap]; exact hfrom.configs,hids ▸ hfrom.first,hids ▸ hfrom.origin⟩
  · have hdefault : (new uuids settings).defaultServerId =
        loaded.updateDefaultServerFromStorage.defaultServerId := by rw [hnew]
    rw [hids,hdefault,idxOf_updateDefaultServerFromStorage hformed,hsettings,
      length_orderedServerIds hfrom]
    simp only [hmem]
    split_ifs with hid
    · exact hfrom.first _ hid.1 hid.2
    · rfl

lemma reloads_iff (h : r.InStep) : r.Reloads ↔ r.Supported ∧ r.Known r.defaultServerId := by
  constructor
  · intro hr
    obtain ⟨uuids,hfresh⟩ := exists_fresh r.settings
    obtain ⟨hconfigs,hindex⟩ := hr uuids hfresh
    obtain ⟨hfrom,hplace⟩ := new_loaded hfresh
    rw [hfrom.configs] at hconfigs
    have hs := supported_of_configs h.consistent hconfigs
    refine ⟨hs,?_⟩
    rw [h.consistent.defaultServerIndex_eq,(consistent_new _ _).defaultServerIndex_eq,hplace,
      h.persisted] at hindex
    split_ifs at hindex with hid
    · exact Or.inl hid.1
    · rw [← (h.stored hs).length] at hindex
      exact Or.inr hindex
  · rintro ⟨hs,hknown⟩ uuids hfresh
    obtain ⟨hfrom,hplace⟩ := new_loaded hfresh
    have hstored := h.stored hs
    refine ⟨hstored.configs.trans hfrom.configs.symm,?_⟩
    rw [h.consistent.defaultServerIndex_eq,(consistent_new _ _).defaultServerIndex_eq,hplace,
      h.persisted]
    split_ifs with hid
    · exact hstored.first _ hid.1 hid.2
    · rw [← hstored.length]
      refine hknown.resolve_left ?_
      intro hin
      -- An empty identifier means that there are no servers, in the store as in memory.
      have he : r.defaultServerId = "" := by
        by_contra hne
        exact hid ⟨hin,hne⟩
      have hnil : r.orderedServerIds = [] := by
        rcases h.consistent.hasDefault with hd | hd
        · exact absurd he (h.consistent.wellFormed.named _ hd).1
        · exact hd.1
      have hlength := hstored.length
      rw [hnil,length_nil] at hlength
      rw [length_eq_zero_iff.mp hlength.symm] at hin
      exact absurd hin not_mem_nil

end

/-- What is written for servers whose configurations carry their identifiers. -/
lemma written_entries {m : QMap JsonObject} {ids : List String}
    (h : ∀ id ∈ ids, trimmed id = id ∧ ∃ payload, m[id]? = some (embedStorageServerId id payload)) :
    (ids.filterMap fun id => m[id]?).map readStorageServerId = ids ∧
      (ids.filterMap fun id => m[id]?).map (fun json => some (withoutStorageServerId json)) =
        ids.map fun id => m[id]?.map withoutStorageServerId := by
  induction ids with
  | nil => exact ⟨rfl,rfl⟩
  | cons id ids ih =>
    obtain ⟨htrimmed,payload,hjson⟩ := h id mem_cons_self
    obtain ⟨hids,hconfigs⟩ := ih fun other hother => h other (mem_cons_of_mem _ hother)
    rw [filterMap_cons_some hjson]
    constructor
    · rw [map_cons,hids,readStorageServerId_embed,htrimmed]
    · rw [map_cons,hconfigs,map_cons,hjson]
      rfl

lemma storedServers_sync (hs : r.Supported) : storedServers r.syncToStorage.settings.serversList =
      r.orderedServerIds.filterMap fun id => r.serverJsonById[id]? := by
  simp only [storedServers,syncToStorage,persistDefaultServerFields_serversList,map_map]
  have hobj : (Json.toObject ∘ Json.obj) = id := rfl
  rw [hobj,map_id]
  apply filter_eq_self.mpr
  intro json hjson
  obtain ⟨id,-,hjson⟩ := mem_filterMap.mp hjson
  exact hs id json hjson

lemma syncToStorage_eq (h : r.Consistent) :
    r.syncToStorage.orderedServerIds = r.orderedServerIds ∧
      r.syncToStorage.serverJsonById = r.serverJsonById ∧
      r.syncToStorage.defaultServerId = r.defaultServerId ∧
      r.syncToStorage.settings.defaultServerId = r.defaultServerId := by
  have hpersist := fun settings =>
    persistDefaultServerFields_eq (r := { r with settings := settings }) h.hasDefault
  simp only [syncToStorage,hpersist,and_self]

lemma supported_sync (h : r.Consistent) : r.syncToStorage.Supported ↔ r.Supported := by
  rw [Supported,Supported,(syncToStorage_eq h).2.1]

lemma storedIds_sync (h : r.Consistent) (hs : r.Supported) :
    storedIds r.syncToStorage.settings.serversList = r.orderedServerIds := by
  rw [storedIds,storedServers_sync hs]
  exact (written_entries fun id hid => ⟨(h.wellFormed.named id hid).2,h.exists_json hid⟩).1

lemma inStep_sync (h : r.Consistent) : r.syncToStorage.InStep := by
  obtain ⟨hids,hmap,hdefault,hstored⟩ := syncToStorage_eq h
  refine ⟨h.sync,hstored.trans hdefault.symm,?_⟩
  intro hs
  rw [supported_sync h] at hs
  refine ⟨?_,?_⟩
  · rw [configs,hids,hmap,storedServers_sync hs]
    exact (written_entries fun id hid => ⟨(h.wellFormed.named id hid).2,h.exists_json hid⟩).2.symm
  · rw [storedIds_sync h hs,hids]
    intro id _ _
    rfl

/-- After a write everything is found again unless a configuration is too new. -/
lemma reloads_sync [ApiEndpoints] (h : r.Consistent) : r.syncToStorage.Reloads ↔ r.Supported := by
  rw [reloads_iff (inStep_sync h),supported_sync h]
  refine and_iff_left_of_imp ?_
  intro hs
  obtain ⟨hids,-,hdefault,-⟩ := syncToStorage_eq h
  rw [Known,storedIds_sync h hs,hids,hdefault]
  rcases h.hasDefault with hd | ⟨hnil,-⟩
  · exact Or.inl hd
  · right
    simp [hnil,fallbackIndex]

section

variable [ApiEndpoints]

/-- The changes after which the store still holds what is in memory: no configuration is
replaced by one that is too new to be read, and a server is made the default one only when the
store finds it again. -/
def Kept (r : SecureServersRepository) : Change → Prop
  | .editServer serverId serverJson kind => r.Writes (.editServer serverId serverJson kind) →
      isConfigFormatVersionSupported (withoutStorageServerId serverJson)
  | .setDefaultServer serverId => serverId ∈ r.orderedServerIds → r.Known serverId
  | _ => True

lemma supported_changed (hs : r.Supported) (c : Change) (hw : r.Writes c) :
    (r.changed c).Supported ↔ r.Kept c := by
  cases c with
  | addServer uuid serverId serverJson kind =>
    refine iff_of_true ?_ trivial
    intro id json hjson
    simp only [changed,getElem?_insert_eq] at hjson
    split_ifs at hjson
    · rw [← Option.some.inj hjson,withoutStorageServerId_embed]
      exact hw.2.1
    · exact hs id json hjson
  | editServer serverId serverJson kind =>
    constructor
    · intro h _
      have hnew := h serverId (embedStorageServerId serverId serverJson)
      rw [withoutStorageServerId_embed] at hnew
      apply hnew
      simp only [changed,getElem?_insert_eq,if_true]
    · intro hnew id json hjson
      simp only [changed,getElem?_insert_eq,getElem?_erase_eq] at hjson
      split_ifs at hjson
      · rw [← Option.some.inj hjson,withoutStorageServerId_embed]
        exact hnew hw
      · exact hs id json hjson
  | removeServer serverId =>
    refine iff_of_true ?_ trivial
    intro id json hjson
    simp only [changed,getElem?_erase_eq] at hjson
    split_ifs at hjson
    exact hs id json hjson
  | setDefaultServer serverId => exact hw.elim
  | clearServers =>
    refine iff_of_true ?_ trivial
    intro id json hjson
    simp [changed,clearServerStateMaps] at hjson

lemma InStep.apply (h : r.InStep) (c : Change) : (r.apply c).InStep := by
  by_cases hw : r.Writes c
  · rw [apply_of_writes h.consistent c hw]
    exact inStep_sync (h.consistent.changed c hw)
  · have hc := h.consistent.apply c
    rcases apply_of_not_writes h.consistent c hw with he | ⟨id,hid,-,he⟩
    · rw [he]
      exact h
    · rw [he] at hc ⊢
      refine ⟨hc,rfl,?_⟩
      intro hs
      obtain ⟨hconfigs,hfirst⟩ := h.stored hs
      exact ⟨hconfigs,hfirst⟩

lemma defaultServerId_setDefaultServer (h : r.Consistent) {id : String}
    (hid : id ∈ r.orderedServerIds) : (r.apply (.setDefaultServer id)).defaultServerId = id := by
  have hne : r.orderedServerIds ≠ [] := ne_nil_of_mem hid
  simp only [SecureServersRepository.apply,setDefaultServer,h.contains]
  by_cases hd : r.defaultServerId = id
  · simp [hd]
  · simp [hne,hid,hd,persistDefaultServerFields]

/-- A change keeps the store true to the memory exactly when it is one of the kept ones. -/
lemma reloads_apply (h : r.InStep) (hr : r.Reloads) (c : Change) :
    (r.apply c).Reloads ↔ r.Kept c := by
  obtain ⟨hs,hknown⟩ := (reloads_iff h).mp hr
  by_cases hw : r.Writes c
  · rw [apply_of_writes h.consistent c hw,reloads_sync (h.consistent.changed c hw),
      supported_changed hs c hw]
  · rcases apply_of_not_writes h.consistent c hw with he | ⟨id,hid,rfl,he⟩
    · rw [he]
      refine iff_of_true hr ?_
      cases c with
      | editServer serverId serverJson kind => exact fun hwrites => absurd hwrites hw
      | setDefaultServer serverId =>
        intro hid
        have hd := defaultServerId_setDefaultServer h.consistent hid
        rw [he] at hd
        rw [← hd]
        exact hknown
      | addServer uuid serverId serverJson kind => trivial
      | removeServer serverId => trivial
      | clearServers => trivial
    · have hstep := h.apply (.setDefaultServer id)
      rw [he] at hstep ⊢
      rw [reloads_iff hstep]
      constructor
      · intro hboth _
        exact hboth.2
      · intro hkept
        exact ⟨hs,hkept hid⟩

lemma inStep_new {uuids : ℕ → Uuid} {settings : ServersSettings} (h : Fresh uuids settings) :
    (new uuids settings).InStep := by
  have hc := consistent_new uuids settings
  obtain ⟨hfrom,-⟩ := new_loaded h
  refine ⟨hc,rfl,?_⟩
  intro _
  refine ⟨?_,?_⟩
  · rw [serversList_new]
    exact hfrom.configs
  · rw [serversList_new]
    exact hfrom.first

lemma reloads_new {uuids : ℕ → Uuid} {settings : ServersSettings} (h : Fresh uuids settings) :
    (new uuids settings).Reloads := by
  obtain ⟨hfrom,hplace⟩ := new_loaded h
  have hc := consistent_new uuids settings
  have hsettings : (new uuids settings).settings.defaultServerIndex =
      settings.defaultServerIndex := by
    rw [new,persistDefaultServerFields,settings_loadFromStorage]
  rw [reloads_iff (inStep_new h)]
  refine ⟨supported_of_configs hc hfrom.configs,?_⟩
  rw [Known,serversList_new]
  by_cases hid : settings.defaultServerId ∈ storedIds settings.serversList ∧
      settings.defaultServerId ≠ ""
  · have hin := hfrom.mem hid.1 hid.2
    rw [if_pos hid,← hfrom.first _ hid.1 hid.2] at hplace
    left
    rw [← (idxOf_inj hin).mp hplace.symm]
    exact hid.1
  · rw [if_neg hid] at hplace
    right
    rw [hplace,length_orderedServerIds hfrom,fallbackIndex,fallbackIndex,hsettings]

/-- The store holds the servers of the memory, in their order and with their default one, all
along a run exactly when every step of the run is one of the kept changes. -/
theorem reload_same_servers_iff (uuids : ℕ → Uuid) (settings : ServersSettings)
    (hfresh : Fresh uuids settings) (changes : List Change) :
    Runs.Always apply Reloads (new uuids settings) changes ↔
      Runs.Guarded apply Kept (new uuids settings) changes :=
  Runs.always_iff_guarded (D := fun _ => True) (W := InStep) (fun _ c _ h => h.apply c)
    (fun _ c _ h hr => reloads_apply h hr c) (inStep_new hfresh) (reloads_new hfresh)
    (fun _ _ => trivial)

end

/-- Two servers of a version that stored no identifiers. -/
def unnamedServers : ServersSettings :=
  ⟨[.obj [("hostName",.str "203.0.113.1")],.obj [("hostName",.str "203.0.113.2")]],"",0⟩

lemma fresh_unnamedServers : Fresh runUuid unnamedServers where
  injective i j he := by
    have hlength := congrArg String.length he
    simpa [runUuid] using hlength
  unstored i hi := by
    have hstored : ∀ id ∈ storedIds unnamedServers.serversList, id = "" := by decide
    exact (runUuid i).2.1 (hstored _ hi)
  notDefault i := (runUuid i).2.1

theorem default_kept_after_write : Runs.Always (@apply unsetEndpoints) (@Reloads unsetEndpoints)
      (@new unsetEndpoints runUuid unnamedServers)
      [.addServer (runUuid 7) "work" [("hostName",.str "203.0.113.3")] .selfHostedUser,
        .setDefaultServer "aa"] := by
  apply (@reload_same_servers_iff unsetEndpoints _ _ fresh_unnamedServers _).mpr
  rw [Runs.guarded_cons,Runs.guarded_cons]
  refine ⟨trivial,?_,Runs.guarded_nil _ _ _⟩
  intro _
  exact Or.inl (by decide)

theorem default_lost_before_write : ¬Runs.Always (@apply unsetEndpoints) (@Reloads unsetEndpoints)
      (@new unsetEndpoints runUuid unnamedServers) [.setDefaultServer "aa"] := by
  intro h
  have hreload := h _ (prefix_refl _)
  have hkept := (@reloads_apply _ unsetEndpoints (@inStep_new unsetEndpoints _ _ fresh_unnamedServers)
    (@reloads_new unsetEndpoints _ _ fresh_unnamedServers) (.setDefaultServer "aa")).mp hreload
  rcases hkept (by decide) with hknown | hknown
  · revert hknown
    decide
  · revert hknown
    decide

end AlzheimerVPN.SecureServersRepository
