import AlzheimerVPN.WireguardFile
import AlzheimerVPN.XrayConfig

/-! The import of an OpenVPN profile by `ImportController::extractConfigFromData`, with the
warning about lines that run scripts. The profile goes through the text of a JSON document, which
the repository does not write itself; the directives are those OpenVPN would read. -/
namespace AlzheimerVPN.ImportController

open Text Scan List

section

inductive ConfigTypes
  | amnezia | openVpn | wireGuard | awg | xray | shadowSocks | backup | invalid
  deriving DecidableEq, Repr

def checkConfigFormat (config : String) : ConfigTypes :=
  if containsText config "Servers/serversList" then .backup
  else if containsText config "containers" || containsText config "api_key" ||
      containsText config "auth_data" || (containsText config "hostName" &&
        containsText config "userName" && containsText config "password") then .amnezia
  else if containsText config "[Interface]" && containsText config "[Peer]" then .wireGuard
  else if containsText config "inbounds" && containsText config "outbounds" then .xray
  else if containsText config "client" &&
      (containsText config "dev tun" || containsText config "dev tap") then .openVpn
  else .invalid

def remoteWord : List Char := "remote".toList

/-- `remote\s+([^\s]+)` at the start of a text. -/
def remoteAt (cs : List Char) : Option (List Char × ℕ) :=
  let rest := cs.drop remoteWord.length
  let host := (stripLeft rest).takeWhile fun c => !isBlank c
  if remoteWord.isPrefixOf cs && rest.head?.any isBlank && !host.isEmpty then
    some (host,cs.length-((stripLeft rest).length-host.length))
  else none

def dhcpWord : List Char := "dhcp-option DNS ".toList

/-- `dhcp-option DNS (\b\d{1,3}\.\d{1,3}\.\d{1,3}\.\d{1,3}\b)` at the start of a text. -/
def dhcpAt (cs : List Char) : Option (List Char × ℕ) :=
  if dhcpWord.isPrefixOf cs then
    (quad 3 (cs.drop dhcpWord.length)).map fun found =>
      (found.1,dhcpWord.length+found.1.length)
  else none

variable (description : String) (toJson : JsonObject → String) (fromJson : String → JsonObject)

/-- The container of the imported server. -/
def openVpnContainer (data : String) : JsonObject :=
  let openVpnConfig := JsonObject.empty.insert "config" (.str data)
  let lastConfig := (JsonObject.empty.insert "last_config" (.str (toJson openVpnConfig))).insert
    "isThirdPartyConfig" (.bool true)
  (JsonObject.empty.insert "container" (.str "amnezia-openvpn")).insert "openvpn" (.obj lastConfig)

def extractOpenVpnConfig (data : String) : JsonObject :=
  let hostName := String.ofList ((globalMatch remoteAt data.toList).headD [])
  let config := ((JsonObject.empty.insert "containers"
    (.arr [.obj (openVpnContainer toJson data)])).insert
      "defaultContainer" (.str "amnezia-openvpn")).insert "description" (.str description)
  let dnsMatch := globalMatch dhcpAt data.toList
  let config :=
    match dnsMatch[0]? with
    | some dns1 => config.insert "dns1" (.str (String.ofList dns1))
    | none => config
  let config :=
    match dnsMatch[1]? with
    | some dns2 => config.insert "dns2" (.str (String.ofList dns2))
    | none => config
  config.insert "hostName" (.str hostName)

def dangerousTags : List String :=
  ["up","tls-verify","ipchange","client-connect","route-up","route-pre-down","client-disconnect",
   "down","learn-address","auth-user-pass-verify"]

def profileLines (text : String) : List (List Char) :=
  (text.toList.splitOn '\n').filter fun line => !line.isEmpty

/-- The command of a line is looked for among the tags in any case. -/
def isDangerous (rawLine : List Char) : Bool :=
  let command := String.ofList (firstRun ' ' (trimChars rawLine))
  dangerousTags.any fun tag => equalsFold command tag

def maliciousStrings (text : String) : List (List Char) := (profileLines text).filter isDangerous

def warningHeader : List Char :=
  ("This configuration contains an OpenVPN setup. OpenVPN configurations can include malicious "++
    "scripts, so only add it if you fully trust the provider of this config. ").toList

def dangerousHeader : List Char :=
  "<br>In the imported configuration, potentially dangerous lines were found:".toList

def entryStart : List Char := "<br><i>".toList

def entryEnd : List Char := "</i>".toList

def warningEntry (line : List Char) : List Char := entryStart++line++entryEnd

def warningText (maliciousStrings : List (List Char)) : List Char :=
  if maliciousStrings.isEmpty then warningHeader
  else warningHeader++dangerousHeader++maliciousStrings.flatMap warningEntry

/-- The profile that a container of a server holds. -/
def profileOf (containerConfig : JsonObject) : String :=
  let protocolConfig := ((containerConfig.value "openvpn").toObject.value "last_config").toString
  ((fromJson protocolConfig).value "config").toString

/-- The warning about the last OpenVPN container. -/
def checkForMaliciousStrings (serverConfig : JsonObject) : List Char :=
  (serverConfig.value "containers").toArray.foldl (fun warning container =>
    if (container.toObject.value "container").toString = "amnezia-openvpn" then
      warningText (maliciousStrings (profileOf fromJson container.toObject))
    else warning) []

inductive ErrorCode
  | noError | importInvalidConfigError | other (code : ℕ)
  deriving DecidableEq, Repr

structure ImportResult where
  errorCode : ErrorCode := .noError
  config : JsonObject := []
  configFileName : String
  maliciousWarningText : List Char := []
  configType : ConfigTypes := .invalid
  isNativeWireGuardConfig : Bool := false

/-- The imports of other texts: a link, if the text begins as one and is accepted, and a text of
another format; and what a text without a format is decoded to. -/
structure Importers where
  link : String → Option ImportResult
  other : ConfigTypes → String → ImportResult
  decode : String → String

/-- The text that is imported, and its format. -/
def importedText (importers : Importers) (data : String) : ConfigTypes × String :=
  if checkConfigFormat data = .invalid then
    let config := importers.decode (replaceText data "vpn://" "")
    (checkConfigFormat config,config)
  else (checkConfigFormat data,data)

def extractConfigFromData (importers : Importers) (configFileName data : String) : ImportResult :=
  match importers.link data with
  | some result => result
  | none =>
    match importedText importers data with
    | (.openVpn,config) =>
      let server := extractOpenVpnConfig description toJson config
      if server.isEmpty then
        { configFileName, configType := .openVpn, errorCode := .importInvalidConfigError }
      else
        { configFileName, configType := .openVpn, config := server,
          maliciousWarningText := checkForMaliciousStrings fromJson server }
    | (configType,config) => importers.other configType config

end

/-- OpenVPN separates words by blanks and tabs. -/
def isWordBlank (c : Char) : Bool := c == ' ' || c == '\t'

/-- A word in quotes, which have to be closed. -/
def quoted (quote : Char) (rest : List Char) : Option (List Char) :=
  if quote ∈ rest then some (rest.takeWhile (· ≠ quote)) else none

/-- The first word of a line. A backslash only stands for itself, a quote or a blank, none of which
is in the name of a directive. -/
def firstWord (line : List Char) : Option (List Char) :=
  match line.dropWhile isWordBlank with
  | '"'::rest => quoted '"' rest
  | '\''::rest => quoted '\'' rest
  | rest => some (rest.takeWhile fun c => !isWordBlank c)

/-- The directive of a line, which may begin with two dashes as on the command line. -/
def directive (line : List Char) : Option (List Char) :=
  (firstWord line).map fun word =>
    match word with
    | '-':: '-'::name => name
    | word => word

/-- A line that makes OpenVPN run a script. -/
def RunsScript (line : List Char) : Prop :=
  ∃ tag ∈ dangerousTags, directive line = some tag.toList

instance : DecidablePred RunsScript := fun _ => inferInstanceAs (Decidable (∃ _ ∈ _, _))

/-- The directive stands for itself, and a blank or nothing but white space follows it. -/
def WrittenPlainly (line : List Char) : Prop :=
  ∃ tag ∈ dangerousTags, ∃ rest, line.dropWhile isWordBlank = tag.toList++rest ∧
    (rest.head? = some ' ' ∨ ∀ c ∈ rest, isSpace c)

section

/-- The names of the directives are lower-case letters and dashes. -/
lemma tag_chars {tag : String} (h : tag ∈ dangerousTags) :
    tag.toList ≠ [] ∧ (∀ c ∈ tag.toList, isSpace c = false ∧ caseFold c ≠ '\t') ∧
      ∀ c ∈ ['"',' ','\'','-'], tag.toList.head?.map caseFold ≠ some c := by
  have hall : ∀ tag ∈ dangerousTags, tag.toList ≠ [] ∧
      (∀ c ∈ tag.toList, isSpace c = false ∧ caseFold c ≠ '\t') ∧
        ∀ c ∈ ['"',' ','\'','-'], tag.toList.head?.map caseFold ≠ some c := by decide +kernel
  exact hall tag h

lemma trimChars_lead (line : List Char) :
    trimChars line = trimChars (line.dropWhile isWordBlank) := by
  have hlead : ∀ c ∈ line.takeWhile isWordBlank, isSpace c := by
    intro c hc
    have hblank := mem_takeWhile_imp hc
    rw [isWordBlank,Bool.or_eq_true,beq_iff_eq,beq_iff_eq] at hblank
    exact isSpace_of_blank hblank
  have hpad := trimChars_pad (q := []) hlead (by simp) (line.dropWhile isWordBlank)
  rwa [append_nil,takeWhile_append_dropWhile] at hpad

/-- A word without white space keeps its place when a line is trimmed. -/
lemma trimChars_word {word : List Char} (hne : word ≠ [])
    (hword : ∀ c ∈ word, isSpace c = false) (rest : List Char) :
    trimChars (word++rest) = word++(rest.reverse.dropWhile isSpace).reverse := by
  have hfront : (word++rest).dropWhile isSpace = word++rest := by
    obtain ⟨c,cs,rfl⟩ := List.exists_cons_of_ne_nil hne
    rw [List.cons_append,List.dropWhile_cons_of_neg]
    simp [hword c List.mem_cons_self]
  have hback : word.reverse.dropWhile isSpace = word.reverse := by
    obtain ⟨c,cs,hc⟩ := List.exists_cons_of_ne_nil (List.reverse_ne_nil_iff.mpr hne)
    have hmem : c ∈ word := List.mem_reverse.mp (hc ▸ List.mem_cons_self)
    rw [hc,List.dropWhile_cons_of_neg]
    simp [hword c hmem]
  rw [trimChars,hfront,List.reverse_append,List.dropWhile_append]
  split_ifs with hrest
  · rw [List.isEmpty_iff] at hrest
    rw [hrest,hback]
    simp
  · simp

/-- The command of a line that begins with a word and goes on with `rest`. -/
lemma firstRun_word {word : List Char} (hne : word ≠ [])
    (hword : ∀ c ∈ word, isSpace c = false) (rest : List Char) :
    firstRun ' ' (trimChars (word++rest)) =
      word++((rest.reverse.dropWhile isSpace).reverse).takeWhile (· != ' ') := by
  have hblank : ∀ c ∈ word, c ≠ ' ' := by
    rintro c hc rfl
    exact absurd (hword _ hc) (by decide)
  rw [trimChars_word hne hword,firstRun]
  obtain ⟨c,cs,rfl⟩ := exists_cons_of_ne_nil hne
  rw [cons_append,dropWhile_cons_of_neg (by simp [hblank c mem_cons_self]),
    ← cons_append,takeWhile_append_of_pos]
  intro d hd
  simpa using hblank d hd

lemma stripped_head {rest : List Char} {c : Char}
    (h : (rest.reverse.dropWhile isSpace).reverse.head? = some c) : rest.head? = some c := by
  have hback : (rest.reverse.dropWhile isSpace).reverse <+: rest := by
    have hsuffix := reverse_prefix.mpr (dropWhile_suffix isSpace (l := rest.reverse))
    rwa [reverse_reverse] at hsuffix
  obtain ⟨tail,htail⟩ := hback
  obtain ⟨ds,hds⟩ := List.head?_eq_some_iff.mp h
  rw [← htail,hds]
  rfl

lemma isDangerous_iff_exists (line : List Char) : isDangerous line ↔
    ∃ tag ∈ dangerousTags, (firstRun ' ' (trimChars line)).map caseFold =
      tag.toList.map caseFold := by
  simp [isDangerous,equalsFold]

variable {line : List Char}

lemma isDangerous_of_plain (h : WrittenPlainly line) : isDangerous line := by
  obtain ⟨tag,htag,rest,hline,hrest⟩ := h
  obtain ⟨hne,hchars,-⟩ := tag_chars htag
  refine (isDangerous_iff_exists line).mpr ⟨tag,htag,?_⟩
  rw [trimChars_lead,hline,firstRun_word hne fun c hc => (hchars c hc).1]
  -- What is left of the rest is nothing, or it begins with a blank.
  have hnone : ((rest.reverse.dropWhile isSpace).reverse).takeWhile (· != ' ') = [] := by
    cases hstripped : (rest.reverse.dropWhile isSpace).reverse with
    | nil => rfl
    | cons c cs =>
      have hhead : rest.head? = some c := stripped_head (by rw [hstripped]; rfl)
      rcases hrest with hblank | hspaces
      · obtain rfl : c = ' ' := by simpa [hblank] using hhead.symm
        rfl
      · have hnil : rest.reverse.dropWhile isSpace = [] :=
          dropWhile_eq_nil_iff.mpr fun d hd => hspaces d (mem_reverse.mp hd)
        rw [hnil] at hstripped
        cases hstripped
  rw [hnone,append_nil]

/-- How a directive can be written: in quotes, behind dashes, or as it is. -/
lemma runsScript_cases (h : RunsScript line) :
    (∃ c ∈ ['"','\'','-'], (line.dropWhile isWordBlank).head? = some c) ∨
      ∃ tag ∈ dangerousTags, ∃ rest, line.dropWhile isWordBlank = tag.toList++rest ∧
        ∀ c ∈ rest.head?, c = ' ' ∨ c = '\t' := by
  obtain ⟨tag,htag,hdirective⟩ := h
  obtain ⟨word,hword,hname⟩ := Option.map_eq_some_iff.mp hdirective
  by_cases hspecial : ∃ c ∈ ['"','\'','-'], (line.dropWhile isWordBlank).head? = some c
  · exact .inl hspecial
  · refine .inr ⟨tag,htag,(line.dropWhile isWordBlank).dropWhile fun c => !isWordBlank c,?_⟩
    simp only [mem_cons,not_mem_nil,or_false,exists_eq_or_imp,exists_eq_left,not_or] at hspecial
    obtain ⟨hdouble,hsingle,hdash⟩ := hspecial
    have htake : word = (line.dropWhile isWordBlank).takeWhile fun c => !isWordBlank c := by
      rw [firstWord] at hword
      split at hword
      · next heq => exact absurd (by rw [heq]; rfl) hdouble
      · next heq => exact absurd (by rw [heq]; rfl) hsingle
      · exact (Option.some.inj hword).symm
    have hplain : word = tag.toList := by
      split at hname
      · next name =>
        have hhead := congrArg List.head? htake
        rw [List.head?_takeWhile] at hhead
        exact absurd (Option.filter_eq_some_iff.mp hhead.symm).1 hdash
      · exact hname
    refine ⟨?_,?_⟩
    · rw [← hplain,htake,takeWhile_append_dropWhile]
    · intro c hc
      have hblank := List.head?_dropWhile_not (fun c => !isWordBlank c) (line.dropWhile isWordBlank)
      rw [Option.mem_def.mp hc] at hblank
      exact or_iff_not_imp_left.mpr (by simpa [isWordBlank] using hblank)

lemma plain_of_isDangerous (hscript : RunsScript line) (h : isDangerous line) :
    WrittenPlainly line := by
  obtain ⟨found,hfound,hcommand⟩ := (isDangerous_iff_exists line).mp h
  obtain ⟨-,hfoundChars,hfoundHead⟩ := tag_chars hfound
  rw [trimChars_lead] at hcommand
  rcases runsScript_cases hscript with ⟨c,hc,hhead⟩ | ⟨tag,htag,rest,hline,hrest⟩
  · -- The command begins with a character that no tag begins with.
    obtain ⟨cs,hcs⟩ := List.head?_eq_some_iff.mp hhead
    have hspecial : ∀ c ∈ ['"','\'','-'], isSpace c = false ∧ c ≠ ' ' ∧ caseFold c = c ∧
        c ∈ ['"',' ','\'','-'] := by decide
    obtain ⟨hspace,hblank,hfold,hmem⟩ := hspecial c hc
    have htrim := head?_trimChars hspace cs
    obtain ⟨ds,hds⟩ := List.head?_eq_some_iff.mp htrim
    rw [hcs,hds,firstRun,dropWhile_cons_of_neg (by simpa using hblank),
      takeWhile_cons_of_pos (by simpa using hblank),map_cons,hfold] at hcommand
    refine absurd ?_ (hfoundHead c hmem)
    rw [← List.head?_map,← hcommand]
    rfl
  · obtain ⟨hne,hchars,-⟩ := tag_chars htag
    refine ⟨tag,htag,rest,hline,?_⟩
    rw [hline,firstRun_word hne fun c hc => (hchars c hc).1] at hcommand
    cases hstripped : (rest.reverse.dropWhile isSpace).reverse with
    | nil =>
      have hall := dropWhile_eq_nil_iff.mp (reverse_eq_nil_iff.mp hstripped)
      exact .inr fun c hc => hall c (mem_reverse.mpr hc)
    | cons c cs =>
      have hhead : rest.head? = some c := stripped_head (by rw [hstripped]; rfl)
      rcases hrest c hhead with rfl | rfl
      · exact .inl hhead
      · -- A tab stays in the command.
        rw [hstripped,takeWhile_cons_of_pos (by decide)] at hcommand
        have hmem : '\t' ∈ found.toList.map caseFold := by
          rw [← hcommand]
          simp only [map_append,map_cons,mem_append,mem_cons]
          exact .inr (.inl (by decide))
        obtain ⟨d,hd,hfold⟩ := mem_map.mp hmem
        exact absurd hfold (hfoundChars d hd).2

end

section

variable {description : String} {toJson : JsonObject → String} {fromJson : String → JsonObject}

/-- A profile is read back from the document that it is put into. -/
def ReadsBack (toJson : JsonObject → String) (fromJson : String → JsonObject) : Prop :=
  ∀ data, ((fromJson (toJson (JsonObject.empty.insert "config" (.str data)))).value "config") =
    .str data

/-- The text that is imported as an OpenVPN profile. -/
def ImportsProfile (importers : Importers) (data text : String) : Prop :=
  importers.link data = none ∧ importedText importers data = (.openVpn,text)

variable (description toJson) in
lemma value_containers (text : String) :
    (extractOpenVpnConfig description toJson text).value "containers" =
      .arr [.obj (openVpnContainer toJson text)] := by
  simp only [extractOpenVpnConfig]
  split <;> split <;> simp

lemma profileOf_openVpnContainer (h : ReadsBack toJson fromJson) (text : String) :
    profileOf fromJson (openVpnContainer toJson text) = text := by
  have hread := h text
  simp [profileOf,openVpnContainer,hread]

/-- The warning is about the imported text. -/
lemma warning_of_importsProfile (h : ReadsBack toJson fromJson) {importers : Importers}
    {configFileName data text : String} (himport : ImportsProfile importers data text) :
    (extractConfigFromData description toJson fromJson importers configFileName
      data).maliciousWarningText = warningText (maliciousStrings text) := by
  obtain ⟨hlink,htext⟩ := himport
  have hcontainers := value_containers description toJson text
  have hserver : (extractOpenVpnConfig description toJson text).isEmpty = false := by
    cases hempty : extractOpenVpnConfig description toJson text with
    | nil =>
      rw [hempty] at hcontainers
      cases hcontainers
    | cons => rfl
  have hname : ((openVpnContainer toJson text).value "container").toString = "amnezia-openvpn" := by
    simp [openVpnContainer]
  rw [extractConfigFromData,hlink,htext]
  simp only [hserver,Bool.false_eq_true,if_false]
  rw [checkForMaliciousStrings,hcontainers,Json.toArray_arr,foldl_cons,foldl_nil,
    Json.toObject_obj,if_pos hname,profileOf_openVpnContainer h]

lemma infix_warningText {shown : List (List Char)} {line : List Char} (h : line ∈ shown) :
    line <:+: warningText shown := by
  have hne : shown.isEmpty = false := isEmpty_eq_false_iff.mpr (ne_nil_of_mem h)
  obtain ⟨before,after,rfl⟩ := append_of_mem h
  rw [warningText,hne,if_neg (by simp),flatMap_append,flatMap_cons,warningEntry]
  exact ⟨warningHeader++dangerousHeader++before.flatMap warningEntry++entryStart,
    entryEnd++after.flatMap warningEntry,by simp only [append_assoc]⟩

/-- The warning names some lines, and they include every line that runs a script exactly if all
those lines write their directives plainly. -/
theorem script_lines_reported_iff (description configFileName : String)
    (h : ReadsBack toJson fromJson) {importers : Importers} {data text : String}
    (himport : ImportsProfile importers data text) :
    ∃ shown, (extractConfigFromData description toJson fromJson importers configFileName
        data).maliciousWarningText = warningText shown ∧
      (∀ line ∈ shown, line <:+: warningText shown) ∧
      ((∀ line ∈ profileLines text, RunsScript line → line ∈ shown) ↔
        ∀ line ∈ profileLines text, RunsScript line → WrittenPlainly line) := by
  refine ⟨maliciousStrings text,warning_of_importsProfile h himport,
    fun line => infix_warningText,?_⟩
  refine forall_congr' fun line => forall_congr' fun hline => forall_congr' fun hscript => ?_
  rw [maliciousStrings,mem_filter,and_iff_right hline]
  exact ⟨plain_of_isDangerous hscript,isDangerous_of_plain⟩

end

/-- A document with nothing but its configuration text. -/
def configText (object : JsonObject) : String := (object.value "config").toString

def textConfig (text : String) : JsonObject := [("config",.str text)]

lemma readsBack_configText : ReadsBack configText textConfig := by
  intro data
  have hdata : configText (JsonObject.empty.insert "config" (.str data)) = data := by
    simp [configText]
  rw [hdata]
  rfl

/-- No links and no other formats. -/
def profilesOnly : Importers :=
  ⟨fun _ => none,fun configType _ => { configFileName := "", configType },id⟩

/-- A profile with the given line. -/
def scriptProfile (line : String) : String := "client\ndev tun\nremote vpn.example\n"++line

lemma not_mem_toList_append {s t : String} {c : Char} (hs : c ∉ s.toList) (ht : c ∉ t.toList) :
    c ∉ (s++t).toList := by
  rw [String.toList_append,mem_append]
  exact not_or.mpr ⟨hs,ht⟩

lemma importsProfile_of_format {text : String} (h : checkConfigFormat text = .openVpn) :
    ImportsProfile profilesOnly text text := by
  refine ⟨rfl,?_⟩
  rw [importedText,h]
  rfl

/-- A script behind a blank is named. -/
theorem script_behind_blank :
    ImportsProfile profilesOnly (scriptProfile "up /tmp/a.sh") (scriptProfile "up /tmp/a.sh") ∧
      "up /tmp/a.sh".toList <:+: (extractConfigFromData "Server 1" configText textConfig
        profilesOnly "a.ovpn" (scriptProfile "up /tmp/a.sh")).maliciousWarningText := by
  have htext : scriptProfile "up /tmp/a.sh" =
      "client\ndev tun\nremote vpn.example\nup /tmp/a.sh" := by decide +kernel
  have himport : ImportsProfile profilesOnly (scriptProfile "up /tmp/a.sh")
      (scriptProfile "up /tmp/a.sh") := by
    refine importsProfile_of_format ?_
    simp only [checkConfigFormat,containsText,htext]
    repeat rw [String.toList_ofList]
    decide +kernel
  obtain ⟨shown,hwarning,hshown,hall⟩ := script_lines_reported_iff "Server 1" "a.ovpn"
    readsBack_configText himport
  have hlines : profileLines (scriptProfile "up /tmp/a.sh") = ["client".toList,"dev tun".toList,
      "remote vpn.example".toList,"up /tmp/a.sh".toList] := by
    rw [profileLines,htext]
    repeat rw [String.toList_ofList]
    decide +kernel
  have hothers : ∀ line ∈ ["client".toList,"dev tun".toList,"remote vpn.example".toList],
      ¬RunsScript line := by decide +kernel
  have hplain : WrittenPlainly "up /tmp/a.sh".toList :=
    ⟨"up",by decide,_,(by decide +kernel : _ = "up".toList++" /tmp/a.sh".toList),.inl rfl⟩
  refine ⟨himport,?_⟩
  rw [hwarning]
  refine hshown _ (hall.mpr ?_ _ (by simp [hlines]) (by decide +kernel))
  intro line hline hscript
  rw [hlines] at hline
  rcases mem_append.mp (show line ∈ ["client".toList,"dev tun".toList,
    "remote vpn.example".toList]++["up /tmp/a.sh".toList] from hline) with hother | hup
  · exact absurd hscript (hothers line hother)
  · rw [mem_singleton.mp hup]
    exact hplain

/-- A script behind a tab is not. -/
theorem script_behind_tab :
    ImportsProfile profilesOnly (scriptProfile "up\t/tmp/a.sh") (scriptProfile "up\t/tmp/a.sh") ∧
      "up\t/tmp/a.sh".toList ∈ profileLines (scriptProfile "up\t/tmp/a.sh") ∧
      RunsScript "up\t/tmp/a.sh".toList ∧
      ¬"up\t/tmp/a.sh".toList <:+: (extractConfigFromData "Server 1" configText textConfig
        profilesOnly "a.ovpn" (scriptProfile "up\t/tmp/a.sh")).maliciousWarningText := by
  have htext : scriptProfile "up\t/tmp/a.sh" =
      "client\ndev tun\nremote vpn.example\nup\t/tmp/a.sh" := by decide +kernel
  have himport : ImportsProfile profilesOnly (scriptProfile "up\t/tmp/a.sh")
      (scriptProfile "up\t/tmp/a.sh") := by
    refine importsProfile_of_format ?_
    simp only [checkConfigFormat,containsText,htext]
    repeat rw [String.toList_ofList]
    decide +kernel
  have hlines : profileLines (scriptProfile "up\t/tmp/a.sh") = ["client".toList,"dev tun".toList,
      "remote vpn.example".toList,"up\t/tmp/a.sh".toList] := by
    rw [profileLines,htext]
    repeat rw [String.toList_ofList]
    decide +kernel
  have hnone : maliciousStrings (scriptProfile "up\t/tmp/a.sh") = [] := by
    rw [maliciousStrings,hlines,filter_eq_nil_iff]
    simp only [isDangerous_iff_exists,dangerousTags]
    repeat rw [String.toList_ofList]
    decide +kernel
  have hmem : "up\t/tmp/a.sh".toList ∈ profileLines (scriptProfile "up\t/tmp/a.sh") := by
    rw [hlines]
    exact .tail _ (.tail _ (.tail _ (.head _)))
  have htab : '\t' ∉ warningHeader := by
    refine not_mem_toList_append ?_ ?_
    all_goals
      rw [String.toList_ofList]
      decide
  refine ⟨himport,hmem,⟨"up",by decide,by decide +kernel⟩,?_⟩
  rw [warning_of_importsProfile readsBack_configText himport,hnone]
  rw [warningText,isEmpty_nil,if_pos rfl]
  exact fun h => htab (h.subset (by decide))

end AlzheimerVPN.ImportController
