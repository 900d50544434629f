import AlzheimerVPN.InboundAuth
import AlzheimerVPN.Templates

/-! The host name in the text of an Xray document. `startVpn` replaces it wherever it stands,
while only the address of the server is meant. -/
namespace AlzheimerVPN.Android
namespace Xray

open OrgJson Replacement Templates List

section

/-- The places of a server's address in an outbound. -/
def serverPaths : List Json.Path :=
  [[.key "address",.item,.key "vnext",.key "settings",.item,.key "outbounds"],
   [.key "address",.item,.key "servers",.key "settings",.item,.key "outbounds"],
   [.key "address",.key "settings",.item,.key "outbounds"]]

/-- The address of a server, given by the host name. -/
def IsServer (hostName : String) (path : Json.Path) (s : String) : Prop :=
  path ∈ serverPaths ∧ s = hostName

instance (hostName : String) (path : Json.Path) : DecidablePred (IsServer hostName path) :=
  fun _ => inferInstanceAs (Decidable (_ ∧ _))

/-- What the replacement is for. -/
def withAddress (hostName address : String) (path : Json.Path) (s : String) : String :=
  if IsServer hostName path s then address else s

/-- The text of a string, with a word for the addresses of servers. -/
def serverText (hostName : String) (word : List Char) (path : Json.Path) (s : String) : List Char :=
  if IsServer hostName path s then word else escapedString s

variable [JsonNumbers]

/-- The text of a document with a word for the addresses of servers. -/
def textWith (hostName : String) (v : Json) (word : List Char) : List Char :=
  Json.render escapedString (serverText hostName word) [] v

mutual

lemma holed_render (hostName : String) (path : Json.Path) (v : Json) :
    Holed '"' fun word => Json.render escapedString (serverText hostName word) path v := by
  cases v with
  | undefined => exact holed_const _
  | null => exact holed_const _
  | bool b => cases b <;> exact holed_const _
  | num q => exact holed_const _
  | str s =>
    by_cases hserver : IsServer hostName path s
    · simp only [Json.render,serverText,if_pos hserver]
      exact holed_hole
    · simp only [Json.render,serverText,if_neg hserver]
      exact holed_const _
  | arr items =>
    simp only [Json.render]
    exact ((holed_renderItems hostName path true items).append (holed_const _)).cons _
  | obj fields =>
    simp only [Json.render]
    exact ((holed_renderFields hostName path true fields).append (holed_const _)).cons _

lemma holed_renderItems (hostName : String) (path : Json.Path) (first : Bool)
    (items : List Json) : Holed '"' fun word =>
      Json.renderItems escapedString (serverText hostName word) path first items := by
  cases items with
  | nil => exact holed_const _
  | cons v items =>
    simp only [Json.renderItems]
    exact (holed_const _).append ((holed_render hostName _ v).append
      (holed_renderItems hostName path false items))

lemma holed_renderFields (hostName : String) (path : Json.Path) (first : Bool)
    (fields : List (String × Json)) : Holed '"' fun word =>
      Json.renderFields escapedString (serverText hostName word) path first fields := by
  cases fields with
  | nil => exact holed_const _
  | cons f fields =>
    obtain ⟨k,v⟩ := f
    simp only [Json.renderFields]
    refine (holed_const _).append (Holed.cons ((holed_const (escapedString k)).append ?_) _)
    exact (((holed_render hostName _ v).append
      (holed_renderFields hostName path false fields)).cons _).cons _

end

/-- Replacing the host name replaces the addresses of servers and nothing else, if it does not
stand in the text without them, and only then. -/
lemma replace_textWith_iff {hostName address : String} (hne : hostName ≠ "")
    (hquote : '"' ∉ hostName.toList) (hother : address ≠ hostName) (v : Json) :
    replace (fun p c => decide (p = c)) hostName.toList address.toList 0
        (textWith hostName v hostName.toList) = textWith hostName v address.toList ↔
      contains (fun p c => decide (p = c)) hostName.toList (textWith hostName v []) = false := by
  obtain ⟨piece,pieces,htext⟩ := holed_render hostName [] v
  have hsub : hostName.toList ≠ [] := fun h => hne (String.toList_eq_nil_iff.mp h)
  have hnew : address.toList ≠ hostName.toList := fun h => hother (String.toList_inj.mp h)
  simp only [textWith,htext]
  exact replace_fill_iff hsub hquote hnew piece pieces

end

lemma escapeChar_of_plain {c : Char} (h : c ≠ '"' ∧ c ≠ '\\' ∧ c ≠ '/' ∧ 32 ≤ c.toNat) :
    OrgJson.escapeChar c = [c] := by
  obtain ⟨hquote,hback,hslash,hlow⟩ := h
  rw [OrgJson.escapeChar,if_neg (by simp [hquote,hback,hslash]),if_neg (by omega),if_neg (by omega),
    if_neg (by omega),if_neg (by omega),if_neg (by omega),if_neg (by omega)]

lemma escapedString_of_plain {s : String}
    (h : ∀ c ∈ s.toList, c ≠ '"' ∧ c ≠ '\\' ∧ c ≠ '/' ∧ 32 ≤ c.toNat) :
    escapedString s = s.toList := by
  rw [escapedString]
  exact (flatMap_congr fun c hc => escapeChar_of_plain (h c hc)).trans (flatMap_singleton' _)

lemma plain_of_address_char {c : Char} (h : c.isAlphanum ∨ c ∈ ['.',':','%','-','_']) :
    (c ≠ '"' ∧ c ≠ '\\' ∧ c ≠ '/' ∧ 32 ≤ c.toNat) ∧ c ≠ '{' := by
  rcases h with h | h
  · have hlow : ∀ n < 32, (Char.ofNat n).isAlphanum = false := by decide
    have hne {d : Char} (hd : d.isAlphanum = false) : c ≠ d := fun he => by simp [← he,h] at hd
    refine ⟨⟨hne rfl,hne rfl,hne rfl,?_⟩,hne rfl⟩
    by_contra hlt
    have hc := hlow c.toNat (by omega)
    rw [Char.ofNat_toNat,h] at hc
    cases hc
  · have hall : ∀ c ∈ ['.',':','%','-','_'],
        (c ≠ '"' ∧ c ≠ '\\' ∧ c ≠ '/' ∧ 32 ≤ c.toNat) ∧ c ≠ '{' := by decide
    exact hall c h

section

variable [JsonNumbers] [Resolver] {hostName address : String}
  (hresolved : Resolver.ip hostName = some address)

include hresolved

lemma text_eq_textWith (v : Json) : text v = textWith hostName v hostName.toList := by
  have hvalue : (fun (_ : Json.Path) s => escapedString s) =
      serverText hostName hostName.toList := by
    funext path s
    rw [serverText]
    split
    case isTrue hserver =>
      rw [hserver.2]
      exact escapedString_of_plain (Resolver.host_chars _ _ hresolved)
    case isFalse => rfl
  rw [text,textWith,hvalue]

lemma text_withAddress (v : Json) : text (Json.relabel (withAddress hostName address) [] v) =
      textWith hostName v address.toList := by
  have hvalue : (fun path s => escapedString (withAddress hostName address path s)) =
      serverText hostName address.toList := by
    funext path s
    rw [withAddress,serverText]
    split
    case isTrue =>
      exact escapedString_of_plain fun c hc =>
        (plain_of_address_char (Resolver.address_chars _ _ hresolved c hc)).1
    case isFalse => rfl
  rw [text,Json.render_relabel,hvalue,textWith]

/-- With an empty host name addresses stand before every character. -/
lemma replaceAll_empty_ne (fields : JsonObject) (x : List Char) :
    replaceAll [] address.toList x ≠ textWith hostName (.obj fields) address.toList := by
  obtain ⟨c,cs,haddress⟩ : ∃ c cs, address.toList = c::cs :=
    exists_cons_of_ne_nil fun h =>
      Resolver.address_ne _ _ hresolved (String.toList_eq_nil_iff.mp h)
  have hc : c ≠ '{' := (plain_of_address_char
    (Resolver.address_chars _ _ hresolved c (haddress ▸ mem_cons_self))).2
  have hhead : (replaceAll [] address.toList x).head? = some c := by
    rw [replaceAll,if_pos rfl,haddress]
    cases x <;> rfl
  intro heq
  rw [heq,textWith,Json.render] at hhead
  exact hc (Option.some.inj hhead).symm

/-- The host name stands in the text of a document only as the address of a server. -/
def OnlyAsServer (hostName address : String) (config : JsonObject) : Prop :=
  hostName = address ∨ hostName ≠ "" ∧ contains (fun p c => decide (p = c)) hostName.toList
      (textWith hostName (.obj config) []) = false

lemma replaced_text_iff (config : JsonObject) :
    (if hostName ≠ address then replaceAll hostName.toList address.toList (text (.obj config))
      else text (.obj config)) =
        text (Json.relabel (withAddress hostName address) [] (.obj config)) ↔
      OnlyAsServer hostName address config := by
  rw [text_withAddress hresolved,text_eq_textWith hresolved (.obj config),OnlyAsServer]
  by_cases hsame : hostName = address
  · rw [if_neg (not_not.mpr hsame),hsame]
    simp
  · rw [if_pos hsame]
    by_cases hempty : hostName = ""
    · refine iff_of_false ?_ (by simp [hempty,hempty ▸ hsame])
      rw [show hostName.toList = [] from String.toList_eq_nil_iff.mpr hempty]
      exact replaceAll_empty_ne hresolved config _
    · have hquote : '"' ∉ hostName.toList := fun hmem =>
        (Resolver.host_chars _ _ hresolved _ hmem).1 rfl
      have hsub : hostName.toList ≠ [] := fun h => hempty (String.toList_eq_nil_iff.mp h)
      rw [replaceAll,if_neg hsub,replace_textWith_iff hempty hquote (Ne.symm hsame),
        or_iff_right hsame]
      exact (and_iff_right hempty).symm

lemma configJson_of_startVpn {supply : Inbounds.Supply} {stored config : JsonObject}
    {started : Started} (hauth : ensureInboundAuth supply stored = some config)
    (h : startVpn supply hostName stored = some started) :
    started.configJson =
      if hostName ≠ address then replaceAll hostName.toList address.toList (text (.obj config))
      else text (.obj config) := by
  simp only [startVpn,hauth,hresolved,Option.bind_some,Option.map_some,
    Option.bind_eq_some_iff,Option.some.injEq] at h
  obtain ⟨access,-,rfl⟩ := h
  rfl

/-- The text for Xray differs from the document only in the addresses of servers, if the host name
stands nowhere else in its text, and only then. -/
theorem startVpn_frame_iff {supply : Inbounds.Supply} {stored config : JsonObject}
    {started : Started} (hauth : ensureInboundAuth supply stored = some config)
    (h : startVpn supply hostName stored = some started) :
    started.configJson = text (Json.relabel (withAddress hostName address) [] (.obj config)) ↔
      OnlyAsServer hostName address config := by
  rw [configJson_of_startVpn hresolved hauth h]
  exact replaced_text_iff hresolved config

end

/-- A resolver that knows one name. -/
@[reducible] def oneName : Resolver where
  ip hostName := if hostName = "vpn.example" then some "203.0.113.7" else none
  host_chars hostName address h := by
    split at h
    case isTrue hname =>
      rw [hname]
      decide
    case isFalse => cases h
  address_chars hostName address h := by
    split at h
    · cases h
      decide
    · cases h
  address_ne hostName address h := by
    split at h
    · cases h
      decide
    · cases h

/-- A document with a server and the name that its certificate is checked against. -/
def namedServer (serverName : String) : JsonObject :=
  [("inbounds",.arr [.obj [("protocol",.str "socks")]]),("outbounds",.arr [.obj
      [("settings",.obj [("vnext",.arr [.obj [("address",.str "vpn.example")]])]),
       ("streamSettings",.obj [("tlsSettings",.obj [("serverName",.str serverName)])])]])]

/-- The same document with its credentials. -/
def namedAuthenticated (serverName : String) : JsonObject :=
  [("inbounds",.arr [.obj [("protocol",.str "socks"),("port",.num 20000),
      ("settings",.obj [("auth",.str "password"),
        ("accounts",.arr [.obj [("user",.str "u"),("pass",.str "p")]])])]]),
    ("outbounds",.arr [.obj
      [("settings",.obj [("vnext",.arr [.obj [("address",.str "vpn.example")]])]),
       ("streamSettings",.obj [("tlsSettings",.obj [("serverName",.str serverName)])])]])]

def sampleStart (serverName : String) : Option Started :=
  @startVpn XrayConfig.integerNumbers oneName ⟨some 20000,"u","p"⟩ "vpn.example"
    (namedServer serverName)

lemma ensureInboundAuth_namedServer (serverName : String) :
    @ensureInboundAuth XrayConfig.integerNumbers ⟨some 20000,"u","p"⟩ (namedServer serverName) =
      some (namedAuthenticated serverName) :=
  rfl

/-- Another name is left alone. -/
theorem other_name_kept : ∃ started, sampleStart "cdn.test" = some started ∧
      started.configJson = @text XrayConfig.integerNumbers
        (Json.relabel (withAddress "vpn.example" "203.0.113.7") []
          (.obj (namedAuthenticated "cdn.test"))) := by
  refine ⟨_,rfl,?_⟩
  refine (@startVpn_frame_iff XrayConfig.integerNumbers oneName "vpn.example" "203.0.113.7" rfl _
    _ _ _ (ensureInboundAuth_namedServer "cdn.test") rfl).mpr (.inr ⟨by decide,?_⟩)
  decide +kernel

/-- A name that ends in the host name is handed over with an address in it. -/
theorem longer_name_changed : (sampleStart "www.vpn.example").map Started.configJson =
        some (@text XrayConfig.integerNumbers
          (Json.relabel (withAddress "vpn.example" "203.0.113.7") []
            (.obj (namedAuthenticated "www.203.0.113.7")))) ∧
      (sampleStart "www.vpn.example").map Started.configJson ≠ some (@text XrayConfig.integerNumbers
          (Json.relabel (withAddress "vpn.example" "203.0.113.7") []
            (.obj (namedAuthenticated "www.vpn.example")))) := by
  decide +kernel

end Xray
end AlzheimerVPN.Android
