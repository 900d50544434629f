import AlzheimerVPN.AndroidXray

/-! Credentials for the local SOCKS proxy: what `EnsureInboundAuth` on the desktop and
`ensureInboundAuth` on Android make of the SOCKS inbounds of a document. Both look at the first
one only. -/
namespace AlzheimerVPN
namespace Inbounds

open List

def inboundsOf (config : JsonObject) : List Json := (config.value "inbounds").toArray

def IsSocks (inbound : Json) : Prop :=
  equalsFold (inbound.toObject.value "protocol").toString "socks"

instance : DecidablePred IsSocks := fun _ => inferInstanceAs (Decidable (_ = true))

def settingsOf (inbound : Json) : JsonObject := (inbound.toObject.value "settings").toObject

/-- The inbound asks for a password, and its first account has one. -/
def Authenticated (inbound : Json) : Prop :=
  (settingsOf inbound).value "auth" = .str "password" ∧
    ((account (settingsOf inbound)).value "user").toString ≠ "" ∧
    ((account (settingsOf inbound)).value "pass").toString ≠ ""

def AllAuthenticated (config : JsonObject) : Prop :=
  ∀ inbound ∈ inboundsOf config, IsSocks inbound → Authenticated inbound

/-- The same inbound but for the port, the mode and the accounts of a SOCKS one. -/
def SameInbound (before after : Json) : Prop :=
  after = before ∨ IsSocks before ∧ (∃ fields, after = .obj fields) ∧
    (∀ key, key ≠ "port" → key ≠ "settings" →
      after.toObject.value key = before.toObject.value key) ∧
    ∀ key, key ≠ "auth" → key ≠ "accounts" →
      (settingsOf after).value key = (settingsOf before).value key

/-- The same document but for its SOCKS inbounds. -/
structure Framed (before after : JsonObject) : Prop where
  fields : ∀ key, key ≠ "inbounds" → after.value key = before.value key
  inbounds : after.value "inbounds" = before.value "inbounds" ∨
    ∃ items items', before.value "inbounds" = .arr items ∧ after.value "inbounds" = .arr items' ∧
      List.Forall₂ SameInbound items items'

/-- The SOCKS inbounds after the first one ask for passwords of their own. -/
def LaterAuthenticated (config : JsonObject) : Prop :=
  ∀ i, indexOfSocksInbound (inboundsOf config) = some i → ∀ j, i < j →
    ∀ inbound, (inboundsOf config)[j]? = some inbound → IsSocks inbound → Authenticated inbound

/-- The hexadecimal text of bytes. -/
def hexText (bytes : List UInt8) : String :=
  String.ofList (bytes.flatMap fun b => [Json.hexDigit (b.toNat/16),Json.hexDigit (b.toNat%16)])

/-- The system gives a port, and credentials are made of random bytes: `generateRandomHex` on the
desktop, a part of a random UUID on Android. -/
structure Generated (supply : Supply) : Prop where
  username : ∃ bytes : List UInt8, bytes.length = 8 ∧ supply.username = hexText bytes
  password : ∃ bytes : List UInt8, bytes.length = 16 ∧ supply.password = hexText bytes
  port : ∀ port, supply.port = some port → port < 65536

lemma hexText_ne_empty {bytes : List UInt8} (h : bytes ≠ []) : hexText bytes ≠ "" := by
  obtain ⟨b,rest,rfl⟩ := exists_cons_of_ne_nil h
  intro hempty
  have hchars := congrArg String.toList hempty
  simp [hexText] at hchars

lemma Generated.username_ne {supply : Supply} (h : Generated supply) : supply.username ≠ "" := by
  obtain ⟨bytes,hlength,htext⟩ := h.username
  rw [htext]
  exact hexText_ne_empty (ne_nil_of_length_pos (by omega))

lemma Generated.password_ne {supply : Supply} (h : Generated supply) : supply.password ≠ "" := by
  obtain ⟨bytes,hlength,htext⟩ := h.password
  rw [htext]
  exact hexText_ne_empty (ne_nil_of_length_pos (by omega))

section

lemma getD_of_lt {items : List Json} (h : i < items.length) :
    items.getD i .undefined = items[i] := by
  rw [getD_eq_getElem?_getD,List.getElem?_eq_getElem h,Option.getD_some]

/-- What both implementations do with the first SOCKS inbound. -/
structure Patched (config config' : JsonObject) (i port : ℕ) (inbound settings : JsonObject)
    (accounts : Json) : Prop where
  first : indexOfSocksInbound (inboundsOf config) = some i
  fields : ∀ key, key ≠ "inbounds" → config'.value key = config.value key
  newInbounds : config'.value "inbounds" = .arr ((inboundsOf config).set i (.obj inbound))
  newPort : inbound.value "port" = .num port
  newSettings : inbound.value "settings" = .obj settings
  rest : ∀ key, key ≠ "port" → key ≠ "settings" →
    inbound.value key = ((inboundsOf config).getD i .undefined).toObject.value key
  newAuth : settings.value "auth" = .str "password"
  newAccounts : settings.value "accounts" = accounts
  kept : ∀ key, key ≠ "auth" → key ≠ "accounts" →
    settings.value key = (settingsOf ((inboundsOf config).getD i .undefined)).value key

/-- The first account of a list has a name and a password. -/
def HasAccount (accounts : Json) : Prop :=
  (((accounts.toArray.headD .undefined).toObject.value "user").toString ≠ "") ∧
    (((accounts.toArray.headD .undefined).toObject.value "pass").toString ≠ "")

/-- The account that is made up. -/
def freshAccount (supply : Supply) : JsonObject :=
  [("user",.str supply.username),("pass",.str supply.password)]

def freshAccounts (supply : Supply) : Json := .arr [.obj (freshAccount supply)]

lemma hasAccount_fresh {supply : Supply} (h : Generated supply) :
    HasAccount (freshAccounts supply) :=
  ⟨h.username_ne,h.password_ne⟩

variable {config config' : JsonObject} {i port : ℕ} {inbound settings : JsonObject}
  {accounts : Json} (h : Patched config config' i port inbound settings accounts)

include h

lemma Patched.inboundsOf_eq : inboundsOf config' = (inboundsOf config).set i (.obj inbound) := by
  rw [inboundsOf,h.newInbounds]
  rfl

lemma Patched.lt : i < (inboundsOf config).length :=
  (List.findIdx?_eq_some_iff_getElem.mp h.first).1

/-- The inbound is still a SOCKS one. -/
lemma Patched.isSocks :
    IsSocks ((inboundsOf config).getD i .undefined) ∧ IsSocks (.obj inbound) := by
  obtain ⟨hlt,hsocks,-⟩ := List.findIdx?_eq_some_iff_getElem.mp h.first
  have hbefore : IsSocks ((inboundsOf config).getD i .undefined) := by
    rw [getD_of_lt hlt]
    exact hsocks
  refine ⟨hbefore,?_⟩
  rw [IsSocks,Json.toObject_obj,h.rest "protocol" (by decide) (by decide)]
  exact hbefore

lemma Patched.first_after : indexOfSocksInbound (inboundsOf config') = some i := by
  obtain ⟨hlt,-,hbefore⟩ := List.findIdx?_eq_some_iff_getElem.mp h.first
  rw [h.inboundsOf_eq]
  refine List.findIdx?_eq_some_iff_getElem.mpr ⟨by simpa using hlt,?_,?_⟩
  · rw [getElem_set_self]
    exact h.isSocks.2
  · intro j hj
    rw [getElem_set_ne (by omega)]
    exact hbefore j hj

lemma Patched.authenticated_iff : Authenticated (.obj inbound) ↔ HasAccount accounts := by
  have hsettings : settingsOf (.obj inbound) = settings := by
    rw [settingsOf,Json.toObject_obj,h.newSettings,Json.toObject_obj]
  rw [Authenticated,hsettings,account,h.newAccounts,HasAccount]
  exact and_iff_right h.newAuth

lemma Patched.allAuthenticated_iff :
    AllAuthenticated config' ↔ LaterAuthenticated config ∧ HasAccount accounts := by
  obtain ⟨hlt,-,hbefore⟩ := List.findIdx?_eq_some_iff_getElem.mp h.first
  rw [AllAuthenticated,h.inboundsOf_eq,← h.authenticated_iff]
  constructor
  · intro hall
    refine ⟨?_,hall _ (mem_set hlt _) h.isSocks.2⟩
    intro i' hi' j hj other hother
    obtain rfl : i = i' := Option.some.inj (h.first.symm.trans hi')
    refine hall other (mem_of_getElem? (i := j) ?_)
    rw [List.getElem?_set_ne (by omega)]
    exact hother
  · rintro ⟨hlater,hfirst⟩ other hmem hsocks
    obtain ⟨j,hj⟩ := List.getElem?_of_mem hmem
    rcases Nat.lt_trichotomy j i with hji | rfl | hij
    · rw [List.getElem?_set_ne (by omega),List.getElem?_eq_getElem (by omega)] at hj
      have hnot := hbefore j hji
      rw [Option.some.inj hj] at hnot
      exact absurd hsocks hnot
    · rw [List.getElem?_set_self hlt] at hj
      rw [← Option.some.inj hj]
      exact hfirst
    · rw [List.getElem?_set_ne (by omega)] at hj
      exact hlater i h.first j hij other hj hsocks

lemma Patched.framed : Framed config config' := by
  refine ⟨h.fields,.inr ⟨inboundsOf config,_,?_,h.newInbounds,?_⟩⟩
  · have hlt := h.lt
    rw [inboundsOf] at hlt ⊢
    cases hvalue : config.value "inbounds" with
    | arr items => rfl
    | _ => simp [hvalue,Json.toArray] at hlt
  · refine forall₂_iff_get.mpr ⟨by simp,?_⟩
    intro j hj hj'
    simp only [get_eq_getElem]
    by_cases hji : j = i
    · subst hji
      rw [getElem_set_self]
      have hold : (inboundsOf config)[j] = (inboundsOf config).getD j .undefined :=
        (getD_of_lt hj).symm
      rw [hold]
      refine .inr ⟨h.isSocks.1,⟨_,rfl⟩,h.rest,?_⟩
      rw [settingsOf,Json.toObject_obj,h.newSettings,Json.toObject_obj]
      exact h.kept
    · rw [getElem_set_ne (Ne.symm hji)]
      exact .inl rfl

/-- The credentials of the first SOCKS inbound of the new document. -/
lemma Patched.credentials (hport : port < 65536) : getInboundCredentials config' =
      ⟨(((accounts.toArray.headD .undefined).toObject.value "user").toString),
        (((accounts.toArray.headD .undefined).toObject.value "pass").toString),port⟩ := by
  have hfirst := h.first_after
  have hlt := h.lt
  have hport' : (Json.num (port : ℚ)).toIntOr defaultPort = port := by
    have hle : ((port : ℕ) : ℤ) ≤ 2147483647 := by omega
    simp [Json.toIntOr,hle]
  have hinbound : (inboundsOf config').getD i .undefined = .obj inbound := by
    rw [h.inboundsOf_eq,getD_of_lt (by simpa using hlt),getElem_set_self]
  rw [inboundsOf] at hfirst hinbound
  simp only [getInboundCredentials,hfirst,hinbound,Json.toObject_obj,h.newSettings,h.newPort,
    account,h.newAccounts,hport']

omit h in
/-- The patch, made with any function that sets a field. -/
lemma patched_of_set {set : JsonObject → String → Json → JsonObject} (port : ℕ)
    (settings : JsonObject) (accounts : Json)
    (hset : ∀ o key k v, (set o key v).value k = if k = key then v else o.value k)
    (hfirst : indexOfSocksInbound (inboundsOf config) = some i)
    (hauth : settings.value "auth" = .str "password")
    (haccounts : settings.value "accounts" = accounts)
    (hkept : ∀ key, key ≠ "auth" → key ≠ "accounts" →
      settings.value key = (settingsOf ((inboundsOf config).getD i .undefined)).value key) :
    Patched config (set config "inbounds" (.arr ((inboundsOf config).set i (.obj
        (set (set ((inboundsOf config).getD i .undefined).toObject "port" (.num port)) "settings"
          (.obj settings)))))) i port
      (set (set ((inboundsOf config).getD i .undefined).toObject "port" (.num port)) "settings"
        (.obj settings)) settings accounts where
  first := hfirst
  fields key hkey := by rw [hset,if_neg hkey]
  newInbounds := by rw [hset,if_pos rfl]
  newPort := by rw [hset,if_neg (by decide),hset,if_pos rfl]
  newSettings := by rw [hset,if_pos rfl]
  rest key hport hsettings := by rw [hset,if_neg hsettings,hset,if_neg hport]
  newAuth := hauth
  newAccounts := haccounts
  kept := hkept

end

section

variable {supply : Supply} {config config' : JsonObject} {creds : InboundCredentials}

lemma ensureInboundAuth_of_none (hnone : indexOfSocksInbound (inboundsOf config) = none)
    (h : ensureInboundAuth supply config = some (config',creds)) :
    config' = config ∧ creds = getInboundCredentials config := by
  rw [inboundsOf] at hnone
  simp only [ensureInboundAuth,hnone,Option.some.injEq,Prod.mk.injEq] at h
  exact ⟨h.1.symm,h.2.symm⟩

lemma ensureInboundAuth_patched (hgen : Generated supply) {i : ℕ}
    (hsome : indexOfSocksInbound (inboundsOf config) = some i)
    (h : ensureInboundAuth supply config = some (config',creds)) :
    ∃ port inbound settings accounts, Patched config config' i port inbound settings accounts ∧
      HasAccount accounts ∧ creds = getInboundCredentials config' := by
  have hsome' := hsome
  rw [inboundsOf] at hsome'
  simp only [ensureInboundAuth,hsome',Option.map_eq_some_iff,Prod.mk.injEq] at h
  obtain ⟨port,hport,hconfig,hcreds⟩ := h
  subst hconfig
  have hlt := hgen.port port hport
  rw [← inboundsOf] at hcreds ⊢
  have hsettings : ((((inboundsOf config).getD i .undefined).toObject.insert "port"
      (.num port)).value "settings").toObject =
        settingsOf ((inboundsOf config).getD i .undefined) := by
    rw [JsonObject.value_insert,if_neg (by decide),settingsOf]
  simp only [hsettings] at hcreds ⊢
  generalize hold : settingsOf ((inboundsOf config).getD i .undefined) = old at hcreds ⊢
  by_cases hgiven : ((account old).value "user").toString ≠ "" ∧
      ((account old).value "pass").toString ≠ ""
  · have htest : (!(((account old).value "user").toString.isEmpty ||
        ((account old).value "pass").toString.isEmpty)) := by
      simpa using hgiven
    simp only [htest,if_true] at hcreds ⊢
    have hpatched := patched_of_set port (old.insert "auth" (.str "password"))
      (old.value "accounts") JsonObject.value_insert hsome (by simp) (by simp)
      (by rw [hold]; simp +contextual)
    exact ⟨port,_,_,_,hpatched,hgiven,hcreds.symm.trans (hpatched.credentials hlt).symm⟩
  · have htest : (!(((account old).value "user").toString.isEmpty ||
        ((account old).value "pass").toString.isEmpty)) = false := by
      rw [Bool.eq_false_iff]
      simpa using hgiven
    simp only [htest,Bool.false_eq_true,if_false] at hcreds ⊢
    have hpatched := patched_of_set port
      ((old.insert "accounts" (freshAccounts supply)).insert "auth" (.str "password"))
      (freshAccounts supply) JsonObject.value_insert hsome (by simp) (by simp)
      (by rw [hold]; simp +contextual)
    exact ⟨port,_,_,_,hpatched,hasAccount_fresh hgen,
      hcreds.symm.trans (hpatched.credentials hlt).symm⟩

end

end Inbounds

namespace Android
namespace Xray

open OrgJson Inbounds

variable [JsonNumbers]

omit [JsonNumbers] in
lemma equalsFold_socks_of_head {c : Char} {x : List Char} (h : caseFold c ≠ 's') :
    equalsFold (String.ofList (c::x)) "socks" = equalsFold "" "socks" := by
  have hempty : equalsFold "" "socks" = false := by decide
  rw [hempty,equalsFold,String.toList_ofList,beq_eq_false_iff_ne]
  intro heq
  exact h (List.cons.inj heq).1

lemma equalsFold_number (q : ℚ) :
    equalsFold (String.ofList (JsonNumbers.text q)) "socks" = equalsFold "" "socks" := by
  cases htext : JsonNumbers.text q with
  | nil => rfl
  | cons c x =>
    refine equalsFold_socks_of_head ?_
    have hdigit : ∀ n < 58, caseFold (Char.ofNat n) ≠ 's' := by decide
    rcases JsonNumbers.chars q c (by rw [htext]; exact List.mem_cons_self) with
      h | rfl | rfl | rfl | rfl
    · have hlt : c.toNat < 58 := by
        simp only [Char.isDigit,Bool.and_eq_true,decide_eq_true_eq] at h
        exact Nat.lt_succ_of_le (UInt32.le_iff_toNat_le.mp h.2)
      have hc := hdigit c.toNat hlt
      rwa [Char.ofNat_toNat] at hc
    · decide
    · decide
    · decide
    · decide

/-- Only a text reads as the name of the protocol. -/
lemma equalsFold_optString (v : Json) :
    equalsFold (optString v) "socks" = equalsFold v.toString "socks" := by
  cases v with
  | undefined => rfl
  | null => exact equalsFold_socks_of_head (by decide)
  | bool b =>
    cases b with
    | true => exact equalsFold_socks_of_head (by decide)
    | false => exact equalsFold_socks_of_head (by decide)
  | num q => exact equalsFold_number q
  | str s => rfl
  | arr items => exact equalsFold_socks_of_head (by decide)
  | obj fields => exact equalsFold_socks_of_head (by decide)

lemma findSocksInboundIndex_eq (inbounds : List Json) :
    findSocksInboundIndex inbounds = indexOfSocksInbound inbounds := by
  rw [findSocksInboundIndex,indexOfSocksInbound]
  congr 1
  funext inbound
  cases inbound with
  | obj fields => exact equalsFold_optString _
  | _ => rfl

/-- If the first account of the first SOCKS inbound reads as one with a name and a password, these
are texts. -/
def FirstAccountText (config : JsonObject) : Prop :=
  ∀ i, indexOfSocksInbound (inboundsOf config) = some i → ∀ account rest,
    (settingsOf ((inboundsOf config).getD i .undefined)).value "accounts" =
      .arr (.obj account::rest) → userOf account ≠ "" → passOf account ≠ "" →
    (JsonObject.value account "user").isString ∧ (JsonObject.value account "pass").isString

omit [JsonNumbers] in
lemma optJSONArray_eq_some {o : JsonObject} {key : String} {items : List Json} :
    optJSONArray o key = some items ↔ o.value key = .arr items := by
  rw [optJSONArray]
  split
  case h_1 items' hvalue => simp [hvalue]
  case h_2 hvalue =>
    refine iff_of_false (by simp) ?_
    intro hitems
    exact hvalue items hitems

omit [JsonNumbers] in
lemma optJSONObject_getD (o : JsonObject) (key : String) :
    (optJSONObject o key).getD [] = (o.value key).toObject := by
  rw [optJSONObject]
  cases o.value key <;> rfl

variable {supply : Supply}

/-- The account is kept, or another one is made up. -/
lemma authenticate_cases {settings settings' : JsonObject}
    (h : authenticate supply settings = some settings') :
    (∃ account rest, settings.value "accounts" = .arr (.obj account::rest) ∧
      (userOf account ≠ "" ∧ passOf account ≠ "") ∧
      settings' = put settings "auth" (.str "password")) ∨
    settings' = put (put settings "auth" (.str "password")) "accounts" (freshAccounts supply) ∧
      ∀ account rest, settings.value "accounts" = .arr (.obj account::rest) →
        ¬(userOf account ≠ "" ∧ passOf account ≠ "") := by
  rw [authenticate] at h
  split at h
  case h_1 account rest haccounts =>
    rw [optJSONArray_eq_some] at haccounts
    split at h
    case isTrue hgiven => exact .inl ⟨account,rest,haccounts,hgiven,(Option.some.inj h).symm⟩
    case isFalse hgiven =>
      refine .inr ⟨(Option.some.inj h).symm,?_⟩
      intro account' rest' heq
      obtain ⟨rfl,-⟩ : account = account' ∧ rest = rest' := by simpa using haccounts.symm.trans heq
      exact hgiven
  case h_2 => exact absurd h (by simp)
  case h_3 hnot _ =>
    refine .inr ⟨(Option.some.inj h).symm,?_⟩
    intro account rest heq
    exact absurd (optJSONArray_eq_some.mpr heq) (hnot account rest)

lemma hasAccount_iff_isString {account : JsonObject} {rest : List Json}
    (hgiven : userOf account ≠ "" ∧ passOf account ≠ "") :
    HasAccount (.arr (.obj account::rest)) ↔ (JsonObject.value account "user").isString ∧
        (JsonObject.value account "pass").isString := by
  have htext : ∀ v : Json, optString v ≠ "" → (v.toString ≠ "" ↔ v.isString) := by
    intro v hv
    cases v with
    | str s => exact iff_of_true hv rfl
    | _ => exact iff_of_false (by simp [Json.toString]) (by simp [Json.isString])
  exact and_congr (htext _ hgiven.1) (htext _ hgiven.2)

lemma ensureInboundAuth_of_no_socks {config config' : JsonObject}
    (hnone : indexOfSocksInbound (inboundsOf config) = none)
    (h : ensureInboundAuth supply config = some config') : config' = config := by
  rw [ensureInboundAuth] at h
  split at h
  case h_1 => exact (Option.some.inj h).symm
  case h_2 items hitems =>
    have hinbounds : inboundsOf config = items := by
      rw [inboundsOf,optJSONArray_eq_some.mp hitems]
      rfl
    rw [findSocksInboundIndex_eq,← hinbounds,hnone] at h
    exact (Option.some.inj h).symm

/-- The first account of the patched inbound is the stored one, or it is made up because the
stored one has no name or no password. -/
def StoredOrFresh (supply : Supply) (settings account : JsonObject) : Prop :=
  (∃ rest, settings.value "accounts" = .arr (.obj account::rest) ∧
    (userOf account ≠ "" ∧ passOf account ≠ "")) ∨
  account = freshAccount supply ∧
    ∀ account' rest, settings.value "accounts" = .arr (.obj account'::rest) →
      ¬(userOf account' ≠ "" ∧ passOf account' ≠ "")

/-- The patch on Android, and what the new account is. -/
lemma ensureInboundAuth_socks (hgen : Generated supply) {config config' : JsonObject} {i : ℕ}
    (hsome : indexOfSocksInbound (inboundsOf config) = some i)
    (h : ensureInboundAuth supply config = some config') : ∃ port inbound settings account rest,
      Patched config config' i port inbound settings (.arr (.obj account::rest)) ∧ port < 65536 ∧
      StoredOrFresh supply (settingsOf ((inboundsOf config).getD i .undefined)) account ∧
      (HasAccount (.arr (.obj account::rest)) ↔ FirstAccountText config) := by
  have hitems : optJSONArray config "inbounds" = some (inboundsOf config) := by
    rw [optJSONArray_eq_some]
    rw [inboundsOf] at hsome ⊢
    cases hvalue : config.value "inbounds" with
    | arr items => rfl
    | _ => simp [hvalue,Json.toArray,indexOfSocksInbound] at hsome
  simp only [ensureInboundAuth,hitems,findSocksInboundIndex_eq,hsome,Option.bind_eq_some_iff,
    Option.map_eq_some_iff] at h
  obtain ⟨port,hport,settings,hsettings,rfl⟩ := h
  have hold : (optJSONObject (put ((inboundsOf config).getD i .undefined).toObject "port"
      (.num port)) "settings").getD [] = settingsOf ((inboundsOf config).getD i .undefined) := by
    rw [optJSONObject_getD,value_put,if_neg (by decide),settingsOf]
  rw [hold] at hsettings
  have hlt := hgen.port port hport
  rcases authenticate_cases hsettings with ⟨account,rest,haccounts,hgiven,rfl⟩ | ⟨rfl,hnot⟩
  · have hpatched := patched_of_set port (put (settingsOf ((inboundsOf config).getD i .undefined))
      "auth" (.str "password")) (.arr (.obj account::rest)) value_put hsome (by simp)
      (by rw [value_put,if_neg (by decide),haccounts])
      (fun key hauth _ => by rw [value_put,if_neg hauth])
    refine ⟨port,_,_,account,rest,hpatched,hlt,.inl ⟨rest,haccounts,hgiven⟩,?_⟩
    rw [hasAccount_iff_isString hgiven]
    constructor
    · intro htexts i' hi' account' rest' heq _ _
      obtain rfl : i = i' := Option.some.inj (hsome.symm.trans hi')
      obtain ⟨rfl,-⟩ : account = account' ∧ rest = rest' := by simpa using haccounts.symm.trans heq
      exact htexts
    · intro hfirst
      exact hfirst i hsome account rest haccounts hgiven.1 hgiven.2
  · have hpatched := patched_of_set port (put (put (settingsOf ((inboundsOf config).getD i
      .undefined)) "auth" (.str "password")) "accounts" (freshAccounts supply))
      (freshAccounts supply) value_put hsome (by simp) (by simp)
      (fun key hauth haccounts => by rw [value_put,if_neg haccounts,value_put,if_neg hauth])
    refine ⟨port,_,_,freshAccount supply,[],hpatched,hlt,.inr ⟨rfl,hnot⟩,
      iff_of_true (hasAccount_fresh hgen) ?_⟩
    intro i' hi' account rest heq huser hpass
    obtain rfl : i = i' := Option.some.inj (hsome.symm.trans hi')
    exact absurd ⟨huser,hpass⟩ (hnot account rest heq)

/-- What `parseConfig` reads from the new document. -/
lemma socksAccess_of_patched {config config' : JsonObject} {i port : ℕ}
    {inbound settings account : JsonObject} {rest : List Json}
    (h : Patched config config' i port inbound settings (.arr (.obj account::rest))) :
    socksAccess config' = some ⟨userOf account,passOf account,port⟩ := by
  have hitems : optJSONArray config' "inbounds" = some (inboundsOf config') := by
    rw [optJSONArray_eq_some,inboundsOf,h.newInbounds]
    rfl
  have hinbound : (inboundsOf config').getD i .undefined = .obj inbound := by
    rw [h.inboundsOf_eq,getD_of_lt (by simpa using h.lt),List.getElem_set_self]
  have hport : getInt (.num (port : ℚ)) = some (port : ℤ) := by simp [getInt]
  have hsettings : optJSONObject inbound "settings" = some settings := by
    rw [optJSONObject,h.newSettings]
  have haccounts : optJSONArray settings "accounts" = some (.obj account::rest) :=
    optJSONArray_eq_some.mpr h.newAccounts
  simp only [socksAccess,hitems,Option.bind_some,findSocksInboundIndex_eq,h.first_after,hinbound,
    Json.toObject_obj,h.newPort,hport,hsettings,haccounts]

lemma optString_of_toString {v : Json} (h : v.toString ≠ "") : optString v = v.toString := by
  cases v with
  | str s => rfl
  | _ => exact absurd rfl h

/-- The credentials for tun2socks are those of the first SOCKS inbound. -/
def AccessOfFirst (config : JsonObject) : Prop :=
  ∀ i, indexOfSocksInbound (inboundsOf config) = some i →
    socksAccess config = some (getInboundCredentials config)

lemma accessOfFirst_of_patched {config config' : JsonObject} {i port : ℕ}
    {inbound settings account : JsonObject} {rest : List Json}
    (h : Patched config config' i port inbound settings (.arr (.obj account::rest)))
    (hlt : port < 65536) (haccount : HasAccount (.arr (.obj account::rest))) :
    AccessOfFirst config' := by
  intro i' _
  rw [socksAccess_of_patched h,h.credentials hlt]
  have huser : userOf account = _ := optString_of_toString haccount.1
  have hpass : passOf account = _ := optString_of_toString haccount.2
  rw [huser,hpass]
  rfl

end Xray
end Android

namespace Inbounds

open Android.Xray

/-- A document after `EnsureInboundAuth` or `ensureInboundAuth`. -/
structure Protected (config config' : JsonObject) (used : Prop) : Prop where
  authenticated : AllAuthenticated config'
  credentials : used
  framed : Framed config config'

lemma framed_refl (config : JsonObject) : Framed config config := ⟨fun _ _ => rfl,.inl rfl⟩

lemma allAuthenticated_of_none {config : JsonObject}
    (h : indexOfSocksInbound (inboundsOf config) = none) : AllAuthenticated config := by
  intro inbound hmem hsocks
  have hnot := List.findIdx?_eq_none_iff.mp h inbound hmem
  rw [IsSocks,hnot] at hsocks
  exact absurd hsocks (by decide)

/-- All SOCKS inbounds are protected afterwards exactly if those after the first one are protected
before, and, on Android, if the first account is not taken for one because of values that are no
texts. -/
theorem socks_inbounds_protected_iff [JsonNumbers] {supply : Supply} (hgen : Generated supply)
    (config config' : JsonObject) :
    (∀ creds, ensureInboundAuth supply config = some (config',creds) →
      (Protected config config' (creds = getInboundCredentials config') ↔
        LaterAuthenticated config)) ∧
    (Android.Xray.ensureInboundAuth supply config = some config' →
      (Protected config config' (AccessOfFirst config') ↔
        LaterAuthenticated config ∧ FirstAccountText config)) := by
  cases hindex : indexOfSocksInbound (inboundsOf config) with
  | none =>
    have hlater : LaterAuthenticated config := by
      intro i hi
      rw [hindex] at hi
      exact absurd hi (by simp)
    have hfirst : FirstAccountText config := by
      intro i hi
      rw [hindex] at hi
      exact absurd hi (by simp)
    constructor
    · intro creds h
      obtain ⟨rfl,rfl⟩ := ensureInboundAuth_of_none hindex h
      exact iff_of_true ⟨allAuthenticated_of_none hindex,rfl,framed_refl _⟩ hlater
    · intro h
      obtain rfl := ensureInboundAuth_of_no_socks hindex h
      refine iff_of_true ⟨allAuthenticated_of_none hindex,?_,framed_refl _⟩ ⟨hlater,hfirst⟩
      intro i hi
      rw [hindex] at hi
      exact absurd hi (by simp)
  | some i =>
    constructor
    · intro creds h
      obtain ⟨port,inbound,settings,accounts,hpatched,haccount,hcreds⟩ :=
        ensureInboundAuth_patched hgen hindex h
      have hall := hpatched.allAuthenticated_iff
      constructor
      · intro hprotected
        exact (hall.mp hprotected.authenticated).1
      · intro hlater
        exact ⟨hall.mpr ⟨hlater,haccount⟩,hcreds,hpatched.framed⟩
    · intro h
      obtain ⟨port,inbound,settings,account,rest,hpatched,hlt,-,haccount⟩ :=
        ensureInboundAuth_socks hgen hindex h
      have hall := hpatched.allAuthenticated_iff
      rw [← haccount]
      constructor
      · intro hprotected
        exact hall.mp hprotected.authenticated
      · intro hboth
        exact ⟨hall.mpr hboth,accessOfFirst_of_patched hpatched hlt hboth.2,hpatched.framed⟩

def sampleSupply : Supply :=
  ⟨some 20000,hexText (List.replicate 8 0xab),hexText (List.replicate 16 0xcd)⟩

lemma generated_sampleSupply : Generated sampleSupply where
  username := ⟨List.replicate 8 0xab,rfl,rfl⟩
  password := ⟨List.replicate 16 0xcd,rfl,rfl⟩
  port port h := by
    cases h
    decide

def socksInbound (fields : JsonObject) : Json := .obj (("protocol",.str "SOCKS")::fields)

def oneInbound : JsonObject := [("inbounds",.arr [socksInbound []])]

/-- The second proxy listens on another port. -/
def twoInbounds : JsonObject :=
  [("inbounds",.arr [socksInbound [],socksInbound [("port",.num 1080)]])]

def nullAccount : JsonObject :=
  [("inbounds",.arr [socksInbound [("settings",.obj [("accounts",
    .arr [.obj [("user",.null),("pass",.null)]])])]])]

lemma laterAuthenticated_oneInbound : LaterAuthenticated oneInbound := by
  intro i _ j hj inbound hinbound
  have hnone : (inboundsOf oneInbound)[j]? = none := by
    rw [List.getElem?_eq_none_iff]
    exact Nat.succ_le_of_lt (Nat.zero_lt_of_lt hj)
  rw [hnone] at hinbound
  exact absurd hinbound (by simp)

lemma firstAccountText_oneInbound : @FirstAccountText XrayConfig.integerNumbers oneInbound := by
  intro i hi account rest haccounts
  have hfirst : indexOfSocksInbound (inboundsOf oneInbound) = some 0 := by decide
  obtain rfl : 0 = i := Option.some.inj (hfirst.symm.trans hi)
  have hnone : (settingsOf ((inboundsOf oneInbound).getD 0 .undefined)).value "accounts" =
      .undefined := rfl
  rw [hnone] at haccounts
  exact absurd haccounts (by simp)

/-- A document with one SOCKS inbound is protected on both platforms. -/
theorem single_inbound_protected :
    (∃ config creds, ensureInboundAuth sampleSupply oneInbound = some (config,creds) ∧
      Protected oneInbound config (creds = getInboundCredentials config)) ∧
    ∃ config, @Android.Xray.ensureInboundAuth XrayConfig.integerNumbers sampleSupply oneInbound =
        some config ∧
      Protected oneInbound config (@AccessOfFirst XrayConfig.integerNumbers config) := by
  constructor
  · refine ⟨_,_,rfl,?_⟩
    exact ((@socks_inbounds_protected_iff XrayConfig.integerNumbers _ generated_sampleSupply
      oneInbound _).1 _ rfl).mpr laterAuthenticated_oneInbound
  · refine ⟨_,rfl,?_⟩
    exact ((@socks_inbounds_protected_iff XrayConfig.integerNumbers _ generated_sampleSupply
      oneInbound _).2 rfl).mpr ⟨laterAuthenticated_oneInbound,firstAccountText_oneInbound⟩

/-- A second SOCKS inbound is left without a password, and on Android an account of null values
is kept. -/
theorem second_inbound_open :
    (∃ config creds, ensureInboundAuth sampleSupply twoInbounds = some (config,creds) ∧
      ¬AllAuthenticated config) ∧
    (∃ config, @Android.Xray.ensureInboundAuth XrayConfig.integerNumbers sampleSupply twoInbounds =
      some config ∧ ¬AllAuthenticated config) ∧
    ∃ config, @Android.Xray.ensureInboundAuth XrayConfig.integerNumbers sampleSupply nullAccount =
      some config ∧ ¬AllAuthenticated config := by
  refine ⟨⟨_,_,rfl,?_⟩,⟨_,rfl,?_⟩,_,rfl,?_⟩
  · intro hall
    have hopen := hall (socksInbound [("port",.num 1080)]) (List.mem_of_getElem? (i := 1) rfl)
      (by decide)
    exact hopen.2.1 rfl
  · intro hall
    have hopen := hall (socksInbound [("port",.num 1080)]) (List.mem_of_getElem? (i := 1) rfl)
      (by decide)
    exact hopen.2.1 rfl
  · intro hall
    have hopen := hall _ (List.mem_cons_self) (by decide)
    exact hopen.2.1 rfl

end Inbounds
end AlzheimerVPN
