import AlzheimerVPN.DnsMessageParser
import AlzheimerVPN.Search
import AlzheimerVPN.SplitTunnelRule

/-! `DnsSplitRouteObserver`: queries of local clients are passed on to the upstream
servers under an id of their own, and the first answer goes back to the client. A
datagram is an event; what the observer writes or emits is an output. -/
namespace AlzheimerVPN

open DnsMessageParser Search

namespace SplitTunnelRule

/-- What a host text is reduced to before it is split at its slashes. -/
def reducedText [Qt] (text : String) : String :=
  Text.replaceText (Text.replaceText (Text.replaceText (Qt.toLower (Text.trimmed text))
    "https://" "") "http://" "") "ftp://" ""

lemma hostParts_eq_nil_iff [Qt] (text : String) :
    hostParts text = [] ↔ ∀ c ∈ (reducedText text).toList, c = '/' :=
  Text.splitSkipEmpty_eq_nil_iff (reducedText text) '/'

/-- `matchesHost` with its only fault: a host without parts has no first part. -/
def matchesHost? [Qt] (rule : SplitTunnelRule) (host : String) : Option Bool :=
  if (hostParts host).isEmpty then none else some (rule.matchesHost host)

end SplitTunnelRule

structure PendingQuery where
  clientAddress : HostAddress
  clientPort : UInt16
  originalId : UInt16
  host : String
  requestKey : Bytes
  matched : Bool
  deriving DecidableEq

structure DnsSplitRouteObserver where
  /-- Both sockets are bound; they are bound and closed together. -/
  isActive : Bool
  upstreamServers : List HostAddress
  matchedUpstreamServers : List HostAddress
  rules : List SplitTunnelRule
  pendingQueries : UInt16 → Option PendingQuery
  /-- The id that was given last. -/
  lastQueryId : UInt16

namespace DnsSplitRouteObserver

section

variable (message : Bytes)

def messageId : UInt16 :=
  if message.length < 2 then 0 else readUint16 message 0

variable (id : UInt16)

def setMessageId : Bytes :=
  match message with
  | _::_::rest => UInt8.ofNat (id.toNat/256)::UInt8.ofNat (id.toNat%256)::rest
  | _ => message

lemma messageId_setMessageId {message : Bytes} (h : 2 ≤ message.length) (id : UInt16) :
    messageId (setMessageId message id) = id := by
  obtain ⟨b,c,rest,rfl⟩ : ∃ b c rest, message = b::c::rest := by
    match message, h with
    | b::c::rest, _ => exact ⟨b,c,rest,rfl⟩
  have hid : id.toNat < 65536 := id.toNat_lt
  have hread : readUint16 (setMessageId (b::c::rest) id) 0 = id := by
    refine UInt16.toNat_inj.mp ?_
    rw [readUint16,UInt16.toNat_ofNat']
    simp only [readUint8,setMessageId,List.getD_cons_zero,List.getD_cons_succ,UInt8.toNat_ofNat']
    omega
  rw [messageId,if_neg (by simp [setMessageId]),hread]

@[simp] lemma setMessageId_setMessageId (a b : UInt16) :
    setMessageId (setMessageId message a) b = setMessageId message b := by
  match message with
  | [] => rfl
  | [_] => rfl
  | _::_::_ => rfl

@[simp] lemma drop_setMessageId : (setMessageId message id).drop 2 = message.drop 2 := by
  match message with
  | [] => rfl
  | [_] => rfl
  | _::_::_ => rfl

@[simp] lemma length_setMessageId : (setMessageId message id).length = message.length := by
  match message with
  | [] => rfl
  | [_] => rfl
  | _::_::_ => rfl

lemma two_le_of_messageId_ne_zero {message : Bytes} (h : messageId message ≠ 0) :
    2 ≤ message.length := by
  by_contra hn
  exact h (if_pos (by omega))

/-- The id after the given one; zero is left out. -/
def increment : UInt16 := if id+1 = 0 then id+1+1 else id+1

lemma toNat_increment : (increment id).toNat = id.toNat%65535+1 := by
  have hid : id.toNat < 65536 := id.toNat_lt
  rw [increment]
  split_ifs with hz
  · have hzero : (id.toNat+1)%65536 = 0 := by simpa using congrArg UInt16.toNat hz
    have hlast : id.toNat = 65535 := by omega
    simp [hlast]
  · have hne : (id.toNat+1)%65536 ≠ 0 := by
      intro he
      exact hz (UInt16.toNat_inj.mp (by simpa using he))
    have hstep : (id+1).toNat = (id.toNat+1)%65536 := by simp
    rw [hstep]
    omega

lemma toNat_iterate_increment (k : ℕ) : (increment^[k+1] id).toNat = (id.toNat+k)%65535+1 := by
  induction k with
  | zero => exact toNat_increment id
  | succ k ih =>
    rw [Function.iterate_succ_apply',toNat_increment,ih]
    omega

lemma iterate_increment_ne_zero (k : ℕ) : increment^[k+1] id ≠ 0 := by
  intro h
  have hz := toNat_iterate_increment id k
  rw [h] at hz
  simp at hz

/-- Every id but zero comes up within one round. -/
lemma exists_iterate_increment {x : UInt16} (hx : x ≠ 0) :
    ∃ k < 65535, increment^[k+1] id = x := by
  have hid : id.toNat < 65536 := id.toNat_lt
  have hxn : x.toNat < 65536 := x.toNat_lt
  have hpos : x.toNat ≠ 0 := fun h => hx (UInt16.toNat_inj.mp (by simpa using h))
  refine ⟨(x.toNat+131069-id.toNat)%65535,by omega,UInt16.toNat_inj.mp ?_⟩
  rw [toNat_iterate_increment]
  omega

end

/-- What a call can fail with: the first part of no parts is taken, or a loop never ends. -/
inductive Fault
  | emptyFirst | hang
  deriving DecidableEq, Repr

inductive Output
  | forward (datagram : Bytes) (server : HostAddress)
  /-- Written to the client of the pending query. -/
  | reply (datagram : Bytes) (pending : PendingQuery)
  | hostResolved (host : String) (answers : List DnsIpv4Answer)
  deriving DecidableEq

/-- The observer after an event, what it has put out and the fault that stopped it. -/
structure Outcome where
  observer : DnsSplitRouteObserver
  outputs : List Output
  fault : Option Fault

inductive Event
  | setRules (rules : List String)
  | start (upstreamServers matchedUpstreamServers : List HostAddress) (bound : Bool)
  | stop
  | client (address : HostAddress) (port : UInt16) (request : Bytes)
  | upstream (response : Bytes)

def initial : DnsSplitRouteObserver where
  isActive := false
  upstreamServers := []
  matchedUpstreamServers := []
  rules := []
  pendingQueries _ := none
  lastQueryId := 1

variable (s : DnsSplitRouteObserver)

section

variable [Qt]

def setRules (rules : List String) : Outcome :=
  if rules.any fun text => (SplitTunnelRule.hostParts text).isEmpty then ⟨s,[],some .emptyFirst⟩
  else
    ⟨{ s with rules := (rules.map SplitTunnelRule.fromText).filter fun rule =>
        rule.isValid && rule.type ≠ .ipSubnet },[],none⟩

omit [Qt]

/-- Ids go on being given from where they were. -/
def stop : DnsSplitRouteObserver :=
  { s with
    isActive := false
    upstreamServers := []
    matchedUpstreamServers := []
    pendingQueries := fun _ => none }

def localHost : HostAddress := .ipv4 0x7f000001

def appendUsableServers (servers : List HostAddress) : List HostAddress :=
  (servers.filter fun server => server.isIPv4 && server ≠ localHost).eraseDups

/-- `bound` says whether both sockets could be bound. -/
def start (upstreamServers matchedUpstreamServers : List HostAddress) (bound : Bool) :
    DnsSplitRouteObserver :=
  let stopped := { s.stop with
    upstreamServers := appendUsableServers upstreamServers
    matchedUpstreamServers := appendUsableServers matchedUpstreamServers }
  if stopped.rules.isEmpty || stopped.upstreamServers.isEmpty then stopped
  else if !bound then s.stop
  else { stopped with isActive := true }

end

section

/-- The loop runs at most `fuel` times here; a round over all ids takes 65535. -/
def nextQueryId (fuel : ℕ) : Option UInt16 :=
  search increment (fun id => (s.pendingQueries id).isSome) fuel s.lastQueryId

/-- The request goes to the servers one after the other, each time under a new id. -/
def forwardTo (request : Bytes) (pending : PendingQuery) :
    List HostAddress → DnsSplitRouteObserver → Outcome
  | [], s => ⟨s,[],none⟩
  | server::servers, s =>
    match s.nextQueryId 65535 with
    | none => ⟨s,[],some .hang⟩
    | some id =>
      let outcome := forwardTo request pending servers { s with
        lastQueryId := id
        pendingQueries := Function.update s.pendingQueries id (some pending) }
      { outcome with outputs := .forward (setMessageId request id) server::outcome.outputs }

variable [Qt]

def matchesAny (host : String) : List SplitTunnelRule → Option Bool
  | [] => some false
  | rule::rules =>
    (rule.matchesHost? host).bind fun found => if found then some true else matchesAny host rules

def matchesRules (host : String) : Option Bool := matchesAny host s.rules

def readClientDatagram (address : HostAddress) (port : UInt16) (request : Bytes) : Outcome :=
  let host := queryHost request
  if host.isEmpty || s.upstreamServers.isEmpty then ⟨s,[],none⟩
  else
    match s.matchesRules host with
    | none => ⟨s,[],some .emptyFirst⟩
    | some matched =>
      forwardTo request {
          clientAddress := address
          clientPort := port
          originalId := messageId request
          host := host
          requestKey := setMessageId request 0
          matched := matched }
        (if matched && !s.matchedUpstreamServers.isEmpty then s.matchedUpstreamServers
          else s.upstreamServers) s

end

/-- The two were sent for one query of a client. -/
def sameQuery (other pending : PendingQuery) : Bool :=
  other.originalId == pending.originalId && other.clientAddress == pending.clientAddress &&
    other.clientPort == pending.clientPort && other.requestKey == pending.requestKey

def readUpstreamDatagram (response : Bytes) : Outcome :=
  match s.pendingQueries (messageId response) with
  | none => ⟨s,[],none⟩
  | some pending =>
    let answers := responseIpv4Answers response
    ⟨{ s with pendingQueries := fun id =>
        if id = messageId response then none
        else (s.pendingQueries id).filter fun other => !sameQuery other pending },
      (if pending.matched && !answers.isEmpty then [.hostResolved pending.host answers] else [])++
        [.reply (setMessageId response pending.originalId) pending],none⟩

section

lemma forwardTo_fault (request : Bytes) (pending : PendingQuery) (servers : List HostAddress) :
    (forwardTo request pending servers s).fault ≠ some .emptyFirst := by
  induction servers generalizing s with
  | nil => simp [forwardTo]
  | cons server servers ih =>
    rw [forwardTo]
    split
    · simp
    · exact ih _

variable [Qt]

/-- The rules are asked for a host exactly when there are any. -/
lemma matchesAny_eq_none_iff (host : String) (rules : List SplitTunnelRule) :
    matchesAny host rules = none ↔ rules ≠ [] ∧ SplitTunnelRule.hostParts host = [] := by
  cases hp : SplitTunnelRule.hostParts host with
  | nil => cases rules <;> simp [matchesAny,SplitTunnelRule.matchesHost?,hp]
  | cons part parts =>
    have hsome : matchesAny host rules ≠ none := by
      induction rules with
      | nil => simp [matchesAny]
      | cons rule rules ih =>
        rw [matchesAny,SplitTunnelRule.matchesHost?,hp]
        cases rule.matchesHost host
        · simpa using ih
        · simp
    simp [hsome]

/-- A query is handled without a fault of its name exactly when the name is not taken to the
rules or has a character besides slashes once it is reduced. -/
theorem query_name_handled_iff (address : HostAddress) (port : UInt16) (request : Bytes) :
    (s.readClientDatagram address port request).fault ≠ some .emptyFirst ↔
      queryHost request = "" ∨ s.upstreamServers = [] ∨ s.rules = [] ∨
        ∃ c ∈ (SplitTunnelRule.reducedText (queryHost request)).toList, c ≠ '/' := by
  have hparts : SplitTunnelRule.hostParts (queryHost request) ≠ [] ↔
      ∃ c ∈ (SplitTunnelRule.reducedText (queryHost request)).toList, c ≠ '/' := by
    rw [Ne,SplitTunnelRule.hostParts_eq_nil_iff]
    push Not
    rfl
  rw [← hparts,readClientDatagram]
  by_cases hskip : ((queryHost request).isEmpty || s.upstreamServers.isEmpty)
  · have hor : queryHost request = "" ∨ s.upstreamServers = [] := by
      simpa using hskip
    simp only [hskip,if_true]
    simpa using hor.elim Or.inl fun h => Or.inr (Or.inl h)
  · have hhost : queryHost request ≠ "" := fun h => hskip (by simp [h])
    have hservers : s.upstreamServers ≠ [] := fun h => hskip (by simp [h])
    have hnone := matchesAny_eq_none_iff (queryHost request) s.rules
    simp only [hskip,Bool.false_eq_true,if_false,hhost,hservers,false_or]
    cases hm : s.matchesRules (queryHost request) with
    | none =>
      obtain ⟨hrules,hempty⟩ := hnone.mp hm
      simp [hrules,hempty]
    | some matched =>
      have hnot : ¬(s.rules ≠ [] ∧ SplitTunnelRule.hostParts (queryHost request) = []) := by
        rw [← hnone]
        rw [matchesRules] at hm
        simp [hm]
      have hor : s.rules = [] ∨ SplitTunnelRule.hostParts (queryHost request) ≠ [] := by
        by_cases hr : s.rules = []
        · exact Or.inl hr
        · exact Or.inr fun h => hnot ⟨hr,h⟩
      simpa only [hor,iff_true] using forwardTo_fault s request _ _

omit [Qt] in
/-- An observer started with one rule and one upstream server. -/
def sample : DnsSplitRouteObserver :=
  (@setRules initial dottedQt ["a.ru"]).observer.start [.ipv4 0x01010101] [] true

/-- A query for one label. -/
def labelQuery (label : Bytes) : Bytes :=
  [0,7,1,0,0,1,0,0,0,0,0,0,UInt8.ofNat label.length]++label++[0,0,1,0,1]

omit [Qt] in
/-- A name that is a slash. -/
theorem slash_name_breaks :
    (@readClientDatagram sample dottedQt (.ipv4 0x7f000001) 5000 (labelQuery [0x2f])).fault =
      some .emptyFirst := by
  decide +kernel

end

/-- Datagrams come in only while the sockets are bound. -/
def handle [Qt] : Event → Outcome
  | .setRules rules => s.setRules rules
  | .start upstreamServers matchedUpstreamServers bound =>
    ⟨s.start upstreamServers matchedUpstreamServers bound,[],none⟩
  | .stop => ⟨s.stop,[],none⟩
  | .client address port request =>
    if s.isActive then s.readClientDatagram address port request else ⟨s,[],none⟩
  | .upstream response => if s.isActive then s.readUpstreamDatagram response else ⟨s,[],none⟩

end DnsSplitRouteObserver
end AlzheimerVPN
