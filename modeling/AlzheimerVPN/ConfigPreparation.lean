import AlzheimerVPN.ConnectionLifecycle

/-! The way from a click on the connect button to `openConnectionRequested`: the click
starts the preparation of a configuration, whose result opens the connection, beside the
watchdog of the preparation. The captcha is left out, and so are the signals that only
show a message. -/
namespace AlzheimerVPN.ConfigPreparation

open Runs List
open Lifecycle (ConnectionState)

/-- A preparation whose result is to come. The result does not carry the number of the
click or the server; they are kept for what is proved. -/
structure Preparation where
  click : ℕ
  server : String
  isSubscription : Bool
  deriving DecidableEq, Repr

/-- What has happened, each time with the number of the click it belongs to. -/
inductive Action
  | started (click : ℕ) (server : String)
  | succeeded (click : ℕ)
  | gaveUp (click : ℕ)
  | opened (click : ℕ) (server : String)
  deriving DecidableEq, Repr

def Action.click : Action → ℕ
  | .started click _ | .succeeded click | .gaveUp click | .opened click _ => click

/-- The controllers of the user interface; the latest action comes first. -/
structure Client where
  state : ConnectionState
  isConnectionInProgress : Bool
  isConnected : Bool
  preparingWatchdog : Bool
  defaultServerId : String
  isValidatingConfig : Bool
  preparations : List Preparation
  clicks : ℕ
  actions : List Action
  deriving DecidableEq, Repr

namespace Client

def initial (defaultServerId : String) : Client where
  state := .disconnected
  isConnectionInProgress := false
  isConnected := false
  preparingWatchdog := false
  defaultServerId := defaultServerId
  isValidatingConfig := false
  preparations := []
  clicks := 0
  actions := []

variable (s : Client)

def onConnectionStateChanged (state : ConnectionState) : Client :=
  { s with
    state := state
    preparingWatchdog := state == .preparing
    isConnected := state == .connected
    isConnectionInProgress := state == .connecting || state == .reconnecting ||
      state == .disconnecting || state == .preparing }

def record (action : Action) : Client := {s with actions := action::s.actions}

/-- The default server is looked up again; `prepared` is whether `prepareConnection`
succeeds. -/
def openConnection (click : ℕ) (prepared : Bool) : Client :=
  if s.defaultServerId.isEmpty then s.onConnectionStateChanged .disconnected
  else if !prepared then s
  else s.record (.opened click s.defaultServerId)

/-- The handlers of `configValidated`. -/
def configValidated (click : ℕ) (isValid prepared : Bool) : Client :=
  if !isValid then s.onConnectionStateChanged .disconnected
  else (s.record (.succeeded click)).openConnection click prepared

/-- A preparation of the default server begins. -/
def begin (isSubscription : Bool) : Client :=
  { s.record (.started s.clicks s.defaultServerId) with
    preparations := ⟨s.clicks,s.defaultServerId,isSubscription⟩::s.preparations }

/-- `InstallUiController::validateConfig` -/
def validateInstalled : Client :=
  if s.defaultServerId.isEmpty then s.configValidated s.clicks false true
  else s.begin false

/-- `SubscriptionUiController::validateConfig`; a configuration that needs no refresh, or
for which no request can be made, is answered at once. -/
def validateSubscription (answer : Option Bool) (prepared : Bool) : Client :=
  if s.defaultServerId.isEmpty then s.configValidated s.clicks false true
  else if s.isValidatingConfig then s
  else
    match answer with
    | some isValid =>
      (s.record (.started s.clicks s.defaultServerId)).configValidated s.clicks isValid prepared
    | none => {s.begin true with isValidatingConfig := true}

/-- The handler of `prepareConfig`. -/
def prepareConfig (isSubscription : String → Bool) (answer : Option Bool) (prepared : Bool) :
    Client :=
  let s := s.onConnectionStateChanged .preparing
  if s.defaultServerId.isEmpty then s.onConnectionStateChanged .disconnected
  else if isSubscription s.defaultServerId then s.validateSubscription answer prepared
  else s.validateInstalled

/-- `closeConnection` changes nothing here until the connection reports it. -/
def toggleConnection (isSubscription : String → Bool) (supported : Bool) (answer : Option Bool)
    (prepared : Bool) : Client :=
  let s := {s with clicks := s.clicks+1}
  if s.state == .preparing then s
  else if s.isConnectionInProgress then s
  else if s.isConnected then s
  else if s.defaultServerId.isEmpty then s
  else if !supported then s
  else s.prepareConfig isSubscription answer prepared

/-- A result is told the handlers of its kind, and nothing else of it. -/
def finish (p : Preparation) (isValid prepared : Bool) : Client :=
  { s with
    preparations := s.preparations.erase p
    isValidatingConfig := !p.isSubscription && s.isValidatingConfig }.configValidated p.click
      isValid prepared

def onPreparingTimedOut : Client :=
  if s.preparingWatchdog then
    if s.state == .preparing then
      { s.onConnectionStateChanged .disconnected with
        actions := s.preparations.map (fun p => .gaveUp p.click)++s.actions }
    else {s with preparingWatchdog := false}
  else s

end Client

inductive Event
  | click (supported : Bool) (answer : Option Bool) (prepared : Bool)
  | setDefaultServer (serverId : String)
  | result (p : Preparation) (isValid prepared : Bool)
  | preparingWatchdog
  | connectionStateChanged (state : ConnectionState)
  deriving DecidableEq, Repr

variable (isSubscription : String → Bool)

/-- A result is that of a preparation under way. -/
def step (s : Client) : Event → Client
  | .click supported answer prepared => s.toggleConnection isSubscription supported answer prepared
  | .setDefaultServer serverId => {s with defaultServerId := serverId}
  | .result p isValid prepared => if p ∈ s.preparations then s.finish p isValid prepared else s
  | .preparingWatchdog => s.onPreparingTimedOut
  | .connectionStateChanged state => s.onConnectionStateChanged state

/-- The opening of a connection is due: the preparation that the click began for this
server has succeeded and was not given up, and nothing was opened for it yet. -/
structure Due (click : ℕ) (server : String) (earlier : List Action) : Prop where
  started : .started click server ∈ earlier
  succeeded : .succeeded click ∈ earlier
  gaveUp : .gaveUp click ∉ earlier
  opened : ∀ other, .opened click other ∉ earlier

/-- A connection is opened only for the preparation the user waits for. -/
def Awaited (actions : List Action) : Prop :=
  ∀ later click server earlier, actions = later++.opened click server::earlier →
    Due click server earlier

section

variable {action : Action} {actions : List Action}

lemma awaited_cons (h : Awaited actions)
    (hopened : ∀ click server, action = .opened click server → Due click server actions) :
    Awaited (action::actions) := by
  intro later click server earlier heq
  cases later with
  | nil =>
    obtain ⟨rfl,rfl⟩ := List.cons.inj heq
    exact hopened click server rfl
  | cons first later => exact h later click server earlier (List.cons.inj heq).2

lemma not_awaited {later earlier : List Action} {click : ℕ} {server : String}
    (heq : actions = later++.opened click server::earlier)
    (h : .started click server ∉ earlier ∨ .gaveUp click ∈ earlier) : ¬Awaited actions := by
  intro hawaited
  have hdue := hawaited later click server earlier heq
  rcases h with h | h
  · exact h hdue.started
  · exact hdue.gaveUp h

end

/-- The log of the actions fits the preparations under way. -/
structure Sound (s : Client) : Prop where
  awaited : Awaited s.actions
  bounded : ∀ action ∈ s.actions, action.click ≤ s.clicks
  started : ∀ p ∈ s.preparations, .started p.click p.server ∈ s.actions
  unopened : ∀ p ∈ s.preparations, ∀ server, .opened p.click server ∉ s.actions
  distinct : (s.preparations.map Preparation.click).Nodup

section

variable {s : Client}

lemma Sound.onConnectionStateChanged (h : Sound s) (state : ConnectionState) :
    Sound (s.onConnectionStateChanged state) :=
  { h with }

/-- An action of a click that is not an opening. -/
lemma Sound.record (h : Sound s) {action : Action} (hclick : action.click ≤ s.clicks)
    (hopened : ∀ click server, action ≠ .opened click server) : Sound (s.record action) where
  awaited := awaited_cons h.awaited fun click server heq => absurd heq (hopened click server)
  bounded := by
    intro other hother
    rcases mem_cons.mp hother with rfl | hother
    · exact hclick
    · exact h.bounded other hother
  started p hp := mem_cons_of_mem action (h.started p hp)
  unopened := by
    intro p hp server hmem
    rcases mem_cons.mp hmem with heq | hmem
    · exact hopened p.click server heq.symm
    · exact h.unopened p hp server hmem
  distinct := h.distinct

lemma Sound.opened (h : Sound s) {click : ℕ} {server : String}
    (hdue : Due click server s.actions) (hother : ∀ p ∈ s.preparations, p.click ≠ click) :
    Sound (s.record (.opened click server)) where
  awaited := awaited_cons h.awaited fun _ _ heq => by
    obtain ⟨rfl,rfl⟩ := Action.opened.inj heq
    exact hdue
  bounded := by
    intro other hmem
    rcases mem_cons.mp hmem with rfl | hmem
    · exact h.bounded (.started click server) hdue.started
    · exact h.bounded other hmem
  started p hp := mem_cons_of_mem _ (h.started p hp)
  unopened := by
    intro p hp other hmem
    rcases mem_cons.mp hmem with heq | hmem
    · exact hother p hp (Action.opened.inj heq).1
    · exact h.unopened p hp other hmem
  distinct := h.distinct

/-- A valid configuration may be told for a click that began the preparation of what is
now the default server. -/
lemma Sound.configValidated (h : Sound s) {click : ℕ} {isValid : Bool} (prepared : Bool)
    (hother : ∀ p ∈ s.preparations, p.click ≠ click)
    (hopened : ∀ server, .opened click server ∉ s.actions)
    (hvalid : isValid → .started click s.defaultServerId ∈ s.actions ∧
      .gaveUp click ∉ s.actions) : Sound (s.configValidated click isValid prepared) := by
  cases isValid with
  | false => exact h.onConnectionStateChanged .disconnected
  | true =>
    obtain ⟨hstarted,hgaveUp⟩ := hvalid rfl
    have hrecorded : Sound (s.record (.succeeded click)) :=
      h.record (h.bounded (.started click s.defaultServerId) hstarted) (by simp)
    have hdue : Due click s.defaultServerId (s.record (.succeeded click)).actions :=
      ⟨by simp [Client.record,hstarted],by simp [Client.record],by simp [Client.record,hgaveUp],
        fun server => by simp [Client.record,hopened]⟩
    simp only [Client.configValidated,Client.openConnection,Bool.not_true,Bool.false_eq_true,
      if_false]
    split_ifs
    · exact hrecorded.onConnectionStateChanged .disconnected
    · exact hrecorded
    · exact hrecorded.opened hdue hother

section

variable (h : Sound s) (hfresh : ∀ action ∈ s.actions, action.click < s.clicks)

include h hfresh in
lemma preparation_click_lt {p : Preparation} (hp : p ∈ s.preparations) : p.click < s.clicks :=
  hfresh _ (h.started p hp)

include h hfresh in
lemma Sound.begin (isSubscription : Bool) : Sound (s.begin isSubscription) := by
  have hrecorded : Sound (s.record (.started s.clicks s.defaultServerId)) :=
    h.record le_rfl (by simp)
  have hne {p : Preparation} (hp : p ∈ s.preparations) : p.click ≠ s.clicks :=
    (preparation_click_lt h hfresh hp).ne
  refine ⟨hrecorded.awaited,hrecorded.bounded,?_,?_,?_⟩
  · intro p hp
    rcases mem_cons.mp hp with rfl | hp
    · exact mem_cons_self
    · exact hrecorded.started p hp
  · intro p hp
    rcases mem_cons.mp hp with rfl | hp
    · intro server hmem
      rcases mem_cons.mp hmem with heq | hmem
      · cases heq
      · exact (hfresh _ hmem).ne rfl
    · exact hrecorded.unopened p hp
  · refine nodup_cons.mpr ⟨fun hmem => ?_,h.distinct⟩
    obtain ⟨p,hp,heq⟩ := mem_map.mp hmem
    exact hne hp heq

include h hfresh in
lemma Sound.validateSubscription (answer : Option Bool) (prepared : Bool) :
    Sound (s.validateSubscription answer prepared) := by
  unfold Client.validateSubscription
  split_ifs
  · exact h.onConnectionStateChanged .disconnected
  · exact h
  · cases answer with
    | some isValid =>
      have hrecorded : Sound (s.record (.started s.clicks s.defaultServerId)) :=
        h.record le_rfl (by simp)
      have hnone (action : Action) (hclick : action.click = s.clicks) : action ∉ s.actions :=
        fun hmem => (hfresh action hmem).ne hclick
      refine hrecorded.configValidated prepared ?_ ?_ fun _ => ?_
      · exact fun p hp => (preparation_click_lt h hfresh hp).ne
      · exact fun server => by simp [Client.record,hnone (.opened s.clicks server) rfl]
      · exact ⟨by simp [Client.record],by simp [Client.record,hnone (.gaveUp s.clicks) rfl]⟩
    | none =>
      have hbegun := h.begin hfresh true
      exact { hbegun with }

include h hfresh in
lemma Sound.validateInstalled : Sound s.validateInstalled := by
  rw [Client.validateInstalled]
  split_ifs
  · exact h.onConnectionStateChanged .disconnected
  · exact h.begin hfresh false

end

lemma Sound.toggleConnection (h : Sound s) (isSubscription : String → Bool) (supported : Bool)
    (answer : Option Bool) (prepared : Bool) :
    Sound (s.toggleConnection isSubscription supported answer prepared) := by
  have hfresh : ∀ action ∈ s.actions, action.click < s.clicks+1 :=
    fun action hmem => Nat.lt_succ_of_le (h.bounded action hmem)
  have hclicked : Sound {s with clicks := s.clicks+1} :=
    ⟨h.awaited,fun action hmem => (hfresh action hmem).le,h.started,h.unopened,h.distinct⟩
  have hpreparing := hclicked.onConnectionStateChanged .preparing
  simp only [Client.toggleConnection,Client.prepareConfig]
  split_ifs
  · exact hclicked
  · exact hclicked
  · exact hclicked
  · exact hclicked
  · exact hclicked
  · exact hpreparing.onConnectionStateChanged .disconnected
  · exact hpreparing.validateSubscription hfresh answer prepared
  · exact hpreparing.validateInstalled hfresh

lemma Sound.finish (h : Sound s) {p : Preparation} (hp : p ∈ s.preparations) {isValid : Bool}
    (prepared : Bool) (hvalid : isValid → p.server = s.defaultServerId ∧
      .gaveUp p.click ∉ s.actions) : Sound (s.finish p isValid prepared) := by
  have hsub : (s.preparations.erase p).Sublist s.preparations := erase_sublist
  have herased : Sound { s with
      preparations := s.preparations.erase p
      isValidatingConfig := !p.isSubscription && s.isValidatingConfig } :=
    ⟨h.awaited,h.bounded,fun q hq => h.started q (hsub.mem hq),
      fun q hq => h.unopened q (hsub.mem hq),(hsub.map Preparation.click).nodup h.distinct⟩
  refine herased.configValidated prepared ?_ (h.unopened p hp) fun hv => ?_
  · intro q hq heq
    have hnodup : s.preparations.Nodup := h.distinct.of_map
    obtain ⟨hne,hq⟩ := hnodup.mem_erase_iff.mp hq
    exact hne (inj_on_of_nodup_map h.distinct hq hp heq)
  · obtain ⟨hserver,hgaveUp⟩ := hvalid hv
    exact ⟨hserver ▸ h.started p hp,hgaveUp⟩

lemma Sound.onPreparingTimedOut (h : Sound s) : Sound s.onPreparingTimedOut := by
  rw [Client.onPreparingTimedOut]
  split_ifs
  · have hgaveUp {action : Action}
        (hmem : action ∈ s.preparations.map fun p => Action.gaveUp p.click) :
        ∃ p ∈ s.preparations, action = .gaveUp p.click := by
      obtain ⟨p,hp,heq⟩ := mem_map.mp hmem
      exact ⟨p,hp,heq.symm⟩
    refine ⟨?_,?_,?_,?_,h.distinct⟩
    · generalize s.preparations = given
      induction given with
      | nil => exact h.awaited
      | cons p given ih => exact awaited_cons ih fun _ _ heq => by cases heq
    · intro action hmem
      rcases mem_append.mp hmem with hmem | hmem
      · obtain ⟨p,hp,rfl⟩ := hgaveUp hmem
        exact h.bounded (.started p.click p.server) (h.started p hp)
      · exact h.bounded action hmem
    · exact fun p hp => mem_append_right _ (h.started p hp)
    · intro p hp server hmem
      rcases mem_append.mp hmem with hmem | hmem
      · obtain ⟨q,-,heq⟩ := hgaveUp hmem
        cases heq
      · exact h.unopened p hp server hmem
  · exact { h with }
  · exact h

end

/-- A success comes in time: the watchdog has not given the preparation up, and the server
that was prepared is still the default one. -/
def InTime (s : Client) : Event → Prop
  | .result p true _ => .gaveUp p.click ∉ s.actions ∧ p.server = s.defaultServerId
  | _ => True

instance (s : Client) (e : Event) : Decidable (InTime s e) := by
  unfold InTime
  split <;> infer_instance

lemma step_sound (s : Client) (e : Event) (h : Sound s)
    (he : InTime s e) : Sound (step isSubscription s e) := by
  cases e with
  | click supported answer prepared =>
    exact h.toggleConnection isSubscription supported answer prepared
  | setDefaultServer serverId =>
    exact { h with }
  | result p isValid prepared =>
    rw [step]
    split_ifs with hp
    · refine h.finish hp prepared ?_
      rintro rfl
      exact ⟨he.2,he.1⟩
    · exact h
  | preparingWatchdog => exact h.onPreparingTimedOut
  | connectionStateChanged state => exact h.onConnectionStateChanged state

/-- In a run in which every success comes in time a connection is opened only for the
preparation the user waits for. -/
theorem opened_connection_awaited (defaultServerId : String)
    (inputs : List Event)
    (h : Guarded (step isSubscription) InTime (.initial defaultServerId) inputs) :
    Always (step isSubscription) (fun s => Awaited s.actions) (.initial defaultServerId)
      inputs := by
  intro pre hpre
  have hg : Guarded (step isSubscription) InTime (.initial defaultServerId) pre :=
    fun before i hi => h before i (hi.trans hpre)
  have hinitial : Sound (.initial defaultServerId) :=
    ⟨fun later click server earlier heq => by simp [Client.initial] at heq,
      by simp [Client.initial],by simp [Client.initial],by simp [Client.initial],nodup_nil⟩
  exact (run_invariant (step_sound isSubscription) hinitial hg).awaited

def noSubscription (_ : String) : Bool := false

def allSubscriptions (_ : String) : Bool := true

/-- A click, whose preparation takes its time. -/
abbrev clicked : Event := .click true none true

/-- A preparation is given up and fails later; the next one, for another server, comes in
time. -/
def secondTry : List Event :=
  [clicked,.preparingWatchdog,.result ⟨1,"server",false⟩ false true,.setDefaultServer "other",
    clicked,.result ⟨2,"other",false⟩ true true,.connectionStateChanged .connecting]

theorem second_try_awaited : Guarded (step noSubscription) InTime (.initial "server") secondTry ∧
      (run (step noSubscription) (.initial "server") secondTry).actions =
        [.opened 2 "other",.succeeded 2,.started 2 "other",.gaveUp 1,.started 1 "server"] ∧
      Always (step noSubscription) (fun s => Awaited s.actions) (.initial "server") secondTry := by
  have hintime : Guarded (step noSubscription) InTime (.initial "server") secondTry := by
    decide +kernel
  exact ⟨hintime,by decide +kernel,opened_connection_awaited _ _ _ hintime⟩

/-- The subscription is refreshed after the watchdog has given it up. -/
def lateSuccess : List Event :=
  [clicked,.preparingWatchdog,.result ⟨1,"server",true⟩ true true]

/-- Another server is chosen while the first is prepared. -/
def changedServer : List Event :=
  [clicked,.setDefaultServer "other",.result ⟨1,"server",false⟩ true true]

theorem late_or_changed_not_awaited :
    (¬Awaited (run (step allSubscriptions) (.initial "server") lateSuccess).actions) ∧
      ¬Awaited (run (step noSubscription) (.initial "server") changedServer).actions := by
  have hlate : (run (step allSubscriptions) (.initial "server") lateSuccess).actions =
      []++.opened 1 "server"::[.succeeded 1,.gaveUp 1,.started 1 "server"] := by decide +kernel
  have hchanged : (run (step noSubscription) (.initial "server") changedServer).actions =
      []++.opened 1 "other"::[.succeeded 1,.started 1 "server"] := by decide +kernel
  exact ⟨not_awaited hlate (.inr (by decide)),not_awaited hchanged (.inl (by decide))⟩

end AlzheimerVPN.ConfigPreparation
