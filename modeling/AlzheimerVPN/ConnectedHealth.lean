import AlzheimerVPN.FailureReport

/-! What is published while a connection with legacy routing is set up. Each step publishes
what it is about to do before its call and a problem if the call fails. -/
namespace AlzheimerVPN.Lifecycle

open Reentrancy Connection List

/-- What the service replies to the calls of one set-up, in the order of the calls. -/
structure Replies where
  reached : Bool
  flushDns : Bool
  firstHalf : Bool
  secondHalf : Bool
  serverRoute : Bool
  dnsRoutes : Bool
  configured : Bool
  sitesReached : Bool
  siteRoutes : Bool
  allowedRange : Bool
  deriving DecidableEq, Repr

namespace Replies

variable (r : Replies) (settings : Settings)

/-- The replies `addSitesRoutes` waits for. -/
def sites (mode : RouteMode) : List Bool :=
  if settings.sitesWithRoutes.contains mode then
    r.sitesReached::if r.sitesReached then
      r.siteRoutes::if mode == .vpnAllExceptSites && settings.isKillSwitchEnabled then
        [r.allowedRange] else []
    else []
  else []

/-- The second half is not waited for if the first has failed. -/
def halves : List Bool := r.firstHalf::if r.firstHalf then [r.secondHalf] else []

def exceptions : List Bool :=
  r.halves++[r.serverRoute,r.dnsRoutes,r.configured]++r.sites settings .vpnAllExceptSites

def legacyRoutes : List Bool :=
  r.flushDns::if settings.isSitesSplitTunnelingEnabled then
    match settings.routeMode with
    | .vpnAllExceptSites => r.exceptions settings
    | .vpnOnlyForwardSites | .vpnAllSites => []
  else [r.configured]

/-- The replies the handling of `Connected` waits for. -/
def connected : List Bool := r.reached::if r.reached then r.legacyRoutes settings else []

/-- Those of the single shot that routes the forwarded sites. -/
def forwarded : List Bool := r.configured::r.sites settings .vpnOnlyForwardSites

end Replies

def answers (replies : List Bool) : List Answer := replies.map fun reply => ⟨reply,.noError⟩

/-- No progress is published after a problem; the latest comes first. -/
def Unhidden (published : List ConnectionHealth) : Prop :=
  published.Pairwise fun later earlier =>
    connectionHealthProblem earlier → connectionHealthProblem later

/-- How far a set-up has got: whether what has been published is unhidden, whether a problem
is among it, and whether a single shot has been armed for the site routes. -/
structure Flags where
  unhidden : Bool
  problem : Bool
  armed : Bool
  deriving DecidableEq, Repr

/-- The connection in the middle of its set-up from `s` on. -/
structure Shows (s : Connection) (settings : Settings) (flags : Flags) (t : Connection) :
    Prop where
  state : t.connectionState = .connected
  settings : t.settings = some settings
  log : ∃ published : List ConnectionHealth,
    t.emitted = published.map .connectionHealthChanged++s.emitted ∧
    (Unhidden published ↔ flags.unhidden) ∧
    published.any connectionHealthProblem = flags.problem
  published : connectionHealthProblem t.connectionHealth → flags.problem
  shown : flags.unhidden → flags.problem → connectionHealthProblem t.connectionHealth
  timers : flags.armed → t.siteRouteTimers ≠ 0

section

variable {s t : Connection} {settings : Settings} {flags : Flags}

lemma unhidden_cons {health : ConnectionHealth} {published : List ConnectionHealth} :
    Unhidden (health::published) ↔ Unhidden published ∧
      (connectionHealthProblem health ∨ published.any connectionHealthProblem = false) := by
  rw [Unhidden,pairwise_cons,and_comm]
  refine and_congr_right fun _ => ?_
  cases connectionHealthProblem health with
  | true => simp
  | false => simp

lemma setConnectionHealth_connected (ht : t.connectionState = .connected)
    (health : ConnectionHealth) : t.setConnectionHealth health =
      if t.connectionHealth ≠ health then t.publish health else t := by
  simp [setConnectionHealth,shouldPublishConnectionHealth,ht]

/-- The flags after a value is published. -/
def Flags.publish (flags : Flags) (health : ConnectionHealth) : Flags :=
  {flags with
    unhidden := flags.unhidden && (connectionHealthProblem health || !flags.problem),
    problem := flags.problem || connectionHealthProblem health}

lemma Shows.publish (h : Shows s settings flags t) (health : ConnectionHealth) :
    Shows s settings (flags.publish health) (t.setConnectionHealth health) := by
  obtain ⟨published,hemitted,hunhidden,hproblem⟩ := h.log
  rw [setConnectionHealth_connected h.state]
  split
  · refine ⟨h.state,h.settings,⟨health::published,congrArg _ hemitted,?_,?_⟩,?_,?_,h.timers⟩
    · rw [unhidden_cons,hunhidden,hproblem]
      simp [Flags.publish]
    · simp [Flags.publish,hproblem,Bool.or_comm]
    · intro hp
      have hp' : connectionHealthProblem health := hp
      simp [Flags.publish,hp']
    · intro hu hp
      change connectionHealthProblem health
      cases hh : connectionHealthProblem health with
      | true => rfl
      | false => simp_all [Flags.publish]
  · rename_i heq
    have hhealth : t.connectionHealth = health := not_not.mp heq
    have hpublished := h.published
    have hshown := h.shown
    rw [hhealth] at hpublished hshown
    have hsame : flags.publish health = flags := by
      obtain ⟨unhidden,problem,armed⟩ := flags
      cases unhidden <;> cases problem <;> simp_all [Flags.publish]
    exact hsame.symm ▸ h

lemma Shows.of_log {u : Connection} (h : Shows s settings flags t)
    (hstate : u.connectionState = t.connectionState) (hsettings : u.settings = t.settings)
    (hhealth : u.connectionHealth = t.connectionHealth) (hemitted : u.emitted = t.emitted)
    (htimers : u.siteRouteTimers = t.siteRouteTimers) : Shows s settings flags u :=
  ⟨hstate.trans h.state,hsettings.trans h.settings,hemitted ▸ h.log,hhealth ▸ h.published,
    hhealth ▸ h.shown,htimers ▸ h.timers⟩

end

section

variable {s : Connection} {settings : Settings} {a b c : Flags} {p q : Slot Unit}
  {replies rest : List Bool}

/-- With these replies the slot leads from one pair of flags to another. -/
def Leads (s : Connection) (settings : Settings) (p : Slot Unit) (replies : List Bool)
    (a b : Flags) : Prop :=
  ∀ t, Shows s settings a t → ∃ u, p.Follows (answers replies) t () u ∧ Shows s settings b u

lemma Leads.bind (hp : Leads s settings p replies a b) (hq : Leads s settings q rest b c) :
    Leads s settings (p >>= fun _ => q) (replies++rest) a c := by
  intro t ht
  obtain ⟨u,hu,hu'⟩ := hp t ht
  obtain ⟨v,hv,hv'⟩ := hq u hu'
  refine ⟨v,?_,hv'⟩
  rw [answers,map_append]
  exact hu.bind hv

/-- A step that waits for nothing comes first. -/
lemma Leads.seq (hp : Leads s settings p [] a b) (hq : Leads s settings q replies b c) :
    Leads s settings (p >>= fun _ => q) replies a c := hp.bind hq

lemma leads_pure : Leads s settings (pure ()) [] a a := fun t ht => ⟨t,rfl,ht⟩

lemma leads_read {f : Connection → Slot Unit}
    (hf : ∀ t, t.settings = some settings → Leads s settings (f t) replies a b) :
    Leads s settings (read >>= f) replies a b := fun t ht => hf t ht.settings t ht

lemma leads_ipc {f : Bool → Slot Unit} {reply : Bool}
    (hf : Leads s settings (f reply) replies a b) :
    Leads s settings (ipc >>= f) (reply::replies) a b := hf

/-- The flags after some progress is published: what it follows is hidden if it is a
problem. -/
def progressed (a : Flags) : Flags := {a with unhidden := a.unhidden && !a.problem}

/-- The flags after the reply to a call. -/
def replied (reply : Bool) (a : Flags) : Flags := {a with problem := a.problem || !reply}

lemma leads_progress (health : ConnectionHealth) (hh : connectionHealthProblem health = false) :
    Leads s settings (update (·.setConnectionHealth health)) [] a (progressed a) := by
  intro t ht
  refine ⟨_,rfl,?_⟩
  simpa [progressed,Flags.publish,hh] using ht.publish health

lemma leads_failure (health : ConnectionHealth) (hh : connectionHealthProblem health)
    (reply : Bool) :
    Leads s settings (when (!reply) (update (·.setConnectionHealth health))) [] a
      (replied reply a) := by
  intro t ht
  cases reply with
  | true => exact ⟨t,rfl,by simpa [replied] using ht⟩
  | false => exact ⟨_,rfl,by simpa [replied,Flags.publish,hh] using ht.publish health⟩

lemma leads_dereference : Leads s settings dereference [] a a := by
  intro t ht
  refine ⟨_,rfl,?_⟩
  dsimp only
  split
  · exact ht.of_log rfl rfl rfl rfl rfl
  · exact ht

end

namespace Replies

variable (r : Replies) (settings : Settings) (a : Flags)

/-- The flags after the steps that wait for `sites`, `exceptions`, `legacyRoutes` and
`connected`. -/
def afterSites (mode : RouteMode) : Flags :=
  if settings.sitesWithRoutes.contains mode then
    if r.sitesReached then
      if mode == .vpnAllExceptSites && settings.isKillSwitchEnabled then
        replied r.allowedRange (progressed (replied r.siteRoutes (progressed a)))
      else replied r.siteRoutes (progressed a)
    else progressed a
  else a

def afterExceptions : Flags :=
  r.afterSites settings (progressed (replied r.dnsRoutes (progressed (replied r.serverRoute
    (replied (r.firstHalf && r.secondHalf) (progressed a)))))) .vpnAllExceptSites

def afterLegacyRoutes : Flags :=
  let a := replied r.flushDns (progressed a)
  if settings.isSitesSplitTunnelingEnabled then
    match settings.routeMode with
    | .vpnAllExceptSites => r.afterExceptions settings a
    | .vpnOnlyForwardSites => {a with armed := true}
    | .vpnAllSites => a
  else progressed a

def afterConnected : Flags := if r.reached then r.afterLegacyRoutes settings a else a

end Replies

section

variable {s : Connection} {settings : Settings} (hlegacy : settings.legacyRouting)
  (r : Replies) (a : Flags)

include hlegacy in
lemma configureDnsSplitTunnel_leads (reply : Bool) :
    Leads s settings configureDnsSplitTunnel [reply] a (progressed a) := by
  refine leads_read fun t ht => ?_
  rw [ht]
  dsimp only
  rw [if_pos hlegacy]
  exact (leads_progress .checkingDns rfl).seq (leads_ipc leads_pure)

include hlegacy in
lemma addSitesRoutes_leads (mode : RouteMode) :
    Leads s settings (addSitesRoutes mode) (r.sites settings mode) a
      (r.afterSites settings a mode) := by
  refine leads_read fun t ht => ?_
  rw [ht,Replies.sites,Replies.afterSites]
  dsimp only
  rw [hlegacy,Bool.true_and]
  split
  · refine (leads_progress .applyingRoutes rfl).seq (leads_ipc ?_)
    split
    · refine leads_ipc ((leads_failure .routeMismatch rfl _).seq (leads_read fun t ht => ?_))
      rw [ht,Option.any_some]
      split
      · exact (leads_progress .checkingFirewall rfl).seq
          (leads_ipc (leads_failure .firewallBlocked rfl _))
      · exact leads_pure
    · exact leads_pure
  · exact leads_pure

lemma addHalves_leads {f : Bool → Slot Unit} {rest : List Bool} {b : Flags}
    (hf : Leads s settings (f (r.firstHalf && r.secondHalf)) rest a b) :
    Leads s settings (addHalves >>= f) (r.halves++rest) a b := by
  intro t ht
  obtain ⟨u,hu,hu'⟩ := hf t ht
  refine ⟨u,?_,hu'⟩
  rw [Replies.halves]
  cases hfirst : r.firstHalf with
  | false =>
    rw [hfirst] at hu
    exact hu
  | true =>
    rw [hfirst] at hu
    exact hu

include hlegacy in
lemma addExceptionRoutes_leads :
    Leads s settings addExceptionRoutes (r.exceptions settings) a (r.afterExceptions settings a) := by
  rw [Replies.exceptions,append_assoc]
  refine (leads_progress .applyingRoutes rfl).seq (leads_dereference.seq ?_)
  refine addHalves_leads r _ ((leads_failure .routeMismatch rfl _).seq (leads_dereference.seq ?_))
  refine leads_ipc ((leads_failure .routeMismatch rfl _).seq ?_)
  refine (leads_progress .checkingDns rfl).seq (leads_dereference.seq ?_)
  refine leads_ipc ((leads_failure .dnsFailed rfl _).seq (leads_dereference.seq ?_))
  refine (configureDnsSplitTunnel_leads hlegacy _ r.configured).bind (leads_dereference.seq ?_)
  exact addSitesRoutes_leads hlegacy r _ _

lemma leads_arm : Leads s settings
    (update fun s => s.setSiteRouteTimers (s.siteRouteTimers+1)) [] a {a with armed := true} :=
  fun _ ht => ⟨_,rfl,{ ht with timers := fun _ => Nat.succ_ne_zero _ }⟩

include hlegacy in
lemma addLegacyRoutes_leads (known : Settings) :
    Leads s settings (addLegacyRoutes known) (r.legacyRoutes settings) a
      (r.afterLegacyRoutes settings a) := by
  rw [Replies.legacyRoutes,Replies.afterLegacyRoutes]
  refine (leads_progress .checkingDns rfl).seq (leads_ipc ((leads_failure .dnsFailed rfl _).seq ?_))
  refine leads_read fun _ ht => ?_
  rw [ht,Option.getD_some]
  dsimp only
  refine Leads.seq (b := replied r.flushDns (progressed a)) ?_ ?_
  · rw [when]
    split
    · exact leads_dereference
    · exact leads_pure
  · split
    · refine leads_dereference.seq ?_
      cases settings.routeMode with
      | vpnOnlyForwardSites => exact leads_arm _
      | vpnAllExceptSites => exact addExceptionRoutes_leads hlegacy r _
      | vpnAllSites => exact leads_pure
    · exact configureDnsSplitTunnel_leads hlegacy _ _

include hlegacy in
lemma legacyRouting_leads : Leads s settings (legacyRouting .connected) (r.connected settings) a
      (r.afterConnected settings a) := by
  refine leads_read fun t ht => ?_
  rw [ht,Replies.connected,Replies.afterConnected]
  dsimp only
  rw [if_pos hlegacy]
  refine leads_ipc ?_
  split
  · exact addLegacyRoutes_leads hlegacy r a settings
  · exact leads_pure

/-- The health check shows progress only if no problem is shown. -/
lemma startConnectedHealthCheck_leads :
    Leads s settings (update (·.startConnectedHealthCheck)) [] a a := by
  intro t ht
  refine ⟨_,rfl,?_⟩
  have hchecking : Shows s settings a t.reportChecking := by
    rw [reportChecking]
    split
    · exact ht
    · rename_i hp
      have hsame : a.publish .checkingTraffic = a := by
        have hshown := ht.shown
        obtain ⟨unhidden,problem,armed⟩ := a
        cases unhidden <;> cases problem <;> simp_all [Flags.publish,connectionHealthProblem]
      exact hsame ▸ ht.publish .checkingTraffic
  exact hchecking.of_log rfl rfl rfl rfl rfl

end

/-- The calls that some progress follows have all succeeded: the flush of the DNS cache, and
for a connection that excludes sites the routes up to those of the DNS servers, and those
of the sites if the firewall comes after them. -/
def Untroubled (settings : Settings) (r : Replies) : Prop :=
  r.reached →
    (settings.isSitesSplitTunnelingEnabled = false → r.flushDns) ∧
    (settings.isSitesSplitTunnelingEnabled → settings.routeMode = .vpnAllExceptSites →
      (r.flushDns ∧ r.firstHalf ∧ r.secondHalf ∧ r.serverRoute ∧ r.dnsRoutes) ∧
      (settings.sitesWithRoutes.contains .vpnAllExceptSites → r.sitesReached →
        settings.isKillSwitchEnabled → r.siteRoutes))

/-- The single shot for the forwarded sites is armed. -/
def Arms (settings : Settings) (r : Replies) : Prop :=
  r.reached ∧ settings.isSitesSplitTunnelingEnabled ∧ settings.routeMode = .vpnOnlyForwardSites

section

variable {s t : Connection} {settings : Settings}

/-- The routes up to those of the DNS servers, and the progress that follows them. -/
lemma progressed_dnsRoutes (flush halves server dns : Bool) :
    progressed (replied dns (progressed (replied server (replied halves (progressed
      (replied flush (progressed ⟨true,false,false⟩))))))) =
    ⟨flush && halves && server && dns,!(flush && halves && server && dns),false⟩ := by
  cases flush <;> cases halves <;> cases server <;> cases dns <;> rfl

lemma afterSites_unhidden_iff (settings : Settings) (r : Replies) (good : Bool) :
    (r.afterSites settings ⟨good,!good,false⟩ .vpnAllExceptSites).unhidden ↔
      good ∧ (settings.sitesWithRoutes.contains .vpnAllExceptSites →
        r.sitesReached → settings.isKillSwitchEnabled → r.siteRoutes) := by
  rw [Replies.afterSites]
  cases settings.sitesWithRoutes.contains .vpnAllExceptSites with
  | false => simp
  | true =>
    cases r.sitesReached <;> cases settings.isKillSwitchEnabled <;> cases good <;>
      simp [replied,progressed]

lemma afterConnected_unhidden_iff (settings : Settings) (r : Replies) :
    (r.afterConnected settings ⟨true,false,false⟩).unhidden ↔ Untroubled settings r := by
  rw [Replies.afterConnected,Replies.afterLegacyRoutes,Untroubled]
  cases r.reached with
  | false => simp
  | true =>
    cases settings.isSitesSplitTunnelingEnabled with
    | false => simp [replied,progressed]
    | true =>
      cases settings.routeMode with
      | vpnAllExceptSites =>
        simp only [Replies.afterExceptions,progressed_dnsRoutes,if_true,afterSites_unhidden_iff]
        simp [and_assoc]
      | _ => simp [replied,progressed]

lemma enterState_shows (hs : s.connectionState = .connected)
    (hsettings : s.settings = some settings) :
    Shows s settings ⟨true,false,false⟩ (s.enterState .connected) := by
  rw [enterState,setConnectionHealth_connected (t := s.stopConnectingWatchdog) hs]
  split
  · refine ⟨hs,hsettings,⟨[.applyingRoutes],rfl,by simp [Unhidden],rfl⟩,?_,?_,?_⟩
    · exact fun h => h
    · exact fun _ h => by cases h
    · exact fun h => by cases h
  · rename_i heq
    have hhealth : s.connectionHealth = .applyingRoutes := not_not.mp heq
    refine ⟨hs,hsettings,⟨[],rfl,by simp [Unhidden],rfl⟩,?_,?_,?_⟩
    · intro h
      have h' : connectionHealthProblem s.connectionHealth := h
      simp [hhealth,connectionHealthProblem] at h'
    · exact fun _ h => by cases h
    · exact fun h => by cases h

lemma onConnectionStateChanged_shows (hs : s.connectionState = .connected)
    (hsettings : s.settings = some settings) (hlegacy : settings.legacyRouting) (r : Replies) :
    ∃ t, (onConnectionStateChanged .connected).Follows (answers (r.connected settings)) s () t ∧
      Shows s settings (r.afterConnected settings ⟨true,false,false⟩) t := by
  have hrest := (legacyRouting_leads hlegacy r ⟨true,false,false⟩).bind
    (startConnectedHealthCheck_leads (s := s) _)
  rw [append_nil] at hrest
  exact hrest _ (enterState_shows hs hsettings)

/-- The single shot publishes progress before its first call. -/
lemma onSiteRouteTimer_shows {flags : Flags} (hlegacy : settings.legacyRouting)
    (ht : Shows s settings flags t) (harmed : flags.armed) (r : Replies) :
    ∃ u, onSiteRouteTimer.Follows (answers (r.forwarded settings)) t () u ∧
      Shows s settings (r.afterSites settings (progressed {flags with armed := false})
        .vpnOnlyForwardSites) u := by
  have htimers := ht.timers harmed
  have hrest := (leads_dereference (s := s)).seq ((configureDnsSplitTunnel_leads hlegacy
    {flags with armed := false} r.configured).bind (leads_dereference.seq
      (addSitesRoutes_leads hlegacy r _ .vpnOnlyForwardSites)))
  obtain ⟨u,hu,hu'⟩ := hrest (t.setSiteRouteTimers (t.siteRouteTimers-1))
    { ht with timers := fun h => by cases h }
  refine ⟨u,?_,hu'⟩
  rw [Handler.Follows,onSiteRouteTimer,bind_apply,read_apply,done_bind,if_pos htimers]
  exact hu

lemma afterForwarded_unhidden_iff (settings : Settings) (r : Replies) (h : Arms settings r) :
    (r.afterConnected settings ⟨true,false,false⟩).armed ∧
    ((r.afterSites settings (progressed {r.afterConnected settings ⟨true,false,false⟩ with
      armed := false}) .vpnOnlyForwardSites).unhidden ↔ r.flushDns) := by
  obtain ⟨hreached,hsplit,hmode⟩ := h
  rw [Replies.afterConnected,Replies.afterLegacyRoutes,hreached,hsplit,hmode]
  refine ⟨rfl,?_⟩
  rw [Replies.afterSites]
  cases settings.sitesWithRoutes.contains .vpnOnlyForwardSites <;> cases r.sitesReached <;>
    cases r.flushDns <;> simp [replied,progressed]

end

/-- While a connection with legacy routing is set up, no progress is published after a
problem exactly if the calls that some progress follows all succeed. With the single shot
for the forwarded sites counted in, this takes the flush of the DNS cache as well. -/
theorem setup_failure_shown_iff (s : Connection) (settings : Settings)
    (hs : s.connectionState = .connected) (hsettings : s.settings = some settings)
    (hlegacy : settings.legacyRouting) (r : Replies) :
    ∃ published t,
      (onConnectionStateChanged .connected).Follows (answers (r.connected settings)) s () t ∧
      t.emitted = published.map .connectionHealthChanged++s.emitted ∧
      (Unhidden published ↔ Untroubled settings r) ∧
      (Arms settings r → ∃ published u,
        onSiteRouteTimer.Follows (answers (r.forwarded settings)) t () u ∧
        u.emitted = published.map .connectionHealthChanged++s.emitted ∧
        (Unhidden published ↔ r.flushDns)) := by
  obtain ⟨t,hfollows,ht⟩ := onConnectionStateChanged_shows hs hsettings hlegacy r
  obtain ⟨published,hemitted,hunhidden,-⟩ := ht.log
  refine ⟨published,t,hfollows,hemitted,
    hunhidden.trans (afterConnected_unhidden_iff settings r),fun harms => ?_⟩
  obtain ⟨harmed,hflush⟩ := afterForwarded_unhidden_iff settings r harms
  obtain ⟨u,hfollows',hu⟩ := onSiteRouteTimer_shows hlegacy ht harmed r
  obtain ⟨published',hemitted',hunhidden',-⟩ := hu.log
  exact ⟨published',u,hfollows',hemitted',hunhidden'.trans hflush⟩

/-- A service that does everything it is asked for. -/
def allSucceed : Replies := ⟨true,true,true,true,true,true,true,true,true,true⟩

def exceptSettings : Settings :=
  {xraySettings with isSitesSplitTunnelingEnabled := true,routeMode := .vpnAllExceptSites,
                     sitesWithRoutes := [.vpnAllExceptSites]}

theorem successful_setup_shown : ∃ published t,
    (onConnectionStateChanged .connected).Follows (answers (allSucceed.connected exceptSettings))
      ((initial (some exceptSettings)).setState .connected) () t ∧
    t.emitted = published.map .connectionHealthChanged ∧ Unhidden published := by
  obtain ⟨published,t,hfollows,hemitted,hunhidden,-⟩ := setup_failure_shown_iff
    ((initial (some exceptSettings)).setState .connected) exceptSettings rfl rfl rfl allSucceed
  refine ⟨published,t,hfollows,hemitted.trans (append_nil _),hunhidden.mpr ?_⟩
  simp [Untroubled,allSucceed]

/-- An Xray connection comes up, and the DNS cache cannot be flushed. -/
def flushFailure : List (Input Event Answer) :=
  attempt .xray++[.dispatch (.protocolStateChanged .connected .noError),success,
    .answer ⟨false,.noError⟩,success]

/-- The failure is published and followed by progress, which is all that is left to see. -/
theorem flush_failure_hidden :
    (Runs.run step (start (some xraySettings)) flushFailure).stack.length = 0 ∧
    (Runs.run step (start (some xraySettings)) flushFailure).state.emitted.take 4 =
      [.connectionStateChanged .connected,.connectionHealthChanged .checkingTraffic,
        .connectionHealthChanged .checkingDns,.connectionHealthChanged .dnsFailed] ∧
    (Runs.run step (start (some xraySettings)) flushFailure).state.connectionHealth =
      .checkingTraffic := by
  decide

end AlzheimerVPN.Lifecycle
