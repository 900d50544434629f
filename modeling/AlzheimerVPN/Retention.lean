import AlzheimerVPN.Leases
import AlzheimerVPN.Runs

/-! What the router has learned is kept for the session and goes with its rules:
leases and lookups belong to the rules of the last configuration, and no other
event than a configuration with other rules takes an address away. -/
namespace AlzheimerVPN

open IpText Runs List

namespace Service

open RouterMac

variable [Qt] {s : Service}

def Event.IsConfigure : Event → Prop
  | .configureDnsSplitTunnel _ _ _ _ => True
  | _ => False

/-- The host whose addresses an event teaches the router. -/
def Learns (s : Service) : Event → String → Prop
  | .hostResolved host _ _, other => other = host
  | .lookupFinished generation host _ _, other =>
    generation = s.router.prewarm.generation ∧ other = host
  | _, _ => False

/-- Observed hosts have matched the rules of the observer, and a lookup has been started
before it finishes. -/
def Possible (s : Service) : Event → Prop
  | .hostResolved host _ _ => dnsSplitTunnelHostMatchesRules host s.router.observerRules
  | .lookupFinished generation host _ _ => (generation,host) ∈ s.lookups
  | _ => True

/-- Events that are not configurations, and configurations with the same gateway and the
same non-empty set of rules. -/
def SameSession (s : Service) : Event → Prop
  | .configureDnsSplitTunnel rules gw _ _ =>
    gw = s.router.gateway ∧ rules ≠ [] ∧ ∀ rule, rule ∈ rules ↔ rule ∈ s.router.observerRules
  | _ => True

lemma step_grows {e : Event} (he : ¬e.IsConfigure) (h : s.router.Kept) :
    Grows (s.Learns e) s.router (s.step e).router := by
  cases e with
  | configureDnsSplitTunnel rules gw killSwitchEnabled now => exact absurd trivial he
  | hostResolved host answers now => exact updateDnsSplitTunnelHostLeases_grows host _ now h
  | lookupFinished generation host addresses now =>
    exact finishDnsSplitTunnelPrewarmHost_grows
      (s := { s with lookups := s.lookups.erase (generation,host) }) generation host addresses now h
  | leaseTimeout =>
    exact ⟨{ h with },rfl,rfl,rfl,rfl,fun _ => id,fun hl => Or.inr ⟨_,hl⟩⟩
  | call call => exact Grows.refl _ h

lemma step_pumped {e : Event} (he : ¬e.IsConfigure) : Pumped s (s.step e) := by
  cases e with
  | configureDnsSplitTunnel rules gw killSwitchEnabled now => exact absurd trivial he
  | hostResolved host answers now =>
    obtain ⟨hp,hl⟩ := updateDnsSplitTunnelHostLeases_frame (s := s) host (printAnswers answers) now
    refine ⟨?_,?_,?_⟩
    · simp [step,hp]
    · simp [step,hp]
    · simp +contextual [step,hl]
  | lookupFinished generation host addresses now =>
    obtain ⟨hg,hq,hl⟩ := finishDnsSplitTunnelPrewarmHost_pumped
      (s := { s with lookups := s.lookups.erase (generation,host) }) generation host addresses now
    exact ⟨hg,hq,fun lookup hm => (hl lookup hm).imp mem_of_mem_erase id⟩
  | leaseTimeout => exact ⟨rfl,fun _ => id,fun _ => Or.inl⟩
  | call call => exact ⟨rfl,fun _ => id,fun _ => Or.inl⟩

lemma step_kept (s : Service) (e : Event) (h : s.router.Kept) : (s.step e).router.Kept := by
  by_cases he : e.IsConfigure
  · cases e with
    | configureDnsSplitTunnel rules gw killSwitchEnabled now =>
      exact (configureDnsSplitTunnel_grows rules gw killSwitchEnabled now h).kept
    | _ => exact absurd he id
  · exact (step_grows he h).kept

/-- Generations only grow, with each configuration. -/
lemma step_generation (s : Service) (e : Event) :
    s.router.prewarm.generation ≤ (s.step e).router.prewarm.generation ∧
      (e.IsConfigure → s.router.prewarm.generation < (s.step e).router.prewarm.generation) := by
  by_cases he : e.IsConfigure
  · cases e with
    | configureDnsSplitTunnel rules gw killSwitchEnabled now =>
      obtain ⟨prewarm,lookups,hs,hg,-⟩ :=
        configureDnsSplitTunnel_frame rules gw killSwitchEnabled now s
      have hgen : (s.step (.configureDnsSplitTunnel rules gw killSwitchEnabled
          now)).router.prewarm.generation = s.router.prewarm.generation+1 := by
        rw [step,hs]
        exact hg
      omega
    | _ => exact absurd he id
  · exact ⟨(step_pumped he).generation.ge,fun hc => absurd hc he⟩

/-- Leases and lookups belong to the current rules. -/
structure Matched (s : Service) : Prop where
  kept : s.router.Kept
  key : s.router.rulesKey = sortedRules s.router.observerRules
  leases : ∀ {host leases}, s.router.hostLeases.lookup host = some leases →
    dnsSplitTunnelHostMatchesRules host s.router.observerRules
  queue : ∀ host ∈ s.router.prewarm.queue,
    dnsSplitTunnelHostMatchesRules host s.router.observerRules
  lookups : ∀ lookup ∈ s.lookups, lookup.1 ≤ s.router.prewarm.generation ∧
    (lookup.1 = s.router.prewarm.generation →
      dnsSplitTunnelHostMatchesRules lookup.2 s.router.observerRules)

lemma fresh_matched (strict : Bool) : Matched (fresh strict) :=
  ⟨⟨by simp [fresh],by simp [fresh],by simp [fresh],by simp [fresh]⟩,rfl,by simp [fresh],
    by simp [fresh],by simp [fresh]⟩

lemma learns_matches {e : Event} {host : String} (h : s.Matched) (hp : s.Possible e)
    (hl : s.Learns e host) : dnsSplitTunnelHostMatchesRules host s.router.observerRules := by
  cases e with
  | hostResolved resolved answers now =>
    obtain rfl := hl
    exact hp
  | lookupFinished generation looked addresses now =>
    obtain ⟨hg,rfl⟩ := hl
    exact (h.lookups _ hp).2 hg
  | _ => exact absurd hl id

/-- The leases of a reconfigured router match the new rules. -/
lemma reconfigured_matches {rules : List String} {gw : String} {killSwitchEnabled : Bool}
    {host : String} {leases : Leases} (h : s.Matched)
    (hl : (s.reconfigured rules gw killSwitchEnabled).router.hostLeases.lookup host = some leases) :
    dnsSplitTunnelHostMatchesRules host rules := by
  cases hc : s.clears rules gw with
  | true => simp [hc] at hl
  | false =>
    obtain ⟨-,hkey,-⟩ := clears_eq_false hc
    rw [← dnsSplitTunnelHostMatchesRules_congr host (mem_of_sortedRules (h.key.symm.trans hkey))]
    exact h.leases (by simpa [hc] using hl)

/-- In a session no address is lost. -/
lemma step_retains {e : Event} (h : s.Matched) (he : s.SameSession e) {ip : String}
    (hip : ip ∈ s.router.ips) : ip ∈ (s.step e).router.ips := by
  by_cases hconf : e.IsConfigure
  · cases e with
    | configureDnsSplitTunnel rules gw killSwitchEnabled now =>
      obtain ⟨hgw,hrules,hset⟩ := he
      cases hc : s.clears rules gw with
      | false =>
        have hg := configureDnsSplitTunnel_grows rules gw killSwitchEnabled now h.kept
        exact hg.ips ip (by simpa [hc] using hip)
      | true =>
        obtain ⟨prewarm,lookups,hs,-⟩ :=
          configureDnsSplitTunnel_frame rules gw killSwitchEnabled now s
        have hmatch : ∀ {host leases}, s.router.hostLeases.lookup host = some leases →
            dnsSplitTunnelHostMatchesRules host rules := by
          intro host leases hl
          rw [dnsSplitTunnelHostMatchesRules_congr host hset]
          exact h.leases hl
        rw [step,hs]
        exact seedDnsSplitTunnelLeasesFromCache_regains h.kept hmatch hrules
          (by simp) (by simp [hgw]) (by simp [hc]) hip
    | _ => exact absurd hconf id
  · exact (step_grows hconf h.kept).ips ip hip

section

variable [LawfulQt]

lemma prewarmHosts_match {rules : List String} {host : String} (h : host ∈ prewarmHosts rules) :
    dnsSplitTunnelHostMatchesRules host rules := by
  simp only [prewarmHosts,mem_eraseDups,mem_filterMap] at h
  obtain ⟨rule,hrule,h⟩ := h
  split_ifs at h with hexact
  obtain ⟨hvalid,htype⟩ := Bool.and_eq_true_iff.mp hexact
  have hmatch := SplitTunnelRule.exactHost_matches (of_decide_eq_true htype) hvalid
  rw [Option.some.inj h] at hmatch
  exact any_eq_true.mpr ⟨rule,hrule,by simp [hvalid,hmatch]⟩

lemma configureDnsSplitTunnel_matched (rules : List String) (gw : String)
    (killSwitchEnabled : Bool) (now : ℤ) (h : s.Matched) :
    (s.configureDnsSplitTunnel rules gw killSwitchEnabled now).Matched := by
  have hg := configureDnsSplitTunnel_grows rules gw killSwitchEnabled now h.kept
  have hrules : (s.configureDnsSplitTunnel rules gw killSwitchEnabled
      now).router.observerRules = rules := hg.observerRules
  obtain ⟨prewarm,lookups,hs,hgen,hq,hl⟩ :=
    configureDnsSplitTunnel_frame rules gw killSwitchEnabled now s
  refine ⟨hg.kept,hg.rulesKey.trans (congrArg sortedRules hrules.symm),?_,?_,?_⟩
  · intro host leases hlease
    rw [hrules]
    rcases hg.hosts hlease with hm | ⟨old,ho⟩
    · exact hm
    · exact reconfigured_matches h ho
  · intro host hhost
    rw [hs] at hhost
    rw [hrules]
    exact prewarmHosts_match (hq host hhost)
  · intro lookup hlookup
    rw [hs] at hlookup
    rw [hrules,hs]
    change lookup.1 ≤ prewarm.generation ∧ (lookup.1 = prewarm.generation → _)
    rw [hgen]
    rcases hl lookup hlookup with hm | ⟨he,hm⟩
    · have hle := (h.lookups lookup hm).1
      exact ⟨by omega,fun heq => by omega⟩
    · exact ⟨he.le,fun _ => prewarmHosts_match hm⟩

omit [LawfulQt] in
/-- An event that teaches only hosts of the current rules keeps the invariant. -/
lemma Matched.of_grows {s' : Service} {allowed : String → Prop} (h : s.Matched)
    (hg : Grows allowed s.router s'.router) (hp : Pumped s s')
    (hallowed : ∀ host, allowed host →
      dnsSplitTunnelHostMatchesRules host s.router.observerRules) : s'.Matched := by
  refine ⟨hg.kept,?_,?_,?_,?_⟩
  · rw [hg.rulesKey,hg.observerRules,h.key]
  · intro host leases hl
    rw [hg.observerRules]
    rcases hg.hosts hl with hm | ⟨old,ho⟩
    · exact hallowed host hm
    · exact h.leases ho
  · intro host hm
    rw [hg.observerRules]
    exact h.queue host (hp.queue host hm)
  · intro lookup hm
    rw [hg.observerRules,hp.generation]
    rcases hp.lookups lookup hm with hm | ⟨he,hm⟩
    · exact h.lookups lookup hm
    · exact ⟨he.le,fun _ => h.queue _ hm⟩

lemma step_matched (s : Service) (e : Event) (h : s.Matched) (hp : s.Possible e) :
    (s.step e).Matched := by
  by_cases he : e.IsConfigure
  · cases e with
    | configureDnsSplitTunnel rules gw killSwitchEnabled now =>
      exact configureDnsSplitTunnel_matched rules gw killSwitchEnabled now h
    | _ => exact absurd he id
  · exact h.of_grows (step_grows he h.kept) (step_pumped he) fun host hl => learns_matches h hp hl

variable {events : List Event}

lemma run_matched {strict : Bool} (h : Runs.Guarded step Possible (fresh strict) events) :
    (run step (fresh strict) events).Matched :=
  run_invariant step_matched (fresh_matched strict) h

/-- In a session addresses are only added. -/
lemma run_retains {events : List Event} (h : s.Matched)
    (hpossible : Runs.Guarded step Possible s events)
    (hsame : Runs.Guarded step SameSession s events) {ip : String} (hip : ip ∈ s.router.ips) :
    ip ∈ (run step s events).router.ips := by
  have hstep : ∀ (s : Service) (e : Event), s.Matched ∧ ip ∈ s.router.ips →
      s.Possible e ∧ s.SameSession e → (s.step e).Matched ∧ ip ∈ (s.step e).router.ips := by
    rintro s e ⟨hm,hip⟩ ⟨hp,hs⟩
    exact ⟨step_matched s e hm hp,step_retains hm hs hip⟩
  have hg : Runs.Guarded step (fun s e => s.Possible e ∧ s.SameSession e) s events :=
    fun pre e hpre => ⟨hpossible pre e hpre,hsame pre e hpre⟩
  exact (run_invariant hstep ⟨h,hip⟩ hg).2

omit [LawfulQt] in
/-- Between configurations the rules of the observer stay. -/
lemma run_observerRules {rules : List String} (h : s.router.Kept)
    (hrules : s.router.observerRules = rules) (hconf : ∀ e ∈ events, ¬e.IsConfigure) :
    (run step s events).router.observerRules = rules := by
  have hstep : ∀ (s : Service) (e : Event), s.router.Kept ∧ s.router.observerRules = rules →
      ¬e.IsConfigure → (s.step e).router.Kept ∧ (s.step e).router.observerRules = rules := by
    rintro s e ⟨hk,hr⟩ he
    have hg := step_grows he hk
    exact ⟨hg.kept,hg.observerRules.trans hr⟩
  exact (run_invariant_of_forall hstep ⟨h,hrules⟩ hconf).2

omit [LawfulQt] in
/-- After a configuration the lookups that were under way before it change nothing. -/
lemma run_stale {e : Event} {generation : ℕ} (he : e.IsConfigure)
    (hle : generation ≤ s.router.prewarm.generation) (host : String) (addresses : List HostAddress)
    (now : ℤ) : ((run step s (e::events)).step (.lookupFinished generation host addresses now)) =
      { run step s (e::events) with
        lookups := (run step s (e::events)).lookups.erase (generation,host) } := by
  have hstep : ∀ (s : Service) (e : Event), generation < s.router.prewarm.generation →
      generation < (s.step e).router.prewarm.generation :=
    fun s e hs => hs.trans_le (step_generation s e).1
  have hrun : generation < (run step s (e::events)).router.prewarm.generation :=
    run_invariant_of_step hstep (hle.trans_lt ((step_generation s e).2 he)) events
  rw [step,finishDnsSplitTunnelPrewarmHost,if_pos hrun.ne]

/-- In every run, addresses are kept for the session, leases match the rules of the last
configuration, and a lookup that is older than it changes nothing. -/
theorem learned_addresses_follow_rules {strict : Bool} {events : List Event}
    (h : Runs.Guarded step Possible (fresh strict) events) :
    (∀ before after, events = before++after →
      Runs.Guarded step SameSession (run step (fresh strict) before) after →
      ∀ ip ∈ (run step (fresh strict) before).router.ips,
        ip ∈ (run step (fresh strict) events).router.ips) ∧
    (∀ before rules gw killSwitchEnabled now after,
      events = before++.configureDnsSplitTunnel rules gw killSwitchEnabled now::after →
      (∀ e ∈ after, ¬e.IsConfigure) →
      (∀ host leases,
        (run step (fresh strict) events).router.hostLeases.lookup host = some leases →
        dnsSplitTunnelHostMatchesRules host rules) ∧
      ∀ ip ∈ (run step (fresh strict) events).router.ips, ∃ host leases,
        (run step (fresh strict) events).router.hostLeases.lookup host = some leases ∧
        ip ∈ leases ∧ dnsSplitTunnelHostMatchesRules host rules) ∧
    ∀ before e after, events = before++e::after → e.IsConfigure → ∀ generation host addresses now,
        (generation,host) ∈ (run step (fresh strict) before).lookups →
        ((run step (fresh strict) events).step
          (.lookupFinished generation host addresses now)).router =
            (run step (fresh strict) events).router ∧
        ((run step (fresh strict) events).step
          (.lookupFinished generation host addresses now)).killSwitch =
            (run step (fresh strict) events).killSwitch := by
  refine ⟨?_,?_,?_⟩
  · rintro before after rfl hsame ip hip
    obtain ⟨hbefore,hafter⟩ := (guarded_append ..).mp h
    rw [run_append]
    exact run_retains (run_matched hbefore) hafter hsame hip
  · rintro before rules gw killSwitchEnabled now after rfl hafter
    have hm := run_matched h
    have hbefore := run_matched ((guarded_append ..).mp h).1
    have hg := configureDnsSplitTunnel_grows rules gw killSwitchEnabled now hbefore.kept
    have hrules : (run step (fresh strict) (before++.configureDnsSplitTunnel rules gw
        killSwitchEnabled now::after)).router.observerRules = rules := by
      rw [run_append,run_cons]
      exact run_observerRules hg.kept hg.observerRules hafter
    have hmatch : ∀ {host leases}, (run step (fresh strict) (before++.configureDnsSplitTunnel
        rules gw killSwitchEnabled now::after)).router.hostLeases.lookup host = some leases →
        dnsSplitTunnelHostMatchesRules host rules := fun hl => hrules ▸ hm.leases hl
    refine ⟨fun _ _ => hmatch,?_⟩
    intro ip hip
    obtain ⟨host,leases,hl,hip⟩ := mem_active.mp (hm.kept.leased ip hip)
    exact ⟨host,leases,hl,hip,hmatch hl⟩
  · rintro before e after rfl he generation host addresses now hlookup
    have hbefore := run_matched ((guarded_append ..).mp h).1
    rw [run_append,run_stale he (hbefore.lookups _ hlookup).1]
    exact ⟨rfl,rfl⟩

end

/-- A site is resolved. -/
def resolvedSite : List Event :=
  [.configureDnsSplitTunnel ["a.ru"] "192.168.1.1" true 0,
    .hostResolved "a.ru" [(0xC6336407#32,60)] 1000]

/-- The rule of the site is configured twice over. -/
def configuredTwice : Event :=
  .configureDnsSplitTunnel ["a.ru","a.ru"] "192.168.1.1" true 2000

omit [Qt] in
theorem resolvedSite_kept : Runs.Guarded (@step dottedQt) (@Possible dottedQt) (fresh true)
        (resolvedSite++[configuredTwice]) ∧
      "198.51.100.7" ∈ (run (@step dottedQt) (fresh true)
        (resolvedSite++[configuredTwice])).router.ips := by
  have hpossible : Runs.Guarded (@step dottedQt) (@Possible dottedQt) (fresh true)
      (resolvedSite++[configuredTwice]) := by
    have hmatch : @dnsSplitTunnelHostMatchesRules dottedQt "a.ru" ["a.ru"] := by
      decide +kernel
    rw [guarded_append,resolvedSite,guarded_cons,guarded_cons,guarded_cons]
    exact ⟨⟨trivial,hmatch,guarded_nil _ _ _⟩,trivial,guarded_nil _ _ _⟩
  have hstate : (run (@step dottedQt) (fresh true) resolvedSite).router.gateway = "192.168.1.1" ∧
      (run (@step dottedQt) (fresh true) resolvedSite).router.observerRules = ["a.ru"] ∧
      "198.51.100.7" ∈ (run (@step dottedQt) (fresh true) resolvedSite).router.ips := by
    decide +kernel
  have hsame : Runs.Guarded (@step dottedQt) SameSession
      (run (@step dottedQt) (fresh true) resolvedSite) [configuredTwice] := by
    rw [guarded_cons]
    exact ⟨⟨hstate.1.symm,by simp,by simp [hstate.2.1]⟩,guarded_nil _ _ _⟩
  exact ⟨hpossible,(@learned_addresses_follow_rules dottedQt _ true _ hpossible).1 resolvedSite
    [configuredTwice] rfl hsame _ hstate.2.2⟩

end Service
end AlzheimerVPN
