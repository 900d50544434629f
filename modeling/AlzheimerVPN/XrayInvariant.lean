import AlzheimerVPN.XrayProtocol

/-! The invariant of an Xray protocol object at each wait of its slots, and what a slot that
waits can rely on. -/
namespace AlzheimerVPN.XrayLifecycle

open List

/-- What must not happen after `stop()` has been entered. -/
def Action.Forbidden : Action → Prop
  | .report state => state = .connected
  | .startProcess _ => True
  | .request r =>
    r ∈ [Request.createTun,.updateResolvers,.enableKillSwitch,.routeAddList,.stopRoutingIpv6]
  | _ => False

/-- Actions that only tell what was requested or reported. -/
def Action.Plain : Action → Prop
  | .report _ => True
  | .request r => r ≠ .restoreResolvers
  | _ => False

/-- `actions` has the last one first. -/
def NothingAfterStop (actions : List Action) : Prop :=
  ∀ later earlier, actions = later++.stopEntered::earlier → ∀ a ∈ later, ¬a.Forbidden

lemma NothingAfterStop.cons {a : Action} {actions : List Action} (h : NothingAfterStop actions)
    (ha : a.Forbidden → .stopEntered ∉ actions) : NothingAfterStop (a::actions) := by
  intro later earlier heq b hb
  cases later with
  | nil => simp at hb
  | cons c later =>
    obtain ⟨rfl,rfl⟩ := List.cons.inj heq
    rcases mem_cons.mp hb with rfl | hb
    · intro hforbidden
      exact ha hforbidden (by simp)
    · exact h later earlier rfl b hb

namespace Object

variable (s : Object)

def Launched (p : ℕ) : Prop := .startProcess p ∈ s.actions

def routings (p : ℕ) : ℕ := s.actions.count (.setupRouting p)

def restores : ℕ := s.actions.count (.request .restoreResolvers)

def retries : ℕ := s.actions.count .retry

/-- No exit of the process is still to come. -/
def Spent (p : ℕ) : Prop :=
  .exit p ∉ s.posted ∧ (s.exited p ∨ s.exitConnected p = false)

/-- No retry is under way, and the current process will cause none. -/
def Quiet : Prop := s.timers = 0 ∧ ∀ p, s.tun2socksProcess = some p → s.Spent p

end Object

/-- The process that an event comes from. -/
def Posted.process : Posted → ℕ
  | .output p => p
  | .exit p => p

/-- The record. -/
structure Booked (s : Object) : Prop where
  entered : .stopEntered ∈ s.actions ↔ s.stopRequested
  after : NothingAfterStop s.actions
  restores_le : s.restores ≤ 1
  restores_eq : s.stopRequested = false → s.restores = 0
  retries_le : s.retries ≤ maxTun2SocksRetries
  retries_eq : s.stopRequested = false → s.retries = s.tun2socksRetryCount

/-- The processes, their connections and what is posted. -/
structure Wired (s : Object) : Prop where
  process_lt : ∀ p, s.tun2socksProcess = some p → p < s.processes
  launched_lt : ∀ p, s.Launched p → p < s.processes
  outputConnected : ∀ p, s.outputConnected p → s.Launched p
  exitConnected : ∀ p, s.exitConnected p → s.Launched p
  posted : ∀ item ∈ s.posted, s.Launched item.process
  routed : ∀ p, 0 < s.routings p → s.Launched p ∧ s.outputConnected p = false
  routings_le : ∀ p, s.routings p ≤ 1
  /-- No output of a process whose routing is set up can set it up again. -/
  stale : ∀ p, s.tun2socksProcess = some p → 0 < s.routings p → s.routingSetupStarted = false →
    s.stopRequested = false → .output p ∉ s.posted

/-- Exits and the retry timer. -/
structure Timed (s : Object) : Prop where
  exits : ∀ p, s.posted.count (.exit p) ≤ 1
  exited : ∀ p, .exit p ∈ s.posted → s.exited p
  timers_le : s.timers ≤ 1
  timer : 0 < s.timers → s.stopRequested = false → ∀ p, s.tun2socksProcess = some p → s.Spent p

/-- What holds of a started object whenever one of its slots waits. -/
structure Ok (s : Object) : Prop where
  started : s.started
  deleted : s.deleted → s.stopRequested
  booked : Booked s
  wired : Wired s
  timed : Timed s

/-- What a slot can tell of everything that was dispatched while it waited. -/
structure Steady (s t : Object) : Prop where
  started : t.started
  stopped : s.stopRequested → t.stopRequested ∧ t.restores = s.restores
  processes : s.processes ≤ t.processes
  fresh : ∀ q, t.tun2socksProcess = some q → s.tun2socksProcess = some q ∨ s.processes ≤ q
  launched : ∀ p, s.Launched p → t.Launched p
  /-- While the process stays, its routing is not set up behind the flag. -/
  calm : ∀ p, s.tun2socksProcess = some p → p < s.processes → t.tun2socksProcess = some p →
    t.stopRequested = false → (s.routingSetupStarted → t.routingSetupStarted) ∧
      (t.routingSetupStarted = false → t.routings p = s.routings p)
  /-- A process that will not be retried stays, and none is launched. -/
  quiet : s.Quiet → t.stopRequested = false →
    t.Quiet ∧ t.tun2socksProcess = s.tun2socksProcess ∧ ∀ p, t.Launched p → s.Launched p

def Rely (s t : Object) : Prop := s.started → Steady s t

lemma Steady.refl {s : Object} (h : s.started) : Steady s s where
  started := h
  stopped hs := ⟨hs,rfl⟩
  processes := le_rfl
  fresh _ hq := .inl hq
  launched _ hp := hp
  calm _ _ _ _ _ := ⟨id,fun _ => rfl⟩
  quiet hs _ := ⟨hs,rfl,fun _ => id⟩

/-- An object that is not stopped was not stopped before. -/
lemma Steady.running {s t : Object} (h : Steady s t) (ht : t.stopRequested = false) :
    s.stopRequested = false := by
  cases hs : s.stopRequested with
  | false => rfl
  | true => rw [(h.stopped hs).1] at ht; cases ht

lemma Steady.trans {s t u : Object} (h : Steady s t) (k : Steady t u) : Steady s u where
  started := k.started
  stopped hs := by
    obtain ⟨ht,hrestores⟩ := h.stopped hs
    obtain ⟨hu,hrestores'⟩ := k.stopped ht
    exact ⟨hu,hrestores'.trans hrestores⟩
  processes := h.processes.trans k.processes
  fresh q hq := by
    rcases k.fresh q hq with ht | hlt
    · exact h.fresh q ht
    · exact .inr (h.processes.trans hlt)
  launched p hp := k.launched p (h.launched p hp)
  calm p hs hlt hu hstop := by
    -- A process that was there before `t` is not a fresh one.
    have ht : t.tun2socksProcess = some p := by
      rcases k.fresh p hu with ht | hle
      · exact ht
      · exact absurd (hlt.trans_le h.processes) (not_lt.mpr hle)
    obtain ⟨hflag,hcount⟩ := h.calm p hs hlt ht (k.running hstop)
    obtain ⟨hflag',hcount'⟩ := k.calm p ht (hlt.trans_le h.processes) hu hstop
    refine ⟨hflag' ∘ hflag,fun hf => ?_⟩
    have hft : t.routingSetupStarted = false := by
      cases hft : t.routingSetupStarted with
      | false => rfl
      | true => rw [hflag' hft] at hf; cases hf
    exact (hcount' hf).trans (hcount hft)
  quiet hs hstop := by
    obtain ⟨ht,hprocess,hlaunched⟩ := h.quiet hs (k.running hstop)
    obtain ⟨hu,hprocess',hlaunched'⟩ := k.quiet ht hstop
    exact ⟨hu,hprocess'.trans hprocess,fun p hp => hlaunched p (hlaunched' p hp)⟩

lemma Rely.refl (s : Object) : Rely s s := Steady.refl

lemma Rely.trans {s t u : Object} (h : Rely s t) (k : Rely t u) : Rely s u :=
  fun hs => (h hs).trans (k (h hs).started)

/-- What also holds across a stretch that stops the object. -/
structure Grown (s t : Object) : Prop where
  started : t.started
  processes : s.processes ≤ t.processes
  fresh : ∀ q, t.tun2socksProcess = some q → s.tun2socksProcess = some q ∨ s.processes ≤ q
  launched : ∀ p, s.Launched p → t.Launched p

lemma Steady.grown {s t : Object} (h : Steady s t) : Grown s t :=
  { h with }

lemma Grown.trans {s t u : Object} (h : Grown s t) (k : Grown t u) : Grown s u where
  started := k.started
  processes := h.processes.trans k.processes
  fresh q hq := by
    rcases k.fresh q hq with ht | hlt
    · exact h.fresh q ht
    · exact .inr (h.processes.trans hlt)
  launched p hp := k.launched p (h.launched p hp)

/-- Of a stopped object nothing else has to be known. -/
lemma Grown.steady {s t : Object} (h : Grown s t) (hs : s.stopRequested = false)
    (ht : t.stopRequested) : Steady s t where
  started := h.started
  stopped hstop := by rw [hs] at hstop; cases hstop
  processes := h.processes
  fresh := h.fresh
  launched := h.launched
  calm _ _ _ _ hstop := by rw [ht] at hstop; cases hstop
  quiet _ hstop := by rw [ht] at hstop; cases hstop

section

variable {s t : Object} {a : Action}

lemma Action.Plain.ne_startProcess (h : a.Plain) (p : ℕ) : a ≠ .startProcess p := by
  rintro rfl
  exact h

lemma Action.Plain.ne_setupRouting (h : a.Plain) (p : ℕ) : a ≠ .setupRouting p := by
  rintro rfl
  exact h

lemma Object.launched_record {p : ℕ} :
    (s.record a).Launched p ↔ a = .startProcess p ∨ s.Launched p := by
  simp [Object.Launched,Object.record,eq_comm]

lemma Object.routings_record {p : ℕ} :
    (s.record a).routings p = s.routings p+if a = .setupRouting p then 1 else 0 := by
  simp [Object.routings,Object.record,count_cons]

lemma Object.restores_record :
    (s.record a).restores = s.restores+if a = .request .restoreResolvers then 1 else 0 := by
  simp [Object.restores,Object.record,count_cons]

lemma Object.retries_record : (s.record a).retries = s.retries+if a = .retry then 1 else 0 := by
  simp [Object.retries,Object.record,count_cons]

lemma Booked.record (h : Booked s) (hstop : a ≠ .stopEntered)
    (hrestore : a ≠ .request .restoreResolvers) (hretry : a ≠ .retry)
    (hf : a.Forbidden → s.stopRequested = false) : Booked (s.record a) := by
  have hrestores : (s.record a).restores = s.restores := by
    rw [Object.restores_record,if_neg hrestore,Nat.add_zero]
  have hretries : (s.record a).retries = s.retries := by
    rw [Object.retries_record,if_neg hretry,Nat.add_zero]
  refine ⟨?_,?_,?_,?_,?_,?_⟩
  · rw [Object.record,mem_cons,or_iff_right hstop.symm]
    exact h.entered
  · refine h.after.cons fun hforbidden hmem => ?_
    rw [h.entered,hf hforbidden] at hmem
    cases hmem
  · rw [hrestores]
    exact h.restores_le
  · rw [hrestores]
    exact h.restores_eq
  · rw [hretries]
    exact h.retries_le
  · rw [hretries]
    exact h.retries_eq

lemma Wired.record (h : Wired s) (hlaunch : ∀ p, a ≠ .startProcess p)
    (hrouting : ∀ p, a ≠ .setupRouting p) : Wired (s.record a) := by
  have hlaunched : ∀ p, (s.record a).Launched p ↔ s.Launched p := by
    intro p
    rw [Object.launched_record,or_iff_right (hlaunch p)]
  have hroutings : ∀ p, (s.record a).routings p = s.routings p := by
    intro p
    rw [Object.routings_record,if_neg (hrouting p),Nat.add_zero]
  refine ⟨h.process_lt,?_,?_,?_,?_,?_,?_,?_⟩
  all_goals simp only [hlaunched,hroutings]
  · exact h.launched_lt
  · exact h.outputConnected
  · exact h.exitConnected
  · exact h.posted
  · exact h.routed
  · exact h.routings_le
  · exact h.stale

lemma Steady.record_plain (hs : s.started) (ha : a.Plain) : Steady s (s.record a) := by
  have hlaunched : ∀ p, (s.record a).Launched p ↔ s.Launched p := by
    intro p
    rw [Object.launched_record,or_iff_right (ha.ne_startProcess p)]
  have hrestore : a ≠ .request .restoreResolvers := by rintro rfl; exact ha rfl
  refine ⟨hs,?_,le_rfl,fun _ => .inl,fun p => (hlaunched p).mpr,?_,?_⟩
  · intro hstop
    rw [Object.restores_record,if_neg hrestore]
    exact ⟨hstop,rfl⟩
  · intro p _ _ _ _
    rw [Object.routings_record,if_neg (ha.ne_setupRouting p)]
    exact ⟨id,fun _ => rfl⟩
  · intro hquiet _
    exact ⟨hquiet,rfl,fun p => (hlaunched p).mp⟩

lemma Timed.record (h : Timed s) (a : Action) : Timed (s.record a) :=
  { h with }

lemma Ok.record_plain (h : Ok s) (ha : a.Plain) (hf : a.Forbidden → s.stopRequested = false) :
    Ok (s.record a) := by
  have hstop : a ≠ .stopEntered := by rintro rfl; exact ha
  have hrestore : a ≠ .request .restoreResolvers := by rintro rfl; exact ha rfl
  have hretry : a ≠ .retry := by rintro rfl; exact ha
  exact ⟨h.started,h.deleted,h.booked.record hstop hrestore hretry hf,
    h.wired.record ha.ne_startProcess ha.ne_setupRouting,h.timed.record a⟩

/-- The one request to restore the resolvers. -/
lemma Ok.record_restore (h : Ok s) (hstop : s.stopRequested) (hnone : s.restores = 0) :
    Ok (s.request .restoreResolvers) := by
  refine ⟨h.started,h.deleted,⟨?_,?_,?_,?_,?_,?_⟩,?_,h.timed.record _⟩
  · simpa [Object.request,Object.record] using h.booked.entered
  · exact h.booked.after.cons fun hforbidden => by simp [Action.Forbidden] at hforbidden
  · rw [Object.request,Object.restores_record,hnone]
    rfl
  · intro hrunning
    rw [show (s.request .restoreResolvers).stopRequested from hstop] at hrunning
    cases hrunning
  · rw [Object.request,Object.retries_record]
    exact h.booked.retries_le
  · rw [Object.request,Object.retries_record]
    exact h.booked.retries_eq
  · exact h.wired.record (by simp) (by simp)

end

end AlzheimerVPN.XrayLifecycle
