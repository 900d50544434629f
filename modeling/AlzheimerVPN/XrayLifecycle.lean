import AlzheimerVPN.XrayInvariant

/-! What no interleaving does to an Xray protocol object: once `stop()` is entered nothing is
set up any more, resolvers are restored once, the routing is set up once for a process, and
the retries are bounded. Each slot is shown to keep the invariant at its waits and to change
the object only as the slots below it on the stack rely on. -/
namespace AlzheimerVPN.XrayLifecycle

open Reentrancy Runs Object

section

variable {s t : Object} {α β : Type}

/-- The slot leaves the object as it should be at each wait and ends with `Q`. -/
abbrev Meets (p : Slot α) (Q : α → Object → Prop) (s : Object) : Prop :=
  p.SatAt Ok (fun _ => Rely) Q s

/-- The slot ends with a sound object that the slots below it can rely on. -/
abbrev Keeps (p : Slot α) (s : Object) : Prop := Meets p (fun _ t => Ok t ∧ Steady s t) s

/-- It also ends with a stopped object. -/
abbrev Stops (p : Slot α) (s : Object) : Prop :=
  Meets p (fun _ t => Ok t ∧ Steady s t ∧ t.stopRequested) s

lemma Stops.keeps {p : Slot α} (h : Stops p s) : Keeps p s :=
  h.mono fun _ _ ht => ⟨ht.1,ht.2.1⟩

lemma Steady.keeps {p : Slot α} (hst : Steady s t) (h : Keeps p t) :
    Meets p (fun _ u => Ok u ∧ Steady s u) t :=
  h.mono fun _ _ hu => ⟨hu.1,hst.trans hu.2⟩

lemma wait_meets {w : Wait} {f : Reply → Slot β} {Q : β → Object → Prop} (hs : Ok s)
    (hf : ∀ reply t, Ok t → Steady s t → Meets (f reply) Q t) : Meets (waitFor w >>= f) Q s :=
  satAt_waitFor_bind hs fun reply t ht hst => hf reply t ht (hst hs.started)

lemma withInterface_meets {onSuccess onFailure : Slot α} {Q : α → Object → Prop} (hs : Ok s)
    (hsuccess : ∀ t, Ok t → Steady s t → Meets onSuccess Q t)
    (hfailure : ∀ t, Ok t → Steady s t → Meets onFailure Q t) :
    Meets (withInterface onSuccess onFailure) Q s := by
  refine wait_meets hs fun reply t ht hst => ?_
  split
  · exact hsuccess t ht hst
  · exact hfailure t ht hst

lemma Ok.setConnectionState (h : Ok s) (state : ConnectionState) :
    Ok { s with connectionState := state } :=
  ⟨h.started,h.deleted,{ h.booked with },{ h.wired with },{ h.timed with }⟩

lemma setConnectionState_meets (h : Ok s) {state : ConnectionState}
    (hstate : state = .connected → s.stopRequested = false) :
    Keeps (setConnectionState state) s := by
  refine satAt_read_bind ?_
  split
  · exact ⟨h,.refl h.started⟩
  · have hok : Ok (s.setState state) := (h.setConnectionState state).record_plain trivial hstate
    have hsteady : Steady s (s.setState state) :=
      { Steady.record_plain (a := .report state) h.started trivial with }
    refine satAt_update_bind (wait_meets hok fun reply t ht hst => ?_)
    exact ⟨ht,hsteady.trans hst⟩

lemma setLastError_meets (h : Ok s) (error : ErrorCode) : Keeps (setLastError error) s := by
  rw [setLastError]
  split
  · exact ⟨h,.refl h.started⟩
  · exact setConnectionState_meets h (by simp)

lemma Ok.enterStop (h : Ok s) : Ok s.enterStop := by
  refine ⟨h.started,fun _ => rfl,⟨?_,?_,?_,?_,?_,?_⟩,?_,?_⟩
  · exact iff_of_true List.mem_cons_self rfl
  · exact h.booked.after.cons False.elim
  · rw [Object.enterStop,Object.restores_record]
    exact h.booked.restores_le
  · intro hrunning
    cases hrunning
  · rw [Object.enterStop,Object.retries_record]
    exact h.booked.retries_le
  · intro hrunning
    cases hrunning
  · have hwired : Wired { s with stopRequested := true } :=
      { h.wired with stale := fun _ _ _ _ hrunning => by cases hrunning }
    exact hwired.record (by simp) (by simp)
  · exact { h.timed with timer := fun _ hrunning => by cases hrunning }

lemma Ok.requestCleanup (h : Ok s) (hstop : s.stopRequested) (hnone : s.restores = 0) :
    Ok s.requestCleanup := by
  have hfirst : Ok (s.request .disableKillSwitch) :=
    h.record_plain (by simp [Action.Plain]) (by simp [Action.Forbidden])
  have hsecond : Ok ((s.request .disableKillSwitch).request .startRoutingIpv6) :=
    hfirst.record_plain (by simp [Action.Plain]) (by simp [Action.Forbidden])
  have hrestores : ((s.request .disableKillSwitch).request .startRoutingIpv6).restores = 0 := by
    rw [request,restores_record,request,restores_record,hnone]
    rfl
  exact (hsecond.record_restore hstop hrestores).record_plain (by simp [Action.Plain])
    (by simp [Action.Forbidden])

lemma Grown.request (h : s.started) (r : Request) : Grown s (s.request r) :=
  ⟨h,le_rfl,fun _ => .inl,fun _ => List.mem_cons_of_mem _⟩

lemma Grown.requestCleanup (h : s.started) : Grown s s.requestCleanup := by
  have hfirst := Grown.request h .disableKillSwitch
  have hsecond := hfirst.trans (.request hfirst.started .startRoutingIpv6)
  have hthird := hsecond.trans (.request hsecond.started .restoreResolvers)
  exact hthird.trans (.request hthird.started .xrayStop)

variable {p : ℕ}

lemma connected_of_disconnect {connected : ℕ → Bool} {q : ℕ}
    (h : Function.update connected p false q) : connected q := by
  by_cases hqp : q = p
  · simp [hqp] at h
  · rwa [Function.update_of_ne hqp] at h

lemma disconnect_eq_false {connected : ℕ → Bool} {q : ℕ} (h : connected q = false) :
    Function.update connected p false q = false := by
  refine Bool.eq_false_iff.mpr fun hq => ?_
  rw [connected_of_disconnect hq] at h
  cases h

lemma Wired.dropProcess (h : Wired s) : Wired s.dropProcess := by
  rw [Object.dropProcess]
  cases hp : s.tun2socksProcess with
  | none => exact h
  | some p =>
    refine ⟨by simp,h.launched_lt,?_,?_,h.posted,?_,h.routings_le,by simp⟩
    · intro q hq
      exact h.outputConnected q (connected_of_disconnect hq)
    · intro q hq
      exact h.exitConnected q (connected_of_disconnect hq)
    · intro q hq
      obtain ⟨hlaunched,hdisconnected⟩ := h.routed q hq
      exact ⟨hlaunched,disconnect_eq_false hdisconnected⟩

lemma Ok.dropProcess (h : Ok s) : Ok s.dropProcess := by
  have hwired := h.wired.dropProcess
  rw [Object.dropProcess] at hwired ⊢
  cases hp : s.tun2socksProcess with
  | none => exact h
  | some p =>
    rw [hp] at hwired
    exact ⟨h.started,h.deleted,{ h.booked with },hwired,
      { h.timed with timer := fun _ _ _ hq => by cases hq }⟩

lemma Grown.dropProcess (h : s.started) : Grown s s.dropProcess := by
  rw [Object.dropProcess]
  cases hp : s.tun2socksProcess with
  | none => exact (Steady.refl h).grown
  | some p => exact ⟨h,le_rfl,by simp,fun _ => id⟩

lemma dropProcess_stopRequested : s.dropProcess.stopRequested = s.stopRequested := by
  rw [dropProcess]
  split
  · rfl
  · rfl

/-- The stretches of `stop` on a running object. -/
lemma stop_meets_running (hrunning : s.stopRequested = false) (hentered : Ok s.enterStop)
    (hnone : s.restores = 0) : Stops stop s := by
  have hgrown : Grown s s.enterStop :=
    ⟨hentered.started,le_rfl,fun _ => .inl,fun p hp => List.mem_cons_of_mem _ hp⟩
  refine satAt_read_bind ?_
  rw [if_neg (Bool.eq_false_iff.mp hrunning)]
  refine satAt_update_bind (wait_meets hentered fun reply t ht hst => ?_)
  obtain ⟨hstop,hrestores⟩ := hst.stopped rfl
  have hnone : t.restores = 0 := by
    rw [hrestores,enterStop,restores_record]
    exact hnone
  have hgrown : Grown s t := hgrown.trans hst.grown
  refine Handler.SatAt.bind (P := fun _ u => Ok u ∧ Grown s u ∧ u.stopRequested) ?_ fun _ u hu => ?_
  · rw [when]
    split
    · exact ⟨ht.requestCleanup hstop hnone,hgrown.trans (.requestCleanup ht.started),hstop⟩
    · exact ⟨ht,hgrown,hstop⟩
  · obtain ⟨hu,hgrown,hstop⟩ := hu
    rw [← dropProcess_stopRequested] at hstop
    refine satAt_update_bind ((setConnectionState_meets hu.dropProcess (by simp)).mono ?_)
    rintro _ v ⟨hv,huv⟩
    have hstop := (huv.stopped hstop).1
    have hgrown : Grown s v := (hgrown.trans (.dropProcess hu.started)).trans huv.grown
    exact ⟨hv,hgrown.steady hrunning hstop,hstop⟩

lemma stop_meets (h : Ok s) : Stops stop s := by
  cases hstop : s.stopRequested with
  | false => exact stop_meets_running hstop h.enterStop (h.booked.restores_eq hstop)
  | true =>
    refine satAt_read_bind ?_
    rw [if_pos hstop]
    exact ⟨h,.refl h.started,hstop⟩

/-- Whatever calls it, a running object ends up stopped. -/
lemma fail_meets (hrunning : s.stopRequested = false) (hentered : Ok s.enterStop)
    (hnone : s.restores = 0) (error : ErrorCode) : Stops (fail error) s := by
  refine (stop_meets_running hrunning hentered hnone).bind ?_
  rintro _ t ⟨ht,hst,hstop⟩
  refine satAt_read_bind ?_
  split
  · exact ⟨ht,hst,hstop⟩
  · refine (setLastError_meets ht error).mono ?_
    rintro _ u ⟨hu,htu⟩
    exact ⟨hu,hst.trans htu,(htu.stopped hstop).1⟩

lemma running_of_not_gone (hs : ¬s.gone) : s.stopRequested = false := by
  simp only [gone,Bool.or_eq_true,not_or] at hs
  exact Bool.eq_false_iff.mpr hs.2

lemma Ok.stopped_of_gone (h : Ok s) (hs : s.gone) : s.stopRequested := by
  rcases (Bool.or_eq_true _ _).mp hs with hdeleted | hstop
  · exact h.deleted hdeleted
  · exact hstop

/-- A request is made, and its reply waited for. -/
lemma request_meets {r : Request} {f : Reply → Slot β} {Q : β → Object → Prop} (h : Ok s)
    (hr : r ≠ .restoreResolvers) (hf : (Action.request r).Forbidden → s.stopRequested = false)
    (hreply : ∀ reply t, Ok t → Steady s t → Meets (f reply) Q t) :
    Meets (update (·.request r) >>= fun _ => waitFor (.reply r) >>= f) Q s := by
  have hplain : (Action.request r).Plain := hr
  refine satAt_update_bind (wait_meets (h.record_plain hplain hf) fun reply t ht hst => ?_)
  exact hreply reply t ht ((Steady.record_plain h.started hplain).trans hst)

lemma ask_meets {r : Request} (h : Ok s) (hr : r ≠ .restoreResolvers)
    (hrunning : s.stopRequested = false) :
    Meets (ask r) (fun done t => Ok t ∧ Steady s t ∧ (done → t.stopRequested = false)) s := by
  refine request_meets h hr (fun _ => hrunning) fun reply t ht hst => ?_
  refine satAt_read_bind ⟨ht,hst,fun hdone => running_of_not_gone ?_⟩
  simp only [Bool.and_eq_true,Bool.not_eq_true'] at hdone
  simp [hdone.1.1]

lemma askAll_meets {rs : List Request} (h : Ok s) (hrs : .restoreResolvers ∉ rs)
    (hrunning : s.stopRequested = false) : Keeps (askAll rs) s := by
  induction rs generalizing s with
  | nil => exact ⟨h,.refl h.started⟩
  | cons r rs ih =>
    obtain ⟨hr,hrs⟩ := not_or.mp (fun hmem => hrs (List.mem_cons.mpr hmem))
    refine (ask_meets h (Ne.symm hr) hrunning).bind ?_
    rintro done t ⟨ht,hst,hdone⟩
    split
    · next hd => exact hst.keeps (ih ht hrs (hdone hd))
    · exact ⟨ht,hst⟩

lemma restoreResolvers_not_mem (settings : Settings) :
    .restoreResolvers ∉ routingRequests settings := by
  rw [routingRequests]
  cases settings.killSwitchEnabled <;> cases settings.allSites <;> decide

lemma setupRouting_meets (settings : Settings) (h : Ok s) : Keeps (setupRouting settings) s := by
  refine withInterface_meets h (fun t ht hst => ?_) fun t ht hst => ⟨ht,hst⟩
  refine satAt_read_bind ?_
  split
  · exact ⟨ht,hst⟩
  · next hgone =>
    refine (askAll_meets ht (restoreResolvers_not_mem settings) (running_of_not_gone hgone)).bind ?_
    rintro done u ⟨hu,htu⟩
    split
    · exact ⟨hu,hst.trans htu⟩
    · exact ⟨hu,hst.trans htu⟩

lemma freeTun_meets (h : Ok s) : Keeps freeTun s := by
  refine withInterface_meets h (fun t ht hst => ?_) fun t ht hst => ⟨ht,hst⟩
  refine request_meets ht (by simp) (by simp [Action.Forbidden]) fun reply u hu htu => ?_
  exact ⟨hu,hst.trans htu⟩

lemma Ok.createProcess (h : Ok s) : Ok s.createProcess := by
  refine ⟨h.started,h.deleted,{ h.booked with },{ h.wired with process_lt := ?_,launched_lt := ?_ },
    { h.timed with }⟩
  · intro p hp
    exact Nat.lt_succ_of_lt (h.wired.process_lt p hp)
  · intro p hp
    exact Nat.lt_succ_of_lt (h.wired.launched_lt p hp)

lemma Steady.createProcess (h : s.started) : Steady s s.createProcess :=
  { Steady.refl h with processes := Nat.le_succ _ }

/-- A new process is not one of those that were there. -/
lemma createPrivilegedProcess_meets (h : Ok s) :
    Meets createPrivilegedProcess (fun process t => Ok t ∧ Steady s t ∧
      ∀ p, process = some p → s.processes ≤ p ∧ p < t.processes ∧ ¬t.Launched p) s := by
  refine withInterface_meets h (fun t ht hst => ?_) fun t ht hst => ⟨ht,hst,by simp⟩
  refine request_meets ht (by simp) (by simp [Action.Forbidden]) fun reply u hu htu => ?_
  have hsu := hst.trans htu
  split
  · exact ⟨hu,hsu,by simp⟩
  · refine wait_meets hu fun source v hv huv => ?_
    have hsv := hsu.trans huv
    split
    · exact ⟨hv,hsv,by simp⟩
    · refine satAt_read_bind (satAt_update_bind ⟨hv.createProcess,
        hsv.trans (.createProcess hv.started),?_⟩)
      rintro p ⟨rfl⟩
      refine ⟨hsv.processes,Nat.lt_succ_self _,fun hlaunched => ?_⟩
      exact absurd (hv.wired.launched_lt _ hlaunched) (Nat.lt_irrefl _)

lemma Ok.resetRouting (h : Ok s) (hstale : ∀ p, s.tun2socksProcess = some p →
    0 < s.routings p → .output p ∉ s.posted) : Ok s.resetRouting :=
  ⟨h.started,h.deleted,{ h.booked with },
    { h.wired with stale := fun p hp hrouted _ _ => hstale p hp hrouted },{ h.timed with }⟩

lemma Ok.setProcess_none (h : Ok s) : Ok (s.setProcess none) :=
  ⟨h.started,h.deleted,{ h.booked with },
    { h.wired with process_lt := by simp [setProcess],stale := by simp [setProcess] },
    { h.timed with timer := by simp [setProcess] }⟩

lemma Grown.setProcess_none (h : s.started) : Grown s (s.setProcess none) :=
  ⟨h,le_rfl,by simp [setProcess],fun _ => id⟩

/-- Both signals of the process are connected. -/
def Object.connect (s : Object) (p : ℕ) : Object :=
  { s with
    outputConnected := Function.update s.outputConnected p true
    exitConnected := Function.update s.exitConnected p true }

lemma launch_eq (hp : s.tun2socksProcess = some p) :
    s.launch = (s.connect p).record (.startProcess p) := by
  rw [launch]
  simp only [hp,connect]

section

variable {p : ℕ} (hnew : ¬s.Launched p)

include hnew

lemma Ok.not_routed (h : Ok s) : ¬0 < s.routings p :=
  fun hrouted => hnew (h.wired.routed p hrouted).1

/-- Nothing comes from a process before it is launched. -/
lemma Ok.spent_of_new (h : Ok s) : s.Spent p := by
  refine ⟨fun hmem => hnew (h.wired.posted _ hmem),.inr (Bool.eq_false_iff.mpr fun hp => ?_)⟩
  exact hnew (h.wired.exitConnected p hp)

lemma Ok.setProcess_new (h : Ok s) (hlt : p < s.processes) : Ok (s.setProcess (some p)) := by
  have hspent := h.spent_of_new hnew
  have hrouted := h.not_routed hnew
  refine ⟨h.started,h.deleted,{ h.booked with },
    { h.wired with process_lt := ?_,stale := ?_ },{ h.timed with timer := ?_ }⟩
  · rintro q ⟨rfl⟩
    exact hlt
  · rintro q ⟨rfl⟩ hq
    exact absurd hq hrouted
  · rintro _ _ q ⟨rfl⟩
    exact hspent

lemma Ok.quiet_setProcess_new (h : Ok s) (ht : s.timers = 0) : (s.setProcess (some p)).Quiet := by
  have hspent := h.spent_of_new hnew
  refine ⟨ht,?_⟩
  rintro q ⟨rfl⟩
  exact hspent

lemma Wired.connect (h : Wired s) (hp : s.tun2socksProcess = some p) :
    Wired ((s.connect p).record (.startProcess p)) := by
  have hrouted : ¬0 < s.routings p := fun hrouted => hnew (h.routed p hrouted).1
  have hconnected : ∀ (connected : ℕ → Bool), (∀ q, connected q → s.Launched q) →
      ∀ q, Function.update connected p true q → p = q ∨ s.Launched q := by
    intro connected hlaunched q hq
    by_cases hqp : q = p
    · exact .inl hqp.symm
    · rw [Function.update_of_ne hqp] at hq
      exact .inr (hlaunched q hq)
  refine ⟨h.process_lt,?_,?_,?_,?_,?_,?_,?_⟩
  all_goals simp only [launched_record,routings_record,reduceCtorEq,if_false,
    Nat.add_zero,Action.startProcess.injEq]
  · rintro q (rfl | hq)
    · exact h.process_lt p hp
    · exact h.launched_lt q hq
  · exact hconnected _ h.outputConnected
  · exact hconnected _ h.exitConnected
  · intro item hmem
    exact .inr (h.posted item hmem)
  · intro q hq
    have hqp : q ≠ p := by
      rintro rfl
      exact hrouted hq
    obtain ⟨hlaunched,hdisconnected⟩ := h.routed q hq
    have hkept : Function.update s.outputConnected p true q = s.outputConnected q := by
      rw [Function.update_of_ne hqp]
    exact ⟨.inr hlaunched,hkept.trans hdisconnected⟩
  · exact h.routings_le
  · exact h.stale

lemma Ok.launch (h : Ok s) (hp : s.tun2socksProcess = some p) (ht : s.timers = 0)
    (hrunning : s.stopRequested = false) : Ok s.launch := by
  rw [launch_eq hp]
  refine ⟨h.started,h.deleted,?_,h.wired.connect hnew hp,?_⟩
  · have hbooked : Booked (s.connect p) := { h.booked with }
    exact hbooked.record (by simp) (by simp) (by simp) fun _ => hrunning
  · refine { h.timed with timer := fun htimer => ?_ }
    exact absurd htimer (Nat.not_lt.mpr (Nat.le_of_eq ht))

end

lemma Grown.launch (h : s.started) : Grown s s.launch := by
  rw [Object.launch]
  split
  · exact (Steady.refl h).grown
  · exact ⟨h,le_rfl,fun _ => .inl,fun q hq => List.mem_cons_of_mem _ hq⟩

lemma launch_tun2socksProcess : s.launch.tun2socksProcess = s.tun2socksProcess := by
  rw [launch]
  split
  · next hp => rfl
  · next hp => rfl

/-- How a call on a running object ends: it launches a new process, tells an error or finds the
object stopped. -/
structure Started (s : Object) (error : ErrorCode) (t : Object) : Prop where
  ok : Ok t
  grown : Grown s t
  ends : t.stopRequested ∨ error ≠ .noError ∨
    ∃ q, t.tun2socksProcess = some q ∧ s.processes ≤ q

lemma Ok.started_of_gone (ht : Ok t) (hgrown : Grown s t) (hgone : t.gone)
    (error : ErrorCode) : Started s error t :=
  ⟨ht,hgrown,.inl (ht.stopped_of_gone hgone)⟩

lemma Ok.started_of_error (ht : Ok t) (hgrown : Grown s t) :
    Started s .amneziaServiceConnectionFailed t :=
  ⟨ht,hgrown,.inr (.inl (by simp))⟩

lemma startTun2Socks_stopped (h : s.stopRequested) :
    Meets startTun2Socks (fun error t => error = .noError ∧ t = s) s := by
  refine satAt_read_bind ?_
  rw [if_pos h]
  exact ⟨rfl,rfl⟩

/-- A process that nobody has launched is launched when its source is there. -/
lemma launch_meets {p : ℕ} (ht : Ok t) (hquiet : t.Quiet) (hlt : p < t.processes)
    (hnew : ¬t.Launched p) (hgrown : Grown s t) (hle : s.processes ≤ p) :
    Meets (do
      let source ← waitFor .processSource
      if (← read).gone then return .noError
      else if !source.returnValue then
        update (·.setProcess none)
        return .amneziaServiceConnectionFailed
      else update launch return .noError) (Started s) (t.setProcess (some p)) := by
  have hset : Grown s (t.setProcess (some p)) := by
    refine ⟨ht.started,hgrown.processes,?_,hgrown.launched⟩
    rintro q ⟨rfl⟩
    exact .inr hle
  refine wait_meets (ht.setProcess_new hnew hlt) fun source u hu htu => satAt_read_bind ?_
  have hgrown : Grown s u := hset.trans htu.grown
  split
  · next hgone => exact hu.started_of_gone hgrown hgone _
  · next hgone =>
    -- Nothing is launched while there is no retry under way, so `p` is still new.
    have hrunning := running_of_not_gone hgone
    obtain ⟨hquiet,hprocess,hlaunched⟩ := htu.quiet (ht.quiet_setProcess_new hnew hquiet.1) hrunning
    have hnew : ¬u.Launched p := fun hp => hnew (hlaunched p hp)
    split
    · exact hu.setProcess_none.started_of_error (hgrown.trans (.setProcess_none hu.started))
    · refine ⟨hu.launch hnew hprocess hquiet.1 hrunning,hgrown.trans (.launch hu.started),
        .inr (.inr ⟨p,?_,hle⟩)⟩
      rw [launch_tun2socksProcess]
      exact hprocess

lemma startTun2Socks_meets (h : Ok s) (hrunning : s.stopRequested = false) (hquiet : s.Quiet)
    (hstale : ∀ p, s.tun2socksProcess = some p → 0 < s.routings p → .output p ∉ s.posted) :
    Meets startTun2Socks (Started s) s := by
  have hreset : Grown s s.resetRouting := ⟨h.started,le_rfl,fun _ => .inl,fun _ => id⟩
  have hquiet : s.resetRouting.Quiet := hquiet
  refine satAt_read_bind ?_
  rw [if_neg (Bool.eq_false_iff.mp hrunning)]
  refine satAt_update_bind ((freeTun_meets (h.resetRouting hstale)).bind ?_)
  rintro cleanupOk t ⟨ht,hst⟩
  have hgrown : Grown s t := hreset.trans hst.grown
  refine satAt_read_bind ?_
  split
  · next hgone => exact ht.started_of_gone hgrown hgone _
  · next hgone =>
    have hquiet := (hst.quiet hquiet (running_of_not_gone hgone)).1
    split
    · exact ht.started_of_error hgrown
    · refine (createPrivilegedProcess_meets ht).bind ?_
      rintro process u ⟨hu,htu,hprocess⟩
      have hgrown' : Grown s u := hgrown.trans htu.grown
      refine satAt_read_bind ?_
      split
      · next hgone => exact hu.started_of_gone hgrown' hgone _
      · next hgone =>
        have hquiet := (htu.quiet hquiet (running_of_not_gone hgone)).1
        refine satAt_update_bind ?_
        cases process with
        | none =>
          exact hu.setProcess_none.started_of_error (hgrown'.trans (.setProcess_none hu.started))
        | some p =>
          obtain ⟨hle,hlt,hnew⟩ := hprocess p rfl
          exact launch_meets hu hquiet hlt hnew hgrown' (hgrown.processes.trans hle)

lemma Object.Spent.take (h : s.Spent p) (item : Posted) : (s.take item).Spent p :=
  ⟨fun hmem => h.1 (List.mem_of_mem_erase hmem),h.2⟩

lemma Ok.take (h : Ok s) (item : Posted) : Ok (s.take item) := by
  refine ⟨h.started,h.deleted,{ h.booked with },{ h.wired with posted := ?_,stale := ?_ },
    { h.timed with exits := ?_,exited := ?_,timer := ?_ }⟩
  · intro other hmem
    exact h.wired.posted other (List.mem_of_mem_erase hmem)
  · intro p hp hrouted hflag hrunning hmem
    exact h.wired.stale p hp hrouted hflag hrunning (List.mem_of_mem_erase hmem)
  · intro p
    exact (List.erase_sublist.count_le _).trans (h.timed.exits p)
  · intro p hmem
    exact h.timed.exited p (List.mem_of_mem_erase hmem)
  · intro htimer hrunning p hp
    exact (h.timed.timer htimer hrunning p hp).take item

lemma Steady.take (h : s.started) (item : Posted) : Steady s (s.take item) :=
  { Steady.refl h with
    quiet := fun hquiet _ =>
      ⟨⟨hquiet.1,fun p hp => (hquiet.2 p hp).take item⟩,rfl,fun _ => id⟩ }

variable {item : Posted} {waiting : List Event}

/-- A process whose exits are over posts none. -/
lemma Object.Spent.post (h : s.Spent p) (ha : Allowed s waiting (.post item)) :
    (s.post item).Spent p := by
  cases item with
  | output q =>
    refine ⟨?_,h.2⟩
    simpa [Object.post] using h.1
  | exit q =>
    obtain ⟨-,hconnected,hexited⟩ := ha
    have hpq : p ≠ q := by
      rintro rfl
      rcases h.2 with hp | hp
      · rw [hp] at hexited
        cases hexited
      · rw [hp] at hconnected
        cases hconnected
    refine ⟨?_,?_⟩
    · simpa [Object.post,hpq] using h.1
    · simpa [Object.post,Function.update_of_ne hpq] using h.2

lemma Wired.post (h : Wired s) (ha : Allowed s waiting (.post item)) : Wired (s.post item) := by
  have hlaunched : s.Launched item.process := by
    cases item with
    | output p => exact h.outputConnected p ha.2
    | exit p => exact h.exitConnected p ha.2.1
  refine { h with posted := ?_,stale := ?_ }
  · intro other hmem
    rcases List.mem_append.mp hmem with hmem | hmem
    · exact h.posted other hmem
    · rw [List.mem_singleton.mp hmem]
      exact hlaunched
  · intro p hp hrouted hflag hrunning hmem
    rcases List.mem_append.mp hmem with hmem | hmem
    · exact h.stale p hp hrouted hflag hrunning hmem
    · -- The output of a process whose routing is set up is not connected.
      have hdisconnected := (h.routed p hrouted).2
      rw [← List.mem_singleton.mp hmem] at ha
      rw [ha.2] at hdisconnected
      cases hdisconnected

lemma Timed.post (h : Timed s) (ha : Allowed s waiting (.post item)) : Timed (s.post item) := by
  have htimer : 0 < s.timers → s.stopRequested = false → ∀ p, s.tun2socksProcess = some p →
      (s.post item).Spent p :=
    fun htimer hrunning p hp => (h.timer htimer hrunning p hp).post ha
  cases item with
  | output p =>
    refine ⟨?_,?_,h.timers_le,htimer⟩
    · intro q
      simpa [Object.post] using h.exits q
    · intro q hmem
      exact h.exited q (by simpa [Object.post] using hmem)
  | exit p =>
    obtain ⟨-,-,hexited⟩ := ha
    have hnone : .exit p ∉ s.posted := by
      intro hmem
      rw [h.exited p hmem] at hexited
      cases hexited
    refine ⟨?_,?_,h.timers_le,htimer⟩
    · intro q
      by_cases hqp : q = p
      · simp [hqp,Object.post,List.count_eq_zero.mpr hnone]
      · simpa [Object.post,List.count_cons,Ne.symm hqp] using h.exits q
    · intro q hmem
      by_cases hqp : q = p
      · simp [hqp,Object.post]
      · have hmem : .exit q ∈ s.posted := by simpa [Object.post,hqp] using hmem
        simpa [Object.post,Function.update_of_ne hqp] using h.exited q hmem

lemma post_meets {item : Posted} {waiting : List Event} (h : Ok s)
    (ha : Allowed s waiting (.post item)) : Keeps (update (·.post item)) s := by
  refine ⟨⟨h.started,h.deleted,{ h.booked with },h.wired.post ha,h.timed.post ha⟩,?_⟩
  refine { Steady.refl h.started with quiet := fun hquiet _ => ⟨⟨hquiet.1,?_⟩,rfl,fun _ => id⟩ }
  intro p hp
  exact (hquiet.2 p hp).post ha

section

variable {p : ℕ} {waiting : List Event}

lemma launched_beginRouting {q : ℕ} : (s.beginRouting p).Launched q ↔ s.Launched q := by
  simp [beginRouting,Object.Launched,record]

lemma routings_beginRouting {q : ℕ} :
    (s.beginRouting p).routings q = s.routings q+if p = q then 1 else 0 := by
  simp [beginRouting,routings,record,List.count_cons]

lemma Ok.beginRouting (h : Ok s) (hlaunched : s.Launched p) (hnone : s.routings p = 0) :
    Ok (s.beginRouting p) := by
  have hbooked : Booked { s with
      routingSetupStarted := true
      outputConnected := Function.update s.outputConnected p false } := { h.booked with }
  refine ⟨h.started,h.deleted,hbooked.record (by simp) (by simp) (by simp) False.elim,?_,
    { h.timed with }⟩
  refine ⟨h.wired.process_lt,?_,?_,?_,?_,?_,?_,fun _ _ _ hflag => by cases hflag⟩
  all_goals simp only [launched_beginRouting,routings_beginRouting]
  · exact h.wired.launched_lt
  · intro q hq
    exact h.wired.outputConnected q (connected_of_disconnect hq)
  · exact h.wired.exitConnected
  · exact h.wired.posted
  · intro q hq
    by_cases hpq : p = q
    · subst hpq
      exact ⟨hlaunched,Function.update_self ..⟩
    · rw [if_neg hpq] at hq
      obtain ⟨hlaunched,hdisconnected⟩ := h.wired.routed q hq
      exact ⟨hlaunched,disconnect_eq_false hdisconnected⟩
  · intro q
    by_cases hpq : p = q
    · simp [← hpq,hnone]
    · simpa [hpq] using h.wired.routings_le q

lemma Steady.beginRouting (h : s.started) (hrunning : s.stopRequested = false) :
    Steady s (s.beginRouting p) where
  started := h
  stopped hstop := by rw [hrunning] at hstop; cases hstop
  processes := le_rfl
  fresh _ := .inl
  launched _ := launched_beginRouting.mpr
  calm _ _ _ _ _ := ⟨fun _ => rfl,fun hflag => by cases hflag⟩
  quiet hquiet _ := ⟨hquiet,rfl,fun _ => launched_beginRouting.mp⟩

/-- The routing is set up only if the wait for the output has not let anyone else do it. -/
lemma onReadyReadStandardError_meets (settings : Settings) (h : Ok s)
    (hlaunched : s.Launched p) (hnone : s.tun2socksProcess = some p →
      s.routingSetupStarted = false → s.stopRequested = false → s.routings p = 0) :
    Keeps (onReadyReadStandardError settings p) s := by
  refine satAt_read_bind ?_
  split
  · exact ⟨h,.refl h.started⟩
  · next hguard =>
    refine wait_meets h fun reply t ht hst => satAt_read_bind ?_
    split
    · exact ⟨ht,hst⟩
    · next hguard' =>
      split
      · exact ⟨ht,hst⟩
      · split
        · simp only [Bool.or_eq_true,not_or,decide_eq_true_eq,not_not,Bool.not_eq_true]
            at hguard hguard'
          obtain ⟨⟨hrunning,hflag⟩,hprocess⟩ := hguard
          obtain ⟨⟨hgone,hflag'⟩,hprocess'⟩ := hguard'
          have hrunning' := running_of_not_gone (Bool.eq_false_iff.mp hgone)
          have hlt := h.wired.process_lt p hprocess
          have hcount : t.routings p = 0 := by
            rw [(hst.calm p hprocess hlt hprocess' hrunning').2 hflag']
            exact hnone hprocess hflag hrunning
          have hok := ht.beginRouting (hst.launched p hlaunched) hcount
          have hbegun := hst.trans (.beginRouting (p := p) ht.started hrunning')
          refine satAt_update_bind ((setupRouting_meets settings hok).bind ?_)
          rintro res u ⟨hu,hbu⟩
          have hsu := hbegun.trans hbu
          refine satAt_read_bind ?_
          split
          · exact ⟨hu,hsu⟩
          · next hgone =>
            have hrunning := running_of_not_gone hgone
            split
            · exact hsu.keeps
                (fail_meets hrunning hu.enterStop (hu.booked.restores_eq hrunning) res).keeps
            · exact hsu.keeps (setConnectionState_meets hu fun _ => hrunning)
        · exact ⟨ht,hst⟩

lemma Ok.resetRetries (h : Ok s) (hstop : s.stopRequested) : Ok s.resetRetries := by
  refine ⟨h.started,h.deleted,{ h.booked with retries_eq := fun hrunning => ?_ },{ h.wired with },
    { h.timed with }⟩
  rw [show s.resetRetries.stopRequested from hstop] at hrunning
  cases hrunning

lemma Ok.scheduleRetry (h : Ok s) (hquiet : s.Quiet)
    (hcount : s.tun2socksRetryCount < maxTun2SocksRetries)
    (hrunning : s.stopRequested = false) : Ok s.scheduleRetry := by
  have hretries : s.scheduleRetry.retries = s.tun2socksRetryCount+1 := by
    rw [← h.booked.retries_eq hrunning]
    simp [Object.scheduleRetry,Object.retries,Object.record]
  have hwired : Wired { s with
      tun2socksRetryCount := s.tun2socksRetryCount+1
      timers := s.timers+1 } := { h.wired with }
  refine ⟨h.started,h.deleted,?_,hwired.record (by simp) (by simp),
    { h.timed with timers_le := ?_,timer := fun _ _ => hquiet.2 }⟩
  · refine ⟨?_,?_,?_,?_,?_,fun _ => hretries⟩
    · simpa [Object.scheduleRetry,Object.record] using h.booked.entered
    · exact h.booked.after.cons False.elim
    · simpa [Object.scheduleRetry,Object.restores,Object.record] using h.booked.restores_le
    · simpa [Object.scheduleRetry,Object.restores,Object.record] using h.booked.restores_eq
    · rw [hretries]
      exact hcount
  · rw [show s.scheduleRetry.timers = s.timers+1 from rfl,hquiet.1]


lemma Steady.scheduleRetry (h : Steady s t) (hrunning : t.stopRequested = false)
    (hbusy : ¬s.Quiet) : Steady s t.scheduleRetry := by
  have hroutings : ∀ q, t.scheduleRetry.routings q = t.routings q := by
    intro q
    simp [Object.scheduleRetry,Object.routings,Object.record]
  refine ⟨h.started,?_,h.processes,h.fresh,?_,?_,fun hquiet => absurd hquiet hbusy⟩
  · intro hstop
    rw [h.running hrunning] at hstop
    cases hstop
  · intro q hq
    exact List.mem_cons_of_mem _ (h.launched q hq)
  · intro q hq hlt hq' _
    rw [hroutings]
    exact h.calm q hq hlt hq' hrunning

/-- The exit of the current process, which was posted in `t`, schedules one retry or ends in
`stop`. -/
lemma onFinished_meets (hts : Steady t s) (h : Ok s) (hquiet : s.tun2socksProcess = some p →
      s.stopRequested = false → s.Quiet ∧ ¬t.Quiet) :
    Meets (onFinished p) (fun _ u => Ok u ∧ Steady t u) s := by
  refine satAt_read_bind ?_
  split
  · exact ⟨h,hts⟩
  · next hguard =>
    simp only [Bool.or_eq_true,not_or,decide_eq_true_eq,not_not,Bool.not_eq_true] at hguard
    obtain ⟨hrunning,hprocess⟩ := hguard
    obtain ⟨hquiet,hbusy⟩ := hquiet hprocess hrunning
    refine wait_meets h fun reply u hu hsu => satAt_read_bind ?_
    have htu := hts.trans hsu
    split
    · exact ⟨hu,htu⟩
    · next hguard =>
      simp only [Bool.or_eq_true,not_or,decide_eq_true_eq,not_not,Bool.not_eq_true] at hguard
      have hrunning := running_of_not_gone (Bool.eq_false_iff.mp hguard.1)
      split
      · next hretry =>
        have hquiet := (hsu.quiet hquiet hrunning).1
        exact ⟨hu.scheduleRetry hquiet hretry.2 hrunning,htu.scheduleRetry hrunning hbusy⟩
      · -- The count is reset in the stretch that enters `stop`.
        have hreset : Steady u u.resetRetries := { Steady.refl hu.started with }
        exact satAt_update_bind ((htu.trans hreset).keeps (fail_meets (s := u.resetRetries)
          hrunning (hu.enterStop.resetRetries rfl) (hu.booked.restores_eq hrunning) _).keeps)

lemma deliver_output_meets (settings : Settings) (h : Ok s) (hmem : .output p ∈ s.posted) :
    Keeps (handle settings waiting (.deliver (.output p))) s := by
  refine satAt_update_bind ((Steady.take h.started _).keeps
    (onReadyReadStandardError_meets settings (h.take (.output p)) (h.wired.posted _ hmem)
      fun hprocess hflag hrunning => ?_))
  by_contra hrouted
  exact h.wired.stale p hprocess (Nat.pos_of_ne_zero hrouted) hflag hrunning hmem

lemma deliver_exit_meets (settings : Settings) (h : Ok s) (hmem : .exit p ∈ s.posted) :
    Keeps (handle settings waiting (.deliver (.exit p))) s := by
  have hspent : (s.take (.exit p)).Spent p := by
    refine ⟨fun hmem' => ?_,.inl (h.timed.exited p hmem)⟩
    have hexits := h.timed.exits p
    have hcount := List.count_pos_iff.mpr hmem'
    rw [take,List.count_erase_self] at hcount
    omega
  refine satAt_update_bind (onFinished_meets (.take h.started _) (h.take (.exit p)) ?_)
  intro hprocess hrunning
  refine ⟨⟨?_,?_⟩,fun hquiet => (hquiet.2 p hprocess).1 hmem⟩
  · -- With a retry under way the exit of the current process is over.
    by_contra htimers
    exact (h.timed.timer (Nat.pos_of_ne_zero htimers) hrunning p hprocess).1 hmem
  · intro q hq
    rw [hprocess] at hq
    cases hq
    exact hspent

end

lemma Ok.fireTimer (h : Ok s) : Ok s.fireTimer := by
  refine ⟨h.started,h.deleted,{ h.booked with },{ h.wired with },
    { h.timed with timers_le := ?_,timer := fun htimers => ?_ }⟩
  · exact (Nat.sub_le _ _).trans h.timed.timers_le
  · exact h.timed.timer (htimers.trans_le (Nat.sub_le _ _))

/-- The timer that fires is the only one. -/
lemma Ok.quiet_fireTimer (h : Ok s) (htimers : 0 < s.timers)
    (hrunning : s.stopRequested = false) : s.fireTimer.Quiet := by
  refine ⟨?_,h.timed.timer htimers hrunning⟩
  have htimers_le := h.timed.timers_le
  show s.timers-1 = 0
  omega

lemma Steady.fireTimer (h : s.started) : Steady s s.fireTimer := by
  refine { Steady.refl h with quiet := fun hquiet _ => ⟨⟨?_,hquiet.2⟩,rfl,fun _ => id⟩ }
  show s.timers-1 = 0
  rw [hquiet.1]

/-- The process that a retry leaves running is a new one. -/
lemma Started.steady (h : Started s.fireTimer .noError t) (hrunning : s.stopRequested = false)
    (hbusy : ¬s.Quiet) (hfire : Grown s s.fireTimer) : Steady s t := by
  have hgrown := hfire.trans h.grown
  cases hstop : t.stopRequested with
  | true => exact hgrown.steady hrunning hstop
  | false =>
    obtain ⟨q,hq,hle⟩ : ∃ q, t.tun2socksProcess = some q ∧ s.processes ≤ q := by
      rcases h.ends with hstop' | herror | hnew
      · rw [hstop] at hstop'
        cases hstop'
      · exact absurd rfl herror
      · exact hnew
    refine ⟨hgrown.started,?_,hgrown.processes,hgrown.fresh,hgrown.launched,?_,?_⟩
    · intro hstop'
      rw [hrunning] at hstop'
      cases hstop'
    · intro p _ hlt hp _
      rw [hp] at hq
      cases hq
      exact absurd hlt (Nat.not_lt.mpr hle)
    · intro hquiet
      exact absurd hquiet hbusy

lemma onRetry_meets {waiting : List Event} (h : Ok s) (ha : Allowed s waiting .retry) :
    Keeps onRetry s := by
  obtain ⟨-,htimers,hconnected⟩ := ha
  have hfire := Steady.fireTimer h.started
  cases hstop : s.stopRequested with
  | true =>
    refine satAt_update_bind ((startTun2Socks_stopped (s := s.fireTimer) hstop).bind ?_)
    rintro _ _ ⟨rfl,rfl⟩
    exact ⟨h.fireTimer,hfire⟩
  | false =>
    have hbusy : ¬s.Quiet := fun hquiet => absurd hquiet.1 (Nat.pos_iff_ne_zero.mp htimers)
    have hstale : ∀ p, s.tun2socksProcess = some p → 0 < s.routings p → .output p ∉ s.posted := by
      intro p _ hrouted hmem
      have hdisconnected := (h.wired.routed p hrouted).2
      rw [hconnected _ hmem] at hdisconnected
      cases hdisconnected
    have hquiet := h.quiet_fireTimer htimers hstop
    refine satAt_update_bind ((startTun2Socks_meets h.fireTimer hstop hquiet hstale).bind ?_)
    intro error t ht
    split
    · next herror =>
      subst herror
      exact ⟨ht.ok,ht.steady hstop hbusy hfire.grown⟩
    · have hgrown := hfire.grown.trans ht.grown
      refine satAt_read_bind ?_
      split
      · next hgone => exact ⟨ht.ok,hgrown.steady hstop (ht.ok.stopped_of_gone hgone)⟩
      · next hgone =>
        have hrunning := running_of_not_gone hgone
        refine (fail_meets hrunning ht.ok.enterStop (ht.ok.booked.restores_eq hrunning) error).mono
          ?_
        rintro _ u ⟨hu,htu,hstopped⟩
        exact ⟨hu,(hgrown.trans htu.grown).steady hstop hstopped⟩

lemma destructor_meets (h : Ok s) : Keeps destructor s := by
  refine (stop_meets h).bind ?_
  rintro _ t ⟨ht,hst,hstop⟩
  have hok : Ok t.destroy :=
    ⟨ht.started,fun _ => hstop,{ ht.booked with },{ ht.wired with },{ ht.timed with }⟩
  have hdestroy : Steady t t.destroy := { Steady.refl ht.started with }
  exact ⟨hok,hst.trans hdestroy⟩

lemma initial_enterStart_ok : Ok initial.enterStart where
  started := rfl
  deleted hdeleted := by cases hdeleted
  booked := by
    refine ⟨?_,?_,Nat.zero_le _,fun _ => rfl,Nat.zero_le _,fun _ => rfl⟩
    · simp [initial,enterStart]
    · intro later earlier heq
      simp [initial,enterStart] at heq
  wired := by
    refine ⟨?_,?_,?_,?_,?_,?_,?_,?_⟩
    all_goals simp [initial,enterStart,Object.Launched,routings]
  timed := by
    refine ⟨?_,?_,?_,?_⟩
    all_goals simp [initial,enterStart]

lemma initial_enterStart_quiet : initial.enterStart.Quiet := by
  refine ⟨rfl,fun p hp => ?_⟩
  cases hp

/-- Before its first process an object has nothing to retry. -/
lemma start_meets (configured : Bool) : Meets (start configured) (fun _ t => Ok t) initial := by
  have hstart : ∀ t, Ok t → Steady initial.enterStart t → t.stopRequested = false →
      Meets startTun2Socks (fun _ u => Ok u) t := by
    intro t ht hst hrunning
    obtain ⟨hquiet,hprocess,-⟩ := hst.quiet initial_enterStart_quiet hrunning
    refine (startTun2Socks_meets ht hrunning hquiet ?_).mono fun _ _ hu => hu.ok
    intro p hp
    rw [hprocess] at hp
    cases hp
  refine satAt_update_bind ?_
  split
  · exact initial_enterStart_ok
  · refine withInterface_meets initial_enterStart_ok (fun t ht hst => ?_) fun t ht _ => ht
    refine satAt_read_bind ?_
    split
    · exact ht
    · refine request_meets ht (by simp) (by simp [Action.Forbidden]) fun reply u hu htu => ?_
      refine satAt_read_bind ?_
      split
      · exact hu
      · next hgone =>
        split
        · exact hu
        · exact hstart u hu (hst.trans htu) (running_of_not_gone hgone)

end

section

/-- Before `start()` there is only the new object. -/
def Valid (waiting : List Event) (s : Object) : Prop := Ok s ∨ waiting = [] ∧ s = .initial

lemma valid_cons (e : Event) (waiting : List Event) : Valid (e::waiting) = Ok := by
  funext s
  simp [Valid]

lemma eq_start_of_allowed_initial {waiting : List Event} {e : Event}
    (h : Allowed .initial waiting e) : ∃ configured, e = .start configured := by
  cases e with
  | start configured => exact ⟨configured,rfl⟩
  | stop => cases h.1
  | destructor => cases h.1
  | post item =>
    cases item with
    | output p => cases h.2
    | exit p => cases h.2.1
  | deliver item => cases h.2
  | retry => cases h.2.1

variable (settings : Settings)

lemma handle_meets {waiting : List Event} {e : Event} {s : Object}
    (h : Ok s) (ha : Allowed s waiting e) : Keeps (handle settings waiting e) s := by
  cases e with
  | start configured =>
    have hstarted : s.started = false := ha
    rw [h.started] at hstarted
    cases hstarted
  | stop => exact (stop_meets h).keeps
  | destructor => exact destructor_meets h
  | post item => exact post_meets h ha
  | deliver item =>
    cases item with
    | output p => exact deliver_output_meets settings h ha.2
    | exit p => exact deliver_exit_meets settings h ha.2
  | retry => exact onRetry_meets h ha

lemma handle_valid (waiting : List Event) (e : Event) (s : Object)
    (ha : Allowed s waiting e) (h : Valid waiting s) :
    (handle settings waiting e).SatAt (Valid (e::waiting)) (fun _ => Rely)
      (fun _ t => Valid waiting t ∧ Rely s t) s := by
  rw [valid_cons]
  rcases h with h | ⟨-,rfl⟩
  · refine (handle_meets settings h ha).mono ?_
    rintro _ t ⟨ht,hst⟩
    exact ⟨.inl ht,fun _ => hst⟩
  · obtain ⟨configured,rfl⟩ := eq_start_of_allowed_initial ha
    refine (start_meets configured).bind ?_
    intro _ t ht
    exact ⟨.inl ht,fun hstarted => by cases hstarted⟩

/-- A run of an object that is started once: what is dispatched and how the waits end. -/
def objectRun (inputs : List (Input Event Reply)) : Config Object Wait Reply Event :=
  run (step (handle settings)) ⟨.initial,[]⟩ inputs

lemma run_valid {inputs : List (Input Event Reply)}
    (h : Guarded (step (handle settings)) (AdmitsAt Allowed) ⟨initial,[]⟩ inputs) :
    Valid (objectRun settings inputs).waiting (objectRun settings inputs).state :=
  Suspended.run (handle settings) (I := Valid) (R := fun _ => Rely) (fun _ => Rely.refl)
    (fun _ _ _ _ => Rely.trans) (handle_valid settings) (c := ⟨.initial,[]⟩)
    (.nil (.inr ⟨rfl,rfl⟩)) h

/-- However the events, the timers, the replies, `stop()` and the deletion are nested, nothing is
set up after `stop()` has been entered, the resolvers are restored once at most, the routing is
set up once at most for each process, and the retries stay within their bound. -/
theorem lifecycle_safe {inputs : List (Input Event Reply)}
    (h : Guarded (step (handle settings)) (AdmitsAt Allowed) ⟨initial,[]⟩ inputs) :
    NothingAfterStop (objectRun settings inputs).state.actions ∧
      (objectRun settings inputs).state.restores ≤ 1 ∧
      (∀ p, (objectRun settings inputs).state.routings p ≤ 1) ∧
      (objectRun settings inputs).state.retries ≤ maxTun2SocksRetries := by
  rcases run_valid settings h with hok | ⟨-,hinitial⟩
  · exact ⟨hok.booked.after,hok.booked.restores_le,hok.wired.routings_le,hok.booked.retries_le⟩
  · rw [hinitial]
    refine ⟨?_,Nat.zero_le _,fun _ => Nat.zero_le _,Nat.zero_le _⟩
    intro later earlier heq
    simp [initial] at heq

/-- There is one retry timer at most, and none while an exit of the current process may come. -/
theorem retry_timer_alone {inputs : List (Input Event Reply)}
    (h : Guarded (step (handle settings)) (AdmitsAt Allowed) ⟨initial,[]⟩ inputs) :
    Timed (objectRun settings inputs).state := by
  rcases run_valid settings h with hok | ⟨-,hinitial⟩
  · exact hok.timed
  · rw [hinitial]
    constructor <;> simp [initial]

/-- The first process finds the device busy. The second one is told to stop while its tunnel is
created, with another output of it still posted. -/
def stoppedRun : List (Input Event Reply) :=
  let yes := Input.answer ⟨true,true,""⟩
  let stack := Input.answer ⟨true,true,"[STACK] tun://utun22 <-> socks5://127.0.0.1"⟩
  [.dispatch (.start true)]++List.replicate 8 yes++
    [.dispatch (.post (.exit 0)),.dispatch (.deliver (.exit 0)),
      .answer ⟨true,true,"create tun: resource busy"⟩,.dispatch .retry]++List.replicate 6 yes++
    [.dispatch (.post (.output 1)),.dispatch (.post (.output 1)),
      .dispatch (.deliver (.output 1)),stack,yes,.dispatch .stop,yes,yes,yes,
      .dispatch (.deliver (.output 1)),.dispatch .destructor]

def stoppedObject : Object := (objectRun ⟨true,true⟩ stoppedRun).state

theorem stoppedRun_timed : Timed stoppedObject := retry_timer_alone ⟨true,true⟩ (by decide)

theorem stoppedRun_safe : stoppedObject.actions.count (.startProcess 1) = 1 ∧
      stoppedObject.actions.count (.request .createTun) = 1 ∧
      stoppedObject.restores = 1 ∧ stoppedObject.retries = 1 ∧
      stoppedObject.connectionState = .disconnected ∧ stoppedObject.deleted ∧
      NothingAfterStop stoppedObject.actions ∧ ∀ p, stoppedObject.routings p ≤ 1 := by
  have hrun : Guarded (step (handle ⟨true,true⟩)) (AdmitsAt Allowed) ⟨initial,[]⟩
      stoppedRun := by decide
  obtain ⟨hafter,-,hroutings,-⟩ := lifecycle_safe _ hrun
  obtain ⟨hstart,hcreate,hrestores,hretries,hstate,hdeleted⟩ :
      stoppedObject.actions.count (.startProcess 1) = 1 ∧
      stoppedObject.actions.count (.request .createTun) = 1 ∧
      stoppedObject.restores = 1 ∧ stoppedObject.retries = 1 ∧
      stoppedObject.connectionState = .disconnected ∧ stoppedObject.deleted := by
    decide
  exact ⟨hstart,hcreate,hrestores,hretries,hstate,hdeleted,hafter,hroutings⟩

end

end AlzheimerVPN.XrayLifecycle
