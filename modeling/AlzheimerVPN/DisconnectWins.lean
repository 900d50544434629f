import AlzheimerVPN.LifecycleSteps

/-! Whether an explicit disconnect wins: once `disconnectFromVpn` has been entered, no
protocol object is created, started or used while null before the next `connectToVpn`.
It does in runs in which the event loop dispatches no disconnect on top of a slot that
goes on with the protocol object, and no reconnect on top of a disconnect. -/
namespace AlzheimerVPN.Lifecycle

open Reentrancy Runs List Bool

/-- After a disconnect, with the latest action first, there are only disconnects until
the next connection begins. -/
def DisconnectWins (actions : List Action) : Prop :=
  ∀ later earlier, actions = later++.disconnectFromVpn::earlier → .connectToVpn ∉ later →
    ∀ action ∈ later, action = .disconnectFromVpn

/-- A disconnect has been entered, and no connection has begun since. -/
def cancelled : List Action → Bool
  | [] => false
  | .connectToVpn::_ => false
  | .disconnectFromVpn::_ => true
  | _::earlier => cancelled earlier

lemma cancelled_append {later earlier : List Action} (h : .connectToVpn ∉ later) :
    cancelled (later++.disconnectFromVpn::earlier) := by
  induction later with
  | nil => rfl
  | cons action later ih =>
    have hrest := ih fun hm => h (mem_cons_of_mem _ hm)
    cases action with
    | connectToVpn => exact absurd mem_cons_self h
    | disconnectFromVpn => rfl
    | create => exact hrest
    | start => exact hrest
    | nullDereference => exact hrest

lemma disconnectWins_cons {action : Action} {actions : List Action}
    (h : DisconnectWins actions)
    (ha : cancelled actions → action = .disconnectFromVpn ∨ action = .connectToVpn) :
    DisconnectWins (action::actions) := by
  intro later earlier heq hc a hm
  cases later with
  | nil => cases hm
  | cons latest later =>
    obtain ⟨rfl,rfl⟩ := List.cons.inj heq
    have hlater : .connectToVpn ∉ later := fun hm => hc (mem_cons_of_mem _ hm)
    rcases mem_cons.mp hm with rfl | hm
    · refine (ha (cancelled_append hlater)).resolve_right fun hcon => hc ?_
      rw [hcon]
      exact mem_cons_self
    · exact h later earlier rfl hlater a hm

lemma cancelled_new {new actions : List Action} (h : cancelled actions = false)
    (hn : .disconnectFromVpn ∉ new) : cancelled (new++actions) = false := by
  induction new with
  | nil => exact h
  | cons action new ih =>
    have hrest := ih fun hm => hn (mem_cons_of_mem _ hm)
    cases action with
    | disconnectFromVpn => exact absurd mem_cons_self hn
    | connectToVpn => rfl
    | create => exact hrest
    | start => exact hrest
    | nullDereference => exact hrest

/-- Nothing recorded before the next disconnect is held against the connection. -/
lemma disconnectWins_new {new actions : List Action} (hw : DisconnectWins actions)
    (h : cancelled actions = false) (hn : .disconnectFromVpn ∉ new) :
    DisconnectWins (new++actions) := by
  induction new with
  | nil => exact hw
  | cons action new ih =>
    have hnew : .disconnectFromVpn ∉ new := fun hm => hn (mem_cons_of_mem _ hm)
    refine disconnectWins_cons (ih hnew) fun hc => ?_
    exact absurd ((cancelled_new h hnew).symm.trans hc) false_ne_true

namespace Connection

/-- A connection that a disconnect has left for good. -/
structure Settled (s : Connection) : Prop where
  protocol : s.vpnProtocol.isSome = false
  pending : s.pendingNetworkAction = .none

/-- No slot that could bring the protocol back waits any more, or a disconnect still does
and will end it. -/
structure Sound (waiting : List Event) (s : Connection) : Prop where
  wins : DisconnectWins s.actions
  released : cancelled s.actions → ∀ e ∈ waiting, e.holdsProtocol = false
  settled : cancelled s.actions →
    .disconnectFromVpn ∈ waiting ∨ s.Settled ∧ ∀ e ∈ waiting, e.usesProtocol = false

/-- What a slot that uses the protocol can rely on in its waits: no disconnect comes, and
after one that came before neither the protocol object nor the pending action changes. -/
def Rely (waiting : List Event) (s t : Connection) : Prop :=
  (∃ e ∈ waiting, e.usesProtocol) → cancelled t.actions →
    cancelled s.actions ∧ t.vpnProtocol.isSome = s.vpnProtocol.isSome ∧
      (s.pendingNetworkAction = .none → t.pendingNetworkAction = .none)

end Connection

open Connection

section

variable {waiting : List Event} {e : Event} {s t u : Connection}

lemma rely_refl (waiting : List Event) (s : Connection) : Rely waiting s s :=
  fun _ h => ⟨h,rfl,id⟩

lemma rely_trans (waiting : List Event) (s t u : Connection) (h : Rely waiting s t)
    (k : Rely waiting t u) : Rely waiting s u := by
  intro hw hu
  obtain ⟨ht,hp,hn⟩ := k hw hu
  obtain ⟨hs,hp',hn'⟩ := h hw ht
  exact ⟨hs,hp.trans hp',hn ∘ hn'⟩

lemma Connection.Rely.tail (h : Rely (e::waiting) s t) : Rely waiting s t := by
  rintro ⟨f,hf,hu⟩ ht
  exact h ⟨f,mem_cons_of_mem _ hf,hu⟩ ht

lemma Neutral.rely (h : Neutral s t) : Rely waiting s t :=
  fun _ ht => ⟨h.actions ▸ ht,h.protocol,h.pending⟩

lemma rely_of_not_cancelled (h : cancelled t.actions = false) : Rely waiting s t := by
  intro _ ht
  rw [h] at ht
  cases ht

lemma Connection.Sound.neutral (hs : Sound waiting s) (h : Neutral s t) : Sound waiting t where
  wins := h.actions ▸ hs.wins
  released := fun ht => hs.released (h.actions ▸ ht)
  settled := by
    intro ht
    refine (hs.settled (h.actions ▸ ht)).imp_right fun hset => ?_
    exact ⟨⟨h.protocol.trans hset.1.protocol,h.pending hset.1.pending⟩,hset.2⟩

lemma sound_of_not_cancelled (hw : DisconnectWins s.actions)
    (h : cancelled s.actions = false) : Sound waiting s where
  wins := hw
  released := by simp [h]
  settled := by simp [h]

/-- A slot that does not use the protocol makes no difference to the company. -/
lemma sound_cons_iff (he : e.usesProtocol = false) : Sound (e::waiting) s ↔ Sound waiting s := by
  have hd : Event.disconnectFromVpn ≠ e := by
    rintro rfl
    cases he
  have hh : e.holdsProtocol = false := by
    cases hhe : e.holdsProtocol with
    | false => rfl
    | true => exact absurd (he.symm.trans (Event.usesProtocol_of_holdsProtocol hhe)) false_ne_true
  constructor
  · intro h
    refine ⟨h.wins,fun hc f hf => h.released hc f (mem_cons_of_mem _ hf),fun hc => ?_⟩
    rcases h.settled hc with hm | ⟨hset,hu⟩
    · exact .inl ((mem_cons.mp hm).resolve_left hd)
    · exact .inr ⟨hset,fun f hf => hu f (mem_cons_of_mem _ hf)⟩
  · intro h
    refine ⟨h.wins,fun hc => forall_mem_cons.mpr ⟨hh,h.released hc⟩,fun hc => ?_⟩
    rcases h.settled hc with hm | ⟨hset,hu⟩
    · exact .inl (mem_cons_of_mem _ hm)
    · exact .inr ⟨hset,forall_mem_cons.mpr ⟨he,hu⟩⟩

end

section

variable {waiting : List Event} {e : Event} {s : Connection}

/-- What a slot owes to those it was dispatched on top of. -/
abbrev Keeps (waiting : List Event) (e : Event) (s : Connection) (t : Connection)
    (p : Slot Unit) : Prop :=
  p.SatAt (Sound (e::waiting)) (fun _ => Rely (e::waiting))
    (fun _ u => Sound waiting u ∧ Rely waiting s u) t

lemma keeps_neutral (he : e.usesProtocol = false) (hs : Sound waiting s) :
    Keeps waiting e s s (handle waiting e) := by
  have hin := (sound_cons_iff he).mpr hs
  have hsat : (handle waiting e s).Sat (Sound (e::waiting)) (fun _ => Rely (e::waiting))
      fun _ t => Sound (e::waiting) t ∧ Rely (e::waiting) s t :=
    (handle_neutral waiting e he s).sat ⟨hin,rely_refl _ s⟩ (fun _ h => h.1)
      (fun _ t u _ ht hu htu => ⟨hu,rely_trans _ s t u ht.2 htu⟩)
      (fun t u ht hn => ⟨ht.1.neutral hn,rely_trans _ s t u ht.2 hn.rely⟩)
  exact hsat.mono fun _ t ht => ⟨(sound_cons_iff he).mp ht.1,ht.2.tail⟩

/-- As long as no disconnect comes, a slot may do with the protocol what it likes. -/
lemma keeps_live {p : Slot Unit} (hp : p.Steps anyWait Progress) (he : e.usesProtocol)
    {t : Connection} (hw : DisconnectWins t.actions) (hc : cancelled t.actions = false) :
    Keeps waiting e s t p := by
  have hsat : (p t).Sat (Sound (e::waiting)) (fun _ => Rely (e::waiting))
      fun _ u => DisconnectWins u.actions ∧ cancelled u.actions = false := by
    refine (hp t).sat ⟨hw,hc⟩ (fun _ h => sound_of_not_cancelled h.1 h.2) ?_ ?_
    · intro _ t u _ ht hu hr
      refine ⟨hu.wins,?_⟩
      by_contra hcu
      have hct := (hr ⟨e,mem_cons_self,he⟩ (by simpa using hcu)).1
      exact absurd (ht.2.symm.trans hct) false_ne_true
    · rintro t u ⟨hwt,hct⟩ ⟨new,hnew,hn⟩
      exact ⟨hnew ▸ disconnectWins_new hwt hct hn,hnew ▸ cancelled_new hct hn⟩
  exact hsat.mono fun _ u hu => ⟨sound_of_not_cancelled hu.1 hu.2,rely_of_not_cancelled hu.2⟩

/-- With no protocol and nothing pending, a reconnect returns at once. -/
lemma handle_settled (he : e.reconnects) (hs : s.Settled) :
    ∃ t, handle waiting e s = .done () t ∧ Neutral s t := by
  have hnone : s.vpnProtocol = none := by simpa using hs.protocol
  have hreconnect : reconnectToVpn s = .done () s := by simp [reconnectToVpn,hnone]
  have hresume : resumePendingNetworkAction s = .done () s := by
    simp [resumePendingNetworkAction,hs.pending]
  have hs' : Neutral s s := refl_of Neutral s
  cases e with
  | networkChanged => exact ⟨s,hreconnect,hs'⟩
  | wakeup => exact ⟨s,hreconnect,hs'⟩
  | resumePendingNetworkAction => exact ⟨s,hresume,hs'⟩
  | physicalNetworkReadyChanged ready =>
    cases ready with
    | false => exact ⟨s,rfl,hs'⟩
    | true => exact ⟨s,hresume,hs'⟩
  | pendingNetworkTimer =>
    cases ht : s.pendingNetworkTimer with
    | false => exact ⟨s,by simp [handle,ht],hs'⟩
    | true => exact ⟨s,by simp [handle,ht,hresume],hs'⟩
  | connectedRecoveryTimer =>
    cases ht : s.connectedRecoveryTimer with
    | false => exact ⟨s,by simp [handle,ht],hs'⟩
    | true =>
      have hrecover : s.stopConnectedRecovery.canRecover = false := by
        simp [Connection.canRecover,Connection.stopConnectedRecovery,hnone]
      exact ⟨s.stopConnectedRecovery,by simp [handle,ht,hrecover],⟨rfl,rfl,id⟩⟩
  | _ => cases he

lemma keeps_reconnect (he : e.reconnects) (hd : .disconnectFromVpn ∉ waiting)
    (hs : Sound waiting s) : Keeps waiting e s s (handle waiting e) := by
  have hu := Event.usesProtocol_of_holdsProtocol (Event.holdsProtocol_of_reconnects he)
  cases hc : cancelled s.actions with
  | false => exact keeps_live (handle_reconnects waiting e he) hu hs.wins hc
  | true =>
    have hset := ((hs.settled hc).resolve_left hd).1
    obtain ⟨t,ht,hn⟩ : ∃ t, handle waiting e s = .done () t ∧ Neutral s t := handle_settled he hset
    change (handle waiting e s).Sat _ _ _
    rw [ht]
    exact ⟨hs.neutral hn,hn.rely⟩

lemma keeps_connect (serverId : String) (container : DockerContainer) (hs : Sound waiting s) :
    Keeps waiting (.connectToVpn serverId container) s s
      (handle waiting (.connectToVpn serverId container)) := by
  refine satAt_update_bind ?_
  have hw : DisconnectWins (s.record .connectToVpn).actions :=
    disconnectWins_cons hs.wins fun _ => .inr rfl
  exact keeps_live (openConnection_steps serverId container) rfl hw rfl

lemma fromProtocol_idle (hs : s.vpnProtocol.isSome = false)
    (hw : ∀ e ∈ waiting, e.holdsProtocol = false) (connected : Protocol → Bool)
    (slot : Slot Unit) : fromProtocol connected waiting slot s = .done () s := by
  have hany : waiting.any Event.holdsProtocol = false := by simpa using hw
  have hnone : s.vpnProtocol = none := by simpa using hs
  simp [fromProtocol,hnone,hany]

lemma handle_idle (he : e.usesProtocol) (hh : e.holdsProtocol = false)
    (hd : e ≠ .disconnectFromVpn) (hs : s.vpnProtocol.isSome = false)
    (hw : ∀ e ∈ waiting, e.holdsProtocol = false) : handle waiting e s = .done () s := by
  cases e with
  | disconnectFromVpn => exact absurd rfl hd
  | siteRouteTimer => exact fromProtocol_idle hs hw _ _
  | protocolStateChanged state error => exact fromProtocol_idle hs hw _ _
  | _ => simp [Event.usesProtocol,hh] at he

/-- The slot of a signal runs in a sound company, with a protocol object while a
disconnect is under way, and has changed nothing the others rely on. -/
structure Signalled (waiting : List Event) (e : Event) (s t : Connection) : Prop where
  sound : Sound (e::waiting) t
  protocol : cancelled t.actions → t.vpnProtocol.isSome
  rely : Rely (e::waiting) s t

lemma Signalled.wait {t u : Connection} (he : e.usesProtocol)
    (h : Signalled waiting e s t) (hu : Sound (e::waiting) u) (hr : Rely (e::waiting) t u) :
    Signalled waiting e s u := by
  refine ⟨hu,fun hcu => ?_,rely_trans _ s t u h.rely hr⟩
  obtain ⟨hct,hp,-⟩ := hr ⟨e,mem_cons_self,he⟩ hcu
  exact hp.trans (h.protocol hct)

lemma Signalled.held {t u : Connection} (h : Signalled waiting e s t) (hu : Held t u) :
    Signalled waiting e s u := by
  obtain ⟨⟨new,hnew,hn⟩,hneutral⟩ := hu
  cases hct : cancelled t.actions with
  | true =>
    have hp := h.protocol hct
    have htu := hneutral hp
    exact ⟨h.sound.neutral htu,fun _ => htu.protocol.trans hp,rely_trans _ s t u h.rely htu.rely⟩
  | false =>
    have hcu : cancelled u.actions = false := hnew ▸ cancelled_new hct hn
    have hwu : DisconnectWins u.actions := hnew ▸ disconnectWins_new h.sound.wins hct hn
    exact ⟨sound_of_not_cancelled hwu hcu,by simp [hcu],rely_of_not_cancelled hcu⟩

lemma Signalled.keeps {t : Connection} (he : e.usesProtocol)
    (hd : e ≠ .disconnectFromVpn) (h : Signalled waiting e s t) :
    Sound waiting t ∧ Rely waiting s t := by
  refine ⟨⟨h.sound.wins,fun hc f hf => h.sound.released hc f (mem_cons_of_mem _ hf),
    fun hc => ?_⟩,h.rely.tail⟩
  rcases h.sound.settled hc with hm | ⟨-,hunused⟩
  · exact .inl ((mem_cons.mp hm).resolve_left (Ne.symm hd))
  · exact absurd ((hunused e mem_cons_self).symm.trans he) false_ne_true

/-- After a disconnect only the object that it has still to stop can signal, and it
stays there while its signal is handled. -/
lemma keeps_held (he : e.usesProtocol) (hh : e.holdsProtocol = false)
    (hd : e ≠ .disconnectFromVpn) (hs : Sound waiting s) :
    Keeps waiting e s s (handle waiting e) := by
  have hrun : Signalled waiting e s s → Keeps waiting e s s (handle waiting e) := by
    intro h
    have hsat : (handle waiting e s).Sat (Sound (e::waiting)) (fun _ => Rely (e::waiting))
        fun _ t => Signalled waiting e s t :=
      (handle_held waiting e he hh hd s).sat h (fun _ h => h.sound)
        (fun _ _ _ _ ht hu hr => ht.wait he hu hr) fun _ _ ht hu => ht.held hu
    exact hsat.mono fun _ t ht => ht.keeps he hd
  cases hc : cancelled s.actions with
  | false => exact hrun ⟨sound_of_not_cancelled hs.wins hc,by simp [hc],rely_refl _ s⟩
  | true =>
    cases hp : s.vpnProtocol.isSome with
    | false =>
      change (handle waiting e s).Sat _ _ _
      rw [handle_idle he hh hd hp (hs.released hc)]
      exact ⟨hs,rely_refl waiting s⟩
    | true =>
      have hdisc : Event.disconnectFromVpn ∈ waiting := by
        refine (hs.settled hc).resolve_right fun hset => ?_
        exact absurd (hset.1.protocol.symm.trans hp) false_ne_true
      refine hrun ⟨⟨hs.wins,fun _ => ?_,fun _ => .inl (mem_cons_of_mem _ hdisc)⟩,fun _ => hp,
        rely_refl _ s⟩
      exact forall_mem_cons.mpr ⟨hh,hs.released hc⟩

end

section

variable {waiting : List Event} {present : Bool} {s t : Connection}

/-- Below a disconnect that waits, only the record of actions matters. -/
lemma Connection.Sound.leave (h : Sound (.disconnectFromVpn::waiting) s)
    (ha : t.actions = s.actions) : Sound (.disconnectFromVpn::waiting) t :=
  ⟨ha ▸ h.wins,fun hc => h.released (ha ▸ hc),fun _ => .inl mem_cons_self⟩

/-- The disconnect has dropped the pending action; `present` tells whether it still has
a protocol object to stop. -/
structure Leaving (waiting : List Event) (present : Bool) (s : Connection) : Prop where
  sound : Sound (.disconnectFromVpn::waiting) s
  pending : cancelled s.actions → s.pendingNetworkAction = .none
  protocol : cancelled s.actions → s.vpnProtocol.isSome = present

lemma Leaving.satAt {p : Slot Unit} (hp : p.Steps anyWait Neutral) (h : Leaving waiting present s) :
    p.SatAt (Sound (.disconnectFromVpn::waiting)) (fun _ => Rely (.disconnectFromVpn::waiting))
      (fun _ t => Leaving waiting present t) s := by
  refine (hp s).sat h (fun _ h => h.sound) ?_ ?_
  · intro _ t u _ ht hu hr
    have hrely := hr ⟨_,mem_cons_self,rfl⟩
    refine ⟨hu,fun hc => ?_,fun hc => ?_⟩
    · exact (hrely hc).2.2 (ht.pending (hrely hc).1)
    · exact (hrely hc).2.1.trans (ht.protocol (hrely hc).1)
  · intro t u ht hn
    refine ⟨ht.sound.neutral hn,fun hc => ?_,fun hc => ?_⟩
    · exact hn.pending (ht.pending (hn.actions ▸ hc))
    · exact hn.protocol.trans (ht.protocol (hn.actions ▸ hc))

/-- With the object gone the disconnect is through. -/
lemma Leaving.keeps (hw : ∀ e ∈ waiting, e.usesProtocol = false) (h : Leaving waiting false t) :
    Sound waiting t ∧ Rely waiting s t := by
  refine ⟨⟨h.sound.wins,fun hc e he => ?_,fun hc => .inr ⟨⟨h.protocol hc,h.pending hc⟩,hw⟩⟩,?_⟩
  · exact h.sound.released hc e (mem_cons_of_mem _ he)
  · rintro ⟨e,he,hu⟩
    exact absurd ((hw e he).symm.trans hu) false_ne_true

lemma Leaving.dereference (h : Leaving waiting true s) :
    Leaving waiting true (if s.vpnProtocol.isNone then s.record .nullDereference else s) := by
  split
  · rename_i hn
    have hc : cancelled s.actions = false := by
      by_contra hc
      have hp := h.protocol (by simpa using hc)
      simp [Option.isNone_iff_eq_none.mp hn] at hp
    have hc' : cancelled (s.record .nullDereference).actions = false := hc
    have hw : DisconnectWins (s.record .nullDereference).actions :=
      disconnectWins_cons h.sound.wins (by simp [hc])
    exact ⟨sound_of_not_cancelled hw hc',by simp [hc'],by simp [hc']⟩
  · exact h

lemma Leaving.drop (h : Leaving waiting present s) : Leaving waiting false (s.setProtocol none) :=
  ⟨h.sound.leave rfl,h.pending,fun _ => rfl⟩

lemma keeps_disconnect (hw : ∀ e ∈ waiting, e.usesProtocol = false) (hs : Sound waiting s) :
    Keeps waiting .disconnectFromVpn s s (handle waiting .disconnectFromVpn) := by
  have hsound : Sound (.disconnectFromVpn::waiting) (s.record .disconnectFromVpn) := by
    refine ⟨disconnectWins_cons hs.wins fun _ => .inl rfl,fun _ => ?_,fun _ => .inl mem_cons_self⟩
    refine forall_mem_cons.mpr ⟨rfl,fun e he => ?_⟩
    by_contra hh
    have hu := Event.usesProtocol_of_holdsProtocol (by simpa using hh)
    exact absurd ((hw e he).symm.trans hu) false_ne_true
  refine satAt_update_bind ?_
  have hipc : (discard ipc : Slot Unit).SatAt (Sound (.disconnectFromVpn::waiting))
      (fun _ => Rely (.disconnectFromVpn::waiting))
      (fun _ t => Sound (.disconnectFromVpn::waiting) t) (s.record .disconnectFromVpn) :=
    ⟨hsound,fun _ _ ht _ => ht⟩
  refine hipc.bind fun _ t ht => satAt_update_bind (satAt_read_bind ?_)
  split
  · rename_i hn
    have hgone : Leaving waiting false t.cancelConnection :=
      ⟨ht.leave rfl,fun _ => rfl,fun _ => by simpa using hn⟩
    exact (hgone.satAt (setConnectionState_steps (by simp))).mono fun _ _ hu => hu.keeps hw
  · rename_i hn
    have hpresent : Leaving waiting true t.cancelConnection :=
      ⟨ht.leave rfl,fun _ => rfl,fun _ => by simpa [Option.isSome_iff_ne_none] using hn⟩
    refine (hpresent.satAt (setConnectionState_steps (by simp))).bind fun _ u hu => ?_
    have hstop : stopProtocol.SatAt (Sound (.disconnectFromVpn::waiting))
        (fun _ => Rely (.disconnectFromVpn::waiting)) (fun _ v => Leaving waiting true v) u :=
      satAt_update_bind (hu.dereference.satAt (steps_waitFor trivial).discard)
    refine hstop.bind fun _ v hv => satAt_update_bind (satAt_read_bind ?_)
    split
    · exact (hv.drop.satAt (setConnectionState_steps (by simp))).mono fun _ _ hu => hu.keeps hw
    · exact hv.drop.keeps hw

end

/-- The event does not cross a disconnect: a disconnect is not dispatched while a slot
that uses the protocol waits, and no reconnect while a disconnect waits. -/
def Undisturbed (waiting : List Event) (e : Event) : Prop :=
  (e = .disconnectFromVpn → ∀ f ∈ waiting, f.usesProtocol = false) ∧
  (e.reconnects → .disconnectFromVpn ∉ waiting)

instance (waiting : List Event) (e : Event) : Decidable (Undisturbed waiting e) :=
  inferInstanceAs (Decidable (_ ∧ _))

lemma handle_keeps (waiting : List Event) (e : Event) (s : Connection)
    (he : Undisturbed waiting e) (hs : Sound waiting s) :
    Keeps waiting e s s (handle waiting e) := by
  cases hu : e.usesProtocol with
  | false => exact keeps_neutral hu hs
  | true =>
    by_cases hd : e = .disconnectFromVpn
    · subst hd
      exact keeps_disconnect (he.1 rfl) hs
    · cases hh : e.holdsProtocol with
      | false => exact keeps_held hu hh hd hs
      | true =>
        by_cases hc : ∃ serverId container, e = .connectToVpn serverId container
        · obtain ⟨serverId,container,rfl⟩ := hc
          exact keeps_connect serverId container hs
        · have hr := Event.reconnects_of_holdsProtocol hh fun serverId container heq =>
            hc ⟨serverId,container,heq⟩
          exact keeps_reconnect hr (he.2 hr) hs

/-- In a run without crossed disconnects every explicit disconnect wins. -/
theorem explicit_disconnect_wins (settings : Option Settings) (inputs : List (Input Event Answer))
    (h : Guarded step (Admits Undisturbed) (start settings) inputs) :
    Always step (fun c => DisconnectWins c.state.actions) (start settings) inputs := by
  intro pre hpre
  have hg : Guarded step (Admits Undisturbed) (start settings) pre :=
    fun before i hi => h before i (hi.trans hpre)
  have hinitial : Sound [] (initial settings) :=
    sound_of_not_cancelled (by intro later earlier heq; simp [initial] at heq) rfl
  exact (run_holds handle rely_refl rely_trans handle_keeps hinitial hg).wins

/-- It is replaced after a network change, disconnected with a timer firing meanwhile, and
told of a network change again. -/
def calmRun : List (Input Event Answer) :=
  connected++[.dispatch .networkChanged,success,success,success,success,
    .dispatch .disconnectFromVpn,.dispatch .healthTimer,success,
    .dispatch (.protocolStateChanged .disconnected .noError),success,.dispatch .networkChanged]

theorem calm_disconnect_wins :
    Guarded step (Admits Undisturbed) (start (some awgSettings)) calmRun ∧
      (run step (start (some awgSettings)) calmRun).state.actions =
        [.disconnectFromVpn,.start,.create,.start,.create,.connectToVpn] ∧
      Always step (fun c => DisconnectWins c.state.actions) (start (some awgSettings)) calmRun := by
  have hcalm : Guarded step (Admits Undisturbed) (start (some awgSettings)) calmRun := by
    decide
  exact ⟨hcalm,by decide,explicit_disconnect_wins _ _ hcalm⟩

lemma not_disconnectWins {actions later earlier : List Action} (action : Action)
    (heq : actions = later++.disconnectFromVpn::earlier) (hc : .connectToVpn ∉ later)
    (hm : action ∈ later) (ha : action ≠ .disconnectFromVpn) : ¬DisconnectWins actions :=
  fun h => ha (h later earlier heq hc action hm)

/-- A disconnect inside the wait of `connectToVpn` for its protection is forgotten. -/
def disconnectInConnect : List (Input Event Answer) :=
  [.dispatch (.connectToVpn "server" .awg),success,.dispatch .disconnectFromVpn,success,
    success,success]

/-- A disconnect inside the wait of `reconnectToVpn` for the network leaves it a null
pointer. -/
def disconnectInReconnect : List (Input Event Answer) :=
  connected++[.dispatch .networkChanged,.dispatch .disconnectFromVpn,success,success,
    success,success]

/-- A network change inside the wait of `disconnectFromVpn` starts a new protocol. -/
def reconnectInDisconnect : List (Input Event Answer) :=
  connected++[.dispatch .disconnectFromVpn,.dispatch .networkChanged,success,success,success]

theorem crossed_disconnect_loses :
    (¬DisconnectWins (run step (start (some awgSettings)) disconnectInConnect).state.actions) ∧
      (¬DisconnectWins (run step (start (some awgSettings)) disconnectInReconnect).state.actions) ∧
      ¬DisconnectWins (run step (start (some awgSettings)) reconnectInDisconnect).state.actions := by
  have hconnect : (run step (start (some awgSettings)) disconnectInConnect).state.actions =
      [.start,.create]++.disconnectFromVpn::[.connectToVpn] := by decide
  have hreconnect : (run step (start (some awgSettings)) disconnectInReconnect).state.actions =
      [.nullDereference]++.disconnectFromVpn::[.start,.create,.connectToVpn] := by decide
  have hdisconnect : (run step (start (some awgSettings)) reconnectInDisconnect).state.actions =
      [.start,.create]++.disconnectFromVpn::[.start,.create,.connectToVpn] := by decide
  exact ⟨not_disconnectWins .start hconnect (by decide) (by decide) (by decide),
    not_disconnectWins .nullDereference hreconnect (by decide) (by decide) (by decide),
    not_disconnectWins .start hdisconnect (by decide) (by decide) (by decide)⟩

end AlzheimerVPN.Lifecycle
