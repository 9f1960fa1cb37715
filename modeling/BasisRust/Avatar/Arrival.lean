import BasisRust.Avatar.Tick

/-!
# Avatar updates in any order

What a player's state shows after updates that arrived in any order, with ticks anywhere between them.  A
tick judges an update by its number, so whatever the ticks pick up, the newest of it stays.  In front of
the ticks an update that arrives takes the place of the one that waits, whichever of the two is newer: the
newest update is shown exactly when some tick finds it waiting.
-/

namespace BasisRust.Avatar

open Lib Protocol Transport

/-! ### The runs of the system -/

inductive AvatarEvent where
  | upsert (peerId : PeerId) (channel : UInt8) (payload : Bytes)
  /-- `pending` is iterated in the order of the keys -/
  | tick (keys : List PeerId)
  | remove (peerId : PeerId)
  deriving DecidableEq

/-- What `upsert_from_channel_payload` stores, if it accepts the payload. -/
def acceptedUpdate (channel : UInt8) (payload : Bytes) : Option PendingAvatarUpdate :=
  let expected := (qualityOfChannel channel).payloadLen
  if payload.length < 1 + expected then none else some ⟨channel, payload.take (1 + expected)⟩

/-- The update of the player that arrives with the event. -/
def AvatarEvent.arrival (peerId : PeerId) : AvatarEvent → Option PendingAvatarUpdate
  | upsert q channel payload => if q = peerId then acceptedUpdate channel payload else none
  | _ => none

/-- The player's updates in the order they arrive. -/
def arrivals (peerId : PeerId) (events : List AvatarEvent) : List PendingAvatarUpdate :=
  events.filterMap (AvatarEvent.arrival peerId)

/-- A tick finds the update waiting: it arrived, and no other update of the player came between. -/
def PickedUp (peerId : PeerId) (update : PendingAvatarUpdate) (events : List AvatarEvent) : Prop :=
  ∃ before keys after, events = before ++ .tick keys :: after ∧ (arrivals peerId before).getLast? = some update

namespace TickState

def after (s : TickState) : AvatarEvent → Option TickState
  | .upsert peerId channel payload =>
    some { s with system := s.system.upsertFromChannelPayload peerId channel payload }
  | .tick keys => (s.processPendingUpdates keys).map Prod.snd
  | .remove peerId => some { s with system := s.system.removePlayer peerId }

/-- A tick goes over the keys of `pending`. -/
def Ready (s : TickState) : AvatarEvent → Prop
  | .tick keys => keys.Perm s.system.pending.keys
  | _ => True

instance (s : TickState) : (event : AvatarEvent) → Decidable (s.Ready event)
  | .upsert _ _ _ => isTrue trivial
  | .tick _ => inferInstanceAs (Decidable (List.Perm _ _))
  | .remove _ => isTrue trivial

def Steps (s : TickState) (event : AvatarEvent) (t : TickState) : Prop :=
  s.Ready event ∧ s.after event = some t

end TickState

/-! ### What one event does to a player -/

lemma upsertFromChannelPayload_eq (peerId : PeerId) (channel : UInt8) (payload : Bytes) (system : AvatarSyncSystem) :
    system.upsertFromChannelPayload peerId channel payload =
      match acceptedUpdate channel payload with
      | none => system
      | some update => { system with pending := system.pending.insert peerId update } := by
  rw [AvatarSyncSystem.upsertFromChannelPayload, acceptedUpdate]
  by_cases hshort : payload.length < 1 + (qualityOfChannel channel).payloadLen
  · rw [if_pos hshort, if_pos hshort, ite_self]
  · have hne : payload ≠ [] := by
      rintro rfl
      exact hshort (by rw [List.length_nil]; omega)
    rw [if_neg hshort, if_neg hshort, if_neg hne]

lemma whole_of_acceptedUpdate {channel : UInt8} {payload : Bytes} {update : PendingAvatarUpdate}
    (h : acceptedUpdate channel payload = some update) : update.Whole := by
  rw [acceptedUpdate] at h
  by_cases hshort : payload.length < 1 + (qualityOfChannel channel).payloadLen
  · rw [if_pos hshort] at h
    cases h
  · rw [if_neg hshort] at h
    obtain rfl := Option.some.inj h
    rw [PendingAvatarUpdate.Whole, PendingAvatarUpdate.quality, List.length_take]
    exact min_eq_left (not_lt.mp hshort)

lemma whole_of_arrival {peerId : PeerId} {event : AvatarEvent} {update : PendingAvatarUpdate}
    (h : event.arrival peerId = some update) : update.Whole := by
  cases event with
  | upsert q channel payload =>
    rw [AvatarEvent.arrival] at h
    by_cases hq : q = peerId
    · rw [if_pos hq] at h
      exact whole_of_acceptedUpdate h
    · rw [if_neg hq] at h
      cases h
  | tick keys => cases h
  | remove q => cases h

namespace TickState

/-- What an event does to the two entries of a player. -/
inductive PlayerStep (peerId : PeerId) (s t : TickState) (event : AvatarEvent) : Prop
  | arrives (update : PendingAvatarUpdate) (harrival : event.arrival peerId = some update)
      (hstates : t.system.states.lookup peerId = s.system.states.lookup peerId)
      (hpending : t.system.pending.lookup peerId = some update)
  | ticks (keys : List PeerId) (hevent : event = .tick keys) (hpending : t.system.pending.lookup peerId = none)
      (hquiet : s.system.pending.lookup peerId = none →
        t.system.states.lookup peerId = s.system.states.lookup peerId)
      (hstored : ∀ update, s.system.pending.lookup peerId = some update →
        Stored peerId update (s.system.states.lookup peerId) (t.system.states.lookup peerId))
  | removed (hevent : event = .remove peerId) (hstates : t.system.states.lookup peerId = none)
      (hpending : t.system.pending.lookup peerId = none)
  | stays (harrival : event.arrival peerId = none) (htick : ∀ keys, event ≠ .tick keys)
      (hstates : t.system.states.lookup peerId = s.system.states.lookup peerId)
      (hpending : t.system.pending.lookup peerId = s.system.pending.lookup peerId)

theorem Steps.playerStep {s t : TickState} {event : AvatarEvent} (h : s.Steps event t) (hs : s.Sound)
    (peerId : PeerId) : PlayerStep peerId s t event := by
  obtain ⟨hkeys, hafter⟩ := h
  cases event with
  | upsert q channel payload =>
    obtain rfl := Option.some.inj hafter
    cases haccepted : acceptedUpdate channel payload with
    | none =>
      refine .stays ?_ (fun keys h => nomatch h) ?_ ?_
      · rw [AvatarEvent.arrival, haccepted, ite_self]
      · rw [upsertFromChannelPayload_eq, haccepted]
      · rw [upsertFromChannelPayload_eq, haccepted]
    | some update =>
      by_cases hq : q = peerId
      · refine .arrives update ?_ ?_ ?_
        · rw [AvatarEvent.arrival, if_pos hq, haccepted]
        · rw [upsertFromChannelPayload_eq, haccepted]
        · rw [upsertFromChannelPayload_eq, haccepted, hq]
          exact AList.lookup_insert _
      · refine .stays ?_ (fun keys h => nomatch h) ?_ ?_
        · rw [AvatarEvent.arrival, if_neg hq]
        · rw [upsertFromChannelPayload_eq, haccepted]
        · rw [upsertFromChannelPayload_eq, haccepted]
          exact AList.lookup_insert_ne (Ne.symm hq)
  | tick keys =>
    obtain ⟨n, t', heq, hpending, hentries⟩ := processPendingUpdates_spec hs hkeys
    rw [after, heq] at hafter
    obtain rfl := Option.some.inj hafter
    exact .ticks keys rfl (hpending peerId) (hentries peerId).1 (hentries peerId).2
  | remove q =>
    obtain rfl := Option.some.inj hafter
    dsimp only [AvatarSyncSystem.removePlayer]
    by_cases hq : q = peerId
    · rw [hq]
      exact .removed rfl (AList.lookup_erase _ _) (AList.lookup_erase _ _)
    · exact .stays rfl (fun keys h => nomatch h) (AList.lookup_erase_ne (Ne.symm hq))
        (AList.lookup_erase_ne (Ne.symm hq))

/-- What waits is whole, and a player that has a state has been received from. -/
structure Kept (s : TickState) : Prop where
  sound : s.Sound
  received : ∀ peerId player, s.system.states.lookup peerId = some player → player.hasReceivedFirst = true

theorem kept_empty : Kept {} := by
  constructor
  · intro peerId update h
    cases h
  · intro peerId player h
    cases h

theorem Kept.step {s t : TickState} {event : AvatarEvent} (h : s.Kept) (hstep : s.Steps event t) : t.Kept := by
  constructor
  · intro peerId update hupdate
    cases hstep.playerStep h.sound peerId with
    | arrives update' harrival _ hpending =>
      rw [hpending] at hupdate
      obtain rfl := Option.some.inj hupdate
      exact whole_of_arrival harrival
    | ticks keys _ hpending => rw [hpending] at hupdate; cases hupdate
    | removed _ _ hpending => rw [hpending] at hupdate; cases hupdate
    | stays _ _ _ hpending => exact h.sound peerId update (hpending ▸ hupdate)
  · intro peerId player hplayer
    cases hstep.playerStep h.sound peerId with
    | arrives _ _ hstates => exact h.received peerId player (hstates ▸ hplayer)
    | ticks keys _ _ hquiet hstored =>
      cases hwaiting : s.system.pending.lookup peerId with
      | none => exact h.received peerId player (hquiet hwaiting ▸ hplayer)
      | some update =>
        rcases hstored update hwaiting with ⟨current, hcurrent, -, hsame⟩ | ⟨-, shown, hshown, hby⟩
        · exact h.received peerId player (hcurrent.trans (hsame.symm.trans hplayer))
        · rw [hplayer] at hshown
          rw [Option.some.inj hshown]
          exact hby.received
    | removed _ hstates => rw [hstates] at hplayer; cases hplayer
    | stays _ _ hstates => exact h.received peerId player (hstates ▸ hplayer)

end TickState

/-! ### Numbers that wrap around -/

/-- How far the number is ahead of the first one. -/
def ahead (first number : UInt8) : ℕ := (number - first).toNat

@[simp] lemma ahead_self (first : UInt8) : ahead first first = 0 := by
  rw [ahead, UInt8.sub_self]
  rfl

lemma ahead_add {first : UInt8} {n : ℕ} (hn : n ≤ 127) : ahead first (first + UInt8.ofNat n) = n := by
  rw [ahead, UInt8.toNat_sub, UInt8.toNat_add, UInt8.toNat_ofNat']
  have := first.toNat_lt
  omega

lemma ahead_inj {first a b : UInt8} (h : ahead first a = ahead first b) : a = b := by
  have h := UInt8.toNat_inj.mp h
  rwa [UInt8.sub_left_inj] at h

/-- As long as no number is far ahead, the wrapping difference tells which of two is. -/
lemma isPast_iff {first : UInt8} {player : PlayerAvatarState} {update : PendingAvatarUpdate}
    (hreceived : player.hasReceivedFirst = true) (hupdate : ahead first update.sequence ≤ 127)
    (hplayer : ahead first player.lastInboundSequence ≤ 127) :
    player.IsPast update ↔ ahead first update.sequence ≤ ahead first player.lastInboundSequence := by
  rw [PlayerAvatarState.IsPast, and_iff_right hreceived]
  rw [ahead, UInt8.toNat_sub] at hupdate hplayer ⊢
  rw [ahead, UInt8.toNat_sub, ← UInt8.toNat_inj, ge_iff_le, UInt8.le_iff_toNat_le, UInt8.toNat_sub]
  have hzero : (0 : UInt8).toNat = 0 := rfl
  have hhalf : (128 : UInt8).toNat = 128 := rfl
  have := first.toNat_lt
  have := update.sequence.toNat_lt
  have := player.lastInboundSequence.toNat_lt
  omega

/-! ### A run -/

lemma arrivals_concat (peerId : PeerId) (events : List AvatarEvent) (event : AvatarEvent) :
    arrivals peerId (events ++ [event]) = arrivals peerId events ++ (event.arrival peerId).toList := by
  rw [arrivals, List.filterMap_append, arrivals]
  cases h : event.arrival peerId with
  | none => rw [List.filterMap_cons_none h, List.filterMap_nil, Option.toList_none]
  | some update => rw [List.filterMap_cons_some h, List.filterMap_nil, Option.toList_some]

lemma PickedUp.concat {peerId : PeerId} {update : PendingAvatarUpdate} {events : List AvatarEvent}
    (h : PickedUp peerId update events) (event : AvatarEvent) : PickedUp peerId update (events ++ [event]) := by
  obtain ⟨before, keys, after, rfl, hlast⟩ := h
  exact ⟨before, keys, after ++ [event], by simp, hlast⟩

lemma pickedUp_concat {peerId : PeerId} {update : PendingAvatarUpdate} {events : List AvatarEvent}
    {event : AvatarEvent} (h : PickedUp peerId update (events ++ [event])) :
    PickedUp peerId update events ∨
      (∃ keys, event = .tick keys) ∧ (arrivals peerId events).getLast? = some update := by
  obtain ⟨before, keys, after, hevents, hlast⟩ := h
  rcases List.eq_nil_or_concat after with rfl | ⟨after, last, rfl⟩
  · obtain ⟨rfl, hevent⟩ := List.append_inj' hevents rfl
    exact .inr ⟨⟨keys, List.singleton_inj.mp hevent⟩, hlast⟩
  · rw [List.concat_eq_append, ← List.cons_append, ← List.append_assoc] at hevents
    obtain ⟨rfl, -⟩ := List.append_inj' hevents rfl
    exact .inl ⟨before, keys, after, rfl, hlast⟩

lemma PickedUp.mem_arrivals {peerId : PeerId} {update : PendingAvatarUpdate} {events : List AvatarEvent}
    (h : PickedUp peerId update events) : update ∈ arrivals peerId events := by
  obtain ⟨before, keys, after, rfl, hlast⟩ := h
  rw [arrivals, List.filterMap_append]
  exact List.mem_append_left _ (List.mem_of_getLast? hlast)

/-- What the player's two entries tell after the events that followed `current`. -/
structure Follows (peerId : PeerId) (current : PlayerAvatarState) (events : List AvatarEvent) (s : TickState) :
    Prop where
  waits : ∀ update, s.system.pending.lookup peerId = some update →
    (arrivals peerId events).getLast? = some update
  last : ∀ update, (arrivals peerId events).getLast? = some update →
    s.system.pending.lookup peerId = some update ∨ PickedUp peerId update events
  player : ∃ player, s.system.states.lookup peerId = some player ∧
    (player = current ∨ ∃ update, PickedUp peerId update events ∧ update.ShownBy peerId player) ∧
    ∀ update, PickedUp peerId update events →
      ahead current.lastInboundSequence update.sequence ≤
        ahead current.lastInboundSequence player.lastInboundSequence

namespace Follows

variable {peerId : PeerId} {current : PlayerAvatarState} {events : List AvatarEvent} {s t : TickState}

theorem start (hcurrent : s.system.states.lookup peerId = some current)
    (hpending : s.system.pending.lookup peerId = none) : Follows peerId current [] s := by
  have hnot (update : PendingAvatarUpdate) : ¬ PickedUp peerId update [] := fun h => by
    exact absurd h.mem_arrivals List.not_mem_nil
  refine ⟨fun update h => ?_, fun update h => ?_, current, hcurrent, .inl rfl, fun update h => absurd h (hnot update)⟩
  · rw [hpending] at h
    cases h
  · cases h

/-- An event that leaves the player's state alone, and picks nothing up. -/
lemma of_states_eq (h : Follows peerId current events s) {event : AvatarEvent}
    (hstates : t.system.states.lookup peerId = s.system.states.lookup peerId)
    (hnews : ∀ update, PickedUp peerId update (events ++ [event]) → PickedUp peerId update events)
    (hwaits : ∀ update, t.system.pending.lookup peerId = some update →
      (arrivals peerId (events ++ [event])).getLast? = some update)
    (hlast : ∀ update, (arrivals peerId (events ++ [event])).getLast? = some update →
      t.system.pending.lookup peerId = some update ∨ PickedUp peerId update (events ++ [event])) :
    Follows peerId current (events ++ [event]) t := by
  obtain ⟨player, hplayer, hshows, hahead⟩ := h.player
  refine ⟨hwaits, hlast, player, hstates.trans hplayer, ?_, fun update hpicked => hahead update (hnews update hpicked)⟩
  rcases hshows with heq | ⟨update, hpicked, hby⟩
  · exact .inl heq
  · exact .inr ⟨update, hpicked.concat event, hby⟩

/-- **One event.**  What a tick picks up is shown if it is ahead of what was shown, and it is ahead of all
that was picked up before then. -/
theorem step (h : Follows peerId current events s) (hkept : s.Kept) {event : AvatarEvent}
    (hstep : s.Steps event t) (hstays : event ≠ .remove peerId)
    (hnear : ∀ update ∈ arrivals peerId events, ahead current.lastInboundSequence update.sequence ≤ 127) :
    Follows peerId current (events ++ [event]) t := by
  have harrivals := arrivals_concat peerId events event
  cases hstep.playerStep hkept.sound peerId with
  | arrives update harrival hstates hpending =>
    rw [harrival, Option.toList_some] at harrivals
    refine h.of_states_eq hstates (fun v hv => ?_) (fun v hv => ?_) fun v hv => ?_
    · rcases pickedUp_concat hv with hv | ⟨⟨keys, rfl⟩, -⟩
      · exact hv
      · cases harrival
    · rw [harrivals, List.getLast?_concat, ← hpending, hv]
    · rw [harrivals, List.getLast?_concat] at hv
      exact .inl (hpending.trans hv)
  | removed hevent => exact absurd hevent hstays
  | stays harrival htick hstates hpending =>
    rw [harrival, Option.toList_none, List.append_nil] at harrivals
    refine h.of_states_eq hstates (fun v hv => ?_) (fun v hv => ?_) fun v hv => ?_
    · exact (pickedUp_concat hv).resolve_right fun ⟨⟨keys, heq⟩, _⟩ => htick keys heq
    · rw [harrivals]
      exact h.waits v (hpending ▸ hv)
    · rw [harrivals] at hv
      rw [hpending]
      exact (h.last v hv).imp_right fun hpicked => hpicked.concat event
  | ticks keys hevent hpending hquiet hstored =>
    subst hevent
    rw [show (AvatarEvent.tick keys).arrival peerId = none from rfl, Option.toList_none, List.append_nil] at harrivals
    have hpicks (v : PendingAvatarUpdate) (hv : (arrivals peerId events).getLast? = some v) :
        PickedUp peerId v (events ++ [.tick keys]) := ⟨events, keys, [], rfl, hv⟩
    have hwaits (v : PendingAvatarUpdate) (hv : t.system.pending.lookup peerId = some v) :
        (arrivals peerId (events ++ [.tick keys])).getLast? = some v := by
      rw [hpending] at hv
      cases hv
    have hlast (v : PendingAvatarUpdate) (hv : (arrivals peerId (events ++ [.tick keys])).getLast? = some v) :
        t.system.pending.lookup peerId = some v ∨ PickedUp peerId v (events ++ [.tick keys]) :=
      .inr (hpicks v (harrivals ▸ hv))
    cases hwaiting : s.system.pending.lookup peerId with
    | none =>
      refine h.of_states_eq (hquiet hwaiting) (fun v hv => ?_) hwaits hlast
      rcases pickedUp_concat hv with hv | ⟨-, hv⟩
      · exact hv
      · refine (h.last v hv).resolve_left fun hfound => ?_
        rw [hwaiting] at hfound
        cases hfound
    | some update =>
      have hupdate := h.waits update hwaiting
      have hnear_update := hnear update (List.mem_of_getLast? hupdate)
      obtain ⟨player, hplayer, hshows, hahead⟩ := h.player
      have hnear_player : ahead current.lastInboundSequence player.lastInboundSequence ≤ 127 := by
        rcases hshows with rfl | ⟨v, hpicked, hby⟩
        · rw [ahead_self]
          omega
        · rw [hby.sequence]
          exact hnear v hpicked.mem_arrivals
      have hpast := isPast_iff (hkept.received peerId player hplayer) hnear_update hnear_player
      have hnews (v : PendingAvatarUpdate) (hv : PickedUp peerId v (events ++ [.tick keys])) :
          PickedUp peerId v events ∨ v = update := by
        refine (pickedUp_concat hv).imp_right fun ⟨_, hv⟩ => ?_
        rw [hupdate] at hv
        exact (Option.some.inj hv).symm
      refine ⟨hwaits, hlast, ?_⟩
      rw [hplayer] at hstored
      rcases hstored update hwaiting with ⟨player', heq, hold, hsame⟩ | ⟨hnew, shown, hshown, hby⟩
      · -- the update is behind what is shown
        obtain rfl := Option.some.inj heq
        refine ⟨player, hsame, hshows.imp_right fun ⟨v, hpicked, hby⟩ => ⟨v, hpicked.concat _, hby⟩, fun v hv => ?_⟩
        rcases hnews v hv with hv | rfl
        · exact hahead v hv
        · exact hpast.mp hold
      · have hlt := not_le.mp fun hle => hnew player rfl (hpast.mpr hle)
        refine ⟨shown, hshown, .inr ⟨update, hpicks update hupdate, hby⟩, fun v hv => ?_⟩
        rw [hby.sequence]
        rcases hnews v hv with hv | rfl
        · exact (hahead v hv).trans hlt.le
        · exact le_rfl

end Follows

lemma follows_of_run {peerId : PeerId} {current : PlayerAvatarState} {s t : TickState}
    {ts : List (Transition TickState AvatarEvent)} (hkept : s.Kept) (hstart : Follows peerId current [] s)
    (hrun : Run TickState.Steps s ts t) (hstays : ∀ tr ∈ ts, tr.label ≠ .remove peerId)
    (hnear : ∀ update ∈ arrivals peerId (ts.map (·.label)),
      ahead current.lastInboundSequence update.sequence ≤ 127) :
    t.Kept ∧ Follows peerId current (ts.map (·.label)) t := by
  induction hrun with
  | nil => exact ⟨hkept, hstart⟩
  | snoc hrun hstep ih =>
    rw [List.forall_mem_append, List.forall_mem_singleton] at hstays
    rw [List.map_append, List.map_singleton] at hnear ⊢
    have hnear' := fun update hupdate => hnear update (arrivals_concat peerId _ _ ▸ List.mem_append_left _ hupdate)
    obtain ⟨hkept, hfollows⟩ := ih hstays.1 hnear'
    exact ⟨hkept.step hstep, hfollows.step hkept hstep hstays.2 hnear'⟩

/-- The player's state has the number `k` behind `current`, and is the one of the update with that number;
without further updates it is still the one of `current`. -/
def ShowsNewest (peerId : PeerId) (current : PlayerAvatarState) (updates : List PendingAvatarUpdate) (k : ℕ)
    (s : TickState) : Prop :=
  ∃ player, s.system.states.lookup peerId = some player ∧
    player.lastInboundSequence = current.lastInboundSequence + UInt8.ofNat k ∧
    (k = 0 → player.position = current.position ∧ player.qualities = current.qualities) ∧
    ∀ update ∈ updates, update.sequence = current.lastInboundSequence + UInt8.ofNat k → update.ShownBy peerId player

/-- The numbers `1 … k` behind the first, each once. -/
def Numbered (first : UInt8) (k : ℕ) (updates : List PendingAvatarUpdate) : Prop :=
  (updates.map (·.sequence)).Perm ((List.range k).map fun i => first + UInt8.ofNat (i + 1))

namespace Numbered

variable {first : UInt8} {k : ℕ} {updates : List PendingAvatarUpdate}

lemma ahead_le (h : Numbered first k updates) (hk : k ≤ 127) {update : PendingAvatarUpdate} (hupdate : update ∈ updates) :
    1 ≤ ahead first update.sequence ∧ ahead first update.sequence ≤ k := by
  have hmem := h.mem_iff.mp (List.mem_map_of_mem hupdate)
  obtain ⟨i, hi, heq⟩ := List.mem_map.mp hmem
  rw [List.mem_range] at hi
  rw [← heq, ahead_add (by omega)]
  omega

lemma exists_newest (h : Numbered first k updates) (hk : k ≠ 0) :
    ∃ update ∈ updates, update.sequence = first + UInt8.ofNat k := by
  have hmem : first + UInt8.ofNat k ∈ (List.range k).map fun i => first + UInt8.ofNat (i + 1) := by
    refine List.mem_map.mpr ⟨k - 1, List.mem_range.mpr (by omega), ?_⟩
    rw [Nat.sub_add_cancel (by omega)]
  obtain ⟨update, hupdate, heq⟩ := List.mem_map.mp (h.mem_iff.mpr hmem)
  exact ⟨update, hupdate, heq⟩

lemma sequence_inj (h : Numbered first k updates) (hk : k ≤ 127) {a b : PendingAvatarUpdate} (ha : a ∈ updates)
    (hb : b ∈ updates) (heq : a.sequence = b.sequence) : a = b := by
  have hnodup : ((List.range k).map fun i => first + UInt8.ofNat (i + 1)).Nodup := by
    refine List.Nodup.map_on (fun i hi j hj hij => ?_) List.nodup_range
    rw [List.mem_range] at hi hj
    have hahead := congrArg (ahead first) hij
    rw [ahead_add (by omega), ahead_add (by omega)] at hahead
    omega
  exact List.inj_on_of_nodup_map (h.nodup_iff.mpr hnodup) ha hb heq

end Numbered

/-- **Updates in any order.**  After further updates with the numbers `1 … k` behind the one shown, in any
order and with ticks anywhere between them, the newest is shown exactly when a tick found it waiting; and
a tick always returns. -/
theorem newest_update_shown_iff {ts₀ ts : List (Transition TickState AvatarEvent)} {s t : TickState} {peerId : PeerId}
    {current : PlayerAvatarState} {k : ℕ} (hbefore : Run TickState.Steps {} ts₀ s)
    (hcurrent : s.system.states.lookup peerId = some current) (hpending : s.system.pending.lookup peerId = none)
    (hrun : Run TickState.Steps s ts t) (hstays : ∀ tr ∈ ts, tr.label ≠ .remove peerId) (hk : k ≤ 127)
    (hnumbers : Numbered current.lastInboundSequence k (arrivals peerId (ts.map (·.label)))) :
    (∀ keys, keys.Perm t.system.pending.keys → ∃ n t', t.processPendingUpdates keys = some (n, t')) ∧
      (ShowsNewest peerId current (arrivals peerId (ts.map (·.label))) k t ↔
        ∀ update ∈ arrivals peerId (ts.map (·.label)),
          update.sequence = current.lastInboundSequence + UInt8.ofNat k → PickedUp peerId update (ts.map (·.label))) := by
  have hkept := (hbefore.invariant TickState.kept_empty fun _ _ _ hstep h => h.step hstep).2
  obtain ⟨hkept, hfollows⟩ := follows_of_run hkept (.start hcurrent hpending) hrun hstays
    fun update hupdate => (hnumbers.ahead_le hk hupdate).2.trans hk
  generalize ts.map (·.label) = events at hnumbers hfollows ⊢
  obtain ⟨player, hplayer, hshows, hahead⟩ := hfollows.player
  refine ⟨fun keys hkeys => ?_, ?_, ?_⟩
  · obtain ⟨n, t', heq, -⟩ := TickState.processPendingUpdates_spec hkept.sound hkeys
    exact ⟨n, t', heq⟩
  · rintro ⟨player', hplayer', hnumber, -, -⟩ update hupdate hnewest
    obtain rfl := Option.some.inj (hplayer.symm.trans hplayer')
    rcases hshows with rfl | ⟨shown, hpicked, hby⟩
    · -- the first state is still shown, so there was nothing newer
      have hzero := (hnumbers.ahead_le hk hupdate).1
      rw [hnewest, ← hnumber, ahead_self] at hzero
      omega
    · have hsame : shown.sequence = update.sequence := by
        rw [← hby.sequence, hnumber, hnewest]
      exact hnumbers.sequence_inj hk hpicked.mem_arrivals hupdate hsame ▸ hpicked
  · intro hpicks
    by_cases hzero : k = 0
    · have hempty : arrivals peerId events = [] := by
        refine List.eq_nil_iff_forall_not_mem.mpr fun update hupdate => ?_
        have := hnumbers.ahead_le hk hupdate
        omega
      rcases hshows with rfl | ⟨shown, hpicked, -⟩
      · refine ⟨player, hplayer, ?_, fun _ => ⟨rfl, rfl⟩, fun update hupdate => ?_⟩
        · rw [hzero]
          exact (UInt8.add_zero _).symm
        · rw [hempty] at hupdate
          exact absurd hupdate List.not_mem_nil
      · exact absurd hpicked.mem_arrivals (hempty ▸ List.not_mem_nil)
    · obtain ⟨newest, hmem, hnewest⟩ := hnumbers.exists_newest hzero
      have hle := hahead newest (hpicks newest hmem hnewest)
      rw [hnewest, ahead_add hk] at hle
      rcases hshows with rfl | ⟨shown, hpicked, hby⟩
      · rw [ahead_self] at hle
        omega
      · have hshown := hnumbers.ahead_le hk hpicked.mem_arrivals
        rw [hby.sequence] at hle
        have hsame : shown.sequence = newest.sequence := by
          refine @ahead_inj current.lastInboundSequence _ _ ?_
          rw [hnewest, ahead_add hk]
          omega
        refine ⟨player, hplayer, ?_, fun h => absurd h hzero, fun update hupdate heq => ?_⟩
        · rw [hby.sequence, hsame, hnewest]
        · have := hnumbers.sequence_inj hk hupdate hpicked.mem_arrivals (heq.trans (hnewest.symm.trans hsame.symm))
          exact this ▸ hby

/-! ### Two further updates -/

def next (s : TickState) (event : AvatarEvent) : TickState := (s.after event).getD s

/-- A pose of the lowest quality on its channel. -/
def veryLowUpdate (sequence : UInt8) : AvatarEvent :=
  .upsert 7 channels.playerAvatarVeryLow (sequence :: List.replicate 112 0)

def firstEvents : List AvatarEvent := [veryLowUpdate 0, .tick [7]]

/-- Both arrive, the newer one first, and then there is a tick. -/
def newerOvertakes : List AvatarEvent := [veryLowUpdate 2, veryLowUpdate 1, .tick [7]]

/-- The newer one arrives first, with a tick after each. -/
def newerPickedUp : List AvatarEvent := [veryLowUpdate 2, .tick [7], veryLowUpdate 1, .tick [7]]

lemma run_of_ready {s : TickState} {events : List AvatarEvent}
    (h : ∀ tr ∈ trace next s events, tr.src.Ready tr.label ∧ (tr.src.after tr.label).isSome) :
    Run TickState.Steps s (trace next s events) (events.foldl next s) := by
  refine Run.of_trace next events fun tr htr => ⟨(h tr htr).1, ?_⟩
  obtain ⟨t, ht⟩ := Option.isSome_iff_exists.mp (h tr htr).2
  rw [dst_of_mem_trace htr, next, ht, Option.getD_some]

lemma firstEvents_run : Run TickState.Steps {} (trace next {} firstEvents) (firstEvents.foldl next {}) :=
  run_of_ready (by decide +kernel)

lemma firstEvents_shown : ∃ current, (firstEvents.foldl next {}).system.states.lookup 7 = some current ∧
    current.lastInboundSequence = 0 := by
  have hnumber : ((firstEvents.foldl next {}).system.states.lookup 7).map (·.lastInboundSequence) = some 0 := by
    decide +kernel
  exact Option.map_eq_some_iff.mp hnumber

lemma newerOvertakes_run :
    Run TickState.Steps (firstEvents.foldl next {}) (trace next (firstEvents.foldl next {}) newerOvertakes)
      (newerOvertakes.foldl next (firstEvents.foldl next {})) :=
  run_of_ready (by decide +kernel)

lemma newerPickedUp_run :
    Run TickState.Steps (firstEvents.foldl next {}) (trace next (firstEvents.foldl next {}) newerPickedUp)
      (newerPickedUp.foldl next (firstEvents.foldl next {})) :=
  run_of_ready (by decide +kernel)

/-- The number of the last update that was picked up stays. -/
theorem newest_update_not_shown :
    ¬ ∀ (ts₀ ts : List (Transition TickState AvatarEvent)) (s t : TickState) (peerId : PeerId)
        (current : PlayerAvatarState) (k : ℕ), Run TickState.Steps {} ts₀ s →
        s.system.states.lookup peerId = some current → s.system.pending.lookup peerId = none →
        Run TickState.Steps s ts t → (∀ tr ∈ ts, tr.label ≠ .remove peerId) → k ≤ 127 →
        Numbered current.lastInboundSequence k (arrivals peerId (ts.map (·.label))) →
        (∃ keys, (ts.map (·.label)).getLast? = some (.tick keys)) →
        ShowsNewest peerId current (arrivals peerId (ts.map (·.label))) k t := by
  intro h
  obtain ⟨current, hcurrent, hfirst⟩ := firstEvents_shown
  have hnumbers : Numbered current.lastInboundSequence 2
      (arrivals 7 ((trace next (firstEvents.foldl next {}) newerOvertakes).map (·.label))) := by
    rw [hfirst, Numbered]
    decide +kernel
  obtain ⟨player, hplayer, hnumber, -⟩ := h _ _ _ _ 7 current 2 firstEvents_run hcurrent (by decide +kernel)
    newerOvertakes_run (by decide +kernel) (by omega) hnumbers ⟨[7], by decide +kernel⟩
  have hlast : ((newerOvertakes.foldl next (firstEvents.foldl next {})).system.states.lookup 7).map
      (·.lastInboundSequence) = some 1 := by
    decide +kernel
  rw [hplayer, Option.map_some, hnumber, hfirst] at hlast
  exact absurd hlast (by decide)

/-- A tick found the newer one waiting. -/
theorem newest_update_shown_iff_newerPickedUp :
    ∃ current, (firstEvents.foldl next {}).system.states.lookup 7 = some current ∧
      ShowsNewest 7 current (arrivals 7 newerPickedUp) 2 (newerPickedUp.foldl next (firstEvents.foldl next {})) := by
  obtain ⟨current, hcurrent, hfirst⟩ := firstEvents_shown
  have hevents : (trace next (firstEvents.foldl next {}) newerPickedUp).map (·.label) = newerPickedUp := rfl
  have hnumbers : Numbered current.lastInboundSequence 2
      (arrivals 7 ((trace next (firstEvents.foldl next {}) newerPickedUp).map (·.label))) := by
    rw [hfirst, Numbered]
    decide +kernel
  have hiff := (newest_update_shown_iff firstEvents_run hcurrent (by decide +kernel) newerPickedUp_run
    (by decide +kernel) (by omega) hnumbers).2
  rw [hevents] at hiff
  refine ⟨current, hcurrent, hiff.mpr fun update hupdate hnewest => ?_⟩
  have harrivals : arrivals 7 newerPickedUp =
      [⟨channels.playerAvatarVeryLow, 2 :: List.replicate 112 0⟩,
        ⟨channels.playerAvatarVeryLow, 1 :: List.replicate 112 0⟩] := by
    decide +kernel
  rw [harrivals, List.mem_cons, List.mem_singleton] at hupdate
  rcases hupdate with rfl | rfl
  · exact ⟨[veryLowUpdate 2], [7], [veryLowUpdate 1, .tick [7]], rfl, by decide +kernel⟩
  · rw [hfirst] at hnewest
    exact absurd hnewest (by decide +kernel)

end BasisRust.Avatar
