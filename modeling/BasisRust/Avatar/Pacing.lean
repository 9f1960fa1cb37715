import BasisRust.Avatar.Packets
import BasisRust.Avatar.Sends

/-!
# Sends from one peer to another

A run of the whole system: updates arrive, players leave, and a tick processes what is pending, takes the states of
the peers and builds the sends of some receivers.  What a tick reads of the clock, the configuration and the other
parts of the server comes with it, and nothing is asked of it.
-/

namespace BasisRust.Avatar

open Lib Protocol Transport P2p

/-! ### The runs of the system -/

structure TickInput where
  now : ℕ
  /-- the order in which `pending` is iterated -/
  keys : List PeerId
  peers : List PeerId
  receivers : List PeerId
  config : AvatarSyncConfig
  updateDistances : Bool
  offloadedPairs : HashSet UInt64
  deriving DecidableEq

inductive SyncEvent where
  | upsert (peerId : PeerId) (channel : UInt8) (payload : Bytes)
  | tick (input : TickInput)
  | remove (peerId : PeerId)
  deriving DecidableEq

/-- What the event does to the states and to what is pending. -/
def SyncEvent.update : SyncEvent → AvatarEvent
  | upsert peerId channel payload => .upsert peerId channel payload
  | tick input => .tick input.keys
  | remove peerId => .remove peerId

/-- A message that was due, with the receiver, and the clock and the configured interval of the tick. -/
structure SentUpdate where
  receiver : PeerId
  now : ℕ
  defaultIntervalMs : UInt64
  due : DueSend
  deriving DecidableEq

def TickInput.call (input : TickInput) (receiver : PeerId × PlayerAvatarState) : SendCall where
  receiverId := receiver.1
  receiverState := receiver.2
  config := input.config
  now := input.now
  updateDistances := input.updateDistances
  offloadedPairs := input.offloadedPairs

def TickInput.sent (input : TickInput) (receiver : PeerId) (due : DueSend) : SentUpdate :=
  ⟨receiver, input.now, input.config.defaultIntervalMs, due⟩

/-- Of what is sent the part from one peer to another. -/
def pairSends (receiver sender : PeerId) (sent : List SentUpdate) : List SentUpdate :=
  sent.filter fun update => update.receiver = receiver ∧ update.due.senderId = sender

section

variable (codec : BlockCodec) (floats : SendFloats)

def serveReceivers (input : TickInput) (peerStates : List (PeerId × PlayerAvatarState))
    (spatialGrid : Option SpatialGrid) : List (PeerId × PlayerAvatarState) → AvatarSyncSystem →
      Option (List SentUpdate × AvatarSyncSystem)
  | [], system => some ([], system)
  | receiver :: receivers, system => do
    let r ← buildSendsForReceiver codec floats (input.call receiver) peerStates spatialGrid system
    let (sent, system) ← serveReceivers input peerStates spatialGrid receivers r.system
    return (r.due.map (input.sent receiver.1) ++ sent, system)

/-- The part of `flush_tick` between the clock and the transport. -/
def flushTick (input : TickInput) (s : TickState) : Option (List SentUpdate × TickState) := do
  let (_, s) ← s.processPendingUpdates input.keys
  let peerStates := peerStatesOf s.system.states input.peers
  let spatialGrid :=
    if input.config.spatialCullEnabled then
      SpatialGrid.build floats.toGridFloats peerStates input.config.lowDistanceSq
    else none
  let receiverStates := peerStatesOf s.system.states input.receivers
  let (sent, system) ← serveReceivers codec floats input peerStates spatialGrid receiverStates s.system
  return (sent, { s with system })

def syncAfter (s : TickState) : SyncEvent → Option TickState
  | .upsert peerId channel payload =>
    some { s with system := s.system.upsertFromChannelPayload peerId channel payload }
  | .tick input => (flushTick codec floats input s).map Prod.snd
  | .remove peerId => some { s with system := s.system.removePlayer peerId }

def SyncSteps (s : TickState) (event : SyncEvent) (t : TickState) : Prop :=
  s.Ready event.update ∧ syncAfter codec floats s event = some t

/-- What a step sends. -/
def sentBy (tr : Transition TickState SyncEvent) : List SentUpdate :=
  match tr.label with
  | .tick input => ((flushTick codec floats input tr.src).map Prod.fst).getD []
  | _ => []

/-- What is sent from one peer to another, in order. -/
def sentTo (receiver sender : PeerId) (ts : List (Transition TickState SyncEvent)) : List SentUpdate :=
  pairSends receiver sender (ts.flatMap (sentBy codec floats))

end

/-! ### One pair -/

/-- What the receiver has seen of the sender. -/
def pairEntry (system : AvatarSyncSystem) (receiver sender : PeerId) : Option ReceiverTracking :=
  (system.tracking.lookup receiver).bind fun senders => senders.lookup sender

section Pair

variable {codec : BlockCodec} {floats : SendFloats} {input : TickInput}
  {peerStates : List (PeerId × PlayerAvatarState)} {spatialGrid : Option SpatialGrid} {system : AvatarSyncSystem}
  {receiver sender : PeerId}

lemma VisitStep.senderId {call : SendCall} {senderId : PeerId} {senderState : PlayerAvatarState}
    {entry : Option ReceiverTracking} {r : List DueSend × Option ReceiverTracking}
    (h : VisitStep call senderId senderState entry r) : ∀ due ∈ r.1, due.senderId = senderId := by
  cases h with
  | skips => exact fun due hdue => absurd hdue List.not_mem_nil
  | waits => exact fun due hdue => absurd hdue List.not_mem_nil
  | sends => exact List.forall_mem_singleton.mpr rfl

@[simp] lemma pairSends_nil : pairSends receiver sender [] = [] := rfl

lemma pairSends_append (sent sent' : List SentUpdate) :
    pairSends receiver sender (sent ++ sent') = pairSends receiver sender sent ++ pairSends receiver sender sent' :=
  List.filter_append ..

lemma pairSends_sent {due : List DueSend} (h : ∀ x ∈ due, x.senderId = sender) :
    pairSends receiver sender (due.map (input.sent receiver)) = due.map (input.sent receiver) := by
  refine List.filter_eq_self.mpr fun update hupdate => ?_
  obtain ⟨x, hx, rfl⟩ := List.mem_map.mp hupdate
  simp [TickInput.sent, h x hx]

lemma pairSends_sent_ne {due : List DueSend} {other : PeerId} (h : ∀ x ∈ due, x.senderId = other) (hne : other ≠ sender) :
    pairSends receiver sender (due.map (input.sent receiver)) = [] := by
  refine List.filter_eq_nil_iff.mpr fun update hupdate => ?_
  obtain ⟨x, hx, rfl⟩ := List.mem_map.mp hupdate
  simp [TickInput.sent, h x hx, hne]

lemma lookup_getD_empty (receiver sender : PeerId) (system : AvatarSyncSystem) :
    ((system.tracking.lookup receiver).getD ∅).lookup sender = pairEntry system receiver sender := by
  rw [pairEntry]
  cases system.tracking.lookup receiver <;> rfl

/-- What every round of the sender keeps, a call keeps. -/
theorem buildSendsForReceiver_pair {I : List SentUpdate → Option ReceiverTracking → Prop}
    {served : PeerId × PlayerAvatarState} {r : ReceiverSends}
    (h : buildSendsForReceiver codec floats (input.call served) peerStates spatialGrid system = some r)
    (hpeers : ∀ x ∈ peerStates, system.states.lookup x.1 = some x.2)
    (hvisit : ∀ senderState, system.states.lookup sender = some senderState → served.1 = receiver →
      ∀ log entry v, VisitStep (input.call served) sender senderState entry v → I log entry →
        I (log ++ v.1.map (input.sent receiver)) (v.2.or entry))
    {log : List SentUpdate} (hI : I log (pairEntry system receiver sender)) :
    I (log ++ pairSends receiver sender (r.due.map (input.sent served.1))) (pairEntry r.system receiver sender) := by
  obtain ⟨-, -, tracking, hdue, htracking⟩ := buildSendsForReceiver_spec h
  obtain ⟨senders, hsenders, hvisits⟩ := dueSends_spec hdue
  by_cases hserved : served.1 = receiver
  · subst hserved
    have hround : ∀ x ∈ senders, ∀ dues (d : Dict PeerId ReceiverTracking) v,
        visitSender floats (input.call served) x.1 x.2 (d.lookup x.1) = some v →
        I (log ++ pairSends served.1 sender (dues.map (input.sent served.1))) (d.lookup sender) →
        I (log ++ pairSends served.1 sender ((dues ++ v.1).map (input.sent served.1))) ((d.put x.1 v.2).lookup sender) := by
      intro x hx dues d v hv hI
      have hstep := visitSender_spec hv
      rw [List.map_append, pairSends_append, ← List.append_assoc, Dict.lookup_put]
      by_cases hsender : sender = x.1
      · subst hsender
        rw [if_pos rfl, pairSends_sent hstep.senderId]
        exact hvisit x.2 (hpeers x (hsenders x hx)) rfl _ _ v hstep hI
      · rw [if_neg hsender, pairSends_sent_ne hstep.senderId fun heq => hsender heq.symm, List.append_nil]
        exact hI
    have hcall := visitAll_invariant hround hvisits [] (by
      rw [List.map_nil, pairSends_nil, List.append_nil, lookup_getD_empty]
      exact hI)
    rw [List.nil_append] at hcall
    rw [pairEntry, htracking, show (input.call served).receiverId = served.1 from rfl, AList.lookup_insert]
    exact hcall
  · have hnone : pairSends receiver sender (r.due.map (input.sent served.1)) = [] := by
      refine List.filter_eq_nil_iff.mpr fun update hupdate => ?_
      obtain ⟨due, -, rfl⟩ := List.mem_map.mp hupdate
      simp [TickInput.sent, hserved]
    have hsame : pairEntry r.system receiver sender = pairEntry system receiver sender := by
      rw [pairEntry, pairEntry, htracking, Dict.lookup_insert, if_neg fun heq => hserved heq.symm]
    rw [hnone, hsame, List.append_nil]
    exact hI

lemma serveReceivers_frame {receivers : List (PeerId × PlayerAvatarState)} {r : List SentUpdate × AvatarSyncSystem}
    (h : serveReceivers codec floats input peerStates spatialGrid receivers system = some r) :
    r.2.states = system.states ∧ r.2.pending = system.pending := by
  induction receivers generalizing system r with
  | nil =>
    obtain rfl := Option.some.inj h
    exact ⟨rfl, rfl⟩
  | cons served receivers ih =>
    obtain ⟨r₁, hr₁, h⟩ := Option.bind_eq_some_iff.mp h
    obtain ⟨r₂, hr₂, h⟩ := Option.bind_eq_some_iff.mp h
    obtain rfl := Option.some.inj h
    obtain ⟨hstates, hpending, -⟩ := buildSendsForReceiver_spec hr₁
    exact ⟨(ih hr₂).1.trans hstates, (ih hr₂).2.trans hpending⟩

variable (receiver sender) in
/-- What every round of the sender keeps, the calls of a tick keep. -/
theorem serveReceivers_pair {I : List SentUpdate → Option ReceiverTracking → Prop}
    {receivers : List (PeerId × PlayerAvatarState)} {r : List SentUpdate × AvatarSyncSystem}
    (h : serveReceivers codec floats input peerStates spatialGrid receivers system = some r)
    (hpeers : ∀ x ∈ peerStates, system.states.lookup x.1 = some x.2)
    (hvisit : ∀ served senderState, system.states.lookup sender = some senderState → served.1 = receiver →
      ∀ log entry v, VisitStep (input.call served) sender senderState entry v → I log entry →
        I (log ++ v.1.map (input.sent receiver)) (v.2.or entry))
    (log : List SentUpdate) (hI : I log (pairEntry system receiver sender)) :
    I (log ++ pairSends receiver sender r.1) (pairEntry r.2 receiver sender) := by
  induction receivers generalizing system r log with
  | nil =>
    obtain rfl := Option.some.inj h
    rw [pairSends_nil, List.append_nil]
    exact hI
  | cons served receivers ih =>
    obtain ⟨r₁, hr₁, h⟩ := Option.bind_eq_some_iff.mp h
    obtain ⟨r₂, hr₂, h⟩ := Option.bind_eq_some_iff.mp h
    obtain rfl := Option.some.inj h
    have hstates := (buildSendsForReceiver_spec hr₁).1
    have hcall := buildSendsForReceiver_pair hr₁ hpeers (hvisit served) hI
    rw [← hstates] at hpeers hvisit
    dsimp only
    rw [pairSends_append, ← List.append_assoc]
    exact ih hr₂ hpeers hvisit _ hcall

/-- **A tick** processes what is pending and serves receivers behind it. -/
theorem SyncSteps.tick {s t : TickState} (h : SyncSteps codec floats s (.tick input) t) :
    ∃ mid grid system, s.Steps (.tick input.keys) mid ∧ t = { mid with system } ∧
      serveReceivers codec floats input (peerStatesOf mid.system.states input.peers) grid
        (peerStatesOf mid.system.states input.receivers) mid.system =
          some (sentBy codec floats ⟨s, .tick input, t⟩, system) := by
  obtain ⟨hready, hafter⟩ := h
  obtain ⟨⟨sent, t'⟩, hflush, rfl⟩ := Option.map_eq_some_iff.mp hafter
  have hsent : sentBy codec floats ⟨s, .tick input, t'⟩ = sent := by
    rw [sentBy]
    dsimp only
    rw [hflush]
    rfl
  obtain ⟨⟨n, mid⟩, hmid, hrest⟩ := Option.bind_eq_some_iff.mp hflush
  obtain ⟨⟨sent', system⟩, hserve, hrest⟩ := Option.bind_eq_some_iff.mp hrest
  obtain ⟨rfl, rfl⟩ := Prod.mk.inj (Option.some.inj hrest)
  refine ⟨mid, _, system, ⟨hready, ?_⟩, rfl, hsent ▸ hserve⟩
  rw [TickState.after, hmid]
  rfl

/-- **A step of the system** is one of the states and of what is pending; a tick serves receivers behind it. -/
theorem SyncSteps.split {s t : TickState} {event : SyncEvent} (h : SyncSteps codec floats s event t) :
    ∃ mid, s.Steps event.update mid ∧ t.generation = mid.generation ∧ t.system.states = mid.system.states ∧
      t.system.pending = mid.system.pending := by
  obtain ⟨hready, hafter⟩ := h
  cases event with
  | upsert peerId channel payload => exact ⟨t, ⟨hready, hafter⟩, rfl, rfl, rfl⟩
  | remove peerId => exact ⟨t, ⟨hready, hafter⟩, rfl, rfl, rfl⟩
  | tick input =>
    obtain ⟨mid, grid, system, hmid, rfl, hserve⟩ := SyncSteps.tick ⟨hready, hafter⟩
    obtain ⟨hstates, hpending⟩ := serveReceivers_frame hserve
    exact ⟨mid, hmid, rfl, hstates, hpending⟩

end Pair

/-! ### Fresh sends -/

/-- Of what was sent from one peer to another every state was newer than those before, and the sender's state, if it
is not newer than all of them, has been seen. -/
structure PairSeen (n : ℕ) (player : Option PlayerAvatarState) (log : List SentUpdate)
    (entry : Option ReceiverTracking) : Prop where
  sorted : log.Pairwise fun a b => a.due.generation < b.due.generation
  old : ∀ sent ∈ log, sent.due.generation.toNat ≤ n
  seen : ∀ sent ∈ log, ∀ p, player = some p → p.generation ≤ sent.due.generation →
    ∃ tracking, entry = some tracking ∧ sent.due.generation ≤ tracking.lastSeenGeneration

lemma PairSeen.nil (n : ℕ) (player : Option PlayerAvatarState) (entry : Option ReceiverTracking) :
    PairSeen n player [] entry :=
  ⟨.nil, fun _ h => absurd h List.not_mem_nil, fun _ h => absurd h List.not_mem_nil⟩

section Seen

variable {n : ℕ} {log : List SentUpdate} {entry : Option ReceiverTracking}

/-- A state that is newer than all that was sent need not have been seen. -/
lemma PairSeen.of_newer {player : Option PlayerAvatarState} (h : PairSeen n player log entry) {m : ℕ} (hm : n ≤ m)
    {player' : Option PlayerAvatarState} (entry' : Option ReceiverTracking)
    (hnewer : ∀ p, player' = some p → n < p.generation.toNat) : PairSeen m player' log entry' := by
  refine ⟨h.sorted, fun sent hsent => (h.old sent hsent).trans hm, fun sent hsent p hp hle => ?_⟩
  have hold := h.old sent hsent
  have hlt := hnewer p hp
  rw [UInt64.le_iff_toNat_le] at hle
  omega

theorem PairSeen.visit {p : PlayerAvatarState} (h : PairSeen n (some p) log entry) (hp : p.generation.toNat ≤ n)
    {input : TickInput} {served : PeerId × PlayerAvatarState} {sender receiver : PeerId}
    {v : List DueSend × Option ReceiverTracking} (hv : VisitStep (input.call served) sender p entry v) :
    PairSeen n (some p) (log ++ v.1.map (input.sent receiver)) (v.2.or entry) := by
  have hseen (tracking : ReceiverTracking) (hentry : tracking.Continues entry) (sent : SentUpdate) (hsent : sent ∈ log)
      (hle : p.generation ≤ sent.due.generation) : sent.due.generation ≤ tracking.lastSeenGeneration := by
    obtain ⟨before, hbefore, hgeneration⟩ := h.seen sent hsent p rfl hle
    rw [(hentry before hbefore).1]
    exact hgeneration
  cases hv with
  | skips =>
    rw [List.map_nil, List.append_nil]
    exact h
  | waits tracking hentry =>
    rw [List.map_nil, List.append_nil]
    refine ⟨h.sorted, h.old, fun sent hsent q hq hle => ⟨tracking, rfl, ?_⟩⟩
    cases hq
    exact hseen tracking hentry sent hsent hle
  | sends tracking item hentry hself hpair hnews hlate =>
    have hlt (sent : SentUpdate) (hsent : sent ∈ log) : sent.due.generation < p.generation := by
      by_contra hnot
      rw [UInt64.not_lt] at hnot
      have hle := hseen tracking hentry sent hsent hnot
      rw [UInt64.le_iff_toNat_le] at hnot hle
      rw [UInt64.lt_iff_toNat_lt] at hnews
      omega
    rw [List.map_singleton]
    refine ⟨?_, ?_, fun sent hsent q hq hle => ⟨_, rfl, ?_⟩⟩
    · refine List.pairwise_append.mpr ⟨h.sorted, List.pairwise_singleton _ _, fun a ha b hb => ?_⟩
      rw [List.mem_singleton.mp hb]
      exact hlt a ha
    · rw [List.forall_mem_append, List.forall_mem_singleton]
      exact ⟨h.old, hp⟩
    · rcases List.mem_append.mp hsent with hsent | hsent
      · exact UInt64.le_of_lt (hlt sent hsent)
      · rw [List.mem_singleton.mp hsent]
        exact UInt64.le_refl _

end Seen

section Run

variable {codec : BlockCodec} {floats : SendFloats} {receiver sender : PeerId}

lemma sentTo_append (ts ts' : List (Transition TickState SyncEvent)) :
    sentTo codec floats receiver sender (ts ++ ts') =
      sentTo codec floats receiver sender ts ++ sentTo codec floats receiver sender ts' := by
  rw [sentTo, List.flatMap_append, pairSends_append]
  rfl

/-- Updates and departures send nothing. -/
lemma sentTo_single (tr : Transition TickState SyncEvent) :
    sentTo codec floats receiver sender [tr] = pairSends receiver sender (sentBy codec floats tr) := by
  rw [sentTo, List.flatMap_singleton]

/-- How many updates the run has processed. -/
def processedIn (ts : List (Transition TickState SyncEvent)) : ℕ := (ts.map fun tr => tr.label.update.processed).sum

lemma kept_of_eq {s t : TickState} (h : s.Kept) (hstates : t.system.states = s.system.states)
    (hpending : t.system.pending = s.system.pending) : t.Kept := by
  obtain ⟨hsound, hreceived⟩ := h
  refine ⟨?_, ?_⟩
  · rw [TickState.Sound, hpending]
    exact hsound
  · rw [hstates]
    exact hreceived

lemma counted_of_eq {n : ℕ} {s t : TickState} (h : Counted n s) (hgeneration : t.generation = s.generation)
    (hstates : t.system.states = s.system.states) : Counted n t := by
  obtain ⟨hcounter, hstored⟩ := h
  refine ⟨hgeneration.trans hcounter, ?_⟩
  rw [hstates]
  exact hstored

/-- What every step keeps: the states and what is pending, and the counter. -/
theorem SyncSteps.keeps {n : ℕ} {s t : TickState} {event : SyncEvent} (hstep : SyncSteps codec floats s event t)
    (hkept : s.Kept) (hcounted : Counted n s) : t.Kept ∧ Counted (n + event.update.processed) t := by
  obtain ⟨mid, hmid, hgeneration, hstates, hpending⟩ := hstep.split
  exact ⟨kept_of_eq (hkept.step hmid) hstates hpending,
    counted_of_eq (hcounted.step hkept hmid) hgeneration hstates⟩

theorem counted_of_syncRun {ts : List (Transition TickState SyncEvent)} {s : TickState}
    (hrun : Run (SyncSteps codec floats) {} ts s) : s.Kept ∧ Counted (processedIn ts) s := by
  induction hrun with
  | nil =>
    refine ⟨TickState.kept_empty, rfl, fun _ q player hplayer => ?_⟩
    cases hplayer
  | @snoc ts s event t hrun hstep ih =>
    have hkeeps := hstep.keeps ih.1 ih.2
    rwa [processedIn, List.map_append, List.sum_append, List.map_singleton, List.sum_singleton]

lemma PairSeen.mono {n m : ℕ} {player : Option PlayerAvatarState} {log : List SentUpdate}
    {entry : Option ReceiverTracking} (h : PairSeen n player log entry) (hm : n ≤ m) : PairSeen m player log entry :=
  ⟨h.sorted, fun sent hsent => (h.old sent hsent).trans hm, h.seen⟩

/-- The updates that a tick processes are newer than what was sent. -/
lemma PairSeen.process {n : ℕ} {s mid : TickState} {keys : List PeerId} {log : List SentUpdate}
    {entry : Option ReceiverTracking} (h : PairSeen n (s.system.states.lookup sender) log entry) (hkept : s.Kept)
    (hcounted : Counted n s) (hmid : s.Steps (.tick keys) mid) (hfew : n + keys.length < 2 ^ 64) :
    PairSeen (n + keys.length) (mid.system.states.lookup sender) log entry := by
  obtain ⟨-, -, hentries⟩ := hmid.enters hkept.sound
  have hle : n ≤ n + keys.length := Nat.le_add_right _ _
  cases hwaiting : s.system.pending.lookup sender with
  | none =>
    rw [(hentries sender).1 hwaiting]
    exact h.mono hle
  | some update =>
    obtain ⟨i, hi, hentered⟩ := (hentries sender).2 update hwaiting
    have hnumber := hcounted.toNat_add hi hfew
    generalize s.system.states.lookup sender = before at h hentered
    generalize mid.system.states.lookup sender = after at hentered ⊢
    cases hentered with
    | stale => exact h.mono hle
    | moves _ player _ _ hgeneration =>
      refine h.of_newer hle entry fun p hp => ?_
      obtain rfl := Option.some.inj hp
      rw [hgeneration, hnumber]
      omega
    | first player _ hgeneration =>
      refine h.of_newer hle entry fun p hp => ?_
      obtain rfl := Option.some.inj hp
      rw [hgeneration, hnumber]
      omega

lemma pairEntry_removePlayer {system : AvatarSyncSystem} {q : PeerId} (hq : q ≠ receiver) :
    pairEntry (system.removePlayer q) receiver sender =
      if sender = q then none else pairEntry system receiver sender := by
  rw [pairEntry, AvatarSyncSystem.removePlayer, Dict.lookup_mapValues, Dict.lookup_erase, if_neg hq.symm, pairEntry]
  cases system.tracking.lookup receiver with
  | none => exact (ite_self none).symm
  | some senders => exact Dict.lookup_erase senders q sender

lemma pairEntry_upsert (peerId : PeerId) (channel : UInt8) (payload : Bytes) (system : AvatarSyncSystem) :
    pairEntry (system.upsertFromChannelPayload peerId channel payload) receiver sender =
      pairEntry system receiver sender := by
  rw [upsertFromChannelPayload_eq]
  cases acceptedUpdate channel payload <;> rfl

/-- **A step keeps what has been seen.** -/
theorem PairSeen.step {n : ℕ} {s t : TickState} {event : SyncEvent} {log : List SentUpdate}
    (h : PairSeen n (s.system.states.lookup sender) log (pairEntry s.system receiver sender)) (hkept : s.Kept)
    (hcounted : Counted n s) (hstep : SyncSteps codec floats s event t) (hstays : event ≠ .remove receiver)
    (hfew : n + event.update.processed < 2 ^ 64) :
    PairSeen (n + event.update.processed) (t.system.states.lookup sender)
      (log ++ pairSends receiver sender (sentBy codec floats ⟨s, event, t⟩)) (pairEntry t.system receiver sender) := by
  cases event with
  | upsert peerId channel payload =>
    obtain ⟨-, hafter⟩ := hstep
    obtain rfl := Option.some.inj hafter
    dsimp only [sentBy]
    rw [TickState.states_upsert, pairEntry_upsert, pairSends_nil, List.append_nil]
    exact h
  | remove q =>
    obtain ⟨-, hafter⟩ := hstep
    obtain rfl := Option.some.inj hafter
    have hq : q ≠ receiver := fun heq => hstays (heq ▸ rfl)
    dsimp only [sentBy]
    rw [pairEntry_removePlayer hq, pairSends_nil, List.append_nil]
    by_cases hsender : sender = q
    · refine h.of_newer le_rfl _ fun p hp => ?_
      rw [hsender, AvatarSyncSystem.removePlayer, AList.lookup_erase] at hp
      cases hp
    · rw [if_neg hsender, AvatarSyncSystem.removePlayer, AList.lookup_erase_ne hsender]
      exact h
  | tick input =>
    have hcounted' := (hstep.keeps hkept hcounted).2
    obtain ⟨mid, grid, system, hmid, rfl, hserve⟩ := hstep.tick
    obtain ⟨hstates, -⟩ := serveReceivers_frame hserve
    have hprocessed := h.process hkept hcounted hmid hfew
    have hentry : pairEntry s.system receiver sender = pairEntry mid.system receiver sender := by
      rw [pairEntry, pairEntry, (hmid.enters hkept.sound).2.1]
    rw [hentry] at hprocessed
    dsimp only
    rw [hstates]
    refine serveReceivers_pair receiver sender
      (I := PairSeen (n + input.keys.length) (mid.system.states.lookup sender)) hserve
      (fun x hx => mem_peerStatesOf hx) (fun served p hp _ log entry v hv hI => ?_) log hprocessed
    rw [hp] at hI ⊢
    exact hI.visit (hcounted'.stored hfew sender p (hstates ▸ hp)) hv

end Run

/-! ### Paced sends -/

/-- `max(default_interval_ms, cached interval)` of a send, in nanoseconds. -/
def SentUpdate.interval (sent : SentUpdate) : ℕ :=
  (max sent.defaultIntervalMs sent.due.intervalMs).toNat * 1000000

/-- What was sent from one peer to another was sent at its intervals, and the pair knows when. -/
structure PairPaced (log : List SentUpdate) (entry : Option ReceiverTracking) : Prop where
  paced : log.Pairwise fun a b => a.now + b.interval ≤ b.now
  recent : ∀ sent ∈ log, ∃ tracking, entry = some tracking ∧ sent.now ≤ tracking.lastSent

lemma PairPaced.nil (entry : Option ReceiverTracking) : PairPaced [] entry :=
  ⟨.nil, fun _ h => absurd h List.not_mem_nil⟩

lemma toNat_max (a b : UInt64) : (max a b).toNat = max a.toNat b.toNat := by
  change (if a ≤ b then b else a).toNat = _
  split
  next h =>
    rw [UInt64.le_iff_toNat_le] at h
    omega
  next h =>
    rw [UInt64.le_iff_toNat_le] at h
    omega

/-- The interval a send has to keep is at least its own, and at least one millisecond. -/
lemma TickInput.interval_sent (input : TickInput) (receiver senderId : PeerId) (generation : UInt64)
    (tracking : ReceiverTracking) (item : BundleAvatarSend) :
    (input.sent receiver ⟨senderId, generation, tracking.cachedIntervalMs, item⟩).interval ≤
        tracking.requiredInterval input.config ∧ 0 < tracking.requiredInterval input.config := by
  have hone : (1 : UInt64).toNat = 1 := rfl
  rw [SentUpdate.interval, TickInput.sent, ReceiverTracking.requiredInterval, toNat_max, toNat_max, toNat_max, hone]
  dsimp only
  omega

theorem PairPaced.visit {log : List SentUpdate} {entry : Option ReceiverTracking} (h : PairPaced log entry)
    {input : TickInput} {served : PeerId × PlayerAvatarState} {sender receiver : PeerId} {p : PlayerAvatarState}
    {v : List DueSend × Option ReceiverTracking} (hv : VisitStep (input.call served) sender p entry v) :
    PairPaced (log ++ v.1.map (input.sent receiver)) (v.2.or entry) := by
  have hrecent (tracking : ReceiverTracking) (hentry : tracking.Continues entry) (sent : SentUpdate)
      (hsent : sent ∈ log) : sent.now ≤ tracking.lastSent := by
    obtain ⟨before, hbefore, hle⟩ := h.recent sent hsent
    rw [(hentry before hbefore).2]
    exact hle
  cases hv with
  | skips =>
    rw [List.map_nil, List.append_nil]
    exact h
  | waits tracking hentry =>
    rw [List.map_nil, List.append_nil]
    exact ⟨h.paced, fun sent hsent => ⟨tracking, rfl, hrecent tracking hentry sent hsent⟩⟩
  | sends tracking item hentry hself hpair hnews hlate =>
    have hlate : tracking.requiredInterval input.config ≤ input.now - tracking.lastSent := hlate
    obtain ⟨hinterval, hpos⟩ := input.interval_sent receiver sender p.generation tracking item
    rw [List.map_singleton]
    refine ⟨?_, fun sent hsent => ⟨_, rfl, ?_⟩⟩
    · refine List.pairwise_append.mpr ⟨h.paced, List.pairwise_singleton _ _, fun a ha b hb => ?_⟩
      rw [List.mem_singleton.mp hb]
      have hle := hrecent tracking hentry a ha
      change a.now + _ ≤ input.now
      omega
    · change sent.now ≤ input.now
      rcases List.mem_append.mp hsent with hsent | hsent
      · have hle := hrecent tracking hentry sent hsent
        omega
      · rw [List.mem_singleton.mp hsent]
        exact le_rfl

section Run

variable {codec : BlockCodec} {floats : SendFloats} {receiver sender : PeerId}

theorem PairPaced.step {s t : TickState} {event : SyncEvent} {log : List SentUpdate}
    (h : PairPaced log (pairEntry s.system receiver sender)) (hkept : s.Kept)
    (hstep : SyncSteps codec floats s event t) (hreceiver : event ≠ .remove receiver) (hsender : event ≠ .remove sender) :
    PairPaced (log ++ pairSends receiver sender (sentBy codec floats ⟨s, event, t⟩))
      (pairEntry t.system receiver sender) := by
  cases event with
  | upsert peerId channel payload =>
    obtain ⟨-, hafter⟩ := hstep
    obtain rfl := Option.some.inj hafter
    dsimp only [sentBy]
    rw [pairEntry_upsert, pairSends_nil, List.append_nil]
    exact h
  | remove q =>
    obtain ⟨-, hafter⟩ := hstep
    obtain rfl := Option.some.inj hafter
    have hq : q ≠ receiver := fun heq => hreceiver (heq ▸ rfl)
    have hne : sender ≠ q := fun heq => hsender (heq ▸ rfl)
    dsimp only [sentBy]
    rw [pairEntry_removePlayer hq, if_neg hne, pairSends_nil, List.append_nil]
    exact h
  | tick input =>
    obtain ⟨mid, grid, system, hmid, rfl, hserve⟩ := hstep.tick
    have hentry : pairEntry s.system receiver sender = pairEntry mid.system receiver sender := by
      rw [pairEntry, pairEntry, (hmid.enters hkept.sound).2.1]
    rw [hentry] at h
    exact serveReceivers_pair receiver sender (I := PairPaced) hserve (fun x hx => mem_peerStatesOf hx)
      (fun _ _ _ _ _ _ _ hv hI => hI.visit hv) log h

/-- Nothing goes from a peer to itself or across a pair that is offloaded. -/
theorem relayed_of_sentBy {s t : TickState} {input : TickInput} (hstep : SyncSteps codec floats s (.tick input) t)
    {sent : SentUpdate} (hsent : sent ∈ sentBy codec floats ⟨s, .tick input, t⟩) :
    sent.due.senderId ≠ sent.receiver ∧ packPair sent.receiver sent.due.senderId ∉ input.offloadedPairs := by
  obtain ⟨mid, grid, system, -, -, hserve⟩ := hstep.tick
  have hlog := serveReceivers_pair sent.receiver sent.due.senderId
    (I := fun log _ => log ≠ [] → sent.due.senderId ≠ sent.receiver ∧
      packPair sent.receiver sent.due.senderId ∉ input.offloadedPairs)
    hserve (fun x hx => mem_peerStatesOf hx) (fun served p _ hserved log entry v hv hI => ?_) [] (absurd rfl)
  · have hmem : sent ∈ pairSends sent.receiver sent.due.senderId (sentBy codec floats ⟨s, .tick input, t⟩) :=
      List.mem_filter.mpr ⟨hsent, by simp⟩
    exact hlog (List.ne_nil_of_mem hmem)
  · cases hv with
    | skips =>
      rw [List.map_nil, List.append_nil]
      exact hI
    | waits =>
      rw [List.map_nil, List.append_nil]
      exact hI
    | sends _ _ _ hself hpair =>
      rw [← hserved]
      exact fun _ => ⟨hself, hpair⟩

lemma processedIn_concat (ts : List (Transition TickState SyncEvent)) (tr : Transition TickState SyncEvent) :
    processedIn (ts ++ [tr]) = processedIn ts + tr.label.update.processed := by
  simp [processedIn]

lemma pairSeen_of_run {before stretch : List (Transition TickState SyncEvent)} {s t : TickState}
    (hbefore : Run (SyncSteps codec floats) {} before s) (hrun : Run (SyncSteps codec floats) s stretch t)
    (hstays : ∀ tr ∈ stretch, tr.label ≠ .remove receiver) (hfew : processedIn (before ++ stretch) < 2 ^ 64) :
    PairSeen (processedIn (before ++ stretch)) (t.system.states.lookup sender)
      (sentTo codec floats receiver sender stretch) (pairEntry t.system receiver sender) := by
  induction hrun with
  | nil => exact .nil _ _ _
  | @snoc ts u event t hrun hstep ih =>
    rw [List.forall_mem_append, List.forall_mem_singleton] at hstays
    rw [← List.append_assoc, processedIn_concat] at hfew ⊢
    obtain ⟨hkept, hcounted⟩ := counted_of_syncRun (hbefore.append hrun)
    rw [sentTo_append, sentTo_single]
    exact (ih hstays.1 (by omega)).step hkept hcounted hstep hstays.2 hfew

lemma pairPaced_of_run {before stretch : List (Transition TickState SyncEvent)} {s t : TickState}
    (hbefore : Run (SyncSteps codec floats) {} before s) (hrun : Run (SyncSteps codec floats) s stretch t)
    (hreceiver : ∀ tr ∈ stretch, tr.label ≠ .remove receiver) (hsender : ∀ tr ∈ stretch, tr.label ≠ .remove sender) :
    PairPaced (sentTo codec floats receiver sender stretch) (pairEntry t.system receiver sender) := by
  induction hrun with
  | nil => exact .nil _
  | @snoc ts u event t hrun hstep ih =>
    rw [List.forall_mem_append, List.forall_mem_singleton] at hreceiver hsender
    have hkept := (counted_of_syncRun (hbefore.append hrun)).1
    rw [sentTo_append, sentTo_single]
    exact (ih hreceiver.1 hsender.1).step hkept hstep hreceiver.2 hsender.2

/-- **Sends from one peer to another are fresh, and paced.**  While the receiver is not removed, and the counter of
the updates has not gone around, the states that it is sent of a sender are each newer than the ones before; while
neither is removed, the interval that holds at a send has passed since every send before it.  No step sends a peer
its own state, or one across a pair that is offloaded. -/
theorem sends_fresh_and_paced {before stretch : List (Transition TickState SyncEvent)} {s t : TickState}
    (hbefore : Run (SyncSteps codec floats) {} before s) (hrun : Run (SyncSteps codec floats) s stretch t)
    (receiver sender : PeerId) :
    ((∀ tr ∈ stretch, tr.label ≠ .remove receiver) → processedIn (before ++ stretch) < 2 ^ 64 →
      (sentTo codec floats receiver sender stretch).Pairwise fun a b => a.due.generation < b.due.generation) ∧
    ((∀ tr ∈ stretch, tr.label ≠ .remove receiver) → (∀ tr ∈ stretch, tr.label ≠ .remove sender) →
      (sentTo codec floats receiver sender stretch).Pairwise fun a b => a.now + b.interval ≤ b.now) ∧
    ∀ tr ∈ stretch, ∀ input, tr.label = .tick input → ∀ sent ∈ sentBy codec floats tr,
      sent.due.senderId ≠ sent.receiver ∧ packPair sent.receiver sent.due.senderId ∉ input.offloadedPairs := by
  refine ⟨fun hstays hfew => (pairSeen_of_run hbefore hrun hstays hfew).sorted,
    fun hreceiver hsender => (pairPaced_of_run hbefore hrun hreceiver hsender).paced,
    fun tr htr input hlabel sent hsent => ?_⟩
  have hstep := hrun.step_of_mem tr htr
  obtain ⟨src, label, dst⟩ := tr
  obtain rfl : label = .tick input := hlabel
  exact relayed_of_sentBy hstep hsent

end Run

/-! ### The counter goes around -/

/-- Everyone is far from everyone. -/
def farFloats : SendFloats := { plainSendFloats with le := fun _ _ => false }

/-- A tick that serves nobody. -/
def quietTick (keys : List PeerId) : TickInput := ⟨0, keys, [], [], plainConfig, false, ∅⟩

def AvatarEvent.quiet : AvatarEvent → SyncEvent
  | upsert peerId channel payload => .upsert peerId channel payload
  | tick keys => .tick (quietTick keys)
  | remove peerId => .remove peerId

/-- Player 7 and player 8 send their first updates, and player 8 is served. -/
def meeting : List SyncEvent :=
  [(veryLowUpdate 0).quiet, .upsert 8 channels.playerAvatarVeryLow (0 :: List.replicate 112 0),
    .tick ⟨100000000000, [7, 8], [7, 8], [8], plainConfig, false, ∅⟩]

/-- Player 7 leaves, and another one gets its id. -/
def idReused : List SyncEvent :=
  [.remove 7, (veryLowUpdate 0).quiet, .tick ⟨200000000000, [7], [7, 8], [8], plainConfig, false, ∅⟩]

def syncNext (s : TickState) (event : SyncEvent) : TickState := (syncAfter storedBlocks farFloats s event).getD s

def met : TickState := meeting.foldl syncNext {}

/-- A step of the states and of what is pending is one of the system that sends nothing. -/
lemma quiet_step (codec : BlockCodec) (floats : SendFloats) {s t : TickState} {event : AvatarEvent}
    (h : s.Steps event t) :
    SyncSteps codec floats s event.quiet t ∧ sentBy codec floats ⟨s, event.quiet, t⟩ = [] := by
  obtain ⟨hready, hafter⟩ := h
  cases event with
  | upsert peerId channel payload => exact ⟨⟨hready, hafter⟩, rfl⟩
  | remove peerId => exact ⟨⟨hready, hafter⟩, rfl⟩
  | tick keys =>
    obtain ⟨⟨n, mid⟩, hmid, rfl⟩ := Option.map_eq_some_iff.mp hafter
    have hflush : flushTick codec floats (quietTick keys) s = some ([], mid) := by
      rw [flushTick, show (quietTick keys).keys = keys from rfl, hmid]
      rfl
    refine ⟨⟨hready, ?_⟩, ?_⟩
    · rw [AvatarEvent.quiet, syncAfter, hflush]
      rfl
    · rw [AvatarEvent.quiet, sentBy]
      dsimp only
      rw [hflush]
      rfl

lemma quiet_run (codec : BlockCodec) (floats : SendFloats) {s t : TickState}
    {ts : List (Transition TickState AvatarEvent)} (hrun : Run TickState.Steps s ts t)
    (hstays : ∀ tr ∈ ts, ∀ q, tr.label ≠ .remove q) :
    ∃ ts', Run (SyncSteps codec floats) s ts' t ∧ (∀ tr ∈ ts', sentBy codec floats tr = []) ∧
      ∀ tr ∈ ts', ∀ q, tr.label ≠ .remove q := by
  induction hrun with
  | nil => exact ⟨[], .nil, fun tr htr => absurd htr List.not_mem_nil, fun tr htr => absurd htr List.not_mem_nil⟩
  | @snoc ts s event t hrun hstep ih =>
    rw [List.forall_mem_append, List.forall_mem_singleton] at hstays
    obtain ⟨ts', hrun', hsent, hlabels⟩ := ih hstays.1
    obtain ⟨hquiet, hnone⟩ := quiet_step codec floats hstep
    refine ⟨_, hrun'.snoc hquiet, ?_, ?_⟩
    · rw [List.forall_mem_append, List.forall_mem_singleton]
      exact ⟨hsent, hnone⟩
    · rw [List.forall_mem_append, List.forall_mem_singleton]
      refine ⟨hlabels, fun q heq => ?_⟩
      have hstay := hstays.2 q
      cases event with
      | upsert => cases heq
      | tick => cases heq
      | remove p => exact hstay (by cases heq; rfl)

lemma syncRun_of_ready {s : TickState} {events : List SyncEvent}
    (h : ∀ tr ∈ trace syncNext s events,
      tr.src.Ready tr.label.update ∧ (syncAfter storedBlocks farFloats tr.src tr.label).isSome) :
    Run (SyncSteps storedBlocks farFloats) s (trace syncNext s events) (events.foldl syncNext s) := by
  refine Run.of_trace syncNext events fun tr htr => ⟨(h tr htr).1, ?_⟩
  obtain ⟨t, ht⟩ := Option.isSome_iff_exists.mp (h tr htr).2
  rw [dst_of_mem_trace htr, syncNext, ht, Option.getD_some]

/-- A second update of player 7 reaches player 8 as soon as it may. -/
def nextUpdate : List SyncEvent :=
  meeting ++ [(veryLowUpdate 1).quiet, .tick ⟨100050000000, [7], [7, 8], [8], plainConfig, false, ∅⟩]

theorem sends_fresh_and_paced_nextUpdate :
    let sent := sentTo storedBlocks farFloats 8 7 (trace syncNext {} nextUpdate)
    sent.length = 2 ∧ (sent.Pairwise fun a b => a.due.generation < b.due.generation) ∧
      sent.Pairwise fun a b => a.now + b.interval ≤ b.now := by
  have hrun : Run (SyncSteps storedBlocks farFloats) {} (trace syncNext {} nextUpdate) (nextUpdate.foldl syncNext {}) :=
    syncRun_of_ready (by decide +kernel)
  obtain ⟨hfresh, hpaced, -⟩ := sends_fresh_and_paced .nil hrun 8 7
  exact ⟨by decide +kernel, hfresh (by decide +kernel) (by decide +kernel),
    hpaced (by decide +kernel) (by decide +kernel)⟩

lemma meeting_run : Run (SyncSteps storedBlocks farFloats) {} (trace syncNext {} meeting) met :=
  syncRun_of_ready (by decide +kernel)

lemma met_atZero : AtZero met := by
  have hnumber : (met.system.states.lookup 7).map (·.lastInboundSequence) = some 0 := by decide +kernel
  obtain ⟨current, hcurrent, hlast⟩ := Option.map_eq_some_iff.mp hnumber
  have hkept := (counted_of_syncRun meeting_run).1
  exact ⟨AList.ext (by decide +kernel), current, hcurrent, hkept.received 7 current hcurrent, hlast⟩

/-- The state after the counter has gone around. -/
def metAgain : TickState := { met with generation := 1 }

lemma idReused_run :
    Run (SyncSteps storedBlocks farFloats) metAgain (trace syncNext metAgain idReused) (idReused.foldl syncNext metAgain) :=
  syncRun_of_ready (by decide +kernel)

/-- A player that gets the id and the generation of another one. -/
theorem generation_sent_twice :
    ¬ ∀ (codec : BlockCodec) (floats : SendFloats) (before stretch : List (Transition TickState SyncEvent))
        (s t : TickState) (receiver sender : PeerId), Run (SyncSteps codec floats) {} before s →
        Run (SyncSteps codec floats) s stretch t → (∀ tr ∈ stretch, tr.label ≠ .remove receiver) →
        (sentTo codec floats receiver sender stretch).Pairwise fun a b => a.due.generation < b.due.generation := by
  intro h
  have hcounter : met.generation + UInt64.ofNat (2 ^ 64 - 2) = 1 := by decide +kernel
  obtain ⟨ts, hagain, hstays⟩ := met_atZero.run (2 ^ 64 - 2)
  rw [hcounter] at hagain
  obtain ⟨quiet, hquiet, hsilent, hlabels⟩ := quiet_run storedBlocks farFloats hagain hstays
  have hrun := (meeting_run.append hquiet).append idReused_run
  have hmeeting : (sentTo storedBlocks farFloats 8 7 (trace syncNext {} meeting)).map (·.due.generation) = [1] := by
    decide +kernel
  have hreused : (sentTo storedBlocks farFloats 8 7 (trace syncNext metAgain idReused)).map (·.due.generation) = [1] := by
    decide +kernel
  have hnothing : sentTo storedBlocks farFloats 8 7 quiet = [] := by
    rw [sentTo, List.flatMap_eq_nil_iff.mpr hsilent, pairSends_nil]
  have hpairs := h storedBlocks farFloats [] _ {} _ 8 7 .nil hrun ?_
  · rw [← List.pairwise_map (f := fun sent : SentUpdate => sent.due.generation) (R := (· < ·)), sentTo_append,
      sentTo_append, hnothing, List.append_nil, List.map_append, hmeeting, hreused] at hpairs
    exact absurd hpairs (by decide)
  · simp only [List.forall_mem_append]
    exact ⟨⟨by decide +kernel, fun tr htr => hlabels tr htr 8⟩, by decide +kernel⟩

end BasisRust.Avatar
