import BasisRust.Lib.Run
import BasisRust.Server.Roster

/-!
# Players who join at the same time

Any number of `finalize_accept` calls in flight, interleaved step by step.  Each enters its peer into
`authenticated_peers`, announces it to every peer it finds there, then collects the peers it finds there for
its own peer and sends them.  The two passes over the map are not atomic; of a pass only this is assumed, that
it visits every entry that was there when it started.

Whichever of two peers is entered first, the other one's call finds it: `Introduced` keeps, for every ordered
pair of entered peers, what is still going to tell the second about the first.
-/

namespace BasisRust.Server

open Lib Protocol Transport

/-! ### Calls in flight -/

/-- A packet of `existing_player_packets`, or one enqueued: its channel and payload. -/
abbrev Packet := UInt8 × Bytes

/-- How far a `finalize_accept` has come. -/
inductive Phase where
  | start
  | entered
  | announcing
  /-- inside `broadcast`; the entries it is bound to visit -/
  | broadcasting (remaining : List PeerId)
  | announced
  /-- inside the second pass; the entries it is bound to visit, and the packets so far -/
  | collecting (remaining : List PeerId) (packets : List Packet)
  /-- inside `send_many`; the packets to come -/
  | sending (packets : List Packet)
  | finished
  deriving DecidableEq

structure JoinTask where
  ready : ReadyMessage
  /-- the `ServerMetaDataMessage` for the own peer -/
  metaData : Bytes
  phase : Phase := .start
  deriving DecidableEq

structure JoinState where
  /-- the transport's peers -/
  peers : Dict PeerId PeerState
  authenticatedPeers : Dict PeerId ConnectedPeer
  tasks : Dict PeerId JoinTask
  /-- every packet that was enqueued for a peer, all on reliable-ordered channels -/
  enqueued : List (PeerId × Packet) := []

namespace JoinState

/-- `transport.send` on a reliable channel; for a peer that is gone it does nothing. -/
def send (target : PeerId) (packet : Packet) (s : JoinState) : JoinState :=
  match s.peers.lookup target with
  | none => s
  | some state =>
    { s with
      peers := s.peers.insert target (enqueueReliablePayload state packet.1 .reliableOrdered packet.2)
      enqueued := s.enqueued ++ [(target, packet)] }

def moveTo (peerId : PeerId) (task : JoinTask) (phase : Phase) (s : JoinState) : JoinState :=
  { s with tasks := s.tasks.insert peerId { task with phase } }

def enter (peerId : PeerId) (ready : ReadyMessage) (s : JoinState) : JoinState :=
  { s with
    authenticatedPeers := s.authenticatedPeers.insert peerId
      { id := peerId, metadata := ready.playerMetaDataMessage, ready } }

end JoinState

/-- One step of the call for a peer. -/
inductive JoinStep (s : JoinState) (p : PeerId) : JoinState → Prop
  | enter {task} (task_eq : s.tasks.lookup p = some task) (phase : task.phase = .start) :
      JoinStep s p ((s.enter p task.ready).moveTo p task .entered)
  | sendMetaData {task} (task_eq : s.tasks.lookup p = some task) (phase : task.phase = .entered) :
      JoinStep s p ((s.send p (channels.metaData, task.metaData)).moveTo p task .announcing)
  | startBroadcast {task} (task_eq : s.tasks.lookup p = some task) (phase : task.phase = .announcing) :
      JoinStep s p (s.moveTo p task (.broadcasting s.authenticatedPeers.keys))
  | broadcast {task remaining target} (task_eq : s.tasks.lookup p = some task)
      (phase : task.phase = .broadcasting remaining) (present : target ∈ s.authenticatedPeers)
      (except : target ≠ p) :
      JoinStep s p ((s.send target (channels.createRemotePlayer, spawnBytes p task.ready)).moveTo p task
        (.broadcasting (remaining.filter (· ≠ target))))
  | skipSelf {task remaining} (task_eq : s.tasks.lookup p = some task)
      (phase : task.phase = .broadcasting remaining) (present : p ∈ s.authenticatedPeers) :
      JoinStep s p (s.moveTo p task (.broadcasting (remaining.filter (· ≠ p))))
  | endBroadcast {task} (task_eq : s.tasks.lookup p = some task) (phase : task.phase = .broadcasting []) :
      JoinStep s p (s.moveTo p task .announced)
  | startCollect {task} (task_eq : s.tasks.lookup p = some task) (phase : task.phase = .announced) :
      JoinStep s p (s.moveTo p task (.collecting s.authenticatedPeers.keys []))
  | collect {task remaining packets target existing} (task_eq : s.tasks.lookup p = some task)
      (phase : task.phase = .collecting remaining packets)
      (present : s.authenticatedPeers.lookup target = some existing) (except : target ≠ p) :
      JoinStep s p (s.moveTo p task (.collecting (remaining.filter (· ≠ target))
        (packets ++ [(channels.createRemotePlayersForNewPeer, spawnBytes target existing.ready)])))
  | passSelf {task remaining packets} (task_eq : s.tasks.lookup p = some task)
      (phase : task.phase = .collecting remaining packets) (present : p ∈ s.authenticatedPeers) :
      JoinStep s p (s.moveTo p task (.collecting (remaining.filter (· ≠ p)) packets))
  | endCollect {task packets} (task_eq : s.tasks.lookup p = some task)
      (phase : task.phase = .collecting [] packets) : JoinStep s p (s.moveTo p task (.sending packets))
  | sendNext {task packet packets} (task_eq : s.tasks.lookup p = some task)
      (phase : task.phase = .sending (packet :: packets)) :
      JoinStep s p ((s.send p packet).moveTo p task (.sending packets))
  | finish {task} (task_eq : s.tasks.lookup p = some task) (phase : task.phase = .sending []) :
      JoinStep s p (s.moveTo p task .finished)

/-! ### Who is going to be told about whom -/

namespace JoinState

/-- The peer is entered, and not by a call that is still to enter it anew. -/
def Joined (s : JoinState) (p : PeerId) : Prop :=
  p ∈ s.authenticatedPeers ∧ ∀ task, s.tasks.lookup p = some task → task.phase ≠ .start

/-- A spawn message that describes `a` as it is entered has been enqueued for `b`. -/
def Told (s : JoinState) (a b : PeerId) : Prop :=
  ∃ peer, s.authenticatedPeers.lookup a = some peer ∧
    ∃ channel, (channel = channels.createRemotePlayer ∨ channel = channels.createRemotePlayersForNewPeer) ∧
      (b, channel, spawnBytes a peer.ready) ∈ s.enqueued

end JoinState

/-- The call is still going to announce its peer to `b`. -/
def Phase.Announces (b : PeerId) : Phase → Prop
  | .entered => True
  | .announcing => True
  | .broadcasting remaining => b ∈ remaining
  | _ => False

/-- The call is still going to send its peer the packet about `a`. -/
def Phase.Fetches (a : PeerId) (packet : Packet) : Phase → Prop
  | .entered => True
  | .announcing => True
  | .broadcasting _ => True
  | .announced => True
  | .collecting remaining packets => a ∈ remaining ∨ packet ∈ packets
  | .sending packets => packet ∈ packets
  | _ => False

namespace JoinState

/-- `b` is told about `a` in time: by `a`'s call or by its own. -/
def WillBeTold (s : JoinState) (a b : PeerId) : Prop :=
  s.Told a b ∨ (∃ task, s.tasks.lookup a = some task ∧ task.phase.Announces b) ∨
    ∃ task peer, s.tasks.lookup b = some task ∧ s.authenticatedPeers.lookup a = some peer ∧
      task.phase.Fetches a (channels.createRemotePlayersForNewPeer, spawnBytes a peer.ready)

/-- **The invariant.** -/
structure Introduced (s : JoinState) : Prop where
  live : ∀ p ∈ s.tasks, p ∈ s.peers
  entered : ∀ p task, s.tasks.lookup p = some task → task.phase ≠ .start →
    ∃ peer, s.authenticatedPeers.lookup p = some peer ∧ peer.ready = task.ready
  pairs : ∀ a b, a ≠ b → s.Joined a → s.Joined b → b ∈ s.peers → s.WillBeTold a b

/-- No call has begun, and the peers already there know of each other. -/
structure Start (s : JoinState) : Prop where
  live : ∀ p ∈ s.tasks, p ∈ s.peers
  start : ∀ p task, s.tasks.lookup p = some task → task.phase = .start
  told : ∀ a b, a ≠ b → a ∈ s.authenticatedPeers → b ∈ s.authenticatedPeers → a ∉ s.tasks → b ∉ s.tasks →
    b ∈ s.peers → s.Told a b

theorem Start.introduced {s : JoinState} (h : s.Start) : s.Introduced := by
  refine ⟨h.live, fun p task htask hphase => absurd (h.start p task htask) hphase, ?_⟩
  intro a b hne ha hb hlive
  have hnone {p : PeerId} (hp : s.Joined p) : p ∉ s.tasks := by
    intro hmem
    obtain ⟨task, htask⟩ := Dict.mem_iff_lookup.mp hmem
    exact hp.2 task htask (h.start p task htask)
  exact .inl (h.told a b hne ha.1 hb.1 (hnone ha) (hnone hb) hlive)

/-! ### Sending -/

section Send

variable {s : JoinState} {target : PeerId} {packet : Packet}

@[simp] lemma send_authenticatedPeers : (s.send target packet).authenticatedPeers = s.authenticatedPeers := by
  unfold send
  split <;> rfl

@[simp] lemma send_tasks : (s.send target packet).tasks = s.tasks := by
  unfold send
  split <;> rfl

@[simp] lemma mem_send_peers {p : PeerId} : p ∈ (s.send target packet).peers ↔ p ∈ s.peers := by
  unfold send
  split
  next => exact Iff.rfl
  next state hstate =>
    constructor
    · intro h
      rcases (AList.mem_insert _).mp h with rfl | h
      · exact Dict.mem_iff_lookup.mpr ⟨state, hstate⟩
      · exact h
    · exact fun h => (AList.mem_insert _).mpr (.inr h)

lemma mem_send_of_mem {e : PeerId × Packet} (h : e ∈ s.enqueued) : e ∈ (s.send target packet).enqueued := by
  unfold send
  split
  next => exact h
  next => exact List.mem_append_left _ h

/-- To a live peer the packet is enqueued. -/
lemma mem_send (h : target ∈ s.peers) : (target, packet) ∈ (s.send target packet).enqueued := by
  obtain ⟨state, hstate⟩ := Dict.mem_iff_lookup.mp h
  unfold send
  rw [hstate]
  exact List.mem_append_right _ (List.mem_singleton_self _)

end Send

/-! ### Steps -/

/-- A step after the entry: one call moves on, packets are added, and what its old phase was going to do for a
pair is done or left to its new phase. -/
lemma Introduced.move {s s' : JoinState} {p : PeerId} {task : JoinTask} {phase : Phase} (h : s.Introduced)
    (htask : s.tasks.lookup p = some task) (hphase : task.phase ≠ .start)
    (htasks : s'.tasks = s.tasks.insert p { task with phase })
    (hauth : s'.authenticatedPeers = s.authenticatedPeers) (hpeers : ∀ q, q ∈ s'.peers ↔ q ∈ s.peers)
    (henqueued : ∀ e ∈ s.enqueued, e ∈ s'.enqueued)
    (hannounce : ∀ b, b ≠ p → b ∈ s.authenticatedPeers → b ∈ s.peers → task.phase.Announces b →
      s'.Told p b ∨ phase.Announces b)
    (hfetch : ∀ a peer, a ≠ p → s.authenticatedPeers.lookup a = some peer →
      task.phase.Fetches a (channels.createRemotePlayersForNewPeer, spawnBytes a peer.ready) →
      s'.Told a p ∨ phase.Fetches a (channels.createRemotePlayersForNewPeer, spawnBytes a peer.ready)) :
    s'.Introduced := by
  have hlookup (q : PeerId) : s'.tasks.lookup q = if q = p then some { task with phase } else s.tasks.lookup q := by
    rw [htasks, Dict.lookup_insert]
  have hjoined {q : PeerId} (hq : s'.Joined q) : s.Joined q := by
    refine ⟨hauth ▸ hq.1, fun t ht hstart => ?_⟩
    by_cases hqp : q = p
    · subst hqp
      obtain rfl := Option.some.inj (htask.symm.trans ht)
      exact hphase hstart
    · exact hq.2 t (by rw [hlookup, if_neg hqp, ht]) hstart
  have htold {a b : PeerId} (ht : s.Told a b) : s'.Told a b := by
    obtain ⟨peer, hpeer, channel, hchannel, hmem⟩ := ht
    exact ⟨peer, hauth ▸ hpeer, channel, hchannel, henqueued _ hmem⟩
  refine ⟨fun q hq => ?_, fun q t ht hstart => ?_, fun a b hne ha hb hlive => ?_⟩
  · rw [htasks] at hq
    rcases (AList.mem_insert _).mp hq with rfl | hq
    · exact (hpeers q).mpr (h.live q (Dict.mem_iff_lookup.mpr ⟨task, htask⟩))
    · exact (hpeers q).mpr (h.live q hq)
  · rw [hauth]
    rw [hlookup] at ht
    split at ht
    next hq =>
      subst hq
      obtain rfl := Option.some.inj ht
      exact h.entered q task htask hphase
    next => exact h.entered q t ht hstart
  · rcases h.pairs a b hne (hjoined ha) (hjoined hb) ((hpeers b).mp hlive) with
      ht | ⟨t, ht, hannounces⟩ | ⟨t, peer, ht, hpeer, hfetches⟩
    · exact .inl (htold ht)
    · by_cases hap : a = p
      · subst hap
        obtain rfl := Option.some.inj (htask.symm.trans ht)
        have hb' : b ∈ s.authenticatedPeers := hauth ▸ hb.1
        rcases hannounce b (Ne.symm hne) hb' ((hpeers b).mp hlive) hannounces with h' | h'
        · exact .inl h'
        · exact .inr (.inl ⟨_, by rw [hlookup, if_pos rfl], h'⟩)
      · exact .inr (.inl ⟨t, by rw [hlookup, if_neg hap, ht], hannounces⟩)
    · by_cases hbp : b = p
      · subst hbp
        obtain rfl := Option.some.inj (htask.symm.trans ht)
        rcases hfetch a peer hne hpeer hfetches with h' | h'
        · exact .inl h'
        · exact .inr (.inr ⟨_, peer, by rw [hlookup, if_pos rfl], hauth ▸ hpeer, h'⟩)
      · exact .inr (.inr ⟨t, peer, by rw [hlookup, if_neg hbp, ht], hauth ▸ hpeer, hfetches⟩)

/-- The entry itself: both directions of every new pair are still ahead of the new peer's call. -/
lemma Introduced.enter {s : JoinState} {p : PeerId} {task : JoinTask} (h : s.Introduced)
    (htask : s.tasks.lookup p = some task) : ((s.enter p task.ready).moveTo p task .entered).Introduced := by
  set s' := (s.enter p task.ready).moveTo p task .entered with hs'
  have hlookup (q : PeerId) : s'.tasks.lookup q =
      if q = p then some { task with phase := .entered } else s.tasks.lookup q := Dict.lookup_insert _ _ _ _
  have hauth (q : PeerId) : s'.authenticatedPeers.lookup q =
      if q = p then some { id := p, metadata := task.ready.playerMetaDataMessage, ready := task.ready }
      else s.authenticatedPeers.lookup q := Dict.lookup_insert _ _ _ _
  refine ⟨fun q hq => ?_, fun q t ht hstart => ?_, fun a b hne ha hb hlive => ?_⟩
  · rcases (AList.mem_insert _).mp hq with rfl | hq
    · exact h.live q (Dict.mem_iff_lookup.mpr ⟨task, htask⟩)
    · exact h.live q hq
  · rw [hlookup] at ht
    rw [hauth]
    split at ht
    next hq =>
      obtain rfl := Option.some.inj ht
      rw [if_pos hq]
      exact ⟨_, rfl, rfl⟩
    next hq =>
      rw [if_neg hq]
      exact h.entered q t ht hstart
  · by_cases hap : a = p
    · subst hap
      exact .inr (.inl ⟨{ task with phase := .entered }, by rw [hlookup, if_pos rfl], trivial⟩)
    · obtain ⟨peer, hpeer⟩ := Dict.mem_iff_lookup.mp ha.1
      by_cases hbp : b = p
      · subst hbp
        exact .inr (.inr ⟨{ task with phase := .entered }, peer, by rw [hlookup, if_pos rfl], hpeer, trivial⟩)
      · have hold {q : PeerId} (hqp : q ≠ p) (hq : s'.Joined q) : s.Joined q := by
          refine ⟨((AList.mem_insert _).mp hq.1).resolve_left hqp, fun t ht => ?_⟩
          exact hq.2 t (by rw [hlookup, if_neg hqp, ht])
        rw [hauth, if_neg hap] at hpeer
        rcases h.pairs a b hne (hold hap ha) (hold hbp hb) hlive with
          ⟨peer', hpeer', ht⟩ | ⟨t, ht, hannounces⟩ | ⟨t, peer', ht, hpeer', hfetches⟩
        · exact .inl ⟨peer', by rw [hauth, if_neg hap, hpeer'], ht⟩
        · exact .inr (.inl ⟨t, by rw [hlookup, if_neg hap, ht], hannounces⟩)
        · exact .inr (.inr ⟨t, peer', by rw [hlookup, if_neg hbp, ht], by rw [hauth, if_neg hap, hpeer'], hfetches⟩)

/-- A step that only moves a call on: its new phase has taken over what the old one was going to do. -/
lemma Introduced.moveTo {s : JoinState} {p : PeerId} {task : JoinTask} {phase : Phase} (h : s.Introduced)
    (htask : s.tasks.lookup p = some task) (hphase : task.phase ≠ .start)
    (hannounce : ∀ b, b ≠ p → b ∈ s.authenticatedPeers → task.phase.Announces b → phase.Announces b)
    (hfetch : ∀ a peer, a ≠ p → s.authenticatedPeers.lookup a = some peer →
      task.phase.Fetches a (channels.createRemotePlayersForNewPeer, spawnBytes a peer.ready) →
      phase.Fetches a (channels.createRemotePlayersForNewPeer, spawnBytes a peer.ready)) :
    (s.moveTo p task phase).Introduced := by
  refine h.move htask hphase rfl rfl (fun _ => Iff.rfl) (fun _ he => he) ?_ ?_
  · exact fun b hne hb _ hannounces => .inr (hannounce b hne hb hannounces)
  · exact fun a peer hne hpeer hfetches => .inr (hfetch a peer hne hpeer hfetches)

/-- A step that sends a packet and moves its call on. -/
lemma Introduced.sendMoveTo {s : JoinState} {p target : PeerId} {packet : Packet} {task : JoinTask}
    {phase : Phase} (h : s.Introduced) (htask : s.tasks.lookup p = some task) (hphase : task.phase ≠ .start)
    (hannounce : ∀ b, b ≠ p → b ∈ s.peers → task.phase.Announces b →
      ((s.send target packet).moveTo p task phase).Told p b ∨ phase.Announces b)
    (hfetch : ∀ a peer, a ≠ p → s.authenticatedPeers.lookup a = some peer →
      task.phase.Fetches a (channels.createRemotePlayersForNewPeer, spawnBytes a peer.ready) →
      ((s.send target packet).moveTo p task phase).Told a p ∨
        phase.Fetches a (channels.createRemotePlayersForNewPeer, spawnBytes a peer.ready)) :
    ((s.send target packet).moveTo p task phase).Introduced := by
  refine h.move htask hphase ?_ send_authenticatedPeers (fun _ => mem_send_peers) (fun _ => mem_send_of_mem) ?_ hfetch
  · change (s.send target packet).tasks.insert p _ = _
    rw [send_tasks]
  · exact fun b hne _ hlive hannounces => hannounce b hne hlive hannounces

/-- A spawn message sent to a live peer tells it. -/
lemma told_send {s : JoinState} {a b p : PeerId} {peer : ConnectedPeer} {channel : UInt8}
    (hpeer : s.authenticatedPeers.lookup a = some peer) (hlive : b ∈ s.peers)
    (hchannel : channel = channels.createRemotePlayer ∨ channel = channels.createRemotePlayersForNewPeer)
    (task : JoinTask) (phase : Phase) :
    ((s.send b (channel, spawnBytes a peer.ready)).moveTo p task phase).Told a b := by
  refine ⟨peer, ?_, channel, hchannel, mem_send hlive⟩
  change (s.send b _).authenticatedPeers.lookup a = some peer
  rw [send_authenticatedPeers, hpeer]

lemma mem_filter_ne {a target : PeerId} {remaining : List PeerId} (hne : a ≠ target) (h : a ∈ remaining) :
    a ∈ remaining.filter (· ≠ target) := List.mem_filter.mpr ⟨h, decide_eq_true hne⟩

/-- **One step of any call** keeps the invariant. -/
theorem Introduced.step {s s' : JoinState} {p : PeerId} (hstep : JoinStep s p s') (h : s.Introduced) :
    s'.Introduced := by
  have hne {task : JoinTask} {phase : Phase} (hphase : task.phase = phase) (hstart : phase ≠ .start) :
      task.phase ≠ .start := hphase ▸ hstart
  cases hstep with
  | enter task_eq phase => exact h.enter task_eq
  | sendMetaData task_eq phase =>
    refine h.sendMoveTo task_eq (hne phase (by simp)) ?_ ?_
    · exact fun b _ _ _ => .inr trivial
    · exact fun a peer _ _ _ => .inr trivial
  | startBroadcast task_eq phase =>
    refine h.moveTo task_eq (hne phase (by simp)) ?_ ?_
    · exact fun b _ hb _ => hb
    · exact fun a peer _ _ _ => trivial
  | @broadcast task remaining target task_eq phase present except =>
    obtain ⟨own, hown, hready⟩ := h.entered p task task_eq (hne phase (by simp))
    refine h.sendMoveTo task_eq (hne phase (by simp)) (fun b _ hlive hannounces => ?_) ?_
    · rw [phase] at hannounces
      by_cases hb : b = target
      · subst hb
        rw [← hready]
        exact .inl (told_send hown hlive (.inl rfl) _ _)
      · exact .inr (mem_filter_ne hb hannounces)
    · exact fun a peer _ _ _ => .inr trivial
  | skipSelf task_eq phase present =>
    refine h.moveTo task_eq (hne phase (by simp)) (fun b hb _ hannounces => ?_) ?_
    · rw [phase] at hannounces
      exact mem_filter_ne hb hannounces
    · exact fun a peer _ _ _ => trivial
  | endBroadcast task_eq phase =>
    refine h.moveTo task_eq (hne phase (by simp)) (fun b _ _ hannounces => ?_) ?_
    · rw [phase] at hannounces
      exact absurd hannounces List.not_mem_nil
    · exact fun a peer _ _ _ => trivial
  | startCollect task_eq phase =>
    refine h.moveTo task_eq (hne phase (by simp)) (fun b _ _ hannounces => ?_) ?_
    · rw [phase] at hannounces
      exact hannounces
    · exact fun a peer _ hpeer _ => .inl (Dict.mem_iff_lookup.mpr ⟨peer, hpeer⟩)
  | @collect task remaining packets target existing task_eq phase present except =>
    refine h.moveTo task_eq (hne phase (by simp)) (fun b _ _ hannounces => ?_) fun a peer _ hpeer hfetches => ?_
    · rw [phase] at hannounces
      exact hannounces
    · rw [phase] at hfetches
      rcases hfetches with hremaining | hpacket
      · by_cases ha : a = target
        · -- the packet is made from the entry as it is now
          subst ha
          obtain rfl := Option.some.inj (hpeer.symm.trans present)
          exact .inr (List.mem_append_right _ (List.mem_singleton_self _))
        · exact .inl (mem_filter_ne ha hremaining)
      · exact .inr (List.mem_append_left _ hpacket)
  | passSelf task_eq phase present =>
    refine h.moveTo task_eq (hne phase (by simp)) (fun b _ _ hannounces => ?_) fun a peer ha _ hfetches => ?_
    · rw [phase] at hannounces
      exact hannounces
    · rw [phase] at hfetches
      exact hfetches.imp (mem_filter_ne ha) id
  | endCollect task_eq phase =>
    refine h.moveTo task_eq (hne phase (by simp)) (fun b _ _ hannounces => ?_) fun a peer _ _ hfetches => ?_
    · rw [phase] at hannounces
      exact hannounces
    · rw [phase] at hfetches
      exact hfetches.resolve_left List.not_mem_nil
  | @sendNext task packet packets task_eq phase =>
    have hlive := h.live p (Dict.mem_iff_lookup.mpr ⟨task, task_eq⟩)
    refine h.sendMoveTo task_eq (hne phase (by simp)) (fun b _ _ hannounces => ?_) fun a peer _ hpeer hfetches => ?_
    · rw [phase] at hannounces
      exact .inr hannounces
    · rw [phase] at hfetches
      rcases List.mem_cons.mp hfetches with rfl | hpacket
      · exact .inl (told_send hpeer hlive (.inr rfl) _ _)
      · exact .inr hpacket
  | finish task_eq phase =>
    refine h.moveTo task_eq (hne phase (by simp)) (fun b _ _ hannounces => ?_) fun a peer _ _ hfetches => ?_
    · rw [phase] at hannounces
      exact hannounces
    · rw [phase] at hfetches
      exact absurd hfetches List.not_mem_nil

/-- **Players who join together know of each other.**  Any number of calls for live peers, interleaved in any
way: when all have finished, everybody in `authenticated_peers` has been sent a spawn message that describes
everybody else there. -/
theorem everyone_told {s₀ s : JoinState} {ts : List (Transition JoinState PeerId)} (hstart : s₀.Start)
    (hrun : Run JoinStep s₀ ts s) (hfinished : ∀ p task, s.tasks.lookup p = some task → task.phase = .finished) :
    ∀ a b, a ≠ b → a ∈ s.authenticatedPeers → b ∈ s.authenticatedPeers → b ∈ s.peers → s.Told a b := by
  have h : s.Introduced := (hrun.invariant (I := Introduced) hstart.introduced fun _ _ _ => Introduced.step).2
  intro a b hne ha hb hlive
  have hjoined {p : PeerId} (hp : p ∈ s.authenticatedPeers) : s.Joined p := by
    refine ⟨hp, fun task htask => ?_⟩
    rw [hfinished p task htask]
    exact Phase.noConfusion
  rcases h.pairs a b hne (hjoined ha) (hjoined hb) hlive with
    htold | ⟨task, htask, hannounces⟩ | ⟨task, peer, htask, -, hfetches⟩
  · exact htold
  · rw [hfinished a task htask] at hannounces
    exact hannounces.elim
  · rw [hfinished b task htask] at hfetches
    exact hfetches.elim

/-! ### Two players join at once -/

/-- The step the call for `p` takes when it visits entries in the order it found them. -/
def next (s : JoinState) (p : PeerId) : Option JoinState := do
  let task ← s.tasks.lookup p
  match task.phase with
  | .start => some ((s.enter p task.ready).moveTo p task .entered)
  | .entered => some ((s.send p (channels.metaData, task.metaData)).moveTo p task .announcing)
  | .announcing => some (s.moveTo p task (.broadcasting s.authenticatedPeers.keys))
  | .broadcasting [] => some (s.moveTo p task .announced)
  | .broadcasting (target :: rest) =>
    if target ∉ s.authenticatedPeers then none
    else if target = p then some (s.moveTo p task (.broadcasting ((target :: rest).filter (· ≠ p))))
    else some ((s.send target (channels.createRemotePlayer, spawnBytes p task.ready)).moveTo p task
      (.broadcasting ((target :: rest).filter (· ≠ target))))
  | .announced => some (s.moveTo p task (.collecting s.authenticatedPeers.keys []))
  | .collecting [] packets => some (s.moveTo p task (.sending packets))
  | .collecting (target :: rest) packets =>
    match s.authenticatedPeers.lookup target with
    | none => none
    | some existing =>
      if target = p then some (s.moveTo p task (.collecting ((target :: rest).filter (· ≠ p)) packets))
      else some (s.moveTo p task (.collecting ((target :: rest).filter (· ≠ target))
        (packets ++ [(channels.createRemotePlayersForNewPeer, spawnBytes target existing.ready)])))
  | .sending (packet :: packets) => some ((s.send p packet).moveTo p task (.sending packets))
  | .sending [] => some (s.moveTo p task .finished)
  | .finished => none

theorem next_step {s t : JoinState} {p : PeerId} (h : s.next p = some t) : JoinStep s p t := by
  obtain ⟨task, htask, h⟩ := Option.bind_eq_some_iff.mp h
  split at h
  next hphase => exact Option.some.inj h ▸ .enter htask hphase
  next hphase => exact Option.some.inj h ▸ .sendMetaData htask hphase
  next hphase => exact Option.some.inj h ▸ .startBroadcast htask hphase
  next hphase => exact Option.some.inj h ▸ .endBroadcast htask hphase
  next target rest hphase =>
    split at h
    next => cases h
    next hpresent =>
      have hpresent := not_not.mp hpresent
      split at h
      next heq => exact Option.some.inj h ▸ .skipSelf htask hphase (heq ▸ hpresent)
      next hne => exact Option.some.inj h ▸ .broadcast htask hphase hpresent hne
  next hphase => exact Option.some.inj h ▸ .startCollect htask hphase
  next packets hphase => exact Option.some.inj h ▸ .endCollect htask hphase
  next target rest packets hphase =>
    split at h
    next => cases h
    next existing hpresent =>
      split at h
      next heq =>
        exact Option.some.inj h ▸ .passSelf htask hphase (Dict.mem_iff_lookup.mpr ⟨existing, heq ▸ hpresent⟩)
      next hne => exact Option.some.inj h ▸ .collect htask hphase hpresent hne
  next packet packets hphase => exact Option.some.inj h ▸ .sendNext htask hphase
  next hphase => exact Option.some.inj h ▸ .finish htask hphase
  next => cases h

/-- Two calls about to begin, on an empty map. -/
def twoJoining : JoinState where
  peers := (AList.insert 0 (PeerState.new 0 (.v4 #v[127, 0, 0, 1] 7) 0 0 0) ∅).insert 1
    (PeerState.new 1 (.v4 #v[127, 0, 0, 1] 8) 0 0 0)
  authenticatedPeers := ∅
  tasks := (AList.insert 0 { ready := ⟨⟨"a", "A", "x"⟩, ⟨0, [], 0⟩, ⟨0, [], [], 0⟩⟩, metaData := [] } ∅).insert 1
    { ready := ⟨⟨"b", "B", "x"⟩, ⟨0, [], 0⟩, ⟨0, [], [], 0⟩⟩, metaData := [] }

/-- The two take turns, so that each finds the other in both of its passes. -/
def turns : List PeerId := (List.replicate 12 [0, 1]).flatten

theorem twoJoining_start : twoJoining.Start where
  live p hp := by
    have hkeys : twoJoining.tasks.keys = twoJoining.peers.keys := by decide +kernel
    rw [AList.mem_keys, ← hkeys]
    exact AList.mem_keys.mp hp
  start p task htask := by
    have hentries : ∀ e ∈ twoJoining.tasks.entries, e.2.phase = .start := by decide +kernel
    exact hentries ⟨p, task⟩ (AList.mem_lookup_iff.mp htask)
  told _ _ _ ha := absurd ha (AList.notMem_empty _)

theorem everyone_told_two : ∃ ts s, Run JoinStep twoJoining ts s ∧ s.Told 0 1 ∧ s.Told 1 0 := by
  let f : JoinState → PeerId → JoinState := fun s p => (s.next p).getD s
  have hsteps : ∀ tr ∈ trace f twoJoining turns, (tr.src.next tr.label).isSome := by decide +kernel
  have hrun : Run JoinStep twoJoining (trace f twoJoining turns) (turns.foldl f twoJoining) := by
    refine Run.of_trace f turns fun tr htr => ?_
    obtain ⟨t, ht⟩ := Option.isSome_iff_exists.mp (hsteps tr htr)
    rw [dst_of_mem_trace htr, show f tr.src tr.label = t from congrArg (·.getD tr.src) ht]
    exact next_step ht
  have hentries : ∀ e ∈ (turns.foldl f twoJoining).tasks.entries, e.2.phase = .finished := by decide +kernel
  have htold := everyone_told twoJoining_start hrun
    fun p task htask => hentries ⟨p, task⟩ (AList.mem_lookup_iff.mp htask)
  exact ⟨_, _, hrun, htold 0 1 (by decide) (by decide +kernel) (by decide +kernel) (by decide +kernel),
    htold 1 0 (by decide) (by decide +kernel) (by decide +kernel) (by decide +kernel)⟩

end JoinState
end BasisRust.Server
