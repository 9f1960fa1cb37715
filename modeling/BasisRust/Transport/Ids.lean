import BasisRust.Transport.Tables

/-!
# Peer ids

Where `allocate_peer_id` gets its ids from, over runs of any length.  An id is live, retired (its peer is gone
and awaits clean-up) or reusable (cleaned up).  The queue of reusable ids stays apart from the other two, but
the counter that is used when the queue is empty looks at the live ids only: once it has come round it hands
out ids that still await their clean-up.
-/

namespace BasisRust.Transport

open Lib Protocol

/-! ### Steps -/

namespace TransportHandle

/-- `accept` returns only when an id is found. -/
def Returns (handle : TransportHandle) : Op → Prop
  | .accept fuel request => ((handle.removePending request.remoteAddr).allocatePeerId fuel).isSome
  | _ => True

instance (handle : TransportHandle) (op : Op) : Decidable (handle.Returns op) :=
  match op with
  | .accept fuel request => instDecidableEqBool ((handle.removePending request.remoteAddr).allocatePeerId fuel).isSome true
  | .packet _ _ | .reject _ _ | .disconnect _ _ | .timeout _ | .recyclePeerId _ | .sendManySlices _ _ | .resendTo _ _ =>
    instDecidableTrue

def after (handle : TransportHandle) (l : NetLabel) : TransportHandle := (handle.outcome l).handle

/-- An operation that returns, taken as one step. -/
def Steps (handle : TransportHandle) (l : NetLabel) (handle' : TransportHandle) : Prop :=
  handle.Returns l.1 ∧ handle' = handle.after l

/-- Peers may go, and exactly the ids of those that went are retired. -/
structure Retires (handle handle' : TransportHandle) : Prop where
  peers : ∀ id, id ∈ handle'.peers → id ∈ handle.peers
  retired : ∀ id, id ∈ handle'.retiredPeerIds ↔
    id ∈ handle.retiredPeerIds ∨ id ∈ handle.peers ∧ id ∉ handle'.peers
  reusable : handle'.reusablePeerIds = handle.reusablePeerIds
  next : handle'.nextPeerId = handle.nextPeerId

namespace Retires

variable {handle handle' handle'' : TransportHandle}

lemma refl (handle : TransportHandle) : Retires handle handle :=
  ⟨fun _ h => h, fun _ => by simp, rfl, rfl⟩

lemma trans (h : Retires handle handle') (h' : Retires handle' handle'') : Retires handle handle'' where
  peers id hid := h.peers id (h'.peers id hid)
  retired id := by
    rw [h'.retired, h.retired]
    constructor
    · rintro ((hid | ⟨hlive, hgone⟩) | ⟨hlive, hgone⟩)
      · exact .inl hid
      · exact .inr ⟨hlive, fun hid => hgone (h'.peers id hid)⟩
      · exact .inr ⟨h.peers id hlive, hgone⟩
    · rintro (hid | ⟨hlive, hgone⟩)
      · exact .inl (.inl hid)
      · by_cases hid : id ∈ handle'.peers
        · exact .inr ⟨hid, hgone⟩
        · exact .inl (.inr ⟨hlive, hid⟩)
  reusable := h'.reusable.trans h.reusable
  next := h'.next.trans h.next

lemma of_sameTables (h : SameTables handle handle') : Retires handle handle' where
  peers id hid := (h.peers.mem_iff id).mp hid
  retired id := by
    rw [h.retiredPeerIds, h.peers.mem_iff, or_iff_left]
    rintro ⟨hid, hgone⟩
    exact hgone hid
  reusable := h.reusablePeerIds
  next := h.nextPeerId

lemma of_eq (hpeers : handle'.peers = handle.peers) (hretired : handle'.retiredPeerIds = handle.retiredPeerIds)
    (hreusable : handle'.reusablePeerIds = handle.reusablePeerIds) (hnext : handle'.nextPeerId = handle.nextPeerId) :
    Retires handle handle' where
  peers id hid := hpeers ▸ hid
  retired id := by simp [hretired, hpeers]
  reusable := hreusable
  next := hnext

lemma dropPeer {id : PeerId} (hlive : id ∈ handle.peers) (addr : SocketAddr) :
    Retires handle (handle.dropPeer id addr) where
  peers id' hid := (AList.mem_erase.mp hid).2
  retired id' := by
    change id' ∈ handle.retiredPeerIds.insert id ↔ _ ∨ _ ∧ ¬ id' ∈ handle.peers.erase id
    rw [HashSet.mem_insert, AList.mem_erase]
    by_cases heq : id' = id
    · subst heq
      simp [hlive]
    · simp [heq]
  reusable := rfl
  next := rfl

lemma dropLive (handle : TransportHandle) (id : PeerId) : Retires handle (handle.dropLive id) := by
  cases h : handle.peers.lookup id with
  | none =>
    rw [dropLive_of_none h]
    exact refl handle
  | some state =>
    rw [dropLive_of_some h]
    exact dropPeer (Dict.mem_iff_lookup.mpr ⟨state, h⟩) state.addr

end Retires

end TransportHandle

open TransportHandle

lemma retires_processPacket (remoteAddr : SocketAddr) (bytes : Bytes) :
    Relates (fun w w' => Retires w.handle w'.handle) (processPacket remoteAddr bytes) := by
  refine relates_processPacket (R := fun w w' => Retires w.handle w'.handle) (fun w => .refl w.handle)
    (fun _ _ _ => .trans) ?_ bytes fun leaf _ w => ?_
  · exact fun w => .of_sameTables (stays_touchPeer remoteAddr w).tables
  · cases effect_processLeaf remoteAddr leaf w with
    | stays hs => exact .of_sameTables hs.tables
    | unbinds hbound hgone htables hdep =>
      have hunbind : Retires w.handle (w.handle.unbind remoteAddr) := .of_eq rfl rfl rfl rfl
      exact hunbind.trans (.of_sameTables htables)
    | removes hbound hlive hends haddr htables hdep =>
      exact (Retires.dropPeer (Dict.mem_iff_lookup.mpr ⟨_, hlive⟩) _).trans (.of_sameTables htables)

/-! ### Where an id comes from -/

/-- The id is the first of the queue that is not live, or else the first from the counter on. -/
lemma allocatePeerId_cases {fuel : ℕ} {handle handle' : TransportHandle} {id : PeerId}
    (h : handle.allocatePeerId fuel = some (id, handle')) :
    (∃ skipped rest, handle.reusablePeerIds = skipped ++ id :: rest ∧ (∀ live ∈ skipped, live ∈ handle.peers) ∧
      handle' = { handle with reusablePeerIds := rest }) ∨
    ((∀ live ∈ handle.reusablePeerIds, live ∈ handle.peers) ∧
      ∃ k : ℕ, (∀ j < k, handle.nextPeerId + UInt16.ofNat j ∈ handle.peers) ∧
        id = handle.nextPeerId + UInt16.ofNat k ∧
        handle' = { handle with reusablePeerIds := [], nextPeerId := id + 1 }) := by
  induction fuel generalizing handle with
  | zero => cases h
  | succ fuel ih =>
    rw [TransportHandle.allocatePeerId] at h
    split at h
    next first rest hreusable =>
      dsimp only at h
      split at h
      next hlive =>
        rw [hreusable]
        rcases ih h with ⟨skipped, rest', hrest, hskipped, rfl⟩ | ⟨hall, k, hk, hid, rfl⟩
        · refine .inl ⟨first :: skipped, rest', congrArg (first :: ·) hrest, ?_, rfl⟩
          exact List.forall_mem_cons.mpr ⟨hlive, hskipped⟩
        · exact .inr ⟨List.forall_mem_cons.mpr ⟨hlive, hall⟩, k, hk, hid, rfl⟩
      next =>
        cases h
        exact .inl ⟨[], rest, hreusable, fun _ hmem => absurd hmem List.not_mem_nil, rfl⟩
    next hreusable =>
      dsimp only at h
      rw [hreusable]
      refine .inr ⟨fun _ hmem => absurd hmem List.not_mem_nil, ?_⟩
      split at h
      next hlive =>
        rcases ih h with ⟨skipped, rest, hrest, -⟩ | ⟨-, k, hk, hid, rfl⟩
        · rw [show ({ handle with nextPeerId := handle.nextPeerId + 1 } : TransportHandle).reusablePeerIds = [] from
            hreusable] at hrest
          exact absurd hrest.symm (List.append_ne_nil_of_right_ne_nil _ (List.cons_ne_nil _ _))
        · -- the counter went past one live id more
          have hshift (j : ℕ) : handle.nextPeerId + UInt16.ofNat (j + 1) =
              handle.nextPeerId + 1 + UInt16.ofNat j := by
            rw [UInt16.ofNat_add, UInt16.add_comm (UInt16.ofNat j), ← UInt16.add_assoc]
            rfl
          refine ⟨k + 1, fun j hj => ?_, ?_, rfl⟩
          · cases j with
            | zero => simpa using hlive
            | succ j =>
              rw [hshift]
              exact hk j (Nat.lt_of_succ_lt_succ hj)
          · rw [hshift]
            exact hid
      next =>
        cases h
        exact ⟨0, fun _ hj => absurd hj (Nat.not_lt_zero _), by simp, by rw [← hreusable]⟩

/-! ### The loop ends -/

lemma allocatePeerId_isSome_of_counter {k : ℕ} {handle : TransportHandle} {fuel : ℕ}
    (hreusable : handle.reusablePeerIds = []) (hfree : handle.nextPeerId + UInt16.ofNat k ∉ handle.peers)
    (hk : k < fuel) : (handle.allocatePeerId fuel).isSome := by
  induction fuel generalizing handle k with
  | zero => exact absurd hk (Nat.not_lt_zero k)
  | succ fuel ih =>
    rw [TransportHandle.allocatePeerId, hreusable]
    dsimp only
    split
    next hlive =>
      cases k with
      | zero => exact absurd (by simpa using hlive) hfree
      | succ k =>
        refine ih (k := k) rfl ?_ (Nat.lt_of_succ_lt_succ hk)
        change handle.nextPeerId + 1 + UInt16.ofNat k ∉ handle.peers
        rwa [UInt16.add_assoc, UInt16.add_comm 1, ← UInt16.ofNat_one, ← UInt16.ofNat_add]
    next => rfl

/-- The queue takes at most one round for each of its ids. -/
lemma allocatePeerId_isSome_of_drained {queue : List PeerId} {handle : TransportHandle} {fuel : ℕ}
    (hqueue : handle.reusablePeerIds = queue)
    (h : (({ handle with reusablePeerIds := [] } : TransportHandle).allocatePeerId fuel).isSome) :
    (handle.allocatePeerId (queue.length + fuel)).isSome := by
  induction queue generalizing handle with
  | nil =>
    rw [List.length_nil, Nat.zero_add]
    rwa [← hqueue] at h
  | cons first rest ih =>
    rw [List.length_cons, Nat.add_right_comm, TransportHandle.allocatePeerId, hqueue]
    dsimp only
    split
    next => exact ih rfl h
    next => rfl

/-- Fewer than all ids are live, so one is free. -/
lemma exists_free {handle : TransportHandle} (h : handle.peers.keys.length < 65536) :
    ∃ k < 65536, handle.nextPeerId + UInt16.ofNat k ∉ handle.peers := by
  by_contra hall
  push Not at hall
  have hinj : ((List.range 65536).map UInt16.ofNat).Nodup := by
    refine List.Nodup.map_on (fun x hx y hy hxy => ?_) List.nodup_range
    have := congrArg UInt16.toNat hxy
    rwa [UInt16.toNat_ofNat_of_lt' (List.mem_range.mp hx), UInt16.toNat_ofNat_of_lt' (List.mem_range.mp hy)] at this
  have hsub : (List.range 65536).map UInt16.ofNat ⊆ handle.peers.keys := by
    intro id hid
    have hlive := hall (id - handle.nextPeerId).toNat (UInt16.toNat_lt _)
    rw [UInt16.ofNat_toNat, UInt16.add_comm, UInt16.sub_add_cancel] at hlive
    exact hlive
  have hle := (List.subperm_of_subset hinj hsub).length_le
  rw [List.length_map, List.length_range] at hle
  omega

theorem allocatePeerId_isSome {handle : TransportHandle} (h : handle.peers.keys.length < 65536) :
    (handle.allocatePeerId (handle.reusablePeerIds.length + 65536)).isSome := by
  obtain ⟨k, hk, hfree⟩ := exists_free h
  exact allocatePeerId_isSome_of_drained rfl (allocatePeerId_isSome_of_counter rfl hfree hk)

/-! ### What a step does to the ids -/

/-- Peers go; an id is cleaned up; or an id is given out, from the queue or by the counter. -/
inductive IdEffect (handle handle' : TransportHandle) : Op → Prop
  | retires {op} (accept : ∀ fuel request, op ≠ .accept fuel request)
      (recycle : ∀ id, op = .recyclePeerId id → id ∈ handle.peers ∨ id ∉ handle.retiredPeerIds)
      (retires : Retires handle handle') : IdEffect handle handle' op
  | cleans {id} (gone : id ∉ handle.peers) (retired : id ∈ handle.retiredPeerIds)
      (peers : handle'.peers = handle.peers) (rest : ∀ other, other ∈ handle'.retiredPeerIds ↔
        other ≠ id ∧ other ∈ handle.retiredPeerIds)
      (reusable : handle'.reusablePeerIds = if id ∈ handle.reusablePeerIds then handle.reusablePeerIds
        else handle.reusablePeerIds ++ [id])
      (next : handle'.nextPeerId = handle.nextPeerId) : IdEffect handle handle' (.recyclePeerId id)
  | reuses {fuel request id handle₁ skipped}
      (allocate : (handle.removePending request.remoteAddr).allocatePeerId fuel = some (id, handle₁))
      (queue : handle.reusablePeerIds = skipped ++ id :: handle'.reusablePeerIds)
      (live : ∀ other ∈ skipped, other ∈ handle.peers)
      (peers : ∀ other, other ∈ handle'.peers ↔ other = id ∨ other ∈ handle.peers)
      (retired : handle'.retiredPeerIds = handle.retiredPeerIds)
      (next : handle'.nextPeerId = handle.nextPeerId) : IdEffect handle handle' (.accept fuel request)
  | counts {fuel request id handle₁} {k : ℕ}
      (allocate : (handle.removePending request.remoteAddr).allocatePeerId fuel = some (id, handle₁))
      (queue : ∀ other ∈ handle.reusablePeerIds, other ∈ handle.peers)
      (live : ∀ j < k, handle.nextPeerId + UInt16.ofNat j ∈ handle.peers)
      (id_eq : id = handle.nextPeerId + UInt16.ofNat k)
      (peers : ∀ other, other ∈ handle'.peers ↔ other = id ∨ other ∈ handle.peers)
      (retired : handle'.retiredPeerIds = handle.retiredPeerIds)
      (reusable : handle'.reusablePeerIds = [])
      (next : handle'.nextPeerId = id + 1) : IdEffect handle handle' (.accept fuel request)

lemma idEffect_recyclePeerId (id : PeerId) (handle : TransportHandle) :
    IdEffect handle (handle.recyclePeerId id) (.recyclePeerId id) := by
  unfold TransportHandle.recyclePeerId
  split
  next hlive =>
    refine .retires (fun _ _ h => by cases h) (fun id' h => ?_) (.refl handle)
    cases h
    exact .inl hlive
  next hgone =>
    split
    next hretired =>
      refine .retires (fun _ _ h => by cases h) (fun id' h => ?_) (.refl handle)
      cases h
      exact .inr hretired
    next hretired =>
      rw [not_not] at hretired
      dsimp only
      split
      next hmem => exact .cleans hgone hretired rfl (fun _ => HashSet.mem_erase) (if_pos hmem).symm rfl
      next hmem => exact .cleans hgone hretired rfl (fun _ => HashSet.mem_erase) (if_neg hmem).symm rfl

lemma idEffect_accept {fuel : ℕ} {request : ConnectionRequest} {handle : TransportHandle} {w : World}
    (hw : w.handle = handle) (h : ((handle.removePending request.remoteAddr).allocatePeerId fuel).isSome) :
    IdEffect handle (final (accept fuel request) w).handle (.accept fuel request) := by
  subst hw
  obtain ⟨⟨id, handle₁⟩, hallocate⟩ := Option.isSome_iff_exists.mp h
  rw [handle_accept hallocate]
  have hinsert (other : PeerId) (d : Dict PeerId PeerState) (state : PeerState) :
      other ∈ d.insert id state ↔ other = id ∨ other ∈ d := AList.mem_insert d
  rcases allocatePeerId_cases hallocate with ⟨skipped, rest, hqueue, hlive, rfl⟩ | ⟨hqueue, k, hlive, hid, rfl⟩
  · exact .reuses hallocate hqueue hlive (fun other => hinsert other _ _) rfl rfl
  · exact .counts hallocate hqueue hlive hid (fun other => hinsert other _ _) rfl rfl rfl

theorem idEffect_of_steps {handle handle' : TransportHandle} {l : NetLabel} (h : handle.Steps l handle') :
    IdEffect handle handle' l.1 := by
  obtain ⟨op, io⟩ := l
  obtain ⟨hreturns, rfl⟩ := h
  change IdEffect handle (final op.run (handle.world io)).handle op
  cases op with
  | packet remoteAddr bytes =>
    exact .retires (fun _ _ h => by cases h) (fun _ h => by cases h)
      (retires_processPacket remoteAddr bytes (handle.world io))
  | accept fuel request =>
    have hrun : Op.run (.accept fuel request) = (accept fuel request >>= fun _ => pure ()) := rfl
    rw [hrun, final_bind_pure]
    exact idEffect_accept rfl hreturns
  | reject request reason =>
    rw [Op.run, handle_reject]
    exact .retires (fun _ _ h => by cases h) (fun _ h => by cases h) (.of_eq rfl rfl rfl rfl)
  | disconnect peer reason =>
    rw [Op.run, handle_disconnect]
    exact .retires (fun _ _ h => by cases h) (fun _ h => by cases h) (.dropLive handle peer)
  | timeout peer =>
    rw [Op.run, handle_timeoutPeer]
    exact .retires (fun _ _ h => by cases h) (fun _ h => by cases h) (.dropLive handle peer)
  | recyclePeerId peer => exact idEffect_recyclePeerId peer handle
  | sendManySlices peer packets =>
    exact .retires (fun _ _ h => by cases h) (fun _ h => by cases h)
      (.of_sameTables (stays_sendManySlices peer packets (handle.world io)).tables)
  | resendTo instant peer =>
    exact .retires (fun _ _ h => by cases h) (fun _ h => by cases h)
      (.of_sameTables (stays_resendTo instant peer (handle.world io)).tables)

/-! ### Three sets apart -/

/-- The reusable ids are distinct, and none of them is live or awaits its clean-up. -/
structure IdsApart (handle : TransportHandle) : Prop where
  nodup : handle.reusablePeerIds.Nodup
  notLive : ∀ id ∈ handle.reusablePeerIds, id ∉ handle.peers
  notRetired : ∀ id ∈ handle.reusablePeerIds, id ∉ handle.retiredPeerIds

namespace IdsApart

variable {handle handle' : TransportHandle}

theorem empty : IdsApart {} :=
  ⟨List.nodup_nil, fun _ h => absurd h List.not_mem_nil, fun _ h => absurd h List.not_mem_nil⟩

/-- With the sets apart the first id of the queue is free, so nothing is skipped. -/
lemma skipped_eq_nil (h : IdsApart handle) {skipped rest : List PeerId}
    (hqueue : handle.reusablePeerIds = skipped ++ rest) (hlive : ∀ id ∈ skipped, id ∈ handle.peers) :
    skipped = [] := by
  rw [List.eq_nil_iff_forall_not_mem]
  intro id hid
  exact h.notLive id (hqueue ▸ List.mem_append_left _ hid) (hlive id hid)

theorem of_effect {op : Op} (heffect : IdEffect handle handle' op) (h : IdsApart handle) : IdsApart handle' := by
  cases heffect with
  | retires _ _ hs =>
    refine ⟨hs.reusable ▸ h.nodup, ?_, ?_⟩
    · rw [hs.reusable]
      exact fun id hid hlive => h.notLive id hid (hs.peers id hlive)
    · rw [hs.reusable]
      intro id hid hretired
      rcases (hs.retired id).mp hretired with hretired | ⟨hlive, -⟩
      · exact h.notRetired id hid hretired
      · exact h.notLive id hid hlive
  | @cleans id hgone hretired hpeers hrest hreusable _ =>
    have hmem (other : PeerId) (hother : other ∈ handle'.reusablePeerIds) :
        other = id ∨ other ∈ handle.reusablePeerIds := by
      rw [hreusable] at hother
      split at hother
      next => exact .inr hother
      next =>
        rw [List.mem_append, List.mem_singleton] at hother
        exact hother.symm
    refine ⟨?_, fun other hother => ?_, fun other hother => ?_⟩
    · rw [hreusable]
      split
      next => exact h.nodup
      next hfresh => exact h.nodup.concat hfresh |> (List.concat_eq_append ▸ ·)
    · rw [hpeers]
      rcases hmem other hother with rfl | hold
      · exact hgone
      · exact h.notLive other hold
    · rw [hrest]
      rcases hmem other hother with rfl | hold
      · exact fun hne => hne.1 rfl
      · exact fun hne => h.notRetired other hold hne.2
  | @reuses fuel request id handle₁ skipped _ hqueue hlive hpeers hretired _ =>
    obtain rfl := h.skipped_eq_nil hqueue hlive
    rw [List.nil_append] at hqueue
    have hnodup := h.nodup
    rw [hqueue, List.nodup_cons] at hnodup
    have hmem (other : PeerId) (hother : other ∈ handle'.reusablePeerIds) : other ∈ handle.reusablePeerIds :=
      hqueue ▸ List.mem_cons_of_mem _ hother
    refine ⟨hnodup.2, fun other hother => ?_, fun other hother => ?_⟩
    · rw [hpeers]
      rintro (rfl | hother')
      · exact hnodup.1 hother
      · exact h.notLive other (hmem other hother) hother'
    · rw [hretired]
      exact h.notRetired other (hmem other hother)
  | counts _ _ _ _ _ _ hreusable _ =>
    refine ⟨hreusable ▸ List.nodup_nil, ?_, ?_⟩
    · rw [hreusable]
      exact fun _ hother => absurd hother List.not_mem_nil
    · rw [hreusable]
      exact fun _ hother => absurd hother List.not_mem_nil

theorem run {ts : List (Transition TransportHandle NetLabel)} (hrun : Run Steps {} ts handle) : IdsApart handle :=
  (hrun.invariant (I := IdsApart) empty fun _ _ _ hstep => of_effect (idEffect_of_steps hstep)).2

end IdsApart

/-- A live peer keeps its entry when another one is accepted. -/
lemma lookup_accept {fuel : ℕ} {request : ConnectionRequest} {w : World} {id : PeerId} {peer : PeerState}
    (h : w.handle.peers.lookup id = some peer) :
    (final (accept fuel request) w).handle.peers.lookup id = some peer := by
  cases hallocate : (w.handle.removePending request.remoteAddr).allocatePeerId fuel with
  | none =>
    rw [handle_accept_of_none hallocate]
    exact h
  | some result =>
    obtain ⟨id', handle'⟩ := result
    obtain ⟨hfree, hpeers, -⟩ := allocatePeerId_spec hallocate
    rw [handle_accept hallocate]
    change (handle'.peers.insert id' _).lookup id = some peer
    rw [Dict.lookup_insert, hpeers, if_neg]
    · exact h
    · rintro rfl
      exact hfree (Dict.mem_iff_lookup.mpr ⟨peer, h⟩)

/-- **Ids are given out safely.**  In every state reached, the reusable ids are distinct and apart from the live
and the retired ones; while an id is free the loop ends within its bound, with an id that is not live; and no
`accept` touches the entry of a live peer. -/
theorem peer_ids_safe {ts : List (Transition TransportHandle NetLabel)} {handle : TransportHandle}
    (hrun : Run Steps {} ts handle) :
    handle.reusablePeerIds.Nodup ∧
    (∀ id ∈ handle.reusablePeerIds, id ∉ handle.peers ∧ id ∉ handle.retiredPeerIds) ∧
    (handle.peers.keys.length < 65536 →
      ∃ id handle', handle.allocatePeerId (handle.reusablePeerIds.length + 65536) = some (id, handle') ∧
        id ∉ handle.peers) ∧
    ∀ fuel request io id peer, handle.peers.lookup id = some peer →
      (handle.outcome (.accept fuel request, io)).handle.peers.lookup id = some peer := by
  have hapart := IdsApart.run hrun
  refine ⟨hapart.nodup, fun id hid => ⟨hapart.notLive id hid, hapart.notRetired id hid⟩, fun hlength => ?_, ?_⟩
  · obtain ⟨⟨id, handle'⟩, hallocate⟩ := Option.isSome_iff_exists.mp (allocatePeerId_isSome hlength)
    exact ⟨id, handle', hallocate, (allocatePeerId_spec hallocate).1⟩
  · intro fuel request io id peer hpeer
    change (final (accept fuel request >>= fun _ => pure ()) (handle.world io)).handle.peers.lookup id = some peer
    rw [final_bind_pure]
    exact lookup_accept hpeer

/-- A peer is accepted, leaves and is cleaned up after, and its id is given out again. -/
def acceptedAgain : List NetLabel :=
  [(.accept 1 (requestAt 1), {}), (.disconnect 0 "", {}), (.recyclePeerId 0, {}), (.accept 1 (requestAt 2), {})]

lemma acceptedAgain_run :
    Run Steps {} (trace TransportHandle.after {} acceptedAgain) (acceptedAgain.foldl TransportHandle.after {}) := by
  refine Run.of_trace _ _ fun tr htr => ⟨?_, dst_of_mem_trace htr⟩
  have hall : ∀ tr ∈ trace TransportHandle.after {} acceptedAgain, tr.src.Returns tr.label.1 := by decide +kernel
  exact hall tr htr

/-- The run's last state has room for another peer. -/
theorem peer_ids_safe_acceptedAgain :
    let handle := acceptedAgain.foldl TransportHandle.after {}
    ∃ id handle', handle.allocatePeerId (handle.reusablePeerIds.length + 65536) = some (id, handle') ∧
      id ∉ handle.peers :=
  (peer_ids_safe acceptedAgain_run).2.2.1 (by decide +kernel)

/-! ### Reuse before clean-up -/

/-- The id was retired, and its clean-up was not reported since. -/
def AwaitsCleanup (ts : List (Transition TransportHandle NetLabel)) (id : PeerId) : Prop :=
  ∃ before tr after, ts = before ++ tr :: after ∧ (id ∈ tr.src.peers ∧ id ∉ tr.dst.peers) ∧
    ∀ tr' ∈ after, tr'.label.1 ≠ .recyclePeerId id

/-- No `accept` of the run is given an id that awaits its clean-up then. -/
def ReusesOnlyCleaned (ts : List (Transition TransportHandle NetLabel)) : Prop :=
  ∀ before tr after fuel request id handle', ts = before ++ tr :: after → tr.label.1 = .accept fuel request →
    (tr.src.removePending request.remoteAddr).allocatePeerId fuel = some (id, handle') → ¬ AwaitsCleanup before id

/-- No id is reusable, and the first one from the counter on that is not live is still retired. -/
def CounterMeetsRetired (handle : TransportHandle) : Prop :=
  handle.reusablePeerIds = [] ∧ ∃ k : ℕ, (∀ j < k, handle.nextPeerId + UInt16.ofNat j ∈ handle.peers) ∧
    handle.nextPeerId + UInt16.ofNat k ∉ handle.peers ∧ handle.nextPeerId + UInt16.ofNat k ∈ handle.retiredPeerIds

lemma awaitsCleanup_snoc {ts : List (Transition TransportHandle NetLabel)} {tr : Transition TransportHandle NetLabel}
    {id : PeerId} : AwaitsCleanup (ts ++ [tr]) id ↔
      (id ∈ tr.src.peers ∧ id ∉ tr.dst.peers) ∨ AwaitsCleanup ts id ∧ tr.label.1 ≠ .recyclePeerId id := by
  constructor
  · rintro ⟨before, tr', after, hts, hretired, hafter⟩
    rcases List.eq_nil_or_concat after with rfl | ⟨after', last, rfl⟩
    · obtain ⟨-, htr⟩ := List.append_inj' hts rfl
      obtain rfl := List.singleton_inj.mp htr
      exact .inl hretired
    · rw [List.concat_eq_append, ← List.cons_append, ← List.append_assoc] at hts
      obtain ⟨rfl, htr⟩ := List.append_inj' hts rfl
      obtain rfl := List.singleton_inj.mp htr
      rw [List.concat_eq_append, List.forall_mem_append, List.forall_mem_singleton] at hafter
      exact .inr ⟨⟨before, tr', after', rfl, hretired, hafter.1⟩, hafter.2⟩
  · rintro (hretired | ⟨⟨before, tr', after, rfl, hretired, hafter⟩, hlabel⟩)
    · exact ⟨ts, tr, [], rfl, hretired, fun _ h => absurd h List.not_mem_nil⟩
    · refine ⟨before, tr', after ++ [tr], by rw [List.append_assoc, List.cons_append], hretired, ?_⟩
      rw [List.forall_mem_append, List.forall_mem_singleton]
      exact ⟨hafter, hlabel⟩

/-- `retired_peer_ids` holds every id that awaits its clean-up, and beside these only live ids. -/
structure TracksCleanup (ts : List (Transition TransportHandle NetLabel)) (handle : TransportHandle) : Prop where
  retired : ∀ id, AwaitsCleanup ts id → id ∈ handle.retiredPeerIds
  awaits : ∀ id, id ∈ handle.retiredPeerIds → id ∉ handle.peers → AwaitsCleanup ts id

namespace TracksCleanup

variable {ts : List (Transition TransportHandle NetLabel)} {handle handle' : TransportHandle}

theorem snoc {l : NetLabel} (hstep : handle.Steps l handle') (h : TracksCleanup ts handle) :
    TracksCleanup (ts ++ [⟨handle, l, handle'⟩]) handle' := by
  have heffect := idEffect_of_steps hstep
  obtain ⟨op, io⟩ := l
  -- an id given out was not live, and nothing else goes
  have haccept {id : PeerId} (hop : ∀ other, op ≠ .recyclePeerId other)
      (hpeers : ∀ other, other ∈ handle'.peers ↔ other = id ∨ other ∈ handle.peers)
      (hretired : handle'.retiredPeerIds = handle.retiredPeerIds) :
      TracksCleanup (ts ++ [⟨handle, (op, io), handle'⟩]) handle' := by
    constructor
    · intro other hawaits
      rw [hretired]
      rcases awaitsCleanup_snoc.mp hawaits with ⟨hlive, hgone⟩ | ⟨hawaits, -⟩
      · exact absurd ((hpeers other).mpr (.inr hlive)) hgone
      · exact h.retired other hawaits
    · intro other hmem hgone
      rw [hretired] at hmem
      exact awaitsCleanup_snoc.mpr (.inr ⟨h.awaits other hmem fun hlive => hgone ((hpeers other).mpr (.inr hlive)),
        hop other⟩)
  cases heffect with
  | retires _ hrecycle hs =>
    constructor
    · intro id hawaits
      rw [hs.retired]
      rcases awaitsCleanup_snoc.mp hawaits with hretired | ⟨hawaits, -⟩
      · exact .inr hretired
      · exact .inl (h.retired id hawaits)
    · intro id hmem hgone
      rw [awaitsCleanup_snoc]
      rcases (hs.retired id).mp hmem with hretired | hretired
      · by_cases hlive : id ∈ handle.peers
        · exact .inl ⟨hlive, hgone⟩
        · refine .inr ⟨h.awaits id hretired hlive, fun hop => ?_⟩
          rcases hrecycle id hop with hid | hid
          · exact hlive hid
          · exact hid hretired
      · exact .inl hretired
  | cleans hgone hretired hpeers hrest =>
    constructor
    · intro other hawaits
      rw [hrest]
      rcases awaitsCleanup_snoc.mp hawaits with ⟨hlive, hgone'⟩ | ⟨hawaits, hlabel⟩
      · exact absurd (hpeers ▸ hlive) hgone'
      · refine ⟨?_, h.retired other hawaits⟩
        rintro rfl
        exact hlabel rfl
    · intro other hmem hother
      obtain ⟨hne, hmem⟩ := (hrest other).mp hmem
      rw [hpeers] at hother
      refine awaitsCleanup_snoc.mpr (.inr ⟨h.awaits other hmem hother, ?_⟩)
      rintro heq
      cases heq
      exact hne rfl
  | reuses _ _ _ hpeers hretired => exact haccept (fun _ h => by cases h) hpeers hretired
  | counts _ _ _ _ hpeers hretired => exact haccept (fun _ h => by cases h) hpeers hretired

theorem run (hrun : Run Steps {} ts handle) : TracksCleanup ts handle := by
  refine hrun.history (C := fun _ _ => True) ?_ (fun _ _ _ _ hstep _ => snoc hstep) fun _ _ => trivial
  refine ⟨fun id hawaits => ?_, fun _ hmem => absurd hmem (HashSet.notMem_empty _)⟩
  obtain ⟨before, tr, after, hts, -⟩ := hawaits
  exact absurd hts.symm (List.append_ne_nil_of_right_ne_nil _ (List.cons_ne_nil _ _))

end TracksCleanup

lemma counterMeetsRetired_iff {fuel : ℕ} {request : ConnectionRequest} {handle handle' : TransportHandle} {id : PeerId}
    (hapart : IdsApart handle)
    (h : (handle.removePending request.remoteAddr).allocatePeerId fuel = some (id, handle')) :
    CounterMeetsRetired handle ↔ id ∈ handle.retiredPeerIds := by
  have hfree : id ∉ handle.peers := (allocatePeerId_spec h).1
  rcases allocatePeerId_cases h with ⟨skipped, rest, hqueue, -, -⟩ | ⟨hqueue, k, hlive, rfl, -⟩
  · change handle.reusablePeerIds = skipped ++ id :: rest at hqueue
    refine iff_of_false (fun hmeets => ?_) (hapart.notRetired id (hqueue ▸ List.mem_append_right _ List.mem_cons_self))
    exact List.append_ne_nil_of_right_ne_nil _ (List.cons_ne_nil _ _) (hqueue.symm.trans hmeets.1)
  · change ∀ j < k, handle.nextPeerId + UInt16.ofNat j ∈ handle.peers at hlive
    change handle.nextPeerId + UInt16.ofNat k ∉ handle.peers at hfree
    constructor
    · rintro ⟨-, k', hlive', hfree', hretired⟩
      rcases lt_trichotomy k k' with hlt | rfl | hlt
      · exact absurd (hlive' k hlt) hfree
      · exact hretired
      · exact absurd (hlive k' hlt) hfree'
    · intro hretired
      refine ⟨List.eq_nil_iff_forall_not_mem.mpr fun other hother => ?_, k, hlive, hfree, hretired⟩
      exact hapart.notLive other hother (hqueue other hother)

/-- **When ids are reused only after their clean-up.**  In every run from the empty transport, `accept` is never
given an id that awaits its clean-up if and only if at no `accept` the counter stands, past the live ids, at a
retired one while no id is reusable. -/
theorem ids_reused_after_cleanup_iff {ts : List (Transition TransportHandle NetLabel)} {handle : TransportHandle}
    (hrun : Run Steps {} ts handle) : ReusesOnlyCleaned ts ↔
      ∀ tr ∈ ts, ∀ fuel request, tr.label.1 = .accept fuel request → ¬ CounterMeetsRetired tr.src := by
  constructor
  · intro hreuses tr htr fuel request hlabel hmeets
    obtain ⟨before, after, rfl⟩ := List.append_of_mem htr
    have hbefore := hrun.split
    have hreturns := (hrun.step_of_mem tr htr).1
    rw [hlabel] at hreturns
    obtain ⟨⟨id, handle'⟩, hallocate⟩ := Option.isSome_iff_exists.mp hreturns
    have hretired := (counterMeetsRetired_iff (.run hbefore) hallocate).mp hmeets
    refine hreuses before tr after fuel request id handle' rfl hlabel hallocate ?_
    exact (TracksCleanup.run hbefore).awaits id hretired (allocatePeerId_spec hallocate).1
  · rintro hcondition before tr after fuel request id handle' rfl hlabel hallocate hawaits
    have hbefore := hrun.split
    have hretired := (TracksCleanup.run hbefore).retired id hawaits
    refine hcondition tr (List.mem_append_right _ List.mem_cons_self) fuel request hlabel ?_
    exact (counterMeetsRetired_iff (.run hbefore) hallocate).mpr hretired

/-! ### The first 65536 ids -/

def Op.isAccept : Op → Bool
  | .accept _ _ => true
  | _ => false

/-- The calls of `accept` in a run. -/
def accepts (ts : List (Transition TransportHandle NetLabel)) : ℕ := ts.countP fun tr => tr.label.1.isAccept

/-- Before the counter wraps it is above every id used so far. -/
structure CounterAbove (n : ℕ) (handle : TransportHandle) : Prop where
  next : handle.nextPeerId.toNat ≤ n
  peers : ∀ id ∈ handle.peers, id < handle.nextPeerId
  retired : ∀ id ∈ handle.retiredPeerIds, id < handle.nextPeerId
  reusable : ∀ id ∈ handle.reusablePeerIds, id < handle.nextPeerId

namespace CounterAbove

variable {n : ℕ} {handle handle' : TransportHandle}

lemma of_effect {op : Op} (hn : n + op.isAccept.toNat < 65536) (heffect : IdEffect handle handle' op)
    (h : CounterAbove n handle) : CounterAbove (n + op.isAccept.toNat) handle' := by
  cases heffect with
  | retires _ _ hs =>
    refine ⟨hs.next ▸ h.next.trans (Nat.le_add_right _ _), fun id hid => ?_, fun id hid => ?_, fun id hid => ?_⟩
    · exact hs.next ▸ h.peers id (hs.peers id hid)
    · rw [hs.next]
      rcases (hs.retired id).mp hid with hretired | ⟨hlive, -⟩
      · exact h.retired id hretired
      · exact h.peers id hlive
    · exact hs.next ▸ h.reusable id (hs.reusable ▸ hid)
  | cleans hgone hretired hpeers hrest hreusable hnext =>
    refine ⟨hnext ▸ h.next.trans (Nat.le_add_right _ _), fun id hid => ?_, fun id hid => ?_, fun id hid => ?_⟩
    · exact hnext ▸ h.peers id (hpeers ▸ hid)
    · exact hnext ▸ h.retired id ((hrest id).mp hid).2
    · rw [hreusable] at hid
      rw [hnext]
      split at hid
      next => exact h.reusable id hid
      next =>
        rcases List.mem_append.mp hid with hid | hid
        · exact h.reusable id hid
        · exact List.mem_singleton.mp hid ▸ h.retired _ hretired
  | reuses _ hqueue _ hpeers hretired hnext =>
    refine ⟨hnext ▸ h.next.trans (Nat.le_add_right _ _), fun id hid => ?_, fun id hid => ?_, fun id hid => ?_⟩
    · rw [hnext]
      rcases (hpeers id).mp hid with rfl | hid
      · exact h.reusable id (hqueue ▸ List.mem_append_right _ List.mem_cons_self)
      · exact h.peers id hid
    · exact hnext ▸ h.retired id (hretired ▸ hid)
    · exact hnext ▸ h.reusable id (hqueue ▸ List.mem_append_right _ (List.mem_cons_of_mem _ hid))
  | @counts fuel request id handle₁ k _ hqueue hlive hid hpeers hretired hreusable hnext =>
    -- the id the counter stands at is above all live ones
    have hk : k = 0 := by
      by_contra hne
      exact absurd (h.peers _ (hlive 0 (Nat.pos_of_ne_zero hne))) (by simp)
    subst hk
    have hid : id = handle.nextPeerId := by simpa using hid
    subst hid
    have hone : (Op.isAccept (.accept fuel request)).toNat = 1 := rfl
    rw [hone] at hn ⊢
    have hsucc : (handle.nextPeerId + 1).toNat = handle.nextPeerId.toNat + 1 := by
      have hle := h.next
      rw [UInt16.toNat_add, UInt16.toNat_one, Nat.mod_eq_of_lt]
      omega
    have hlt (other : PeerId) (hother : other ≤ handle.nextPeerId) : other < handle'.nextPeerId := by
      rw [hnext, UInt16.lt_iff_toNat_lt, hsucc]
      exact Nat.lt_succ_of_le (UInt16.le_iff_toNat_le.mp hother)
    refine ⟨?_, fun other hother => hlt other ?_, fun other hother => hlt other ?_, ?_⟩
    · rw [hnext, hsucc]
      exact Nat.succ_le_succ h.next
    · rcases (hpeers other).mp hother with rfl | hother
      · exact UInt16.le_refl _
      · exact UInt16.le_of_lt (h.peers other hother)
    · exact UInt16.le_of_lt (h.retired other (hretired ▸ hother))
    · rw [hreusable]
      exact fun _ hother => absurd hother List.not_mem_nil

lemma not_counterMeetsRetired (h : CounterAbove n handle) : ¬ CounterMeetsRetired handle := by
  rintro ⟨-, k, hlive, -, hretired⟩
  cases k with
  | zero => exact absurd (h.retired _ hretired) (by simp)
  | succ k => exact absurd (h.peers _ (hlive 0 (Nat.succ_pos k))) (by simp)

theorem run {ts : List (Transition TransportHandle NetLabel)} (hrun : Run Steps {} ts handle)
    (hcount : accepts ts < 65536) : CounterAbove (accepts ts) handle := by
  refine hrun.history (P := fun ts handle => accepts ts < 65536 → CounterAbove (accepts ts) handle)
    (C := fun _ _ => True) (fun _ => ?_) (fun ts s l t hstep _ ih hcount => ?_) (fun _ _ => trivial) hcount
  · exact ⟨Nat.le_refl _, fun _ h => absurd h (AList.notMem_empty _), fun _ h => absurd h (HashSet.notMem_empty _),
      fun _ h => absurd h List.not_mem_nil⟩
  · have hsplit : accepts (ts ++ [⟨s, l, t⟩]) = accepts ts + l.1.isAccept.toNat := by
      rw [accepts, List.countP_append, List.countP_singleton]
      cases l.1.isAccept <;> rfl
    rw [hsplit] at hcount ⊢
    exact of_effect hcount (idEffect_of_steps hstep) (ih (Nat.lt_of_le_of_lt (Nat.le_add_right _ _) hcount))

end CounterAbove

/-- Runs with at most 65536 calls of `accept` never reuse an id before its clean-up. -/
theorem not_counterMeetsRetired_of_accepts {ts : List (Transition TransportHandle NetLabel)} {handle : TransportHandle}
    (hrun : Run Steps {} ts handle) (hcount : accepts ts ≤ 65536) :
    ∀ tr ∈ ts, ∀ fuel request, tr.label.1 = .accept fuel request → ¬ CounterMeetsRetired tr.src := by
  intro tr htr fuel request hlabel
  obtain ⟨before, after, rfl⟩ := List.append_of_mem htr
  have haccept : tr.label.1.isAccept = true := by rw [hlabel]; rfl
  rw [accepts, List.countP_append, List.countP_cons, if_pos haccept] at hcount
  have hbefore : accepts before < 65536 := by
    unfold accepts
    omega
  exact (CounterAbove.run hrun.split hbefore).not_counterMeetsRetired

/-! ### The counter comes round -/

def visitorAccepted : NetLabel := (.accept 1 (requestAt 1), {})

/-- A visitor comes and goes, and is not cleaned up after. -/
def visit (i : ℕ) : List NetLabel := [visitorAccepted, (.disconnect (UInt16.ofNat i) "", {})]

/-- Nobody is live, and the first `n` ids are retired. -/
structure Visited (n : ℕ) (handle : TransportHandle) : Prop where
  peers : ∀ id, id ∉ handle.peers
  reusable : handle.reusablePeerIds = []
  next : handle.nextPeerId = UInt16.ofNat n
  retired : ∀ i < n, UInt16.ofNat i ∈ handle.retiredPeerIds

lemma Visited.allocatePeerId {n : ℕ} {handle : TransportHandle} (h : Visited n handle) :
    (handle.removePending localAddr).allocatePeerId 1 = some (handle.nextPeerId,
      { handle.removePending localAddr with nextPeerId := handle.nextPeerId + 1 }) := by
  have hreusable : (handle.removePending localAddr).reusablePeerIds = [] := h.reusable
  have hfree : handle.nextPeerId ∉ (handle.removePending localAddr).peers := h.peers _
  rw [TransportHandle.allocatePeerId]
  split
  next first rest hqueue => cases hreusable.symm.trans hqueue
  next => exact if_neg hfree

lemma Visited.steps {n : ℕ} {handle : TransportHandle} (h : Visited n handle) :
    ∃ handle₁ handle₂, handle.Steps visitorAccepted handle₁ ∧
      handle₁.Steps (.disconnect (UInt16.ofNat n) "", {}) handle₂ ∧ Visited (n + 1) handle₂ := by
  let left := handle.removePending localAddr
  let peer := PeerState.new handle.nextPeerId localAddr 0 1 0
  let handle₁ := ({ left with nextPeerId := handle.nextPeerId + 1 } : TransportHandle).insertPeer peer
  have hlive : handle₁.peers.lookup handle.nextPeerId = some peer := AList.lookup_insert _
  refine ⟨handle₁, handle₁.dropPeer handle.nextPeerId localAddr, ⟨?_, ?_⟩,
    ⟨trivial, ?_⟩, ?_⟩
  · exact Option.isSome_iff_exists.mpr ⟨_, h.allocatePeerId⟩
  · change handle₁ = (final (accept 1 (requestAt 1) >>= fun _ => pure ()) (handle.world {})).handle
    rw [final_bind_pure, handle_accept (w := handle.world {}) h.allocatePeerId]
    rfl
  · change _ = (final (disconnect (UInt16.ofNat n) "") (handle₁.world {})).handle
    rw [handle_disconnect, ← h.next]
    exact (dropLive_of_some hlive).symm
  · refine ⟨fun id hid => ?_, h.reusable, ?_, fun i hi => ?_⟩
    · obtain ⟨hne, hid⟩ := AList.mem_erase.mp hid
      rcases (AList.mem_insert _).mp hid with rfl | hid
      · exact hne rfl
      · exact h.peers id hid
    · change handle.nextPeerId + 1 = _
      rw [h.next, UInt16.ofNat_add]
      rfl
    · change UInt16.ofNat i ∈ handle.retiredPeerIds.insert handle.nextPeerId
      rw [HashSet.mem_insert, h.next]
      rcases Nat.lt_succ_iff_lt_or_eq.mp hi with hi | rfl
      · exact .inr (h.retired i hi)
      · exact .inl rfl

lemma visited_run (n : ℕ) : ∃ ts handle, Run Steps {} ts handle ∧
    ts.map (·.label) = (List.range n).flatMap visit ∧ Visited n handle := by
  induction n with
  | zero =>
    exact ⟨[], {}, .nil, rfl, ⟨fun id => AList.notMem_empty id, rfl, rfl, fun _ h => absurd h (Nat.not_lt_zero _)⟩⟩
  | succ n ih =>
    obtain ⟨ts, handle, hrun, hlabels, hvisited⟩ := ih
    obtain ⟨handle₁, handle₂, haccept, hdisconnect, hvisited⟩ := hvisited.steps
    refine ⟨_, handle₂, (hrun.snoc haccept).snoc hdisconnect, ?_, hvisited⟩
    rw [List.map_append, List.map_append, hlabels, List.range_succ, List.flatMap_append, List.append_assoc]
    rfl

/-- Visitors that come and go until the counter is back at the first id, and one visitor more. -/
def visitsAround : List NetLabel := (List.range 65536).flatMap visit ++ [visitorAccepted]

lemma visitsAround_run : ∃ ts handle handle', Run Steps {} ts handle ∧ Visited 65536 handle ∧
    handle.Steps visitorAccepted handle' ∧ ts.map (·.label) ++ [visitorAccepted] = visitsAround := by
  obtain ⟨ts, handle, hrun, hlabels, hvisited⟩ := visited_run 65536
  obtain ⟨handle', -, hstep, -⟩ := hvisited.steps
  exact ⟨ts, handle, handle', hrun, hvisited, hstep, by rw [hlabels, visitsAround]⟩

/-- The last visitor is given the id of the first, which still awaits its clean-up. -/
theorem retired_id_reused : ∃ ts handle, Run Steps {} ts handle ∧ ts.map (·.label) = visitsAround ∧
    ¬ ReusesOnlyCleaned ts := by
  obtain ⟨ts, handle, handle', hrun, hvisited, hstep, hlabels⟩ := visitsAround_run
  refine ⟨_, handle', hrun.snoc hstep, List.map_append.trans hlabels, fun hreuses => ?_⟩
  refine hreuses ts _ [] 1 (requestAt 1) handle.nextPeerId _ rfl rfl hvisited.allocatePeerId ?_
  refine (TracksCleanup.run hrun).awaits _ ?_ (hvisited.peers _)
  rw [hvisited.next]
  exact hvisited.retired 0 (by norm_num)

/-- The run the equivalence is about: its last `accept` finds the counter at a retired id. -/
theorem ids_reused_after_cleanup_iff_visitsAround : ∃ ts handle, Run Steps {} ts handle ∧
    ts.map (·.label) = visitsAround ∧
    ∃ tr ∈ ts, ∃ fuel request, tr.label.1 = .accept fuel request ∧ CounterMeetsRetired tr.src := by
  obtain ⟨ts, handle, handle', hrun, hvisited, hstep, hlabels⟩ := visitsAround_run
  refine ⟨_, handle', hrun.snoc hstep, List.map_append.trans hlabels, ?_⟩
  by_contra hnone
  push Not at hnone
  refine (ids_reused_after_cleanup_iff (hrun.snoc hstep)).mpr hnone ts _ [] 1 (requestAt 1) handle.nextPeerId _ rfl
    rfl hvisited.allocatePeerId ?_
  refine (TracksCleanup.run hrun).awaits _ ?_ (hvisited.peers _)
  rw [hvisited.next]
  exact hvisited.retired 0 (by norm_num)

end BasisRust.Transport
