import BasisRust.Transport.Effect
import BasisRust.Transport.System

/-!
# The two peer tables

`by_addr` and `peers` are inverse to each other as long as no connection request is accepted for an
address that is bound by then.  `accept` binds the address anew without removing the peer it was bound to,
which the connect-request arm of `process_packet` does.
-/

namespace BasisRust.Transport

open Lib Protocol

/-! ### Bindings -/

/-- Whatever `by_addr` leads to is a live peer with that address. -/
def BindsLive (handle : TransportHandle) : Prop :=
  ∀ addr id, handle.byAddr.lookup addr = some id → ∃ peer, handle.peers.lookup id = some peer ∧ peer.addr = addr

namespace BindsLive

variable {handle handle' : TransportHandle}

theorem empty : BindsLive {} := by
  intro addr id h
  cases h

theorem of_eq (h : BindsLive handle) (hpeers : handle'.peers = handle.peers)
    (hbyAddr : handle'.byAddr = handle.byAddr) : BindsLive handle' := by
  unfold BindsLive
  rw [hpeers, hbyAddr]
  exact h

theorem sameTables (h : BindsLive handle) (hs : SameTables handle handle') : BindsLive handle' := by
  intro addr id hlookup
  rw [hs.byAddr] at hlookup
  obtain ⟨peer, hpeer, haddr⟩ := h addr id hlookup
  obtain ⟨peer', hpeer', hsame⟩ := hs.peers.lookup_eq_some hpeer
  exact ⟨peer', hpeer', hsame.addr.trans haddr⟩

theorem unbind (h : BindsLive handle) (addr : SocketAddr) : BindsLive (handle.unbind addr) := by
  intro a id hlookup
  rw [TransportHandle.unbind, Dict.lookup_erase, Option.ite_none_left_eq_some] at hlookup
  exact h a id hlookup.2

/-- A peer removed together with its own address. -/
theorem dropPeer (h : BindsLive handle) {id : PeerId} {peer : PeerState}
    (hpeer : handle.peers.lookup id = some peer) : BindsLive (handle.dropPeer id peer.addr) := by
  intro addr id' hlookup
  change (handle.byAddr.erase peer.addr).lookup addr = some id' at hlookup
  rw [Dict.lookup_erase, Option.ite_none_left_eq_some] at hlookup
  obtain ⟨hne, hlookup⟩ := hlookup
  obtain ⟨p, hp, haddr⟩ := h addr id' hlookup
  refine ⟨p, ?_, haddr⟩
  change (handle.peers.erase id).lookup id' = some p
  rw [Dict.lookup_erase, if_neg, hp]
  rintro rfl
  rw [hpeer] at hp
  cases hp
  exact hne haddr.symm

/-- A new peer takes over its address. -/
theorem insertPeer (h : BindsLive handle) {peer : PeerState} (hid : peer.id ∉ handle.peers) :
    BindsLive (handle.insertPeer peer) := by
  intro addr id hlookup
  change (handle.byAddr.insert peer.addr peer.id).lookup addr = some id at hlookup
  change ∃ p, (handle.peers.insert peer.id peer).lookup id = some p ∧ p.addr = addr
  rw [Dict.lookup_insert] at hlookup
  rw [Dict.lookup_insert]
  split at hlookup
  next haddr =>
    rw [if_pos (Option.some.inj hlookup).symm]
    exact ⟨peer, rfl, haddr.symm⟩
  next =>
    obtain ⟨p, hp, haddr⟩ := h addr id hlookup
    rw [if_neg, hp]
    · exact ⟨p, rfl, haddr⟩
    · rintro rfl
      exact hid (Dict.mem_iff_lookup.mpr ⟨p, hp⟩)

theorem of_effect {remoteAddr : SocketAddr} {bytes : Bytes} {w w' : World}
    (heffect : Effect remoteAddr bytes w w') (h : BindsLive w.handle) : BindsLive w'.handle := by
  cases heffect with
  | stays hs => exact h.sameTables hs.tables
  | unbinds hbound hgone htables hdep => exact (h.unbind remoteAddr).sameTables htables
  | removes hbound hlive hends haddr htables hdep =>
    obtain ⟨peer, hpeer, hpeeraddr⟩ := h _ _ hbound
    rw [hlive] at hpeer
    cases hpeer
    have hdrop := h.dropPeer hlive
    rw [hpeeraddr] at hdrop haddr
    rw [or_self] at haddr
    subst haddr
    exact hdrop.sameTables htables

theorem processPacket (remoteAddr : SocketAddr) (bytes : Bytes) :
    Relates (fun w w' => BindsLive w.handle → BindsLive w'.handle) (processPacket remoteAddr bytes) := by
  refine relates_processPacket (R := fun w w' => BindsLive w.handle → BindsLive w'.handle) (fun _ h => h)
    (fun _ _ _ h h' hi => h' (h hi)) ?_ bytes fun leaf _ w => ?_
  · exact fun w h => h.sameTables (stays_touchPeer remoteAddr w).tables
  · exact of_effect (effect_processLeaf remoteAddr leaf w)

/-- Every step keeps the bindings live. -/
theorem outcome (h : BindsLive handle) (l : NetLabel) : BindsLive (handle.outcome l).handle := by
  obtain ⟨op, io⟩ := l
  change BindsLive (final op.run (handle.world io)).handle
  have hdrop (id : PeerId) : BindsLive (handle.dropLive id) := by
    cases hlive : handle.peers.lookup id with
    | none =>
      rw [dropLive_of_none hlive]
      exact h
    | some state =>
      rw [dropLive_of_some hlive]
      exact h.dropPeer hlive
  cases op with
  | packet remoteAddr bytes => exact processPacket remoteAddr bytes _ h
  | reject request reason =>
    rw [Op.run, handle_reject]
    exact h
  | disconnect peer reason =>
    rw [Op.run, handle_disconnect]
    exact hdrop peer
  | timeout peer =>
    rw [Op.run, handle_timeoutPeer]
    exact hdrop peer
  | recyclePeerId peer =>
    obtain ⟨hpeers, hbyAddr, -⟩ := recyclePeerId_spec peer handle
    exact h.of_eq hpeers hbyAddr
  | sendManySlices peer packets => exact h.sameTables (stays_sendManySlices peer packets (handle.world io)).tables
  | resendTo instant peer => exact h.sameTables (stays_resendTo instant peer (handle.world io)).tables
  | accept fuel request =>
    have hrun : Op.run (.accept fuel request) = (accept fuel request >>= fun _ => pure ()) := rfl
    rw [hrun, final_bind_pure]
    cases hallocate : (handle.removePending request.remoteAddr).allocatePeerId fuel with
    | none =>
      rw [handle_accept_of_none hallocate]
      exact h
    | some result =>
      obtain ⟨id, handle'⟩ := result
      obtain ⟨hfree, hpeers, hbyAddr, -⟩ := allocatePeerId_spec hallocate
      rw [handle_accept hallocate]
      exact (h.of_eq hpeers hbyAddr).insertPeer (hpeers ▸ hfree)

end BindsLive

/-! ### The invariant -/

/-- `by_addr` maps an address to an id exactly if the live peer of that id has the address. -/
def Inverse (handle : TransportHandle) : Prop :=
  ∀ addr id, handle.byAddr.lookup addr = some id ↔
    ∃ peer, handle.peers.lookup id = some peer ∧ peer.addr = addr

namespace Inverse

variable {handle handle' : TransportHandle}

theorem empty : Inverse {} := by
  intro addr id
  constructor
  · intro h
    cases h
  · rintro ⟨peer, h, -⟩
    cases h

theorem bindsLive (h : Inverse handle) : BindsLive handle := fun addr id => (h addr id).mp

theorem of_eq (h : Inverse handle) (hpeers : handle'.peers = handle.peers)
    (hbyAddr : handle'.byAddr = handle.byAddr) : Inverse handle' := by
  unfold Inverse
  rw [hpeers, hbyAddr]
  exact h

theorem sameTables (h : Inverse handle) (hs : SameTables handle handle') : Inverse handle' := by
  intro addr id
  rw [hs.byAddr, h addr id]
  constructor
  · rintro ⟨peer, hpeer, haddr⟩
    obtain ⟨peer', hpeer', hsame⟩ := hs.peers.lookup_eq_some hpeer
    exact ⟨peer', hpeer', hsame.addr.trans haddr⟩
  · rintro ⟨peer', hpeer', haddr⟩
    obtain ⟨peer, hpeer, hsame⟩ := hs.peers.lookup_eq_some' hpeer'
    exact ⟨peer, hpeer, hsame.addr.symm.trans haddr⟩

/-- A peer removed together with its own address. -/
theorem dropPeer (h : Inverse handle) {id : PeerId} {peer : PeerState}
    (hpeer : handle.peers.lookup id = some peer) : Inverse (handle.dropPeer id peer.addr) := by
  intro addr id'
  have hbound := (h peer.addr id).mpr ⟨peer, hpeer, rfl⟩
  refine ⟨h.bindsLive.dropPeer hpeer addr id', ?_⟩
  rintro ⟨p, hp, haddr⟩
  change (handle.peers.erase id).lookup id' = some p at hp
  change (handle.byAddr.erase peer.addr).lookup addr = some id'
  rw [Dict.lookup_erase, Option.ite_none_left_eq_some] at hp
  obtain ⟨hne, hp⟩ := hp
  have hlookup := (h addr id').mpr ⟨p, hp, haddr⟩
  rw [Dict.lookup_erase, if_neg, hlookup]
  rintro rfl
  rw [hbound] at hlookup
  exact hne (Option.some.inj hlookup).symm

/-- A new peer keeps the tables inverse exactly if its address was free. -/
theorem insertPeer_iff (h : Inverse handle) {peer : PeerState} (hid : peer.id ∉ handle.peers) :
    Inverse (handle.insertPeer peer) ↔ handle.byAddr.lookup peer.addr = none := by
  have hnone := Dict.notMem_iff_lookup.mp hid
  have hlookup (addr : SocketAddr) (id : PeerId) :
      ((handle.insertPeer peer).byAddr.lookup addr = some id ↔
        if addr = peer.addr then peer.id = id else handle.byAddr.lookup addr = some id) ∧
      ((∃ p, (handle.insertPeer peer).peers.lookup id = some p ∧ p.addr = addr) ↔
        if id = peer.id then peer.addr = addr
        else ∃ p, handle.peers.lookup id = some p ∧ p.addr = addr) := by
    change ((handle.byAddr.insert peer.addr peer.id).lookup addr = some id ↔ _) ∧
      ((∃ p, (handle.peers.insert peer.id peer).lookup id = some p ∧ p.addr = addr) ↔ _)
    rw [Dict.lookup_insert]
    simp only [Dict.lookup_insert]
    constructor
    · split <;> simp
    · split <;> simp
  constructor
  · intro h'
    -- the peer bound to the address before would still be bound to it
    cases hbound : handle.byAddr.lookup peer.addr with
    | none => rfl
    | some old =>
      obtain ⟨p, hp, haddr⟩ := (h peer.addr old).mp hbound
      have hne : old ≠ peer.id := by
        rintro rfl
        rw [hnone] at hp
        cases hp
      have hpeers := (hlookup peer.addr old).2.mpr (by rw [if_neg hne]; exact ⟨p, hp, haddr⟩)
      have hbyAddr := (hlookup peer.addr old).1.mp ((h' peer.addr old).mpr hpeers)
      rw [if_pos rfl] at hbyAddr
      exact absurd hbyAddr.symm hne
  · intro hfree addr id
    rw [(hlookup addr id).1, (hlookup addr id).2]
    by_cases haddr : addr = peer.addr
    · subst haddr
      by_cases hid' : id = peer.id
      · subst hid'
        simp
      · rw [if_pos rfl, if_neg hid', ← h, hfree]
        simp [Ne.symm hid']
    · by_cases hid' : id = peer.id
      · subst hid'
        rw [if_neg haddr, if_pos rfl, h, hnone]
        simp [Ne.symm haddr]
      · rw [if_neg haddr, if_neg hid', h]

end Inverse

/-! ### Steps -/

/-- A packet keeps the tables inverse. -/
theorem inverse_of_effect {remoteAddr : SocketAddr} {bytes : Bytes} {w w' : World}
    (heffect : Effect remoteAddr bytes w w') (h : Inverse w.handle) : Inverse w'.handle := by
  cases heffect with
  | stays hs => exact h.sameTables hs.tables
  | unbinds hbound hgone htables hdep =>
    obtain ⟨peer, hpeer, -⟩ := (h _ _).mp hbound
    rw [hgone] at hpeer
    cases hpeer
  | removes hbound hlive hends haddr htables hdep =>
    obtain ⟨peer, hpeer, hpeeraddr⟩ := (h _ _).mp hbound
    rw [hlive] at hpeer
    cases hpeer
    have hdrop := h.dropPeer hlive
    rw [hpeeraddr] at hdrop haddr
    rw [or_self] at haddr
    subst haddr
    exact hdrop.sameTables htables

theorem inverse_processPacket (remoteAddr : SocketAddr) (bytes : Bytes) :
    Relates (fun w w' => Inverse w.handle → Inverse w'.handle) (processPacket remoteAddr bytes) := by
  refine relates_processPacket (R := fun w w' => Inverse w.handle → Inverse w'.handle) (fun _ h => h)
    (fun _ _ _ h h' hi => h' (h hi)) ?_ bytes fun leaf _ w => ?_
  · exact fun w h => h.sameTables (stays_touchPeer remoteAddr w).tables
  · exact inverse_of_effect (effect_processLeaf remoteAddr leaf w)

/-- The step accepts a request from an address that is bound. -/
def AcceptsBound (n : Net) (l : NetLabel) : Prop :=
  ∃ fuel request, l.1 = .accept fuel request ∧ n.handle.byAddr.lookup request.remoteAddr ≠ none

/-- Every step but such an `accept` keeps the tables inverse. -/
theorem inverse_after_iff {n : Net} {l : NetLabel} (henabled : n.Enabled l.1) (h : Inverse n.handle) :
    Inverse (n.after l).handle ↔ ¬ AcceptsBound n l := by
  obtain ⟨op, io⟩ := l
  change Inverse (final op.run (n.handle.world io)).handle ↔ _
  have hnot (hop : ∀ fuel request, op ≠ .accept fuel request) : ¬ AcceptsBound n (op, io) := by
    rintro ⟨fuel, request, heq, -⟩
    exact hop fuel request heq
  have hdrop (id : PeerId) : Inverse (n.handle.dropLive id) := by
    cases hlive : n.handle.peers.lookup id with
    | none =>
      rw [dropLive_of_none hlive]
      exact h
    | some state =>
      rw [dropLive_of_some hlive]
      exact h.dropPeer hlive
  cases op with
  | packet remoteAddr bytes =>
    exact iff_of_true (inverse_processPacket remoteAddr bytes _ h) (hnot fun _ _ heq => by cases heq)
  | reject request reason =>
    refine iff_of_true ?_ (hnot fun _ _ heq => by cases heq)
    rw [Op.run, handle_reject]
    exact h
  | disconnect peer reason =>
    refine iff_of_true ?_ (hnot fun _ _ heq => by cases heq)
    rw [Op.run, handle_disconnect]
    exact hdrop peer
  | timeout peer =>
    refine iff_of_true ?_ (hnot fun _ _ heq => by cases heq)
    rw [Op.run, handle_timeoutPeer]
    exact hdrop peer
  | recyclePeerId peer =>
    refine iff_of_true ?_ (hnot fun _ _ heq => by cases heq)
    obtain ⟨hpeers, hbyAddr, -⟩ := recyclePeerId_spec peer n.handle
    exact h.of_eq hpeers hbyAddr
  | sendManySlices peer packets =>
    exact iff_of_true (h.sameTables (stays_sendManySlices peer packets (n.handle.world io)).tables)
      (hnot fun _ _ heq => by cases heq)
  | resendTo instant peer =>
    exact iff_of_true (h.sameTables (stays_resendTo instant peer (n.handle.world io)).tables)
      (hnot fun _ _ heq => by cases heq)
  | accept fuel request =>
    obtain ⟨-, hsome⟩ := henabled
    obtain ⟨⟨id, handle'⟩, hallocate⟩ := Option.isSome_iff_exists.mp hsome
    have hrun : Op.run (.accept fuel request) = (accept fuel request >>= fun _ => pure ()) := rfl
    rw [hrun, final_bind_pure, handle_accept hallocate]
    obtain ⟨hfree, hpeers, hbyAddr, -⟩ := allocatePeerId_spec hallocate
    have h' : Inverse handle' := h.of_eq hpeers hbyAddr
    rw [h'.insertPeer_iff (hpeers ▸ hfree), hbyAddr]
    constructor
    · rintro hnone ⟨fuel', request', heq, hbound⟩
      cases heq
      exact hbound hnone
    · intro hbound
      by_contra hne
      exact hbound ⟨fuel, request, rfl, hne⟩

/-- **When the tables stay inverse.**  In every run from the empty transport, all states have inverse tables
if and only if no request was accepted from an address that was bound at that moment. -/
theorem tables_inverse_iff {ts : List (Transition Net NetLabel)} {n : Net} (hrun : Run Net.Steps {} ts n) :
    (∀ tr ∈ ts, Inverse tr.dst.handle) ↔ ∀ tr ∈ ts, ¬ AcceptsBound tr.src tr.label := by
  refine hrun.forall_iff (I := fun n => Inverse n.handle) (J := fun _ => True)
    (C := fun n l => ¬ AcceptsBound n l) trivial (fun _ _ _ _ h => h) Inverse.empty ?_
  rintro s l t ⟨henabled, rfl⟩ - h
  exact inverse_after_iff henabled h

/-! ### Two requests of one address -/

def localAddr : SocketAddr := .v4 (.ofFn fun _ => 127) 4296

/-- A connection request of the address, made at `connectTime`. -/
def connectRequestFrom (connectTime : Int64) : Op :=
  .packet localAddr (putU8 (headerByte .connectRequest 0) ++ putI32 litenetlibProtocolId ++
    putI64 connectTime ++ putI32 0 ++ putU8 16 ++ List.replicate 16 0)

def requestAt (connectTime : Int64) : ConnectionRequest where
  remoteAddr := localAddr
  payload := []
  connectionNumber := 0
  connectTime := connectTime
  localPeerId := 0

/-- Both requests are emitted before either is answered. -/
def acceptedTwice : List NetLabel :=
  [(connectRequestFrom 1, {}), (connectRequestFrom 2, {}), (.accept 1 (requestAt 1), {}),
    (.accept 1 (requestAt 2), {})]

lemma acceptedTwice_run :
    Run Net.Steps {} (trace Net.after {} acceptedTwice) (acceptedTwice.foldl Net.after {}) := by
  refine Run.of_trace _ _ fun tr htr => ⟨?_, dst_of_mem_trace htr⟩
  have hall : ∀ tr ∈ trace Net.after {} acceptedTwice, tr.src.Enabled tr.label.1 := by decide +kernel
  exact hall tr htr

lemma acceptedTwice_tables :
    let handle := (acceptedTwice.foldl Net.after {}).handle
    handle.byAddr.lookup localAddr = some 1 ∧ (handle.peers.lookup 0).map (·.addr) = some localAddr ∧
      (handle.peers.lookup 1).map (·.addr) = some localAddr := by decide +kernel

lemma acceptedTwice_not_inverse : ¬ Inverse (acceptedTwice.foldl Net.after {}).handle := by
  intro h
  obtain ⟨hbound, hpeer, -⟩ := acceptedTwice_tables
  have h₀ := (h localAddr 0).mpr (Option.map_eq_some_iff.mp hpeer)
  rw [hbound] at h₀
  cases h₀

/-- The run the equivalence is about: one of its steps accepts a bound address. -/
theorem tables_inverse_iff_acceptedTwice :
    ∃ tr ∈ trace Net.after {} acceptedTwice, AcceptsBound tr.src tr.label := by
  by_contra hnone
  have hall := (tables_inverse_iff acceptedTwice_run).mpr fun tr htr h => hnone ⟨tr, htr, h⟩
  exact acceptedTwice_not_inverse (hall _ (List.mem_of_getLast? rfl))

/-- Two live peers share the address, and the address is bound to one of them only. -/
theorem tables_not_inverse : ∃ ts n, Run Net.Steps {} ts n ∧ ¬ Inverse n.handle ∧
    n.handle.byAddr.lookup localAddr = some 1 ∧ (n.handle.peers.lookup 0).map (·.addr) = some localAddr ∧
      (n.handle.peers.lookup 1).map (·.addr) = some localAddr :=
  ⟨_, _, acceptedTwice_run, acceptedTwice_not_inverse, acceptedTwice_tables⟩

end BasisRust.Transport
