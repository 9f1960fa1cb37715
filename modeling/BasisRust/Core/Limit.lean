import BasisRust.Core.System

/-!
# The peer limit

`handle_connection_request` counts the authenticated players, but not those who were accepted and still have
to prove their identity, and `finalize_accept` does not count again.  So the limit is kept by a run of
logins and departures exactly when no identity is proved while the server is full.
-/

namespace BasisRust.Core

open Lib Protocol Transport
open Server (ConnectedPeer)

/-- Connection requests, identity messages, departures, and whatever the transport does. -/
def Label.IsLogin : Label → Prop
  | .transport _ => True
  | .handle _ (.connectionRequest _) => True
  | .handle _ (.message _ channel _ _) => channel = channels.authIdentity
  | .handle _ (.peerDisconnected _ _) => True
  | .handle _ _ => False

instance : (l : Label) → Decidable l.IsLogin
  | .transport _ | .handle _ (.connectionRequest _) | .handle _ (.peerDisconnected _ _) => .isTrue trivial
  | .handle _ (.message _ channel _ _) => inferInstanceAs (Decidable (channel = channels.authIdentity))
  | .handle _ (.peerConnected _) | .handle _ (.networkError _) | .handle _ (.unconnectedRequest _ _ _)
  | .handle _ (.natIntroductionRequest _ _ _) => .isFalse id

lemma asUsize_of_nonneg {value : Int32} (h : 0 ≤ value.toInt) : (asUsize value : ℤ) = value.toInt := by
  have hlt : value.toInt < 2 ^ 31 := value.toInt_lt
  unfold asUsize
  rw [Int.emod_eq_of_lt h (by omega), Int.toNat_of_nonneg h]

namespace ServerState

def LoginSteps (s : ServerState) (l : Label) (s' : ServerState) : Prop := l.IsLogin ∧ s.Steps l s'

def WithinLimit (s : ServerState) : Prop := (s.playerCount : ℤ) ≤ s.config.peerLimit.toInt

/-- The step authenticates a waiting peer that is not counted yet, and the server is full. -/
def Overfills (s : ServerState) : Label → Prop
  | .handle _ (.message peer _ _ _) =>
    peer ∈ s.pendingIdentity ∧ peer ∉ s.authenticatedPeers ∧ s.config.peerLimit.toInt ≤ s.playerCount
  | _ => False

/-! ### Counting -/

lemma length_keys_insert {α : Type} (d : Dict PeerId α) (k : PeerId) (v : α) :
    (d.insert k v).keys.length = if k ∈ d then d.keys.length else d.keys.length + 1 := by
  rw [AList.keys_insert, List.length_cons]
  split
  next h =>
    have hpos := List.length_pos_of_mem (AList.mem_keys.mp h)
    rw [List.length_erase_of_mem (AList.mem_keys.mp h)]
    omega
  next h => rw [List.erase_of_not_mem fun hmem => h (AList.mem_keys.mpr hmem)]

lemma playerCount_of_posted {s s' : ServerState} (h : Posted s s') : s'.playerCount = s.playerCount := by
  obtain ⟨_, rfl⟩ := h
  rfl

lemma playerCount_entered (peerId : PeerId) (ready : ReadyMessage) (s : ServerState) :
    (s.entered peerId ready).playerCount =
      if peerId ∈ s.authenticatedPeers then s.playerCount else s.playerCount + 1 :=
  length_keys_insert _ _ _

lemma playerCount_handleDisconnect_le (env : Outside) (peer : PeerId) (s : ServerState) :
    (s.handleDisconnect env peer).playerCount ≤ s.playerCount := by
  rw [playerCount, (departed_handleDisconnect env peer s).authenticatedPeers, AList.keys_erase]
  exact List.length_erase_le

/-! ### One step -/

section Step

variable {s : ServerState} {l : Label}

lemma config_of_posted {s s' : ServerState} (h : Posted s s') : s'.config = s.config := by
  obtain ⟨_, rfl⟩ := h
  rfl

/-- The limit is fixed. -/
lemma config_next_of_login (hlogin : l.IsLogin) : (s.next l).config = s.config := by
  cases l with
  | transport => rfl
  | handle env event =>
    cases event with
    | connectionRequest request =>
      obtain ⟨_, _, _, _, _, _, h⟩ := exists_handleConnectionRequest env request s
      rw [next, handleEvent, h]
      rfl
    | peerDisconnected peer _ => exact (departed_handleDisconnect env peer s).config
    | message peer channel delivery payload =>
      obtain rfl : channel = channels.authIdentity := hlogin
      exact (writes_handleAuthIdentity env peer s).frame.config nofun
    | _ => cases hlogin

/-- A request is let in only while there is room. -/
lemma withinLimit_handleConnectionRequest (env : Outside) (request : ConnectionRequest)
    (hlimit : 0 ≤ s.config.peerLimit.toInt) (h : s.WithinLimit) :
    (s.handleConnectionRequest env request).WithinLimit := by
  cases hadmission : s.admission request with
  | error reason =>
    rw [handleConnectionRequest_of_refused hadmission]
    exact h
  | ok ready =>
    have hroom := (admitted_of_admission hadmission).room
    have husize := asUsize_of_nonneg hlimit
    cases haccepted : s.acceptedPeer env request with
    | none =>
      rw [handleConnectionRequest_of_none hadmission haccepted]
      exact h
    | some peerId =>
      rw [handleConnectionRequest_of_some hadmission haccepted]
      rcases greet_cases env peerId ready (s.call (.accept env.allocateFuel request) env) with ⟨-, hp⟩ | ⟨-, hp⟩
      · rw [WithinLimit, playerCount_of_posted hp, config_of_posted hp]
        exact h
      · have hconfig : ((s.call (.accept env.allocateFuel request) env).entered peerId ready).config = s.config := rfl
        have hcount : (s.call (.accept env.allocateFuel request) env).playerCount = s.playerCount := rfl
        rw [WithinLimit, playerCount_of_posted hp, config_of_posted hp, hconfig, playerCount_entered, hcount]
        split
        · exact h
        · omega

lemma playerCount_handleAuthIdentity (env : Outside) (peer : PeerId) :
    (s.handleAuthIdentity env peer).playerCount =
      if peer ∈ s.pendingIdentity ∧ peer ∉ s.authenticatedPeers then s.playerCount + 1 else s.playerCount := by
  unfold handleAuthIdentity
  cases hpending : s.pendingIdentity.lookup peer with
  | none =>
    rw [if_neg fun h => Dict.notMem_iff_lookup.mpr hpending h.1]
  | some ready =>
    dsimp only
    rw [playerCount_of_posted (posted_finalizeAccept env peer ready _), playerCount_entered]
    have hmem : peer ∈ s.pendingIdentity := Dict.mem_iff_lookup.mpr ⟨ready, hpending⟩
    by_cases hpeer : peer ∈ s.authenticatedPeers
    · rw [if_pos hpeer, if_neg fun h => h.2 hpeer]
      rfl
    · rw [if_neg hpeer, if_pos ⟨hmem, hpeer⟩]
      rfl

/-- **One step.**  Only an identity proved on a full server breaks the limit. -/
theorem withinLimit_next_iff (hlogin : l.IsLogin) (hlimit : 0 ≤ s.config.peerLimit.toInt) (h : s.WithinLimit) :
    (s.next l).WithinLimit ↔ ¬ s.Overfills l := by
  cases l with
  | transport => exact ⟨fun _ hover => hover, fun _ => h⟩
  | handle env event =>
    cases event with
    | connectionRequest request =>
      exact ⟨fun _ hover => hover, fun _ => withinLimit_handleConnectionRequest env request hlimit h⟩
    | peerDisconnected peer reason =>
      refine ⟨fun _ hover => hover, fun _ => ?_⟩
      have hcount := playerCount_handleDisconnect_le env peer s
      have hconfig := (departed_handleDisconnect env peer s).config
      rw [WithinLimit, next, handleEvent, hconfig]
      exact (Int.ofNat_le.mpr hcount).trans h
    | message peer channel delivery payload =>
      have hconfig := config_next_of_login (s := s) hlogin
      obtain rfl : channel = channels.authIdentity := hlogin
      have hcount : (s.next (.handle env (.message peer channels.authIdentity delivery payload))).playerCount = _ :=
        playerCount_handleAuthIdentity env peer
      rw [WithinLimit, hconfig, hcount, Overfills]
      unfold WithinLimit at h
      split
      next hnew =>
        rw [and_iff_right hnew.1, and_iff_right hnew.2]
        omega
      next hold =>
        refine ⟨fun _ hover => hold ⟨hover.1, hover.2.1⟩, fun _ => h⟩
    | _ => cases hlogin

end Step

/-! ### Runs -/

/-- **When the limit is kept.**  In a run of logins and departures on a server that starts empty, the limit
is never exceeded if and only if no step authenticates a waiting peer while the server is full. -/
theorem peer_limit_iff {config : ServerConfig} (hlimit : 0 ≤ config.peerLimit.toInt)
    {ts : List (Transition ServerState Label)} {s : ServerState} (hrun : Run LoginSteps (.start config) ts s) :
    (∀ tr ∈ ts, (tr.dst.playerCount : ℤ) ≤ config.peerLimit.toInt) ↔ ∀ tr ∈ ts, ¬ tr.src.Overfills tr.label := by
  have hconfig : ∀ s l t, LoginSteps s l t → s.config = config → t.config = config := by
    rintro s l t ⟨hlogin, -, rfl⟩ h
    rw [config_next_of_login hlogin, h]
  have hdst := (hrun.invariant (I := fun s => s.config = config) rfl hconfig).1
  have hstart : (ServerState.start config).WithinLimit := hlimit
  rw [← hrun.forall_iff (J := fun s => s.config = config) (C := fun s l => ¬ s.Overfills l) rfl hconfig hstart ?_]
  · refine forall₂_congr fun tr htr => ?_
    rw [WithinLimit, (hdst tr htr).2]
  · rintro s l t ⟨hlogin, -, rfl⟩ h hwithin
    exact withinLimit_next_iff hlogin (h ▸ hlimit) hwithin

/-! ### Two clients for one place -/

/-- A server for one player. -/
def onePlace : ServerConfig := { password := "", peerLimit := 1 }

/-- Both are accepted before either proves its identity. -/
def crowd : List Label :=
  [handles (.connectionRequest (requestOf 1 "a")), handles (.connectionRequest (requestOf 2 "b")),
    messageOf 0 channels.authIdentity [], messageOf 1 channels.authIdentity []]

lemma run_crowd : Run LoginSteps (.start onePlace) (trace next (.start onePlace) crowd)
    (crowd.foldl next (.start onePlace)) := by
  have henabled : ∀ tr ∈ trace next (.start onePlace) crowd, tr.label.IsLogin ∧ tr.src.Enabled tr.label := by
    decide +kernel
  exact Run.of_trace _ _ fun tr htr => ⟨(henabled tr htr).1, (henabled tr htr).2, dst_of_mem_trace htr⟩

lemma playerCount_crowd : ∃ tr ∈ trace next (.start onePlace) crowd, tr.dst.playerCount = 2 := by
  decide +kernel

/-- Two players are in. -/
theorem peer_limit_exceeded : ∃ ts s, Run LoginSteps (.start onePlace) ts s ∧ onePlace.peerLimit = 1 ∧
    ∃ tr ∈ ts, tr.dst.playerCount = 2 := ⟨_, _, run_crowd, rfl, playerCount_crowd⟩

/-- The equivalence on this run: one of its steps overfills the server. -/
theorem peer_limit_iff_crowd : ∃ tr ∈ trace next (.start onePlace) crowd, tr.src.Overfills tr.label := by
  by_contra hnone
  have hall := (peer_limit_iff (by decide) run_crowd).mpr fun tr htr h => hnone ⟨tr, htr, h⟩
  obtain ⟨tr, htr, hcount⟩ := playerCount_crowd
  have hle := hall tr htr
  rw [hcount] at hle
  exact absurd hle (by decide)

end ServerState
end BasisRust.Core
