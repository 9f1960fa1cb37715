import BasisRust.Replica.Follow

/-!
# Every player knows who is there

A player is told who is there when it enters, who comes, what avatar somebody changes to and who leaves; it is never
told of itself.
-/

namespace BasisRust.Replica

open Lib Protocol Transport
open BasisRust.Core P2p Resources
open Server (ConnectedPeer)

/-! ### The player's reading -/

def readServerReadyMessage : ReadResult ServerReadyMessage := do
  let playerIdMessage ← PlayerIdMessage.deserialize
  let localReadyMessage ← ReadyMessage.deserialize
  return ⟨localReadyMessage, playerIdMessage⟩

abbrev KnownPlayers := PeerId → Option ReadyMessage

def learnPlayer (m : ServerReadyMessage) (v : KnownPlayers) : KnownPlayers :=
  Function.update v m.playerIdMessage.playerId (some m.localReadyMessage)

def learnAvatar (m : ServerAvatarChangeMessage) (v : KnownPlayers) : KnownPlayers :=
  Function.update v m.playerId ((v m.playerId).map fun ready =>
    { ready with clientAvatarChangeMessage := m.clientAvatarChangeMessage })

def forgetPlayer (q : PeerId) (v : KnownPlayers) : KnownPlayers := Function.update v q none

def playerReading : Reading UInt8 Bytes KnownPlayers :=
  .ofTable (fun _ => none)
    [(channels.createRemotePlayer, onRead readServerReadyMessage learnPlayer),
      (channels.createRemotePlayersForNewPeer, onRead readServerReadyMessage learnPlayer),
      (channels.avatarChangeMessage, onRead ServerAvatarChangeMessage.deserialize learnAvatar),
      (channels.disconnection, onRead getU16 forgetPlayer)]

/-- What is told of a player. -/
def announced (player : ConnectedPeer) : ReadyMessage := player.ready.named

/-- The players but for one. -/
def others (p : PeerId) (players : Dict PeerId ConnectedPeer) : Dict PeerId ConnectedPeer :=
  Dict.retain (fun q _ => q ≠ p) players

def playerCopy : Copy (Dict PeerId ConnectedPeer) KnownPlayers where
  reading := playerReading
  stores := [.roster, .players]
  truth s := s.authenticatedPeers
  Agrees p truth v := v = Dict.known announced (others p truth)
  truth_frame h hframe := by
    rw [List.mem_cons, List.mem_singleton] at h
    exact hframe.authenticatedPeers (fun heq => h (.inl heq)) fun heq => h (.inr heq)
  truth_moved _ _ _ _ := rfl
  p2pBroker := by decide
  authIdentity := by decide

variable {p q : PeerId} {s : ServerState}

lemma playerCopy_holds_iff :
    playerCopy.Holds p s ↔ playerCopy.view p s = Dict.known announced (others p s.authenticatedPeers) := Iff.rfl

lemma decodes_spawnBytes {ready : ReadyMessage} (h : Passable ready) :
    Decodes readServerReadyMessage (Server.spawnBytes q ready) ⟨ready.named, ⟨q⟩⟩ := by
  have hready := ReadyMessage.decodes h.1
  rw [ReadyMessage.canon, h.2] at hready
  exact (PlayerIdMessage.decodes ⟨q⟩).bind (hready.map _)

lemma learn_createRemotePlayer {ready : ReadyMessage} (h : Passable ready) (v : KnownPlayers) :
    playerReading.learn channels.createRemotePlayer (Server.spawnBytes q ready) v =
      Function.update v q (some ready.named) := onRead_of_decodes (decodes_spawnBytes h) learnPlayer v

lemma learn_existing {ready : ReadyMessage} (h : Passable ready) (v : KnownPlayers) :
    playerReading.learn channels.createRemotePlayersForNewPeer (Server.spawnBytes q ready) v =
      Function.update v q (some ready.named) := onRead_of_decodes (decodes_spawnBytes h) learnPlayer v

lemma learn_avatarChangeMessage {m : ServerAvatarChangeMessage} (h : m.Fits) (v : KnownPlayers) :
    playerReading.learn channels.avatarChangeMessage m.serialize v = learnAvatar m v :=
  onRead_of_decodes (ServerAvatarChangeMessage.decodes h) learnAvatar v

lemma learn_disconnection (v : KnownPlayers) :
    playerReading.learn channels.disconnection (putU16 q) v = Function.update v q none :=
  onRead_of_decodes (decodes_getU16 q) forgetPlayer v

/-! ### The others -/

lemma lookup_others (p q : PeerId) (players : Dict PeerId ConnectedPeer) :
    (others p players).lookup q = if q = p then none else players.lookup q := by
  unfold others
  rw [Dict.lookup_retain]
  by_cases h : q = p
  · rw [if_pos h]
    cases players.lookup q with
    | none => rfl
    | some player => exact Option.filter_eq_none_iff.mpr fun _ _ => by simp [h]
  · rw [if_neg h]
    cases players.lookup q with
    | none => rfl
    | some player => exact Option.filter_eq_some_iff.mpr ⟨rfl, decide_eq_true h⟩

lemma known_others_self (p : PeerId) (players : Dict PeerId ConnectedPeer) :
    Dict.known announced (others p players) p = none := by
  unfold Dict.known
  rw [lookup_others, if_pos rfl]
  rfl

lemma known_others {q : PeerId} (hq : q ≠ p) (players : Dict PeerId ConnectedPeer) :
    Dict.known announced (others p players) q = (players.lookup q).map announced := by
  unfold Dict.known
  rw [lookup_others, if_neg hq]

/-- What the player knows of one of the others has changed, and nothing else. -/
lemma update_known_others (hq : q ≠ p) {players players' : Dict PeerId ConnectedPeer}
    (hsame : ∀ r, r ≠ q → players'.lookup r = players.lookup r) :
    Function.update (Dict.known announced (others p players)) q ((players'.lookup q).map announced) =
      Dict.known announced (others p players') := by
  funext r
  rw [Function.update_apply]
  split
  next h => rw [h, known_others hq]
  next h =>
    by_cases hr : r = p
    · rw [hr, known_others_self, known_others_self]
    · rw [known_others hr, known_others hr, hsame r h]

/-! ### Entering and leaving -/

lemma replay_existingMessages (hall : Dict.All (fun _ player => PlayerSound player) s.authenticatedPeers) :
    playerReading.replay (existingMessages p s) (fun _ => none) =
      Dict.known announced (others p s.authenticatedPeers) := by
  have hlearn : ∀ e ∈ (others p s.authenticatedPeers).entries, ∀ v,
      playerReading.learn channels.createRemotePlayersForNewPeer (Server.spawnBytes e.1 e.2.ready) v =
        Function.update v e.1 (some (announced e.2)) := by
    intro e he v
    exact learn_existing (Dict.all_iff_entries.mp hall e (List.mem_filter.mp he).1).1 v
  unfold existingMessages
  exact (playerReading.replay_map hlearn _).trans (Dict.foldl_update announced (others p s.authenticatedPeers))

lemma players_welcomed (env : Outside) {ready : ReadyMessage} (hsound : Sound s) (hready : Passable ready)
    (hp : p ∈ s.transport.peers) : playerCopy.Holds p (s.finalizeAccept env p ready) := by
  have hall : Dict.All (fun _ player => PlayerSound player) (s.entered p ready).authenticatedPeers :=
    hsound.players.insert ⟨hready, rfl⟩
  refine Copy.holds_welcome hp ?_
  change playerReading.replay (welcome p (s.entered p ready)) (fun _ => none) = _
  simp only [welcome, Reading.replay_append]
  rw [replay_existingMessages hall, playerReading.replay_of_kind channel_of_netIds (by decide),
    playerReading.replay_of_kind channel_of_resources (by decide),
    playerReading.replay_of_kind channel_of_owners (by decide),
    playerReading.replay_of_kind channel_of_spheres (by decide),
    playerReading.replay_of_kind channel_of_cameras (by decide),
    playerReading.replay_of_kind channel_of_settings (by decide)]
  rfl

lemma players_met (env : Outside) {ready : ReadyMessage} (hready : Passable ready) (hq : q ≠ p) (hstays : Stays p s)
    (hholds : playerCopy.Holds p s) : playerCopy.Holds p (s.finalizeAccept env q ready) := by
  obtain ⟨messages, hposted⟩ := ServerState.posted_finalizeAccept env q ready s
  set player : ConnectedPeer := { id := q, metadata := ready.playerMetaDataMessage, ready }
  have htruth : (s.finalizeAccept env q ready).authenticatedPeers = s.authenticatedPeers.insert q player := by
    rw [hposted]
    rfl
  have hsame : ∀ r, r ≠ q → (s.authenticatedPeers.insert q player).lookup r = s.authenticatedPeers.lookup r :=
    fun r hr => AList.lookup_insert_ne hr
  have hupdate := update_known_others hq hsame
  rw [AList.lookup_insert] at hupdate
  rw [playerCopy_holds_iff] at hholds ⊢
  unfold Copy.view at hholds ⊢
  rw [htruth, told_finalizeAccept_of_ne env ready hstays.live hstays.auth hq, Reading.replay_append, hholds,
    Reading.replay_cons, Reading.replay_nil]
  exact (learn_createRemotePlayer hready _).trans hupdate

lemma players_left (env : Outside) (hq : q ≠ p) (hstays : Stays p s) (hholds : playerCopy.Holds p s) :
    playerCopy.Holds p (s.handleDisconnect env q) := by
  obtain ⟨hleft, hview⟩ := playerCopy.view_left env hstays hq (by decide)
  rw [playerCopy_holds_iff] at hholds ⊢
  rw [hview, hholds, hleft.authenticatedPeers,
    playerCopy.reading.replay_of_kind channel_of_ownersLeft (by decide),
    playerCopy.reading.replay_of_kind channel_of_spheresLeft (by decide),
    playerCopy.reading.replay_of_kind channel_of_cameraLeft (by decide)]
  by_cases hmem : q ∈ s.authenticatedPeers
  · have hsame : ∀ r, r ≠ q → (s.authenticatedPeers.erase q).lookup r = s.authenticatedPeers.lookup r :=
      fun r hr => AList.lookup_erase_ne hr
    have hupdate := update_known_others hq hsame
    rw [AList.lookup_erase] at hupdate
    rw [if_pos hmem, rosterLeft, Reading.replay_append,
      playerCopy.reading.replay_of_kind channel_of_spawned (by decide), Reading.replay_cons,
      Reading.replay_nil]
    exact (learn_disconnection _).trans hupdate
  · rw [if_neg hmem, Reading.replay_nil, Dict.erase_of_notMem hmem]

/-! ### Changing the avatar -/

lemma players_handleAvatarChangeMessage_told (payload : Bytes) (hstays : Stays p s) (hholds : playerCopy.Holds p s) :
    playerCopy.Holds p (s.handleAvatarChangeMessage q payload) := by
  refine onParsed_of_yields (P := playerCopy.Holds p) ClientAvatarChangeMessage.accepted hholds fun avatar havatar => ?_
  split
  next => exact hholds
  next =>
    set change : ConnectedPeer → ConnectedPeer := fun peerState =>
      { peerState with ready.clientAvatarChangeMessage := avatar } with hchange
    set s' : ServerState := { s with authenticatedPeers := s.authenticatedPeers.modify q change }
    have hstays' : Stays p s' := ⟨hstays.live, Dict.mem_modify.mpr hstays.auth⟩
    have hlookup (r : PeerId) := Dict.lookup_modify q r change s.authenticatedPeers
    rw [playerCopy_holds_iff] at hholds ⊢
    unfold Copy.view at hholds ⊢
    change playerReading.replay (told p _) playerReading.blank = Dict.known announced (others p s'.authenticatedPeers)
    have hbefore : playerReading.replay (told p s') playerReading.blank =
        Dict.known announced (others p s.authenticatedPeers) := hholds
    by_cases hq : q = p
    · -- its own change is not told to the player
      subst hq
      rw [told_broadcast_except hstays'.live _ (by decide), hbefore]
      funext r
      by_cases hr : r = q
      · rw [hr, known_others_self, known_others_self]
      · rw [known_others hr, known_others hr, hlookup r, if_neg hr]
    · have htold := told_broadcast (s := s') hstays'.live hstays'.auth channels.avatarChangeMessage
        (by decide) (by decide) (some q) (fun h => hq (Option.some.inj h).symm) .reliableOrdered
        (ServerAvatarChangeMessage.serialize ⟨q, avatar⟩)
      have hsame : ∀ r, r ≠ q → s'.authenticatedPeers.lookup r = s.authenticatedPeers.lookup r :=
        fun r hr => (hlookup r).trans (if_neg hr)
      have hchanged : s'.authenticatedPeers.lookup q = (s.authenticatedPeers.lookup q).map change :=
        (hlookup q).trans (if_pos rfl)
      have hupdate := update_known_others hq hsame
      rw [htold, Reading.replay_append, hbefore, Reading.replay_cons, Reading.replay_nil,
        learn_avatarChangeMessage (m := ⟨q, avatar⟩) havatar, ← hupdate, hchanged]
      unfold learnAvatar
      rw [known_others hq, Option.map_map, Option.map_map]
      rfl

/-! ### The stay -/

/-- What a player has to be told of the others. -/
lemma players_follows (p : PeerId) : playerCopy.Follows p fun _ => True where
  welcomed env _ _ hsound hready hp _ := players_welcomed env hsound hready hp
  met env _ _ _ _ hready hq hstays hholds := players_met env hready hq hstays hholds
  left env _ _ _ hq hstays hholds := players_left env hq hstays hholds
  handled env q channel delivery payload arm s hauth hconcerns _ hstays hholds := by
    cases arm with
    | authIdentity => exact absurd rfl hauth
    | avatarChangeMessage => exact players_handleAvatarChangeMessage_told payload hstays hholds
    | audioRecipients => exact absurd (Copy.voiceRecipients_of_concerns hconcerns) (by decide)
    | _ => exact absurd hconcerns (by decide)

/-- **Every player knows who is there.**  As long as a player stays, the others it has been told of and not seen leave
are those on the roster, each with its names, the avatar it last changed to and the pose it came in with. -/
theorem player_knows_players {config : ServerConfig} {ts : List (Transition ServerState Label)} (hstay : Stay config p ts s)
    (hq : q ≠ p) : playerReading.replay (told p s) (fun _ => none) q =
      (s.authenticatedPeers.lookup q).map fun player => player.ready.named :=
  (congrFun (Copy.follows (players_follows p) hstay fun _ _ => trivial) q).trans (known_others hq _)

/-- The first player, with the avatar it has changed to. -/
theorem player_knows_players_visit :
    (playerReading.replay (told 1 visited) (fun _ => none) 0).map (·.clientAvatarChangeMessage) = some ⟨1, [7, 8], 3⟩ := by
  rw [player_knows_players (p := 1) stay_visit (by decide)]
  decide +kernel

end BasisRust.Replica
