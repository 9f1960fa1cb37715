import BasisRust.Replica.Follow

/-!
# Every player knows what is shared

Shared content is told when it is shared and when it is taken away, by whomever, and goes with its sharer.
-/

namespace BasisRust.Replica

open Lib Protocol Transport
open BasisRust.Core P2p Resources

/-! ### The player's reading -/

def readServerContentShareMessage : ReadResult ServerContentShareMessage := do
  let playerId ← getU16
  let sharerUuid ← getString
  let sharerDisplayName ← getString
  let contentShareMessage ← ContentShareMessage.deserialize
  return ⟨playerId, sharerUuid, sharerDisplayName, contentShareMessage⟩

def readServerContentShareCleanupMessage : ReadResult ServerContentShareCleanupMessage := do
  let playerId ← getU16
  let contentShareCleanupMessage ← ContentShareCleanupMessage.deserialize
  return ⟨playerId, contentShareCleanupMessage⟩

abbrev KnownSpheres := String → Option ServerContentShareMessage

def learnSphere (m : ServerContentShareMessage) (v : KnownSpheres) : KnownSpheres :=
  Function.update v m.contentShareMessage.sphereNetId (some m)

def forgetSphere (m : ServerContentShareCleanupMessage) (v : KnownSpheres) : KnownSpheres :=
  Function.update v m.contentShareCleanupMessage.sphereNetId none

def sphereReading : Reading UInt8 Bytes KnownSpheres :=
  .ofTable (fun _ => none)
    [(channels.contentShare, onRead readServerContentShareMessage learnSphere),
      (channels.contentShareCleanup, onRead readServerContentShareCleanupMessage forgetSphere)]

def sphereCopy : Copy KnownSpheres KnownSpheres where
  reading := sphereReading
  stores := [.contentShare]
  truth s := Dict.known id s.contentShare.spheres
  Agrees _ truth v := v = truth
  truth_frame h hframe := by
    rw [hframe.contentShare (List.ne_of_not_mem_cons h)]
  truth_moved _ _ _ _ := rfl
  p2pBroker := by decide
  authIdentity := by decide

variable {p q : PeerId} {s : ServerState}

lemma sphereCopy_holds_iff :
    sphereCopy.Holds p s ↔ sphereCopy.view p s = Dict.known id s.contentShare.spheres := Iff.rfl

lemma decodes_sphere {key : String} {m : ServerContentShareMessage} (h : SphereSound key m) :
    Decodes readServerContentShareMessage m.serialize m := by
  unfold readServerContentShareMessage ServerContentShareMessage.serialize
  simp only [List.append_assoc]
  refine (decodes_getU16 _).bind ?_
  refine (decodes_getString h.sharerUuid).bind ?_
  refine (decodes_getString h.sharerDisplayName).bind ?_
  exact (ContentShareMessage.decodes h.content).map _

lemma decodes_sphereCleanup {m : ServerContentShareCleanupMessage}
    (h : StringFits m.contentShareCleanupMessage.sphereNetId) :
    Decodes readServerContentShareCleanupMessage m.serialize m :=
  (decodes_getU16 _).bind (((decodes_getString h).map ContentShareCleanupMessage.mk).map _)

lemma SphereSound.fits {key : String} {m : ServerContentShareMessage} (h : SphereSound key m) : StringFits key :=
  h.key ▸ h.content.sphereNetId

lemma learn_contentShare {key : String} {m : ServerContentShareMessage} (h : SphereSound key m) (v : KnownSpheres) :
    sphereReading.learn channels.contentShare m.serialize v = Function.update v key (some m) := by
  have hlearn := onRead_of_decodes (decodes_sphere h) learnSphere v
  unfold learnSphere at hlearn
  rw [h.key] at hlearn
  exact hlearn

lemma learn_contentShareCleanup {m : ServerContentShareCleanupMessage}
    (h : StringFits m.contentShareCleanupMessage.sphereNetId) (v : KnownSpheres) :
    sphereReading.learn channels.contentShareCleanup m.serialize v =
      Function.update v m.contentShareCleanupMessage.sphereNetId none :=
  onRead_of_decodes (decodes_sphereCleanup h) forgetSphere v

lemma accepted_cleanup : Yields ContentShareCleanupMessage.deserialize fun m => StringFits m.sphereNetId :=
  yields_getString.bind fun _ h => .pure h

/-! ### Entering and leaving -/

lemma replay_sphereMessages (hall : Dict.All SphereSound s.contentShare.spheres) :
    sphereReading.replay (sphereMessages s) (fun _ => none) = Dict.known id s.contentShare.spheres := by
  have hentries : sphereMessages s =
      s.contentShare.spheres.entries.map fun e => (channels.contentShare, e.2.serialize) := by
    unfold sphereMessages ContentShareState.all
    exact List.map_map
  have hlearn : ∀ e ∈ s.contentShare.spheres.entries, ∀ v,
      sphereReading.learn channels.contentShare e.2.serialize v = Function.update v e.1 (some e.2) :=
    fun e he v => learn_contentShare (Dict.all_iff_entries.mp hall e he) v
  rw [hentries, sphereReading.replay_map hlearn]
  exact Dict.foldl_update id s.contentShare.spheres

lemma spheres_welcomed (env : Outside) (ready : ReadyMessage) (hsound : Sound s) (hp : p ∈ s.transport.peers) :
    sphereCopy.Holds p (s.finalizeAccept env p ready) := by
  have hall : Dict.All SphereSound (s.entered p ready).contentShare.spheres := hsound.spheres
  refine Copy.holds_welcome hp ?_
  change sphereReading.replay (welcome p (s.entered p ready)) (fun _ => none) = _
  simp only [welcome, Reading.replay_append]
  rw [sphereReading.replay_of_kind channel_of_existing (by decide),
    sphereReading.replay_of_kind channel_of_netIds (by decide),
    sphereReading.replay_of_kind channel_of_resources (by decide),
    sphereReading.replay_of_kind channel_of_owners (by decide), replay_sphereMessages hall,
    sphereReading.replay_of_kind channel_of_cameras (by decide),
    sphereReading.replay_of_kind channel_of_settings (by decide)]
  rfl

/-- The spheres of the leaving player are forgotten, and no others. -/
lemma replay_spheresLeft (hall : Dict.All SphereSound s.contentShare.spheres) :
    sphereReading.replay (spheresLeft q s) (Dict.known id s.contentShare.spheres) =
      Dict.known id (s.contentShare.removePlayer q).2.spheres := by
  set gone := s.contentShare.spheres.entries.filter fun e => e.2.playerId = q with hgone
  have hmessages : spheresLeft q s = gone.map fun e =>
      (channels.contentShareCleanup, ServerContentShareCleanupMessage.serialize ⟨q, ⟨e.1⟩⟩) := by
    unfold spheresLeft ContentShareState.removePlayer
    exact List.map_map
  have hlearn : ∀ e ∈ gone, ∀ v, sphereReading.learn channels.contentShareCleanup
      (ServerContentShareCleanupMessage.serialize ⟨q, ⟨e.1⟩⟩) v = Function.update v e.1 none :=
    fun e he v => learn_contentShareCleanup (m := ⟨q, ⟨e.1⟩⟩)
      (Dict.all_iff_entries.mp hall e (List.mem_filter.mp he).1).fits v
  rw [hmessages, sphereReading.replay_map hlearn]
  exact Dict.foldl_update_retain id (fun _ (sphere : ServerContentShareMessage) => sphere.playerId = q)
    (fun _ _ => decide_not) _

/-! ### Sharing and taking away -/

/-- What a player who hears of a sphere makes of it. -/
lemma spheres_heard {s' : ServerState} {key : String} {m : ServerContentShareMessage} (hm : SphereSound key m)
    (hholds : sphereCopy.Holds p s) (htold : told p s' = told p s ++ [(channels.contentShare, m.serialize)]) :
    sphereCopy.view p s' = Function.update (Dict.known id s.contentShare.spheres) key (some m) := by
  rw [sphereCopy_holds_iff] at hholds
  unfold Copy.view at hholds ⊢
  rw [htold, Reading.replay_append, hholds, Reading.replay_cons, Reading.replay_nil]
  exact learn_contentShare hm _

lemma spheres_handleContentShare_told (payload : Bytes) (hsound : Sound s) (hstays : Stays p s)
    (hholds : sphereCopy.Holds p s) : sphereCopy.Holds p (s.handleContentShare q payload) := by
  refine onParsed_of_yields (P := sphereCopy.Holds p) ContentShareMessage.accepted hholds fun request hrequest => ?_
  split
  next => exact hholds
  next =>
    split
    next => exact hholds
    next peerState hlookup =>
      have hfits := hsound.playerUuid hlookup
      unfold ContentShareState.add
      dsimp only
      by_cases hmem : request.sphereNetId ∈ s.contentShare.spheres
      · rw [if_pos hmem]
        exact hholds
      · rw [if_neg hmem]
        set sphere : ServerContentShareMessage :=
          ⟨q, peerState.metadata.playerUuid, peerState.metadata.playerDisplayName, request⟩
        set s' : ServerState :=
          { s with contentShare := { spheres := s.contentShare.spheres.insert request.sphereNetId sphere } }
        have hsphere : SphereSound request.sphereNetId sphere :=
          ⟨rfl, hfits.playerUuid, hfits.playerDisplayName, hrequest⟩
        have htold := told_broadcast (s := s') (p := p) hstays.live hstays.auth channels.contentShare
          (by decide) (by decide) none (Option.some_ne_none p) .reliableOrdered sphere.serialize
        exact (spheres_heard hsphere hholds htold).trans (Dict.update_known_insert id s.contentShare.spheres _ _)

lemma spheres_handleContentShareCleanup_told (payload : Bytes) (hstays : Stays p s)
    (hholds : sphereCopy.Holds p s) : sphereCopy.Holds p (s.handleContentShareCleanup q payload) := by
  refine onParsed_of_yields (P := sphereCopy.Holds p) accepted_cleanup hholds fun request hrequest => ?_
  unfold ContentShareState.remove
  dsimp only
  by_cases hmem : request.sphereNetId ∈ s.contentShare.spheres
  · rw [if_pos hmem]
    set s' : ServerState :=
      { s with contentShare := { spheres := s.contentShare.spheres.erase request.sphereNetId } }
    have htold := told_broadcast (s := s') (p := p) hstays.live hstays.auth channels.contentShareCleanup
      (by decide) (by decide) none (Option.some_ne_none p) .reliableOrdered
      (ServerContentShareCleanupMessage.serialize ⟨q, request⟩)
    have hview : sphereCopy.view p s = Dict.known id s.contentShare.spheres := hholds
    have hheard : sphereCopy.view p (s'.broadcast channels.contentShareCleanup .reliableOrdered
        (ServerContentShareCleanupMessage.serialize ⟨q, request⟩) none) =
        Function.update (Dict.known id s.contentShare.spheres) request.sphereNetId none := by
      unfold Copy.view at hview ⊢
      rw [htold]
      have hbefore : sphereCopy.reading.replay (told p s') sphereCopy.reading.blank =
          Dict.known id s.contentShare.spheres := hview
      rw [Reading.replay_append, hbefore, Reading.replay_cons, Reading.replay_nil]
      exact learn_contentShareCleanup (m := ⟨q, request⟩) hrequest _
    exact hheard.trans (Dict.update_known_erase id s.contentShare.spheres _)
  · rw [if_neg hmem]
    exact hholds

/-! ### The stay -/

lemma spheres_left (env : Outside) (hsound : Sound s) (hq : q ≠ p) (hstays : Stays p s)
    (hholds : sphereCopy.Holds p s) : sphereCopy.Holds p (s.handleDisconnect env q) := by
  obtain ⟨hleft, hview⟩ := sphereCopy.view_left env hstays hq (by decide)
  rw [sphereCopy_holds_iff] at hholds ⊢
  rw [hview, hholds, hleft.contentShare,
    sphereCopy.reading.replay_of_kind channel_of_ownersLeft (by decide),
    sphereCopy.reading.replay_of_kind channel_of_cameraLeft (by decide),
    Copy.replay_rosterLeft (by decide) (by decide)]
  exact replay_spheresLeft hsound.spheres

/-- What a player has to be told of what is shared. -/
lemma spheres_follows (p : PeerId) : sphereCopy.Follows p fun _ => True where
  welcomed env ready _ hsound _ hp _ := spheres_welcomed env ready hsound hp
  met _ _ _ _ _ _ hq hstays hholds := hholds.met hstays hq rfl (by decide)
  left env _ _ hsound hq hstays hholds := spheres_left env hsound hq hstays hholds
  handled env q channel delivery payload arm s _ hconcerns hsound hstays hholds := by
    cases arm with
    | contentShare => exact spheres_handleContentShare_told payload hsound hstays hholds
    | contentShareCleanup => exact spheres_handleContentShareCleanup_told payload hstays hholds
    | audioRecipients => exact absurd (Copy.voiceRecipients_of_concerns hconcerns) (by decide)
    | _ => exact absurd hconcerns (by decide)

/-- **Every player knows what is shared.**  As long as a player stays, the spheres it has been told of and not seen
taken away are the server's, with their sharers and their contents. -/
theorem player_knows_spheres {config : ServerConfig} {ts : List (Transition ServerState Label)} (hstay : Stay config p ts s)
    (key : String) : sphereReading.replay (told p s) (fun _ => none) key = s.contentShare.spheres.lookup key :=
  (congrFun (Copy.follows (spheres_follows p) hstay fun _ _ => trivial) key).trans Option.map_id_apply

/-- Of what was shared before the player came, one sphere has been taken away since. -/
theorem player_knows_spheres_visit :
    let known := sphereReading.replay (told 1 visited) fun _ => none
    (known "globe").map (fun m => (m.playerId, m.contentShareMessage)) =
      some (0, ⟨"globe", "url", "", .prop, 4, 5, 6⟩) ∧ known "sphere" = none := by
  refine ⟨?_, (player_knows_spheres stay_visit "sphere").trans (by decide +kernel)⟩
  rw [player_knows_spheres stay_visit "globe"]
  decide +kernel

end BasisRust.Replica
