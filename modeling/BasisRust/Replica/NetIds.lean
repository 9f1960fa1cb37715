import BasisRust.Replica.Follow

/-!
# Every player knows the net ids

A name gets its number once, and everybody is told; who asks again is told again, and who comes later is told all of
them.  The count in front of these is 16 bits wide, so that there must be fewer names.
-/

namespace BasisRust.Replica

open Lib Protocol Transport
open BasisRust.Core P2p Resources

/-! ### The player's reading -/

/-- The numbers of the names, as a late joiner reads them. -/
def readServerUniqueIdMessages : ReadResult ServerUniqueIdMessages := do
  let count ← getU16
  let messages ← readN ServerNetIdMessage.deserialize count.toNat
  return ⟨messages⟩

def learnNetId (m : ServerNetIdMessage) (v : String → Option UInt16) : String → Option UInt16 :=
  Function.update v m.netIdMessage.playerId (some m.ushortUniqueIdMessage.uniqueIdUshort)

def netIdReading : Reading UInt8 Bytes (String → Option UInt16) :=
  .ofTable (fun _ => none)
    [(channels.netIdAssign, onRead ServerNetIdMessage.deserialize learnNetId),
      (channels.netIdAssigns, onRead readServerUniqueIdMessages fun m v => m.messages.foldl (fun v m => learnNetId m v) v)]

def netIdCopy : Copy (String → Option UInt16) (String → Option UInt16) where
  reading := netIdReading
  stores := [.netIds]
  truth s := Dict.known id s.netIds.byName
  Agrees _ truth v := v = truth
  truth_frame h hframe := by
    rw [hframe.netIds (List.ne_of_not_mem_cons h)]
  truth_moved _ _ _ _ := rfl
  p2pBroker := by decide
  authIdentity := by decide

variable {p q : PeerId} {s : ServerState}

lemma learn_netIdAssigns (payload : Bytes) (v : String → Option UInt16) :
    netIdReading.learn channels.netIdAssigns payload v =
      onRead readServerUniqueIdMessages (fun m v => m.messages.foldl (fun v m => learnNetId m v) v) payload v := rfl

lemma decodes_netIds {messages : List ServerNetIdMessage} (hcount : messages.length < 65536)
    (hfits : ∀ m ∈ messages, StringFits m.netIdMessage.playerId ∧ m.netIdMessage.playerId ≠ "") :
    Decodes readServerUniqueIdMessages (ServerUniqueIdMessages.serialize ⟨messages⟩) ⟨messages⟩ := by
  have hlength : (UInt16.ofNat messages.length).toNat = messages.length := by
    rw [UInt16.toNat_ofNat']
    omega
  unfold readServerUniqueIdMessages ServerUniqueIdMessages.serialize
  refine (decodes_getU16 _).bind ?_
  rw [hlength]
  have hmessages := Decodes.readN (f := id) fun m hm => ServerNetIdMessage.decodes (hfits m hm).1 (hfits m hm).2
  rw [List.map_id] at hmessages
  exact hmessages.map _

/-! ### Entering -/

/-- The names are told with their numbers. -/
lemma replay_netIdMessages (hall : Dict.All (fun name _ => StringFits name ∧ name ≠ "") s.netIds.byName)
    (hcount : s.netIds.byName.entries.length < 65536) :
    netIdReading.replay (netIdMessages s) netIdReading.blank = Dict.known id s.netIds.byName := by
  set messages := s.netIds.all.map fun netId => (⟨⟨netId.1⟩, ⟨netId.2⟩⟩ : ServerNetIdMessage) with hmessages
  have hentries : messages = s.netIds.byName.entries.map fun e => (⟨⟨e.1⟩, ⟨e.2⟩⟩ : ServerNetIdMessage) := by
    rw [hmessages, NetIdState.all, List.map_map]
    rfl
  have hfold : messages.foldl (fun v m => learnNetId m v) (fun _ => none) = Dict.known id s.netIds.byName := by
    rw [hentries, List.foldl_map]
    exact Dict.foldl_update id s.netIds.byName
  have hunfold : netIdMessages s =
      if messages = [] then [] else [(channels.netIdAssigns, ServerUniqueIdMessages.serialize ⟨messages⟩)] := rfl
  rw [hunfold]
  split
  next hnil =>
    rw [hnil] at hfold
    exact hfold
  next =>
    have hfits : ∀ m ∈ messages, StringFits m.netIdMessage.playerId ∧ m.netIdMessage.playerId ≠ "" := by
      rw [hentries, List.forall_mem_map]
      exact Dict.all_iff_entries.mp hall
    have hlength : messages.length < 65536 := by
      rw [hentries, List.length_map]
      exact hcount
    rw [Reading.replay_cons, Reading.replay_nil, learn_netIdAssigns, onRead_of_decodes (decodes_netIds hlength hfits)]
    exact hfold

lemma netIds_welcomed (env : Outside) (ready : ReadyMessage) (hsound : Sound s) (hp : p ∈ s.transport.peers)
    (hcount : (s.finalizeAccept env p ready).netIds.byName.entries.length < 65536) :
    netIdCopy.Holds p (s.finalizeAccept env p ready) := by
  obtain ⟨messages, hposted⟩ := ServerState.posted_finalizeAccept env p ready s
  rw [hposted] at hcount
  have hall : Dict.All (fun name _ => StringFits name ∧ name ≠ "") (s.entered p ready).netIds.byName := hsound.netIds
  refine Copy.holds_welcome hp ?_
  change netIdReading.replay (welcome p (s.entered p ready)) netIdReading.blank = _
  simp only [welcome, Reading.replay_append]
  rw [netIdReading.replay_of_kind channel_of_existing (by decide), replay_netIdMessages hall hcount,
    netIdReading.replay_of_kind channel_of_resources (by decide),
    netIdReading.replay_of_kind channel_of_owners (by decide),
    netIdReading.replay_of_kind channel_of_spheres (by decide),
    netIdReading.replay_of_kind channel_of_cameras (by decide),
    netIdReading.replay_of_kind channel_of_settings (by decide)]
  rfl

/-! ### A name gets its number -/

lemma any_all_iff {name : String} : (s.netIds.all.any fun e => e.1 = name) = true ↔ name ∈ s.netIds.byName := by
  rw [NetIdState.all, List.any_map, List.any_eq_true, AList.mem_keys, AList.keys, List.keys, List.mem_map]
  simp only [Function.comp_apply, decide_eq_true_eq]

/-- What a player who hears a number makes of it. -/
lemma view_heard {s' : ServerState} {name : String} {number : UInt16} (hfits : StringFits name) (hname : name ≠ "")
    (hholds : netIdCopy.Holds p s)
    (htold : told p s' = told p s ++ [(channels.netIdAssign, ServerNetIdMessage.serialize ⟨⟨name⟩, ⟨number⟩⟩)]) :
    netIdCopy.view p s' = Function.update (Dict.known id s.netIds.byName) name (some number) := by
  have hview : netIdCopy.view p s = Dict.known id s.netIds.byName := hholds
  have hlearn := onRead_of_decodes (ServerNetIdMessage.decodes (m := ⟨⟨name⟩, ⟨number⟩⟩) hfits hname) learnNetId
  unfold Copy.view at hview ⊢
  rw [htold, Reading.replay_append, hview, Reading.replay_cons, Reading.replay_nil]
  exact hlearn _

lemma netIds_told (payload : Bytes) (hstays : Stays p s) (hholds : netIdCopy.Holds p s) :
    netIdCopy.Holds p (s.handleNetIdAssign q payload) := by
  refine onParsed_of_yields (P := netIdCopy.Holds p) accepted_netId hholds fun request hfits => ?_
  split
  next => exact hholds
  next hname =>
    dsimp only
    split
    next hexisted =>
      -- an old name: the number stays, and only the one who asked is told
      obtain ⟨number, hlookup⟩ := Dict.mem_iff_lookup.mp (any_all_iff.mp hexisted)
      have hadded : s.netIds.addOrFind request.playerId = (number, s.netIds) := by
        unfold NetIdState.addOrFind
        rw [hlookup]
      have hsame : Function.update (Dict.known id s.netIds.byName) request.playerId (some number) =
          Dict.known id s.netIds.byName := Dict.update_known_self id s.netIds.byName _ hlookup
      rw [hadded]
      by_cases hq : q = p
      · subst hq
        have htold := told_send (s := s) hstays.live channels.netIdAssign (by decide)
          (ServerNetIdMessage.serialize ⟨request, ⟨number⟩⟩)
        exact (view_heard hfits hname hholds htold).trans hsame
      · have htold := told_send_of_ne (s := s) hstays.live hq channels.netIdAssign
          (ServerNetIdMessage.serialize ⟨request, ⟨number⟩⟩)
        exact (congrArg (fun log => netIdReading.replay log netIdReading.blank) htold).trans hholds
    next hnew =>
      -- a new name: everybody is told its number
      have hlookup := Dict.notMem_iff_lookup.mp fun h => hnew (any_all_iff.mpr h)
      have hadded : s.netIds.addOrFind request.playerId = (s.netIds.nextId,
          { byName := s.netIds.byName.insert request.playerId s.netIds.nextId, nextId := s.netIds.nextId + 1 }) := by
        unfold NetIdState.addOrFind
        rw [hlookup]
      rw [hadded]
      set s' : ServerState := { s with netIds :=
        { byName := s.netIds.byName.insert request.playerId s.netIds.nextId, nextId := s.netIds.nextId + 1 } }
      have htold := told_broadcast (s := s') (p := p) hstays.live hstays.auth channels.netIdAssign
        (by decide) (by decide) none (Option.some_ne_none p) .reliableOrdered
        (ServerNetIdMessage.serialize ⟨request, ⟨s.netIds.nextId⟩⟩)
      exact (view_heard hfits hname hholds htold).trans (Dict.update_known_insert id s.netIds.byName _ _)

/-! ### The stay -/

/-- What a player has to be told of the net ids. -/
lemma netIds_follows (p : PeerId) : netIdCopy.Follows p fun s => s.netIds.byName.entries.length < 65536 where
  welcomed env ready _ hsound _ hp hcount := netIds_welcomed env ready hsound hp hcount
  met _ _ _ _ _ _ hq hstays hholds := hholds.met hstays hq rfl (by decide)
  left _ _ _ _ hq hstays hholds := hholds.left hstays hq (fun s' hleft => by
    change Dict.known id s'.netIds.byName = _
    rw [hleft.netIds]
    rfl) (by decide)
  handled env q channel delivery payload arm s _ hconcerns _ hstays hholds := by
    cases arm with
    | netIdAssign => exact netIds_told payload hstays hholds
    | audioRecipients => exact absurd (Copy.voiceRecipients_of_concerns hconcerns) (by decide)
    | _ => exact absurd hconcerns (by decide)

/-- **Every player knows the net ids.**  As long as a player stays it has been told, for every name that has a number
and for no other, the number it has. -/
theorem player_knows_netIds {config : ServerConfig} {ts : List (Transition ServerState Label)} (hstay : Stay config p ts s)
    (hcount : ∀ tr ∈ ts, tr.dst.netIds.byName.entries.length < 65536) (name : String) :
    netIdReading.replay (told p s) (fun _ => none) name = s.netIds.byName.lookup name :=
  (congrFun (Copy.follows (netIds_follows p) hstay hcount) name).trans Option.map_id_apply

/-- A name that got its number while the player was there. -/
theorem player_knows_netIds_visit : netIdReading.replay (told 1 visited) (fun _ => none) "lamp" = some 1 :=
  (player_knows_netIds stay_visit (by decide +kernel) "lamp").trans (by decide +kernel)

end BasisRust.Replica
