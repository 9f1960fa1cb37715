import BasisRust.Permissions.Store

/-!
# Moderation

`basis-server-admin`: the ban list with its two indexes, white list and black list, and the global settings.
A change is made in memory first and saved after; `saved` says whether the file could be written.
-/

namespace BasisRust.Admin

open Permissions (trim)

structure BannedPlayer where
  uuid : String
  bannedIp : String
  reason : String
  hasBannedIp : Bool
  timeOfBan : String
  deriving DecidableEq, Repr

structure ModerationLists where
  bannedUuids : List String := []
  bannedIps : List String := []
  bannedPlayers : List BannedPlayer := []
  blacklist : List String := []
  whitelist : List String := []
  deriving DecidableEq, Repr

structure GlobalState where
  avatarsLocked : Bool := false
  propsLocked : Bool := false
  worldsLocked : Bool := false
  serversLocked : Bool := false
  thirdPersonDisabled : Bool := false
  additionalAvatarDataLock : Bool := false
  disallowHeadless : Bool := false
  headlessAudioOff : Bool := false
  opusPacketLossPercent : UInt8 := 10
  opusFrameDurationMs : UInt8 := 20
  deriving DecidableEq, Repr

def isBlank (text : String) : Bool := trim text = ""

/-- `push_unique` -/
def pushUnique (value : String) (values : List String) : List String :=
  if isBlank value then values else if value ∈ values then values else values ++ [value]

/-- `remove_value` -/
def removeValue (value : String) (values : List String) : List String := values.filter (· ≠ value)

namespace ModerationLists

def isUuidBanned (uuid : String) (lists : ModerationLists) : Bool := uuid ∈ lists.bannedUuids
def isIpBanned (ip : String) (lists : ModerationLists) : Bool := ip ∈ lists.bannedIps
def isWhitelisted (uuid : String) (lists : ModerationLists) : Bool := uuid ∈ lists.whitelist
def isBlacklisted (uuid : String) (lists : ModerationLists) : Bool := uuid ∈ lists.blacklist

/-! ### Indexes -/

/-- `list.push(value)` unless the value is blank or there. -/
def indexValue (values : List String) (value : String) : List String :=
  if isBlank value ∨ value ∈ values then values else values ++ [value]

/-- The UUIDs `rebuild_ban_indexes` finds. -/
def uuidIndex (players : List BannedPlayer) : List String :=
  (players.map (·.uuid)).foldl indexValue []

/-- The addresses `rebuild_ban_indexes` finds. -/
def ipIndex (players : List BannedPlayer) : List String :=
  ((players.filter (·.hasBannedIp)).map (·.bannedIp)).foldl indexValue []

def rebuildBanIndexes (lists : ModerationLists) : ModerationLists :=
  { lists with bannedUuids := uuidIndex lists.bannedPlayers, bannedIps := ipIndex lists.bannedPlayers }

lemma mem_foldl_indexValue {values found : List String} {value : String} :
    value ∈ values.foldl indexValue found ↔ value ∈ found ∨ value ∈ values ∧ isBlank value = false := by
  induction values generalizing found with
  | nil => simp
  | cons v vs ih =>
    rw [List.foldl_cons, ih, indexValue, List.mem_cons]
    split
    next h =>
      rcases h with hblank | hmem
      · constructor
        · rintro (h | ⟨h, hb⟩)
          · exact .inl h
          · exact .inr ⟨.inr h, hb⟩
        · rintro (h | ⟨rfl | h, hb⟩)
          · exact .inl h
          · rw [hblank] at hb
            cases hb
          · exact .inr ⟨h, hb⟩
      · constructor
        · rintro (h | ⟨h, hb⟩)
          · exact .inl h
          · exact .inr ⟨.inr h, hb⟩
        · rintro (h | ⟨rfl | h, hb⟩)
          · exact .inl h
          · exact .inl hmem
          · exact .inr ⟨h, hb⟩
    next h =>
      rw [not_or] at h
      rw [List.mem_append, List.mem_singleton]
      constructor
      · rintro ((h | rfl) | ⟨h, hb⟩)
        · exact .inl h
        · exact .inr ⟨.inl rfl, by simpa using h.1⟩
        · exact .inr ⟨.inr h, hb⟩
      · rintro (h | ⟨rfl | h, hb⟩)
        · exact .inl (.inl h)
        · exact .inl (.inr rfl)
        · exact .inr ⟨h, hb⟩

/-- Exactly the UUIDs of the entries are banned, but for blank ones. -/
theorem mem_uuidIndex {players : List BannedPlayer} {uuid : String} :
    uuid ∈ uuidIndex players ↔ (∃ player ∈ players, player.uuid = uuid) ∧ isBlank uuid = false := by
  rw [uuidIndex, mem_foldl_indexValue, List.mem_map]
  simp only [List.not_mem_nil, false_or]

/-! ### Changes -/

/-- The first entry of the same UUID is replaced; otherwise the entry comes last. -/
def enterPlayer (player : BannedPlayer) : List BannedPlayer → List BannedPlayer
  | [] => [player]
  | first :: rest => if first.uuid = player.uuid then player :: rest else first :: enterPlayer player rest

lemma exists_mem_enterPlayer {player : BannedPlayer} {players : List BannedPlayer} {uuid : String} :
    (∃ entry ∈ enterPlayer player players, entry.uuid = uuid) ↔
      player.uuid = uuid ∨ ∃ entry ∈ players, entry.uuid = uuid := by
  induction players with
  | nil => simp [enterPlayer]
  | cons first rest ih =>
    unfold enterPlayer
    split
    next hsame => simp [hsame]
    next =>
      rw [List.exists_mem_cons_iff, ih, List.exists_mem_cons_iff]
      exact or_left_comm

/-- The entry `add_ban_with_details` makes. -/
def banEntry (uuid reason : String) (bannedIp : Option String) (timeOfBan : String) : BannedPlayer where
  uuid := uuid
  bannedIp := bannedIp.getD ""
  reason := reason
  hasBannedIp := (bannedIp.map fun ip => !isBlank ip).getD false
  timeOfBan := timeOfBan

/-- The lists after the call, and whether it returned `Ok`. -/
def addBanWithDetails (uuid reason : String) (bannedIp : Option String) (timeOfBan : String) (saved : Bool)
    (lists : ModerationLists) : ModerationLists × Bool :=
  if isBlank uuid then (lists, true)
  else
    let player := banEntry uuid reason bannedIp timeOfBan
    (rebuildBanIndexes { lists with bannedPlayers := enterPlayer player lists.bannedPlayers }, saved)

def removeBan (uuid : String) (lists : ModerationLists) : ModerationLists :=
  let players := lists.bannedPlayers.filter fun player => player.uuid ≠ uuid
  if players.length ≠ lists.bannedPlayers.length then rebuildBanIndexes { lists with bannedPlayers := players }
  else lists

def removeIpBan (ip : String) (lists : ModerationLists) : ModerationLists :=
  let players := lists.bannedPlayers.filter fun player => !(player.hasBannedIp && player.bannedIp = ip)
  if players.length ≠ lists.bannedPlayers.length then rebuildBanIndexes { lists with bannedPlayers := players }
  else { lists with bannedIps := removeValue ip lists.bannedIps }

def addWhitelist (uuid : String) (lists : ModerationLists) : ModerationLists :=
  { lists with whitelist := pushUnique uuid lists.whitelist }

def removeWhitelist (uuid : String) (lists : ModerationLists) : ModerationLists :=
  { lists with whitelist := removeValue uuid lists.whitelist }

/-! ### Who is banned -/

/-- The UUID has an entry, and its index has it too. -/
def Bans (uuid : String) (lists : ModerationLists) : Prop :=
  lists.isUuidBanned uuid ∧ ∃ player ∈ lists.bannedPlayers, player.uuid = uuid

/-- A ban is entered for a UUID that is not blank, and those entered before stay. -/
theorem bans_addBanWithDetails {uuid other reason timeOfBan : String} {bannedIp : Option String} {saved : Bool}
    {lists : ModerationLists} (hblank : isBlank uuid = false) (h : other = uuid ∨ lists.Bans uuid) :
    (lists.addBanWithDetails other reason bannedIp timeOfBan saved).1.Bans uuid := by
  unfold addBanWithDetails
  split
  next hother =>
    refine h.resolve_left ?_
    rintro rfl
    exact Bool.false_ne_true (hblank.symm.trans hother)
  next =>
    have hentry : ∃ entry ∈ enterPlayer (banEntry other reason bannedIp timeOfBan) lists.bannedPlayers,
        entry.uuid = uuid := exists_mem_enterPlayer.mpr (h.imp id (·.2))
    exact ⟨decide_eq_true (mem_uuidIndex.mpr ⟨hentry, hblank⟩), hentry⟩

/-! ### Changes that change nothing -/

/-- The indexes are those of the entries. -/
def Indexed (lists : ModerationLists) : Prop :=
  uuidIndex lists.bannedPlayers = lists.bannedUuids ∧ ipIndex lists.bannedPlayers = lists.bannedIps

lemma enterPlayer_eq_self_iff {player : BannedPlayer} {players : List BannedPlayer} :
    enterPlayer player players = players ↔ players.find? (fun entry => entry.uuid = player.uuid) = some player := by
  induction players with
  | nil => simp [enterPlayer]
  | cons first rest ih =>
    unfold enterPlayer
    split
    next hsame => simp [hsame, eq_comm]
    next hne => simp [hne, ih]

lemma rebuildBanIndexes_eq_self_iff {lists : ModerationLists} {players : List BannedPlayer} :
    rebuildBanIndexes { lists with bannedPlayers := players } = lists ↔
      players = lists.bannedPlayers ∧ lists.Indexed := by
  constructor
  · intro h
    have hplayers : players = lists.bannedPlayers := congrArg bannedPlayers h
    subst hplayers
    exact ⟨rfl, congrArg bannedUuids h, congrArg bannedIps h⟩
  · rintro ⟨rfl, huuids, hips⟩
    unfold rebuildBanIndexes
    dsimp only
    rw [huuids, hips]

/-- The ban is there already, in every detail; a blank UUID is never banned. -/
def HasBan (uuid reason : String) (bannedIp : Option String) (timeOfBan : String) (lists : ModerationLists) : Prop :=
  isBlank uuid ∨ lists.bannedPlayers.find? (fun entry => entry.uuid = uuid) =
    some (banEntry uuid reason bannedIp timeOfBan) ∧ lists.Indexed

theorem addBanWithDetails_eq_self_iff {uuid reason timeOfBan : String} {bannedIp : Option String} {saved : Bool}
    {lists : ModerationLists} : (lists.addBanWithDetails uuid reason bannedIp timeOfBan saved).1 = lists ↔
      lists.HasBan uuid reason bannedIp timeOfBan := by
  unfold addBanWithDetails HasBan
  split
  next hblank => exact iff_of_true rfl (.inl hblank)
  next hblank =>
    have henter : enterPlayer (banEntry uuid reason bannedIp timeOfBan) lists.bannedPlayers = lists.bannedPlayers ↔
        lists.bannedPlayers.find? (fun entry => entry.uuid = uuid) =
          some (banEntry uuid reason bannedIp timeOfBan) := enterPlayer_eq_self_iff
    rw [or_iff_right hblank, ← henter]
    exact rebuildBanIndexes_eq_self_iff

theorem removeBan_eq_self_iff {uuid : String} {lists : ModerationLists} :
    lists.removeBan uuid = lists ↔ ∀ player ∈ lists.bannedPlayers, player.uuid ≠ uuid := by
  have hlength := List.length_filter_eq_length_iff (p := fun player : BannedPlayer => player.uuid ≠ uuid)
    (l := lists.bannedPlayers)
  simp only [decide_eq_true_eq] at hlength
  unfold removeBan
  dsimp only
  split
  next hne =>
    refine iff_of_false (fun h => hne ?_) fun h => hne (hlength.mpr h)
    exact congrArg List.length (rebuildBanIndexes_eq_self_iff.mp h).1
  next heq => exact iff_of_true rfl (hlength.mp (not_not.mp heq))

lemma removeValue_eq_self_iff {value : String} {values : List String} :
    removeValue value values = values ↔ value ∉ values := by
  rw [removeValue, List.filter_eq_self]
  simp only [decide_eq_true_eq]
  exact ⟨fun h hmem => h value hmem rfl, fun h other hmem heq => h (heq ▸ hmem)⟩

theorem removeIpBan_eq_self_iff {ip : String} {lists : ModerationLists} :
    lists.removeIpBan ip = lists ↔
      (∀ player ∈ lists.bannedPlayers, player.hasBannedIp → player.bannedIp ≠ ip) ∧ ip ∉ lists.bannedIps := by
  have hlength := List.length_filter_eq_length_iff
    (p := fun player : BannedPlayer => !(player.hasBannedIp && player.bannedIp = ip)) (l := lists.bannedPlayers)
  simp only [Bool.not_eq_true', Bool.and_eq_false_imp, decide_eq_false_iff_not] at hlength
  unfold removeIpBan
  dsimp only
  split
  next hne =>
    refine iff_of_false (fun h => hne ?_) fun h => hne (hlength.mpr h.1)
    exact congrArg List.length (rebuildBanIndexes_eq_self_iff.mp h).1
  next heq =>
    rw [and_iff_right (hlength.mp (not_not.mp heq)), ← removeValue_eq_self_iff]
    refine ⟨congrArg bannedIps, fun h => ?_⟩
    rw [h]

theorem addWhitelist_eq_self_iff {uuid : String} {lists : ModerationLists} :
    lists.addWhitelist uuid = lists ↔ isBlank uuid ∨ uuid ∈ lists.whitelist := by
  have hpush : pushUnique uuid lists.whitelist = lists.whitelist ↔ isBlank uuid ∨ uuid ∈ lists.whitelist := by
    unfold pushUnique
    split
    next hblank => exact iff_of_true rfl (.inl hblank)
    next hblank =>
      rw [or_iff_right hblank]
      split
      next hmem => exact iff_of_true rfl hmem
      next hmem => exact iff_of_false (by simp) hmem
  rw [← hpush, addWhitelist]
  generalize pushUnique uuid lists.whitelist = pushed
  refine ⟨congrArg whitelist, fun h => ?_⟩
  rw [h]

theorem removeWhitelist_eq_self_iff {uuid : String} {lists : ModerationLists} :
    lists.removeWhitelist uuid = lists ↔ uuid ∉ lists.whitelist := by
  rw [← removeValue_eq_self_iff, removeWhitelist]
  refine ⟨congrArg whitelist, fun h => ?_⟩
  rw [h]

end ModerationLists
end BasisRust.Admin
