import BasisRust.Admin.Indexes

/-!
# Banning over a ban

A call that bans enters one record and rebuilds both indexes from what the records then are.  The record takes the
place of the first one of the same UUID, so nobody's UUID is forgotten; the address of the record that goes is,
unless the new record or another one has it too.
-/

namespace BasisRust.Admin

open ModerationLists

/-- `has_banned_ip`, with this address. -/
def BannedPlayer.HasIp (player : BannedPlayer) (ip : String) : Prop := player.hasBannedIp ∧ player.bannedIp = ip

/-- The call bans somebody. -/
def BanCall.IsBan : BanCall → Prop
  | addBan _ _ _ | addBanWithDetails _ _ _ _ _ | addIpBan _ _ _ => True
  | removeBan _ _ | removeIpBan _ _ | load _ _ => False

/-- The record that the call enters; a blank UUID or address enters none. -/
def BanCall.record : BanCall → Option BannedPlayer
  | addBan uuid timeOfBan _ => if isBlank uuid then none else some (banEntry uuid "" none timeOfBan)
  | addBanWithDetails uuid reason bannedIp timeOfBan _ =>
    if isBlank uuid then none else some (banEntry uuid reason bannedIp timeOfBan)
  | addIpBan ip timeOfBan _ => if isBlank ip then none else some (ipBanEntry ip timeOfBan)
  | _ => none

namespace ModerationLists

/-- Who was banned still is. -/
structure KeepsBans (before after : ModerationLists) : Prop where
  uuids : ∀ uuid, before.isUuidBanned uuid → after.isUuidBanned uuid
  ips : ∀ ip, before.isIpBanned ip → after.isIpBanned ip

/-- The record stands in for the first one of its UUID. -/
def replaced (player : BannedPlayer) (players : List BannedPlayer) : Option BannedPlayer :=
  players.find? fun entry => entry.uuid = player.uuid

/-- The records but for the one that is replaced. -/
def others (player : BannedPlayer) (players : List BannedPlayer) : List BannedPlayer :=
  players.eraseP fun entry => entry.uuid = player.uuid

/-- Behind everything in the two indexes there is a record, be it the new one. -/
structure Backed (player : BannedPlayer) (lists : ModerationLists) : Prop where
  uuids : ∀ uuid ∈ lists.bannedUuids, isBlank uuid = false ∧
    (player.uuid = uuid ∨ ∃ entry ∈ lists.bannedPlayers, entry.uuid = uuid)
  ips : ∀ ip ∈ lists.bannedIps, isBlank ip = false ∧
    (player.HasIp ip ∨ ∃ entry ∈ lists.bannedPlayers, entry.HasIp ip)

/-- A banned address of the record that is replaced is that of the new record too, or of another one. -/
def SparesIps (player : BannedPlayer) (lists : ModerationLists) : Prop :=
  ∀ entry, replaced player lists.bannedPlayers = some entry → entry.hasBannedIp → entry.bannedIp ∈ lists.bannedIps →
    player.HasIp entry.bannedIp ∨ ∃ other ∈ others player lists.bannedPlayers, other.HasIp entry.bannedIp

/-! ### The records after the call -/

section

variable {player entry : BannedPlayer} {players : List BannedPlayer} {lists : ModerationLists}

lemma mem_enterPlayer : entry ∈ enterPlayer player players ↔ entry = player ∨ entry ∈ others player players := by
  induction players with
  | nil => simp [enterPlayer, others]
  | cons first rest ih =>
    unfold enterPlayer
    rw [others, List.eraseP_cons]
    split
    next hsame => simp [hsame]
    next hne =>
      rw [decide_eq_false hne, cond_false, List.mem_cons, List.mem_cons, ih]
      exact or_left_comm

/-- Every record is the one replaced or one of the others. -/
lemma replaced_or_mem_others (h : entry ∈ players) :
    replaced player players = some entry ∨ entry ∈ others player players := by
  induction players with
  | nil => cases h
  | cons first rest ih =>
    rw [replaced, List.find?_cons, others, List.eraseP_cons]
    by_cases hsame : first.uuid = player.uuid
    · rw [decide_eq_true hsame, cond_true]
      exact (List.mem_cons.mp h).imp_left fun heq => congrArg some heq.symm
    · rw [decide_eq_false hsame, cond_false]
      rcases List.mem_cons.mp h with rfl | h
      · exact .inr List.mem_cons_self
      · exact (ih h).imp_right (List.mem_cons_of_mem first)

/-- Entering a record, and indexing what there is then. -/
def enter (player : BannedPlayer) (lists : ModerationLists) : ModerationLists :=
  rebuildBanIndexes { lists with bannedPlayers := enterPlayer player lists.bannedPlayers }

lemma apply_of_isBan {call : BanCall} (h : call.IsBan) :
    lists.apply call = (call.record.map fun player => lists.enter player).getD lists := by
  cases call with
  | addBan uuid timeOfBan saved =>
    rw [apply, addBan, addBanWithDetails, BanCall.record]
    split <;> rfl
  | addBanWithDetails uuid reason bannedIp timeOfBan saved =>
    rw [apply, addBanWithDetails, BanCall.record]
    split <;> rfl
  | addIpBan ip timeOfBan saved =>
    rw [apply, addIpBan, BanCall.record]
    split <;> rfl
  | removeBan | removeIpBan | load => cases h

lemma isUuidBanned_enter {uuid : String} : (lists.enter player).isUuidBanned uuid ↔
    (player.uuid = uuid ∨ ∃ entry ∈ lists.bannedPlayers, entry.uuid = uuid) ∧ isBlank uuid = false := by
  rw [enter, isUuidBanned_iff (indexed_rebuildBanIndexes _), rebuildBanIndexes, exists_mem_enterPlayer]

lemma isIpBanned_enter {ip : String} : (lists.enter player).isIpBanned ip ↔
    (player.HasIp ip ∨ ∃ other ∈ others player lists.bannedPlayers, other.HasIp ip) ∧ isBlank ip = false := by
  rw [enter, isIpBanned_iff (indexed_rebuildBanIndexes _), rebuildBanIndexes]
  refine and_congr_left fun _ => ?_
  simp only [mem_enterPlayer, or_and_right, exists_or, exists_eq_left]
  exact Iff.rfl

/-! ### Whom the call forgets -/

lemma keepsBans_enter_iff : KeepsBans lists (lists.enter player) ↔ lists.Backed player ∧ lists.SparesIps player := by
  constructor
  · intro h
    have huuids (uuid : String) (hmem : uuid ∈ lists.bannedUuids) :=
      isUuidBanned_enter.mp (h.uuids uuid (decide_eq_true hmem))
    have hips (ip : String) (hmem : ip ∈ lists.bannedIps) :=
      isIpBanned_enter.mp (h.ips ip (decide_eq_true hmem))
    refine ⟨⟨fun uuid hmem => (huuids uuid hmem).symm, fun ip hmem => ?_⟩, fun entry _ _ hmem => (hips _ hmem).1⟩
    obtain ⟨hfound, hblank⟩ := hips ip hmem
    refine ⟨hblank, hfound.imp_right ?_⟩
    rintro ⟨other, hother, hip⟩
    exact ⟨other, List.mem_of_mem_eraseP hother, hip⟩
  · rintro ⟨hbacked, hspares⟩
    constructor
    · intro uuid hbanned
      exact isUuidBanned_enter.mpr (hbacked.uuids uuid (of_decide_eq_true hbanned)).symm
    · intro ip hbanned
      have hmem : ip ∈ lists.bannedIps := of_decide_eq_true hbanned
      obtain ⟨hblank, hfound⟩ := hbacked.ips ip hmem
      refine isIpBanned_enter.mpr ⟨?_, hblank⟩
      rcases hfound with hplayer | ⟨entry, hentry, hhas, rfl⟩
      · exact .inl hplayer
      · rcases @replaced_or_mem_others player _ _ hentry with hreplaced | hother
        · exact hspares entry hreplaced hhas hmem
        · exact .inr ⟨entry, hother, hhas, rfl⟩

/-- Lists whose indexes are in step back everything in them. -/
theorem backed_of_indexed (h : lists.Indexed) (player : BannedPlayer) : lists.Backed player := by
  constructor
  · intro uuid hmem
    obtain ⟨hentry, hblank⟩ := (isUuidBanned_iff h).mp (decide_eq_true hmem)
    exact ⟨hblank, .inr hentry⟩
  · intro ip hmem
    obtain ⟨hentry, hblank⟩ := (isIpBanned_iff h).mp (decide_eq_true hmem)
    exact ⟨hblank, .inr hentry⟩

end

/-- **When a ban lifts none.**  The call enters no record; or the indexes are backed, as they are after any calls
from the empty lists, and the record that is replaced takes no address with it. -/
theorem keepsBans_apply_iff {call : BanCall} (h : call.IsBan) (lists : ModerationLists) :
    KeepsBans lists (lists.apply call) ↔
      ∀ player, call.record = some player → lists.Backed player ∧ lists.SparesIps player := by
  rw [apply_of_isBan h]
  cases hrecord : call.record with
  | none => exact iff_of_true ⟨fun _ => id, fun _ => id⟩ nofun
  | some player =>
    rw [Option.map_some, Option.getD_some, keepsBans_enter_iff]
    refine ⟨fun hkeeps other hother => ?_, fun hall => hall player rfl⟩
    exact Option.some.inj hother ▸ hkeeps

/-- A player banned with an address. -/
def bannedWithIp : ModerationLists :=
  ModerationLists.apply {} (.addBanWithDetails "a" "spam" (some "10.0.0.7") "1" true)

/-- The ban once more, with its address. -/
def bannedAgain : BanCall := .addBanWithDetails "a" "again" (some "10.0.0.7") "2" true

theorem keepsBans_apply_iff_again : KeepsBans bannedWithIp (bannedWithIp.apply bannedAgain) := by
  have hisBan : bannedAgain.IsBan := trivial
  refine (keepsBans_apply_iff hisBan bannedWithIp).mpr fun player hplayer => ⟨?_, ?_⟩
  · exact backed_of_indexed (indexed_apply ⟨rfl, rfl⟩) player
  · have hrecord : bannedAgain.record = some (banEntry "a" "again" (some "10.0.0.7") "2") := by decide
    obtain rfl := Option.some.inj (hrecord.symm.trans hplayer)
    have hreplaced : replaced (banEntry "a" "again" (some "10.0.0.7") "2") bannedWithIp.bannedPlayers =
        some (banEntry "a" "spam" (some "10.0.0.7") "1") := by decide
    intro entry hentry _ _
    obtain rfl := Option.some.inj (hreplaced.symm.trans hentry)
    exact .inl ⟨by decide, rfl⟩

/-- Banned a second time without the address, the player may come back from it under another UUID. -/
theorem ban_lifts_ip_ban : ¬ KeepsBans bannedWithIp (bannedWithIp.apply (.addBan "a" "2" true)) := by
  intro h
  have hafter := h.ips "10.0.0.7" (by decide)
  exact absurd hafter (by decide)

end ModerationLists
end BasisRust.Admin
