import BasisRust.Admin.Moderation

/-!
# The ban indexes and the ban records

The calls that change the ban records, with what each returns, over runs of any length.  The records and the
two indexes stand behind three locks; what keeps them in step is that every call that writes the records
rebuilds both indexes before it saves, so a save that fails finds the memory in step already.
-/

namespace BasisRust.Admin

/-- The banned-player file as `load_banned_players` finds it; what cannot be parsed counts as empty. -/
inductive BanFile where
  | missing
  | unreadable
  | text (parsed : Option (List BannedPlayer))

namespace ModerationLists

/-! ### The remaining calls -/

def addBan (uuid timeOfBan : String) (saved : Bool) (lists : ModerationLists) : ModerationLists × Bool :=
  lists.addBanWithDetails uuid "" none timeOfBan saved

/-- The entry `add_ip_ban` makes. -/
def ipBanEntry (ip timeOfBan : String) : BannedPlayer where
  uuid := "ip-ban:" ++ ip
  bannedIp := ip
  reason := "IP banned"
  hasBannedIp := true
  timeOfBan := timeOfBan

def addIpBan (ip timeOfBan : String) (saved : Bool) (lists : ModerationLists) : ModerationLists × Bool :=
  if isBlank ip then (lists, true)
  else
    let player := ipBanEntry ip timeOfBan
    (rebuildBanIndexes { lists with bannedPlayers := enterPlayer player lists.bannedPlayers }, saved)

/-- `save_banned_players()?; Ok(true)` when something changed, `Ok(false)` otherwise; `none` is the error. -/
def saveIf (changed saved : Bool) : Option Bool := if changed then if saved then some true else none else some false

/-- `remove_ban` with what it returns. -/
def removeBanAndSave (uuid : String) (saved : Bool) (lists : ModerationLists) : ModerationLists × Option Bool :=
  let after := lists.removeBan uuid
  (after, saveIf (after.bannedPlayers.length ≠ lists.bannedPlayers.length) saved)

/-- `remove_ip_ban` with what it returns: when no record went, what counts is the index. -/
def removeIpBanAndSave (ip : String) (saved : Bool) (lists : ModerationLists) : ModerationLists × Option Bool :=
  let after := lists.removeIpBan ip
  (after, saveIf (after.bannedPlayers.length ≠ lists.bannedPlayers.length ∨
    after.bannedIps.length ≠ lists.bannedIps.length) saved)

/-- A file that is not there is written with the records there are. -/
def loadBannedPlayers (file : BanFile) (saved : Bool) (lists : ModerationLists) : ModerationLists × Bool :=
  match file with
  | .missing => (lists, saved)
  | .unreadable => (lists, false)
  | .text parsed => (rebuildBanIndexes { lists with bannedPlayers := parsed.getD [] }, true)

end ModerationLists

/-- A call, with the time it reads and whether its file can be written. -/
inductive BanCall where
  | addBan (uuid timeOfBan : String) (saved : Bool)
  | addBanWithDetails (uuid reason : String) (bannedIp : Option String) (timeOfBan : String) (saved : Bool)
  | removeBan (uuid : String) (saved : Bool)
  | addIpBan (ip timeOfBan : String) (saved : Bool)
  | removeIpBan (ip : String) (saved : Bool)
  | load (file : BanFile) (saved : Bool)

namespace ModerationLists

/-- The lists after the call, whatever it returned. -/
def apply (lists : ModerationLists) : BanCall → ModerationLists
  | .addBan uuid timeOfBan saved => (lists.addBan uuid timeOfBan saved).1
  | .addBanWithDetails uuid reason bannedIp timeOfBan saved =>
    (lists.addBanWithDetails uuid reason bannedIp timeOfBan saved).1
  | .removeBan uuid saved => (lists.removeBanAndSave uuid saved).1
  | .addIpBan ip timeOfBan saved => (lists.addIpBan ip timeOfBan saved).1
  | .removeIpBan ip saved => (lists.removeIpBanAndSave ip saved).1
  | .load file saved => (lists.loadBannedPlayers file saved).1

/-! ### In step -/

/-- Exactly the addresses of the entries with one are banned, but for blank ones. -/
theorem mem_ipIndex {players : List BannedPlayer} {ip : String} :
    ip ∈ ipIndex players ↔
      (∃ player ∈ players, player.hasBannedIp ∧ player.bannedIp = ip) ∧ isBlank ip = false := by
  rw [ipIndex, mem_foldl_indexValue, List.mem_map]
  simp only [List.not_mem_nil, false_or, List.mem_filter, and_assoc]

lemma indexed_rebuildBanIndexes (lists : ModerationLists) : (rebuildBanIndexes lists).Indexed := ⟨rfl, rfl⟩

lemma indexed_addBanWithDetails {uuid reason timeOfBan : String} {bannedIp : Option String} {saved : Bool}
    {lists : ModerationLists} (h : lists.Indexed) :
    (lists.addBanWithDetails uuid reason bannedIp timeOfBan saved).1.Indexed := by
  unfold addBanWithDetails
  split
  · exact h
  · exact indexed_rebuildBanIndexes _

lemma indexed_addIpBan {ip timeOfBan : String} {saved : Bool} {lists : ModerationLists} (h : lists.Indexed) :
    (lists.addIpBan ip timeOfBan saved).1.Indexed := by
  unfold addIpBan
  split
  · exact h
  · exact indexed_rebuildBanIndexes _

lemma indexed_removeBan {uuid : String} {lists : ModerationLists} (h : lists.Indexed) :
    (lists.removeBan uuid).Indexed := by
  unfold removeBan
  dsimp only
  split
  · exact indexed_rebuildBanIndexes _
  · exact h

/-- The branch that edits the index by itself runs only when no entry has the address, and then the index does
not have it either. -/
lemma indexed_removeIpBan {ip : String} {lists : ModerationLists} (h : lists.Indexed) :
    (lists.removeIpBan ip).Indexed := by
  have hlength := List.length_filter_eq_length_iff
    (p := fun player : BannedPlayer => !(player.hasBannedIp && player.bannedIp = ip)) (l := lists.bannedPlayers)
  unfold removeIpBan
  dsimp only
  split
  next => exact indexed_rebuildBanIndexes _
  next heq =>
    have hnone := hlength.mp (not_not.mp heq)
    have hmem : ip ∉ lists.bannedIps := by
      rw [← h.2, mem_ipIndex]
      rintro ⟨⟨player, hplayer, hhas, hip⟩, -⟩
      have := hnone player hplayer
      simp [hhas, hip] at this
    rw [removeValue_eq_self_iff.mpr hmem]
    exact h

lemma indexed_loadBannedPlayers {file : BanFile} {saved : Bool} {lists : ModerationLists} (h : lists.Indexed) :
    (lists.loadBannedPlayers file saved).1.Indexed := by
  cases file with
  | missing => exact h
  | unreadable => exact h
  | text parsed => exact indexed_rebuildBanIndexes _

theorem indexed_apply {call : BanCall} {lists : ModerationLists} (h : lists.Indexed) :
    (lists.apply call).Indexed := by
  cases call with
  | addBan uuid timeOfBan saved => exact indexed_addBanWithDetails h
  | addBanWithDetails uuid reason bannedIp timeOfBan saved => exact indexed_addBanWithDetails h
  | removeBan uuid saved => exact indexed_removeBan h
  | addIpBan ip timeOfBan saved => exact indexed_addIpBan h
  | removeIpBan ip saved => exact indexed_removeIpBan h
  | load file saved => exact indexed_loadBannedPlayers h

theorem indexed_foldl (calls : List BanCall) {lists : ModerationLists} (h : lists.Indexed) :
    (calls.foldl apply lists).Indexed := by
  induction calls generalizing lists with
  | nil => exact h
  | cons call calls ih => exact ih (indexed_apply h)

/-! ### What a query says -/

section
variable {lists : ModerationLists} (h : lists.Indexed)
include h

lemma isUuidBanned_iff {uuid : String} : lists.isUuidBanned uuid ↔
    (∃ player ∈ lists.bannedPlayers, player.uuid = uuid) ∧ isBlank uuid = false := by
  rw [isUuidBanned, decide_eq_true_eq, ← h.1, mem_uuidIndex]

lemma isIpBanned_iff {ip : String} : lists.isIpBanned ip ↔
    (∃ player ∈ lists.bannedPlayers, player.hasBannedIp ∧ player.bannedIp = ip) ∧ isBlank ip = false := by
  rw [isIpBanned, decide_eq_true_eq, ← h.2, mem_ipIndex]

end

/-- Where as many are left as there were, nothing was taken out. -/
lemma eq_filter_of_length {α : Type} {p : α → Bool} {l : List α} (h : ¬ (l.filter p).length ≠ l.length) :
    l = l.filter p := by
  have hall : ∀ a ∈ l, p a := List.length_filter_eq_length_iff.mp (not_not.mp h)
  exact (List.filter_eq_self.mpr hall).symm

/-- No entry of the UUID is left, however many there were. -/
lemma ne_of_mem_removeBan {uuid : String} {lists : ModerationLists} :
    ∀ player ∈ (lists.removeBan uuid).bannedPlayers, player.uuid ≠ uuid := by
  have hfilter : (lists.removeBan uuid).bannedPlayers =
      lists.bannedPlayers.filter fun player => player.uuid ≠ uuid := by
    unfold removeBan
    dsimp only
    split
    next => rfl
    next heq => exact eq_filter_of_length heq
  intro player hplayer
  rw [hfilter, List.mem_filter] at hplayer
  exact of_decide_eq_true hplayer.2

lemma ne_of_mem_removeIpBan {ip : String} {lists : ModerationLists} :
    ∀ player ∈ (lists.removeIpBan ip).bannedPlayers, player.hasBannedIp → player.bannedIp ≠ ip := by
  have hfilter : (lists.removeIpBan ip).bannedPlayers =
      lists.bannedPlayers.filter fun player => !(player.hasBannedIp && player.bannedIp = ip) := by
    unfold removeIpBan
    dsimp only
    split
    next => rfl
    next heq => exact eq_filter_of_length heq
  intro player hplayer hhas
  rw [hfilter, List.mem_filter] at hplayer
  simpa [hhas] using hplayer.2

/-- **The indexes match the records.**  After any calls from the empty lists, whichever files could be written:
the queries answer what the records say, and what was removed is no longer banned, whatever the call returns. -/
theorem indexes_match_records (calls : List BanCall) :
    let lists := calls.foldl apply {}
    (∀ uuid, lists.isUuidBanned uuid ↔
      (∃ player ∈ lists.bannedPlayers, player.uuid = uuid) ∧ isBlank uuid = false) ∧
    (∀ ip, lists.isIpBanned ip ↔
      (∃ player ∈ lists.bannedPlayers, player.hasBannedIp ∧ player.bannedIp = ip) ∧ isBlank ip = false) ∧
    (∀ uuid saved, (lists.removeBanAndSave uuid saved).1.isUuidBanned uuid = false) ∧
    ∀ ip saved, (lists.removeIpBanAndSave ip saved).1.isIpBanned ip = false := by
  intro lists
  have hindexed : lists.Indexed := indexed_foldl calls ⟨rfl, rfl⟩
  refine ⟨fun uuid => isUuidBanned_iff hindexed, fun ip => isIpBanned_iff hindexed, ?_, ?_⟩
  · intro uuid saved
    rw [Bool.eq_false_iff]
    intro hbanned
    obtain ⟨⟨player, hplayer, huuid⟩, -⟩ := (isUuidBanned_iff (indexed_removeBan hindexed)).mp hbanned
    exact ne_of_mem_removeBan player hplayer huuid
  · intro ip saved
    rw [Bool.eq_false_iff]
    intro hbanned
    obtain ⟨⟨player, hplayer, hhas, hip⟩, -⟩ := (isIpBanned_iff (indexed_removeIpBan hindexed)).mp hbanned
    exact ne_of_mem_removeIpBan player hplayer hhas hip

end ModerationLists
end BasisRust.Admin
