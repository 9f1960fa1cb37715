import Mathlib.Data.Nat.Notation

/-!
# `channels.rs` and `version.rs`: channel numbers, signal sub-types, versions
-/

namespace BasisRust.Protocol

def serverVersion : UInt16 := 33
def litenetlibProtocolId : Int32 := 13

namespace channels

def authIdentity : UInt8 := 0
def metaData : UInt8 := 1
def disconnection : UInt8 := 2
def voice : UInt8 := 3
def shoutVoice : UInt8 := 4
def audioRecipients : UInt8 := 5
def playerAvatarVeryLow : UInt8 := 6
def playerAvatarVeryLowAdditional : UInt8 := 7
def playerAvatarLow : UInt8 := 8
def playerAvatarLowAdditional : UInt8 := 9
def playerAvatarMedium : UInt8 := 10
def playerAvatarMediumAdditional : UInt8 := 11
def playerAvatarHigh : UInt8 := 12
def playerAvatarHighAdditional : UInt8 := 13
def avatarChangeMessage : UInt8 := 14
def avatar : UInt8 := 15
def createRemotePlayer : UInt8 := 16
def createRemotePlayersForNewPeer : UInt8 := 17
def chat : UInt8 := 18
def getCurrentOwnerRequest : UInt8 := 19
def changeCurrentOwnerRequest : UInt8 := 20
def removeCurrentOwnerRequest : UInt8 := 21
def netIdAssign : UInt8 := 22
def netIdAssigns : UInt8 := 23
def scene : UInt8 := 24
def loadResource : UInt8 := 25
def unloadResource : UInt8 := 26
def preloadReady : UInt8 := 27
def spawnPreloaded : UInt8 := 28
def contentShare : UInt8 := 29
def contentShareCleanup : UInt8 := 30
def serverBound : UInt8 := 31
def storeDatabase : UInt8 := 32
def requestStoreDatabase : UInt8 := 33
def admin : UInt8 := 34
def serverStatistics : UInt8 := 35
def cameraPipState : UInt8 := 36
def cameraPipPosition : UInt8 := 37
def events : UInt8 := 38
def audioRecipientsLarge : UInt8 := 39
def voiceLarge : UInt8 := 40
def playerAvatarVeryLowLarge : UInt8 := 41
def playerAvatarVeryLowAdditionalLarge : UInt8 := 42
def playerAvatarLowLarge : UInt8 := 43
def playerAvatarLowAdditionalLarge : UInt8 := 44
def playerAvatarMediumLarge : UInt8 := 45
def playerAvatarMediumAdditionalLarge : UInt8 := 46
def playerAvatarHighLarge : UInt8 := 47
def playerAvatarHighAdditionalLarge : UInt8 := 48
def audioRecipientsInverted : UInt8 := 49
def audioRecipientsInvertedLarge : UInt8 := 50
def audioRecipientsBitfield : UInt8 := 51
def compressedAvatarBundle : UInt8 := 52
def serverLibrary : UInt8 := 53
def p2p : UInt8 := 54

def eventTypeCameraShutterSound : UInt8 := 0
def eventTypeCameraCountdown : UInt8 := 1
def eventTypePlayerTempBlock : UInt8 := 2

def p2pSubRequest : UInt8 := 0
def p2pSubAccept : UInt8 := 1
def p2pSubDecline : UInt8 := 2
def p2pSubCancel : UInt8 := 3
def p2pSubLinkLost : UInt8 := 4
def p2pSubServerArmed : UInt8 := 5
def p2pSubLinkUp : UInt8 := 6

end channels

end BasisRust.Protocol
