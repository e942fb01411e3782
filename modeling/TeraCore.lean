import TeraCore.Auctions.Escrow
import TeraCore.Auth.ChallengeBinding
import TeraCore.Auth.Chunking
import TeraCore.Auth.SharedSecret
import TeraCore.Battlegrounds.Arena
import TeraCore.Battlegrounds.Counters
import TeraCore.Battlegrounds.FillPlayers
import TeraCore.Battlegrounds.NormalMatches
import TeraCore.Battlegrounds.PremadeMatches
import TeraCore.Battlegrounds.RatedPairing
import TeraCore.Calendar.InviteProtection
import TeraCore.Chat.ChannelOwnership
import TeraCore.Combat.VictimSelection
import TeraCore.Conditions.ConditionMgr
import TeraCore.DungeonFinding.Completeness
import TeraCore.DungeonFinding.QueueStatus
import TeraCore.DungeonFinding.RoleCheckState
import TeraCore.DungeonFinding.RoleSolver
import TeraCore.DungeonFinding.VoteKick
import TeraCore.Entities.SkillTable
import TeraCore.Entities.Talents
import TeraCore.Entities.Vehicle
import TeraCore.Events.GameEventTimes
import TeraCore.Events.SideEffects
import TeraCore.Groups.GroupMgr
import TeraCore.Groups.Leader
import TeraCore.Groups.LeaversRolls
import TeraCore.Groups.RollResolution
import TeraCore.Groups.SubGroups
import TeraCore.Guilds.Allowance
import TeraCore.Guilds.BankMove
import TeraCore.Guilds.LogHolder
import TeraCore.Instances.BindSymmetry
import TeraCore.Instances.RespawnResets
import TeraCore.Instances.Targets
import TeraCore.Looting.LootOnce
import TeraCore.Looting.LootView
import TeraCore.Looting.QuestPrediction
import TeraCore.Mails.Lifecycle
import TeraCore.Maps.InstanceIds
import TeraCore.Movement.GeneratorStack
import TeraCore.Packets.PackedTime
import TeraCore.Packets.TruthValues
import TeraCore.Pools.MotherPools
import TeraCore.Pools.QuestRotation
import TeraCore.Quests.CastCredit
import TeraCore.Quests.ItemCounters
import TeraCore.Quests.Prerequisites
import TeraCore.Reputation.Relog
import TeraCore.Server.Framing
import TeraCore.Server.OutgoingOrder
import TeraCore.Server.PacketOwnership
import TeraCore.Server.ReturningPlayers
import TeraCore.Spells.SpellGroups
import TeraCore.Storage.BuyBack
import TeraCore.Storage.DestroyCounts
import TeraCore.Tools.DumpCodec
import TeraCore.Tools.DumpComplete
import TeraCore.Utilities.Delivery
import TeraCore.Utilities.StripLine
import TeraCore.Utilities.TimeStrings
