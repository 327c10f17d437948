import MultigresOperator.Cert.Heal
import MultigresOperator.Cluster.TemplateEvents
import MultigresOperator.Gc.Reclaim
import MultigresOperator.Images.Rollout
import MultigresOperator.Naming.Join
import MultigresOperator.Ownership.DropLegacy
import MultigresOperator.PoolerClient.Forget
import MultigresOperator.PostgresConfig.Grammar
import MultigresOperator.Posture.RecordOrder
import MultigresOperator.Resolver.SettingLayers
import MultigresOperator.Resolver.StorageClass
import MultigresOperator.Shard.BackupHealth
import MultigresOperator.Shard.Handover
import MultigresOperator.Shard.PrimaryLast
import MultigresOperator.Shard.Recreation
import MultigresOperator.Shard.ReloadHash
import MultigresOperator.Shard.RollingOrders
import MultigresOperator.Shard.ScaleDown
import MultigresOperator.Shard.Status
import MultigresOperator.Shard.TerminatingClaims
import MultigresOperator.TableGroup.Status
import MultigresOperator.Topo.Prune
import MultigresOperator.Webhook.LiteIdentity
import MultigresOperator.Webhook.Ratchet
import MultigresOperator.Webhook.Updates
