import ChangeRouting.Config.Basic
import ChangeRouting.Fault

/-!
# ChangeRouting.Config.Check

What makes a configuration acceptable.

`Configuration.check` looks at the settings in a fixed order and reports the first fault: the node,
the store, the platform, the queue, then each channel, each router and each trigger as listed.  Ids of
channels and of routers are unique; triggers may share an id.
-/

namespace ChangeRouting

/-- Report a fault unless something holds. -/
def demand (holds : Prop) [Decidable holds] (fault : Fault) : Except Fault Unit :=
  if holds then .ok () else .error fault

/-- Check a channel against the ids of those before it. -/
def checkChannel (seen : List String) (channel : Channel) : Except Fault Unit := do
  demand (channel.id ≠ "") .emptyChannelId
  demand (channel.id ∉ seen) (.duplicateChannel channel.id)
  demand (channel.batchSize ≠ 0) (.zeroBatchSize channel.id)
  demand (channel.window ≠ some 0) (.zeroChannelWindow channel.id)

def checkChannels (seen : List String) : List Channel → Except Fault Unit
  | [] => .ok ()
  | channel :: rest => do
    checkChannel seen channel
    checkChannels (channel.id :: seen) rest

private def checkRouters (seen : List String) : List Router → Except Fault Unit
  | [] => .ok ()
  | router :: rest => do
    demand (router.id ≠ "") .emptyRouterId
    demand (router.id ∉ seen) (.duplicateRouter router.id)
    checkRouters (router.id :: seen) rest

/-- Check that a trigger names channels and routers that are there. -/
def checkTrigger (channels routers : List String) (trigger : Trigger) : Except Fault Unit := do
  demand (trigger.channel ∈ channels) (.unknownChannel trigger.id trigger.channel)
  trigger.routers.forM fun router => demand (router ∈ routers) (.unknownRouter trigger.id router)

/-- Report the first fault of a configuration. -/
def Configuration.check (config : Configuration) : Except Fault Unit := do
  demand (config.node.id ≠ "") .emptyNodeId
  demand (config.node.group ≠ "") .emptyGroupId
  demand (config.store.path ≠ "") .emptyStorePath
  demand (config.platform.kind = .mariadb → config.platform.host ≠ "") .missingPlatformHost
  demand (config.routing.window ≠ 0) .zeroWindow
  checkChannels [] config.channels
  checkRouters [] config.routers
  config.triggers.forM
    (checkTrigger (config.channels.map Channel.id) (config.routers.map Router.id))

end ChangeRouting
