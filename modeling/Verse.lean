import Verse.Directory.RollForward
import Verse.Directory.Commit
import Verse.Engine.Closed
import Verse.Engine.Compaction
import Verse.Engine.Roster
import Verse.Engine.Prepare
import Verse.Runtime.Sleep
import Verse.DirectoryV3.Lasting
import Verse.DirectoryV3.Safety
import Verse.DirectoryV3.Whole
import Verse.DirectoryV3.Redelivery
import Verse.DirectoryV3.Lossless
import Verse.Handoff.Again
import Verse.Runtime.Reopen
import Verse.Runtime.Fleet
import Verse.Worker.Stale
import Verse.Interest.Sessions
import Verse.Interest.Hysteresis
import Verse.Interest.Privacy
import Verse.Engine.Fragments
import Verse.Celestial.Sound
import Verse.Runtime.LifeSupport
import Verse.Worker.Fencing
import Verse.Interest.Coalescing
import Verse.LifecycleV2.Rearm
import Verse.DirectoryV3.Pinned
import Verse.Engine.Journal
