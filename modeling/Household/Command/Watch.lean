import Household.Layer.File
import Household.Watch.Timing
import Household.Watch.Watcher

/-! # What a watch reports

The lines printed when a watch starts, and one line for every change that it handles.
-/

set_option autoImplicit false

namespace Household.Command

def shortDigest (digest : String) : String := String.ofList (digest.toList.take 12)

def layerCounts (s : Summary) : String :=
  s!"{s.periods} time periods, {s.rooms} rooms, {s.groups} groups, {s.members} members"

def watchOpening (path : String) (timing : Timing) (s : Summary) : List String :=
  [ s!"👀 Watching {path}",
    s!"   Poll every {timing.interval} ms, debounce {timing.debounce} ms",
    "   " ++ layerCounts s ]

def watchLine : WatchEvent → String
  | .applied digest summary => "   ✅ Reloaded (" ++ shortDigest digest ++ "): " ++ layerCounts summary
  | .rejected _ fault => "   ❌ Reload rejected, keeping previous config: " ++ fault.message

end Household.Command
