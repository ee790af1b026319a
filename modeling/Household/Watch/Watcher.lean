import Household.Layer.File
import Household.Watch.Digest
import Household.Watch.Mailbox

/-! # Watching a document

A watcher looks at a document from time to time. A change that has lasted for the debounce time is
handled: valid content takes over, other content leaves the layers in service as they are. Either
way the content is not handled again until it has changed. A reload handles the content at once.
-/

set_option autoImplicit false

namespace Household

open Household.Text

def Layers.ofBytes (path : String) (content : List UInt8) : Checked Layers := do
  let format ← Document.Format.ofPath path
  match decode content with
  | .error fault => .error (.unreadable path (.notUtf8 fault))
  | .ok text => ofText format path text

theorem Layers.load_eq_ok_iff {path : String} {content : List UInt8} {layers : Layers} :
    load path (some content) = .ok layers ↔ ofBytes path content = .ok layers := by
  unfold load ofBytes
  cases Document.Format.ofPath path with
  | error fault => rfl
  | ok format => cases hd : decode content <;> simp [bind, Except.bind, hd]

inductive WatchEvent where
  | applied (digest : String) (summary : Summary)
  | rejected (digest : String) (fault : LoadFault)

structure Sighting where
  digest : String
  since : Nat
  deriving DecidableEq, Repr

structure Watcher where
  path : String
  debounce : Nat
  layers : Layers
  handled : Option String
  pending : Option Sighting
  events : Mailbox WatchEvent

inductive ReloadFault where
  | unreadable (fault : ReadFault)
  | rejected (fault : LoadFault)

def ReloadFault.message : ReloadFault → String
  | unreadable fault => "I/O error: " ++ fault.message
  | rejected fault => "Configuration error: " ++ fault.message

namespace Watcher

/-- Content that is there at the start counts as handled. -/
def start (path : String) (debounce : Nat) (layers : Layers) (content : Option (List UInt8)) :
    Watcher :=
  ⟨path, debounce, layers, content.map Digest.ofBytes, none, .empty⟩

def handle (w : Watcher) (content : List UInt8) : Watcher × WatchEvent :=
  let digest := Digest.ofBytes content
  match Layers.ofBytes w.path content with
  | .ok layers =>
    ({ w with layers, handled := some digest }, .applied digest layers.summary)
  | .error fault => ({ w with handled := some digest }, .rejected digest fault)

/-- Since when the content with this digest has been seen without a break. -/
def firstSeen (w : Watcher) (now : Nat) (digest : String) : Nat :=
  match w.pending with
  | some sighting => if sighting.digest = digest then sighting.since else now
  | none => now

def hasSettled (w : Watcher) (now : Nat) (digest : String) : Bool :=
  w.debounce ≤ now - w.firstSeen now digest

def poll (w : Watcher) (now : Nat) : Option (List UInt8) → Watcher
  | none => { w with pending := none }
  | some content =>
    let digest := Digest.ofBytes content
    -- A file that is put back to what was handled last ends the wait.
    if w.handled = some digest then { w with pending := none }
    else if w.hasSettled now digest then
      let (next, event) := w.handle content
      { next with pending := none, events := next.events.offer event }
    else { w with pending := some ⟨digest, w.firstSeen now digest⟩ }

/-- Handles the content at once. What is pending stays pending. -/
def reload (w : Watcher) : Option (List UInt8) → Watcher × Except ReloadFault WatchEvent
  | none => (w, .error (.unreadable .missing))
  | some content =>
    match w.handle content with
    | (next, .rejected _ fault) => (next, .error (.rejected fault))
    | (next, event) => (next, .ok event)

def drain (w : Watcher) : List WatchEvent × Watcher :=
  (w.events.waiting, { w with events := w.events.drain })

def close (w : Watcher) : Watcher := { w with events := w.events.close }

@[simp] theorem poll_none (w : Watcher) (now : Nat) :
    w.poll now none = { w with pending := none } := rfl

theorem reload_none (w : Watcher) : (w.reload none).1 = w := rfl

theorem handled_handle (w : Watcher) (content : List UInt8) :
    (w.handle content).1.handled = some (Digest.ofBytes content) := by
  unfold handle
  split <;> rfl

theorem layers_handle (w : Watcher) (content : List UInt8) :
    (w.handle content).1.layers =
      match Layers.ofBytes w.path content with
      | .ok layers => layers
      | .error _ => w.layers := by
  unfold handle
  split <;> simp_all

end Watcher

end Household
