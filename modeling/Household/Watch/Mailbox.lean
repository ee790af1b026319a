/-! # Mailboxes

Messages for a receiver that may be slow or gone. A full or closed mailbox drops what is offered.
-/

set_option autoImplicit false

namespace Household

structure Mailbox (α : Type) where
  waiting : List α
  isOpen : Bool

namespace Mailbox

variable {α : Type}

def capacity : Nat := 16

def empty : Mailbox α := ⟨[], true⟩

def offer (m : Mailbox α) (a : α) : Mailbox α :=
  if m.isOpen && m.waiting.length < capacity then ⟨m.waiting ++ [a], m.isOpen⟩ else m

def drain (m : Mailbox α) : Mailbox α := ⟨[], m.isOpen⟩

/-- Without a receiver nothing waits any more. -/
def close (_ : Mailbox α) : Mailbox α := ⟨[], false⟩

@[simp] theorem waiting_drain (m : Mailbox α) : m.drain.waiting = [] := rfl

@[simp] theorem isOpen_offer (m : Mailbox α) (a : α) : (m.offer a).isOpen = m.isOpen := by
  unfold offer
  split <;> rfl

theorem length_offer_le {m : Mailbox α} (h : m.waiting.length ≤ capacity) (a : α) :
    (m.offer a).waiting.length ≤ capacity := by
  unfold offer
  split
  · rename_i hm
    simp only [Bool.and_eq_true, decide_eq_true_eq] at hm
    simpa using Nat.succ_le_of_lt hm.2
  · exact h

theorem waiting_offer_of_lt {m : Mailbox α} (hm : m.isOpen = true)
    (h : m.waiting.length < capacity) (a : α) : (m.offer a).waiting = m.waiting ++ [a] := by
  simp [offer, hm, h]

end Mailbox

end Household
