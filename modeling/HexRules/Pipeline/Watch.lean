/-!
# Handles and watches

A handle holds content that is edited, with a version that counts the edits and a serial number
that tells it from other handles. A watch remembers the stamps of some handles; it reports a
change whenever they are not exactly those that it remembers, and before it remembers any.

Results:
* `changed_mark`: right after they were marked, handles have not changed.
* `changed_reset`: after a reset any handles have changed, even none.
-/

namespace HexRules

universe u

/-- Which handle it is, and which version of it. -/
structure Stamp where
  serial : Nat
  version : Nat
  deriving DecidableEq, Repr

/-- Content with a count of its edits. -/
structure Handle (α : Type u) where
  stamp : Stamp
  content : α

namespace Handle

variable {α : Type u}

/-- A new handle. -/
def new (serial : Nat) (content : α) : Handle α := ⟨⟨serial, 0⟩, content⟩

/-- Counts an edit. -/
def touch (h : Handle α) : Handle α := { h with stamp.version := h.stamp.version + 1 }

/-- Edits the content. -/
def edit (h : Handle α) (content : α) : Handle α := { h.touch with content := content }

/-- Changes the content without counting it as an edit. -/
def slip (h : Handle α) (content : α) : Handle α := { h with content := content }

/-- Edits the content, if there is no objection. -/
def tryEdit {ε : Type} (h : Handle α) (f : α → Except ε α) : Except ε (Handle α) :=
  (f h.content).map h.edit

/-- Changes the content without counting it as an edit, if there is no objection. -/
def trySlip {ε : Type} (h : Handle α) (f : α → Except ε α) : Except ε (Handle α) :=
  (f h.content).map h.slip

end Handle

/-- The stamps that were seen last, if any were. -/
structure Watch where
  seen : Option (List Stamp)
  deriving DecidableEq, Repr

namespace Watch

/-- A watch that has seen nothing. -/
def fresh : Watch := ⟨none⟩

/-- Whether stamps are not those seen last. -/
def changed (w : Watch) (stamps : List Stamp) : Bool := !decide (w.seen = some stamps)

/-- Remembers stamps. -/
def mark (stamps : List Stamp) : Watch := ⟨some stamps⟩

theorem changed_mark (stamps : List Stamp) : (mark stamps).changed stamps = false := by
  simp [changed, mark]

theorem changed_reset (stamps : List Stamp) : fresh.changed stamps = true := by
  simp [changed, fresh]

end Watch

/-- A value that is computed anew when what it depends on has changed. -/
structure Cached (α : Type u) where
  watch : Watch
  value : α
  /-- How often it was computed. -/
  revision : Nat

namespace Cached

variable {α : Type u}

/-- A value to begin with, which was not computed. -/
def start (value : α) : Cached α := ⟨.fresh, value, 0⟩

/-- Takes a newly computed value, and remembers what it was computed from. -/
def store (c : Cached α) (stamps : List Stamp) (value : α) : Cached α :=
  ⟨.mark stamps, value, c.revision + 1⟩

/-- Has the value computed anew in any case. -/
def invalidate (c : Cached α) : Cached α := { c with watch := .fresh }

end Cached

end HexRules
