import Montage.Frame

/-!
Callbacks asked of a display. Whoever wants to be called on the next frame of the display takes out
a request; the display later hands the request back, unless it has been cancelled.
-/

namespace Montage

/-- Requests are numbered from 1 on. -/
abbrev RequestId := Nat

structure FrameRequests where
  /-- The number of the last request. -/
  issued : RequestId := 0
  /-- Requests not yet handed out, oldest first. -/
  pending : List RequestId := []
  cancelled : Nat := 0

namespace FrameRequests

/-- How many requests there have been. -/
def requested (r : FrameRequests) : Nat := r.issued

def request (r : FrameRequests) : RequestId × FrameRequests :=
  (r.issued + 1, { r with issued := r.issued + 1, pending := r.pending ++ [r.issued + 1] })

/-- Takes back a request; one that is not pending stays without effect. -/
def cancel (r : FrameRequests) (id : RequestId) : FrameRequests :=
  if r.pending.contains id then
    { r with pending := r.pending.filter (· != id), cancelled := r.cancelled + 1 }
  else r

/-- Hands out all pending requests. -/
def take (r : FrameRequests) : List RequestId × FrameRequests :=
  (r.pending, { r with pending := [] })

@[simp] theorem request_fst (r : FrameRequests) : r.request.1 = r.issued + 1 := rfl

@[simp] theorem pending_request (r : FrameRequests) :
    r.request.2.pending = r.pending ++ [r.issued + 1] := rfl

@[simp] theorem pending_take (r : FrameRequests) : r.take.2.pending = [] := rfl

theorem mem_pending_cancel {r : FrameRequests} {id x : RequestId} :
    x ∈ (r.cancel id).pending ↔ x ∈ r.pending ∧ x ≠ id := by
  unfold cancel
  split
  · simp
  · next h =>
    simp only [List.contains_iff_mem] at h
    exact ⟨fun hx => ⟨hx, fun e => h (e ▸ hx)⟩, (·.1)⟩

end FrameRequests

/-- What a preview shares with its host: the position on the timeline, and the display. -/
structure Host where
  playhead : Frame := 0
  requests : FrameRequests := {}

namespace Host

def request (h : Host) : RequestId × Host :=
  (h.requests.request.1, { h with requests := h.requests.request.2 })

def cancel (h : Host) (id : RequestId) : Host := { h with requests := h.requests.cancel id }

def take (h : Host) : List RequestId × Host :=
  (h.requests.take.1, { h with requests := h.requests.take.2 })

end Host

end Montage
