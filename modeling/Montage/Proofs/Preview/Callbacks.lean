import Montage.Preview.Player
import Montage.Proofs.Preview.Uses

/-!
The requests of a preview at a display of its own.

Transport and compositor take turns to ask one display for callbacks, and each keeps in mind what it
has asked for. The host takes the requests and calls back later, in any order, some of them twice
and some when nobody waits any more. Each request belongs to one of the two as long as it is
pending, and once one of them has acted on it, neither ever does again. So nothing is left pending
when playback has ended and what was staged is written.
-/

namespace Montage

/-- What is pending when a compositor is disposed of was so before, and is no request of its own. -/
lemma Rig.requests_dispose (r : Rig) (open_ : r.compositor.disposed = false) :
    r.dispose.compositor.pendingFlush = none ∧
      r.dispose.host.requests.issued = r.host.requests.issued ∧
        ∀ id ∈ r.dispose.host.requests.pending,
          id ∈ r.host.requests.pending ∧ r.compositor.pendingFlush ≠ some id := by
  refine ⟨?_, ?_⟩
  · rw [Compositor.compositor_dispose, if_neg (by simp [open_])]
    exact Compositor.pendingFlush_write _ _
  · unfold Rig.dispose
    rw [if_neg (by simp [open_])]
    dsimp only
    cases hflush : r.compositor.pendingFlush with
    | none => exact ⟨rfl, fun id hid => ⟨hid, by simp⟩⟩
    | some own =>
      refine ⟨?_, fun id hid => ?_⟩
      · dsimp only [Host.cancel, FrameRequests.cancel]
        split <;> rfl
      · obtain ⟨hmem, hne⟩ := FrameRequests.mem_pending_cancel.mp hid
        exact ⟨hmem, fun heq => hne (Option.some.inj heq).symm⟩

lemma Compositor.callback_of_ne {c : Compositor} {id : RequestId} (h : c.pendingFlush ≠ some id) :
    c.callback id = (false, c) := if_neg h

/-! Who waits for what -/

namespace Preview

/-- The parts of a preview that ask for callbacks. -/
inductive Part where
  | transport
  | compositor
  deriving DecidableEq

/-- The request that a part waits for. -/
def request? (p : Preview) : Part → Option RequestId
  | .transport => p.transport.pending
  | .compositor => p.compositor.pendingFlush

/-- The parts that act on a callback, each with the request. -/
def heeds (p : Preview) (id : RequestId) : List (RequestId × Part) :=
  ([.transport, .compositor].filter fun part => p.request? part = some id).map (id, ·)

end Preview

namespace Session

/-- The host calls back with a request that is not pending: one that it has taken, perhaps long ago,
one that it has called back with before, or one that was taken back. -/
def Use.IsTaken (s : Session) : Use → Prop
  | command c => c.IsTaken s.preview.transport
  | callback id _ => id ∉ s.requests.pending
  | _ => True

/-- The parts that act on a callback. -/
def Use.heeded (s : Session) : Use → List (RequestId × Preview.Part)
  | command (.callback id _) => (s.preview.heeds id).filter (·.2 = .transport)
  | callback id _ => s.preview.heeds id
  | _ => []

/-- The sessions of a preview with a display that nobody else uses, and on which requests its parts
have acted so far. -/
inductive Serves : Session → List (RequestId × Preview.Part) → Prop
  | new (config : PreviewConfig) (backend : Backend) (snapshot : Snapshot) (assets : AssetTable) :
      Serves { preview := .new config backend snapshot assets } []
  | use {s : Session} {log : List (RequestId × Preview.Part)} (h : Serves s log) (u : Use)
      (taken : u.IsTaken s) : Serves (u.apply s) (log ++ u.heeded s)

end Session

namespace Preview

variable {p q : Preview} {log : List (RequestId × Part)} {id : RequestId}

/-- What holds of the requests at any time. -/
structure Accounts (p : Preview) (log : List (RequestId × Part)) : Prop where
  inPlay : p.transport.WaitsInPlay
  owned : ∀ id ∈ p.transport.host.requests.pending, ∃ part, p.request? part = some id
  issued : ∀ part id, p.request? part = some id → id ≤ p.transport.host.requests.issued
  apart : ∀ id, p.request? .transport = some id → p.request? .compositor ≠ some id
  past : ∀ x ∈ log, x.1 ≤ p.transport.host.requests.issued ∧ ∀ part, p.request? part ≠ some x.1
  once : (log.map (·.1)).Nodup

namespace Accounts

lemma congr (h : p.Accounts log) (hs : q.transport.state = p.transport.state)
    (hp : q.transport.pending = p.transport.pending)
    (hr : q.transport.host.requests = p.transport.host.requests)
    (hf : q.compositor.pendingFlush = p.compositor.pendingFlush) : q.Accounts log := by
  have hrequest : q.request? = p.request? := by
    funext part
    cases part with
    | transport => exact hp
    | compositor => exact hf
  refine ⟨?_, ?_, ?_, ?_, ?_, h.once⟩
  · rw [Transport.WaitsInPlay, hs, hp]
    exact h.inPlay
  · rw [hr, hrequest]
    exact h.owned
  · rw [hr, hrequest]
    exact h.issued
  · rw [hrequest]
    exact h.apart
  · rw [hr, hrequest]
    exact h.past

lemma silent (h : p.Accounts log) : p.Accounts (log ++ []) := by
  rwa [List.append_nil]

lemma notMem (h : p.Accounts log) {part : Part} (hid : p.request? part = some id) :
    id ∉ log.map (·.1) := by
  intro hmem
  obtain ⟨x, hx, rfl⟩ := List.mem_map.mp hmem
  exact (h.past x hx).2 part hid

lemma note (h : p.Accounts log) (hnew : id ∉ log.map (·.1))
    (hle : id ≤ p.transport.host.requests.issued) (hover : ∀ part, p.request? part ≠ some id)
    (part : Part) : p.Accounts (log ++ [(id, part)]) := by
  refine ⟨h.inPlay, h.owned, h.issued, h.apart, fun x hx => ?_, ?_⟩
  · rcases List.mem_append.mp hx with hx | hx
    · exact h.past x hx
    · rw [List.mem_singleton.mp hx]
      exact ⟨hle, hover⟩
  · rw [List.map_append, List.map_singleton]
    refine List.nodup_append.mpr ⟨h.once, List.nodup_singleton _, fun a ha b hb hab => ?_⟩
    rw [hab, List.mem_singleton.mp hb] at ha
    exact hnew ha

/-- The transport is told to do something. -/
lemma transport (h : p.Accounts log) {t : Transport Float} (ht : p.transport.Spares t)
    (tidies : p.transport.Tidies t) (inPlay : t.WaitsInPlay) :
    Accounts { p with transport := t } log := by
  -- A new request has a number that was not issued before.
  have hold : ∀ id ≤ p.transport.host.requests.issued, t.pending = some id →
      p.request? .transport = some id := fun id hle hid =>
    (ht.own id hid).resolve_right fun hnew => Nat.not_lt_of_le hle hnew.1
  refine ⟨inPlay, fun id hid => ?_, fun part id hid => ?_, fun id hid hflush => ?_,
    fun x hx => ?_, h.once⟩
  · rcases tidies id hid with hmine | ⟨hmem, hne⟩
    · exact ⟨.transport, hmine⟩
    · obtain ⟨part, hpart⟩ := h.owned id hmem
      cases part with
      | transport => exact absurd hpart hne
      | compositor => exact ⟨.compositor, hpart⟩
  · cases part with
    | transport =>
      rcases ht.own id hid with hsame | ⟨-, hle⟩
      · exact Nat.le_trans (h.issued .transport id hsame) ht.issued
      · exact hle
    | compositor => exact Nat.le_trans (h.issued .compositor id hid) ht.issued
  · exact h.apart id (hold id (h.issued .compositor id hflush) hid) hflush
  · obtain ⟨hle, hnone⟩ := h.past x hx
    refine ⟨Nat.le_trans hle ht.issued, fun part hid => ?_⟩
    cases part with
    | transport => exact hnone .transport (hold x.1 hle hid)
    | compositor => exact hnone .compositor hid

lemma tick (h : p.Accounts log) (hid : p.request? .transport = some id)
    (taken : id ∉ p.transport.host.requests.pending) (timestamp : Float) :
    Accounts { p with transport := (p.transport.callback id timestamp).1 }
      (log ++ [(id, .transport)]) := by
  have hspares := p.transport.spares_callback id timestamp
  have hnext := h.transport hspares (Transport.tidies_callback h.inPlay taken timestamp)
    (Transport.waitsInPlay_callback h.inPlay id timestamp)
  have hle := h.issued .transport id hid
  refine hnext.note (h.notMem hid) (Nat.le_trans hle hspares.issued) (fun part hpart => ?_) _
  cases part with
  | transport =>
    exact Nat.not_lt_of_le hle (Transport.issued_lt_of_callback h.inPlay hid hpart)
  | compositor => exact h.apart id hid hpart

/-- The compositor gets the callback that it waits for. -/
lemma flush (h : p.Accounts log) (hid : p.request? .compositor = some id)
    (taken : id ∉ p.transport.host.requests.pending) :
    Accounts { p with compositor := (p.compositor.callback id).2 }
      (log ++ [(id, .compositor)]) := by
  have hpending : p.compositor.pendingFlush = some id := hid
  have hnone : (p.compositor.callback id).2.pendingFlush = none := by
    rw [Compositor.callback, if_pos hpending, Compositor.pendingFlush_flush]
  have hover : ∀ part k, request? { p with compositor := (p.compositor.callback id).2 } part =
      some k → p.request? part = some k ∧ k ≠ id := by
    intro part k hk
    cases part with
    | transport =>
      refine ⟨hk, ?_⟩
      rintro rfl
      exact h.apart k hk hid
    | compositor => cases hnone.symm.trans hk
  have hnext : Accounts { p with compositor := (p.compositor.callback id).2 } log := by
    refine ⟨h.inPlay, fun k hk => ?_, fun part k hk => h.issued part k (hover part k hk).1,
      fun k hk hflush => h.apart k (hover _ k hk).1 (hover _ k hflush).1, fun x hx => ?_, h.once⟩
    · obtain ⟨part, hpart⟩ := h.owned k hk
      cases part with
      | transport => exact ⟨.transport, hpart⟩
      | compositor =>
        obtain rfl : id = k := Option.some.inj (hid.symm.trans hpart)
        exact absurd hk taken
    · obtain ⟨hle, hnot⟩ := h.past x hx
      exact ⟨hle, fun part hpart => hnot part (hover part _ hpart).1⟩
  exact hnext.note (h.notMem hid) (h.issued .compositor id hid)
    (fun part hpart => (hover part id hpart).2 rfl) _

/-- Layers are staged. If the compositor has to wait for a callback to write them and does not do so
yet, it asks for one. -/
lemma stage (h : p.Accounts log) (frame : Frame) (layers : List Layer) :
    (p.setRig (p.rig.stage frame layers)).Accounts log := by
  unfold Rig.stage
  dsimp only
  split
  · unfold Rig.requestFlush
    split
    · exact h.congr rfl rfl rfl rfl
    · next hnone =>
      have hnone' : p.request? .compositor = none := hnone
      have hissued : ∀ id ≤ p.transport.host.requests.issued,
          p.transport.host.requests.issued + 1 ≠ id := by
        rintro id hle rfl
        exact Nat.not_succ_le_self _ hle
      refine ⟨h.inPlay, fun id hid => ?_, fun part id hid => ?_, fun id hid hflush => ?_,
        fun x hx => ?_, h.once⟩
      · rcases List.mem_append.mp hid with hold | hnew
        · obtain ⟨part, hpart⟩ := h.owned id hold
          cases part with
          | transport => exact ⟨.transport, hpart⟩
          | compositor => cases hnone'.symm.trans hpart
        · exact ⟨.compositor, congrArg some (List.mem_singleton.mp hnew).symm⟩
      · cases part with
        | transport => exact Nat.le_succ_of_le (h.issued .transport id hid)
        | compositor => exact Nat.le_of_eq (Option.some.inj hid).symm
      · exact hissued id (h.issued .transport id hid) (Option.some.inj hflush)
      · obtain ⟨hle, hnot⟩ := h.past x hx
        refine ⟨Nat.le_succ_of_le hle, fun part hid => ?_⟩
        cases part with
        | transport => exact hnot .transport hid
        | compositor => exact hissued x.1 hle (Option.some.inj hid)
  · exact h.congr rfl rfl rfl (Compositor.pendingFlush_flush _)

lemma drifts (h : p.Accounts log) {r : Rig} (hr : p.rig.Drifts r) : (p.setRig r).Accounts log := by
  have hcompositor : r.compositor = { p.compositor with pool := r.pool } := hr.compositor
  exact h.congr rfl rfl hr.requests (congrArg (·.pendingFlush) hcompositor)

lemma works (h : p.Accounts log) {r : Rig} (hr : p.rig.Works r) : (p.setRig r).Accounts log := by
  cases hr with
  | drifts hr => exact h.drifts hr
  | stages hr frame layers => exact (h.drifts hr).stage frame layers

lemma take (h : p.Accounts log) :
    (p.modifyTransport fun t => { t with host := t.host.take.2 }).Accounts log :=
  ⟨h.inPlay, fun _ hid => absurd hid List.not_mem_nil, h.issued, h.apart, h.past, h.once⟩

/-- Each part takes its request back. -/
lemma dispose (h : p.Accounts log) : p.dispose.Accounts log := by
  have htransport : (p.modifyTransport Transport.dispose).Accounts log :=
    h.transport p.transport.spares_dispose p.transport.tidies_dispose
      (Transport.waitsInPlay_of_none p.transport.pending_dispose)
  generalize hq : p.modifyTransport Transport.dispose = q at htransport
  have hdispose : p.dispose = { q.setRig q.rig.dispose with applied := none } := by
    rw [Preview.dispose, hq]
  rw [hdispose]
  cases hclosed : q.compositor.disposed with
  | true =>
    have hsame : q.rig.dispose = q.rig := if_pos hclosed
    rw [hsame]
    exact htransport.congr rfl rfl rfl rfl
  | false =>
    obtain ⟨hnone, hissued, hpending⟩ := q.rig.requests_dispose hclosed
    have hrequest : ∀ part id, request? { q.setRig q.rig.dispose with applied := none } part =
        some id → q.request? part = some id := by
      intro part id hid
      cases part with
      | transport => exact hid
      | compositor => cases hnone.symm.trans hid
    refine ⟨htransport.inPlay, fun id hid => ?_, fun part id hid => ?_, fun id hid hflush => ?_,
      fun x hx => ?_, h.once⟩
    · obtain ⟨hmem, hne⟩ := hpending id hid
      obtain ⟨part, hpart⟩ := htransport.owned id hmem
      cases part with
      | transport => exact ⟨.transport, hpart⟩
      | compositor => exact absurd hpart hne
    · exact hissued.symm ▸ htransport.issued part id (hrequest part id hid)
    · cases hnone.symm.trans hflush
    · obtain ⟨hle, hnot⟩ := htransport.past x hx
      exact ⟨hissued.symm ▸ hle, fun part hpart => hnot part (hrequest part _ hpart)⟩

end Accounts

end Preview

namespace Session

variable {s : Session} {log : List (RequestId × Preview.Part)}

lemma accounts_refresh (h : s.preview.Accounts log) : s.refresh.1.preview.Accounts log := by
  obtain ⟨hworks, htransport⟩ := s.works_refresh
  refine (h.works hworks).congr ?_ ?_ rfl rfl
  · rw [htransport]
    rfl
  · rw [htransport]
    rfl

/-- **A callback** acts on one part at most. -/
lemma accounts_callback (h : s.preview.Accounts log) {id : RequestId}
    (taken : id ∉ s.requests.pending) (timestamp : Float) :
    (s.callback id timestamp).1.preview.Accounts (log ++ s.preview.heeds id) := by
  by_cases htick : s.preview.request? .transport = some id
  · have hflush := h.apart id htick
    have hheeds : s.preview.heeds id = [(id, .transport)] := by simp [Preview.heeds, htick, hflush]
    have hnext := h.tick htick taken timestamp
    rw [hheeds]
    cases hadvanced : (s.preview.transport.callback id timestamp).2 with
    | error f =>
      rw [callback_of_fault hadvanced]
      exact hnext
    | ok n =>
      rw [callback_of_advanced hadvanced]
      refine accounts_refresh (hnext.congr rfl rfl rfl ?_)
      show (s.preview.compositor.callback id).2.pendingFlush = _
      rw [Compositor.callback_of_ne hflush]
  · have hignored := Transport.callback_of_ignored
      (fun hboth : s.preview.transport.state = .playing ∧ _ => htick hboth.2) timestamp
    have htransport : (s.called id timestamp).preview =
        { s.preview with compositor := (s.preview.compositor.callback id).2 } := by
      simp only [called, modify, Preview.modifyTransport, hignored]
    rw [callback_of_advanced (by rw [hignored])]
    refine accounts_refresh ?_
    rw [htransport]
    by_cases hflush : s.preview.request? .compositor = some id
    · have hheeds : s.preview.heeds id = [(id, .compositor)] := by
        simp [Preview.heeds, htick, hflush]
      rw [hheeds]
      exact h.flush hflush taken
    · have hheeds : s.preview.heeds id = [] := by simp [Preview.heeds, htick, hflush]
      rw [hheeds, List.append_nil, Compositor.callback_of_ne hflush]
      exact h

lemma accounts_command (h : s.preview.Accounts log) {c : Transport.Command}
    (taken : c.IsTaken s.preview.transport) :
    (s.preview.modifyTransport fun t => t.after c).Accounts (log ++ (Use.command c).heeded s) := by
  obtain ⟨htidies, hinPlay⟩ := Transport.tidies_after h.inPlay taken
  have hnext := h.transport (s.preview.transport.spares_after c) htidies hinPlay
  cases c with
  | callback id timestamp =>
    by_cases htick : s.preview.request? .transport = some id
    · have hheeded : (s.preview.heeds id).filter (·.2 = .transport) = [(id, .transport)] := by
        simp [Preview.heeds, htick, h.apart id htick]
      dsimp only [Use.heeded]
      rw [hheeded]
      exact h.tick htick taken timestamp
    · have hheeded : (s.preview.heeds id).filter (·.2 = .transport) = [] := by
        by_cases hflush : s.preview.request? .compositor = some id <;>
          simp [Preview.heeds, htick, hflush]
      dsimp only [Use.heeded]
      rwa [hheeded, List.append_nil]
  | _ =>
    dsimp only [Use.heeded]
    rwa [List.append_nil]

lemma accounts_timeline (h : s.preview.Accounts log) (snapshot : Snapshot) :
    ((s.preview.setTimeline snapshot).toOption.getD s.preview).Accounts log := by
  rcases setTimeline_cases s.preview snapshot with heq | heq
  · rwa [heq]
  · rw [heq]
    have htransport := h.transport (s.preview.transport.spares_setTimeline _ _)
      (s.preview.transport.tidies_setTimeline _ _)
      (Transport.waitsInPlay_setTimeline h.inPlay snapshot.rate snapshot.duration)
    exact htransport.congr rfl rfl rfl rfl

/-- **One use.** -/
lemma accounts_use (h : s.preview.Accounts log) (u : Use) (taken : u.IsTaken s) :
    (u.apply s).preview.Accounts (log ++ u.heeded s) := by
  cases u with
  | command c => exact accounts_command h taken
  | callback id timestamp => exact accounts_callback h taken timestamp
  | setTimeline snapshot => exact (accounts_timeline h snapshot).silent
  | setAssets | setViewport | movePlayhead | pool => exact h.silent.congr rfl rfl rfl rfl
  | give cues => exact (h.drifts (CueTask.drifts_startAll _ cues)).silent
  | finishCues => exact (h.drifts ((Orderly.idles _).runUntil _).rig).silent
  | settle => exact (h.drifts (Orderly.idles _).settle.rig).silent
  | sleepUntil due => exact (h.drifts ((Orderly.idles _).sleepUntil due).rig).silent
  | take => exact h.take.silent
  | refresh => exact (accounts_refresh h).silent
  | dispose => exact h.dispose.silent

/-- **Any number of uses.** -/
lemma Serves.accounts (h : Serves s log) : s.preview.Accounts log := by
  induction h with
  | new config backend snapshot assets =>
    refine ⟨Transport.waitsInPlay_of_none rfl, fun _ hid => absurd hid List.not_mem_nil, ?_, ?_,
      fun _ hx => absurd hx List.not_mem_nil, List.nodup_nil⟩
    · intro part id hid
      cases part <;> cases hid
    · intro id hid
      cases hid
  | use _ u taken ih => exact accounts_use ih u taken

/-- **Requests at the display** are not left behind and not shared. Whatever a preview and its host
go through, each pending request is the one that the transport or the compositor waits for, and
never that of both. Who does not wait for a request takes no notice of the callback. No request is
acted on twice in all, be it by the same part or by the other, and one that was acted on is waited
for no more. So when playback does not run and nothing is left to be written, nothing is pending,
and a player has nothing left to do. -/
theorem requests_owned_once (h : Serves s log) :
    (∀ id ∈ s.requests.pending, ∃ part, s.preview.request? part = some id) ∧
    (∀ id part part', s.preview.request? part = some id → s.preview.request? part' = some id →
      part = part') ∧
    (∀ id timestamp, (s.preview.request? .transport ≠ some id →
        (s.preview.transport.callback id timestamp).1 = s.preview.transport) ∧
      (s.preview.request? .compositor ≠ some id →
        (s.preview.compositor.callback id).2 = s.preview.compositor)) ∧
    (log.map (·.1)).Nodup ∧
    (∀ x ∈ log, ∀ part, s.preview.request? part ≠ some x.1) ∧
    (s.preview.transport.state ≠ .playing → s.preview.compositor.pendingFlush = none →
      s.requests.pending = [] ∧ ∀ stats, Player.isBusy ⟨s, stats⟩ = false) := by
  have haccounts := h.accounts
  refine ⟨haccounts.owned, fun id part part' hid hid' => ?_, fun id timestamp => ⟨?_, ?_⟩,
    haccounts.once, fun x hx => (haccounts.past x hx).2, fun hstate hflush => ?_⟩
  · cases part <;> cases part'
    · rfl
    · exact absurd hid' (haccounts.apart id hid)
    · exact absurd hid (haccounts.apart id hid')
    · rfl
  · intro hne
    rw [Transport.callback_of_ignored fun hboth => hne hboth.2]
  · intro hne
    rw [Compositor.callback_of_ne hne]
  · have hpending : s.requests.pending = [] := by
      refine List.eq_nil_iff_forall_not_mem.mpr fun id hid => ?_
      obtain ⟨part, hpart⟩ := haccounts.owned id hid
      cases part with
      | transport => cases (haccounts.inPlay.pending_eq_none hstate).symm.trans hpart
      | compositor => cases hflush.symm.trans hpart
    exact ⟨hpending, fun stats => by
      simp [Player.isBusy, Transport.isPlaying, hstate, hpending]⟩

/-- The first shot is shown, playback is started, and the host takes the requests of both. -/
def shotsPlaying : Session :=
  (shotsShown.modify fun p => { p with transport := p.transport.play }).modify fun p =>
    p.modifyTransport fun t => { t with host := t.host.take.2 }

/-- The host calls back with the request of the transport. -/
def shotsTicked : Session := (shotsPlaying.callback 2 0.0).1

/-- The host calls back with the request of the compositor, and then with that of the transport
again. -/
def shotsRepeated : Session := ((shotsTicked.callback 1 0.0).1.callback 2 0.0).1

lemma serves_shotsRepeated : Serves shotsRepeated [(2, .transport), (1, .compositor)] := by
  have hshown : Serves shotsShown [] := .use (.new _ _ _ _) .refresh trivial
  have hplaying : Serves shotsPlaying [] :=
    .use (.use hshown (.command .play) trivial) .take trivial
  have hticked : Serves shotsTicked ([] ++ shotsPlaying.preview.heeds 2) :=
    .use hplaying (.callback 2 0.0) List.not_mem_nil
  have hpending : 1 ∉ shotsTicked.requests.pending ∧
      2 ∉ (shotsTicked.callback 1 0.0).1.requests.pending := by
    decide +kernel
  have hflushed : Serves (shotsTicked.callback 1 0.0).1 ([] ++ shotsPlaying.preview.heeds 2 ++
      shotsTicked.preview.heeds 1) :=
    .use hticked (.callback 1 0.0) hpending.1
  have hrepeated := hflushed.use (.callback 2 0.0) hpending.2
  have hlog : [] ++ shotsPlaying.preview.heeds 2 ++ shotsTicked.preview.heeds 1 ++
      (shotsTicked.callback 1 0.0).1.preview.heeds 2 = [(2, .transport), (1, .compositor)] := by
    decide +kernel
  dsimp only [Use.heeded] at hrepeated
  rwa [hlog] at hrepeated

/-- The transport asks for another callback while the host has the requests. Once playback is paused
nothing is pending. -/
theorem requests_owned_once_shots :
    Serves shotsRepeated [(2, .transport), (1, .compositor)] ∧
      shotsRepeated.requests.pending = [3] ∧
      (∃ part, shotsRepeated.preview.request? part = some 3) ∧
      ((Use.command .pause).apply shotsRepeated).requests.pending = [] := by
  have hpending : shotsRepeated.requests.pending = [3] := by decide +kernel
  obtain ⟨howned, -⟩ := requests_owned_once serves_shotsRepeated
  have hpaused := serves_shotsRepeated.use (.command .pause) trivial
  obtain ⟨-, -, -, -, -, hrest⟩ := requests_owned_once hpaused
  exact ⟨serves_shotsRepeated, hpending, howned 3 (by rw [hpending]; exact List.mem_cons_self),
    (hrest (by decide +kernel) (by decide +kernel)).1⟩

end Session

end Montage
