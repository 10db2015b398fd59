import Mathlib.Data.List.Chain
import Montage.Proofs.Playback.Runs

/-!
What listeners hear of a transport.

The playhead and the state of a transport change with an event only, and a state is told of when it
is another than before. Each event is told once to everyone who listens to events of its kind; so
whoever has listened from some moment on can tell the playhead and the state of the transport from
what they were then.
-/

namespace Montage

namespace TransportEvent

def isFrame : TransportEvent → Bool
  | frame _ => true
  | state _ => false

def isState : TransportEvent → Bool
  | frame _ => false
  | state _ => true

def state? : TransportEvent → Option TransportState
  | frame _ => none
  | state s => some s

/-- What the playhead and the state are after the event. -/
def follow (seen : Frame × TransportState) : TransportEvent → Frame × TransportState
  | frame f => (f, seen.2)
  | state s => (seen.1, s)

lemma getLast?_states (seen : Frame × TransportState) (es : List TransportEvent) :
    (seen.2 :: es.filterMap state?).getLast? = some (es.foldl follow seen).2 := by
  induction es generalizing seen with
  | nil => rfl
  | cons e es ih =>
    cases e with
    | frame f => exact ih (follow seen (.frame f))
    | state s => exact (List.getLast?_cons_cons).trans (ih (follow seen (.state s)))

end TransportEvent

namespace Transport

open TransportEvent

/-- What a listener has heard of all that has been told. -/
def heardBy (id : ListenerId) (told : List (ListenerId × TransportEvent)) : List TransportEvent :=
  (told.filter (·.1 = id)).map (·.2)

lemma heardBy_append (id : ListenerId) (told told' : List (ListenerId × TransportEvent)) :
    heardBy id (told ++ told') = heardBy id told ++ heardBy id told' := by
  simp [heardBy]

section

variable {τ : Type} {t t₁ t' : Transport τ} {es es' : List TransportEvent}

/-- Those who are told of an event, in the order in which they are told. -/
def audience (t : Transport τ) : TransportEvent → List ListenerId
  | .frame _ => t.onFrame ++ t.subscribers
  | .state _ => t.onState ++ t.subscribers

/-- All events, each told to its audience. -/
def telling (t : Transport τ) (es : List TransportEvent) : List (ListenerId × TransportEvent) :=
  es.flatMap fun e => (t.audience e).map fun id => (id, e)

@[simp] lemma telling_nil (t : Transport τ) : t.telling [] = [] := rfl

lemma telling_singleton (t : Transport τ) (e : TransportEvent) :
    t.telling [e] = (t.audience e).map fun id => (id, e) := List.append_nil _

lemma telling_append (t : Transport τ) (es es' : List TransportEvent) :
    t.telling (es ++ es') = t.telling es ++ t.telling es' := List.flatMap_append

/-- The listener is told once of each event that it is meant to hear of, and of no other. -/
def Attends (t : Transport τ) (id : ListenerId) (p : TransportEvent → Bool) : Prop :=
  ∀ e, (t.audience e).count id = if p e then 1 else 0

lemma heardBy_map (id : ListenerId) (ids : List ListenerId) (e : TransportEvent) :
    heardBy id (ids.map fun other => (other, e)) = List.replicate (ids.count id) e := by
  induction ids with
  | nil => rfl
  | cons other ids ih =>
    by_cases h : other = id
    · rw [List.map_cons, heardBy, List.filter_cons_of_pos (by simpa using h), List.map_cons,
        ← heardBy, ih, h, List.count_cons_self, List.replicate_succ]
    · rw [List.map_cons, heardBy, List.filter_cons_of_neg (by simpa using h), ← heardBy, ih,
        List.count_cons_of_ne h]

lemma Attends.heardBy_telling {id : ListenerId} {p : TransportEvent → Bool} (h : t.Attends id p)
    (es : List TransportEvent) : heardBy id (t.telling es) = es.filter p := by
  induction es with
  | nil => rfl
  | cons e es ih =>
    rw [telling, List.flatMap_cons, heardBy_append, heardBy_map, h e, ← telling, ih]
    cases hp : p e with
    | true => rw [List.filter_cons_of_pos hp]; rfl
    | false => rw [List.filter_cons_of_neg (by simp [hp])]; rfl

/-- The events lead from the playhead and the state of the one to those of the other. -/
structure Leads (es : List TransportEvent) (t t' : Transport τ) : Prop where
  follows : es.foldl follow (t.playhead, t.state) = (t'.playhead, t'.state)
  changes : (t.state :: es.filterMap state?).IsChain (· ≠ ·)

lemma Leads.of_eq (hplayhead : t'.playhead = t.playhead) (hstate : t'.state = t.state) :
    Leads [] t t' where
  follows := by rw [hplayhead, hstate]; rfl
  changes := .singleton _

lemma Leads.trans (h : Leads es t t₁) (k : Leads es' t₁ t') : Leads (es ++ es') t t' where
  follows := by rw [List.foldl_append, h.follows, k.follows]
  changes := by
    obtain ⟨hnext, hchain⟩ := List.isChain_cons.mp k.changes
    rw [List.filterMap_append, ← List.cons_append]
    -- Where the two meet, the state in between is the last one of the first.
    refine h.changes.append hchain fun last hlast next hmem => ?_
    rw [getLast?_states (t.playhead, t.state), h.follows] at hlast
    obtain rfl : t₁.state = last := Option.some.inj hlast
    exact hnext next hmem

/-- Playback is logged: who listens stays the same, and all that has happened has been told. -/
structure Logs (es : List TransportEvent) (t t' : Transport τ) : Prop extends Leads es t t' where
  told : t'.told = t.told ++ t.telling es
  onFrame : t'.onFrame = t.onFrame
  onState : t'.onState = t.onState
  subscribers : t'.subscribers = t.subscribers

namespace Logs

lemma audience_eq (h : Logs es t t') : t'.audience = t.audience := by
  funext e
  cases e with
  | frame f => rw [audience, audience, h.onFrame, h.subscribers]
  | state s => rw [audience, audience, h.onState, h.subscribers]

lemma telling_eq (h : Logs es t t') : t'.telling = t.telling := by
  funext es'
  rw [telling, telling, h.audience_eq]

lemma trans (h : Logs es t t₁) (k : Logs es' t₁ t') : Logs (es ++ es') t t' where
  toLeads := h.toLeads.trans k.toLeads
  told := by
    rw [k.told, h.told, h.telling_eq, telling_append, List.append_assoc]
  onFrame := k.onFrame.trans h.onFrame
  onState := k.onState.trans h.onState
  subscribers := k.subscribers.trans h.subscribers

lemma attends {id : ListenerId} {p : TransportEvent → Bool} (h : Logs es t t')
    (ha : t.Attends id p) : t'.Attends id p := by
  intro e
  rw [h.audience_eq]
  exact ha e

lemma of_eq (hplayhead : t'.playhead = t.playhead) (hstate : t'.state = t.state)
    (htold : t'.told = t.told) (honFrame : t'.onFrame = t.onFrame)
    (honState : t'.onState = t.onState) (hsubscribers : t'.subscribers = t.subscribers) :
    Logs [] t t' where
  toLeads := .of_eq hplayhead hstate
  told := by rw [htold, telling_nil, List.append_nil]
  onFrame := honFrame
  onState := honState
  subscribers := hsubscribers

end Logs

/-- **Playback is logged,** whatever it does. -/
lemma Acts.logs (h : t.Acts t') : ∃ es, Logs es t t' := by
  induction h with
  | moveTo t frame =>
    refine ⟨[.frame frame], ⟨rfl, .singleton _⟩, ?_, rfl, rfl, rfl⟩
    rw [telling_singleton]
    rfl
  | enter t state =>
    by_cases h : t.state = state
    · rw [enter_of_eq h]
      exact ⟨[], .of_eq rfl rfl rfl rfl rfl rfl⟩
    · rw [enter_of_ne h]
      refine ⟨[.state state], ⟨rfl, .cons_cons h (.singleton _)⟩, ?_, rfl, rfl, rfl⟩
      rw [telling_singleton]
      rfl
  | cancelTick t =>
    cases hid : t.pending with
    | none =>
      rw [cancelTick_of_none hid]
      exact ⟨[], .of_eq rfl rfl rfl rfl rfl rfl⟩
    | some id =>
      rw [cancelTick_of_some hid]
      exact ⟨[], .of_eq rfl rfl rfl rfl rfl rfl⟩
  | trans _ _ ih ih' =>
    obtain ⟨es, h⟩ := ih
    obtain ⟨es', k⟩ := ih'
    exact ⟨es ++ es', h.trans k⟩
  | _ => exact ⟨[], .of_eq rfl rfl rfl rfl rfl rfl⟩

/-- What has been told is what has happened, to each of the listeners what it is meant to hear. -/
structure Informs (ids : List ListenerId) (es : List TransportEvent)
    (told : List (ListenerId × TransportEvent)) (t t' : Transport τ) : Prop
    extends Leads es t t' where
  told_eq : t'.told = t.told ++ told
  heard : ∀ id ∈ ids, ∀ p, t.Attends id p → heardBy id told = es.filter p
  attends : ∀ id ∈ ids, ∀ p, t.Attends id p → t'.Attends id p

variable {ids : List ListenerId} {told told' : List (ListenerId × TransportEvent)}

lemma Logs.informs (h : Logs es t t') : Informs ids es (t.telling es) t t' where
  toLeads := h.toLeads
  told_eq := h.told
  heard _ _ _ ha := ha.heardBy_telling es
  attends _ _ _ ha := h.attends ha

namespace Informs

lemma trans (h : Informs ids es told t t₁) (k : Informs ids es' told' t₁ t') :
    Informs ids (es ++ es') (told ++ told') t t' where
  toLeads := h.toLeads.trans k.toLeads
  told_eq := by rw [k.told_eq, h.told_eq, List.append_assoc]
  heard id hid p ha := by
    rw [heardBy_append, List.filter_append, h.heard id hid p ha,
      k.heard id hid p (h.attends id hid p ha)]
  attends id hid p ha := k.attends id hid p (h.attends id hid p ha)

lemma of_count (hplayhead : t'.playhead = t.playhead) (hstate : t'.state = t.state)
    (htold : t'.told = t.told)
    (hcount : ∀ id ∈ ids, ∀ e, (t'.audience e).count id = (t.audience e).count id) :
    Informs ids [] [] t t' where
  toLeads := .of_eq hplayhead hstate
  told_eq := by rw [htold, List.append_nil]
  heard _ _ _ _ := rfl
  attends id hid p ha e := (hcount id hid e).trans (ha e)

end Informs

/-! Listeners come and go -/

lemma count_audience_listenFrames {id other : ListenerId} (h : other ≠ id) (t : Transport τ)
    (e : TransportEvent) :
    ((t.listenFrames other).audience e).count id = (t.audience e).count id := by
  cases e <;> simp [audience, listenFrames, List.count_cons_of_ne h]

lemma count_audience_listenState {id other : ListenerId} (h : other ≠ id) (t : Transport τ)
    (e : TransportEvent) :
    ((t.listenState other).audience e).count id = (t.audience e).count id := by
  cases e <;> simp [audience, listenState, List.count_cons_of_ne h]

lemma count_audience_subscribe {id other : ListenerId} (h : other ≠ id) (t : Transport τ)
    (e : TransportEvent) : ((t.subscribe other).audience e).count id = (t.audience e).count id := by
  cases e <;> simp [audience, subscribe, List.count_cons_of_ne h]

lemma count_audience_unsubscribe {id other : ListenerId} (h : other ≠ id) (t : Transport τ)
    (e : TransportEvent) :
    ((t.unsubscribe other).audience e).count id = (t.audience e).count id := by
  have hfilter : (t.subscribers.filter (· != other)).count id = t.subscribers.count id :=
    List.count_filter (by simpa using h.symm)
  cases e <;> simp [audience, unsubscribe, hfilter]

end

/-- The listeners listen on, and what they have been told is not collected. -/
def Command.LetsListen (ids : List ListenerId) : Command → Prop
  | .dispose | .takeTold => False
  | .listenFrames id | .listenState id | .subscribe id | .unsubscribe id => id ∉ ids
  | _ => True

def Happening.LetsListen (ids : List ListenerId) : Happening → Prop
  | .told c => c.LetsListen ids
  | _ => True

section

variable {t t' : Transport Float} {h : Happening} {hs : List Happening} {ids : List ListenerId}

lemma informs_of_obey {c : Command} (ok : t.obey c = .ok t') (hlisten : c.LetsListen ids) :
    ∃ es told, Informs ids es told t t' := by
  have hne {other id : ListenerId} (hother : other ∉ ids) (hid : id ∈ ids) : other ≠ id :=
    fun heq => hother (heq ▸ hid)
  cases c with
  | listenFrames other =>
    cases ok
    exact ⟨[], [], .of_count rfl rfl rfl fun id hid =>
      count_audience_listenFrames (hne hlisten hid) t⟩
  | listenState other =>
    cases ok
    exact ⟨[], [], .of_count rfl rfl rfl fun id hid =>
      count_audience_listenState (hne hlisten hid) t⟩
  | subscribe other =>
    cases ok
    exact ⟨[], [], .of_count rfl rfl rfl fun id hid =>
      count_audience_subscribe (hne hlisten hid) t⟩
  | unsubscribe other =>
    cases ok
    exact ⟨[], [], .of_count rfl rfl rfl fun id hid =>
      count_audience_unsubscribe (hne hlisten hid) t⟩
  | dispose => exact hlisten.elim
  | takeTold => exact hlisten.elim
  | _ =>
    obtain ⟨es, hlogs⟩ := (acts_obey ok trivial).logs
    exact ⟨es, _, hlogs.informs⟩

lemma informs_of_meet (ok : t.meet h = .ok t') (hlisten : h.LetsListen ids) :
    ∃ es told, Informs ids es told t t' := by
  cases h with
  | told c => exact informs_of_obey ok hlisten
  | _ =>
    cases ok
    exact ⟨[], [], .of_count rfl rfl rfl fun _ _ _ => rfl⟩

/-- **Whatever happens, listeners are informed.** -/
lemma informs_of_meets (ok : t.meets hs = .ok t') (hlisten : ∀ h ∈ hs, h.LetsListen ids) :
    ∃ es told, Informs ids es told t t' := by
  induction hs generalizing t with
  | nil =>
    cases ok
    exact ⟨[], [], .of_count rfl rfl rfl fun _ _ _ => rfl⟩
  | cons h hs ih =>
    obtain ⟨hh, hlisten⟩ := List.forall_mem_cons.mp hlisten
    obtain ⟨t₁, hmeet, hmeets⟩ := meets_cons.mp ok
    obtain ⟨es, told, hinforms⟩ := informs_of_meet hmeet hh
    obtain ⟨es', told', hinforms'⟩ := ih hmeets hlisten
    exact ⟨es ++ es', told ++ told', hinforms.trans hinforms'⟩

end

/-- The transport does not know the listener. -/
def IsNew {τ : Type} (t : Transport τ) (id : ListenerId) : Prop :=
  id ∉ t.onFrame ∧ id ∉ t.onState ∧ id ∉ t.subscribers

/-- Three begin to listen: a callback to frames, another to states, and a subscriber. -/
def listen {τ : Type} (t : Transport τ) (f s i : ListenerId) : Transport τ :=
  ((t.listenFrames f).listenState s).subscribe i

section

variable {τ : Type} {t : Transport τ} {f s i : ListenerId}

lemma attends_listen_frames (hf : t.IsNew f) (hs : s ≠ f) (hi : i ≠ f) :
    (t.listen f s i).Attends f isFrame := by
  obtain ⟨hframes, hstates, hsubscribers⟩ := hf
  intro e
  cases e <;> simp [audience, listen, listenFrames, listenState, subscribe, isFrame,
    List.count_eq_zero_of_not_mem, hframes, hstates, hsubscribers, hs, hi]

lemma attends_listen_states (hs : t.IsNew s) (hf : f ≠ s) (hi : i ≠ s) :
    (t.listen f s i).Attends s isState := by
  obtain ⟨hframes, hstates, hsubscribers⟩ := hs
  intro e
  cases e <;> simp [audience, listen, listenFrames, listenState, subscribe, isState,
    List.count_eq_zero_of_not_mem, hframes, hstates, hsubscribers, hf, hi]

lemma attends_listen_all (hi : t.IsNew i) (hf : f ≠ i) (hs : s ≠ i) :
    (t.listen f s i).Attends i fun _ => true := by
  obtain ⟨hframes, hstates, hsubscribers⟩ := hi
  intro e
  cases e <;> simp [audience, listen, listenFrames, listenState, subscribe,
    List.count_eq_zero_of_not_mem, hframes, hstates, hsubscribers, hf, hs]

end

/-- **A listener can tell the playhead and the state** from what they were when it began to listen
and from what it has heard. Each state that it hears of is another than the one before. A callback
to frames hears the same frames as a subscriber does that begins with it, and a callback to states
the same states, in the same order. -/
theorem follow_heard {config : TransportConfig Float} (rates : config.minRate ≤ config.maxRate)
    (host : Host) (frameRate : FrameRate) {duration : Frame} (bounded : duration < Frame.last)
    {before : List Happening} (hbefore : ∀ h ∈ before, h.Fits) {t : Transport Float}
    (reached : (new config host frameRate duration).meets before = .ok t) {f s i : ListenerId}
    (fresh : ∀ id ∈ [f, s, i], t.IsNew id) (distinct : [f, s, i].Nodup) {hs : List Happening}
    (fits : ∀ h ∈ hs, h.Fits) (listening : ∀ h ∈ hs, h.LetsListen [f, s, i]) :
    ∃ t' told, (t.listen f s i).meets hs = .ok t' ∧ t'.told = t.told ++ told ∧
      (heardBy i told).foldl follow (t.playhead, t.state) = (t'.playhead, t'.state) ∧
      (t.state :: (heardBy i told).filterMap state?).IsChain (· ≠ ·) ∧
      heardBy f told = (heardBy i told).filter isFrame ∧
      heardBy s told = (heardBy i told).filter isState := by
  obtain ⟨_, hmeets, hsound, -⟩ := (Sound.new rates host frameRate bounded).meets hbefore
  cases reached.symm.trans hmeets
  have hlisten : (t.listen f s i).Sound :=
    ⟨⟨hsound.playing, hsound.within⟩, hsound.rates, hsound.bounded, hsound.issued⟩
  obtain ⟨t', hmeets', -, -⟩ := hlisten.meets fits
  obtain ⟨es, told, hinforms⟩ := informs_of_meets hmeets' listening
  obtain ⟨⟨hfs, hfi⟩, hsi⟩ : (f ≠ s ∧ f ≠ i) ∧ s ≠ i := by simpa using distinct
  have hall : heardBy i told = es := by
    rw [hinforms.heard i (by simp) _ (attends_listen_all (fresh i (by simp)) hfi hsi)]
    exact List.filter_eq_self.mpr fun _ _ => rfl
  have hframes := hinforms.heard f (by simp) _
    (attends_listen_frames (fresh f (by simp)) hfs.symm hfi.symm)
  have hstates := hinforms.heard s (by simp) _
    (attends_listen_states (fresh s (by simp)) hfs hsi.symm)
  refine ⟨t', told, hmeets', hinforms.told_eq, ?_⟩
  rw [hall]
  exact ⟨hinforms.follows, hinforms.changes, hframes, hstates⟩

/-- A transport that has been moved to the tenth frame. -/
def sought : Transport Float := (new .standard {} .fps30 60).seek 10

/-- It plays for two frames and pauses. -/
def briefly : List Happening :=
  [.told .play, .taken, .told (.callback 1 0.0), .told (.callback 2 100.0), .told .pause]

/-- The subscriber hears of the two frames and of the states before and after them. -/
theorem follow_heard_briefly :
    ∃ t' told, (sought.listen 1 2 3).meets briefly = .ok t' ∧
      heardBy 3 told = [.state .playing, .frame 11, .frame 12, .state .paused] ∧
      (heardBy 3 told).foldl follow (10, .stopped) = (t'.playhead, t'.state) ∧
      heardBy 1 told = [.frame 11, .frame 12] ∧
      heardBy 2 told = [.state .playing, .state .paused] := by
  have rates : (TransportConfig.standard (τ := Float)).minRate ≤
      (TransportConfig.standard (τ := Float)).maxRate := by decide
  have hbefore : ∀ h ∈ [Happening.told (.seek 10)], h.Fits := by
    simp [Happening.Fits, Command.Fits]
  have reached : (new .standard {} .fps30 60).meets [.told (.seek 10)] = .ok sought := rfl
  have fits : ∀ h ∈ briefly, h.Fits := by simp [briefly, Happening.Fits, Command.Fits]
  have listening : ∀ h ∈ briefly, h.LetsListen [1, 2, 3] := by
    simp [briefly, Happening.LetsListen, Command.LetsListen]
  have fresh : ∀ id ∈ [1, 2, 3], sought.IsNew id := fun _ _ =>
    ⟨List.not_mem_nil, List.not_mem_nil, List.not_mem_nil⟩
  obtain ⟨t', told, hmeets, htold, hfollows, -, hframes, hstates⟩ :=
    follow_heard rates {} .fps30 (by decide) hbefore reached fresh (by decide) fits listening
  have hall : heardBy 3 told = [.state .playing, .frame 11, .frame 12, .state .paused] := by
    have heval : ((sought.listen 1 2 3).meets briefly).map (fun t => heardBy 3 t.told) =
        .ok [.state .playing, .frame 11, .frame 12, .state .paused] := by decide +kernel
    rw [hmeets] at heval
    have hheard : heardBy 3 t'.told =
        [.state .playing, .frame 11, .frame 12, .state .paused] := Except.ok.inj heval
    rwa [htold] at hheard
  refine ⟨t', told, hmeets, hall, hfollows, ?_, ?_⟩
  · rw [hframes, hall]
    rfl
  · rw [hstates, hall]
    rfl

end Transport

end Montage
