import BatchClassifier.Proofs.Pool.Accounts
import BatchClassifier.Proofs.Run.Execution

namespace BatchClassifier

variable {σ : Type}

namespace Feed

def admitted (verdict : Item → Verdict) : List Item → List Item
  | [] => []
  | item :: rest =>
    match verdict item with
    | .accept => item :: admitted verdict rest
    | .reject => admitted verdict rest
    | .crash => []

@[simp] theorem verdict_mk (filter : Filter) (f : Feed) (pending : List Item) (queued : Nat)
    (cursor : Cursor) :
    ({ mode := f.mode, pending, queued, cursor } : Feed).verdict filter = f.verdict filter := rfl

theorem verdict_of_mode {f first : Feed} (h : f.mode = first.mode) (filter : Filter) :
    f.verdict filter = first.verdict filter := by
  funext item
  rw [verdict, verdict, h]

def ahead (filter : Filter) (f : Feed) : List Item :=
  if f.isOver then [] else admitted (f.verdict filter) f.pending

theorem admitted_eq_filter {verdict : Item → Verdict} (h : ∀ item, verdict item ≠ .crash)
    (items : List Item) : admitted verdict items = items.filter fun item => verdict item = .accept := by
  induction items with
  | nil => rfl
  | cons item rest ih =>
      cases hv : verdict item with
      | accept | reject => simp [admitted, hv, ih]
      | crash => exact absurd hv (h item)

end Feed

structure Feed.Accounts (filter : Filter) (f : Feed) (floor : Floor) (first : Feed) : Prop where
  mode : f.mode = first.mode
  pending : f.pending <:+ first.pending
  queued : floor.queuedItems ++ f.ahead filter = first.ahead filter
  count : f.queued = floor.queuedItems.length
  lost : f.cursor = .lost → ∃ item ∈ first.pending, first.verdict filter item = .crash

theorem Feed.accounts_start (filter : Filter) (s : Source) :
    (Feed.start s).Accounts filter {} (.start s) where
  mode := rfl
  pending := List.suffix_rfl
  queued := rfl
  count := rfl
  lost h := by cases h

theorem Feed.Accounts.of_queuedItems {filter : Filter} {f first : Feed} {floor next : Floor}
    (ha : f.Accounts filter floor first) (he : next.queuedItems = floor.queuedItems) :
    f.Accounts filter next first :=
  ⟨ha.mode, ha.pending, he ▸ ha.queued, he ▸ ha.count, ha.lost⟩

theorem Feed.Accounts.queuedItems_of_isOver {filter : Filter} {f first : Feed} {floor : Floor}
    (ha : f.Accounts filter floor first) (ho : f.isOver = true) : floor.queuedItems = first.ahead filter := by
  have hq := ha.queued
  rw [ahead, if_pos ho, List.append_nil] at hq
  exact hq

theorem Feed.Moves.accounts {filter : Filter} {f g first : Feed} {floor next : Floor}
    (hm : f.Moves filter floor g next) (ha : f.Accounts filter floor first) : g.Accounts filter next first := by
  obtain ⟨hmode, hpending, hqueued, hcount, hlost⟩ := ha
  have hverdict := verdict_of_mode hmode filter
  rw [Floor.queuedItems_eq] at hqueued hcount
  cases hm with
  | finish hc hp =>
      refine ⟨hmode, hpending, ?_, ?_, fun h => by cases h⟩
      · simpa [Floor.queuedItems_eq, ahead, isOver, hc, hp, admitted] using hqueued
      · simpa [Floor.queuedItems_eq] using hcount
  | queue hc hp hv =>
      refine ⟨hmode, (hp ▸ List.suffix_cons _ _ : _ <:+ f.pending).trans hpending, ?_, ?_, hlost⟩
      · simpa [Floor.queuedItems_eq, ahead, isOver, hc, hp, admitted, hv] using hqueued
      · simpa [Floor.queuedItems_eq] using hcount
  | skip hc hp hv =>
      refine ⟨hmode, (hp ▸ List.suffix_cons _ _ : _ <:+ f.pending).trans hpending, ?_, hcount, hlost⟩
      simpa [Floor.queuedItems_eq, ahead, isOver, hc, hp, admitted, hv] using hqueued
  | crash hc hp hv =>
      refine ⟨hmode, hpending, ?_, ?_, fun _ => ⟨_, hpending.subset (hp ▸ List.mem_cons_self), ?_⟩⟩
      · simpa [Floor.queuedItems_eq, ahead, isOver, hc, hp, admitted, hv] using hqueued
      · simpa [Floor.queuedItems_eq] using hcount
      · rw [← hverdict, hv]

structure Sink.Reliable (sink : Sink σ) : Prop where
  emit : ∀ state text, (sink.emit state text).1 = .done
  flush : ∀ state, (sink.flush state).1 = .done

def Sink.after (sink : Sink σ) (state : σ) (texts : List String) : σ :=
  texts.foldl (fun s text => (sink.emit s text).2) state

namespace Drain

def Cursor.held : Cursor → List String
  | .holding text => [text]
  | _ => []

def Healthy (d : Drain σ) : Prop := d.fault = none ∧ ∀ crash, d.cursor ≠ .lost crash

structure Accounts (sink : Sink σ) (d : Drain σ) (f : Floor) (first : σ) : Prop where
  count : d.emitted = f.emittedTexts.length
  received : d.Healthy → f.receivedTexts = f.emittedTexts ++ d.cursor.held
  state : d.Healthy → d.isOver = false → d.state = sink.after first f.emittedTexts
  flushed : d.Healthy → d.cursor = .finished →
    d.state = (sink.flush (sink.after first f.emittedTexts)).2

theorem accounts_start (sink : Sink σ) (first : σ) : Accounts sink { state := first } {} first where
  count := rfl
  received _ := rfl
  state _ _ := rfl
  flushed _ h := by cases h

theorem Accounts.of_texts {sink : Sink σ} {d : Drain σ} {f g : Floor} {first : σ} (ha : d.Accounts sink f first)
    (hr : g.receivedTexts = f.receivedTexts) (he : g.emittedTexts = f.emittedTexts) :
    d.Accounts sink g first :=
  ⟨he ▸ ha.count, hr ▸ he ▸ ha.received, he ▸ ha.state, he ▸ ha.flushed⟩

theorem Moves.healthy {sink : Sink σ} {d e : Drain σ} {f g : Floor} (hm : d.Moves sink f e g)
    (hs : sink.Reliable) (hd : d.Healthy) : e.Healthy := by
  obtain ⟨hf, hl⟩ := hd
  cases hm with
  | receive | settle | emit | flush => exact ⟨hf, by simp⟩
  | discard _ _ hd | leave _ _ _ hd => rw [hf] at hd; cases hd
  | @emitFail text _ _ _ he | @emitCrash text _ _ _ he =>
      have hd := hs.emit d.state text
      rw [he] at hd
      cases hd
  | flushFail _ he | flushCrash _ he =>
      have hd := hs.flush d.state
      rw [he] at hd
      cases hd

theorem accounts_of_not_healthy {sink : Sink σ} {d : Drain σ} {f : Floor} {first : σ} (hn : ¬ d.Healthy)
    (hc : d.emitted = f.emittedTexts.length) : d.Accounts sink f first :=
  ⟨hc, fun h => absurd h hn, fun h => absurd h hn, fun h => absurd h hn⟩

theorem after_concat (sink : Sink σ) (state : σ) (texts : List String) (text : String) :
    sink.after state (texts ++ [text]) = (sink.emit (sink.after state texts) text).2 := by
  simp [Sink.after]

theorem Moves.accounts {sink : Sink σ} {d e : Drain σ} {f g : Floor} {first : σ} (hm : d.Moves sink f e g)
    (ha : d.Accounts sink f first) : e.Accounts sink g first := by
  obtain ⟨hcount, hreceived, hstate, hflushed⟩ := ha
  rw [Floor.emittedTexts_eq] at hcount hreceived hstate hflushed
  cases hm with
  | receive hc hq hf =>
      have hd : d.Healthy := ⟨hf, by simp [hc]⟩
      refine ⟨?_, fun _ => ?_, fun _ _ => ?_, fun _ h => by cases h⟩
      · simpa [Floor.emittedTexts_eq] using hcount
      · have hr := hreceived hd
        simp only [Floor.receivedTexts, hc, Cursor.held, List.append_nil] at hr
        simp [Floor.receivedTexts, Floor.emittedTexts_eq, Cursor.held, hr]
      · simpa [Floor.emittedTexts_eq] using hstate hd (by simp [isOver, hc])
  | discard hc hq hf =>
      refine accounts_of_not_healthy (fun h => ?_) (by simpa [Floor.emittedTexts_eq] using hcount)
      simp [hf, Healthy] at h
  | settle hc hq ho hf =>
      have hd : d.Healthy := ⟨hf, by simp [hc]⟩
      refine ⟨hcount, fun _ => ?_, fun _ _ => hstate hd (by simp [isOver, hc]), fun _ h => by cases h⟩
      have hr := hreceived hd
      rwa [hc] at hr
  | emit hc he =>
      refine ⟨by simp [Floor.emittedTexts_eq, hcount], fun h => ?_, fun h _ => ?_, fun _ h => by cases h⟩
      · have hr := hreceived ⟨h.1, by simp [hc]⟩
        simp only [Floor.receivedTexts, hc, Cursor.held] at hr
        simp [Floor.receivedTexts, Floor.emittedTexts_eq, Cursor.held, hr]
      · have hs := hstate ⟨h.1, by simp [hc]⟩ (by simp [isOver, hc])
        simp [Floor.emittedTexts_eq, after_concat, ← hs, he]
  | flush hc he =>
      refine ⟨hcount, fun h => ?_, fun _ h => by simp [isOver] at h, fun h _ => ?_⟩
      · have hr := hreceived ⟨h.1, by simp [hc]⟩
        rwa [hc] at hr
      · have hs := hstate ⟨h.1, by simp [hc]⟩ (by simp [isOver, hc])
        rw [Floor.emittedTexts_eq, ← hs, he]
  | leave _ _ _ hf => exact accounts_of_not_healthy (fun h => by simp [hf, Healthy] at h) hcount
  | emitFail | flushFail => exact accounts_of_not_healthy (fun h => by simp [Healthy] at h) hcount
  | emitCrash | flushCrash => exact accounts_of_not_healthy (fun h => h.2 _ rfl) hcount

end Drain

/-- What was put into the queues is what was taken out and what is still there, in this order. -/
structure Floor.Balanced (f : Floor) : Prop where
  input : f.queuedItems = f.takenItems ++ f.input.items
  output : f.sentTexts = f.receivedTexts ++ f.output.items

/-- One event more keeps the balance if it tells what it did to the queues. -/
theorem Floor.Balanced.record {f g : Floor} {e : Event} (hb : f.Balanced) (hl : g.log = e :: f.log)
    (hi : f.input.items ++ e.queued?.toList = e.taken?.toList ++ g.input.items)
    (ho : f.output.items ++ e.sent?.toList = e.received?.toList ++ g.output.items) : g.Balanced := by
  have he : g.events = f.events ++ [e] := by rw [events, hl, List.reverse_cons, events]
  have hin := hb.input
  have hout := hb.output
  rw [queuedItems_eq, takenItems] at hin
  rw [sentTexts_eq, receivedTexts] at hout
  constructor
  · simp only [queuedItems_eq, takenItems, he, List.filterMap_append, filterMap_singleton, hin,
      List.append_assoc, hi]
  · simp only [sentTexts_eq, receivedTexts, he, List.filterMap_append, filterMap_singleton, hout,
      List.append_assoc, ho]

theorem Floor.Balanced.closeOutput {f : Floor} (hb : f.Balanced) : f.closeOutput.Balanced :=
  hb.record rfl (List.append_nil _) (List.append_nil _)

namespace Feed.Moves

variable {filter : Filter} {f g : Feed} {floor next : Floor}

theorem balanced (hm : f.Moves filter floor g next) (hb : floor.Balanced) : next.Balanced := by
  cases hm with
  | finish | crash => exact hb.record rfl (List.append_nil _) (List.append_nil _)
  | queue => exact hb.record rfl rfl (List.append_nil _)
  | skip => exact hb

theorem filterMap_events {α : Type} {kind : Event → Option α} (hm : f.Moves filter floor g next)
    (hq : ∀ item, kind (.queued item) = none) (hc : kind .inputClosed = none) :
    next.events.filterMap kind = floor.events.filterMap kind := by
  cases hm with
  | finish | crash => simp [hc]
  | queue => simp [hq]
  | skip => rfl

theorem eventsOf_eq (hm : f.Moves filter floor g next) (id : Nat) : next.eventsOf id = floor.eventsOf id := by
  cases hm with
  | finish | crash => exact Floor.eventsOf_closeInput _ _
  | queue => exact Floor.eventsOf_queueItem _ _ _
  | skip => rfl

end Feed.Moves

namespace Worker.Moves

variable {h : Handlers} {id : Nat} {w v : Worker} {f g : Floor}

theorem balanced (hm : w.Moves h id f v g) (hb : f.Balanced) : g.Balanced := by
  cases hm with
  | take hc hq => exact hb.record rfl (by simp [hq, Floor.note]) (List.append_nil _)
  | call | report => exact hb.record rfl (List.append_nil _) (List.append_nil _)
  | send => exact hb.record rfl (List.append_nil _) rfl
  | leave | crash => exact hb

theorem filterMap_events {α : Type} {kind : Event → Option α} (hm : w.Moves h id f v g)
    (hk : ∀ e, e.worker? = some id → kind e = none) :
    g.events.filterMap kind = f.events.filterMap kind := by
  cases hm with
  | take | call | send | report => simpa using hk _ rfl
  | leave | crash => rfl

theorem queuedItems_eq (hm : w.Moves h id f v g) : g.queuedItems = f.queuedItems :=
  hm.filterMap_events fun _ he => (Event.eq_none_of_worker?_eq_some he).1

theorem receivedTexts_eq (hm : w.Moves h id f v g) : g.receivedTexts = f.receivedTexts :=
  hm.filterMap_events fun _ he => (Event.eq_none_of_worker?_eq_some he).2.1

theorem emittedTexts_eq (hm : w.Moves h id f v g) : g.emittedTexts = f.emittedTexts :=
  hm.filterMap_events fun _ he => (Event.eq_none_of_worker?_eq_some he).2.2

end Worker.Moves

namespace Drain.Moves

variable {sink : Sink σ} {d e : Drain σ} {f g : Floor}

theorem balanced (hm : d.Moves sink f e g) (hb : f.Balanced) : g.Balanced := by
  cases hm with
  | receive hc hq | discard hc hq =>
      exact hb.record rfl (List.append_nil _) (by simp [hq, Floor.note])
  | emit => exact hb.record rfl (List.append_nil _) (List.append_nil _)
  | settle | leave | emitFail | emitCrash | flush | flushFail | flushCrash => exact hb

theorem filterMap_events {α : Type} {kind : Event → Option α} (hm : d.Moves sink f e g)
    (hr : ∀ text, kind (.received text) = none) (he : ∀ text, kind (.emitted text) = none) :
    g.events.filterMap kind = f.events.filterMap kind := by
  cases hm with
  | receive | discard => simp [hr]
  | emit => simp [he]
  | settle | leave | emitFail | emitCrash | flush | flushFail | flushCrash => rfl

theorem eventsOf_eq (hm : d.Moves sink f e g) (id : Nat) : g.eventsOf id = f.eventsOf id := by
  cases hm with
  | receive | discard | emit => exact Floor.eventsOf_note_other (by simp [Event.worker?]) _
  | settle | leave | emitFail | emitCrash | flush | flushFail | flushCrash => rfl

end Drain.Moves

namespace Run

/-- Nothing is lost and nothing comes from nowhere, wherever a run stands. -/
structure Accounted (p : Plan σ) (r : Run σ) : Prop where
  feed : r.feed.Accounts p.filter r.floor (.start p.source)
  size : r.workers.length = Pool.size p.workers
  pool : Pool.Accounts p.handlers r.workers r.floor
  drain : r.drain.Accounts p.sink r.floor p.state
  balanced : r.floor.Balanced

theorem accounted_start (p : Plan σ) : (start p).Accounted p where
  feed := Feed.accounts_start p.filter p.source
  size := List.length_replicate
  pool := Pool.accounts_spawn p.handlers p.workers
  drain := Drain.accounts_start p.sink p.state
  balanced := ⟨rfl, rfl⟩

theorem Moves.drain_cases {p : Plan σ} {r s : Run σ} (hm : r.Moves p s) :
    r.drain.Moves p.sink r.floor s.drain s.floor ∨
      s.drain = r.drain ∧ s.floor.receivedTexts = r.floor.receivedTexts ∧
        s.floor.emittedTexts = r.floor.emittedTexts := by
  cases hm with
  | advance => exact .inr ⟨rfl, rfl, rfl⟩
  | closeOutput => exact .inr (by simp [Floor.receivedTexts, Floor.emittedTexts_eq])
  | produce _ hm =>
      exact .inr ⟨rfl, hm.filterMap_events (fun _ => rfl) rfl, hm.filterMap_events (fun _ => rfl) rfl⟩
  | work _ hm => exact .inr ⟨rfl, hm.receivedTexts_eq, hm.emittedTexts_eq⟩
  | drain hm => exact .inl hm

theorem Moves.drain_accounts {p : Plan σ} {r s : Run σ} (hm : r.Moves p s)
    (hd : r.drain.Accounts p.sink r.floor p.state) : s.drain.Accounts p.sink s.floor p.state := by
  obtain hm | ⟨hs, hr, he⟩ := hm.drain_cases
  · exact hm.accounts hd
  · exact hs ▸ hd.of_texts hr he

theorem Accounted.of_moves {p : Plan σ} {r s : Run σ} (ha : r.Accounted p) (hm : r.Moves p s) :
    s.Accounted p := by
  have hdrain := hm.drain_accounts ha.drain
  obtain ⟨hfeed, hsize, hpool, _, hbalanced⟩ := ha
  cases hm with
  | advance => exact ⟨hfeed, hsize, hpool, hdrain, hbalanced⟩
  | closeOutput =>
      refine ⟨hfeed.of_queuedItems ?_, hsize, hpool.of_eventsOf fun id => ?_, hdrain, hbalanced.closeOutput⟩
      · simp [Floor.queuedItems_eq]
      · exact Floor.eventsOf_closeOutput _ _
  | produce _ hm =>
      exact ⟨hm.accounts hfeed, hsize, hpool.of_eventsOf hm.eventsOf_eq, hdrain, hm.balanced hbalanced⟩
  | work hw hm =>
      refine ⟨hfeed.of_queuedItems hm.queuedItems_eq, ?_, hpool.set hw hm, hdrain, hm.balanced hbalanced⟩
      rw [List.length_set]
      exact hsize
  | drain hm =>
      refine ⟨hfeed.of_queuedItems ?_, hsize, hpool.of_eventsOf hm.eventsOf_eq, hdrain, hm.balanced hbalanced⟩
      exact hm.filterMap_events (fun _ => rfl) (fun _ => rfl)

theorem Reachable.accounted {p : Plan σ} {r : Run σ} (h : Reachable p r) : r.Accounted p := by
  induction h with
  | start => exact accounted_start p
  | step _ hs ih => exact ih.of_moves (moves_of_step hs)

end Run

end BatchClassifier
