import BatchClassifier.Run

namespace BatchClassifier

variable {σ : Type}

namespace Feed

inductive Moves (filter : Filter) (f : Feed) (floor : Floor) : Feed → Floor → Prop
  | finish (hc : f.cursor = .feeding) (hp : f.pending = []) :
      Moves filter f floor { f with cursor := .finished } floor.closeInput
  | queue {item : Item} {rest : List Item} (hc : f.cursor = .feeding) (hp : f.pending = item :: rest)
      (hv : f.verdict filter item = .accept) :
      Moves filter f floor { f with pending := rest, queued := f.queued + 1 } (floor.queueItem item)
  | skip {item : Item} {rest : List Item} (hc : f.cursor = .feeding) (hp : f.pending = item :: rest)
      (hv : f.verdict filter item = .reject) :
      Moves filter f floor { f with pending := rest } floor
  | crash {item : Item} {rest : List Item} (hc : f.cursor = .feeding) (hp : f.pending = item :: rest)
      (hv : f.verdict filter item = .crash) :
      Moves filter f floor { f with cursor := .lost } floor.closeInput

theorem moves_of_step {filter : Filter} {f g : Feed} {floor next : Floor}
    (h : f.step filter floor = some (g, next)) : f.Moves filter floor g next := by
  obtain ⟨mode, pending, queued, cursor⟩ := f
  cases cursor with
  | feeding =>
      cases pending with
      | nil => cases h; exact .finish rfl rfl
      | cons item rest =>
          simp only [step] at h
          split at h <;> cases h
          · exact .queue rfl rfl ‹_›
          · exact .skip rfl rfl ‹_›
          · exact .crash rfl rfl ‹_›
  | finished | lost => simp [step] at h

end Feed

namespace Worker

inductive Moves (h : Handlers) (id : Nat) (w : Worker) (f : Floor) : Worker → Floor → Prop
  | take {item : Item} {rest : List Item} (hc : w.cursor = .ready) (hq : f.input.items = item :: rest) :
      Moves h id w f { w with cursor := .holding item }
        ({ f with input := { f.input with items := rest } }.note (.taken id item))
  | leave (hc : w.cursor = .ready) (hq : f.input.items = []) (hd : f.input.closed = true) :
      Moves h id w f { w with cursor := .exited } f
  | call {item : Item} (hc : w.cursor = .holding item) :
      Moves h id w f { w with cursor := .after item (h.process item).guarded } (f.note (.called id item))
  | send {text : String} (hc : w.cursor = .sending text) :
      Moves h id w f { w with cursor := .ready, succeeded := w.succeeded + 1 }
        ({ f with output := f.output.push text }.note (.sent id text))
  | report {failure : Failure} (hc : w.cursor = .reporting failure) (hr : h.report failure = none) :
      Moves h id w f { w with cursor := .ready, failed := w.failed + 1 } (f.note (.reported id failure))
  | crash {failure : Failure} {crash : Crash} (hc : w.cursor = .reporting failure)
      (hr : h.report failure = some crash) : Moves h id w f { w with cursor := .lost crash } f

theorem moves_of_step {h : Handlers} {id : Nat} {w v : Worker} {f g : Floor}
    (hs : w.step h id f = some (v, g)) : w.Moves h id f v g := by
  obtain ⟨cursor, succeeded, failed⟩ := w
  cases cursor with
  | ready =>
      cases hq : f.input.pop? with
      | none => simp [step, hq] at hs
      | some popped =>
          obtain ⟨result, ⟨items, closed⟩⟩ := popped
          simp only [step, hq] at hs
          cases result with
          | some item =>
              obtain ⟨hi, hd⟩ := Queue.pop?_eq_some_iff.1 hq
              cases hd
              cases hs
              exact .take rfl hi
          | none =>
              obtain ⟨hi, hd, _⟩ := Queue.pop?_eq_end_iff.1 hq
              cases hs
              exact .leave rfl hi hd
  | holding item => cases hs; exact .call rfl
  | sending text => cases hs; exact .send rfl
  | reporting failure =>
      cases hr : h.report failure with
      | none =>
          simp only [step, hr] at hs
          cases hs
          exact .report rfl hr
      | some crash =>
          simp only [step, hr] at hs
          cases hs
          exact .crash rfl hr
  | exited | lost => simp [step] at hs

end Worker

namespace Drain

inductive Moves (sink : Sink σ) (d : Drain σ) (f : Floor) : Drain σ → Floor → Prop
  | receive {text : String} {rest : List String} (hc : d.cursor = .waiting)
      (hq : f.output.items = text :: rest) (hf : d.fault = none) :
      Moves sink d f { d with cursor := .holding text }
        ({ f with output := { f.output with items := rest } }.note (.received text))
  | discard {text : String} {rest : List String} {fault : IoFault} (hc : d.cursor = .waiting)
      (hq : f.output.items = text :: rest) (hf : d.fault = some fault) :
      Moves sink d f d ({ f with output := { f.output with items := rest } }.note (.received text))
  | settle (hc : d.cursor = .waiting) (hq : f.output.items = []) (hd : f.output.closed = true)
      (hf : d.fault = none) : Moves sink d f { d with cursor := .flushing } f
  | leave {fault : IoFault} (hc : d.cursor = .waiting) (hq : f.output.items = [])
      (hd : f.output.closed = true) (hf : d.fault = some fault) :
      Moves sink d f { d with cursor := .finished } f
  | emit {text : String} {state : σ} (hc : d.cursor = .holding text)
      (he : sink.emit d.state text = (.done, state)) :
      Moves sink d f { d with state, cursor := .waiting, emitted := d.emitted + 1 } (f.note (.emitted text))
  | emitFail {text : String} {state : σ} {fault : IoFault} (hc : d.cursor = .holding text)
      (he : sink.emit d.state text = (.failed fault, state)) :
      Moves sink d f { d with state, cursor := .waiting, fault := some fault } f
  | emitCrash {text : String} {state : σ} {crash : Crash} (hc : d.cursor = .holding text)
      (he : sink.emit d.state text = (.crashed crash, state)) :
      Moves sink d f { d with state, cursor := .lost crash } f
  | flush {state : σ} (hc : d.cursor = .flushing) (he : sink.flush d.state = (.done, state)) :
      Moves sink d f { d with state, cursor := .finished } f
  | flushFail {state : σ} {fault : IoFault} (hc : d.cursor = .flushing)
      (he : sink.flush d.state = (.failed fault, state)) :
      Moves sink d f { d with state, cursor := .finished, fault := some fault } f
  | flushCrash {state : σ} {crash : Crash} (hc : d.cursor = .flushing)
      (he : sink.flush d.state = (.crashed crash, state)) :
      Moves sink d f { d with state, cursor := .lost crash } f

theorem moves_of_step {sink : Sink σ} {d e : Drain σ} {f g : Floor}
    (hs : d.step sink f = some (e, g)) : d.Moves sink f e g := by
  obtain ⟨state, cursor, emitted, fault⟩ := d
  cases cursor with
  | waiting =>
      cases hq : f.output.pop? with
      | none => simp [step, hq] at hs
      | some popped =>
          obtain ⟨result, ⟨items, closed⟩⟩ := popped
          simp only [step, hq] at hs
          cases result with
          | some text =>
              obtain ⟨hi, hd⟩ := Queue.pop?_eq_some_iff.1 hq
              cases hd
              cases fault with
              | none => cases hs; exact .receive rfl hi rfl
              | some fault => cases hs; exact .discard rfl hi rfl
          | none =>
              obtain ⟨hi, hd, _⟩ := Queue.pop?_eq_end_iff.1 hq
              cases fault with
              | none => cases hs; exact .settle rfl hi hd rfl
              | some fault => cases hs; exact .leave rfl hi hd rfl
  | holding text =>
      simp only [step] at hs
      split at hs <;> cases hs
      · exact .emit rfl ‹_›
      · exact .emitFail rfl ‹_›
      · exact .emitCrash rfl ‹_›
  | flushing =>
      simp only [step] at hs
      split at hs <;> cases hs
      · exact .flush rfl ‹_›
      · exact .flushFail rfl ‹_›
      · exact .flushCrash rfl ‹_›
  | finished | lost => simp [step] at hs

end Drain

theorem Pool.step_eq_some_iff {h : Handlers} {id : Nat} {workers after : List Worker} {f g : Floor} :
    Pool.step h id workers f = some (after, g) ↔
      ∃ w v, workers[id]? = some w ∧ w.step h id f = some (v, g) ∧ after = workers.set id v := by
  simp only [Pool.step, Option.bind_eq_bind, Option.bind_eq_some_iff, Option.pure_def, Option.some.injEq,
    Prod.mk.injEq]
  constructor
  · rintro ⟨w, hw, ⟨v, g'⟩, hs, rfl, rfl⟩
    exact ⟨w, v, hw, hs, rfl⟩
  · rintro ⟨w, v, hw, hs, rfl⟩
    exact ⟨w, hw, (v, g), hs, rfl, rfl⟩

namespace Run

/-- What the conductor waits for before it leaves a stage. -/
def Cleared (r : Run σ) : Stage → Prop
  | .starting => True
  | .producing => r.feed.isOver = true
  | .drainingWorkers => Pool.isOver r.workers = true
  | .closingOutput => r.floor.output.closed = true
  | .drainingSink => r.drain.isOver = true
  | .done => False

inductive Moves (p : Plan σ) (r : Run σ) : Run σ → Prop
  | advance (hc : r.Cleared r.stage) : Moves p r r.advance
  | closeOutput (hs : r.stage = .closingOutput) (ho : r.floor.output.closed = false) :
      Moves p r { r with floor := r.floor.closeOutput }
  | produce {feed : Feed} {floor : Floor} (hs : r.stage = .producing)
      (hm : r.feed.Moves p.filter r.floor feed floor) : Moves p r { r with feed, floor }
  | work {id : Nat} {w v : Worker} {floor : Floor} (hw : r.workers[id]? = some w)
      (hm : w.Moves p.handlers id r.floor v floor) :
      Moves p r { r with workers := r.workers.set id v, floor }
  | drain {d : Drain σ} {floor : Floor} (hm : r.drain.Moves p.sink r.floor d floor) :
      Moves p r { r with drain := d, floor }

theorem moves_of_conduct {p : Plan σ} {r s : Run σ} (h : r.conduct = some s) : r.Moves p s := by
  cases hs : r.stage with
  | starting =>
      simp only [conduct, hs] at h
      cases h
      exact .advance (by rw [hs]; trivial)
  | producing =>
      simp only [conduct, hs] at h
      obtain ⟨hc, hr⟩ := Option.ite_none_right_eq_some.1 h
      cases hr
      exact .advance (by rw [hs]; exact hc)
  | drainingWorkers =>
      simp only [conduct, hs] at h
      obtain ⟨hc, hr⟩ := Option.ite_none_right_eq_some.1 h
      cases hr
      exact .advance (by rw [hs]; exact hc)
  | closingOutput =>
      cases hc : r.floor.output.closed with
      | true =>
          simp only [conduct, hs, hc] at h
          cases h
          exact .advance (by rw [hs]; exact hc)
      | false =>
          simp only [conduct, hs, hc] at h
          cases h
          exact .closeOutput hs hc
  | drainingSink =>
      simp only [conduct, hs] at h
      obtain ⟨hc, hr⟩ := Option.ite_none_right_eq_some.1 h
      cases hr
      exact .advance (by rw [hs]; exact hc)
  | done => simp [conduct, hs] at h

theorem moves_of_step {p : Plan σ} {r s : Run σ} {a : Actor} (h : r.step p a = some s) : r.Moves p s := by
  cases a with
  | conductor => exact moves_of_conduct h
  | producer =>
      obtain ⟨hs, hm⟩ := Option.ite_none_right_eq_some.1 h
      obtain ⟨⟨feed, floor⟩, hf, rfl⟩ := Option.map_eq_some_iff.1 hm
      exact .produce hs (Feed.moves_of_step hf)
  | worker id =>
      obtain ⟨⟨workers, floor⟩, hp, rfl⟩ := Option.map_eq_some_iff.1 h
      obtain ⟨w, v, hw, hv, rfl⟩ := Pool.step_eq_some_iff.1 hp
      exact .work hw (Worker.moves_of_step hv)
  | sink =>
      obtain ⟨⟨d, floor⟩, hd, rfl⟩ := Option.map_eq_some_iff.1 h
      exact .drain (Drain.moves_of_step hd)

end Run

end BatchClassifier
