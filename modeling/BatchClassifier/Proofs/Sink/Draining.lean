import BatchClassifier.Proofs.Run.Calls
import BatchClassifier.Proofs.Run.Isolation

namespace BatchClassifier

variable {σ τ : Type}

namespace Drain

theorem steps_keeps {sink : Sink σ} {keeps : Drain σ → Floor → Prop}
    (hm : ∀ {d e : Drain σ} {f g : Floor}, d.Moves sink f e g → keeps d f → keeps e g) (fuel : Nat)
    {d : Drain σ} {f : Floor} (h : keeps d f) : keeps (steps sink fuel d f).1 (steps sink fuel d f).2 := by
  induction fuel generalizing d f with
  | zero => exact h
  | succ fuel ih =>
      rw [steps]
      split
      · rename_i hs
        exact ih (hm (moves_of_step hs) h)
      · exact h

theorem isOver_of_work_eq_zero {d : Drain σ} (h : d.work = 0) : d.isOver = true := by
  obtain ⟨state, cursor, emitted, fault⟩ := d
  cases cursor with
  | finished | lost => rfl
  | waiting | holding | flushing => simp [work] at h

theorem isOver_steps {sink : Sink σ} {fuel : Nat} {d : Drain σ} {f : Floor} (hc : f.output.closed = true)
    (hw : d.work + 2 * f.output.length ≤ fuel) : (steps sink fuel d f).1.isOver = true := by
  -- Every step uses up work, and as long as the thread is not over it can take one.
  induction fuel generalizing d f with
  | zero =>
      have hn : d.work = 0 := by omega
      exact isOver_of_work_eq_zero hn
  | succ fuel ih =>
      rw [steps]
      split
      · rename_i hs
        have hm := moves_of_step hs
        have hl := hm.work_lt
        exact ih (hm.output_closed.trans hc) (by omega)
      · rename_i hs
        by_contra ho
        have hsome := step_isSome sink (Bool.eq_false_iff.2 ho) hc
        rw [hs] at hsome
        cases hsome

theorem isOver_run (sink : Sink σ) (state : σ) {f : Floor} (hc : f.output.closed = true) :
    (run sink state f).1.isOver = true := by
  apply isOver_steps hc
  change 2 + 2 * f.output.length ≤ 2 * f.output.length + 2
  omega

theorem Moves.received_append {sink : Sink σ} {d e : Drain σ} {f g : Floor} (hm : d.Moves sink f e g) :
    g.receivedTexts ++ g.output.items = f.receivedTexts ++ f.output.items := by
  cases hm with
  | receive _ hq | discard _ hq => simp [Floor.receivedTexts, Floor.note, Floor.events, hq]
  | emit => simp [Floor.receivedTexts, Floor.note, Floor.events]
  | settle | leave | emitFail | emitCrash | flush | flushFail | flushCrash => rfl

/-- What holds of the thread as long as nobody else uses the queue. -/
structure Alone (sink : Sink σ) (first : σ) (results : List String) (d : Drain σ) (f : Floor) : Prop where
  accounts : d.Accounts sink f first
  careful : d.Careful
  received : f.receivedTexts ++ f.output.items = results
  emitted : f.emittedTexts <+: f.receivedTexts
  closed : f.output.closed = true
  drained : d.cursor = .flushing ∨ d.cursor = .finished → f.output.items = []

theorem alone_start (sink : Sink σ) (first : σ) (results : List String) :
    Alone sink first results { state := first } { output := .sealing results } where
  accounts := (accounts_start sink first).of_texts rfl rfl
  careful _ := rfl
  received := rfl
  emitted := List.prefix_rfl
  closed := rfl
  drained h := by simp at h

theorem Moves.alone {sink : Sink σ} {first : σ} {results : List String} {d e : Drain σ} {f g : Floor}
    (hm : d.Moves sink f e g) (h : Alone sink first results d f) : Alone sink first results e g where
  accounts := hm.accounts h.accounts
  careful := hm.careful h.careful
  received := hm.received_append.trans h.received
  emitted := hm.emitted_prefix h.careful h.accounts h.emitted
  closed := hm.output_closed.trans h.closed
  drained he := (hm.finished he fun hd => ⟨h.closed, h.drained hd⟩).2

theorem Alone.emittedTexts_eq {sink : Sink σ} {first : σ} {results : List String} {d : Drain σ} {f : Floor}
    (h : Alone sink first results d f) : f.emittedTexts = f.receivedTexts.take d.emitted := by
  rw [h.accounts.count]
  exact List.prefix_iff_eq_take.1 h.emitted

def map (φ : σ → τ) (d : Drain σ) : Drain τ :=
  { state := φ d.state, cursor := d.cursor, emitted := d.emitted, fault := d.fault }

section

variable {sink : Sink σ} {other : Sink τ} {φ : σ → τ}

theorem step_map (he : ∀ s text, other.emit (φ s) text = Prod.map id φ (sink.emit s text))
    (hf : ∀ s, other.flush (φ s) = Prod.map id φ (sink.flush s)) (d : Drain σ) (f : Floor) :
    (d.map φ).step other f = (d.step sink f).map (Prod.map (map φ) id) := by
  obtain ⟨state, cursor, emitted, fault⟩ := d
  cases cursor with
  | waiting =>
      simp only [map, step]
      split
      · rfl
      · cases fault <;> rfl
      · cases fault <;> rfl
  | holding text =>
      simp only [map, step, he]
      rcases sink.emit state text with ⟨_ | _ | _, s⟩ <;> rfl
  | flushing =>
      simp only [map, step, hf]
      rcases sink.flush state with ⟨_ | _ | _, s⟩ <;> rfl
  | finished | lost => rfl

theorem steps_map (he : ∀ s text, other.emit (φ s) text = Prod.map id φ (sink.emit s text))
    (hf : ∀ s, other.flush (φ s) = Prod.map id φ (sink.flush s)) (fuel : Nat) (d : Drain σ) (f : Floor) :
    steps other fuel (d.map φ) f = Prod.map (map φ) id (steps sink fuel d f) := by
  induction fuel generalizing d f with
  | zero => rfl
  | succ fuel ih =>
      rw [steps, steps, step_map he hf]
      cases d.step sink f with
      | none => rfl
      | some after => exact ih after.1 after.2

theorem run_map (he : ∀ s text, other.emit (φ s) text = Prod.map id φ (sink.emit s text))
    (hf : ∀ s, other.flush (φ s) = Prod.map id φ (sink.flush s)) (state : σ) (f : Floor) :
    run other (φ state) f = Prod.map (map φ) id (run sink state f) :=
  steps_map he hf _ { state } f

end

end Drain

end BatchClassifier
