import BatchClassifier.Proofs.Sink.Draining
import BatchClassifier.Sink.Scripted

namespace BatchClassifier

variable {σ : Type}

namespace Sink

structure Returns (sink : Sink σ) : Prop where
  emit : ∀ state text crash, (sink.emit state text).1 ≠ .crashed crash
  flush : ∀ state crash, (sink.flush state).1 ≠ .crashed crash

theorem returns_scripted {s : Script} (h : s.crashOn = none) : (scripted s).Returns := by
  constructor
  · intro kept text crash
    have hn : s.crash? text = none := by
      rw [Script.crash?, h]
      rfl
    cases hf : s.fault? kept.length <;> simp [scripted, hn, hf]
  · intro kept crash
    cases hf : s.flushFault <;> simp [scripted, hf]

def Accepts (sink : Sink σ) (state : σ) : List String → Prop
  | [] => True
  | text :: texts => (sink.emit state text).1 = .done ∧ Accepts sink (sink.emit state text).2 texts

theorem accepts_concat {sink : Sink σ} {state : σ} {texts : List String} {text : String} :
    sink.Accepts state (texts ++ [text]) ↔
      sink.Accepts state texts ∧ (sink.emit (sink.after state texts) text).1 = .done := by
  induction texts generalizing state with
  | nil => simp [Accepts, after]
  | cons first texts ih => simp [Accepts, ih, after, and_assoc]

end Sink

def Reply.fault? : Reply → Option IoFault
  | .failed fault => some fault
  | .done | .crashed _ => none

namespace Floor

theorem receivedTexts_received (f : Floor) (output : Queue String) (text : String) :
    ({ f with output }.note (.received text)).receivedTexts = f.receivedTexts ++ [text] := by
  simp [receivedTexts]

theorem receivedTexts_emitted (f : Floor) (text : String) :
    (f.note (.emitted text)).receivedTexts = f.receivedTexts := by
  simp [receivedTexts]

theorem receivedTexts_closeOutput (f : Floor) : f.closeOutput.receivedTexts = f.receivedTexts := by
  simp [receivedTexts]

end Floor

namespace Drain

variable {sink : Sink σ} {first : σ} {results received : List String} {calls : List Call} {d e : Drain σ}
  {f g : Floor}

def emits (texts : List String) : List Call := texts.map fun text => .emit text .done

theorem emits_concat (texts : List String) (text : String) :
    emits texts ++ [.emit text .done] = emits (texts ++ [text]) := by
  rw [emits, emits, List.map_append]
  rfl

/-- The calls of the sink for all results, and what the thread ends with. -/
inductive Drained (sink : Sink σ) (first : σ) (results : List String) : List Call → Drain σ → Prop
  | whole {reply : Reply} {state : σ} (ha : sink.Accepts first results)
      (hf : sink.flush (sink.after first results) = (reply, state)) :
      Drained sink first results (emits results ++ [.flush reply]) ⟨state, .finished, results.length, reply.fault?⟩
  | broken {accepted rest : List String} {text : String} {fault : IoFault} {state : σ}
      (hr : results = accepted ++ text :: rest) (ha : sink.Accepts first accepted)
      (he : sink.emit (sink.after first accepted) text = (.failed fault, state)) :
      Drained sink first results (emits accepted ++ [.emit text (.failed fault)])
        ⟨state, .finished, accepted.length, some fault⟩

/-- The thread in the course of its work, after it has received some results. -/
inductive Standing (sink : Sink σ) (first : σ) : List String → List Call → Drain σ → Prop
  | waiting {received : List String} (ha : sink.Accepts first received) :
      Standing sink first received (emits received) ⟨sink.after first received, .waiting, received.length, none⟩
  | holding {accepted : List String} {text : String} (ha : sink.Accepts first accepted) :
      Standing sink first (accepted ++ [text]) (emits accepted)
        ⟨sink.after first accepted, .holding text, accepted.length, none⟩
  | discarding {accepted rest : List String} {text : String} {fault : IoFault} {state : σ}
      (ha : sink.Accepts first accepted)
      (he : sink.emit (sink.after first accepted) text = (.failed fault, state)) :
      Standing sink first (accepted ++ text :: rest) (emits accepted ++ [.emit text (.failed fault)])
        ⟨state, .waiting, accepted.length, some fault⟩
  | flushing {received : List String} (ha : sink.Accepts first received) :
      Standing sink first received (emits received) ⟨sink.after first received, .flushing, received.length, none⟩
  | finished {received : List String} {calls : List Call} {d : Drain σ} (hd : Drained sink first received calls d) :
      Standing sink first received calls d

theorem Drained.cursor_eq (h : Drained sink first results calls d) : d.cursor = .finished := by
  cases h with
  | whole | broken => rfl

theorem Standing.step (hr : sink.Returns) (h : Standing sink first received calls d)
    (hf : f.receivedTexts = received) (hs : d.step sink f = some (e, g)) :
    Standing sink first g.receivedTexts (calls ++ (d.call? sink).toList) e := by
  have hm := moves_of_step hs
  cases h with
  | waiting ha =>
      simp only [call?, Option.toList_none, List.append_nil]
      cases hm with
      | receive =>
          rw [Floor.receivedTexts_received, hf]
          exact .holding ha
      | settle =>
          rw [hf]
          exact .flushing ha
      | discard _ _ hd | leave _ _ _ hd => cases hd
      | emit hc | emitFail hc | emitCrash hc | flush hc | flushFail hc | flushCrash hc => cases hc
  | @holding accepted text ha =>
      simp only [call?, Option.toList_some]
      cases hm with
      | @emit _ state hc he =>
          cases hc
          have hstate : sink.after first (accepted ++ [text]) = state := by
            rw [after_concat]
            exact congrArg Prod.snd he
          have hlength : (accepted ++ [text]).length = accepted.length + 1 := List.length_append
          rw [Floor.receivedTexts_emitted, hf, congrArg Prod.fst he, emits_concat, ← hlength, ← hstate]
          exact .waiting (Sink.accepts_concat.2 ⟨ha, congrArg Prod.fst he⟩)
      | emitFail hc he =>
          cases hc
          rw [hf, congrArg Prod.fst he]
          exact .discarding ha he
      | @emitCrash _ state crash hc he => exact absurd (congrArg Prod.fst he) (hr.emit _ _ crash)
      | receive hc | discard hc | settle hc | leave hc | flush hc | flushFail hc | flushCrash hc => cases hc
  | @discarding accepted rest text fault state ha he =>
      simp only [call?, Option.toList_none, List.append_nil]
      cases hm with
      | discard =>
          rw [Floor.receivedTexts_received, hf, List.append_assoc]
          exact .discarding ha he
      | leave =>
          rw [hf]
          exact .finished (.broken rfl ha he)
      | receive _ _ hd | settle _ _ _ hd => cases hd
      | emit hc | emitFail hc | emitCrash hc | flush hc | flushFail hc | flushCrash hc => cases hc
  | flushing ha =>
      simp only [call?, Option.toList_some]
      cases hm with
      | flush hc he =>
          rw [hf, congrArg Prod.fst he]
          exact .finished (.whole ha he)
      | flushFail hc he =>
          rw [hf, congrArg Prod.fst he]
          exact .finished (.whole ha he)
      | @flushCrash state crash hc he => exact absurd (congrArg Prod.fst he) (hr.flush _ crash)
      | receive hc | discard hc | settle hc | leave hc | emit hc | emitFail hc | emitCrash hc => cases hc
  | finished hd =>
      obtain ⟨state, cursor, emitted, fault⟩ := d
      have hc : cursor = .finished := hd.cursor_eq
      rw [hc] at hs
      cases hs

/-- An execution of the thread, with the results that came into its queue and the calls of the sink. -/
inductive Execution (sink : Sink σ) (first : σ) : List String → List Call → Drain σ → Floor → Prop
  | start (queue : Queue String) : Execution sink first queue.items [] { state := first } { output := queue }
  | push {results : List String} {calls : List Call} {d : Drain σ} {f : Floor}
      (h : Execution sink first results calls d f) (ho : f.output.closed = false) (text : String) :
      Execution sink first (results ++ [text]) calls d { f with output := f.output.push text }
  | close {results : List String} {calls : List Call} {d : Drain σ} {f : Floor}
      (h : Execution sink first results calls d f) : Execution sink first results calls d f.closeOutput
  | step {results : List String} {calls : List Call} {d e : Drain σ} {f g : Floor}
      (h : Execution sink first results calls d f) (hs : d.step sink f = some (e, g)) :
      Execution sink first results (calls ++ (d.call? sink).toList) e g

structure Kept (sink : Sink σ) (first : σ) (results : List String) (calls : List Call) (d : Drain σ) (f : Floor) :
    Prop where
  received : f.receivedTexts ++ f.output.items = results
  standing : Standing sink first f.receivedTexts calls d
  drained : d.cursor = .flushing ∨ d.cursor = .finished → f.output.closed = true ∧ f.output.items = []

theorem Execution.kept (hr : sink.Returns) (h : Execution sink first results calls d f) :
    Kept sink first results calls d f := by
  -- Others only add to the queue, and not after its close, so what the thread has seen of it stays true.
  induction h with
  | start queue => exact ⟨rfl, .waiting trivial, fun h => by simp at h⟩
  | push h ho text ih =>
      refine ⟨?_, ih.standing, fun hd => ?_⟩
      · rw [Queue.items_push, ← List.append_assoc, ← ih.received]
        rfl
      · rw [(ih.drained hd).1] at ho
        cases ho
  | close h ih =>
      refine ⟨?_, ?_, fun hd => ⟨rfl, (ih.drained hd).2⟩⟩
      · rw [Floor.receivedTexts_closeOutput]
        exact ih.received
      · rw [Floor.receivedTexts_closeOutput]
        exact ih.standing
  | step h hs ih =>
      have hm := moves_of_step hs
      exact ⟨hm.received_append.trans ih.received, ih.standing.step hr rfl hs, fun he => hm.finished he ih.drained⟩

theorem Execution.steps (h : Execution sink first results calls d f) (n : Nat) :
    ∃ more, Execution sink first results (calls ++ more) (steps sink n d f).1 (steps sink n d f).2 := by
  induction n generalizing calls d f with
  | zero => exact ⟨[], (List.append_nil calls).symm ▸ h⟩
  | succ n ih =>
      rw [Drain.steps]
      split
      · rename_i hs
        obtain ⟨more, hmore⟩ := ih (h.step hs)
        exact ⟨_, List.append_assoc .. ▸ hmore⟩
      · exact ⟨[], (List.append_nil calls).symm ▸ h⟩

theorem Standing.drained_of_isOver (h : Standing sink first results calls d) (ho : d.isOver = true) :
    Drained sink first results calls d := by
  cases h with
  | finished hd => exact hd
  | waiting | holding | discarding | flushing => cases ho

theorem Execution.drained (hr : sink.Returns) (h : Execution sink first results calls d f) (ho : d.isOver = true) :
    f.output = .sealing [] ∧ Drained sink first results calls d := by
  obtain ⟨hreceived, hstanding, hdrained⟩ := h.kept hr
  have hd := hstanding.drained_of_isOver ho
  obtain ⟨hclosed, hitems⟩ := hdrained (.inr hd.cursor_eq)
  rw [hitems, List.append_nil] at hreceived
  exact ⟨congrArg₂ Queue.mk hitems hclosed, hreceived ▸ hd⟩

/-- Whatever the sink replies, and whether the results are there before the thread or come in while it
works: at its end it has taken every result from the queue, and has made the calls and tells of them what
`Drained` says. It comes to its end once the queue is closed. -/
theorem execution_drains (hr : sink.Returns) (first : σ) :
    (∀ {results calls d f}, Execution sink first results calls d f → d.isOver = true →
      f.output = .sealing [] ∧ Drained sink first results calls d) ∧
    (∀ {results calls d f}, Execution sink first results calls d f → f.output.closed = true →
      ∃ more e g, steps sink (d.work + 2 * f.output.length) d f = (e, g) ∧
        Execution sink first results (calls ++ more) e g ∧ e.isOver = true) ∧
    ∀ results, ∃ calls d f, run sink first { output := .sealing results } = (d, f) ∧
      Execution sink first results calls d f ∧ f.output = .sealing [] ∧ Drained sink first results calls d := by
  refine ⟨fun h ho => h.drained hr ho, fun h hc => ?_, fun results => ?_⟩
  · obtain ⟨more, hmore⟩ := h.steps _
    exact ⟨more, _, _, rfl, hmore, isOver_steps hc le_rfl⟩
  · have hstart : Execution sink first results [] { state := first } { output := .sealing results } :=
      .start (.sealing results)
    obtain ⟨calls, hcalls⟩ := hstart.steps (2 * results.length + 2)
    exact ⟨calls, _, _, rfl, hcalls, hcalls.drained hr (isOver_run sink first rfl)⟩

/-- The second result breaks the pipe: the third is taken from the queue, but no call follows. -/
theorem execution_drains_broken_pipe :
    let sink := Sink.scripted { limit := some (1, .ofKind .brokenPipe), flushFault := some .wroteNothing }
    sink.Returns ∧ ∃ calls d f, run sink [] { output := .sealing ["a", "b", "c"] } = (d, f) ∧
      Execution sink [] ["a", "b", "c"] calls d f ∧ d.isOver = true ∧ f.output = .sealing [] ∧
      Drained sink [] ["a", "b", "c"] calls d ∧ d = ⟨["a"], .finished, 1, some (.ofKind .brokenPipe)⟩ := by
  intro sink
  have hr : sink.Returns := Sink.returns_scripted rfl
  obtain ⟨hover, -, hrun⟩ := execution_drains hr []
  obtain ⟨calls, d, f, hd, hexecution, -, -⟩ := hrun ["a", "b", "c"]
  have hd' : d = ⟨["a"], .finished, 1, some (.ofKind .brokenPipe)⟩ := (congrArg Prod.fst hd).symm
  have ho : d.isOver = true := by
    rw [hd']
    rfl
  exact ⟨hr, calls, d, f, hd, hexecution, ho, (hover hexecution ho).1, (hover hexecution ho).2, hd'⟩

end Drain

end BatchClassifier
