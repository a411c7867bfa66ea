import BatchClassifier.Proofs.Pool.Shift
import BatchClassifier.Proofs.Run.Delivery

namespace BatchClassifier

namespace Attempt

def text? : Attempt → Option String
  | .returned (.ok text) => some text
  | .returned (.error _) | .crashed _ => none

def reason? : Attempt → Option String
  | .returned (.ok _) => none
  | .returned (.error e) => some e.message
  | .crashed (.text message) => some ("processor panicked: " ++ message)
  | .crashed .unknown => some "processor panicked: unknown panic payload"

end Attempt

namespace Handlers

variable {h : Handlers} {item : Item}

theorem text?_eq (h : Handlers) (item : Item) : h.text? item = (h.process item).text? := by
  rw [text?]
  cases h.process item with
  | returned result => cases result <;> rfl
  | crashed crash => rfl

theorem failure?_eq (h : Handlers) (item : Item) :
    h.failure? item = (h.process item).reason?.map fun reason => ⟨item, reason⟩ := by
  rw [failure?]
  cases h.process item with
  | returned result => cases result <;> rfl
  | crashed crash => cases crash <;> rfl

theorem failure?_of_text? {text : String} (ht : h.text? item = some text) : h.failure? item = none := by
  rcases h.text?_or_failure? item with ⟨_, -, -, hf⟩ | ⟨_, -, hn, -⟩
  · exact hf
  · rw [hn] at ht
    cases ht

theorem text?_of_failure? {failure : Failure} (hf : h.failure? item = some failure) : h.text? item = none := by
  rcases h.text?_or_failure? item with ⟨_, -, -, hn⟩ | ⟨_, -, ht, -⟩
  · rw [hn] at hf
    cases hf
  · exact ht

theorem fatal_of_text? {text : String} (ht : h.text? item = some text) : h.fatal item = false := by
  rw [fatal, failure?_of_text? ht, Option.any_none]

theorem fatal_of_failure? {failure : Failure} (hf : h.failure? item = some failure) :
    h.fatal item = (h.report failure).isSome := by
  rw [fatal, hf, Option.any_some]

end Handlers

namespace Worker

variable {h : Handlers} {id : Nat} {w v : Worker} {f g k : Floor} {items rest through : List Item} {item : Item}

section Turns

def attempted (id : Nat) (item : Item) (rest : List Item) (f : Floor) : Floor :=
  ({ f with input := .sealing rest }.note (.taken id item)).note (.called id item)

inductive Turn (h : Handlers) (id : Nat) (item : Item) (w : Worker) (f : Floor) : Worker → Floor → Prop
  | result {text : String} (ht : h.text? item = some text) :
      Turn h id item w f { w with succeeded := w.succeeded + 1 }
        ({ f with output := f.output.push text }.note (.sent id text))
  | failure {failure : Failure} (hf : h.failure? item = some failure) (hr : h.report failure = none) :
      Turn h id item w f { w with failed := w.failed + 1 } (f.note (.reported id failure))
  | crash {failure : Failure} {crash : Crash} (hf : h.failure? item = some failure)
      (hr : h.report failure = some crash) : Turn h id item w f { w with cursor := .lost crash } f

theorem exists_turn (h : Handlers) (id : Nat) (hc : w.cursor = .ready) (hi : f.input = .sealing (item :: rest))
    (n : Nat) :
    ∃ v g, Turn h id item w (attempted id item rest f) v g ∧ steps h id (n + 3) w f = steps h id n v g := by
  obtain ⟨cursor, succeeded, failed⟩ := w
  cases hc
  have hattempt : steps h id (n + 3) ⟨.ready, succeeded, failed⟩ f = steps h id (n + 1)
      ⟨.after item (h.process item).guarded, succeeded, failed⟩ (attempted id item rest f) := by
    simp only [steps, step, hi]
    rfl
  rw [hattempt]
  rcases h.text?_or_failure? item with ⟨text, hp, ht, -⟩ | ⟨e, hp, -, hf⟩
  · rw [hp]
    exact ⟨_, _, .result ht, rfl⟩
  · rw [hp]
    cases hr : h.report (.of item e) with
    | none => exact ⟨_, _, .failure hf hr, by simp [steps, step, Cursor.after, hr]⟩
    | some crash => exact ⟨_, _, .crash hf hr, by simp [steps, step, Cursor.after, hr]⟩

theorem steps_leave (hc : w.cursor = .ready) (hi : f.input = .sealing []) :
    steps h id 1 w f = ({ w with cursor := .exited }, f) := by
  simp only [steps, step, hc, hi]
  rfl

theorem steps_lost {crash : Crash} (hc : w.cursor = .lost crash) (n : Nat) : steps h id n w f = (w, f) := by
  cases n with
  | zero => rfl
  | succ n => simp only [steps, step, hc]

end Turns

section Serving

/-- What has become of the items that are through, and for which items the processor was called. -/
structure Served (h : Handlers) (through called : List Item) (f : Floor) (w : Worker) (g : Floor) : Prop where
  output : g.output = ⟨f.output.items ++ through.filterMap h.text?, f.output.closed⟩
  reports : g.reports = f.reports ++ through.filterMap h.failure?
  calls : g.calls = f.calls ++ called
  succeeded : w.succeeded = (through.filterMap h.text?).length
  failed : w.failed = (through.filterMap h.failure?).length

theorem served_start (h : Handlers) (f : Floor) (items : List Item) :
    Served h [] [] f {} { f with input := .sealing items } where
  output := by simp
  reports := by simp [Floor.reports_eq]
  calls := by simp [Floor.calls_eq]
  succeeded := rfl
  failed := rfl

theorem Served.attempted (hs : Served h through through f w g) (id : Nat) (item : Item) (rest : List Item) :
    Served h through (through ++ [item]) f w (attempted id item rest g) where
  output := hs.output
  reports := by
    rw [← hs.reports]
    simp [Worker.attempted, Floor.reports_eq]
  calls := by
    rw [← List.append_assoc, ← hs.calls]
    simp [Worker.attempted, Floor.calls_eq, List.filterMap_cons]
  succeeded := hs.succeeded
  failed := hs.failed

theorem Served.result {called : List Item} {text : String} (hs : Served h through called f w g)
    (ht : h.text? item = some text) (id : Nat) :
    Served h (through ++ [item]) called f { w with succeeded := w.succeeded + 1 }
      ({ g with output := g.output.push text }.note (.sent id text)) where
  output := by simp [Floor.note, Queue.push, hs.output, ht]
  reports := by
    rw [List.filterMap_append, List.filterMap_cons_none (Handlers.failure?_of_text? ht), List.filterMap_nil,
      List.append_nil, ← hs.reports]
    simp [Floor.reports_eq]
  calls := by
    rw [← hs.calls]
    simp [Floor.calls_eq]
  succeeded := by simp [hs.succeeded, ht]
  failed := by simp [hs.failed, Handlers.failure?_of_text? ht]

theorem Served.failure {called : List Item} {failure : Failure} (hs : Served h through called f w g)
    (hf : h.failure? item = some failure) (id : Nat) :
    Served h (through ++ [item]) called f { w with failed := w.failed + 1 } (g.note (.reported id failure)) where
  output := by simp [Floor.note, hs.output, Handlers.text?_of_failure? hf]
  reports := by
    rw [List.filterMap_append, List.filterMap_cons_some hf, ← List.append_assoc, ← hs.reports]
    simp [Floor.reports_eq]
  calls := by
    rw [← hs.calls]
    simp [Floor.calls_eq]
  succeeded := by simp [hs.succeeded, Handlers.text?_of_failure? hf]
  failed := by simp [hs.failed, hf]

inductive Ended (h : Handlers) (items : List Item) (f : Floor) (w : Worker) (g : Floor) : Prop
  | exited (hc : w.cursor = .exited) (hi : g.input = .sealing []) (hn : ∀ item ∈ items, h.fatal item = false)
      (hs : Served h items items f w g)
  | lost {through rest : List Item} {item : Item} {failure : Failure} {crash : Crash}
      (hp : items = through ++ item :: rest) (hn : ∀ item ∈ through, h.fatal item = false)
      (hf : h.failure? item = some failure) (hr : h.report failure = some crash) (hc : w.cursor = .lost crash)
      (hi : g.input = .sealing rest) (hs : Served h through (through ++ [item]) f w g)

theorem ended_steps (hc : w.cursor = .ready) (hi : g.input = .sealing items)
    (hn : ∀ item ∈ through, h.fatal item = false) (hs : Served h through through f w g) :
    Ended h (through ++ items) f (steps h id (3 * items.length + 1) w g).1
      (steps h id (3 * items.length + 1) w g).2 := by
  -- By induction on what is still queued, with what is through left open: each turn moves one item over.
  induction items generalizing w g through with
  | nil =>
      rw [List.append_nil]
      have hleave : steps h id (3 * 0 + 1) w g = _ := steps_leave hc hi
      rw [List.length_nil, hleave]
      exact .exited rfl hi hn ⟨hs.output, hs.reports, hs.calls, hs.succeeded, hs.failed⟩
  | cons item rest ih =>
      have hfuel : 3 * (item :: rest).length + 1 = 3 * rest.length + 1 + 3 := by
        rw [List.length_cons]
        omega
      obtain ⟨v, k, hturn, hsteps⟩ := exists_turn h id hc hi (3 * rest.length + 1)
      have hs := hs.attempted id item rest
      have hnext : h.fatal item = false → ∀ other ∈ through ++ [item], h.fatal other = false := by
        intro hitem other ho
        rcases List.mem_append.1 ho with ho | ho
        · exact hn other ho
        · rwa [List.mem_singleton.1 ho]
      rw [hfuel, hsteps]
      cases hturn with
      | result ht =>
          rw [List.append_cons]
          exact ih hc rfl (hnext (Handlers.fatal_of_text? ht)) (hs.result ht id)
      | failure hf hr =>
          have hitem : h.fatal item = false := by rw [Handlers.fatal_of_failure? hf, hr]; rfl
          rw [List.append_cons]
          exact ih hc rfl (hnext hitem) (hs.failure hf id)
      | crash hf hr =>
          rw [steps_lost rfl]
          exact .lost rfl hn hf hr rfl rfl ⟨hs.output, hs.reports, hs.calls, hs.succeeded, hs.failed⟩

theorem ended_run (h : Handlers) (id : Nat) (items : List Item) (f : Floor) :
    Ended h items f (run h id { f with input := .sealing items }).1 (run h id { f with input := .sealing items }).2 :=
  ended_steps rfl rfl (fun _ hitem => absurd hitem List.not_mem_nil) (served_start h f items)

/-- A worker on its own in front of a closed queue. If no report crashes, it comes to its regular end, with
every item through. Otherwise it is lost with the first item whose report crashes: those before it are
through, those behind it are still queued. -/
theorem run_serves (h : Handlers) (id : Nat) (items : List Item) (f : Floor) :
    (∀ item, h.text? item = (h.process item).text?) ∧
    (∀ item, h.failure? item = (h.process item).reason?.map fun reason => ⟨item, reason⟩) ∧
    match items.findIdx? h.fatal, run h id { f with input := .sealing items } with
    | none, (w, g) => w.cursor = .exited ∧ g.input = .sealing [] ∧ Served h items items f w g ∧
        w.processed = items.length
    | some k, (w, g) => ∃ item failure crash, items[k]? = some item ∧ h.failure? item = some failure ∧
        h.report failure = some crash ∧ w.cursor = .lost crash ∧ g.input = .sealing (items.drop (k + 1)) ∧
        Served h (items.take k) (items.take (k + 1)) f w g := by
  refine ⟨h.text?_eq, h.failure?_eq, ?_⟩
  have hended := ended_run h id items f
  generalize run h id { f with input := .sealing items } = r at hended ⊢
  cases hended with
  | exited hc hi hn hs =>
      rw [List.findIdx?_eq_none_iff.2 hn]
      refine ⟨hc, hi, hs, ?_⟩
      rw [processed, hs.succeeded, hs.failed, h.length_text?_add_failure?]
  | @lost through rest item failure crash hp hn hf hr hc hi hs =>
      have hitem : h.fatal item = true := by rw [Handlers.fatal_of_failure? hf, hr]; rfl
      have hfirst : items.findIdx? h.fatal = some through.length := by
        rw [hp, List.findIdx?_append, List.findIdx?_eq_none_iff.2 hn, List.findIdx?_cons, hitem]
        simp
      have htake : items.take (through.length + 1) = through ++ [item] := by
        rw [hp, List.append_cons, List.take_left' (by simp)]
      rw [hfirst]
      refine ⟨item, failure, crash, ?_, hf, hr, hc, ?_, ?_⟩
      · simp [hp]
      · simpa [hp] using hi
      · rw [htake, hp, List.take_left]
        exact hs

/-- The third item fails like the second one, but its report is the end of the worker. -/
example :
    let h : Handlers := ⟨fun item => if item = "a" then .returned (.ok "A") else .crashed .unknown,
      fun failure => if failure.item = "c" then some (.text "full") else none⟩
    let (w, g) := run h 0 { input := .sealing ["a", "b", "c", "a"] }
    (w, g.input.items, g.output.items, g.reports, g.calls) = (⟨.lost (.text "full"), 1, 1⟩, ["a"], ["A"],
      [⟨"b", "processor panicked: unknown panic payload"⟩], ["a", "b", "c"]) := by
  decide

end Serving

end Worker

end BatchClassifier
