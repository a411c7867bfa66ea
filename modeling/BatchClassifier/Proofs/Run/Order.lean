import BatchClassifier.Proofs.Run.Delivery

namespace BatchClassifier

variable {σ : Type}

def Plan.pair : Plan (List String) where
  workers := 2
  source := .items ["a", "b", "a"]
  handlers := { process := fun item => .returned (.ok (item ++ "!")) }
  sink := .collecting
  state := []

theorem Plan.submissions_sublist (p : Plan σ) : p.submissions.Sublist p.source.offers := by
  rw [submissions]
  cases p.source with
  | items list => exact List.Sublist.refl _
  | lines stream => exact List.filter_sublist

namespace Pool.Accounts

variable {h : Handlers} {workers : List Worker} {f : Floor}

theorem shuffle_taken (ha : Accounts h workers f) :
    Shuffle ((List.range workers.length).map f.takenBy) f.takenItems := by
  have ht : f.takenBy = fun id => (f.eventsOf id).filterMap Event.taken? := by
    funext id
    exact f.takenBy_eq id
  rw [ht]
  apply Floor.shuffle_eventsOf
  · exact fun e he => (Event.eq_none_of_worker?_eq_none he).1
  · exact ha.idle

theorem shuffle_of_taken {α : Type} {kind : Event → Option α} {made : Item → Option α} (ha : Accounts h workers f)
    (hk : ∀ e, e.worker? = none → kind e = none)
    (hm : ∀ id (w : Worker), workers[id]? = some w → w.Accounts h (f.eventsOf id) →
      (f.eventsOf id).filterMap kind = ((f.eventsOf id).filterMap Event.taken?).filterMap made) :
    Shuffle ((List.range workers.length).map fun id => (f.takenBy id).filterMap made)
      (f.events.filterMap kind) := by
  have hs := Floor.shuffle_eventsOf hk ha.idle
  have he : ((List.range workers.length).map fun id => (f.eventsOf id).filterMap kind) =
      (List.range workers.length).map fun id => (f.takenBy id).filterMap made := by
    apply List.map_congr_left
    intro id hid
    have hw := List.getElem?_eq_getElem (List.mem_range.1 hid)
    rw [f.takenBy_eq]
    exact hm id _ hw (ha.worker id _ hw)
  exact he ▸ hs

theorem shuffle_sentTexts (ha : Accounts h workers f) (ho : isOver workers = true) :
    Shuffle ((List.range workers.length).map fun id => (f.takenBy id).filterMap h.text?) f.sentTexts := by
  apply ha.shuffle_of_taken
  · exact fun e he => (Event.eq_none_of_worker?_eq_none he).2.2.1
  · intro id w hw hown
    have hover := isOver_of_getElem? ho hw
    rw [hown.taken_of_isOver hover]
    exact (hown.sent_of_isOver hover).symm

theorem shuffle_reports (ha : Accounts h workers f) (hx : ∀ w ∈ workers, w.cursor = .exited) :
    Shuffle ((List.range workers.length).map fun id => (f.takenBy id).filterMap h.failure?) f.reports := by
  apply ha.shuffle_of_taken
  · exact fun e he => (Event.eq_none_of_worker?_eq_none he).2.2.2
  · intro id w hw hown
    have hc := hx w (List.mem_of_getElem? hw)
    have hover : w.isOver = true := by rw [Worker.isOver, hc]
    rw [hown.taken_of_isOver hover]
    exact (hown.reported_of_exited hc).symm

theorem takenBy_sublist (ha : Accounts h workers f) (id : Nat) : (f.takenBy id).Sublist f.takenItems := by
  by_cases hid : id < workers.length
  · have hm : f.takenBy id ∈ (List.range workers.length).map f.takenBy :=
      List.mem_map_of_mem (List.mem_range.2 hid)
    exact ha.shuffle_taken.sublist hm
  · rw [f.takenBy_eq, ha.idle id (Nat.le_of_not_lt hid)]
    exact List.nil_sublist _

end Pool.Accounts

namespace Run

/-- Each worker keeps the order of the source, and the sink gets what the workers made in some order
that keeps the order of each. -/
structure InOrder (p : Plan σ) (r : Run σ) : Prop where
  taken : ∀ id, (r.floor.takenBy id).Sublist p.source.offers
  shares : Shuffle ((List.range (Pool.size p.workers)).map r.floor.takenBy) p.submissions
  results : Shuffle ((List.range (Pool.size p.workers)).map fun id =>
    (r.floor.takenBy id).filterMap p.handlers.text?) r.floor.emittedTexts
  sink : r.drain.state = (p.sink.flush (p.sink.after p.state r.floor.emittedTexts)).2
  reports : Shuffle ((List.range (Pool.size p.workers)).map fun id =>
    (r.floor.takenBy id).filterMap p.handlers.failure?) r.floor.reports
  alone : p.workers ≤ 1 → r.floor.emittedTexts = p.submissions.filterMap p.handlers.text? ∧
    r.floor.reports = p.submissions.filterMap p.handlers.failure?

theorem Accounted.inOrder {p : Plan σ} {r : Run σ} (ha : r.Accounted p) (ho : r.Orderly) (hd : r.stage = .done)
    (hf : ∀ item, p.filter item ≠ .crash) (hr : ∀ failure, p.handlers.report failure = none)
    (hh : r.drain.Healthy) : InOrder p r := by
  obtain ⟨_, hworkers, _⟩ := ho.over hd
  obtain ⟨hexited, hinput, hqueued, _, _⟩ := ha.processed ho hd hf hr
  obtain ⟨hfinished, hsent⟩ := ha.drained ho hd hh
  have htaken : r.floor.takenItems = p.submissions := by
    have hb := ha.balanced.input
    rw [hinput, List.append_nil, hqueued] at hb
    exact hb.symm
  have hshares := ha.pool.shuffle_taken
  have hresults := ha.pool.shuffle_sentTexts hworkers
  have hreports := ha.pool.shuffle_reports hexited
  rw [ha.size] at hshares hresults hreports
  rw [htaken] at hshares
  rw [← hsent] at hresults
  refine ⟨?_, hshares, hresults, ha.drain.flushed hh hfinished, hreports, ?_⟩
  · intro id
    have hs := ha.pool.takenBy_sublist id
    rw [htaken] at hs
    exact hs.trans p.submissions_sublist
  · intro hn
    -- The only worker has all items in its share, and nobody else's share comes in between.
    have hsize : Pool.size p.workers = 1 := by
      rw [Pool.size]
      omega
    rw [hsize] at hshares hresults hreports
    have hall := hshares.eq_of_single
    rw [hall]
    exact ⟨hresults.eq_of_single, hreports.eq_of_single⟩

/-- For every plan whose filter, reporter and sink do not fail, and for every order of the steps of
its threads: the submitted items are dealt out to the workers so that each has its own in the order of
the source, and what is emitted is shuffled from what each of them made of its own, in the order in
which it took them. A single worker therefore keeps the order of the source. -/
theorem every_run_keeps_order (p : Plan σ) (hf : ∀ item, p.filter item ≠ .crash)
    (hr : ∀ failure, p.handlers.report failure = none) (hs : p.sink.Reliable) :
    Concludes (Step p) (InOrder p) (start p) := by
  apply concludes_of_done
  intro r h hd
  exact h.accounted.inOrder h.possible.orderly hd hf hr (h.healthy hs)

def follow (p : Plan σ) : List Actor → Run σ → Option (Run σ)
  | [], r => some r
  | a :: rest, r => (r.step p a).bind (follow p rest)

theorem reachable_follow {p : Plan σ} {actors : List Actor} {r s : Run σ} (hr : Reachable p r)
    (h : follow p actors r = some s) : Reachable p s := by
  induction actors generalizing r with
  | nil =>
      cases h
      exact hr
  | cons a rest ih =>
      obtain ⟨t, ht, hs⟩ := Option.bind_eq_some_iff.1 h
      exact ih (hr.step ht) hs

/-- The second worker takes its item later and is done with it sooner. -/
def overtaking : List Actor :=
  [.conductor, .producer, .producer, .producer, .producer, .conductor,
    .worker 0, .worker 1, .worker 1, .worker 1, .worker 0, .worker 0,
    .worker 0, .worker 0, .worker 0, .worker 0, .worker 1, .conductor, .conductor, .conductor,
    .sink, .sink, .sink, .sink, .sink, .sink, .sink, .sink, .conductor]

theorem follow_overtaking : (follow Plan.pair overtaking (start Plan.pair)).isSome = true := by decide

theorem every_run_keeps_order_overtaking :
    (∀ item, Plan.pair.filter item ≠ .crash) ∧ (∀ failure, Plan.pair.handlers.report failure = none) ∧
    Plan.pair.sink.Reliable ∧ Concludes (Step Plan.pair) (InOrder Plan.pair) (start Plan.pair) ∧
    ∃ r, Reachable Plan.pair r ∧ r.stage = .done ∧ r.floor.takenBy 0 = ["a", "a"] ∧
      r.floor.takenBy 1 = ["b"] ∧ r.floor.emittedTexts = ["b!", "a!", "a!"] := by
  have hf : ∀ item, Plan.pair.filter item ≠ .crash := fun _ => Verdict.noConfusion
  have hr : ∀ failure, Plan.pair.handlers.report failure = none := fun _ => rfl
  have hs : Plan.pair.sink.Reliable := ⟨fun _ _ => rfl, fun _ => rfl⟩
  refine ⟨hf, hr, hs, every_run_keeps_order Plan.pair hf hr hs, ?_⟩
  refine ⟨(follow Plan.pair overtaking (start Plan.pair)).get follow_overtaking, ?_, ?_, ?_, ?_, ?_⟩
  · exact reachable_follow .start (Option.some_get _).symm
  · decide
  · decide
  · decide
  · decide

end Run

end BatchClassifier
