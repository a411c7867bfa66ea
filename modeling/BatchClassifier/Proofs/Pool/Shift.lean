import BatchClassifier.Proofs.Run.Completion
import BatchClassifier.Proofs.Run.Conservation

namespace BatchClassifier

namespace Handlers

def succeeds (h : Handlers) (item : Item) : Bool := (h.text? item).isSome

def reportable (h : Handlers) (item : Item) : Bool := (h.failure? item).any fun f => (h.report f).isNone

def fatal (h : Handlers) (item : Item) : Bool := (h.failure? item).any fun f => (h.report f).isSome

theorem partition_perm (h : Handlers) (items : List Item) :
    items.Perm (items.filter h.succeeds ++ items.filter h.reportable ++ items.filter h.fatal) := by
  have hr : ∀ item, (h.reportable item && !h.succeeds item) = h.reportable item := by
    intro item
    rw [reportable, succeeds, text?, failure?]
    cases (h.process item).guarded <;> simp [Except.toOption]
  have hf : ∀ item, (!h.reportable item && !h.succeeds item) = h.fatal item := by
    intro item
    rw [reportable, succeeds, fatal, text?, failure?]
    cases (h.process item).guarded <;> simp [Except.toOption]
  have hs := List.filter_append_perm h.succeeds items
  have hn := List.filter_append_perm h.reportable (items.filter fun item => !h.succeeds item)
  rw [List.filter_filter, List.filter_filter] at hn
  simp only [hr, hf] at hn
  rw [List.append_assoc]
  exact hs.symm.trans (hn.symm.append_left _)

theorem filterMap_succeeds (h : Handlers) (items : List Item) :
    (items.filter h.succeeds).filterMap h.text? = items.filterMap h.text? := by
  rw [List.filterMap_filter]
  congr 1
  funext item
  cases ht : h.text? item <;> simp [succeeds, ht]

theorem filterMap_reportable (h : Handlers) (items : List Item) :
    (items.filter h.reportable).filterMap h.failure? =
      (items.filterMap h.failure?).filter fun f => (h.report f).isNone :=
  filterMap_filter_any _ _ _

theorem length_fatal (h : Handlers) (items : List Item) :
    (items.filter h.fatal).length = ((items.filterMap h.failure?).filter fun f => (h.report f).isSome).length :=
  length_filter_any _ _ _

end Handlers

namespace Worker.Accounts

variable {h : Handlers} {w : Worker} {own : List Event}

theorem failures_of_isOver (ha : w.Accounts h own) (ho : w.isOver = true) :
    ∃ owed, (own.filterMap Event.called?).filterMap h.failure? = own.filterMap Event.reported? ++ owed ∧
      owed.length = w.isLost.toNat ∧ ∀ failure ∈ owed, (h.report failure).isSome = true := by
  obtain ⟨owed, howes, hreported⟩ := ha.reported
  refine ⟨owed, hreported, ?_⟩
  obtain hc | ⟨crash, hc⟩ := cursor_of_isOver ho
  · rw [hc] at howes
    cases howes
    exact ⟨by rw [isLost, hc]; rfl, fun failure hf => by cases hf⟩
  · rw [hc] at howes
    obtain ⟨failure, hf, rfl⟩ := howes
    exact ⟨by rw [isLost, hc]; rfl, fun other ho => by rw [List.mem_singleton.1 ho, hf]; rfl⟩

theorem reported_of_isOver (ha : w.Accounts h own) (ho : w.isOver = true)
    (ht : ∀ failure ∈ own.filterMap Event.reported?, h.report failure = none) :
    own.filterMap Event.reported? = ((own.filterMap Event.called?).filter h.reportable).filterMap h.failure? := by
  obtain ⟨owed, hfailures, _, howed⟩ := ha.failures_of_isOver ho
  rw [h.filterMap_reportable, hfailures, List.filter_append,
    List.filter_eq_self.2 fun failure hf => by rw [ht failure hf]; rfl,
    List.filter_eq_nil_iff.2 fun failure hf => by simp [Option.isSome_iff_ne_none.1 (howed failure hf)],
    List.append_nil]

theorem fatal_of_isOver (ha : w.Accounts h own) (ho : w.isOver = true)
    (ht : ∀ failure ∈ own.filterMap Event.reported?, h.report failure = none) :
    w.isLost.toNat = ((own.filterMap Event.called?).filter h.fatal).length := by
  obtain ⟨owed, hfailures, hlength, howed⟩ := ha.failures_of_isOver ho
  rw [h.length_fatal, hfailures, List.filter_append,
    List.filter_eq_nil_iff.2 fun failure hf => by simp [ht failure hf],
    List.filter_eq_self.2 howed, List.nil_append, hlength]

end Worker.Accounts

def Floor.Truthful (h : Handlers) (f : Floor) : Prop := ∀ failure ∈ f.reports, h.report failure = none

theorem Worker.Moves.truthful {h : Handlers} {id : Nat} {w v : Worker} {f g : Floor}
    (hm : w.Moves h id f v g) (ht : f.Truthful h) : g.Truthful h := by
  rw [Floor.Truthful, Floor.reports_eq] at ht ⊢
  cases hm with
  | report hc hr =>
      intro failure hf
      rw [Floor.events_note, List.filterMap_append, List.mem_append] at hf
      obtain hf | hf := hf
      · exact ht failure hf
      · rw [List.mem_singleton.1 hf, hr]
  | take | call | send => simpa using ht
  | leave | crash => exact ht

namespace Pool

variable {h : Handlers} {workers : List Worker} {f : Floor}

theorem countP_isLost_eq_sum (workers : List Worker) :
    workers.countP Worker.isLost = (workers.map fun w => w.isLost.toNat).sum := by
  induction workers with
  | nil => rfl
  | cons w workers ih =>
      rw [List.countP_cons, List.map_cons, List.sum_cons, ih]
      cases w.isLost <;> simp [Nat.add_comm]

theorem truthful_eventsOf (ht : f.Truthful h) (id : Nat) :
    ∀ failure ∈ (f.eventsOf id).filterMap Event.reported?, h.report failure = none := by
  intro failure hf
  obtain ⟨e, he, hr⟩ := List.mem_filterMap.1 hf
  exact ht failure (List.mem_filterMap.2 ⟨e, (List.mem_filter.1 he).1, hr⟩)

theorem not_lost_of_join {totals : Totals} (hj : join workers = .ok totals) :
    ∀ w ∈ workers, w.isLost = false := by
  cases hf : firstLost? workers with
  | none => exact firstLost?_eq_none_iff.1 hf
  | some id =>
      rw [join_of_firstLost? hf] at hj
      cases hj

theorem join_of_lost {w : Worker} (hw : w ∈ workers) (hl : w.isLost = true) :
    ∃ id v, workers[id]? = some v ∧ v.isLost = true ∧
      (∀ i < id, ∀ u, workers[i]? = some u → u.isLost = false) ∧
      join workers = .error (.task (.threadLost (Worker.name id))) := by
  cases hf : firstLost? workers with
  | none =>
      rw [firstLost?_eq_none_iff.1 hf w hw] at hl
      cases hl
  | some id =>
      obtain ⟨hi, hlost, hfirst⟩ := List.findIdx?_eq_some_iff_getElem.1 hf
      refine ⟨id, _, List.getElem?_eq_getElem hi, hlost, ?_, join_of_firstLost? hf⟩
      intro i hlt u hu
      obtain ⟨_, rfl⟩ := List.getElem?_eq_some_iff.1 hu
      exact Bool.eq_false_iff.2 (hfirst i hlt)

theorem Accounts.reports_perm_reportable (ha : Accounts h workers f) (ho : isOver workers = true)
    (ht : f.Truthful h) : f.reports.Perm ((f.calls.filter h.reportable).filterMap h.failure?) := by
  have hk : ∀ own : List Event, ((own.filterMap Event.called?).filter h.reportable).filterMap h.failure? =
      own.filterMap fun e => (e.called?.filter h.reportable).bind h.failure? := fun own => by
    rw [List.filter_filterMap, List.filterMap_filterMap]
  rw [Floor.calls_eq, hk]
  apply ha.perm
  · intro e he
    exact (Event.eq_none_of_worker?_eq_none he).2.2.2
  · intro e he
    rw [(Event.eq_none_of_worker?_eq_none he).2.1]
    rfl
  · intro id w hw hown
    rw [← hk]
    exact hown.reported_of_isOver (isOver_of_getElem? ho hw) (truthful_eventsOf ht id)

theorem Accounts.length_fatal (ha : Accounts h workers f) (ho : isOver workers = true) (ht : f.Truthful h) :
    (f.calls.filter h.fatal).length = workers.countP Worker.isLost := by
  rw [Floor.calls_eq, List.filter_filterMap, countP_isLost_eq_sum]
  symm
  apply ha.length_eq
  · intro e he
    rw [(Event.eq_none_of_worker?_eq_none he).2.1]
    rfl
  · intro id w hw hown
    rw [← List.filter_filterMap]
    exact hown.fatal_of_isOver (isOver_of_getElem? ho hw) (truthful_eventsOf ht id)

end Pool

namespace Shift

variable {h : Handlers} {s t : Shift}

def Next (h : Handlers) (s t : Shift) : Prop := ∃ a, s.step h a = some t

inductive Moves (h : Handlers) (s : Shift) : Shift → Prop
  | queue {item : Item} {rest : List Item} (hl : s.late = item :: rest) :
      Moves h s { s with floor := s.floor.queueItem item, late := rest }
  | close (hl : s.late = []) (hc : s.floor.input.closed = false) :
      Moves h s { s with floor := s.floor.closeInput }
  | work {id : Nat} {w v : Worker} {floor : Floor} (hw : s.workers[id]? = some w)
      (hm : w.Moves h id s.floor v floor) : Moves h s { s with workers := s.workers.set id v, floor }

theorem Next.moves (hn : Next h s t) : s.Moves h t := by
  obtain ⟨a, ha⟩ := hn
  cases a with
  | client =>
      simp only [step] at ha
      split at ha <;> cases ha
      · exact .queue ‹_›
      · exact .close ‹_› ‹_›
  | worker id =>
      obtain ⟨⟨workers, floor⟩, hp, rfl⟩ := Option.map_eq_some_iff.1 ha
      obtain ⟨w, v, hw, hv, rfl⟩ := Pool.step_eq_some_iff.1 hp
      exact .work hw (Worker.moves_of_step hv)

/-- What holds wherever a shift stands that began with nothing queued and `submitted` to come. -/
structure Accounted (h : Handlers) (requested : Nat) (submitted : List Item) (s : Shift) : Prop where
  size : s.workers.length = Pool.size requested
  pool : Pool.Accounts h s.workers s.floor
  balanced : s.floor.Balanced
  queued : s.floor.queuedItems ++ s.late = submitted
  unread : s.floor.receivedTexts = []
  truthful : s.floor.Truthful h
  closed : s.floor.input.closed = true → s.late = []
  exited : ∀ w ∈ s.workers, w.cursor = .exited → s.floor.input.closed = true ∧ s.floor.input.items = []

theorem accounted_start (h : Handlers) (requested : Nat) (submitted : List Item) :
    (start requested [] submitted).Accounted h requested submitted where
  size := List.length_replicate
  pool := Pool.accounts_spawn h requested
  balanced := ⟨rfl, rfl⟩
  queued := rfl
  unread := rfl
  truthful _ hf := by cases hf
  closed hc := by cases hc
  exited w hw hc := by
    obtain ⟨_, rfl⟩ := List.mem_replicate.1 hw
    cases hc

theorem Moves.accounted {requested : Nat} {submitted : List Item} (hm : s.Moves h t)
    (ha : s.Accounted h requested submitted) : t.Accounted h requested submitted := by
  obtain ⟨hsize, hpool, hbalanced, hqueued, hunread, htruthful, hclosed, hexited⟩ := ha
  cases hm with
  | queue hl =>
      refine ⟨hsize, hpool.of_eventsOf fun _ => Floor.eventsOf_queueItem _ _ _,
        hbalanced.record rfl rfl (List.append_nil _), ?_, ?_, ?_, fun hc => ?_, fun w hw hc => ?_⟩
      · simpa [Floor.queuedItems_eq, hl] using hqueued
      · simpa [Floor.receivedTexts] using hunread
      · simpa [Floor.Truthful, Floor.reports_eq] using htruthful
      · have := hclosed hc
        simp [hl] at this
      · have := hclosed (hexited w hw hc).1
        simp [hl] at this
  | close hl hc =>
      refine ⟨hsize, hpool.of_eventsOf fun _ => Floor.eventsOf_closeInput _ _,
        hbalanced.record rfl (List.append_nil _) (List.append_nil _), ?_, ?_, ?_, fun _ => hl, fun w hw he => ?_⟩
      · simpa [Floor.queuedItems_eq] using hqueued
      · simpa [Floor.receivedTexts] using hunread
      · simpa [Floor.Truthful, Floor.reports_eq] using htruthful
      · have := (hexited w hw he).1
        simp [hc] at this
  | work hw hm =>
      refine ⟨by rw [List.length_set]; exact hsize, hpool.set hw hm, hm.balanced hbalanced,
        hm.queuedItems_eq ▸ hqueued, hm.receivedTexts_eq.trans hunread, hm.truthful htruthful,
        fun hc => hclosed (hm.input_closed ▸ hc), hm.exited_set hexited⟩

theorem start_reaches (h : Handlers) (requested : Nat) (early late : List Item) :
    Relation.ReflTransGen (Next h) (start requested [] (early ++ late)) (start requested early late) := by
  have hr : ∀ (workers : List Worker) (f : Floor),
      Relation.ReflTransGen (Next h) ⟨workers, f, early ++ late⟩ ⟨workers, early.foldl Floor.queueItem f, late⟩ := by
    induction early with
    | nil => exact fun _ _ => .refl
    | cons item early ih => exact fun workers f => .head ⟨.client, rfl⟩ (ih workers (f.queueItem item))
  exact hr _ _

theorem accounted_of_reaches {requested : Nat} {early late : List Item}
    (hr : Relation.ReflTransGen (Next h) (start requested early late) s) :
    s.Accounted h requested (early ++ late) := by
  replace hr := (start_reaches h requested early late).trans hr
  induction hr with
  | refl => exact accounted_start h requested (early ++ late)
  | tail _ hn ih => exact hn.moves.accounted ih

/-- An item costs six steps before it is queued, five in the queue, and what is left of them after. -/
def effort (s : Shift) : Nat :=
  6 * s.late.length + 5 * s.floor.input.length + Pool.work s.workers + 2 * s.floor.output.length +
    if s.floor.input.closed then 0 else 1

theorem Moves.effort_lt (hm : s.Moves h t) : t.effort < s.effort := by
  cases hm with
  | @queue item rest hl =>
      change 6 * rest.length + 5 * (s.floor.input.items ++ [item]).length + Pool.work s.workers +
        2 * s.floor.output.length + (if s.floor.input.closed then 0 else 1) < s.effort
      simp only [effort, hl, Queue.length, List.length_append, List.length_cons, List.length_nil]
      omega
  | close _ hc => simp [effort, hc, Floor.closeInput, Floor.note, Queue.length]
  | @work id w v floor hw hm =>
      have hl := hm.work_lt
      have hs := Pool.work_set hw (v := v)
      simp only [effort, hm.input_closed]
      omega

theorem over_of_settled (hn : ∀ t, ¬ Next h s t) :
    s.late = [] ∧ s.floor.input.closed = true ∧ Pool.isOver s.workers = true := by
  have hlate : s.late = [] := by
    cases hl : s.late with
    | nil => rfl
    | cons item rest => exact absurd ⟨.client, by rw [step, hl]⟩ (hn _)
  have hclosed : s.floor.input.closed = true := by
    cases hc : s.floor.input.closed with
    | true => rfl
    | false => exact absurd ⟨.client, by rw [step, hlate, hc]⟩ (hn _)
  refine ⟨hlate, hclosed, ?_⟩
  cases hw : Pool.isOver s.workers with
  | true => rfl
  | false =>
      obtain ⟨id, ⟨workers, floor⟩, hp⟩ := Pool.exists_step h hw hclosed
      exact absurd ⟨.worker id, by rw [step, hp]; rfl⟩ (hn _)

/-- What has become of the submitted items when the pool is joined, and what the join says about it. -/
structure Settled (h : Handlers) (requested : Nat) (submitted : List Item) (s : Shift) : Prop where
  partition : submitted.Perm (s.floor.calls.filter h.succeeds ++ s.floor.calls.filter h.reportable ++
    s.floor.calls.filter h.fatal ++ s.floor.input.items)
  output : s.floor.output.items.Perm ((s.floor.calls.filter h.succeeds).filterMap h.text?)
  reports : s.floor.reports.Perm ((s.floor.calls.filter h.reportable).filterMap h.failure?)
  fatal : (s.floor.calls.filter h.fatal).length = s.workers.countP Worker.isLost
  left : s.floor.input.items ≠ [] → ∀ w ∈ s.workers, w.isLost = true
  join_ok_iff : (∃ totals, Pool.join s.workers = .ok totals) ↔ ∀ w ∈ s.workers, w.isLost = false
  totals : ∀ totals, Pool.join s.workers = .ok totals → totals =
    ⟨max requested 1, (submitted.filterMap h.text?).length, (submitted.filterMap h.failure?).length⟩
  join_error : (∃ w ∈ s.workers, w.isLost = true) → ∃ id w, s.workers[id]? = some w ∧ w.isLost = true ∧
    (∀ i < id, ∀ u, s.workers[i]? = some u → u.isLost = false) ∧
    Pool.join s.workers = .error (.task (.threadLost (Worker.name id)))

namespace Accounted

variable {requested : Nat} {submitted : List Item}

theorem calls_perm (ha : s.Accounted h requested submitted) (hl : s.late = []) (ho : Pool.isOver s.workers = true) :
    submitted.Perm (s.floor.calls ++ s.floor.input.items) := by
  have hq := ha.queued
  rw [hl, List.append_nil, ha.balanced.input] at hq
  exact hq ▸ (ha.pool.calls_perm ho).symm.append_right _

theorem output_eq (ha : s.Accounted h requested submitted) : s.floor.output.items = s.floor.sentTexts := by
  rw [ha.balanced.output, ha.unread, List.nil_append]

theorem input_eq_nil (ha : s.Accounted h requested submitted) (ho : Pool.isOver s.workers = true) {w : Worker}
    (hw : w ∈ s.workers) (hl : w.isLost = false) : s.floor.input.items = [] := by
  -- A worker that is over and not lost has found the queue closed and empty.
  have hc : w.cursor = .exited := Worker.exited_of_isOver (List.all_eq_true.1 ho w hw) hl
  exact (ha.exited w hw hc).2

theorem join_eq (ha : s.Accounted h requested submitted) (hl : s.late = []) (ho : Pool.isOver s.workers = true)
    (hn : ∀ w ∈ s.workers, w.isLost = false) : Pool.join s.workers =
      .ok ⟨max requested 1, (submitted.filterMap h.text?).length, (submitted.filterMap h.failure?).length⟩ := by
  have hpos : 0 < s.workers.length := by
    rw [ha.size, Pool.size]
    omega
  obtain ⟨w, hw⟩ := List.exists_mem_of_length_pos hpos
  have hcalls := ha.calls_perm hl ho
  rw [ha.input_eq_nil ho hw (hn w hw), List.append_nil] at hcalls
  have hexited : ∀ w ∈ s.workers, w.cursor = .exited := fun w hw =>
    Worker.exited_of_isOver (List.all_eq_true.1 ho w hw) (hn w hw)
  have hsent := (ha.pool.sentTexts_perm ho).trans (hcalls.symm.filterMap _)
  have hreports := (ha.pool.reports_perm hexited).trans (hcalls.symm.filterMap _)
  rw [ha.pool.join_eq hn, ha.size, hsent.length_eq, hreports.length_eq]
  rfl

theorem settled (ha : s.Accounted h requested submitted) (hl : s.late = []) (ho : Pool.isOver s.workers = true) :
    Settled h requested submitted s where
  partition := (ha.calls_perm hl ho).trans ((h.partition_perm _).append_right _)
  output := by
    rw [ha.output_eq, h.filterMap_succeeds]
    exact ha.pool.sentTexts_perm ho
  reports := ha.pool.reports_perm_reportable ho ha.truthful
  fatal := ha.pool.length_fatal ho ha.truthful
  left hi w hw := by
    by_contra hn
    exact hi (ha.input_eq_nil ho hw (Bool.eq_false_iff.2 hn))
  join_ok_iff := ⟨fun ⟨_, ht⟩ => Pool.not_lost_of_join ht, fun hn => ⟨_, ha.join_eq hl ho hn⟩⟩
  totals totals ht := by
    rw [ha.join_eq hl ho (Pool.not_lost_of_join ht)] at ht
    exact (Except.ok.inj ht).symm
  join_error := fun ⟨_, hw, hlost⟩ => Pool.join_of_lost hw hlost

end Accounted

/-- For every pool, whatever is queued before it begins and while it works, and in whatever order its
workers move: every execution ends with the pool joined; each submitted item has its result in the
output queue, or its report, or has cost one worker its life, or is still queued and no worker is left
alive; and the join counts the items unless a worker was lost, and names the first of those otherwise. -/
theorem every_shift_settles (h : Handlers) (requested : Nat) (early late : List Item) :
    Concludes (Next h) (fun s => s.late = [] ∧ s.floor.input.closed = true ∧ Pool.isOver s.workers = true ∧
      Settled h requested (early ++ late) s) (start requested early late) := by
  apply Concludes.of_measure effort
  · intro s t hn
    exact hn.moves.effort_lt
  · intro s hr hn
    obtain ⟨hl, hc, ho⟩ := over_of_settled hn
    exact ⟨hl, hc, ho, (accounted_of_reaches hr).settled hl ho⟩

/-- The only worker dies of the second item, and the third is left. -/
example : (run Plan.unlucky.handlers (start 0 ["a", "d"] ["e"])).floor.input.items = ["e"] := by decide

end Shift

end BatchClassifier
