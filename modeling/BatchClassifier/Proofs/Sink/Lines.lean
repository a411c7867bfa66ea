import BatchClassifier.Proofs.Sink.Draining
import BatchClassifier.Proofs.Sink.Writing

namespace BatchClassifier

variable {ω : Type}

namespace Lines

def line (text : String) : List UInt8 := Text.Utf8.encode text.toList ++ Text.Utf8.encode ['\n']

def page (results : List String) : List UInt8 := results.flatMap line

theorem page_append (results more : List String) : page (results ++ more) = page results ++ page more :=
  List.flatMap_append

theorem page_concat (results : List String) (text : String) :
    page (results ++ [text]) = page results ++ line text := by
  rw [page_append, page, page, List.flatMap_singleton]

theorem page_prefix {results more : List String} (h : results <+: more) : page results <+: page more := by
  obtain ⟨rest, rfl⟩ := h
  rw [page_append]
  exact List.prefix_append _ _

def andThen (r : Option IoFault × Lines ω) (next : Lines ω → Option IoFault × Lines ω) :
    Option IoFault × Lines ω :=
  match r with
  | (some fault, l) => (some fault, l)
  | (none, l) => next l

theorem writeLine_eq (w : Writer ω) (l : Lines ω) (text : String) :
    l.writeLine w text =
      andThen (l.write w (Text.Utf8.encode text.toList)) (write w · (Text.Utf8.encode ['\n'])) := rfl

theorem emit_eq (w : Writer ω) (l : Lines ω) (text : String) :
    (Sink.lines w).emit l text = reply (andThen (l.writeLine w text) (flush w)) := by
  rcases h : l.writeLine w text with ⟨_ | fault, m⟩ <;> simp [Sink.lines, andThen, reply, h]

/-- What was taken of the bytes that were offered: all of them, unless there was a fault. -/
def Offered (l : Lines ω) (bytes : List UInt8) (r : Option IoFault × Lines ω) : Prop :=
  ∃ got, r.2.taken = l.taken ++ got ∧ got <+: bytes ∧ (r.1 = none → got = bytes)

theorem offered_write (w : Writer ω) (l : Lines ω) (bytes : List UInt8) : l.Offered bytes (l.write w bytes) :=
  ⟨_, rfl, w.taken_prefix _ _, Writer.taken_eq_of_fault_eq_none⟩

theorem offered_flush (w : Writer ω) (l : Lines ω) : l.Offered [] (l.flush w) :=
  ⟨[], (List.append_nil _).symm, List.prefix_rfl, fun _ => rfl⟩

theorem Offered.andThen {l : Lines ω} {bytes more : List UInt8} {r : Option IoFault × Lines ω}
    {next : Lines ω → Option IoFault × Lines ω} (h : l.Offered bytes r)
    (hn : ∀ m : Lines ω, m.Offered more (next m)) : l.Offered (bytes ++ more) (andThen r next) := by
  obtain ⟨got, htaken, hpart, hwhole⟩ := h
  obtain ⟨fault, m⟩ := r
  cases fault with
  | some fault => exact ⟨got, htaken, hpart.trans (List.prefix_append _ _), fun h => by cases h⟩
  | none =>
      obtain ⟨got', htaken', hpart', hwhole'⟩ := hn m
      obtain rfl := hwhole rfl
      refine ⟨got ++ got', ?_, (List.prefix_append_right_inj _).2 hpart', ?_⟩
      · rw [Lines.andThen, htaken', htaken, List.append_assoc]
      · exact fun h => congrArg (got ++ ·) (hwhole' h)

theorem offered_emit (w : Writer ω) (l : Lines ω) (text : String) :
    l.Offered (line text) (Lines.andThen (l.writeLine w text) (flush w)) := by
  have h := ((offered_write w l (Text.Utf8.encode text.toList)).andThen
    fun m => offered_write w m (Text.Utf8.encode ['\n'])).andThen (offered_flush w)
  rwa [List.append_nil, ← writeLine_eq] at h

section

open Writer (Act Ends takenIn)

def Logged (l : Lines (ω × List Act)) (r : Option IoFault × Lines (ω × List Act)) : Prop :=
  ∃ acts, r.2.writer.2 = l.writer.2 ++ acts ∧ r.2.taken = l.taken ++ takenIn acts ∧ Ends acts r.1

variable (w : Writer ω)

theorem logged_write (l : Lines (ω × List Act)) (bytes : List UInt8) :
    l.Logged (l.write w.recorded bytes) := by
  obtain ⟨acts, heq, htaken, hends⟩ := w.writeAll_recorded l.writer.1 bytes l.writer.2
  refine ⟨acts, ?_, ?_, ?_⟩
  · rw [write, heq]
  · rw [write, heq, htaken]
  · rw [write, heq]
    exact hends

theorem logged_flush (l : Lines (ω × List Act)) : l.Logged (l.flush w.recorded) :=
  ⟨[_], rfl, (List.append_nil _).symm, .single (.flush (w.flush l.writer.1).1)⟩

theorem Logged.andThen {l : Lines (ω × List Act)} {r : Option IoFault × Lines (ω × List Act)}
    {next : Lines (ω × List Act) → Option IoFault × Lines (ω × List Act)} (h : l.Logged r)
    (hn : ∀ m : Lines (ω × List Act), m.Logged (next m)) : l.Logged (andThen r next) := by
  obtain ⟨acts, hlog, htaken, hends⟩ := h
  obtain ⟨fault, m⟩ := r
  cases fault with
  | some fault => exact ⟨acts, hlog, htaken, hends⟩
  | none =>
      obtain ⟨more, hlog', htaken', hends'⟩ := hn m
      refine ⟨acts ++ more, ?_, ?_, hends.append hends'⟩
      · rw [Lines.andThen, hlog', hlog, List.append_assoc]
      · rw [Lines.andThen, htaken', htaken, Writer.takenIn_append, List.append_assoc]

theorem logged_emit (l : Lines (ω × List Act)) (text : String) :
    l.Logged (Lines.andThen (l.writeLine w.recorded text) (flush w.recorded)) :=
  ((logged_write w l _).andThen fun m => logged_write w m _).andThen (logged_flush w)

def plain (l : Lines (ω × List Act)) : Lines ω :=
  { writer := l.writer.1, taken := l.taken, flushes := l.flushes }

theorem write_plain (l : Lines (ω × List Act)) (bytes : List UInt8) :
    l.plain.write w bytes = Prod.map id plain (l.write w.recorded bytes) := by
  obtain ⟨acts, heq, _⟩ := w.writeAll_recorded l.writer.1 bytes l.writer.2
  rw [write, write, heq]
  rfl

theorem andThen_plain {r : Option IoFault × Lines (ω × List Act)}
    {next : Lines ω → Option IoFault × Lines ω}
    {next' : Lines (ω × List Act) → Option IoFault × Lines (ω × List Act)}
    (hn : ∀ m : Lines (ω × List Act), next m.plain = Prod.map id plain (next' m)) :
    andThen (Prod.map id plain r) next = Prod.map id plain (andThen r next') := by
  rcases r with ⟨_ | fault, m⟩
  · exact hn m
  · rfl

theorem reply_plain (r : Option IoFault × Lines (ω × List Act)) :
    reply (Prod.map id plain r) = Prod.map id plain (reply r) := by
  rcases r with ⟨_ | fault, m⟩ <;> rfl

theorem writeLine_plain (l : Lines (ω × List Act)) (text : String) :
    l.plain.writeLine w text = Prod.map id plain (l.writeLine w.recorded text) := by
  rw [writeLine_eq, write_plain]
  exact andThen_plain fun m => write_plain w m _

theorem emit_plain (l : Lines (ω × List Act)) (text : String) :
    (Sink.lines w).emit l.plain text = Prod.map id plain ((Sink.lines w.recorded).emit l text) := by
  rw [emit_eq, emit_eq, writeLine_plain, ← reply_plain]
  exact congrArg reply (andThen_plain fun _ => rfl)

theorem flush_plain (l : Lines (ω × List Act)) :
    (Sink.lines w).flush l.plain = Prod.map id plain ((Sink.lines w.recorded).flush l) :=
  reply_plain (l.flush w.recorded)

end

section

variable {w : Writer ω} {l m : Lines ω} {text : String} {fault : IoFault}

theorem reply_eq_done {r : Option IoFault × Lines ω} (h : reply r = (.done, m)) : r = (none, m) := by
  rcases r with ⟨_ | fault, l⟩ <;> simp_all [reply]

theorem reply_eq_failed {r : Option IoFault × Lines ω} (h : reply r = (.failed fault, m)) :
    r = (some fault, m) := by
  rcases r with ⟨_ | fault, l⟩ <;> simp_all [reply]

theorem reply_ne_crashed (r : Option IoFault × Lines ω) (crash : Crash) : reply r ≠ (.crashed crash, m) := by
  rcases r with ⟨_ | fault, l⟩ <;> simp [reply]

theorem emit_ne_crashed (w : Writer ω) (l : Lines ω) (text : String) (crash : Crash) :
    (Sink.lines w).emit l text ≠ (.crashed crash, m) := by
  rw [emit_eq]
  exact reply_ne_crashed _ crash

theorem reply_of_fault_eq_none {r : Option IoFault × Lines ω} (h : r.1 = none) : (reply r).1 = .done := by
  rcases r with ⟨_ | fault, l⟩
  · rfl
  · cases h

theorem andThen_fault_eq_none {r : Option IoFault × Lines ω} {next : Lines ω → Option IoFault × Lines ω}
    (hr : r.1 = none) (hn : ∀ m, (next m).1 = none) : (andThen r next).1 = none := by
  rcases r with ⟨_ | fault, m⟩
  · exact hn m
  · cases hr

theorem reliable_of_willing (hw : w.Willing) : (Sink.lines w).Reliable := by
  have hwrite : ∀ (l : Lines ω) bytes, (l.write w bytes).1 = none := fun l bytes => hw.fault_eq_none l.writer bytes
  have hflush : ∀ l : Lines ω, (l.flush w).1 = none := fun l => hw.flush l.writer
  constructor
  · intro l text
    rw [emit_eq, writeLine_eq]
    apply reply_of_fault_eq_none
    exact andThen_fault_eq_none (andThen_fault_eq_none (hwrite l _) fun m => hwrite m _) hflush
  · exact fun l => reply_of_fault_eq_none (hflush l)

theorem taken_of_flush {r : Reply} (h : (Sink.lines w).flush l = (r, m)) : m.taken = l.taken := by
  obtain ⟨got, htaken, hpart, _⟩ := offered_flush w l
  have hm : (l.flush w).2 = m := by
    have hr := congrArg Prod.snd h
    rcases hf : l.flush w with ⟨_ | fault, k⟩ <;> simpa [Sink.lines, reply, hf] using hr
  rw [hm, List.prefix_nil.1 hpart, List.append_nil] at htaken
  exact htaken

theorem taken_of_emit_done (h : (Sink.lines w).emit l text = (.done, m)) :
    m.taken = l.taken ++ line text := by
  obtain ⟨got, htaken, _, hwhole⟩ := offered_emit w l text
  rw [emit_eq] at h
  rw [reply_eq_done h] at htaken hwhole
  rw [htaken, hwhole rfl]

theorem taken_of_emit_failed (h : (Sink.lines w).emit l text = (.failed fault, m)) :
    ∃ got, m.taken = l.taken ++ got ∧ got <+: line text := by
  obtain ⟨got, htaken, hpart, _⟩ := offered_emit w l text
  rw [emit_eq] at h
  rw [reply_eq_failed h] at htaken
  exact ⟨got, htaken, hpart⟩

end

end Lines

end BatchClassifier
