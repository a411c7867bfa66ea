import BatchClassifier.Sink.Writer

namespace BatchClassifier

variable {ω : Type}

namespace Writer

inductive Act
  | write (bytes : List UInt8) (portion : Portion)
  | flush (fault : Option IoFault)

namespace Act

def taken : Act → List UInt8
  | .write bytes (.took n) => bytes.take n
  | .write _ _ | .flush _ => []

/-- The fault that the call amounts to. An interruption is none, for the call is made again. -/
def fault? : Act → Option IoFault
  | .write _ (.took 0) => some .wroteNothing
  | .write _ (.failed fault) => some fault
  | .write _ _ => none
  | .flush fault => fault

end Act

def takenIn (acts : List Act) : List UInt8 := acts.flatMap Act.taken

theorem takenIn_append (acts more : List Act) : takenIn (acts ++ more) = takenIn acts ++ takenIn more :=
  List.flatMap_append

theorem takenIn_prefix {early acts : List Act} (h : early <+: acts) : takenIn early <+: takenIn acts := by
  obtain ⟨late, rfl⟩ := h
  rw [takenIn_append]
  exact List.prefix_append _ _

/-- All calls went well, or all but the last one, whose fault it is. -/
inductive Ends : List Act → Option IoFault → Prop
  | well {acts : List Act} (h : ∀ c ∈ acts, c.fault? = none) : Ends acts none
  | badly {early : List Act} {last : Act} {fault : IoFault} (h : ∀ c ∈ early, c.fault? = none)
      (hl : last.fault? = some fault) : Ends (early ++ [last]) (some fault)

namespace Ends

variable {acts more : List Act} {fault : Option IoFault}

theorem nil : Ends [] none := .well fun _ hc => absurd hc List.not_mem_nil

theorem single (c : Act) : Ends [c] c.fault? := by
  cases hc : c.fault? with
  | none =>
      apply Ends.well
      intro d hd
      rw [List.mem_singleton.1 hd, hc]
  | some fault =>
      have hn : ∀ d ∈ ([] : List Act), d.fault? = none := fun d hd => absurd hd List.not_mem_nil
      exact .badly hn hc

theorem append (h : Ends acts none) (hm : Ends more fault) : Ends (acts ++ more) fault := by
  cases h with
  | well h =>
      cases hm with
      | well hm =>
          apply Ends.well
          intro c hc
          exact (List.mem_append.1 hc).elim (h c) (hm c)
      | badly hm hl =>
          rw [← List.append_assoc]
          refine .badly ?_ hl
          intro c hc
          exact (List.mem_append.1 hc).elim (h c) (hm c)

theorem eq_none_iff (h : Ends acts fault) : fault = none ↔ ∀ c ∈ acts, c.fault? = none := by
  cases h with
  | well h => exact ⟨fun _ => h, fun _ => rfl⟩
  | @badly early last fault h hl =>
      constructor
      · intro hf
        cases hf
      · intro hall
        rw [hall last (by simp)] at hl
        exact hl.symm

end Ends

def recorded (w : Writer ω) : Writer (ω × List Act) where
  write s bytes :=
    let (portion, t) := w.write s.1 bytes
    (portion, (t, s.2 ++ [.write bytes portion]))
  flush s :=
    let (fault, t) := w.flush s.1
    (fault, (t, s.2 ++ [.flush fault]))
  stalls s bytes := w.stalls s.1 bytes
  stalls_lt h := by
    obtain ⟨hp, rfl⟩ := Prod.mk.inj h
    exact w.stalls_lt (Prod.ext hp rfl)

theorem write_recorded {w : Writer ω} {s t : ω} {bytes : List UInt8} {portion : Portion}
    (h : w.write s bytes = (portion, t)) (log : List Act) :
    w.recorded.write (s, log) bytes = (portion, (t, log ++ [.write bytes portion])) := by
  simp [recorded, h]

section

variable {w : Writer ω} {s t : ω} {bytes : List UInt8}

@[simp] theorem writeAll_nil (w : Writer ω) (s : ω) : w.writeAll s [] = ⟨[], none, s⟩ := by
  rw [writeAll]

def writtenAfter (w : Writer ω) (bytes : List UInt8) : Portion × ω → Written ω
  | (.took 0, t) => ⟨[], some .wroteNothing, t⟩
  | (.took (n + 1), t) =>
    { w.writeAll t (bytes.drop (n + 1)) with
      taken := bytes.take (n + 1) ++ (w.writeAll t (bytes.drop (n + 1))).taken }
  | (.interrupted, t) => w.writeAll t bytes
  | (.failed fault, t) => ⟨[], some fault, t⟩

theorem writeAll_eq (hb : bytes ≠ []) : w.writeAll s bytes = w.writtenAfter bytes (w.write s bytes) := by
  cases bytes with
  | nil => exact absurd rfl hb
  | cons b rest =>
      rw [writeAll]
      split <;> simp_all [writtenAfter]

theorem writeAll_of_took {n : Nat} (hb : bytes ≠ []) (h : w.write s bytes = (.took (n + 1), t)) :
    w.writeAll s bytes =
      { w.writeAll t (bytes.drop (n + 1)) with
        taken := bytes.take (n + 1) ++ (w.writeAll t (bytes.drop (n + 1))).taken } := by
  rw [writeAll_eq hb, h, writtenAfter]

theorem writeAll_of_interrupted (hb : bytes ≠ []) (h : w.write s bytes = (.interrupted, t)) :
    w.writeAll s bytes = w.writeAll t bytes := by
  rw [writeAll_eq hb, h, writtenAfter]

theorem writeAll_of_took_zero (hb : bytes ≠ []) (h : w.write s bytes = (.took 0, t)) :
    w.writeAll s bytes = ⟨[], some .wroteNothing, t⟩ := by
  rw [writeAll_eq hb, h, writtenAfter]

theorem writeAll_of_failed {fault : IoFault} (hb : bytes ≠ []) (h : w.write s bytes = (.failed fault, t)) :
    w.writeAll s bytes = ⟨[], some fault, t⟩ := by
  rw [writeAll_eq hb, h, writtenAfter]

theorem taken_prefix (w : Writer ω) (s : ω) (bytes : List UInt8) : (w.writeAll s bytes).taken <+: bytes := by
  induction s, bytes using writeAll.induct w with
  | case1 s => simp
  | case2 s b rest t h =>
      rw [writeAll_of_took_zero (List.cons_ne_nil b rest) h]
      exact List.nil_prefix
  | case3 s b rest n t h ih =>
      rw [writeAll_of_took (List.cons_ne_nil b rest) h]
      have hcut := List.take_append_drop (n + 1) (b :: rest)
      conv => rhs; rw [← hcut]
      exact (List.prefix_append_right_inj _).2 ih
  | case4 s b rest t h ih =>
      rw [writeAll_of_interrupted (List.cons_ne_nil b rest) h]
      exact ih
  | case5 s b rest fault t h =>
      rw [writeAll_of_failed (List.cons_ne_nil b rest) h]
      exact List.nil_prefix

theorem taken_eq_of_fault_eq_none (h : (w.writeAll s bytes).fault = none) :
    (w.writeAll s bytes).taken = bytes := by
  induction s, bytes using writeAll.induct w with
  | case1 s => simp
  | case2 s b rest t hw =>
      rw [writeAll_of_took_zero (List.cons_ne_nil b rest) hw] at h
      cases h
  | case3 s b rest n t hw ih =>
      rw [writeAll_of_took (List.cons_ne_nil b rest) hw] at h ⊢
      have hi : (w.writeAll t ((b :: rest).drop (n + 1))).taken = (b :: rest).drop (n + 1) := ih h
      rw [hi, List.take_append_drop]
  | case4 s b rest t hw ih =>
      rw [writeAll_of_interrupted (List.cons_ne_nil b rest) hw] at h ⊢
      exact ih h
  | case5 s b rest fault t hw =>
      rw [writeAll_of_failed (List.cons_ne_nil b rest) hw] at h
      cases h

structure Willing (w : Writer ω) : Prop where
  took : ∀ s b rest t, w.write s (b :: rest) ≠ (.took 0, t)
  failed : ∀ s b rest fault t, w.write s (b :: rest) ≠ (.failed fault, t)
  flush : ∀ s, (w.flush s).1 = none

theorem Willing.fault_eq_none (hw : w.Willing) (s : ω) (bytes : List UInt8) :
    (w.writeAll s bytes).fault = none := by
  induction s, bytes using writeAll.induct w with
  | case1 s => simp
  | case2 s b rest t h => exact absurd h (hw.took s b rest t)
  | case3 s b rest n t h ih =>
      rw [writeAll_of_took (List.cons_ne_nil b rest) h]
      exact ih
  | case4 s b rest t h ih =>
      rw [writeAll_of_interrupted (List.cons_ne_nil b rest) h]
      exact ih
  | case5 s b rest fault t h => exact absurd h (hw.failed s b rest fault t)

theorem willing_limited : (limited {}).Willing := by
  have hwrite : ∀ p bytes, ((limited {}).write p bytes).1 = .took bytes.length := by
    intro p bytes
    simp [limited, Limits.write, Limits.stalls, Limits.room, Limits.left?]
  constructor
  · intro p b rest t h
    have hp := hwrite p (b :: rest)
    rw [h] at hp
    cases hp
  · intro p b rest fault t h
    have hp := hwrite p (b :: rest)
    rw [h] at hp
    cases hp
  · exact fun p => rfl

theorem writeAll_recorded (w : Writer ω) (s : ω) (bytes : List UInt8) (log : List Act) :
    ∃ acts, w.recorded.writeAll (s, log) bytes =
        ⟨(w.writeAll s bytes).taken, (w.writeAll s bytes).fault, ((w.writeAll s bytes).state, log ++ acts)⟩ ∧
      takenIn acts = (w.writeAll s bytes).taken ∧ Ends acts (w.writeAll s bytes).fault := by
  -- The calls are those of `writeAll` itself. Each of them is put behind the log, so the log is general.
  induction s, bytes using writeAll.induct w generalizing log with
  | case1 s => exact ⟨[], by simp, by simp [takenIn], by simpa using Ends.nil⟩
  | case2 s b rest t h =>
      have hb := List.cons_ne_nil b rest
      rw [writeAll_of_took_zero hb h, writeAll_of_took_zero hb (write_recorded h log)]
      exact ⟨[_], rfl, rfl, .single (.write (b :: rest) (.took 0))⟩
  | case3 s b rest n t h ih =>
      have hb := List.cons_ne_nil b rest
      obtain ⟨acts, heq, htaken, hends⟩ := ih (log ++ [.write (b :: rest) (.took (n + 1))])
      change w.recorded.writeAll _ ((b :: rest).drop (n + 1)) = _ at heq
      rw [writeAll_of_took hb h, writeAll_of_took hb (write_recorded h log), heq]
      refine ⟨.write (b :: rest) (.took (n + 1)) :: acts, ?_, ?_, ?_⟩
      · rw [List.append_assoc]
        rfl
      · rw [← List.singleton_append, takenIn_append, htaken]
        simp [takenIn, Act.taken]
      · exact (Ends.single (.write (b :: rest) (.took (n + 1)))).append hends
  | case4 s b rest t h ih =>
      have hb := List.cons_ne_nil b rest
      obtain ⟨acts, heq, htaken, hends⟩ := ih (log ++ [.write (b :: rest) .interrupted])
      rw [writeAll_of_interrupted hb h, writeAll_of_interrupted hb (write_recorded h log), heq]
      refine ⟨.write (b :: rest) .interrupted :: acts, ?_, ?_, ?_⟩
      · rw [List.append_assoc]
        rfl
      · rw [← List.singleton_append, takenIn_append, htaken]
        rfl
      · exact (Ends.single (.write (b :: rest) .interrupted)).append hends
  | case5 s b rest fault t h =>
      have hb := List.cons_ne_nil b rest
      rw [writeAll_of_failed hb h, writeAll_of_failed hb (write_recorded h log)]
      exact ⟨[_], rfl, rfl, .single (.write (b :: rest) (.failed fault))⟩

end

end Writer

end BatchClassifier
