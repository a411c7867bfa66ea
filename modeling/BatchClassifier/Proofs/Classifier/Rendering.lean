import BatchClassifier.Proofs.Classifier.Line
import BatchClassifier.Proofs.Text.Newline

namespace BatchClassifier

def SingleLine (text : String) : Prop := '\n' ∉ text.toList

theorem SingleLine.append {text more : String} (h : SingleLine text) (hm : SingleLine more) :
    SingleLine (text ++ more) := by
  rw [SingleLine, String.toList_append, List.mem_append]
  exact not_or.2 ⟨h, hm⟩

namespace ResultLine

theorem singleLine_parts {texts : List String} (h : ∀ text ∈ texts, SingleLine text) :
    SingleLine (parts texts) := by
  induction texts with
  | nil => simp [parts, SingleLine]
  | cons text texts ih =>
      have hseparator : SingleLine separator := by simp [SingleLine, separator]
      have htexts := ih fun other ho => h other (List.mem_cons_of_mem text ho)
      exact (hseparator.append (h text List.mem_cons_self)).append htexts

theorem singleLine_time (elapsed : Option Elapsed) : ∀ text ∈ time elapsed, SingleLine text := by
  cases elapsed with
  | none => simp [time]
  | some e =>
      intro text ht
      rw [List.mem_singleton.1 ht]
      exact SingleLine.append (Text.newline_notMem_toString e.millis) (by simp [SingleLine])

theorem singleLine_prediction {p : Prediction Score} (h : SingleLine p.name) : SingleLine (prediction p) := by
  have hspace : SingleLine " " := by simp [SingleLine]
  exact (h.append hspace).append (Score.newline_notMem_fixed places p.confidence)

theorem singleLine_grammar {path : String} (elapsed : Option Elapsed) {predictions : List (Prediction Score)}
    (hpath : SingleLine path) (hnames : ∀ p ∈ predictions, SingleLine p.name) :
    SingleLine (grammar path elapsed predictions) := by
  refine (hpath.append (singleLine_parts (singleLine_time elapsed))).append (singleLine_parts ?_)
  intro text ht
  obtain ⟨p, hp, rfl⟩ := List.mem_map.1 ht
  exact singleLine_prediction (hnames p hp)

theorem singleLine_dangling (k : Nat) (predictions : List (Prediction Score)) :
    SingleLine (dangling k predictions) := by
  rw [dangling]
  split <;> simp [SingleLine, separator]

end ResultLine

namespace Classifier

variable {c : Classifier} {item text : String} {elapsed : Elapsed} {scores : List Score}

theorem line_eq (c : Classifier) (elapsed : Elapsed) (item : String) (scores : List Score) :
    c.line elapsed item scores = ResultLine.grammar item (c.timing elapsed) (c.rankScores scores) ++
      ResultLine.dangling c.config.topK (c.rankScores scores) := by
  apply ResultLine.format_eq
  rw [length_rankScores]
  exact Nat.min_le_left _ _

theorem singleLine_line (elapsed : Elapsed) (hitem : SingleLine item)
    (hnames : ∀ name ∈ c.classes.names, SingleLine name) (scores : List Score) :
    SingleLine (c.line elapsed item scores) := by
  rw [line_eq]
  refine (ResultLine.singleLine_grammar _ hitem ?_).append (ResultLine.singleLine_dangling _ _)
  intro p hp
  rw [rankScores_eq] at hp
  obtain ⟨e, -, rfl⟩ := List.mem_map.1 hp
  exact ClassNames.newline_notMem_label hnames e.1

theorem prefix_line (c : Classifier) (elapsed : Elapsed) (item : String) (scores : List Score) :
    item.toList <+: (c.line elapsed item scores).toList := by
  rw [line_eq, ResultLine.grammar]
  simp only [String.toList_append, List.append_assoc]
  exact List.prefix_append _ _

/-- The text is what a call for the item gives, if it takes just so long. -/
def Renders (c : Classifier) (item text : String) : Prop :=
  ∃ elapsed, c.process elapsed item = .returned (.ok text)

def classifies (c : Classifier) (item : String) : Bool :=
  match c.classify item with
  | .ranked _ => true
  | .failed _ | .crashed _ => false

theorem Renders.classifies (h : c.Renders item text) : c.classifies item = true := by
  obtain ⟨elapsed, h⟩ := h
  rw [process] at h
  rw [Classifier.classifies]
  split at h <;> simp_all

theorem Renders.exists_line (h : c.Renders item text) :
    ∃ elapsed scores, text = c.line elapsed item scores := by
  obtain ⟨elapsed, h⟩ := h
  obtain ⟨image, scores, hi, hs⟩ := exists_of_process_ok h
  rw [process_eq hi hs] at h
  cases h
  exact ⟨elapsed, scores, rfl⟩

theorem Renders.begins (h : c.Renders item text) : item.toList <+: text.toList := by
  obtain ⟨elapsed, scores, rfl⟩ := h.exists_line
  exact prefix_line c elapsed item scores

theorem Renders.singleLine (h : c.Renders item text) (hitem : SingleLine item)
    (hnames : ∀ name ∈ c.classes.names, SingleLine name) : SingleLine text := by
  obtain ⟨elapsed, scores, rfl⟩ := h.exists_line
  exact singleLine_line elapsed hitem hnames scores

theorem guarded_process (c : Classifier) (elapsed : Elapsed) (item : String) :
    (∃ text, (c.process elapsed item).guarded = .ok text ∧ c.Renders item text) ∨
      ∃ e, (c.process elapsed item).guarded = .error e ∧ c.classifies item = false := by
  cases h : c.classify item with
  | ranked predictions =>
      have hp : c.process elapsed item = .returned (.ok (ResultLine.format item (c.timing elapsed)
          c.config.topK predictions)) := by
        simp only [process, h]
        rfl
      exact .inl ⟨_, by rw [hp]; rfl, elapsed, hp⟩
  | failed e =>
      have hp : c.process elapsed item = .returned (.error e.toItemError) := by simp only [process, h]
      exact .inr ⟨_, by rw [hp]; rfl, by simp only [Classifier.classifies, h]⟩
  | crashed crash =>
      have hp : c.process elapsed item = .crashed crash := by simp only [process, h]
      exact .inr ⟨_, by rw [hp]; rfl, by simp only [Classifier.classifies, h]⟩

end Classifier

end BatchClassifier
