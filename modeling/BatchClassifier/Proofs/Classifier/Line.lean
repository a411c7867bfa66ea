import BatchClassifier.Classifier
import BatchClassifier.Proofs.Ranking.Order
import BatchClassifier.Proofs.Text.Number

namespace BatchClassifier

namespace ResultLine

variable {path : String} {elapsed : Option Elapsed} {k : Nat} {predictions : List (Prediction Score)}

def parts : List String → String
  | [] => ""
  | part :: rest => separator ++ part ++ parts rest

def time (elapsed : Option Elapsed) : List String :=
  match elapsed with
  | some e => [toString e.millis ++ "ms"]
  | none => []

/-- The line with a separator before every part and nowhere else. -/
def grammar (path : String) (elapsed : Option Elapsed) (predictions : List (Prediction Score)) : String :=
  path ++ parts (time elapsed) ++ parts (predictions.map prediction)

theorem separator_intercalate (part : String) (rest : List String) :
    separator ++ separator.intercalate (part :: rest) = parts (part :: rest) := by
  induction rest generalizing part with
  | nil => simp [parts]
  | cons next rest ih => rw [String.intercalate_cons_cons, parts, String.append_assoc, ih, String.append_assoc]

/-- The separator that is written although no prediction follows. -/
def dangling (k : Nat) (predictions : List (Prediction Score)) : String :=
  if k ≠ 0 ∧ predictions = [] then separator else ""

theorem format_eq (h : predictions.length ≤ k) :
    format path elapsed k predictions = grammar path elapsed predictions ++ dangling k predictions := by
  -- The separators stand between the predictions, so one more stands in front of the first.
  have hpause : (if k = 0 then "" else separator) ++ separator.intercalate (predictions.map prediction) =
      parts (predictions.map prediction) ++ dangling k predictions := by
    cases predictions with
    | nil => by_cases hk : k = 0 <;> simp [hk, dangling, parts]
    | cons p rest =>
        have hk : k ≠ 0 := Nat.ne_of_gt (Nat.zero_lt_of_lt h)
        simp [hk, dangling, separator_intercalate]
  cases elapsed <;>
    simp only [format, grammar, time, parts, String.append_assoc, String.append_empty, hpause]

end ResultLine

namespace Classifier

variable {c : Classifier} {path : String} {elapsed : Elapsed} {image : Raster} {scores : List Score}

def weigh (c : Classifier) (scores : List Score) : List Score :=
  if c.config.softmax then softmax scores else scores

def timing (c : Classifier) (elapsed : Elapsed) : Option Elapsed :=
  if c.config.timing then some elapsed else none

@[simp] theorem length_weigh (c : Classifier) (scores : List Score) :
    (c.weigh scores).length = scores.length := by
  rw [weigh]
  split <;> simp

theorem rankScores_eq (c : Classifier) (scores : List Score) :
    c.rankScores scores =
      ((rank (c.weigh scores)).take c.config.topK).map fun e => ⟨c.classes.label e.1, e.2⟩ := rfl

theorem length_rankScores (c : Classifier) (scores : List Score) :
    (c.rankScores scores).length = min c.config.topK scores.length := by
  rw [rankScores_eq, List.length_map, List.length_take, Ranking.length_rank, length_weigh]

def line (c : Classifier) (elapsed : Elapsed) (path : String) (scores : List Score) : String :=
  ResultLine.format path (c.timing elapsed) c.config.topK (c.rankScores scores)

theorem process_eq (hi : c.files.loadImage c.config.maxFileSize path = .ok image)
    (hs : c.model.infer (.ofRaster image c.model.size) = .scores scores) :
    c.process elapsed path = .returned (.ok (c.line elapsed path scores)) := by
  simp only [process, classify, hi, hs]
  rfl

theorem exists_of_process_ok {text : String} (h : c.process elapsed path = .returned (.ok text)) :
    ∃ image scores, c.files.loadImage c.config.maxFileSize path = .ok image ∧
      c.model.infer (.ofRaster image c.model.size) = .scores scores := by
  rw [process, classify] at h
  cases hi : c.files.loadImage c.config.maxFileSize path with
  | error e => simp [hi] at h
  | ok image =>
      cases hs : c.model.infer (.ofRaster image c.model.size) with
      | failed e => simp [hi, hs] at h
      | crashed crash => simp [hi, hs] at h
      | scores scores => exact ⟨image, scores, rfl, hs⟩

theorem dangling_iff (c : Classifier) (scores : List Score) :
    c.config.topK ≠ 0 ∧ c.rankScores scores = [] ↔ c.config.topK ≠ 0 ∧ scores = [] := by
  refine and_congr_right fun hk => ?_
  rw [← List.length_eq_zero_iff, length_rankScores, ← List.length_eq_zero_iff]
  omega

/-- The line of an image is what the grammar says, with as many predictions as there are scores but at
most as many as are asked for. Only if predictions are asked for and the model gives no score at all, a
separator is left over at the end. -/
theorem process_line (elapsed : Elapsed) (hi : c.files.loadImage c.config.maxFileSize path = .ok image)
    (hs : c.model.infer (.ofRaster image c.model.size) = .scores scores) :
    let predictions := ((rank (c.weigh scores)).take c.config.topK).map fun e => ⟨c.classes.label e.1, e.2⟩
    let line := ResultLine.grammar path (c.timing elapsed) predictions
    predictions.length = min c.config.topK scores.length ∧
    (∀ p ∈ predictions, p.confidence.isNaN = false → p.confidence.isInfinite = false →
      Text.Decimal 6 (p.confidence.fixed ResultLine.places).toList) ∧
    c.process elapsed path =
      .returned (.ok (if c.config.topK ≠ 0 ∧ scores = [] then line ++ ResultLine.separator else line)) ∧
    (c.process elapsed path = .returned (.ok line) ↔ c.config.topK = 0 ∨ scores ≠ []) := by
  intro predictions line
  have hlen : predictions.length = min c.config.topK scores.length := length_rankScores c scores
  have hk : predictions.length ≤ c.config.topK := hlen ▸ Nat.min_le_left _ _
  have hline : c.line elapsed path scores = line ++ ResultLine.dangling c.config.topK predictions :=
    ResultLine.format_eq hk
  have hdangling : ResultLine.dangling c.config.topK predictions =
      if c.config.topK ≠ 0 ∧ scores = [] then ResultLine.separator else "" :=
    if_congr (dangling_iff c scores) rfl rfl
  have hprocess : c.process elapsed path = .returned (.ok (c.line elapsed path scores)) := process_eq hi hs
  refine ⟨hlen, fun p _ hn hf => Score.decimal_fixed ResultLine.places hn hf, ?_, ?_⟩
  · rw [hprocess, hline, hdangling]
    split <;> simp
  · rw [hprocess, hline, hdangling]
    simp only [Attempt.returned.injEq, Except.ok.injEq, String.append_eq_left_iff]
    split <;> rename_i h
    · simp [h, ResultLine.separator]
    · simpa [or_iff_not_imp_left] using h

def darkPixel : List UInt8 := [80, 54, 10, 49, 32, 49, 10, 50, 53, 53, 10, 1, 2, 3]

def darkroom : FileTree :=
  ⟨[(["a.ppm".toList], .file darkPixel), (["names".toList], .file [99, 97, 116, 13, 10, 100, 111, 103])]⟩

theorem loadImage_darkroom :
    darkroom.loadImage 104857600 "a.ppm" = .ok ⟨1, 1, ⟨.rgb, false⟩, #[1, 2, 3]⟩ := by
  have hread : darkroom.read? "a.ppm" = some darkPixel := by decide
  have hformat : ImageFormat.ofContent? darkPixel = some .anymap := by decide +kernel
  have hdecode : ImageFormat.anymap.decode darkPixel = .ok ⟨1, 1, ⟨.rgb, false⟩, #[1, 2, 3]⟩ := rfl
  have himage : decodeImage "a.ppm" darkPixel = .ok ⟨1, 1, ⟨.rgb, false⟩, #[1, 2, 3]⟩ := by
    simp only [decodeImage, ImageFormat.determine, hformat]
    exact hdecode
  simp only [FileTree.loadImage, hread, himage]
  rfl

theorem process_line_ranked :
    let c : Classifier :=
      ⟨darkroom, .ofList ["red"], .fixed ⟨8, 8⟩ ([0x3E800000, 0x3F400000].map Float32.ofBits), { timing := true }⟩
    c.process ⟨1, 500000000⟩ "a.ppm" = .returned (.ok "a.ppm, 1500ms, class_1 0.750000, red 0.250000") := by
  intro c
  obtain ⟨-, -, hline, -⟩ := process_line (c := c) ⟨1, 500000000⟩ loadImage_darkroom rfl
  rw [hline]
  exact congrArg (fun text => Attempt.returned (.ok text)) (by decide +kernel)

/-- The model gives no score: the path would be the whole line. -/
theorem separator_left_over :
    let c : Classifier := ⟨darkroom, .ofList ["red", "green", "blue"], .fixed ⟨8, 8⟩ [], {}⟩
    c.process ⟨0, 0⟩ "a.ppm" = .returned (.ok "a.ppm, ") ∧
      ResultLine.grammar "a.ppm" (c.timing ⟨0, 0⟩) (c.rankScores []) = "a.ppm" := by
  intro c
  have hprocess : c.process ⟨0, 0⟩ "a.ppm" = .returned (.ok (c.line ⟨0, 0⟩ "a.ppm" [])) :=
    process_eq loadImage_darkroom rfl
  rw [hprocess]
  exact ⟨congrArg (fun text => Attempt.returned (.ok text)) (by decide +kernel), by decide +kernel⟩

end Classifier

end BatchClassifier
